import ChatOpening.Proofs.Json.Unambiguous
import ChatOpening.Proofs.Json.Written
import ChatOpening.Proofs.Provider.Completions

/-!
# What a provider is asked

The prompt and the name of the model are texts that anybody may have written.  They stand in the JSON object that is posted
as texts between quotation marks, and the object has the same members whatever they are.

**Input.**  Any provider, any model and any prompt.

**Definitions.**
* `IsPrompt`: the tree is the object that asks a provider for a completion, with the model and the prompt in their places.
* `promptMembers`: its members in the order of their keys.

**Results.**
* `exists_prompt_layout`: what is written for a prompt spells such an object.
* `means_of_isPrompt`: such an object means its members.
* `content_of_mem_complete`: a completion posts what is written for its prompt, or nothing.
* `written_prompted_reads_back`: model and prompt can be told from what is posted, and nothing else can.
-/

namespace ChatOpening

open Json

open Http (Network Outgoing Reply Final ExchangeFault)

section Numbers

/-- The numeral of the temperature. -/
def temperature : Numeral :=
  ⟨false, [0x31], some [0x30], none⟩

/-- The numeral of the most tokens. -/
def mostTokens : Numeral :=
  ⟨false, [0x32, 0x30, 0x34, 0x38], none, none⟩

theorem spelled_temperature : NumeralSpelled temperature (Text.bytes Binary64.one.written) := by
  have hbytes : Text.bytes Binary64.one.written = [0x31, 0x2E, 0x30] := rfl
  rw [hbytes]
  exact ⟨[0x2E, 0x30], [], ⟨by decide, by decide⟩, ⟨by decide, rfl⟩, rfl, rfl⟩

theorem value_temperature : temperature.value = .ok (.fraction Binary64.one) := by
  have hvalue : temperature.value.toOption = some (.fraction Binary64.one) := by
    decide +kernel
  cases h : temperature.value with
  | error beyond =>
    rw [h] at hvalue
    cases hvalue
  | ok x =>
    rw [h] at hvalue
    cases hvalue
    rfl

theorem spelled_mostTokens : NumeralSpelled mostTokens (Text.bytes (toString (Provider.mostTokens : Int))) := by
  have hbytes : Text.bytes (toString (Provider.mostTokens : Int)) = [0x32, 0x30, 0x34, 0x38] := rfl
  rw [hbytes]
  exact ⟨[], [], ⟨by decide, by decide⟩, rfl, rfl, rfl⟩

theorem value_mostTokens : mostTokens.value = .ok (.integer Provider.mostTokens) := by
  rfl

end Numbers

section Layouts

variable {provider : Provider} {model prompt : String} {t : Tree} {levels : Nat}

/-- The tree is the object that asks the provider: these members in this order, each once. -/
def IsPrompt (model prompt : String) : Provider → Tree → Prop
  | .ollama, t =>
    ∃ asked said, t.IsObject [("model", asked), ("prompt", said), ("stream", .truth false)] ∧
      asked.MeansText model ∧ said.MeansText prompt
  | .openai, t =>
    ∃ asked turn role said,
      t.IsObject [("model", asked), ("messages", .array [turn]), ("temperature", .number temperature),
        ("max_completion_tokens", .number mostTokens), ("store", .truth false)] ∧
      turn.IsObject [("role", role), ("content", said)] ∧
      asked.MeansText model ∧ role.MeansText "user" ∧ said.MeansText prompt

/-- The members of the object in the order of their keys. -/
def promptMembers (model prompt : String) : Provider → List (String × Value)
  | .ollama => [("model", .text model), ("prompt", .text prompt), ("stream", .truth false)]
  | .openai =>
    [("max_completion_tokens", .number (.integer 2048)),
      ("messages", .array [.object [("content", .text prompt), ("role", .text "user")]]),
      ("model", .text model),
      ("store", .truth false),
      ("temperature", .number (.fraction Binary64.one))]

/-- Every text is written as a tree that means it. -/
theorem exists_text_written (s : String) : ∃ t : Tree, t.WrittenAs (writtenText s) ∧ t.MeansText s := by
  obtain ⟨ps, hps, hs⟩ := exists_pieces_writtenText s
  exact ⟨.text ps, hps, ps, rfl, hs⟩

/-- What is written for a prompt spells the object that asks for it. -/
theorem exists_prompt_layout (provider : Provider) (model prompt : String) :
    ∃ t : Tree, t.WrittenAs (provider.prompted model prompt).written ∧ IsPrompt model prompt provider t := by
  obtain ⟨asked, hasked, hmodel⟩ := exists_text_written model
  obtain ⟨said, hsaid, hprompt⟩ := exists_text_written prompt
  have hfalse : (Tree.truth false).WrittenAs (writtenTruth false) := rfl
  cases provider with
  | ollama =>
    obtain ⟨t, ht, hmembers⟩ := exists_object_written
      (.cons ⟨rfl, hasked⟩ (.cons ⟨rfl, hsaid⟩ (.cons ⟨rfl, hfalse⟩ .nil)) :
        Entries Tree.WrittenAs [("model", asked), ("prompt", said), ("stream", .truth false)]
          [("model", writtenText model), ("prompt", writtenText prompt), ("stream", writtenTruth false)])
    exact ⟨t, ht, asked, said, hmembers, hmodel, hprompt⟩
  | openai =>
    obtain ⟨role, hrole, huser⟩ := exists_text_written "user"
    obtain ⟨turn, hturn, hsides⟩ := exists_object_written
      (.cons ⟨rfl, hrole⟩ (.cons ⟨rfl, hsaid⟩ .nil) :
        Entries Tree.WrittenAs [("role", role), ("content", said)]
          [("role", writtenText "user"), ("content", writtenText prompt)])
    have hturns : (Tree.array [turn]).WrittenAs _ := writtenAs_array (.cons hturn .nil)
    have hwarm : (Tree.number temperature).WrittenAs Binary64.one.written := spelled_temperature
    have hmost : (Tree.number mostTokens).WrittenAs (toString (Provider.mostTokens : Int)) := spelled_mostTokens
    obtain ⟨t, ht, hmembers⟩ := exists_object_written
      (.cons ⟨rfl, hasked⟩ (.cons ⟨rfl, hturns⟩ (.cons ⟨rfl, hwarm⟩ (.cons ⟨rfl, hmost⟩ (.cons ⟨rfl, hfalse⟩ .nil)))) :
        Entries Tree.WrittenAs
          [("model", asked), ("messages", .array [turn]), ("temperature", .number temperature),
            ("max_completion_tokens", .number mostTokens), ("store", .truth false)]
          [("model", writtenText model), ("messages", _), ("temperature", Binary64.one.written),
            ("max_completion_tokens", toString (Provider.mostTokens : Int)), ("store", writtenTruth false)])
    exact ⟨t, ht, asked, turn, role, said, hmembers, hsides, hmodel, huser, hprompt⟩

theorem means_of_meansText {s : String} (h : t.MeansText s) : t.Means levels (.text s) := by
  obtain ⟨inner, hinner⟩ := exists_meansOver levels
  obtain ⟨ps, rfl, hs⟩ := h
  exact hinner ▸ .text hs

theorem means_number {n : Numeral} {x : Number} (h : n.value = .ok x) : (Tree.number n).Means levels (.number x) := by
  obtain ⟨inner, hinner⟩ := exists_meansOver levels
  exact hinner ▸ .number h

theorem means_truth (b : Bool) : (Tree.truth b).Means levels (.truth b) := by
  obtain ⟨inner, hinner⟩ := exists_meansOver levels
  exact hinner ▸ .truth b

/-- An object means its gathered members, one level deeper. -/
theorem means_object {es : List (String × Tree)} {vs : List (String × Value)} (ht : t.IsObject es)
    (h : Entries (Tree.Means levels) es vs) : t.Means (levels + 1) (.object (gathered putMember [] vs)) := by
  obtain ⟨ms, rfl, hes⟩ := ht
  exact .object rfl hes h

theorem gathered_ollama :
    gathered putMember [] [("model", .text model), ("prompt", .text prompt), ("stream", .truth false)] =
      promptMembers model prompt .ollama := by
  simp +decide only [gathered, putMember, putEntry, promptMembers, List.foldl_cons, List.foldl_nil, if_false]

theorem gathered_turn :
    gathered putMember [] [("role", .text "user"), ("content", .text prompt)] =
      [("content", .text prompt), ("role", .text "user")] := by
  simp +decide only [gathered, putMember, putEntry, List.foldl_cons, List.foldl_nil, if_true, if_false]

theorem gathered_openai {turns warm most : Value} :
    gathered putMember []
        [("model", .text model), ("messages", turns), ("temperature", warm), ("max_completion_tokens", most),
          ("store", .truth false)] =
      [("max_completion_tokens", most), ("messages", turns), ("model", .text model), ("store", .truth false),
        ("temperature", warm)] := by
  simp +decide only [gathered, putMember, putEntry, List.foldl_cons, List.foldl_nil, if_true, if_false]

/-- The object means its members, of which readers keep the order of the keys. -/
theorem means_of_isPrompt (h : IsPrompt model prompt provider t) :
    t.Means (levels + 3) (.object (promptMembers model prompt provider)) := by
  cases provider with
  | ollama =>
    obtain ⟨asked, said, ht, hmodel, hprompt⟩ := h
    have hmembers : Entries (Tree.Means (levels + 2))
        [("model", asked), ("prompt", said), ("stream", .truth false)]
        [("model", .text model), ("prompt", .text prompt), ("stream", .truth false)] :=
      .cons ⟨rfl, means_of_meansText hmodel⟩ (.cons ⟨rfl, means_of_meansText hprompt⟩
        (.cons ⟨rfl, means_truth false⟩ .nil))
    exact gathered_ollama ▸ means_object ht hmembers
  | openai =>
    obtain ⟨asked, turn, role, said, ht, hturn, hmodel, hrole, hprompt⟩ := h
    have hsides : Entries (Tree.Means levels) [("role", role), ("content", said)]
        [("role", .text "user"), ("content", .text prompt)] :=
      .cons ⟨rfl, means_of_meansText hrole⟩ (.cons ⟨rfl, means_of_meansText hprompt⟩ .nil)
    have hturns : (Tree.array [turn]).Means (levels + 2)
        (.array [.object [("content", .text prompt), ("role", .text "user")]]) :=
      .array rfl (.cons (gathered_turn ▸ means_object hturn hsides) .nil)
    have hmembers : Entries (Tree.Means (levels + 2))
        [("model", asked), ("messages", .array [turn]), ("temperature", .number temperature),
          ("max_completion_tokens", .number mostTokens), ("store", .truth false)]
        [("model", .text model), ("messages", .array [.object [("content", .text prompt), ("role", .text "user")]]),
          ("temperature", .number (.fraction Binary64.one)), ("max_completion_tokens", .number (.integer 2048)),
          ("store", .truth false)] :=
      .cons ⟨rfl, means_of_meansText hmodel⟩ (.cons ⟨rfl, hturns⟩ (.cons ⟨rfl, means_number value_temperature⟩
        (.cons ⟨rfl, means_number value_mostTokens⟩ (.cons ⟨rfl, means_truth false⟩ .nil))))
    have hobject := means_object ht hmembers
    rwa [gathered_openai] at hobject

end Layouts

section Contents

variable {network : Network} {left : Nat} {past : List Outgoing} {first q : Outgoing}
  {hops : List (Outgoing × Reply)} {result : Except ExchangeFault Final} {place content : String}
  {authorization : Option String}

/-- A redirect keeps the body or drops it. -/
theorem redirected_content {status : Nat} {target : Url} :
    (first.redirected status target).content = none ∨ (first.redirected status target).content = first.content := by
  rw [Outgoing.redirected]
  split
  · exact .inr rfl
  · exact .inl rfl

/-- No request of a run has another content than the first one. -/
theorem content_of_follows (h : Http.Follows network left past first hops result) (hq : q ∈ hops.map Prod.fst) :
    q.content = none ∨ q.content = first.content := by
  induction h with
  | unanswered => cases hq
  | final | exhausted | unsupported =>
    rw [List.map_cons, List.map_nil, List.mem_singleton] at hq
    exact .inr (congrArg Outgoing.content hq)
  | hop _ _ _ _ ih =>
    rw [List.map_cons, List.mem_cons] at hq
    rcases hq with rfl | hq
    · exact .inr rfl
    · rcases ih hq with hnone | hsame
      · exact .inl hnone
      · exact redirected_content.imp hsame.trans hsame.trans

theorem first_of_head (h : Http.Follows network left past first hops result) (hq : (hops.map Prod.fst).head? = some q) :
    q = first := by
  rw [List.head?_map, Option.map_eq_some_iff] at hq
  obtain ⟨⟨_, p⟩, hhop, rfl⟩ := hq
  rw [List.head?_eq_getElem?] at hhop
  exact h.begins hhop

/-- A post carries its content. -/
theorem content_of_post {r : Outgoing} (h : Outgoing.post place authorization content = .ok r) :
    r.method = .post ∧ r.content = some content := by
  rw [Outgoing.post] at h
  split at h
  · cases h
  split at h
  · cases h
    exact ⟨rfl, rfl⟩
  · cases h

variable {c : Client} {prompt : String}

/-- The answered requests of a completion are those that follow from the post of its prompt. -/
theorem exists_follows_of_complete (hq : q ∈ (c.complete network past prompt).2) :
    ∃ r hops result,
      Outgoing.post c.place c.authorization (c.provider.prompted c.model prompt).written = .ok r ∧
      Http.Follows network Http.mostRedirects past r hops result ∧
      (c.complete network past prompt).2 = hops.map Prod.fst := by
  rw [complete_requests] at hq ⊢
  cases hpost : Outgoing.post c.place c.authorization (c.provider.prompted c.model prompt).written with
  | error fault =>
    rw [Network.post, hpost] at hq
    cases hq
  | ok r =>
    obtain ⟨hops, hfollows, hrequests⟩ := Http.exists_follows network Http.mostRedirects past r
    exact ⟨r, hops, _, rfl, hfollows, (post_of_request network past hpost).1.trans hrequests⟩

/-- A completion posts what is written for its prompt first, and sends no other content later. -/
theorem content_of_mem_complete (hq : q ∈ (c.complete network past prompt).2) :
    (q.content = none ∨ q.content = some (c.provider.prompted c.model prompt).written) ∧
    ((c.complete network past prompt).2.head? = some q →
      q.method = .post ∧ q.content = some (c.provider.prompted c.model prompt).written) := by
  obtain ⟨r, hops, result, hpost, hfollows, hrequests⟩ := exists_follows_of_complete hq
  obtain ⟨hmethod, hcontent⟩ := content_of_post hpost
  rw [hrequests] at hq ⊢
  constructor
  · exact hcontent ▸ content_of_follows hfollows hq
  · intro hhead
    obtain rfl := first_of_head hfollows hhead
    exact ⟨hmethod, hcontent⟩

end Contents

section Prompts

variable {provider : Provider} {model model' prompt prompt' : String}

/-- The model and the prompt can be told from the members. -/
theorem promptMembers_inj (h : promptMembers model prompt provider = promptMembers model' prompt' provider) :
    model = model' ∧ prompt = prompt' := by
  cases provider with
  | ollama => simpa [promptMembers] using h
  | openai => simpa [promptMembers, and_comm] using h

/-- The posted text is read as its members. -/
theorem decode_prompted (tracking : Tracking) (provider : Provider) (model prompt : String) :
    Schema.object.decode tracking (Text.bytes (provider.prompted model prompt).written) =
      .ok (promptMembers model prompt provider) := by
  obtain ⟨t, ht, hprompt⟩ := exists_prompt_layout provider model prompt
  have hfits : Schema.object.Fits deepest t (promptMembers model prompt provider) :=
    fits_object_of_means (means_of_isPrompt hprompt)
  exact (Schema.decode_eq_ok_iff_fits (Text.isText_bytes _)).2 ⟨t, isDocument_of_writtenAs ht, hfits⟩

/-- What is posted for a prompt is a JSON text of one object with the members of its provider, each once, in which the model
and the prompt are the given ones and everything else is always the same; it is read back as these members.  Two posts are
the same only if their models and their prompts are.  A completion posts this text first, and sends no other content. -/
theorem written_prompted_reads_back (provider : Provider) (model prompt : String) :
    (∃ t, IsDocument (Text.bytes (provider.prompted model prompt).written) t) ∧
    (∀ t, IsDocument (Text.bytes (provider.prompted model prompt).written) t → IsPrompt model prompt provider t) ∧
    (∀ tracking, Schema.object.decode tracking (Text.bytes (provider.prompted model prompt).written) =
      .ok (promptMembers model prompt provider)) ∧
    (∀ model' prompt' : String, (provider.prompted model' prompt').written = (provider.prompted model prompt).written →
      model' = model ∧ prompt' = prompt) ∧
    ∀ (network : Network) (past : List Outgoing) (baseUrl : String) (key : Option String),
      ∀ q ∈ (Client.complete network past ⟨provider, model, baseUrl, key⟩ prompt).2,
        (q.content = none ∨ q.content = some (provider.prompted model prompt).written) ∧
        ((Client.complete network past ⟨provider, model, baseUrl, key⟩ prompt).2.head? = some q →
          q.method = .post ∧ q.content = some (provider.prompted model prompt).written) := by
  obtain ⟨t, hwritten, hprompt⟩ := exists_prompt_layout provider model prompt
  have ht : IsDocument (Text.bytes (provider.prompted model prompt).written) t := isDocument_of_writtenAs hwritten
  refine ⟨⟨t, ht⟩, ?_, fun tracking => decode_prompted tracking provider model prompt, ?_, ?_⟩
  · intro u hu
    exact isDocument_unique ht hu ▸ hprompt
  · intro model' prompt' hsame
    have hread := decode_prompted .off provider model' prompt'
    rw [hsame, decode_prompted] at hread
    obtain ⟨hmodel, hprompts⟩ := promptMembers_inj (Except.ok.inj hread)
    exact ⟨hmodel.symm, hprompts.symm⟩
  · intro network past baseUrl key q hq
    exact content_of_mem_complete hq

end Prompts

end ChatOpening
