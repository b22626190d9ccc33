import ChatOpening.Proofs.Json.Arranged
import ChatOpening.Proofs.Json.Documents
import ChatOpening.Proofs.Provider.Completions

/-!
# What becomes of a reply

A completion comes from the final reply to a request.  Its status is looked at first, then its body as a whole, and the
first text that the body offers is the completion.

**Input.**  Any network, any requests before, any client and any prompt.

**Definitions.**
* `IsChoice`: the tree is a choice with this content.
* `Provider.Offers`: the tree is what a provider replies, and these are the texts in it.
* `Provider.Answers`: so is the tree of the body, in which stray bytes count as surrogates without partner.

**Results.**
* `completion_of_answers`, `completion_of_not_answers`: what is taken out of a body.
* `complete_of_final`: what becomes of a final reply.
* `complete_answers_reply`: when there is a completion, which one it is, and what is logged.
-/

namespace ChatOpening

open Json

open Http (Network Outgoing Reply Final ExchangeFault)

/-- The tree is a record with a message, a record of two texts: the role, which may be any, and the content. -/
def IsChoice (t : Tree) (content : String) : Prop :=
  ∃ message role said s, t.HasFields ["message"] [message] ∧ message.HasFields ["role", "content"] [role, said] ∧
    role.MeansText s ∧ said.MeansText content

namespace Provider

/-- The texts in a reply: the only one that is generated, or the contents of all choices in their order. -/
def Offers : Provider → Tree → List String → Prop
  | ollama, t, contents => ∃ said s, t.HasFields ["response"] [said] ∧ said.MeansText s ∧ contents = [s]
  | openai, t, contents => ∃ ts, t.HasFields ["choices"] [.array ts] ∧ List.Forall₂ IsChoice ts contents

/-- The body is a JSON text with these texts, where each stray byte counts as an escaped surrogate without partner. -/
def Answers (provider : Provider) (body : Bytes) (contents : List String) : Prop :=
  ∃ t, IsDocument (Text.marked body) t ∧ provider.Offers t contents

end Provider

instance : Described.Faithful Generated where
  toCarrier_ofCarrier _ := rfl

instance : Described.Faithful Choice where
  toCarrier_ofCarrier _ := rfl

instance : Described.Faithful Choices where
  toCarrier_ofCarrier v := Prod.ext (@map_toCarrier_ofCarrier Choice _ _ v.1) rfl

section Bodies

variable {provider : Provider} {body : Bytes} {contents : List String} {t : Tree} {levels : Nat}

/-- A reply of the first provider has a text in one field. -/
theorem presents_generated_iff {g : Generated} :
    t.Presents g ↔ ∃ said, t.HasFields ["response"] [said] ∧ said.MeansText g.response := by
  refine (Schema.fits_record_iff (by exact ⟨rfl, trivial⟩) (by decide)).trans ?_
  constructor
  · rintro ⟨_, hfields, said, _, rfl, hsaid, rfl⟩
    exact ⟨said, hfields, hsaid⟩
  · rintro ⟨said, hfields, hsaid⟩
    exact ⟨_, hfields, said, _, rfl, hsaid, rfl⟩

/-- The tree is a choice with this turn. -/
def HasTurn (t : Tree) (turn : Turn) : Prop :=
  ∃ message role said, t.HasFields ["message"] [message] ∧ message.HasFields ["role", "content"] [role, said] ∧
    role.MeansText turn.role ∧ said.MeansText turn.content

/-- A choice has a turn in its message. -/
theorem fits_choice_iff {choice : Choice} :
    Completion.choiceSchema.Fits (levels + 2) t (Described.toCarrier choice) ↔ HasTurn t choice.message := by
  refine (Schema.fits_record_iff (by exact ⟨rfl, trivial⟩) (by decide)).trans ?_
  constructor
  · rintro ⟨_, hfields, message, _, rfl, hmessage, rfl⟩
    obtain ⟨_, hsides, role, _, rfl, hrole, said, _, rfl, hsaid, rfl⟩ :=
      (Schema.fits_record_iff (by exact ⟨rfl, rfl, trivial⟩) (by decide)).1 hmessage
    exact ⟨message, role, said, hfields, hsides, hrole, hsaid⟩
  · rintro ⟨message, role, said, hfields, hsides, hrole, hsaid⟩
    refine ⟨_, hfields, message, _, rfl, ?_, rfl⟩
    exact (Schema.fits_record_iff (by exact ⟨rfl, rfl, trivial⟩) (by decide)).2
      ⟨_, hsides, role, _, rfl, hrole, said, _, rfl, hsaid, rfl⟩

/-- A reply of the second provider has a list of choices. -/
theorem presents_choices_iff {o : Choices} :
    t.Presents o ↔ ∃ ts, t.HasFields ["choices"] [.array ts] ∧
      List.Forall₂ (fun u choice => HasTurn u choice.message) ts o.choices := by
  refine (Schema.fits_record_iff (by exact ⟨rfl, trivial⟩) (by decide)).trans ?_
  constructor
  · rintro ⟨_, hfields, choices, _, rfl, ⟨_, hlevels, ts, rfl, hts⟩, rfl⟩
    cases hlevels
    refine ⟨ts, hfields, ?_⟩
    exact (List.forall₂_map_right_iff.1 hts).imp fun _ _ => fits_choice_iff.1
  · rintro ⟨ts, hfields, hts⟩
    refine ⟨_, hfields, .array ts, _, rfl, ⟨_, rfl, ts, rfl, ?_⟩, rfl⟩
    exact List.forall₂_map_right_iff.2 (hts.imp fun _ _ => fits_choice_iff.2)

/-- Choices with these contents, whatever their roles are. -/
theorem exists_choices_iff {ts : List Tree} :
    (∃ choices : List Choice, List.Forall₂ (fun u choice => HasTurn u choice.message) ts choices ∧
      choices.map (fun choice => choice.message.content) = contents) ↔ List.Forall₂ IsChoice ts contents := by
  constructor
  · rintro ⟨choices, hchoices, rfl⟩
    refine List.forall₂_map_right_iff.2 (hchoices.imp fun u choice => ?_)
    rintro ⟨message, role, said, hfields, hsides, hrole, hsaid⟩
    exact ⟨message, role, said, _, hfields, hsides, hrole, hsaid⟩
  · intro h
    induction h with
    | nil => exact ⟨[], .nil, rfl⟩
    | @cons u content _ _ hu _ ih =>
      obtain ⟨message, role, said, s, hfields, hsides, hrole, hsaid⟩ := hu
      obtain ⟨choices, hchoices, rfl⟩ := ih
      exact ⟨⟨⟨s, content⟩⟩ :: choices, .cons ⟨message, role, said, hfields, hsides, hrole, hsaid⟩ hchoices, rfl⟩

theorem ollama_answers_iff :
    Provider.ollama.Answers body contents ↔ ∃ g, decode Generated body = .ok g ∧ [g.response] = contents := by
  simp only [decode, decodeWith_eq_ok_iff_marked, presents_generated_iff]
  constructor
  · rintro ⟨t, ht, said, s, hfields, hsaid, rfl⟩
    exact ⟨⟨s⟩, ⟨t, ht, said, hfields, hsaid⟩, rfl⟩
  · rintro ⟨g, ⟨t, ht, said, hfields, hsaid⟩, rfl⟩
    exact ⟨t, ht, said, g.response, hfields, hsaid, rfl⟩

theorem openai_answers_iff :
    Provider.openai.Answers body contents ↔
      ∃ o, decode Choices body = .ok o ∧ o.choices.map (fun choice => choice.message.content) = contents := by
  simp only [decode, decodeWith_eq_ok_iff_marked, presents_choices_iff]
  constructor
  · rintro ⟨t, ht, ts, hfields, hts⟩
    obtain ⟨choices, hchoices, hcontents⟩ := exists_choices_iff.2 hts
    exact ⟨⟨choices⟩, ⟨t, ht, ts, hfields, hchoices⟩, hcontents⟩
  · rintro ⟨o, ⟨t, ht, ts, hfields, hts⟩, hcontents⟩
    exact ⟨t, ht, ts, hfields, exists_choices_iff.1 ⟨o.choices, hts, hcontents⟩⟩

/-- The first of the texts, if there is any. -/
def firstOf : List String → Except CompletionFault Completion
  | [] => .error .noChoices
  | s :: _ => .ok ⟨s⟩

/-- Of the texts in a body the first one is taken. -/
theorem completion_of_answers (h : provider.Answers body contents) : provider.completion body = firstOf contents := by
  cases provider with
  | ollama =>
    obtain ⟨g, hg, rfl⟩ := ollama_answers_iff.1 h
    simp only [Provider.completion, hg, firstOf]
  | openai =>
    obtain ⟨⟨choices⟩, ho, rfl⟩ := openai_answers_iff.1 h
    simp only [Provider.completion, ho]
    cases choices with
    | nil => rfl
    | cons first others => rfl

/-- Any other body cannot be decoded. -/
theorem completion_of_not_answers (h : ∀ contents, ¬ provider.Answers body contents) :
    provider.completion body = .error .undecodable := by
  cases provider with
  | ollama =>
    simp only [Provider.completion]
    cases hread : decode Generated body with
    | ok g => exact absurd (ollama_answers_iff.2 ⟨g, hread, rfl⟩) (h _)
    | error report => rfl
  | openai =>
    simp only [Provider.completion]
    cases hread : decode Choices body with
    | ok o => exact absurd (openai_answers_iff.2 ⟨o, hread, rfl⟩) (h _)
    | error report => rfl

/-- A body answers, and the first content is taken; or it does not, and it is undecodable. -/
theorem completion_cases (provider : Provider) (body : Bytes) :
    (∃ contents, provider.Answers body contents ∧ provider.completion body = firstOf contents) ∨
      (∀ contents, ¬ provider.Answers body contents) ∧ provider.completion body = .error .undecodable := by
  by_cases h : ∃ contents, provider.Answers body contents
  · obtain ⟨contents, hcontents⟩ := h
    exact .inl ⟨contents, hcontents, completion_of_answers hcontents⟩
  · exact .inr ⟨not_exists.1 h, completion_of_not_answers (not_exists.1 h)⟩

/-- The completion is the first content of the answer. -/
theorem completion_eq_ok_iff {s : String} :
    provider.completion body = .ok ⟨s⟩ ↔ ∃ more, provider.Answers body (s :: more) := by
  constructor
  · intro h
    rcases completion_cases provider body with ⟨contents, hcontents, hfirst⟩ | ⟨-, hnone⟩
    · cases contents with
      | nil => cases hfirst.symm.trans h
      | cons first more =>
        cases hfirst.symm.trans h
        exact ⟨more, hcontents⟩
    · cases hnone.symm.trans h
  · rintro ⟨more, hmore⟩
    exact completion_of_answers hmore

/-- Only an answer without contents has no choices. -/
theorem completion_eq_noChoices_iff : provider.completion body = .error .noChoices ↔ provider.Answers body [] := by
  refine ⟨fun h => ?_, completion_of_answers⟩
  rcases completion_cases provider body with ⟨contents, hcontents, hfirst⟩ | ⟨-, hnone⟩
  · cases contents with
    | nil => exact hcontents
    | cons first more => cases hfirst.symm.trans h
  · cases hnone.symm.trans h

/-- A body is undecodable if it answers nothing. -/
theorem completion_eq_undecodable_iff :
    provider.completion body = .error .undecodable ↔ ∀ contents, ¬ provider.Answers body contents := by
  refine ⟨fun h contents hcontents => ?_, completion_of_not_answers⟩
  rw [completion_of_answers hcontents] at h
  cases contents with
  | nil => cases h
  | cons first more => cases h

end Bodies

section Replies

variable {network : Network} {past : List Outgoing} {c : Client} {prompt place content : String}
  {authorization : Option String} {first : Outgoing} {url : Url} {reply : Reply} {body : Bytes}

/-- The statuses that are refused are those of clients and servers. -/
theorem refuses_iff {status : Nat} :
    (ExchangeFault.isClientStatus status || ExchangeFault.isServerStatus status) = true ↔ 400 ≤ status ∧ status < 600 := by
  simp only [ExchangeFault.isClientStatus, ExchangeFault.isServerStatus, Bool.or_eq_true, Bool.and_eq_true,
    decide_eq_true_eq]
  omega

/-- The status goes before the body. -/
theorem post_of_final (hpost : Outgoing.post place authorization content = .ok first)
    (hfinal : (network.follow Http.mostRedirects past first).1 = .ok ⟨url, reply⟩) :
    (network.post past place authorization content).1 =
      if 400 ≤ reply.status ∧ reply.status < 600 then .error (.refused reply.status reply.reason url)
      else .ok reply.body := by
  rcases hfollow : network.follow Http.mostRedirects past first with ⟨result, requests⟩
  rw [hfollow] at hfinal
  obtain rfl : result = .ok ⟨url, reply⟩ := hfinal
  simp only [Network.post, hpost, hfollow, refuses_iff]
  split
  · rfl
  · rfl

/-- What is posted successfully is completed by its body. -/
theorem complete_of_ok
    (h : (network.post past c.place c.authorization (c.provider.prompted c.model prompt).written).1 = .ok body) :
    (c.complete network past prompt).1.1 = c.provider.completion body := by
  delta Client.complete
  rcases hpost : network.post past c.place c.authorization (c.provider.prompted c.model prompt).written with
    ⟨result, requests⟩
  rw [hpost] at h
  obtain rfl : result = .ok body := h
  cases hread : c.provider.completion body with
  | error fault => simp only [hread, Journal.Logged.quiet]
  | ok completion => simp only [hread, Journal.Logged.ok]

/-- A completion is logged, and nothing else is. -/
theorem complete_logs (network : Network) (past : List Outgoing) (c : Client) (prompt : String) :
    (c.complete network past prompt).1.2 =
      match (c.complete network past prompt).1.1 with
      | .ok completion => [c.completed completion]
      | .error _ => [] := by
  delta Client.complete
  rcases network.post past c.place c.authorization (c.provider.prompted c.model prompt).written with ⟨_ | body, requests⟩
  · rfl
  · dsimp only
    split
    · rfl
    · rfl

/-- What becomes of a final reply. -/
theorem complete_of_final
    (hpost : Outgoing.post c.place c.authorization (c.provider.prompted c.model prompt).written = .ok first)
    (hfinal : (network.follow Http.mostRedirects past first).1 = .ok ⟨url, reply⟩) :
    (c.complete network past prompt).1.1 =
      if 400 ≤ reply.status ∧ reply.status < 600 then .error (.exchange (.refused reply.status reply.reason url))
      else c.provider.completion reply.body := by
  have hposted := post_of_final hpost hfinal
  split at hposted
  · next hrefusal =>
    rw [if_pos hrefusal]
    exact complete_of_error hposted
  · next hrefusal =>
    rw [if_neg hrefusal]
    exact complete_of_ok hposted

/-- Without a final reply there is no completion. -/
theorem exists_final_of_ok {completion : Completion}
    (hpost : Outgoing.post c.place c.authorization (c.provider.prompted c.model prompt).written = .ok first)
    (h : (c.complete network past prompt).1.1 = .ok completion) :
    ∃ final, (network.follow Http.mostRedirects past first).1 = .ok final := by
  cases hfollow : (network.follow Http.mostRedirects past first).1 with
  | ok final => exact ⟨final, rfl⟩
  | error fault =>
    rw [complete_of_error ((post_of_request network past hpost).2 fault hfollow)] at h
    cases h

/-- The answer of a document is what its tree offers. -/
theorem answers_document_iff {provider : Provider} {t : Tree} {contents : List String} (ht : IsDocument body t) :
    provider.Answers body contents ↔ provider.Offers t contents := by
  rw [Provider.Answers, Text.marked_of_isText (isText_of_isDocument ht)]
  constructor
  · rintro ⟨u, hu, hcontents⟩
    rwa [isDocument_unique ht hu]
  · intro hcontents
    exact ⟨t, ht, hcontents⟩

/-- A choice that is malformed spoils the others. -/
theorem not_answers_of_malformed {t u : Tree} {ts : List Tree} {contents : List String}
    (ht : IsDocument (Text.marked body) t) (hts : t.HasFields ["choices"] [.array ts]) (hu : u ∈ ts)
    (hmalformed : ∀ content, ¬ IsChoice u content) : ¬ Provider.openai.Answers body contents := by
  rintro ⟨t', ht', ts', hts', hchoices⟩
  cases isDocument_unique ht ht'
  cases hasFields_unique hts hts'
  obtain ⟨content, -, hcontent⟩ := exists_of_mem_right hchoices.flip hu
  exact hmalformed content hcontent

/-- A completion makes one record, which counts the bytes of the text in UTF-8, and a fault makes none.

If a request that is made because of the first one gets a final reply, the status of the reply goes first: from 400 to
599 it is the fault, whatever the body is.  With any other status the completion is the first of the texts that the body
offers; there are no choices if it offers none, and the body is undecodable if it is no JSON text that offers any.  One
malformed choice is enough for that.  In a body that is a JSON text, stray bytes do not occur, and its tree says what it
offers. -/
theorem complete_answers_reply (network : Network) (past : List Outgoing) (c : Client) (prompt : String) :
    (∀ s, (c.complete network past prompt).1.1 = .ok ⟨s⟩ → (c.complete network past prompt).1.2 =
      [⟨.debug, c.provider.origin,
        s!"{c.provider.title} model {c.model} returned {(Text.bytes s).length} chars"⟩]) ∧
    (∀ fault, (c.complete network past prompt).1.1 = .error fault → (c.complete network past prompt).1.2 = []) ∧
    ∀ first k before q reply, c.Starts prompt first → k ≤ 10 → Http.Sends network past first k before q →
      network before q = some reply → (∀ target, ¬ Http.LeadsTo q reply target) →
        (∀ s, (c.complete network past prompt).1.1 = .ok ⟨s⟩ ↔
          ¬ (400 ≤ reply.status ∧ reply.status < 600) ∧ ∃ more, c.provider.Answers reply.body (s :: more)) ∧
        (400 ≤ reply.status ∧ reply.status < 600 →
          (c.complete network past prompt).1.1 = .error (.exchange (.refused reply.status reply.reason q.url))) ∧
        (¬ (400 ≤ reply.status ∧ reply.status < 600) →
          ((c.complete network past prompt).1.1 = .error .noChoices ↔ c.provider.Answers reply.body []) ∧
          ((c.complete network past prompt).1.1 = .error .undecodable ↔
            ∀ contents, ¬ c.provider.Answers reply.body contents) ∧
          ∀ t ts u, c.provider = .openai → IsDocument (Text.marked reply.body) t →
            t.HasFields ["choices"] [.array ts] → u ∈ ts → (∀ content, ¬ IsChoice u content) →
            (c.complete network past prompt).1.1 = .error .undecodable) ∧
        ∀ t, IsDocument reply.body t → ∀ contents,
          (c.provider.Answers reply.body contents ↔ c.provider.Offers t contents) := by
  have hlogs := complete_logs network past c prompt
  refine ⟨?completed, ?failed, ?answered⟩
  case completed =>
    intro s hs
    rw [hlogs, hs, Text.length_bytes]
    rfl
  case failed =>
    intro fault hfault
    rw [hlogs, hfault]
  case answered =>
    intro first k before q reply hstarts hk hmade hreply hlast
    have hfinal : (network.follow Http.mostRedirects past first).1 = .ok ⟨q.url, reply⟩ :=
      Http.follow_eq_ok_iff.2 ⟨k, before, q, hk, hmade, hreply, rfl, hlast⟩
    have hresult := complete_of_final hstarts.posted hfinal
    refine ⟨?_, ?_, ?_, fun _ ht _ => answers_document_iff ht⟩
    · intro s
      by_cases hrefusal : 400 ≤ reply.status ∧ reply.status < 600
      · rw [hresult, if_pos hrefusal]
        simp [hrefusal]
      · rw [hresult, if_neg hrefusal, completion_eq_ok_iff, and_iff_right hrefusal]
    · intro hrefusal
      rw [hresult, if_pos hrefusal]
    · intro hrefusal
      rw [hresult, if_neg hrefusal]
      refine ⟨completion_eq_noChoices_iff, completion_eq_undecodable_iff, ?_⟩
      intro t ts u hprovider ht hts hu hmalformed
      rw [hprovider]
      exact completion_of_not_answers fun _ => not_answers_of_malformed ht hts hu hmalformed

/-- A list of two choices in a reply to a redirected request.  A stray byte stands in what is passed over, the first
choice has an empty role, and the second one has its members in another order. -/
def redirectedChoices : List Reply :=
  [⟨307, "Temporary Redirect", [("Location", Text.bytes "/b")], []⟩,
    ⟨200, "OK", [],
      Text.bytes "\x7b\"x\":[\"" ++ 0xFF :: Text.bytes "\"],\"choices\":[" ++
        Text.bytes "\x7b\"message\":\x7b\"role\":\"\",\"content\":\"\\u00e9\"\x7d\x7d," ++
        Text.bytes "\x7b\"message\":\x7b\"content\":\"no\",\"role\":\"tool\"\x7d\x7d]\x7d"⟩]

def choosingClient : Client :=
  { provider := .openai, model := "m", baseUrl := "http://[::1]:8080", key := some "k" }

/-- The first of two choices is taken, and its two bytes are counted. -/
theorem complete_redirectedChoices :
    (choosingClient.complete (inOrder redirectedChoices) [] "?").1 =
      (.ok ⟨"é"⟩, [⟨.debug, .openai, "OpenAI model m returned 2 chars"⟩]) ∧
    ∃ first k before q reply more, choosingClient.Starts "?" first ∧ k ≤ 10 ∧
      Http.Sends (inOrder redirectedChoices) [] first k before q ∧
      inOrder redirectedChoices before q = some reply ∧ (∀ target, ¬ Http.LeadsTo q reply target) ∧
      ¬ (400 ≤ reply.status ∧ reply.status < 600) ∧ choosingClient.provider.Answers reply.body ("é" :: more) := by
  have hresult : (choosingClient.complete (inOrder redirectedChoices) [] "?").1.1 = .ok ⟨"é"⟩ := by decide +kernel
  obtain ⟨hlogged, -, hreply⟩ := complete_answers_reply (inOrder redirectedChoices) [] choosingClient "?"
  have hbase : choosingClient.baseUrl = "http://[::1]:8080" ++ slashes 0 := rfl
  obtain ⟨first, hstarts, -⟩ := exists_starts hbase (by decide) "?" (by decide +kernel)
  -- A completion comes from a final reply.
  obtain ⟨final, hfinal⟩ := exists_final_of_ok hstarts.posted hresult
  obtain ⟨k, before, q, hk, hmade, hanswered, -, hlast⟩ := Http.follow_eq_ok_iff.1 hfinal
  obtain ⟨hok, -⟩ := hreply first k before q final.reply hstarts hk hmade hanswered hlast
  obtain ⟨hstatus, more, hmore⟩ := (hok "é").1 hresult
  exact ⟨Prod.ext hresult ((hlogged "é" hresult).trans (by decide +kernel)), first, k, before, q, final.reply, more,
    hstarts, hk, hmade, hanswered, hlast, hstatus, hmore⟩

/-- A reply with a stray byte in a member that is passed over. -/
def strayReply : Reply :=
  ⟨200, "OK", [], Text.bytes "\x7b\"response\":\"a\",\"x\":\"" ++ 0xFF :: Text.bytes "\"\x7d"⟩

/-- A reply whose response is half of a surrogate pair. -/
def loneReply : Reply :=
  ⟨200, "OK", [], Text.bytes "\x7b\"response\":\"\\ud800\"\x7d"⟩

/-- Bytes that are no JSON text are taken as a completion, and a JSON text whose only member is a text named `response` is
not. -/
theorem complete_beyond_json :
    ((localClient.complete (inOrder [strayReply]) [] "?").1.1 = .ok ⟨"a"⟩ ∧ ∀ t, ¬ IsDocument strayReply.body t) ∧
    ∃ t ps, IsDocument loneReply.body t ∧ t.IsObject [("response", .text ps)] ∧
      (localClient.complete (inOrder [loneReply]) [] "?").1.1 = .error .undecodable := by
  have hnone : Text.ofBytes? strayReply.body = none := by decide +kernel
  have hstray : ∀ t, ¬ IsDocument strayReply.body t := by
    intro t ht
    obtain ⟨s, hs⟩ := Text.exists_ofBytes?_of_isText (isText_of_isDocument ht)
    cases hs.symm.trans hnone
  obtain ⟨t, ht, hmembers⟩ := exists_object_written
    (.cons ⟨rfl, writtenAs_loneSurrogate⟩ .nil :
      Entries Tree.WrittenAs [("response", .text [.unit 0xD800])] [("response", "\"\\ud800\"")])
  have hwritten : writtenObject [("response", "\"\\ud800\"")] = "\x7b\"response\":\"\\ud800\"\x7d" := by
    decide
  refine ⟨⟨by decide +kernel, hstray⟩, t, _, ?_, hmembers, by decide +kernel⟩
  rw [loneReply, ← hwritten]
  exact isDocument_of_writtenAs ht

end Replies

end ChatOpening
