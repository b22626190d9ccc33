import ChatOpening.Proofs.Http.KeyGate
import ChatOpening.Proofs.Provider.Clients
import ChatOpening.Proofs.Startup.Stages

/-!
# A launch does not show its keys

Two launches are compared whose arguments differ in their keys only.

**Input.**  Any arguments, any files and sockets, and two keys in the place of the given ones: a key for the clients of the
server that counts exactly if the given one does, and a key for the provider that is of the same kind as the given one.

**Results.**
* `Logged.Alike.andThen`: steps that log the same and end alike may be joined.
* `launch_alike`: the two launches log the same and end alike.
* `launch_hides_keys`: in particular, no record and no fault depends on what the keys are.
-/

namespace ChatOpening

open Journal (Record Logged)

/-- Either none of the two keys counts, or both count. -/
inductive AlikeServerKeys (key other : Option String) : Prop
  | absent (h : ∀ k ∈ key, ¬ HasContent k) (h' : ∀ k ∈ other, ¬ HasContent k)
  | effective (h : ∃ k ∈ key, HasContent k) (h' : ∃ k ∈ other, HasContent k)

/-- Both keys are blank, or both are not and have a byte that may not stand in a header, or both are not and have none. -/
inductive AlikeChatKeys (key other : String) : Prop
  | blank (h : ¬ HasContent key) (h' : ¬ HasContent other)
  | unsendable (h : HasContent key ∧ ¬ IsSendable key) (h' : HasContent other ∧ ¬ IsSendable other)
  | sendable (h : HasContent key ∧ IsSendable key) (h' : HasContent other ∧ IsSendable other)

/-- Two results are the same fault, or values that are related. -/
inductive EndAlike {ε α β : Type} (R : α → β → Prop) : Except ε α → Except ε β → Prop
  | error (e : ε) : EndAlike R (.error e) (.error e)
  | ok {a : α} {b : β} (h : R a b) : EndAlike R (.ok a) (.ok b)

/-- Two steps log the same and end alike. -/
structure Journal.Logged.Alike {ε α β : Type} (R : α → β → Prop) (x : Logged ε α) (y : Logged ε β) : Prop where
  logs : x.2 = y.2
  ends : EndAlike R x.1 y.1

section Steps

variable {ε α β α' β' : Type} {R : α → α' → Prop} {S : β → β' → Prop}

/-- Outcomes that end alike have the same faults. -/
theorem EndAlike.error_iff {x : Except ε α} {y : Except ε α'} (h : EndAlike R x y) (e : ε) :
    x = .error e ↔ y = .error e := by
  cases h with
  | error => simp
  | ok => simp

theorem EndAlike.mapError {δ : Type} {x : Except ε α} {y : Except ε α'} (h : EndAlike R x y) (f : ε → δ) :
    EndAlike R (x.mapError f) (y.mapError f) := by
  cases h with
  | error e => exact .error (f e)
  | ok h => exact .ok h

theorem Journal.Logged.Alike.refl (x : Logged ε α) : Logged.Alike Eq x x := by
  refine ⟨rfl, ?_⟩
  cases x.1 with
  | error e => exact .error e
  | ok a => exact .ok rfl

/-- Alike steps may be followed by steps that are alike for related values. -/
theorem Journal.Logged.Alike.andThen {x : Logged ε α} {y : Logged ε α'} {f : α → Logged ε β} {g : α' → Logged ε β'}
    (h : Logged.Alike R x y) (hnext : ∀ a b, R a b → Logged.Alike S (f a) (g b)) :
    Logged.Alike S (x.andThen f) (y.andThen g) := by
  obtain ⟨result, logs⟩ := x
  obtain ⟨result', logs'⟩ := y
  obtain ⟨hlogs, hends⟩ := h
  obtain rfl : logs = logs' := hlogs
  cases hends with
  | error e => exact ⟨rfl, .error e⟩
  | ok hab =>
    obtain ⟨hlogs, hends⟩ := hnext _ _ hab
    exact ⟨congrArg (logs ++ ·) hlogs, hends⟩

end Steps

section Keys

variable {key other : Option String}

/-- A key is in effect if there is one with content. -/
theorem isSome_effectiveKey_iff : (Http.Gate.effectiveKey key).isSome ↔ ∃ k ∈ key, HasContent k := by
  simp only [Http.Gate.effectiveKey, Option.isSome_iff_exists, Option.filter_eq_some_iff, not_isAllBlank_iff,
    Option.mem_def]

theorem AlikeServerKeys.isSome_effectiveKey (h : AlikeServerKeys key other) :
    (Http.Gate.effectiveKey key).isSome = (Http.Gate.effectiveKey other).isSome := by
  rw [Bool.eq_iff_iff, isSome_effectiveKey_iff, isSome_effectiveKey_iff]
  cases h with
  | absent h h' =>
    constructor
    · rintro ⟨k, hk, hcontent⟩
      exact absurd hcontent (h k hk)
    · rintro ⟨k, hk, hcontent⟩
      exact absurd hcontent (h' k hk)
  | effective h h' => exact iff_of_true h h'

end Keys

section Clients

/-- The clients differ at most in their keys. -/
structure Client.SameButKey (c d : Client) : Prop where
  provider : c.provider = d.provider
  model : c.model = d.model
  baseUrl : c.baseUrl = d.baseUrl

variable {args : Arguments} {key : String}

/-- A blank key is no key, be it empty or not. -/
theorem usableKey_configFor_of_blank (h : ¬ HasContent args.chatApiKey) (provider : Provider) :
    Client.usableKey (args.configFor provider).apiKey = none := by
  rw [usableKey_eq_none_iff]
  intro k hk
  simp only [Arguments.configFor] at hk
  split at hk
  · cases hk
  · cases hk
    exact h

/-- A key with content is usable for every provider. -/
theorem usableKey_configFor_of_content (h : HasContent args.chatApiKey) (provider : Provider) :
    Client.usableKey (args.configFor provider).apiKey = some args.chatApiKey := by
  have hne : args.chatApiKey ≠ "" := by
    intro hempty
    obtain ⟨c, hc, -⟩ := h
    simp [hempty] at hc
  exact usableKey_eq_some_iff.2 ⟨if_neg hne, h⟩

/-- What becomes of a configuration for the provider that authorizes its requests. -/
theorem ofConfig_openai_of_blank (args : Arguments) (h : ¬ HasContent args.chatApiKey) :
    Client.ofConfig (args.configFor .openai) = .error .keyRequired :=
  build_openai_of_unusable rfl (usableKey_configFor_of_blank h .openai)

theorem ofConfig_openai_of_unsendable (args : Arguments) (h : HasContent args.chatApiKey)
    (hbytes : ¬ IsSendable args.chatApiKey) :
    Client.ofConfig (args.configFor .openai) = .error .keyFormat :=
  build_openai_of_unsendable rfl (usableKey_configFor_of_content h .openai) hbytes

/-- A key that can be sent makes a client. -/
theorem ofConfig_openai_of_sendable (args : Arguments) (h : HasContent args.chatApiKey)
    (hbytes : IsSendable args.chatApiKey) :
    Client.ofConfig (args.configFor .openai) = .ok (Client.openai (args.configFor .openai) args.chatApiKey) :=
  build_openai_of_sendable rfl (usableKey_configFor_of_content h .openai) hbytes

end Clients

section Launches

/-- The service is the same but for the key of its client. -/
structure OpeningService.SameButKey (s t : OpeningService) : Prop where
  client : Option.Rel Client.SameButKey s.client t.client
  templates : s.templates = t.templates

/-- What listens is the same but for the key of its client and for that of its gate. -/
structure Listening.SameButKeys (l m : Listening) : Prop where
  address : l.address = m.address
  service : l.router.service.SameButKey m.router.service
  gate : l.router.gate.key.isSome = m.router.gate.key.isSome

variable {args : Arguments} {serverKey : Option String} {chatKey : String}

/-- The arguments with other keys. -/
def Arguments.withKeys (args : Arguments) (serverKey : Option String) (chatKey : String) : Arguments :=
  { args with serverApiKey := serverKey, chatApiKey := chatKey }

@[simp] theorem Arguments.withKeys_enableLlm : (args.withKeys serverKey chatKey).enableLlm = args.enableLlm :=
  rfl

/-- From keys of one kind come the same fault or clients that differ in their keys only. -/
theorem ofConfig_alike (h : AlikeChatKeys args.chatApiKey chatKey) (provider : Provider) :
    EndAlike Client.SameButKey (Client.ofConfig (args.configFor provider))
      (Client.ofConfig ((args.withKeys serverKey chatKey).configFor provider)) := by
  cases provider with
  | ollama => exact .ok ⟨rfl, rfl, rfl⟩
  | openai =>
    cases h with
    | blank h h' =>
      rw [ofConfig_openai_of_blank args h, ofConfig_openai_of_blank (args.withKeys serverKey chatKey) h']
      exact .error _
    | unsendable h h' =>
      rw [ofConfig_openai_of_unsendable args h.1 h.2,
        ofConfig_openai_of_unsendable (args.withKeys serverKey chatKey) h'.1 h'.2]
      exact .error _
    | sendable h h' =>
      rw [ofConfig_openai_of_sendable args h.1 h.2,
        ofConfig_openai_of_sendable (args.withKeys serverKey chatKey) h'.1 h'.2]
      exact .ok ⟨rfl, rfl, rfl⟩

/-- Clients from alike keys differ in their keys only. -/
theorem client_alike (h : AlikeChatKeys args.chatApiKey chatKey) :
    EndAlike Client.SameButKey args.client (args.withKeys serverKey chatKey).client := by
  cases hname : Provider.ofText args.chatLlmType with
  | error name =>
    have hother : Provider.ofText (args.withKeys serverKey chatKey).chatLlmType = .error name := hname
    rw [LaunchStage.client_of_unknown hname, LaunchStage.client_of_unknown hother]
    exact .error _
  | ok provider =>
    have hother : Provider.ofText (args.withKeys serverKey chatKey).chatLlmType = .ok provider := hname
    rw [LaunchStage.client_of_known hname, LaunchStage.client_of_known hother]
    exact (ofConfig_alike h provider).mapError LaunchFault.client

/-- The record of a client does not show its key. -/
theorem clientBuilt_congr {c d : Client} (h : c.SameButKey d) : Arguments.clientBuilt c = Arguments.clientBuilt d := by
  simp only [Arguments.clientBuilt, h.provider, h.model, h.baseUrl]

/-- The stage of the client ends alike, with the same records. -/
theorem clientStage_alike (h : AlikeChatKeys args.chatApiKey chatKey) :
    Logged.Alike (Option.Rel Client.SameButKey) args.clientStage (args.withKeys serverKey chatKey).clientStage := by
  have hquiet : Logged.Alike Client.SameButKey (.quiet args.client)
      (.quiet (args.withKeys serverKey chatKey).client) :=
    ⟨rfl, client_alike h⟩
  have hbuilt := hquiet.andThen (S := Option.Rel Client.SameButKey)
    (f := fun c => .ok (some c) [Arguments.clientBuilt c]) (g := fun c => .ok (some c) [Arguments.clientBuilt c])
    fun c d hcd => ⟨congrArg ([·]) (clientBuilt_congr hcd), .ok (.some hcd)⟩
  cases henabled : args.enableLlm with
  | false =>
    simp only [Arguments.clientStage, Arguments.withKeys_enableLlm, henabled]
    exact ⟨rfl, .ok Option.Rel.none⟩
  | true =>
    simp only [Arguments.clientStage, Arguments.withKeys_enableLlm, henabled, if_true]
    exact hbuilt

/-- The service is built alike, with the same records. -/
theorem service_alike (h : AlikeChatKeys args.chatApiKey chatKey) (files : Files) :
    Logged.Alike OpeningService.SameButKey (args.service files) ((args.withKeys serverKey chatKey).service files) :=
  (clientStage_alike h).andThen fun _ _ hclient =>
    (Logged.Alike.refl (args.templatesStage files)).andThen fun _ _ htemplates => ⟨rfl, .ok ⟨hclient, htemplates⟩⟩

/-- Neither the record of the client that a service holds nor that of the key of the server shows a key. -/
theorem serviceRecords_congr (h : AlikeServerKeys args.serverApiKey serverKey) {s t : OpeningService}
    (hst : s.SameButKey t) :
    LaunchStage.serviceRecords args s.client = LaunchStage.serviceRecords (args.withKeys serverKey chatKey) t.client := by
  have hheld : LaunchStage.heldRecords s.client = LaunchStage.heldRecords t.client := by
    have hclient := hst.client
    generalize s.client = c, t.client = d at hclient ⊢
    cases hclient with
    | none => rfl
    | some hcd => simp only [LaunchStage.heldRecords, Option.toList, List.map_cons, List.map_nil, hcd.model]
  have hkey : LaunchStage.keyRecord args.serverApiKey = LaunchStage.keyRecord serverKey := by
    rw [LaunchStage.keyRecord, LaunchStage.keyRecord, h.isSome_effectiveKey]
  rw [LaunchStage.serviceRecords, LaunchStage.serviceRecords, hheld, hkey]
  rfl

/-- Alike services listen alike. -/
theorem serve_alike (h : AlikeServerKeys args.serverApiKey serverKey) (sockets : Sockets) {s t : OpeningService}
    (hst : s.SameButKey t) :
    Logged.Alike Listening.SameButKeys (args.serve sockets s) ((args.withKeys serverKey chatKey).serve sockets t) := by
  let logged (args : Arguments) (service : OpeningService) : Logged LaunchFault Unit :=
    (.ok (), LaunchStage.serviceRecords args service.client)
  have hrecords : Logged.Alike Eq (logged args s) (logged (args.withKeys serverKey chatKey) t) :=
    ⟨serviceRecords_congr h hst, .ok rfl⟩
  have hgate : (Http.Gate.ofKey (Http.Gate.effectiveKey args.serverApiKey)).key.isSome =
      (Http.Gate.ofKey (Http.Gate.effectiveKey serverKey)).key.isSome := by
    simp only [Http.Gate.ofKey, Http.effectiveKey_effectiveKey, h.isSome_effectiveKey]
  have hlisten := Logged.Alike.refl ((Server.configured args.serverAddr s args.serverApiKey).1.listen sockets)
  rw [LaunchStage.serve_eq, LaunchStage.serve_eq]
  refine hrecords.andThen fun _ _ _ => hlisten.andThen ?_
  rintro a _ rfl
  exact ⟨rfl, .ok ⟨rfl, hst, hgate⟩⟩

/-- The two launches log the same, and end with the same fault or with servers that differ in their keys only. -/
theorem launch_alike (hserver : AlikeServerKeys args.serverApiKey serverKey)
    (hchat : AlikeChatKeys args.chatApiKey chatKey) (files : Files) (sockets : Sockets) :
    Logged.Alike Listening.SameButKeys (args.launch files sockets)
      ((args.withKeys serverKey chatKey).launch files sockets) :=
  (Logged.Alike.refl (.ok () args.configuration)).andThen fun _ _ _ =>
    (service_alike hchat files).andThen fun _ _ hservice => serve_alike hserver sockets hservice

/-- Keys that are alike cannot be told apart by what a launch logs or by the fault that it ends with. -/
theorem launch_hides_keys (args : Arguments) (hserver : AlikeServerKeys args.serverApiKey serverKey)
    (hchat : AlikeChatKeys args.chatApiKey chatKey) (files : Files) (sockets : Sockets) :
    (args.launch files sockets).2 =
      ({ args with serverApiKey := serverKey, chatApiKey := chatKey }.launch files sockets).2 ∧
    ∀ fault : LaunchFault, (args.launch files sockets).1 = .error fault ↔
      ({ args with serverApiKey := serverKey, chatApiKey := chatKey }.launch files sockets).1 = .error fault := by
  obtain ⟨hlogs, hends⟩ := launch_alike hserver hchat files sockets
  exact ⟨hlogs, hends.error_iff⟩

/-- Arguments with both keys, whose templates are in a file that is not there. -/
def keyedArguments : Arguments :=
  { enableLlm := true
    chatLlmType := "openai"
    chatBaseUrl := none
    chatApiKey := "sk-left"
    chatModel := none
    debug := false
    promptsPath := some "templates.json"
    serverAddr := "127.0.0.1:0"
    serverApiKey := some "left" }

/-- Two pairs of keys that count and may be sent, at a launch that fails behind the stage of the client. -/
theorem launch_hides_left_and_right :
    AlikeServerKeys (some "left") (some "right") ∧ AlikeChatKeys "sk-left" "sk-right" ∧
    (keyedArguments.launch (fun _ => .error .notFound) (fun _ => .ok ())).2 =
      ({ keyedArguments with serverApiKey := some "right", chatApiKey := "sk-right" }.launch
        (fun _ => .error .notFound) (fun _ => .ok ())).2 ∧
    ∀ fault : LaunchFault, (keyedArguments.launch (fun _ => .error .notFound) (fun _ => .ok ())).1 = .error fault ↔
      ({ keyedArguments with serverApiKey := some "right", chatApiKey := "sk-right" }.launch
        (fun _ => .error .notFound) (fun _ => .ok ())).1 = .error fault := by
  have hserver : AlikeServerKeys (some "left") (some "right") :=
    .effective ⟨"left", rfl, by decide⟩ ⟨"right", rfl, by decide⟩
  have hchat : AlikeChatKeys "sk-left" "sk-right" :=
    .sendable ⟨by decide, by decide⟩ ⟨by decide, by decide⟩
  exact ⟨hserver, hchat, launch_hides_keys keyedArguments hserver hchat _ _⟩

end Launches

end ChatOpening
