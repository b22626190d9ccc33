import ChatOpening.Opening.Service
import ChatOpening.Proofs.Dictionary
import ChatOpening.Proofs.Template

/-!
# The first messages

What the service answers to a request, said without the order in which the service computes it.

**Input.**  Templates, of which any may be missing, and a request with any texts and any number of topics.

**Results.**
* `contents_cases`: the service fails with the first missing template, and otherwise has the three contents.
* `filled_eq`: the first two contents are made of the parts of their templates, the third is its template.
* `openChat_outcome`: when a chat is opened, what the response holds, what the fault says, what is logged in either
  case, and what the outcome does not depend on.
-/

namespace ChatOpening

namespace IntroTemplates

/-- The keys of the templates in the order in which they are wanted. -/
def wantedKeys : List String :=
  ["welcome", "briefing", "call_to_action"]

/-- All templates that are wanted are there. -/
def IsComplete (t : IntroTemplates) : Prop :=
  ∀ key ∈ wantedKeys, ∃ template, t.templates.get? key = some template

/-- The template of the key is missing, and those that are wanted before it are there. -/
def IsFirstMissing (t : IntroTemplates) (key : String) : Prop :=
  ∃ earlier later, wantedKeys = earlier ++ key :: later ∧ t.templates.get? key = none ∧
    ∀ k ∈ earlier, ∃ template, t.templates.get? k = some template

/-- The key of the first template that is wanted and not there. -/
def firstMissing? (t : IntroTemplates) : Option String :=
  wantedKeys.find? fun key => (t.templates.get? key).isNone

/-- Both have the same templates, as far as they are wanted. -/
def AgreeOnWanted (t u : IntroTemplates) : Prop :=
  ∀ key ∈ wantedKeys, t.templates.get? key = u.templates.get? key

section Lookup

variable {t u : IntroTemplates}

theorem key_mem_wantedKeys (name : TemplateName) : name.key ∈ wantedKeys := by
  cases name <;> decide

/-- A template is either there, or reported as missing. -/
theorem find_cases (t : IntroTemplates) (name : TemplateName) :
    (∃ template, t.templates.get? name.key = some template ∧ t.find name = .ok template) ∨
      (t.templates.get? name.key = none ∧ t.find name = .error (.missing name)) := by
  cases h : t.templates.get? name.key with
  | some template => exact .inl ⟨template, rfl, by simp [find, h]⟩
  | none => exact .inr ⟨rfl, by simp [find, h]⟩

/-- The search finds the first wanted key without a template. -/
theorem firstMissing?_eq_some_iff {key : String} : t.firstMissing? = some key ↔ t.IsFirstMissing key := by
  simp only [firstMissing?, List.find?_eq_some_iff_append, IsFirstMissing, Option.isNone_iff_eq_none,
    Bool.not_eq_true', Option.isNone_eq_false_iff, Option.isSome_iff_exists]
  constructor
  · rintro ⟨hnone, earlier, later, hsplit, hearlier⟩
    exact ⟨earlier, later, hsplit, hnone, hearlier⟩
  · rintro ⟨earlier, later, hsplit, hnone, hearlier⟩
    exact ⟨hnone, earlier, later, hsplit, hearlier⟩

/-- The search finds none exactly if the templates are complete. -/
theorem firstMissing?_eq_none_iff : t.firstMissing? = none ↔ t.IsComplete := by
  simp only [firstMissing?, List.find?_eq_none, IsComplete, Option.isNone_iff_eq_none, ← ne_eq,
    Option.ne_none_iff_exists']

theorem firstMissing?_congr (h : t.AgreeOnWanted u) : t.firstMissing? = u.firstMissing? := by
  have hw := h "welcome" (by decide)
  have hb := h "briefing" (by decide)
  have hc := h "call_to_action" (by decide)
  simp only [firstMissing?, wantedKeys, List.find?_cons, List.find?_nil, hw, hb, hc]

theorem find_congr (h : t.AgreeOnWanted u) (name : TemplateName) : t.find name = u.find name := by
  simp only [find, h name.key (key_mem_wantedKeys name)]

theorem mentioned_congr {topics others : List String} (h : topics.take 2 = others.take 2) :
    mentioned topics = mentioned others := by
  simp only [mentioned, welcomeTopics, h]

end Lookup

end IntroTemplates

namespace OpeningService

open IntroTemplates (welcomeValues briefingValues)

section Contents

variable {t u : IntroTemplates} {r q : OpeningRequest}

/-- The contents that three templates make of a request. -/
def filled (r : OpeningRequest) (welcome briefing callToAction : String) : List String :=
  [Template.fill (welcomeValues r.user.name r.simulation.name r.simulation.topics) welcome,
    Template.fill (briefingValues r.simulation.description) briefing,
    callToAction]

/-- Either all templates are there and make the contents, or the first missing one is the fault. -/
theorem contents_cases (t : IntroTemplates) (r : OpeningRequest) :
    (∃ welcome briefing callToAction,
      t.templates.get? "welcome" = some welcome ∧ t.templates.get? "briefing" = some briefing ∧
        t.templates.get? "call_to_action" = some callToAction ∧
        contents t r = .ok (filled r welcome briefing callToAction)) ∨
      ∃ name : TemplateName, t.IsFirstMissing name.key ∧ contents t r = .error (.missing name) := by
  rcases t.find_cases .welcome with ⟨welcome, hw, hfw⟩ | ⟨hw, hfw⟩
  · rcases t.find_cases .briefing with ⟨briefing, hb, hfb⟩ | ⟨hb, hfb⟩
    · rcases t.find_cases .callToAction with ⟨callToAction, hc, hfc⟩ | ⟨hc, hfc⟩
      · refine .inl ⟨welcome, briefing, callToAction, hw, hb, hc, ?_⟩
        simp only [contents, IntroTemplates.welcome, IntroTemplates.briefing, IntroTemplates.callToAction,
          hfw, hfb, hfc]
        rfl
      · refine .inr ⟨.callToAction, ⟨["welcome", "briefing"], [], rfl, hc, ?_⟩, ?_⟩
        · intro k hk
          simp only [List.mem_cons, List.not_mem_nil, or_false] at hk
          rcases hk with rfl | rfl
          · exact ⟨welcome, hw⟩
          · exact ⟨briefing, hb⟩
        · simp only [contents, IntroTemplates.welcome, IntroTemplates.briefing, IntroTemplates.callToAction,
            hfw, hfb, hfc]
          rfl
    · refine .inr ⟨.briefing, ⟨["welcome"], ["call_to_action"], rfl, hb, ?_⟩, ?_⟩
      · intro k hk
        rw [List.mem_singleton] at hk
        exact ⟨welcome, hk ▸ hw⟩
      · simp only [contents, IntroTemplates.welcome, IntroTemplates.briefing, hfw, hfb]
        rfl
  · refine .inr ⟨.welcome, ⟨[], ["briefing", "call_to_action"], rfl, hw, by simp⟩, ?_⟩
    simp only [contents, IntroTemplates.welcome, hfw]
    rfl

/-- The contents depend on the templates wanted, the user and three parts of the simulation. -/
theorem contents_congr (h : t.AgreeOnWanted u) (hu : r.user = q.user)
    (hn : r.simulation.name = q.simulation.name) (hd : r.simulation.description = q.simulation.description)
    (ht : r.simulation.topics.take 2 = q.simulation.topics.take 2) : contents t r = contents u q := by
  simp only [contents, IntroTemplates.welcome, IntroTemplates.briefing, IntroTemplates.callToAction,
    welcomeValues, IntroTemplates.find_congr h, IntroTemplates.mentioned_congr ht, hu, hn, hd]

end Contents

section Outcome

/-- What the coordinator says: a text, without hint and without limit. -/
def spoken (id : Uuid) (content : String) : Message :=
  { id := MessageId.ofUuid id
    kind := .text
    author := { id := 1, name := "AI Coordinator", avatar := none }
    content
    hasHint := false
    responseTimeLimit := none }

/-- The first topics as the welcome mentions them. -/
def firstTwo : List String → String
  | [] => ""
  | [topic] => topic
  | first :: second :: _ => first ++ ", " ++ second

/-- What the welcome is rendered with. -/
def welcomed (r : OpeningRequest) : Template.Values :=
  [("user_name", r.user.name), ("simulation_name", r.simulation.name), ("variables", firstTwo r.simulation.topics)]

/-- What the briefing is rendered with. -/
def briefed (r : OpeningRequest) : Template.Values :=
  [("simulation_description", r.simulation.description)]

/-- The response is the one that the three templates make of the request. In the welcome and the briefing each place of
a template has become the value of its name, and every other character stands as it is; the call to action is its
template. -/
structure IsResponse (ids : Nat → Uuid) (r : OpeningRequest) (welcome briefing callToAction : String)
    (response : OpeningResponse) : Prop where
  messages : ∃ first second : String, response.chat.messages =
      [spoken (ids 0) first, spoken (ids 1) second, spoken (ids 2) callToAction] ∧
    first.toList = (Template.parts ["user_name", "simulation_name", "variables"] welcome.toList).flatMap
      (Template.Part.text (welcomed r)) ∧
    second.toList = (Template.parts ["simulation_description"] briefing.toList).flatMap
      (Template.Part.text (briefed r))
  success : response.chat.success = true
  keys : (response.metadata.map Prod.fst).Perm ["simulation", "user", "messages_count"]
  simulation : response.metadata.lookup "simulation" = some (.text r.simulation.name)
  user : response.metadata.lookup "user" = some (.text r.user.name)
  count : response.metadata.lookup "messages_count" = some (.number (.integer response.chat.messages.length))

/-- What is logged when a chat is to be opened. -/
def startRecord (r : OpeningRequest) : Journal.Record :=
  ⟨.info, .opening, "Generating initial chat messages for simulation: " ++ r.simulation.name⟩

/-- What is logged when a chat cannot be opened. -/
def faultRecord (message : String) : Journal.Record :=
  ⟨.error, .opening, "Chat initialization failed: " ++ message⟩

/-- The words for a missing template. -/
def missingMessage (key : String) : String :=
  "intro template error: Prompt template 'intro_templates:" ++ key ++ "' not found"

/-- At most two topics are mentioned. -/
theorem mentioned_eq_firstTwo (topics : List String) : IntroTemplates.mentioned topics = firstTwo topics := by
  match topics with
  | [] => rfl
  | [topic] => rfl
  | first :: second :: rest => rfl

/-- The three entries of the metadata. -/
theorem lookup_metadata (r : OpeningRequest) (count : Nat) (key : String) :
    (metadata r count).lookup key =
      if key = "messages_count" then some (.number (.integer count))
      else if key = "user" then some (.text r.user.name)
      else if key = "simulation" then some (.text r.simulation.name)
      else none := by
  simp only [metadata, lookup_putEntry, List.lookup_nil]

theorem keys_metadata (r : OpeningRequest) (count : Nat) :
    ((metadata r count).map Prod.fst).Perm ["simulation", "user", "messages_count"] := by
  have hu : "user" ∉ (putEntry "simulation" (Json.Value.text r.simulation.name) []).map Prod.fst := by
    simp [putEntry]
  have hkeys : ((putEntry "user" (Json.Value.text r.user.name)
      (putEntry "simulation" (Json.Value.text r.simulation.name) [])).map Prod.fst).Perm ["user", "simulation"] :=
    keys_putEntry hu
  have hm : "messages_count" ∉ (putEntry "user" (Json.Value.text r.user.name)
      (putEntry "simulation" (Json.Value.text r.simulation.name) [])).map Prod.fst := by
    rw [hkeys.mem_iff]
    simp
  exact ((keys_putEntry hm).trans (hkeys.cons "messages_count")).trans
    (List.reverse_perm ["simulation", "user", "messages_count"])

/-- The contents by the parts of their templates. -/
theorem filled_eq (r : OpeningRequest) (welcome briefing callToAction : String) :
    ∃ first second : String, filled r welcome briefing callToAction = [first, second, callToAction] ∧
      first.toList = (Template.parts ["user_name", "simulation_name", "variables"] welcome.toList).flatMap
        (Template.Part.text (welcomed r)) ∧
      second.toList = (Template.parts ["simulation_description"] briefing.toList).flatMap
        (Template.Part.text (briefed r)) := by
  have hwelcomed : welcomeValues r.user.name r.simulation.name r.simulation.topics = welcomed r := by
    rw [welcomeValues, mentioned_eq_firstTwo, welcomed]
  have hfirst := Template.toList_fill (hwelcomed ▸ Template.isPlainName_welcomeValues _ _ _) welcome
  have hsecond := Template.toList_fill (Template.isPlainName_briefingValues r.simulation.description) briefing
  refine ⟨_, _, ?_, hfirst, hsecond⟩
  rw [filled, hwelcomed]

/-- What is made of the filled templates is the response. -/
theorem isResponse_respond (ids : Nat → Uuid) (r : OpeningRequest) (welcome briefing callToAction : String) :
    IsResponse ids r welcome briefing callToAction
      (respond r (messages ids (filled r welcome briefing callToAction))) where
  messages := by
    obtain ⟨first, second, hfilled, hfirst, hsecond⟩ := filled_eq r welcome briefing callToAction
    refine ⟨first, second, ?_, hfirst, hsecond⟩
    rw [hfilled]
    rfl
  success := rfl
  keys := keys_metadata r _
  simulation := by simp [respond, lookup_metadata]
  user := by simp [respond, lookup_metadata]
  count := by simp [respond, lookup_metadata]

theorem message_missing (name : TemplateName) :
    OpeningFault.message ⟨.missing name⟩ = missingMessage name.key := by
  cases name <;> decide

/-- Either the response to the request, or the first missing template; with what is logged in either case. -/
theorem openChat_cases (s : OpeningService) (ids : Nat → Uuid) (r : OpeningRequest) :
    (∃ welcome briefing callToAction,
      s.templates.templates.get? "welcome" = some welcome ∧
        s.templates.templates.get? "briefing" = some briefing ∧
        s.templates.templates.get? "call_to_action" = some callToAction ∧
        s.openChat ids r =
          (.ok (respond r (messages ids (filled r welcome briefing callToAction))), [startRecord r])) ∨
      ∃ name : TemplateName, s.templates.IsFirstMissing name.key ∧
        s.openChat ids r =
          (.error ⟨.missing name⟩, [startRecord r, faultRecord (missingMessage name.key)]) := by
  rcases contents_cases s.templates r with ⟨welcome, briefing, callToAction, hw, hb, hc, hok⟩ | ⟨name, hname, herr⟩
  · refine .inl ⟨welcome, briefing, callToAction, hw, hb, hc, ?_⟩
    simp only [openChat, hok]
    rfl
  · refine .inr ⟨name, hname, ?_⟩
    simp only [openChat, herr, ← message_missing]
    rfl

/-- The templates are complete once there is one for each of the three keys. -/
theorem isComplete_of_templates {t : IntroTemplates} {welcome briefing callToAction : String}
    (hw : t.templates.get? "welcome" = some welcome)
    (hb : t.templates.get? "briefing" = some briefing)
    (hc : t.templates.get? "call_to_action" = some callToAction) : t.IsComplete := by
  intro key hkey
  simp only [IntroTemplates.wantedKeys, List.mem_cons, List.not_mem_nil, or_false] at hkey
  rcases hkey with rfl | rfl | rfl
  · exact ⟨welcome, hw⟩
  · exact ⟨briefing, hb⟩
  · exact ⟨callToAction, hc⟩

theorem not_isComplete_of_firstMissing {t : IntroTemplates} {key : String} (h : t.IsFirstMissing key) :
    ¬ t.IsComplete := by
  intro hall
  obtain ⟨earlier, later, hsplit, hnone, -⟩ := h
  obtain ⟨template, htemplate⟩ := hall key (by rw [hsplit]; simp)
  rw [hnone] at htemplate
  cases htemplate

/-- A chat is opened exactly if no template is missing. -/
theorem openChat_succeeds_iff (s : OpeningService) (ids : Nat → Uuid) (r : OpeningRequest) :
    (∃ response, (s.openChat ids r).1 = .ok response) ↔ s.templates.IsComplete := by
  rcases openChat_cases s ids r with ⟨welcome, briefing, callToAction, hw, hb, hc, hok⟩ | ⟨name, hname, herr⟩
  · rw [hok]
    exact iff_of_true ⟨_, rfl⟩ (isComplete_of_templates hw hb hc)
  · refine iff_of_false ?_ (not_isComplete_of_firstMissing hname)
    rintro ⟨response, hresponse⟩
    rw [herr] at hresponse
    cases hresponse

/-- Topics behind the second one and templates with other keys make no difference. -/
theorem openChat_congr {s other : OpeningService} {ids : Nat → Uuid} {r : OpeningRequest} {topics : List String}
    (ht : s.templates.AgreeOnWanted other.templates) (hr : r.simulation.topics.take 2 = topics.take 2) :
    other.openChat ids { r with simulation := { r.simulation with topics } } = s.openChat ids r := by
  have hcontents : contents s.templates r =
      contents other.templates { r with simulation := { r.simulation with topics } } :=
    contents_congr ht rfl rfl rfl hr
  simp only [openChat, ← hcontents]
  rfl

/-- A chat is opened exactly if all three templates are there. The response is then what they make of the request, and
the start is all that is logged. Otherwise the first missing template is the fault, and it is logged behind the start.
The outcome depends on the templates only through those three, on the topics only through the first two, and not on the
client. -/
theorem openChat_outcome (s : OpeningService) (ids : Nat → Uuid) (r : OpeningRequest) :
    ((∃ response, (s.openChat ids r).1 = .ok response) ↔ s.templates.IsComplete)
      ∧
    (∀ response, (s.openChat ids r).1 = .ok response →
      (s.openChat ids r).2 = [startRecord r] ∧
        ∃ welcome briefing callToAction,
          s.templates.templates.get? "welcome" = some welcome ∧
            s.templates.templates.get? "briefing" = some briefing ∧
            s.templates.templates.get? "call_to_action" = some callToAction ∧
            IsResponse ids r welcome briefing callToAction response)
      ∧
    (∀ fault, (s.openChat ids r).1 = .error fault →
      (s.openChat ids r).2 = [startRecord r, faultRecord fault.message] ∧
        ∃ key, s.templates.IsFirstMissing key ∧ fault.message = missingMessage key)
      ∧
    (∀ (other : OpeningService) (topics : List String),
      s.templates.AgreeOnWanted other.templates →
      r.simulation.topics.take 2 = topics.take 2 →
      other.openChat ids { r with simulation := { r.simulation with topics } } = s.openChat ids r) := by
  refine ⟨openChat_succeeds_iff s ids r, ?opened, ?failed, fun _ _ => openChat_congr⟩
  case opened =>
    intro response hresponse
    rcases openChat_cases s ids r with ⟨welcome, briefing, callToAction, hw, hb, hc, hok⟩ | ⟨name, hname, herr⟩
    · rw [hok, Except.ok.injEq] at hresponse
      rw [hok]
      exact ⟨rfl, welcome, briefing, callToAction, hw, hb, hc,
        hresponse ▸ isResponse_respond ids r welcome briefing callToAction⟩
    · rw [herr] at hresponse
      cases hresponse
  case failed =>
    intro fault hfault
    rcases openChat_cases s ids r with ⟨welcome, briefing, callToAction, hw, hb, hc, hok⟩ | ⟨name, hname, herr⟩
    · rw [hok] at hfault
      cases hfault
    · rw [herr, Except.error.injEq] at hfault
      subst hfault
      rw [herr, message_missing]
      exact ⟨rfl, name.key, hname, rfl⟩

end Outcome

end OpeningService

end ChatOpening
