import Mathlib.Order.WellFounded
import ChatOpening.Http.Router
import ChatOpening.Proofs.Opening.FirstMessages

/-!
# The stages of a request to open a chat

A request to open a chat is looked at in five stages.  Each stage looks at its own part of the request and of the
router, and either lets the request pass or has an answer for it; what a stage says is defined here for each stage
by itself, whatever the others say.

**Input.**  A router with any templates and any gate, and any request to open a chat.

**Results.**
* `openChat_of_isFirst`: the answer is that of the first stage that refuses the request.
* `openChat_of_passed`: if no stage refuses it, the answer is the response of the service.
* `handle_answers_first_refusal`: both for the router as a whole, with what the answer does not depend on.
-/

namespace ChatOpening

namespace Http

/-- A request to open a chat. -/
structure Request.OpensChat (r : Request) : Prop where
  method : r.method = "POST"
  path : r.path = "/generate-chat-messages"

/-- The answer with the headers that every answer has. -/
def Answer.shared (a : Answer) : Answer :=
  { a with headers := a.headers ++ Router.sharedHeaders }

/-- What the answer to a broken body says, by the class of its fault. -/
theorem answer_undecodable (report : Json.Report) :
    (Refusal.undecodable report).answer =
      if report.cause.class = .data then
        .plain 422 ("Failed to deserialize the JSON body into the target type: " ++ report.locatedMessage)
      else .plain 400 ("Failed to parse the request body as JSON: " ++ report.locatedMessage) := by
  simp only [Refusal.answer]
  cases report.cause.class <;> rfl

/-- What is looked at before a chat is opened. -/
inductive Stage where
  | mediaType
  | size
  | decoding
  | gate
  | service
  deriving DecidableEq, Repr

namespace Stage

/-- The place of a stage in the order of the stages. -/
def rank : Stage → Nat
  | mediaType => 1
  | size => 2
  | decoding => 3
  | gate => 4
  | service => 5

/-- The answer of a stage to a request that does not pass it. -/
def refusal (router : Router) (r : Request) : Stage → Option Answer
  | mediaType =>
    if Router.isJsonRequest r then none
    else some (.plain 415 "Expected request with `Content-Type: application/json`")
  | size =>
    if r.body.length ≤ 2097152 then none
    else some (.plain 413 "Failed to buffer the request body: length limit exceeded")
  | decoding =>
    match Json.decodeWith .on OpeningRequest r.body with
    | .ok _ => none
    | .error report =>
      some <|
        if report.cause.class = .data then
          .plain 422 ("Failed to deserialize the JSON body into the target type: " ++ report.locatedMessage)
        else .plain 400 ("Failed to parse the request body as JSON: " ++ report.locatedMessage)
  | gate =>
    if router.gate.isOpenTo r then none
    else some (.refused 401 "Invalid or missing API key")
  | service =>
    router.service.templates.firstMissing?.map fun key => .refused 500 (OpeningService.missingMessage key)

/-- The stage does not let the request pass and answers it, and every earlier stage lets it pass. -/
def IsFirst (router : Router) (r : Request) (s : Stage) (a : Answer) : Prop :=
  s.refusal router r = some a ∧ ∀ t : Stage, t.rank < s.rank → t.refusal router r = none

/-- What the stage looks at is the same for two requests to two routers. -/
def SameView (router : Router) (r : Request) (other : Router) (q : Request) : Stage → Prop
  | mediaType => r.header? "content-type" = q.header? "content-type"
  | size => r.body.length = q.body.length
  | decoding => r.body = q.body
  | gate => router.gate = other.gate ∧ r.header? "x-api-key" = q.header? "x-api-key"
  | service => router.service.templates.AgreeOnWanted other.service.templates

/-- The statuses with which a stage answers. -/
def statuses : Stage → List Nat
  | mediaType => [415]
  | size => [413]
  | decoding => [422, 400]
  | gate => [401]
  | service => [500]

section Refusal

variable {router other : Router} {r q : Request} {s t : Stage} {a b : Answer}

/-- The first stage refuses what does not say that it is JSON. -/
theorem refuses_mediaType_iff :
    refusal router r .mediaType = some a ↔ Router.isJsonRequest r = false ∧ Refusal.mediaType.answer = a := by
  simp [refusal, Refusal.answer]

theorem refuses_size_iff : refusal router r .size = some a ↔ 2097152 < r.body.length ∧ Refusal.tooLong.answer = a := by
  simp [refusal, Refusal.answer]

/-- The stage of the decoder refuses with its report. -/
theorem refuses_decoding_iff :
    refusal router r .decoding = some a ↔
      ∃ report, Json.decodeWith .on OpeningRequest r.body = .error report ∧ (Refusal.undecodable report).answer = a := by
  cases h : Json.decodeWith .on OpeningRequest r.body with
  | ok request => simp [refusal, h]
  | error report => simp [refusal, h, answer_undecodable]

theorem refuses_gate_iff :
    refusal router r .gate = some a ↔ router.gate.isOpenTo r = false ∧ Refusal.unauthorized.answer = a := by
  simp [refusal, Refusal.answer]

/-- The service refuses for the first template that is missing. -/
theorem refuses_service_iff :
    refusal router r .service = some a ↔ ∃ key, router.service.templates.firstMissing? = some key ∧
      Answer.refused 500 (OpeningService.missingMessage key) = a :=
  Option.map_eq_some_iff

/-- A stage answers with its own statuses. -/
theorem status_mem_of_refusal (h : s.refusal router r = some a) : a.status ∈ s.statuses := by
  cases s with
  | mediaType =>
    obtain ⟨-, rfl⟩ := refuses_mediaType_iff.1 h
    decide
  | size =>
    obtain ⟨-, rfl⟩ := refuses_size_iff.1 h
    decide
  | decoding =>
    obtain ⟨report, -, rfl⟩ := refuses_decoding_iff.1 h
    rw [answer_undecodable]
    split <;> simp [statuses, Answer.plain]
  | gate =>
    obtain ⟨-, rfl⟩ := refuses_gate_iff.1 h
    simp [statuses, Refusal.answer, Answer.refused, Answer.json]
  | service =>
    obtain ⟨key, -, rfl⟩ := refuses_service_iff.1 h
    simp [statuses, Answer.refused, Answer.json]

/-- Only the service answers with a status that is none of a client's fault. -/
theorem client_status_of_mem {n : Nat} (hs : s ≠ .service) (h : n ∈ s.statuses) : 400 ≤ n ∧ n < 500 := by
  cases s with
  | service => exact absurd rfl hs
  | decoding =>
    simp only [statuses, List.mem_cons, List.not_mem_nil, or_false] at h
    omega
  | _ =>
    rw [statuses, List.mem_singleton] at h
    omega

theorem rank_lt_service (hs : s ≠ .service) : s.rank < Stage.service.rank := by
  cases s with
  | service => exact absurd rfl hs
  | _ => decide

/-- A stage says the same of two requests if what it looks at is the same. -/
theorem refusal_congr (h : s.SameView router r other q) : s.refusal router r = s.refusal other q := by
  cases s with
  | mediaType =>
    have hview : r.header? "content-type" = q.header? "content-type" := h
    have hjson : Router.isJsonRequest r = Router.isJsonRequest q := by
      simp only [Router.isJsonRequest, hview]
    simp only [refusal, hjson]
  | size =>
    have hview : r.body.length = q.body.length := h
    simp only [refusal, hview]
  | decoding =>
    have hview : r.body = q.body := h
    simp only [refusal, hview]
  | gate =>
    obtain ⟨hgate, hkey⟩ := h
    have hopen : router.gate.isOpenTo r = other.gate.isOpenTo q := by
      simp only [hgate, Gate.isOpenTo, Gate.header, hkey]
    simp only [refusal, hopen]
  | service =>
    simp only [refusal, IntroTemplates.firstMissing?_congr h]

/-- Which stage is the first to refuse depends on what this stage and those before it look at. -/
theorem isFirst_congr (hs : s.IsFirst router r a)
    (hview : ∀ t : Stage, t.rank ≤ s.rank → t.SameView router r other q) : s.IsFirst other q a := by
  refine ⟨?_, ?_⟩
  · rw [← refusal_congr (hview s (Nat.le_refl _))]
    exact hs.1
  · intro t ht
    rw [← refusal_congr (hview t (Nat.le_of_lt ht))]
    exact hs.2 t ht

/-- No two stages answer with the same status. -/
theorem eq_of_mem_statuses {n : Nat} (hs : n ∈ s.statuses) (ht : n ∈ t.statuses) : s = t := by
  cases s <;> cases t <;> simp_all [statuses]

/-- The status of an answer tells which stage it is from. -/
theorem eq_of_status_mem (h : s.refusal router r = some a) (ht : a.status ∈ t.statuses) : s = t :=
  eq_of_mem_statuses (status_mem_of_refusal h) ht

/-- Either some stage is the first to refuse the request, or all let it pass. -/
theorem exists_isFirst_or_passed (router : Router) (r : Request) :
    (∃ (s : Stage) (a : Answer), s.IsFirst router r a) ∨ ∀ s : Stage, s.refusal router r = none := by
  by_cases hrefused : ∃ s : Stage, s.refusal router r ≠ none
  · obtain ⟨s, hs, hleast⟩ := (measure rank).wf.has_min {s | s.refusal router r ≠ none} hrefused
    obtain ⟨a, ha⟩ := Option.ne_none_iff_exists'.1 hs
    refine .inl ⟨s, a, ha, ?_⟩
    intro t ht
    by_contra hrefuses
    exact hleast t hrefuses ht
  · refine .inr ?_
    intro s
    by_contra hs
    exact hrefused ⟨s, hs⟩

end Refusal

section Passing

variable {router : Router} {r : Request}

theorem passes_mediaType_iff : refusal router r .mediaType = none ↔ Router.isJsonRequest r = true := by
  simp [refusal]

theorem passes_size_iff : refusal router r .size = none ↔ r.body.length ≤ 2097152 := by
  simp [refusal]

/-- The decoder lets pass what it can read. -/
theorem passes_decoding_iff :
    refusal router r .decoding = none ↔ ∃ request, Json.decodeWith .on OpeningRequest r.body = .ok request := by
  cases h : Json.decodeWith .on OpeningRequest r.body with
  | ok request => simp [refusal, h]
  | error report => simp [refusal, h]

theorem passes_gate_iff : refusal router r .gate = none ↔ router.gate.isOpenTo r = true := by
  simp [refusal]

/-- The service lets pass everything once no template is missing. -/
theorem passes_service_iff : refusal router r .service = none ↔ router.service.templates.IsComplete := by
  simp only [refusal, Option.map_eq_none_iff, IntroTemplates.firstMissing?_eq_none_iff]

end Passing

end Stage

section OpenChat

open Stage

variable {router : Router} {ids : Nat → Uuid} {r : Request} {s : Stage} {a : Answer}

/-- An admitted request is answered with what the service answers. -/
theorem openChat_of_response {request : OpeningRequest} {response : OpeningResponse}
    (hadmitted : router.admitted r = .ok request) (hresponse : (router.service.openChat ids request).1 = .ok response) :
    (router.openChat ids r).1 = .json 200 (Json.encode response) := by
  rcases hlogged : router.service.openChat ids request with ⟨outcome, logs⟩
  rw [hlogged] at hresponse
  subst hresponse
  simp only [Router.openChat, hadmitted, hlogged]

/-- A fault of the service is the answer to a request that has been admitted. -/
theorem openChat_of_fault {request : OpeningRequest} {fault : OpeningFault}
    (hadmitted : router.admitted r = .ok request) (hfault : (router.service.openChat ids request).1 = .error fault) :
    (router.openChat ids r).1 = .refused 500 fault.message := by
  rcases hlogged : router.service.openChat ids request with ⟨outcome, logs⟩
  rw [hlogged] at hfault
  subst hfault
  simp only [Router.openChat, hadmitted, hlogged]

/-- What the service is asked, if the first stages let the request pass. -/
theorem admitted_of_passed {request : OpeningRequest} (hm : refusal router r .mediaType = none)
    (hs : refusal router r .size = none) (hd : Json.decodeWith .on OpeningRequest r.body = .ok request)
    (hg : refusal router r .gate = none) : router.admitted r = .ok request := by
  have htype := passes_mediaType_iff.1 hm
  have hsize := Nat.not_lt.2 (passes_size_iff.1 hs)
  have hopen := passes_gate_iff.1 hg
  simp [Router.admitted, Router.longestBody, htype, hsize, hd, hopen]

/-- What the last stage answers is the fault of the service. -/
theorem fault_of_isFirst (h : Stage.service.IsFirst router r a) :
    ∃ request fault, Json.decodeWith .on OpeningRequest r.body = .ok request ∧
      (router.service.openChat ids request).1 = .error fault ∧ a = .refused 500 fault.message := by
  obtain ⟨hrefusal, hearlier⟩ := h
  obtain ⟨request, hdecode⟩ := passes_decoding_iff.1 (hearlier .decoding (by decide))
  obtain ⟨key, hkey, rfl⟩ := refuses_service_iff.1 hrefusal
  refine ⟨request, ?_⟩
  rcases OpeningService.openChat_cases router.service ids request with
    ⟨welcome, briefing, callToAction, hw, hb, hc, -⟩ | ⟨name, hname, herr⟩
  · have hnone := IntroTemplates.firstMissing?_eq_none_iff.2 (OpeningService.isComplete_of_templates hw hb hc)
    rw [hkey] at hnone
    cases hnone
  · have hsame := IntroTemplates.firstMissing?_eq_some_iff.2 hname
    rw [hkey, Option.some.injEq] at hsame
    refine ⟨⟨.missing name⟩, hdecode, ?_, ?_⟩
    · rw [herr]
    · rw [OpeningService.message_missing, hsame]

/-- What the stages before the service refuse is not admitted. -/
theorem not_admitted_of_isFirst (hs : s ≠ .service) (h : s.IsFirst router r a) :
    ∃ refusal : Refusal, router.admitted r = .error refusal ∧ refusal.answer = a := by
  obtain ⟨hrefusal, hearlier⟩ := h
  cases s with
  | mediaType =>
    obtain ⟨htype, rfl⟩ := refuses_mediaType_iff.1 hrefusal
    exact ⟨.mediaType, by simp [Router.admitted, htype], rfl⟩
  | size =>
    have htype := passes_mediaType_iff.1 (hearlier .mediaType (by decide))
    obtain ⟨hlong, rfl⟩ := refuses_size_iff.1 hrefusal
    exact ⟨.tooLong, by simp [Router.admitted, Router.longestBody, htype, hlong], rfl⟩
  | decoding =>
    have htype := passes_mediaType_iff.1 (hearlier .mediaType (by decide))
    have hshort := Nat.not_lt.2 (passes_size_iff.1 (hearlier .size (by decide)))
    obtain ⟨report, hdecode, rfl⟩ := refuses_decoding_iff.1 hrefusal
    exact ⟨.undecodable report, by simp [Router.admitted, Router.longestBody, htype, hshort, hdecode], rfl⟩
  | gate =>
    have htype := passes_mediaType_iff.1 (hearlier .mediaType (by decide))
    have hshort := Nat.not_lt.2 (passes_size_iff.1 (hearlier .size (by decide)))
    obtain ⟨request, hdecode⟩ := passes_decoding_iff.1 (hearlier .decoding (by decide))
    obtain ⟨hclosed, rfl⟩ := refuses_gate_iff.1 hrefusal
    exact ⟨.unauthorized, by simp [Router.admitted, Router.longestBody, htype, hshort, hdecode, hclosed], rfl⟩
  | service => exact absurd rfl hs

/-- The answer is that of the first stage that refuses the request. -/
theorem openChat_of_isFirst (h : s.IsFirst router r a) : (router.openChat ids r).1 = a := by
  by_cases hs : s = .service
  · subst hs
    obtain ⟨request, fault, hdecode, hfault, rfl⟩ := @fault_of_isFirst router ids r a h
    have hadmitted := admitted_of_passed (h.2 .mediaType (by decide)) (h.2 .size (by decide)) hdecode
      (h.2 .gate (by decide))
    exact openChat_of_fault hadmitted hfault
  · obtain ⟨refusal, hrefused, rfl⟩ := not_admitted_of_isFirst hs h
    simp only [Router.openChat, hrefused]

/-- If no stage refuses the request, the answer is the response of the service. -/
theorem openChat_of_passed (h : ∀ s : Stage, s.refusal router r = none) :
    ∃ request response, Json.decodeWith .on OpeningRequest r.body = .ok request ∧
      (router.service.openChat ids request).1 = .ok response ∧
      (router.openChat ids r).1 = .json 200 (Json.encode response) := by
  obtain ⟨request, hdecode⟩ := passes_decoding_iff.1 (h .decoding)
  have hadmitted := admitted_of_passed (h .mediaType) (h .size) hdecode (h .gate)
  have hcomplete := passes_service_iff.1 (h .service)
  obtain ⟨response, hresponse⟩ := (OpeningService.openChat_succeeds_iff router.service ids request).2 hcomplete
  exact ⟨request, response, hdecode, hresponse, openChat_of_response hadmitted hresponse⟩

end OpenChat

section Handle

open Stage

variable {router : Router} {ids : Nat → Uuid} {r : Request}

/-- Requests that open a chat are handled by the opening alone. -/
theorem handle_of_opensChat (h : r.OpensChat) :
    router.handle ids r = ((router.openChat ids r).1.shared, (router.openChat ids r).2) := by
  have hroute : Route.ofPath? r.path = some .openChat := by
    rw [h.path]
    decide
  have hrouted : router.routed ids r = router.openChat ids r := by
    simp [Router.routed, hroute, h.method, Route.methods]
  simp [Router.handle, h.method, hrouted, Answer.shared]

/-- A request to open a chat is answered by the first stage that refuses it, the service with its fault, and with the
response of the service if none does. An answer of a stage does not depend on what only later stages look at. A body of
the greatest length is not too long, and only requests that pass all stages before the service are answered with the
statuses of the service. -/
theorem handle_answers_first_refusal (router : Router) (ids : Nat → Uuid) (r : Request) (h : r.OpensChat) :
    ((∃ (s : Stage) (a : Answer), s.IsFirst router r a ∧ (router.handle ids r).1 = a.shared ∧
        (s = .service → ∃ request fault, Json.decodeWith .on OpeningRequest r.body = .ok request ∧
          (router.service.openChat ids request).1 = .error fault ∧ a = .refused 500 fault.message)) ∨
      (∀ s : Stage, s.refusal router r = none) ∧
        ∃ request response, Json.decodeWith .on OpeningRequest r.body = .ok request ∧
          (router.service.openChat ids request).1 = .ok response ∧
          (router.handle ids r).1 = (Answer.json 200 (Json.encode response)).shared)
      ∧
    (∀ (s : Stage) (a : Answer), s.IsFirst router r a →
      ∀ (other : Router) (others : Nat → Uuid) (q : Request), q.OpensChat →
        (∀ t : Stage, t.rank ≤ s.rank → t.SameView router r other q) →
        (other.handle others q).1 = (router.handle ids r).1)
      ∧
    (r.body.length = 2097152 → (router.handle ids r).1.status ≠ 413)
      ∧
    ((router.handle ids r).1.status = 200 ∨ (router.handle ids r).1.status = 500 →
      ∀ s : Stage, s ≠ .service → s.refusal router r = none) := by
  have hcases := exists_isFirst_or_passed router r
  refine ⟨?_, ?_, ?_, ?_⟩
  · rw [handle_of_opensChat h]
    rcases hcases with ⟨s, a, hfirst⟩ | hpassed
    · refine .inl ⟨s, a, hfirst, by rw [openChat_of_isFirst hfirst], ?_⟩
      rintro rfl
      exact fault_of_isFirst hfirst
    · obtain ⟨request, response, hdecode, hresponse, hanswer⟩ := @openChat_of_passed router ids r hpassed
      exact .inr ⟨hpassed, request, response, hdecode, hresponse, by rw [hanswer]⟩
  · intro s a hfirst other others q hq hview
    rw [handle_of_opensChat h, handle_of_opensChat hq, openChat_of_isFirst hfirst,
      openChat_of_isFirst (isFirst_congr hfirst hview)]
  · intro hlength hstatus
    rw [handle_of_opensChat h] at hstatus
    rcases hcases with ⟨s, a, hfirst⟩ | hpassed
    · rw [openChat_of_isFirst hfirst] at hstatus
      have hs : s = .size := eq_of_status_mem hfirst.1 (List.mem_singleton.2 hstatus)
      subst hs
      exact absurd hlength (Nat.ne_of_gt (refuses_size_iff.1 hfirst.1).1)
    · obtain ⟨request, response, -, -, hanswer⟩ := @openChat_of_passed router ids r hpassed
      rw [hanswer] at hstatus
      cases hstatus
  · intro hstatus t ht
    rw [handle_of_opensChat h] at hstatus
    rcases hcases with ⟨s, a, hfirst⟩ | hpassed
    · rw [openChat_of_isFirst hfirst] at hstatus
      have hmem := status_mem_of_refusal hfirst.1
      have hs : s = .service := by
        by_cases hs : s = .service
        · exact hs
        · have hrange := client_status_of_mem hs hmem
          have hanswered : a.status = 200 ∨ a.status = 500 := hstatus
          omega
      subst hs
      exact hfirst.2 t (rank_lt_service ht)
    · exact hpassed t

/-- A request without a content type, with a broken body and without the key of a locked router is answered like a
request without a content type, with another body and a key, to an open router without templates. -/
theorem handle_unlabelled_whatever_follows :
    (Request.mk "POST" "/generate-chat-messages" [] [0x7B]).OpensChat ∧
      (Request.mk "POST" "/generate-chat-messages" [("x-api-key", [0x6B])] [0x7B, 0x7D]).OpensChat ∧
      ((Router.mk ⟨none, ⟨.empty⟩⟩ ⟨none⟩).handle (fun _ => ⟨1⟩)
          ⟨"POST", "/generate-chat-messages", [("x-api-key", [0x6B])], [0x7B, 0x7D]⟩).1 =
        ((Router.mk ⟨none, .builtIn⟩ ⟨some "k"⟩).handle (fun _ => ⟨0⟩)
          ⟨"POST", "/generate-chat-messages", [], [0x7B]⟩).1 := by
  have hr : (Request.mk "POST" "/generate-chat-messages" [] [0x7B]).OpensChat := ⟨rfl, by decide⟩
  have hq : (Request.mk "POST" "/generate-chat-messages" [("x-api-key", [0x6B])] [0x7B, 0x7D]).OpensChat :=
    ⟨rfl, by decide⟩
  refine ⟨hr, hq, (handle_answers_first_refusal _ _ _ hr).2.1 .mediaType _ ⟨rfl, ?_⟩ _ _ _ hq ?_⟩
  · intro t ht
    cases t <;> simp [rank] at ht
  · intro t ht
    cases t with
    | mediaType =>
      show Request.header? _ "content-type" = Request.header? _ "content-type"
      decide +kernel
    | _ => simp [rank] at ht

end Handle

end Http

end ChatOpening
