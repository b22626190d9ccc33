import ChatOpening.Proofs.Http.Agreement

/-!
# What is logged with an answer

The records that come with an answer can be read off its status: a closed gate warns, the service says that it starts
and, if it fails, why, and nothing else is logged.  So the service is asked once for each answer that it makes, and for
no other answer.

**Input.**  Any router, and a request with any method, target, headers and body.

**Results.**
* `handle_of_not_opensChat`: requests that do not open a chat are answered without a record, and alike by all routers.
* `openChat_cases`: a request to open a chat is refused, or it is handed to the service.
* `handle_records`: the records that come with each answer.
-/

namespace ChatOpening

namespace Http

/-- The record with which the service begins. -/
def isStart (record : Journal.Record) : Bool :=
  record.level = .info && record.origin = .opening

/-- The record of a closed gate. -/
def rejectedRecord : Journal.Record :=
  ⟨.warn, .api, "Rejected request with missing or invalid API key"⟩

section OtherRequests

variable {router : Router} {ids : Nat → Uuid} {r : Request}

/-- Only one path is that of the opening of a chat. -/
theorem ofPath?_eq_openChat_iff {path : String} :
    Route.ofPath? path = some .openChat ↔ path = "/generate-chat-messages" := by
  simp only [Route.ofPath?]
  split
  · next h => simp [h]
  · split
    · next h => simp [h]
    · next h => simp [h]

/-- Requests that do not open a chat are answered alike by all routers, and nothing is logged. -/
theorem handle_of_not_opensChat (h : ¬ r.OpensChat) :
    (router.handle ids r).2 = [] ∧
      (router.handle ids r).1.status ∈ [200, 404, 405] ∧
      ∀ (other : Router) (others : Nat → Uuid), other.handle others r = router.handle ids r := by
  by_cases hmethod : r.method = "OPTIONS"
  · simp [Router.handle, hmethod, Router.preflight, Answer.empty]
  · cases hroute : Route.ofPath? r.path with
    | none => simp [Router.handle, hmethod, Router.routed, hroute, Answer.empty]
    | some route =>
      by_cases hallowed : r.method ∈ route.methods
      · cases route with
        | health => simp [Router.handle, hmethod, Router.routed, hroute, hallowed, Router.health, Answer.json]
        | openChat =>
          have hpost : r.method = "POST" := by
            simpa [Route.methods] using hallowed
          exact absurd ⟨hpost, ofPath?_eq_openChat_iff.1 hroute⟩ h
      · simp [Router.handle, hmethod, Router.routed, hroute, hallowed, Answer.empty]

end OtherRequests

section OpenChat

open OpeningService (startRecord faultRecord)

variable {router : Router} {ids : Nat → Uuid} {r : Request} {request : OpeningRequest} {refusal : Refusal}

/-- What is admitted is what the body means. -/
theorem decodeWith_of_admitted (h : router.admitted r = .ok request) :
    Json.decodeWith .on OpeningRequest r.body = .ok request := by
  simp only [Router.admitted] at h
  split at h
  · cases h
  split at h
  · cases h
  split at h
  · cases h
  · next other hdecode =>
    split at h
    · cases h
      exact hdecode
    · cases h

/-- A request to open a chat is refused, or the service answers it, with a response or with a fault. -/
theorem openChat_cases (router : Router) (ids : Nat → Uuid) (r : Request) :
    (∃ refusal : Refusal, router.admitted r = .error refusal ∧
        router.openChat ids r = (refusal.answer, refusal.logs)) ∨
      (∃ request response, router.admitted r = .ok request ∧
        router.service.openChat ids request = (.ok response, [startRecord request]) ∧
        router.openChat ids r = (.json 200 (Json.encode response), [startRecord request])) ∨
      ∃ request fault, router.admitted r = .ok request ∧
        router.service.openChat ids request = (.error fault, [startRecord request, faultRecord fault.message]) ∧
        router.openChat ids r = (.refused 500 fault.message, [startRecord request, faultRecord fault.message]) := by
  cases hadmitted : router.admitted r with
  | error refusal => exact .inl ⟨refusal, rfl, by simp only [Router.openChat, hadmitted]⟩
  | ok request =>
    rcases OpeningService.openChat_cases router.service ids request with
      ⟨welcome, briefing, callToAction, -, -, -, hok⟩ | ⟨name, -, herror⟩
    · refine .inr (.inl ⟨request, _, rfl, hok, ?_⟩)
      simp only [Router.openChat, hadmitted, hok]
    · rw [← OpeningService.message_missing] at herror
      refine .inr (.inr ⟨request, ⟨.missing name⟩, rfl, herror, ?_⟩)
      simp only [Router.openChat, hadmitted, herror]

/-- Only a closed gate is logged, and its answer has a status of its own. -/
theorem refusal_cases (refusal : Refusal) :
    (refusal = .unauthorized ∧ refusal.answer.status = 401 ∧ refusal.logs = [rejectedRecord]) ∨
      (refusal.answer.status ∈ [415, 413, 422, 400] ∧ refusal.logs = []) := by
  cases refusal with
  | mediaType => exact .inr ⟨by decide, rfl⟩
  | tooLong => exact .inr ⟨by decide, rfl⟩
  | undecodable report =>
    refine .inr ⟨?_, rfl⟩
    rw [answer_undecodable]
    split <;> simp [Answer.plain]
  | unauthorized => exact .inl ⟨rfl, rfl, rfl⟩

/-- A refused request is refused by every router with the same gate. -/
theorem openChat_of_refused (h : router.admitted r = .error refusal) (service : OpeningService) (others : Nat → Uuid) :
    (Router.mk service router.gate).openChat others r = router.openChat ids r := by
  have hsame : (Router.mk service router.gate).admitted r = .error refusal := h
  simp only [Router.openChat, h, hsame]

/-- The first record alone has one start. -/
theorem countP_startRecord (request : OpeningRequest) : [startRecord request].countP isStart = 1 := by
  simp [startRecord, isStart]

theorem countP_faultRecord (request : OpeningRequest) (message : String) :
    [startRecord request, faultRecord message].countP isStart = 1 := by
  simp [startRecord, faultRecord, isStart]

end OpenChat

section Records

open OpeningService (startRecord faultRecord)

variable {router : Router} {ids : Nat → Uuid} {r : Request}

/-- An answer is that of a closed gate, of another check or another path, or of the service. -/
theorem handle_cases (router : Router) (ids : Nat → Uuid) (r : Request) :
    (((router.handle ids r).1.status = 401 ∧ (router.handle ids r).2 = [rejectedRecord] ∨
        (router.handle ids r).1.status ∉ [401, 500] ∧ ¬ (r.OpensChat ∧ (router.handle ids r).1.status = 200) ∧
          (router.handle ids r).2 = []) ∧
      ∀ (service : OpeningService) (others : Nat → Uuid),
        (Router.mk service router.gate).handle others r = router.handle ids r) ∨
      (∃ request response, r.OpensChat ∧ Json.decodeWith .on OpeningRequest r.body = .ok request ∧
        router.service.openChat ids request = (.ok response, [startRecord request]) ∧
        router.handle ids r = ((Answer.json 200 (Json.encode response)).shared, [startRecord request])) ∨
      ∃ request fault, r.OpensChat ∧ Json.decodeWith .on OpeningRequest r.body = .ok request ∧
        router.service.openChat ids request = (.error fault, [startRecord request, faultRecord fault.message]) ∧
        router.handle ids r =
          ((Answer.refused 500 fault.message).shared, [startRecord request, faultRecord fault.message]) := by
  by_cases h : r.OpensChat
  · rw [handle_of_opensChat h]
    rcases openChat_cases router ids r with ⟨refusal, hrefused, hopen⟩ | ⟨request, response, hadmitted, hrun, hopen⟩ |
      ⟨request, fault, hadmitted, hrun, hopen⟩
    · refine .inl ⟨?_, ?_⟩
      · rw [hopen]
        rcases refusal_cases refusal with ⟨-, hstatus, hlogs⟩ | ⟨hstatus, hlogs⟩
        · exact .inl ⟨hstatus, hlogs⟩
        · refine .inr ⟨?_, ?_, hlogs⟩
          · simp only [List.mem_cons, List.not_mem_nil, or_false, Answer.shared] at hstatus ⊢
            omega
          · rintro ⟨-, hopened⟩
            simp only [List.mem_cons, List.not_mem_nil, or_false, Answer.shared] at hstatus hopened
            omega
      · intro service others
        rw [handle_of_opensChat h, @openChat_of_refused router ids r refusal hrefused]
    · exact .inr (.inl ⟨request, response, h, decodeWith_of_admitted hadmitted, hrun, by rw [hopen]⟩)
    · exact .inr (.inr ⟨request, fault, h, decodeWith_of_admitted hadmitted, hrun, by rw [hopen]⟩)
  · obtain ⟨hlogs, hstatus, halike⟩ := @handle_of_not_opensChat router ids r h
    refine .inl ⟨.inr ⟨?_, fun hopened => h hopened.1, hlogs⟩, fun service others => halike _ others⟩
    simp only [List.mem_cons, List.not_mem_nil, or_false] at hstatus ⊢
    omega

/-- A closed gate is the only check whose answer has a record, which is always the same. -/
theorem logs_of_unauthorized (h : (router.handle ids r).1.status = 401) :
    (router.handle ids r).2 = [rejectedRecord] := by
  rcases handle_cases router ids r with ⟨⟨-, hlogs⟩ | ⟨hstatus, -⟩, -⟩ | ⟨request, response, -, -, -, heq⟩ |
    ⟨request, fault, -, -, -, heq⟩
  · exact hlogs
  · rw [h] at hstatus
    exact absurd (by decide) hstatus
  · rw [heq] at h
    cases h
  · rw [heq] at h
    cases h

/-- Behind an answer with the status of a fault the service has been started and has failed. -/
theorem exists_fault_of_status (h : (router.handle ids r).1.status = 500) : ∃ request fault,
    Json.decodeWith .on OpeningRequest r.body = .ok request ∧
      router.service.openChat ids request = (.error fault, [startRecord request, faultRecord fault.message]) ∧
      router.handle ids r =
        ((Answer.refused 500 fault.message).shared, [startRecord request, faultRecord fault.message]) := by
  rcases handle_cases router ids r with ⟨⟨hstatus, -⟩ | ⟨hstatus, -⟩, -⟩ | ⟨request, response, -, -, -, heq⟩ |
    ⟨request, fault, -, hdecode, hrun, heq⟩
  · rw [h] at hstatus
    cases hstatus
  · rw [h] at hstatus
    exact absurd (by decide) hstatus
  · rw [heq] at h
    cases h
  · exact ⟨request, fault, hdecode, hrun, heq⟩

/-- Behind the answer that a chat is open the service has been started and has responded. -/
theorem exists_response_of_status (hopens : r.OpensChat) (h : (router.handle ids r).1.status = 200) :
    ∃ request response,
      Json.decodeWith .on OpeningRequest r.body = .ok request ∧
        router.service.openChat ids request = (.ok response, [startRecord request]) ∧
        router.handle ids r = ((Answer.json 200 (Json.encode response)).shared, [startRecord request]) := by
  rcases handle_cases router ids r with ⟨⟨hstatus, -⟩ | ⟨-, hclosed, -⟩, -⟩ |
    ⟨request, response, -, hdecode, hrun, heq⟩ | ⟨request, fault, -, -, -, heq⟩
  · rw [h] at hstatus
    cases hstatus
  · exact absurd ⟨hopens, h⟩ hclosed
  · exact ⟨request, response, hdecode, hrun, heq⟩
  · rw [heq] at h
    cases h

/-- All other answers are given without the service, and only that of a closed gate has a record. -/
theorem logs_of_unserved
    (h : ¬ (r.OpensChat ∧ ((router.handle ids r).1.status = 200 ∨ (router.handle ids r).1.status = 500))) :
    ((router.handle ids r).1.status = 401 ∧ (router.handle ids r).2 = [rejectedRecord] ∨
        (router.handle ids r).2 = []) ∧
      ∀ (service : OpeningService) (others : Nat → Uuid),
        (Router.mk service router.gate).handle others r = router.handle ids r := by
  rcases handle_cases router ids r with ⟨hkind, halike⟩ | ⟨request, response, hopens, -, -, heq⟩ |
    ⟨request, fault, hopens, -, -, heq⟩
  · refine ⟨?_, halike⟩
    rcases hkind with hgate | ⟨-, -, hlogs⟩
    · exact .inl hgate
    · exact .inr hlogs
  · refine absurd ⟨hopens, .inl ?_⟩ h
    rw [heq]
    rfl
  · refine absurd ⟨hopens, .inr ?_⟩ h
    rw [heq]
    rfl

/-- The records of an answer. A closed gate warns; a fault of the service comes with the start of the service and the
fault, which is also the message of the answer; an opened chat comes with the start of the service alone; every other
answer comes without records. So the service starts once for every answer of its own, and its records are those of the
answer; any other answer would be the same with another service. -/
theorem handle_records (router : Router) (ids : Nat → Uuid) (r : Request) :
    ((router.handle ids r).1.status = 401 →
      (router.handle ids r).2 = [⟨.warn, .api, "Rejected request with missing or invalid API key"⟩])
      ∧
    ((router.handle ids r).1.status = 500 → ∃ request message,
      Json.decodeWith .on OpeningRequest r.body = .ok request ∧
      (router.handle ids r).2 = [startRecord request, faultRecord message] ∧
      Json.Schema.object.decode .off (Text.bytes (router.handle ids r).1.body) =
        .ok [("message", .text message), ("success", .truth false)])
      ∧
    (r.OpensChat → (router.handle ids r).1.status = 200 → ∃ request,
      Json.decodeWith .on OpeningRequest r.body = .ok request ∧ (router.handle ids r).2 = [startRecord request])
      ∧
    ((router.handle ids r).1.status ≠ 401 → (router.handle ids r).1.status ≠ 500 →
      ¬ (r.OpensChat ∧ (router.handle ids r).1.status = 200) → (router.handle ids r).2 = [])
      ∧
    (r.OpensChat → (router.handle ids r).1.status = 200 ∨ (router.handle ids r).1.status = 500 →
      (router.handle ids r).2.countP isStart = 1 ∧
      ∃ request, Json.decodeWith .on OpeningRequest r.body = .ok request ∧
        (router.handle ids r).2 = (router.service.openChat ids request).2)
      ∧
    (¬ (r.OpensChat ∧ ((router.handle ids r).1.status = 200 ∨ (router.handle ids r).1.status = 500)) →
      (router.handle ids r).2.countP isStart = 0 ∧
      ∀ (service : OpeningService) (others : Nat → Uuid),
        (Router.mk service router.gate).handle others r = router.handle ids r) := by
  refine ⟨logs_of_unauthorized, ?fault, ?opened, ?other, ?served, ?unserved⟩
  case fault =>
    intro h
    obtain ⟨request, fault, hdecode, -, heq⟩ := exists_fault_of_status h
    refine ⟨request, fault.message, hdecode, ?_, ?_⟩
    · rw [heq]
    · rw [heq]
      exact refused_body_decodes 500 fault.message
  case opened =>
    intro hopens h
    obtain ⟨request, response, hdecode, -, heq⟩ := exists_response_of_status hopens h
    refine ⟨request, hdecode, ?_⟩
    rw [heq]
  case other =>
    intro hgate hfault hopened
    have hunserved :
        ¬ (r.OpensChat ∧ ((router.handle ids r).1.status = 200 ∨ (router.handle ids r).1.status = 500)) := by
      rintro ⟨hopens, h | h⟩
      · exact hopened ⟨hopens, h⟩
      · exact hfault h
    rcases (logs_of_unserved hunserved).1 with ⟨h, -⟩ | hlogs
    · exact absurd h hgate
    · exact hlogs
  case served =>
    rintro hopens (h | h)
    · obtain ⟨request, response, hdecode, hrun, heq⟩ := exists_response_of_status hopens h
      rw [heq]
      refine ⟨countP_startRecord request, request, hdecode, ?_⟩
      rw [hrun]
    · obtain ⟨request, fault, hdecode, hrun, heq⟩ := exists_fault_of_status h
      rw [heq]
      refine ⟨countP_faultRecord request fault.message, request, hdecode, ?_⟩
      rw [hrun]
  case unserved =>
    intro h
    obtain ⟨hlogs, halike⟩ := logs_of_unserved h
    refine ⟨?_, halike⟩
    rcases hlogs with ⟨-, hlogs⟩ | hlogs
    · rw [hlogs]
      decide
    · rw [hlogs]
      rfl

end Records

end Http

end ChatOpening
