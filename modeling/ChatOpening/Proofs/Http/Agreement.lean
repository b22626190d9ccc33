import ChatOpening.Proofs.Http.Stages
import ChatOpening.Proofs.Json.Tracking
import ChatOpening.Proofs.Json.Written
import ChatOpening.Proofs.Json.TextualValues

/-!
# The router and the service by itself

Whoever posts a text to the router gets what the decoder and the service give for the same text: the response in JSON,
the words of the decoder's report, or the words of the service's fault.

**Results.**
* `refused_body_decodes`: the body of a refusal is read back as what it says.
* `handle_agrees`: what the router answers, from what the decoder and the service give.
-/

namespace ChatOpening

namespace Http

/-- The text reaches the decoder of the router, and what it means may pass the gate. -/
structure Router.Receives (router : Router) (r : Request) (source : String) : Prop where
  opensChat : r.OpensChat
  mediaType : Router.isJsonRequest r = true
  body : r.body = Text.bytes source
  size : r.body.length ≤ 2097152
  gate : router.gate.isOpenTo r = true

/-- The body of a refusal is an object that says that there was no success, and why. -/
theorem refused_body_decodes (status : Nat) (message : String) :
    Json.Schema.object.decode .off (Text.bytes (Answer.refused status message).body) =
      .ok [("message", .text message), ("success", .truth false)] := by
  have hwritten : (Answer.refused status message).body = Json.writtenObject (Json.Value.writtenMembers
      [("success", .truth false), ("message", .text message)]) :=
    rfl
  rw [hwritten]
  have hbefore : "message" < "success" := by
    decide
  have hmembers : Json.gathered Json.putMember [] [("success", Json.Value.truth false), ("message", .text message)] =
      [("message", .text message), ("success", .truth false)] := by
    simp only [Json.gathered, List.foldl_cons, List.foldl_nil, Json.putMember, putEntry, if_pos hbefore]
  have hread := Json.decode_writtenObject .off [("success", .truth false), ("message", .text message)]
    ⟨trivial, trivial, trivial⟩ ⟨trivial, trivial, trivial⟩ (Nat.zero_lt_succ _)
  exact hread.trans (congrArg Except.ok hmembers)

section Agreement

open Stage

variable {router : Router} {ids : Nat → Uuid} {r : Request} {source : String}

/-- What the router admits is what the decoder reads. -/
theorem admitted_eq_ok_iff (h : router.Receives r source) {request : OpeningRequest} :
    router.admitted r = .ok request ↔ Json.decode OpeningRequest (Text.bytes source) = .ok request := by
  have hshort : ¬ Router.longestBody < r.body.length := Nat.not_lt.2 h.size
  have hdecode : Json.decodeWith .on OpeningRequest r.body = .ok request ↔
      Json.decode OpeningRequest (Text.bytes source) = .ok request := by
    rw [h.body, Json.decode]
    exact Json.decodeWith_eq_ok_iff
  rw [← hdecode]
  simp only [Router.admitted, h.mediaType, hshort, h.gate]
  cases Json.decodeWith .on OpeningRequest r.body with
  | ok other => simp
  | error report => simp

/-- The router reports what the decoder reports, with the way to the value in question. -/
theorem admitted_of_report (h : router.Receives r source) {report : Json.Report}
    (hdecode : Json.decode OpeningRequest (Text.bytes source) = .error report) :
    ∃ other : Json.Report, router.admitted r = .error (.undecodable other) ∧ other.cause = report.cause ∧
      other.message = report.message := by
  have hshort : ¬ Router.longestBody < r.body.length := Nat.not_lt.2 h.size
  obtain ⟨other, hother, hcause, hmessage⟩ :=
    @Json.exists_report_of_decodeWith OpeningRequest _ .off .on _ _ hdecode
  rw [← h.body] at hother
  refine ⟨other, ?_, hcause, hmessage⟩
  simp [Router.admitted, h.mediaType, hshort, hother]

/-- For a text that reaches the decoder, the router and the library agree. It admits the request that the decoder gives
for the text; a report of the decoder is answered with its words, and says something else than that the text is none;
a response of the service is answered with its text, and a fault with a refusal that is read back as its words. -/
theorem handle_agrees (router : Router) (ids : Nat → Uuid) (r : Request) (source : String)
    (h : router.Receives r source) :
    (∀ request, router.admitted r = .ok request ↔ Json.decode OpeningRequest (Text.bytes source) = .ok request)
      ∧
    (∀ report, Json.decode OpeningRequest (Text.bytes source) = .error report →
      (router.handle ids r).1.status = (if report.cause.class = .data then 422 else 400) ∧
      (∃ front, (router.handle ids r).1.body = front ++ report.message) ∧
      report.cause ≠ .notUtf8)
      ∧
    (∀ request response, Json.decode OpeningRequest (Text.bytes source) = .ok request →
      (router.service.openChat ids request).1 = .ok response →
      (router.handle ids r).1.status = 200 ∧ (router.handle ids r).1.body = Json.encode response)
      ∧
    (∀ request fault, Json.decode OpeningRequest (Text.bytes source) = .ok request →
      (router.service.openChat ids request).1 = .error fault →
      (router.handle ids r).1.status = 500 ∧
      Json.Schema.object.decode .off (Text.bytes (router.handle ids r).1.body) =
        .ok [("message", .text fault.message), ("success", .truth false)]) := by
  rw [handle_of_opensChat h.opensChat]
  refine ⟨fun request => admitted_eq_ok_iff h, ?_, ?_, ?_⟩
  · intro report hdecode
    obtain ⟨other, hreported, hcause, hmessage⟩ := admitted_of_report h hdecode
    obtain ⟨front, hfront⟩ := other.exists_locatedMessage_eq
    simp only [Router.openChat, hreported, answer_undecodable, hcause, hfront, hmessage]
    refine ⟨?_, ?_, Json.cause_ne_notUtf8 hdecode⟩
    · split <;> rfl
    · split
      · exact ⟨_, (String.append_assoc).symm⟩
      · exact ⟨_, (String.append_assoc).symm⟩
  · intro request response hdecode hresponse
    rw [openChat_of_response ((admitted_eq_ok_iff h).2 hdecode) hresponse]
    exact ⟨rfl, rfl⟩
  · intro request fault hdecode hfault
    rw [openChat_of_fault ((admitted_eq_ok_iff h).2 hdecode) hfault]
    exact ⟨rfl, refused_body_decodes 500 fault.message⟩

/-- A request with nothing but a content type and a text. -/
def posted (source : String) : Request where
  method := "POST"
  target := "/generate-chat-messages"
  headers := [("content-type", Text.bytes "application/json")]
  body := Text.bytes source

/-- Without a key, the posted text reaches the decoder unless it is too long. -/
theorem receives_posted (service : OpeningService) (hsize : (Text.bytes source).length ≤ 2097152) :
    (Router.mk service ⟨none⟩).Receives (posted source) source := by
  -- Neither the path nor the content type depends on the text.
  have hpath : (posted source).path = (posted "").path := by
    simp only [Request.path, posted]
  have hmedia : Router.isJsonRequest (posted source) = Router.isJsonRequest (posted "") := by
    simp only [Router.isJsonRequest, Request.header?, posted]
  refine ⟨⟨rfl, hpath.trans ?_⟩, hmedia.trans ?_, rfl, hsize, rfl⟩
  · decide
  · decide +kernel

/-- A number where a text is wanted. -/
def numberAmongTopics : String :=
  "[[\"\",\"\",[1]],[\"\"]]"

/-- The number is reported over HTTP with the words of the library, behind the way to it. -/
theorem handle_numberAmongTopics :
    ((Router.mk ⟨none, .builtIn⟩ ⟨none⟩).handle (fun _ => ⟨0⟩) (posted numberAmongTopics)).1.status = 422 ∧
      ((Router.mk ⟨none, .builtIn⟩ ⟨none⟩).handle (fun _ => ⟨0⟩) (posted numberAmongTopics)).1.body =
        "Failed to deserialize the JSON body into the target type: [0][2][0]: " ++
          "invalid type: integer `1`, expected a string at line 1 column 10" ∧
      ∃ report front, Json.decode OpeningRequest (Text.bytes numberAmongTopics) = .error report ∧
        ((Router.mk ⟨none, .builtIn⟩ ⟨none⟩).handle (fun _ => ⟨0⟩) (posted numberAmongTopics)).1.body =
          front ++ report.message := by
  have hreceives : (Router.mk ⟨none, .builtIn⟩ ⟨none⟩).Receives (posted numberAmongTopics) numberAmongTopics :=
    receives_posted _ (by decide)
  have hstatus : ((Router.mk ⟨none, .builtIn⟩ ⟨none⟩).handle (fun _ => ⟨0⟩)
      (posted numberAmongTopics)).1.status = 422 := by
    decide +kernel
  obtain ⟨-, hreported, hanswered, hfailed⟩ := handle_agrees _ (fun _ => ⟨0⟩) _ _ hreceives
  refine ⟨hstatus, by decide +kernel, ?_⟩
  cases hdecode : Json.decode OpeningRequest (Text.bytes numberAmongTopics) with
  | error report =>
    obtain ⟨front, hbody⟩ := (hreported report hdecode).2.1
    exact ⟨report, front, rfl, hbody⟩
  | ok request =>
    -- A request is answered with one of two other statuses.
    cases houtcome : ((⟨none, .builtIn⟩ : OpeningService).openChat (fun _ => ⟨0⟩) request).1 with
    | ok response =>
      have hother := (hanswered request response hdecode houtcome).1
      rw [hstatus] at hother
      cases hother
    | error fault =>
      have hother := (hfailed request fault hdecode houtcome).1
      rw [hstatus] at hother
      cases hother

end Agreement

end Http

end ChatOpening
