import ChatOpening.Proofs.Http.KeyGate
import ChatOpening.Proofs.Http.Records

/-!
# What a client without the key is told

The gate is asked last, when the content type, the size and the body of a request are in order.  So a client without
the key is told whether they are, and apart from that only that it has no key: neither the key nor the templates nor
the service have a part in its answer.

**Input.**  A router with a key that counts, and requests to open a chat that do not carry it.

**Results.**
* `exists_isFirst_of_closed`: a request that the gate does not let pass is refused before the service is asked.
* `keyless_not_always_unauthorized`: the answer to a request without the key need not be that of the gate.
* `handle_without_key`: what the answers to two requests without the key have in common.
-/

namespace ChatOpening

namespace Http

open Stage

section Closed

variable {router other : Router} {ids others : Nat → Uuid} {r q : Request}

/-- A request that the gate does not let pass is refused by the gate or by a stage before it. -/
theorem exists_isFirst_of_closed (h : router.gate.isOpenTo r ≠ true) :
    ∃ (s : Stage) (a : Answer), s.IsFirst router r a ∧ s.rank ≤ Stage.gate.rank := by
  have hclosed : ¬ refusal router r .gate = none := fun hgate => h (passes_gate_iff.1 hgate)
  rcases exists_isFirst_or_passed router r with ⟨s, a, hfirst⟩ | hpassed
  · exact ⟨s, a, hfirst, Nat.le_of_not_lt fun hlate => hclosed (hfirst.2 .gate hlate)⟩
  · exact absurd (hpassed .gate) hclosed

/-- The stages up to a closed gate say the same of two requests with the same content type and body. -/
theorem refusal_eq_of_closed (hr : router.gate.isOpenTo r ≠ true) (hq : other.gate.isOpenTo q ≠ true)
    (htype : r.header? "content-type" = q.header? "content-type") (hbody : r.body = q.body) {s : Stage}
    (hs : s.rank ≤ Stage.gate.rank) : s.refusal router r = s.refusal other q := by
  cases s with
  | mediaType => exact refusal_congr htype
  | size => exact refusal_congr (congrArg List.length hbody)
  | decoding => exact refusal_congr hbody
  | gate => simp only [refusal, hr, hq]
  | service => exact absurd hs (by decide)

/-- Behind a closed gate nothing but the content type and the body counts. -/
theorem handle_eq_of_closed (hr : r.OpensChat) (hq : q.OpensChat) (hrclosed : router.gate.isOpenTo r ≠ true)
    (hqclosed : other.gate.isOpenTo q ≠ true) (htype : r.header? "content-type" = q.header? "content-type")
    (hbody : r.body = q.body) : (router.handle ids r).1 = (other.handle others q).1 := by
  obtain ⟨s, a, hfirst, hs⟩ := exists_isFirst_of_closed hrclosed
  have hother : s.IsFirst other q a := by
    refine ⟨?_, fun t ht => ?_⟩
    · rw [← refusal_eq_of_closed hrclosed hqclosed htype hbody hs]
      exact hfirst.1
    · rw [← refusal_eq_of_closed hrclosed hqclosed htype hbody (Nat.le_trans (Nat.le_of_lt ht) hs)]
      exact hfirst.2 t ht
  rw [handle_of_opensChat hr, handle_of_opensChat hq, openChat_of_isFirst hfirst, openChat_of_isFirst hother]

end Closed

section WithoutKey

variable {k : String} {r : Request}

/-- A key that counts closes the gate to the requests that do not carry it. -/
theorem closed_of_not_carriesKey (hk : ¬ ∀ c ∈ k.toList, Text.IsWhiteSpace c) (h : ¬ r.CarriesKey k) :
    (Gate.ofKey (some k)).isOpenTo r ≠ true :=
  closed_ofKey_iff.2 ⟨k, effectiveKey_eq_some_iff.2 ⟨rfl, hk⟩, h⟩

/-- A posted text carries no key. -/
theorem not_carriesKey_posted (source key : String) : ¬ (posted source).CarriesKey key := by
  have hnone : (posted source).header? Gate.header = none := by
    simp only [Request.header?, posted]
    decide +kernel
  intro h
  rw [← carriesKey_iff, hnone] at h
  cases h

/-- The requests without the key are not all answered by the gate: one with a broken body is told so. -/
theorem keyless_not_always_unauthorized :
    ¬ ∀ (service : OpeningService) (ids : Nat → Uuid) (k : String) (r q : Request),
      (¬ ∀ c ∈ k.toList, Text.IsWhiteSpace c) → r.OpensChat → q.OpensChat → ¬ r.CarriesKey k → ¬ q.CarriesKey k →
        ((Router.mk service (.ofKey (some k))).handle ids r).1.status = 401 ∧
        ((Router.mk service (.ofKey (some k))).handle ids q).1.status = 401 ∧
        ((Router.mk service (.ofKey (some k))).handle ids r).1.body =
          ((Router.mk service (.ofKey (some k))).handle ids q).1.body := by
  intro hall
  have hkept : ¬ ∀ c ∈ "secret".toList, Text.IsWhiteSpace c := fun h => absurd (h 's' (by decide)) (by decide)
  have hbroken : (posted "\x7b").OpensChat := ⟨rfl, by decide⟩
  have hwhole : (posted "[[\"\",\"\",[]],[\"\"]]").OpensChat := ⟨rfl, by decide⟩
  have hstatus := (hall ⟨none, .builtIn⟩ (fun _ => ⟨0⟩) "secret" _ _ hkept hbroken hwhole
    (not_carriesKey_posted _ _) (not_carriesKey_posted _ _)).1
  revert hstatus
  decide +kernel

/-- What the answers to two requests without the key have in common, also if they are sent to servers with different
keys and services. If content type, size and body are in order, both are the refusal of the gate. In any case the answer
is the refusal of the first check that fails, and the service is not among them. So it depends on nothing but the
content type and the body. -/
theorem handle_without_key (service other : OpeningService) (ids others : Nat → Uuid) (k l : String)
    (hk : ¬ ∀ c ∈ k.toList, Text.IsWhiteSpace c) (hl : ¬ ∀ c ∈ l.toList, Text.IsWhiteSpace c) (r q : Request)
    (hr : r.OpensChat) (hq : q.OpensChat) (hrk : ¬ r.CarriesKey k) (hql : ¬ q.CarriesKey l) :
    (r.Acceptable → q.Acceptable →
      ((Router.mk service (.ofKey (some k))).handle ids r).1 =
        (Answer.refused 401 "Invalid or missing API key").shared ∧
      ((Router.mk other (.ofKey (some l))).handle others q).1 =
        (Answer.refused 401 "Invalid or missing API key").shared)
      ∧
    (∃ (s : Stage) (a : Answer), s ≠ .service ∧ s.IsFirst (Router.mk service (.ofKey (some k))) r a ∧
      ((Router.mk service (.ofKey (some k))).handle ids r).1 = a.shared ∧ a.status ∈ [415, 413, 422, 400, 401])
      ∧
    (r.header? "content-type" = q.header? "content-type" → r.body = q.body →
      ((Router.mk service (.ofKey (some k))).handle ids r).1 =
        ((Router.mk other (.ofKey (some l))).handle others q).1) := by
  have hrclosed := closed_of_not_carriesKey hk hrk
  have hqclosed := closed_of_not_carriesKey hl hql
  refine ⟨?inOrder, ?first, handle_eq_of_closed hr hq hrclosed hqclosed⟩
  case inOrder =>
    intro hra hqa
    exact ⟨handle_of_acceptable hra hrclosed, handle_of_acceptable hqa hqclosed⟩
  case first =>
    obtain ⟨s, a, hfirst, hs⟩ :=
      @exists_isFirst_of_closed (Router.mk service (.ofKey (some k))) r hrclosed
    refine ⟨s, a, ?_, hfirst, ?_, ?_⟩
    · rintro rfl
      exact absurd hs (by decide)
    · rw [handle_of_opensChat hr, openChat_of_isFirst hfirst]
    · have hmem := status_mem_of_refusal hfirst.1
      cases s with
      | service => exact absurd hs (by decide)
      | _ =>
        simp only [statuses, List.mem_cons, List.not_mem_nil, or_false] at hmem ⊢
        omega

/-- A posted text of an allowed size that can be decoded is turned away by the gate only. -/
theorem acceptable_posted {source : String} (hsize : (Text.bytes source).length ≤ 2097152)
    (hbody : refusal ⟨⟨none, .builtIn⟩, ⟨none⟩⟩ (posted source) .decoding = none) : (posted source).Acceptable :=
  have hreceives := receives_posted ⟨none, .builtIn⟩ hsize
  ⟨hreceives.opensChat, hreceives.mediaType, hsize, passes_decoding_iff.1 hbody⟩

/-- Two requests that are in order but for the key, to servers with different keys, of which one has no templates. -/
theorem handle_posted_without_key :
    (posted "[[\"\",\"\",[]],[\"\"]]").Acceptable ∧ (posted "[[\"n\",\"d\",[\"v\"]],[\"u\"]]").Acceptable ∧
      ((Router.mk ⟨none, .builtIn⟩ (.ofKey (some "secret"))).handle (fun _ => ⟨0⟩)
        (posted "[[\"\",\"\",[]],[\"\"]]")).1 = (Answer.refused 401 "Invalid or missing API key").shared ∧
      ((Router.mk ⟨none, ⟨.empty⟩⟩ (.ofKey (some "other"))).handle (fun _ => ⟨1⟩)
        (posted "[[\"n\",\"d\",[\"v\"]],[\"u\"]]")).1 =
          (Answer.refused 401 "Invalid or missing API key").shared := by
  have hr : (posted "[[\"\",\"\",[]],[\"\"]]").Acceptable := acceptable_posted (by decide) (by decide +kernel)
  have hq : (posted "[[\"n\",\"d\",[\"v\"]],[\"u\"]]").Acceptable := acceptable_posted (by decide) (by decide +kernel)
  have hsecret : ¬ ∀ c ∈ "secret".toList, Text.IsWhiteSpace c := fun h => absurd (h 's' (by decide)) (by decide)
  have hother : ¬ ∀ c ∈ "other".toList, Text.IsWhiteSpace c := fun h => absurd (h 'o' (by decide)) (by decide)
  obtain ⟨hboth, -, -⟩ := handle_without_key ⟨none, .builtIn⟩ ⟨none, ⟨.empty⟩⟩ (fun _ => ⟨0⟩) (fun _ => ⟨1⟩) "secret" "other"
    hsecret hother _ _ hr.opensChat hq.opensChat (not_carriesKey_posted _ _) (not_carriesKey_posted _ _)
  exact ⟨hr, hq, hboth hr hq⟩

end WithoutKey

end Http

end ChatOpening
