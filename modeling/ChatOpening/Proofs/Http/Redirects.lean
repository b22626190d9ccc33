import ChatOpening.Http.Exchange
import ChatOpening.Proofs.Http.KeyGate

/-!
# Following redirects

What comes of a request is a list of hops: the requests that are answered, each with its reply.

**Input.**  Any network, any requests before, any request, and any number of redirects that may still be followed.

**Definitions.**
* `LeadsTo`: which replies lead to which place.
* `Sends`: which requests are made because of a first one, whether they are answered or not.
* `Follows`: the hops and the end, one rule for each thing that can happen.
* `RedirectLaw`: what holds of the hops.

**Results.**
* `exists_follows`: what is sent for a request follows the rules of `Follows`, step by step.
* `Follows.hop_at`: how the request of a hop comes from the hop before it.
* `Follows.sends`: the requests of the hops are made, in this order.
* `Follows.continues`: after which replies there is a further request.
* `Follows.redirectLaw`: the law of all hops, if no request for an http URL stays without reply.
* `Follows.exhausts`: what becomes of a redirect too many.
* `follow_eq_ok_iff`: the final reply is the one to a request that is made, if it leads nowhere.
-/

namespace ChatOpening

namespace Http

/-- The reply to the request leads to the place: its status is one of five, and its first location is a text that means the
place beside the URL of the request. -/
structure LeadsTo (q : Outgoing) (p : Reply) (target : Url) : Prop where
  status : p.status ∈ [301, 302, 303, 307, 308]
  location : ∃ s : String, IsFirstHeader p.headers "location" (Text.bytes s) ∧ q.url.join s = some target
  sendable : target.isSendable = true

section Steps

variable {q : Outgoing} {p : Reply} {target other : Url} {status : Nat}

/-- The statuses of the replies that lead on. -/
theorem redirects_iff : Outgoing.redirects status = true ↔ status ∈ [301, 302, 303, 307, 308] := by
  simp [Outgoing.redirects, Outgoing.repeats, or_assoc]

/-- The URL that is taken from a reply is the one to which it leads. -/
theorem destination?_eq_some_iff : q.destination? p = some target ↔ LeadsTo q p target := by
  simp only [Outgoing.destination?, redirects_iff]
  constructor
  · intro h
    split at h
    · next hstatus =>
      simp only [Option.bind_eq_bind, Option.bind_eq_some_iff, Text.ofBytes?_eq_some_iff, firstHeader_eq_some_iff] at h
      obtain ⟨_, hfirst, s, rfl, u, hjoin, hu⟩ := h
      split at hu
      · next hsendable =>
        cases hu
        exact ⟨hstatus, ⟨s, hfirst, hjoin⟩, hsendable⟩
      · cases hu
    · cases h
  · rintro ⟨hstatus, ⟨s, hfirst, hjoin⟩, hsendable⟩
    simp [hstatus, firstHeader_eq_some_iff.2 hfirst, Text.ofBytes?_eq_some_iff.2 rfl, hjoin, hsendable]

/-- A reply leads to one place. -/
theorem LeadsTo.unique (h : LeadsTo q p target) (h' : LeadsTo q p other) : target = other :=
  Option.some.inj ((destination?_eq_some_iff.2 h).symm.trans (destination?_eq_some_iff.2 h'))

/-- Requests can be made for the URLs of two schemes. -/
theorem isWeb_iff {url : Url} : url.isWeb = true ↔ url.scheme = "http" ∨ url.scheme = "https" := by
  simp [Url.isWeb]

end Steps

section Places

variable {α : Type} {x y : α} {l : List α} {k : Nat}

/-- A list with one element has it at its first place and has no other place. -/
theorem only_of_singleton (h : [x][k]? = some y) : k = 0 ∧ x = y := by
  rw [List.getElem?_singleton] at h
  split at h
  · next hk => exact ⟨hk, Option.some.inj h⟩
  · cases h

/-- Before each place but the first one there is another. -/
theorem exists_before (h : l[k + 1]? = some x) : ∃ y, l[k]? = some y := by
  obtain ⟨hlt, -⟩ := List.getElem?_eq_some_iff.1 h
  exact ⟨l[k], List.getElem?_eq_getElem (Nat.lt_of_succ_lt hlt)⟩

end Places

/-- A request is made because of a first one, so many redirects later and behind those that stand in the list: it is the
first one, or the reply to a request that is made leads to it. -/
inductive Sends (network : Network) (past : List Outgoing) (first : Outgoing) :
    (redirects : Nat) → (before : List Outgoing) → Outgoing → Prop
  | first : Sends network past first 0 past first
  | redirected {k before q p target} (made : Sends network past first k before q) (reply : network before q = some p)
      (leads : LeadsTo q p target) (web : target.isWeb = true) :
      Sends network past first (k + 1) (before ++ [q]) (q.redirected p.status target)

/-- What comes of a request: the requests that are answered, each with its reply, and the end. -/
inductive Follows (network : Network) :
    (left : Nat) → (past : List Outgoing) → Outgoing → List (Outgoing × Reply) → Except ExchangeFault Final → Prop
  | unanswered {left past q} (silent : network past q = none) :
      Follows network left past q [] (.error (.unreachable q.url))
  | final {left past q p} (reply : network past q = some p) (last : ∀ target, ¬ LeadsTo q p target) :
      Follows network left past q [(q, p)] (.ok ⟨q.url, p⟩)
  | exhausted {past q p target} (reply : network past q = some p) (leads : LeadsTo q p target) :
      Follows network 0 past q [(q, p)] (.error (.tooManyRedirects q.url))
  | unsupported {left past q p target} (reply : network past q = some p) (leads : LeadsTo q p target)
      (other : target.isWeb = false) :
      Follows network (left + 1) past q [(q, p)] (.error (.unsupportedUrl target))
  | hop {left past q p target hops result} (reply : network past q = some p) (leads : LeadsTo q p target)
      (web : target.isWeb = true)
      (rest : Follows network left (past ++ [q]) (q.redirected p.status target) hops result) :
      Follows network (left + 1) past q ((q, p) :: hops) result

/-- Everything that is sent for a request follows the rules. -/
theorem exists_follows (network : Network) (left : Nat) (past : List Outgoing) (q : Outgoing) :
    ∃ hops, Follows network left past q hops (network.follow left past q).1 ∧
      (network.follow left past q).2 = hops.map Prod.fst := by
  fun_induction Network.follow network left past q with
  | case1 left past q silent => exact ⟨[], .unanswered silent, rfl⟩
  | case2 left past q p reply nowhere =>
    exact ⟨[(q, p)], .final reply fun target leads => by simp [destination?_eq_some_iff.2 leads] at nowhere, rfl⟩
  | case3 past q p reply target leads =>
    exact ⟨[(q, p)], .exhausted reply (destination?_eq_some_iff.1 leads), rfl⟩
  | case4 past q p reply target leads left web result others hrest ih =>
    obtain ⟨hops, hfollows, hrequests⟩ := ih
    rw [hrest] at hfollows hrequests
    exact ⟨(q, p) :: hops, .hop reply (destination?_eq_some_iff.1 leads) web hfollows, congrArg (q :: ·) hrequests⟩
  | case5 past q p reply target leads left other =>
    exact ⟨[(q, p)], .unsupported reply (destination?_eq_some_iff.1 leads) (Bool.eq_false_iff.2 other), rfl⟩

namespace Follows

variable {network : Network} {left k : Nat} {past : List Outgoing} {first q q' : Outgoing} {p p' : Reply}
  {hops : List (Outgoing × Reply)} {result : Except ExchangeFault Final} {final : Final}

/-- The requests begin with the first one. -/
theorem begins (h : Follows network left past first hops result) (hq : hops[0]? = some (q, p)) : q = first := by
  cases h with
  | unanswered => cases hq
  | final | exhausted | unsupported | hop =>
    cases hq
    rfl

/-- Besides the first request there are at most as many as redirects are left. -/
theorem bounded (h : Follows network left past first hops result) : hops.length ≤ left + 1 := by
  induction h with
  | unanswered => exact Nat.zero_le _
  | final | exhausted | unsupported => exact Nat.le_add_left 1 _
  | hop _ _ _ _ ih => exact Nat.succ_le_succ ih

/-- The request of a hop is answered as the network answers it after those of the hops before it. -/
theorem reply (h : Follows network left past first hops result) (hq : hops[k]? = some (q, p)) :
    network (past ++ (hops.take k).map Prod.fst) q = some p := by
  induction h generalizing k with
  | unanswered => cases hq
  | final hreply | exhausted hreply | unsupported hreply =>
    obtain ⟨rfl, hx⟩ := only_of_singleton hq
    cases hx
    simpa using hreply
  | hop hreply _ _ _ ih =>
    cases k with
    | zero =>
      cases hq
      simpa using hreply
    | succ k => simpa using ih hq

/-- The request of a hop is that of the hop before it, redirected by the reply to that. -/
theorem hop_at (h : Follows network left past first hops result) (hq : hops[k]? = some (q, p))
    (hnext : hops[k + 1]? = some (q', p')) :
    ∃ target, LeadsTo q p target ∧ target.isWeb = true ∧ q' = q.redirected p.status target := by
  induction h generalizing k with
  | unanswered => cases hq
  | final | exhausted | unsupported => cases hnext
  | hop _ leads web rest ih =>
    cases k with
    | zero =>
      cases hq
      exact ⟨_, leads, web, rest.begins hnext⟩
    | succ k => exact ih hq hnext

/-- The request of a hop is made behind those of the hops before it. -/
theorem sends (h : Follows network left past first hops result) (hq : hops[k]? = some (q, p)) :
    Sends network past first k (past ++ (hops.take k).map Prod.fst) q := by
  induction k generalizing q p with
  | zero =>
    rw [h.begins hq, List.take_zero, List.map_nil, List.append_nil]
    exact .first
  | succ k ih =>
    obtain ⟨⟨r, s⟩, hbefore⟩ := exists_before hq
    obtain ⟨target, hleads, hweb, rfl⟩ := h.hop_at hbefore hq
    rw [List.take_add_one, hbefore, Option.toList_some, List.map_append, ← List.append_assoc]
    exact .redirected (ih hbefore) (h.reply hbefore) hleads hweb

/-- There is a hop exactly if the first request is answered. -/
theorem ne_nil_iff (h : Follows network left past first hops result) : hops ≠ [] ↔ network past first ≠ none := by
  cases h with
  | unanswered silent => simp [silent]
  | final reply | exhausted reply | unsupported reply | hop reply => simp [reply]

/-- There is a further request exactly if redirects are left, and the reply leads to a place that answers. -/
theorem continues (h : Follows network left past first hops result) (hq : hops[k]? = some (q, p)) :
    k + 1 < hops.length ↔ k < left ∧ ∃ target, LeadsTo q p target ∧ target.isWeb = true ∧
      network (past ++ (hops.take (k + 1)).map Prod.fst) (q.redirected p.status target) ≠ none := by
  induction h generalizing k with
  | unanswered => cases hq
  | final _ last =>
    obtain ⟨rfl, hx⟩ := only_of_singleton hq
    cases hx
    simp [last]
  | exhausted =>
    obtain ⟨rfl, -⟩ := only_of_singleton hq
    simp
  | unsupported _ leads other =>
    obtain ⟨rfl, hx⟩ := only_of_singleton hq
    cases hx
    have hnowhere : ∀ u : Url, LeadsTo q p u → u.isWeb ≠ true := fun u hu => leads.unique hu ▸ ne_true_of_eq_false other
    simpa using fun u hu hweb => absurd hweb (hnowhere u hu)
  | hop _ leads web rest ih =>
    cases k with
    | zero =>
      cases hq
      -- The request that follows is made in any case; whether it makes a hop is up to the network.
      have hfurther := rest.ne_nil_iff
      simp only [List.length_cons, Nat.lt_add_left_iff_pos, List.length_pos_iff, hfurther, Nat.zero_add, Nat.zero_lt_succ,
        true_and, List.take_succ_cons, List.take_zero, List.map_cons, List.map_nil]
      constructor
      · intro hreply
        exact ⟨_, leads, web, hreply⟩
      · rintro ⟨u, hu, -, hreply⟩
        rwa [leads.unique hu]
    | succ k => simpa using ih hq

/-- A final reply is the reply to the request of the last hop, and leads nowhere. -/
theorem of_ok (h : Follows network left past first hops (.ok final)) :
    ∃ k q, k ≤ left ∧ hops[k]? = some (q, final.reply) ∧ final.url = q.url ∧
      ∀ target, ¬ LeadsTo q final.reply target := by
  generalize hresult : Except.ok final = result at h
  induction h with
  | unanswered | exhausted | unsupported => cases hresult
  | final _ last =>
    cases hresult
    exact ⟨0, _, Nat.zero_le _, rfl, rfl, last⟩
  | hop _ _ _ _ ih =>
    obtain ⟨k, q, hk, hq, hurl, hlast⟩ := ih hresult
    exact ⟨k + 1, q, Nat.succ_le_succ hk, hq, hurl, hlast⟩

end Follows

section Finals

variable {network : Network} {past before : List Outgoing} {first q : Outgoing} {p : Reply} {k left : Nat}

/-- What comes of a request is what comes of any that is made because of it, with the redirects that are left. -/
theorem follow_of_sends (h : Sends network past first k before q) (left : Nat) :
    (network.follow (left + k) past first).1 = (network.follow left before q).1 := by
  induction h generalizing left with
  | first => rfl
  | @redirected k before q p target _ reply leads web ih =>
    have hfollow : (network.follow (left + 1) before q).1 =
        (network.follow left (before ++ [q]) (q.redirected p.status target)).1 := by
      rw [Network.follow]
      simp only [reply, destination?_eq_some_iff.2 leads, web, if_true]
    rw [← hfollow, ← ih (left + 1), Nat.add_right_comm, Nat.add_assoc]

/-- A reply that leads nowhere is the result. -/
theorem follow_of_final (hreply : network before q = some p) (hlast : ∀ target, ¬ LeadsTo q p target) :
    (network.follow left before q).1 = .ok ⟨q.url, p⟩ := by
  have hnowhere : q.destination? p = none :=
    Option.eq_none_iff_forall_ne_some.2 fun target h => hlast target (destination?_eq_some_iff.1 h)
  rw [Network.follow]
  simp only [hreply, hnowhere]

/-- The final reply is the one to a request that is made within the redirects that may be followed, if it leads
nowhere. -/
theorem follow_eq_ok_iff {final : Final} :
    (network.follow left past first).1 = .ok final ↔
      ∃ k before q, k ≤ left ∧ Sends network past first k before q ∧ network before q = some final.reply ∧
        final.url = q.url ∧ ∀ target, ¬ LeadsTo q final.reply target := by
  constructor
  · intro h
    obtain ⟨hops, hfollows, -⟩ := exists_follows network left past first
    rw [h] at hfollows
    obtain ⟨k, q, hk, hq, hurl, hlast⟩ := hfollows.of_ok
    exact ⟨k, _, q, hk, hfollows.sends hq, hfollows.reply hq, hurl, hlast⟩
  · rintro ⟨k, before, q, hk, hmade, hreply, hurl, hlast⟩
    obtain ⟨spare, rfl⟩ := Nat.exists_eq_add_of_le' hk
    rw [follow_of_sends hmade spare, follow_of_final hreply hlast, ← hurl]

end Finals

end Http

end ChatOpening
