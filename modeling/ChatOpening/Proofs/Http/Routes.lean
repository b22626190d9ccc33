import ChatOpening.Proofs.Http.Records
import ChatOpening.Proofs.Text.Cut

/-!
# Which requests reach a handler

The target of a request names a path: as it is, or behind a scheme and an authority, and a query may follow.  The path
is compared as it is written, and then the method; the rest of the request has no part in whether a handler is reached.

**Input.**  Any router, and a request with any method, target, headers and body.

**Results.**
* `path_eq_iff`: which targets name a path.
* `handle_headers`: every answer has the shared headers once, behind headers of its own with other names.
* `handle_routes`: what is answered to each method and each target.
-/

namespace ChatOpening

namespace Http

/-- The target names the path. What may follow is a query or a fragment. -/
inductive Names (path target : String) : Prop
  | alone (rest : String) (split : target = path ++ rest) (ends : ∀ c ∈ rest.toList.head?, c = '?' ∨ c = '#')
  | behindAuthority (scheme authority rest : String) (split : target = scheme ++ "://" ++ authority ++ path ++ rest)
      (isScheme : ∀ c ∈ scheme.toList, Request.isSchemeChar c = true)
      (isAuthority : ∀ c ∈ authority.toList, c ≠ '/' ∧ c ≠ '?' ∧ c ≠ '#')
      (ends : ∀ c ∈ rest.toList.head?, c = '?' ∨ c = '#')

/-- A path that is more than a slash. -/
structure IsPath (path : String) : Prop where
  begins : ∃ c cs, path.toList = '/' :: c :: cs
  chars : ∀ c ∈ path.toList, c ≠ '?' ∧ c ≠ '#'

/-- The values that an answer has for a header. -/
def Answer.valuesOf (a : Answer) (name : String) : List String :=
  (a.headers.filter (·.1 = name)).map (·.2)

section Targets

variable {r : Request} {path : String} {c : Char} {a rest l : List Char}

theorem isPathChar_iff : Request.isPathChar c = true ↔ c ≠ '?' ∧ c ≠ '#' := by
  simp [Request.isPathChar]

theorem not_isPathChar_iff : Request.isPathChar c = false ↔ c = '?' ∨ c = '#' := by
  rw [← Bool.not_eq_true, isPathChar_iff, ← not_or, not_not]

/-- A target that starts with a slash is a path up to a question mark or a number sign. -/
theorem path_of_slash {cs : List Char} (h : r.target.toList = '/' :: cs) :
    r.path = String.ofList (r.target.toList.takeWhile Request.isPathChar) := by
  simp only [Request.path, h]

/-- What is behind a scheme starts behind its colon and two slashes. -/
theorem afterScheme?_eq_some_iff : Request.afterScheme? l = some rest ↔
    ∃ scheme, l = scheme ++ ':' :: '/' :: '/' :: rest ∧ ∀ c ∈ scheme, Request.isSchemeChar c = true := by
  have hcolon : Request.isSchemeChar ':' = false := by decide
  constructor
  · intro h
    simp only [Request.afterScheme?] at h
    split at h
    · next others hdrop =>
      cases h
      refine ⟨l.takeWhile Request.isSchemeChar, ?_, fun c hc => List.mem_takeWhile_imp hc⟩
      rw [← hdrop, List.takeWhile_append_dropWhile]
    · cases h
  · rintro ⟨scheme, hsplit, hscheme⟩
    have hcut := takeWhile_dropWhile_eq_iff.2 ⟨hsplit, hscheme, fun c hc => by cases hc; exact hcolon⟩
    simp only [Request.afterScheme?, hcut.2]

/-- The characters of a path end where a query begins. -/
theorem takeWhile_isPathChar_eq_iff : l.takeWhile Request.isPathChar = a ↔
    ∃ rest, l = a ++ rest ∧ (∀ c ∈ a, c ≠ '?' ∧ c ≠ '#') ∧ ∀ c ∈ rest.head?, c = '?' ∨ c = '#' := by
  constructor
  · intro h
    have hcut := takeWhile_dropWhile_eq_iff.1 ⟨h, rfl⟩
    simp only [isPathChar_iff, not_isPathChar_iff] at hcut
    exact ⟨_, hcut⟩
  · intro h
    simp only [← isPathChar_iff, ← not_isPathChar_iff] at h
    obtain ⟨rest, hcut⟩ := h
    exact (takeWhile_dropWhile_eq_iff.2 hcut).1

/-- A target that starts with a slash names what stands before its query. -/
theorem path_eq_iff_of_slash {cs : List Char} (h : r.target.toList = '/' :: cs) (hpath : IsPath path) :
    r.path = path ↔ ∃ rest, r.target.toList = path.toList ++ rest ∧ ∀ c ∈ rest.head?, c = '?' ∨ c = '#' := by
  rw [path_of_slash h, ← String.toList_inj, String.toList_ofList, takeWhile_isPathChar_eq_iff]
  exact exists_congr fun rest => and_congr_right fun _ => and_iff_right hpath.chars

/-- The path of a whole URL starts behind its host, and it is never empty. -/
theorem path_of_scheme {behind : List Char} (hslash : r.target.toList.head? ≠ some '/')
    (hscheme : Request.afterScheme? r.target.toList = some behind) :
    r.path = if ((behind.takeWhile Request.isPathChar).dropWhile (· ≠ '/')).isEmpty then "/"
      else String.ofList ((behind.takeWhile Request.isPathChar).dropWhile (· ≠ '/')) := by
  simp only [Request.path]
  split
  · next htarget => simp [htarget] at hslash
  · next htarget =>
    have hstar : Request.afterScheme? ['*'] = none := by decide
    rw [htarget, hstar] at hscheme
    cases hscheme
  · rw [hscheme]

/-- A target that starts with a scheme names what stands between its authority and its query. -/
theorem path_eq_iff_of_scheme {behind : List Char} (hslash : r.target.toList.head? ≠ some '/')
    (hscheme : Request.afterScheme? r.target.toList = some behind) (hpath : IsPath path) :
    r.path = path ↔ ∃ authority rest, behind = authority ++ path.toList ++ rest ∧
      (∀ c ∈ authority, c ≠ '/' ∧ c ≠ '?' ∧ c ≠ '#') ∧ ∀ c ∈ rest.head?, c = '?' ∨ c = '#' := by
  obtain ⟨first, more, hbegins⟩ := hpath.begins
  have hlist : r.path = path ↔ (behind.takeWhile Request.isPathChar).dropWhile (· ≠ '/') = path.toList := by
    rw [path_of_scheme hslash hscheme]
    split
    · next hempty =>
      rw [List.isEmpty_iff.1 hempty, ← String.toList_inj, hbegins]
      simp
    · rw [← String.toList_inj, String.toList_ofList]
  rw [hlist]
  constructor
  · intro hdrop
    obtain ⟨hsplit, hauthority, -⟩ := takeWhile_dropWhile_eq_iff.1 ⟨rfl, hdrop⟩
    obtain ⟨rest, hbehind, hchars, hends⟩ := takeWhile_isPathChar_eq_iff.1 hsplit
    refine ⟨_, rest, hbehind, fun c hc => ⟨?_, hchars c (List.mem_append_left _ hc)⟩, hends⟩
    exact of_decide_eq_true (hauthority c hc)
  · rintro ⟨authority, rest, hbehind, hauthority, hends⟩
    have htake : behind.takeWhile Request.isPathChar = authority ++ path.toList := by
      refine takeWhile_isPathChar_eq_iff.2 ⟨rest, hbehind, fun c hc => ?_, hends⟩
      rcases List.mem_append.1 hc with hc | hc
      · exact (hauthority c hc).2
      · exact hpath.chars c hc
    refine (takeWhile_dropWhile_eq_iff.2 ⟨htake, fun c hc => decide_eq_true (hauthority c hc).1, ?_⟩).2
    intro c hc
    rw [hbegins] at hc
    cases hc
    rfl

/-- A target without a scheme that does not start with a slash names no path. -/
theorem path_ne_of_bare (hslash : r.target.toList.head? ≠ some '/')
    (hscheme : Request.afterScheme? r.target.toList = none) (hpath : IsPath path) : r.path ≠ path := by
  obtain ⟨first, more, hbegins⟩ := hpath.begins
  have hother : r.path = "*" ∨ r.path = "" := by
    simp only [Request.path]
    split
    · next htarget => simp [htarget] at hslash
    · exact .inl rfl
    · rw [hscheme]
      exact .inr rfl
  rintro rfl
  rcases hother with h | h <;> simp [h] at hbegins

/-- What stands behind the scheme of a target. A scheme has no slash. -/
theorem target_of_scheme {scheme behind : String} (hsplit : r.target = scheme ++ "://" ++ behind)
    (hscheme : ∀ c ∈ scheme.toList, Request.isSchemeChar c = true) :
    r.target.toList.head? ≠ some '/' ∧ Request.afterScheme? r.target.toList = some behind.toList := by
  have hlist : r.target.toList = scheme.toList ++ ':' :: '/' :: '/' :: behind.toList := by
    simp [hsplit]
  refine ⟨?_, afterScheme?_eq_some_iff.2 ⟨_, hlist, hscheme⟩⟩
  rw [hlist]
  cases hchars : scheme.toList with
  | nil => simp
  | cons c cs =>
    have hc : Request.isSchemeChar c = true := hscheme c (by simp [hchars])
    simp only [List.cons_append, List.head?_cons, ne_eq, Option.some.injEq]
    rintro rfl
    exact absurd hc (by decide)

/-- A target that names a path has this path. -/
theorem path_of_names (hpath : IsPath path) (h : Names path r.target) : r.path = path := by
  cases h with
  | alone rest hsplit hends =>
    obtain ⟨first, more, hbegins⟩ := hpath.begins
    have hlist : r.target.toList = path.toList ++ rest.toList := by
      rw [hsplit, String.toList_append]
    have hslash : r.target.toList = '/' :: (first :: more ++ rest.toList) := by
      rw [hlist, hbegins]
      rfl
    exact (path_eq_iff_of_slash hslash hpath).2 ⟨_, hlist, hends⟩
  | behindAuthority scheme authority rest hsplit hscheme hauthority hends =>
    have hbehind : r.target = scheme ++ "://" ++ (authority ++ path ++ rest) := by
      rw [hsplit]
      simp only [String.append_assoc]
    obtain ⟨hslash, hafter⟩ := target_of_scheme hbehind hscheme
    refine (path_eq_iff_of_scheme hslash hafter hpath).2 ⟨authority.toList, rest.toList, ?_, hauthority, hends⟩
    rw [String.toList_append, String.toList_append]

/-- A target with a path that a route may have names it. -/
theorem names_of_path (hpath : IsPath path) (h : r.path = path) : Names path r.target := by
  by_cases hslash : r.target.toList.head? = some '/'
  · obtain ⟨cs, htarget⟩ := List.head?_eq_some_iff.1 hslash
    obtain ⟨rest, hsplit, hends⟩ := (path_eq_iff_of_slash htarget hpath).1 h
    refine .alone (String.ofList rest) ?_ (by rwa [String.toList_ofList])
    rw [← String.toList_inj, String.toList_append, String.toList_ofList, hsplit]
  · cases hafter : Request.afterScheme? r.target.toList with
    | none => exact absurd h (path_ne_of_bare hslash hafter hpath)
    | some behind =>
      obtain ⟨authority, rest, hbehind, hauthority, hends⟩ := (path_eq_iff_of_scheme hslash hafter hpath).1 h
      obtain ⟨scheme, hsplit, hscheme⟩ := afterScheme?_eq_some_iff.1 hafter
      refine .behindAuthority (String.ofList scheme) (String.ofList authority) (String.ofList rest) ?_
        (by rwa [String.toList_ofList]) (by rwa [String.toList_ofList]) (by rwa [String.toList_ofList])
      rw [← String.toList_inj, hsplit, hbehind]
      simp

/-- The path of a request is the one that its target names. -/
theorem path_eq_iff (hpath : IsPath path) : r.path = path ↔ Names path r.target :=
  ⟨names_of_path hpath, path_of_names hpath⟩

end Targets

section Paths

variable {r : Request}

theorem isPath_health : IsPath "/health" :=
  ⟨⟨'h', "ealth".toList, rfl⟩, by simp⟩

theorem isPath_openChat : IsPath "/generate-chat-messages" :=
  ⟨⟨'g', "enerate-chat-messages".toList, rfl⟩, by simp⟩

theorem ofPath?_eq_health_iff {path : String} : Route.ofPath? path = some .health ↔ path = "/health" := by
  simp only [Route.ofPath?]
  split
  · next h => simp [h]
  · next h =>
    split
    · simp [h]
    · simp [h]

/-- Paths other than these two belong to no route. -/
theorem ofPath?_eq_none_iff {path : String} :
    Route.ofPath? path = none ↔ path ≠ "/health" ∧ path ≠ "/generate-chat-messages" := by
  rw [Ne, Ne, ← ofPath?_eq_health_iff, ← ofPath?_eq_openChat_iff]
  cases Route.ofPath? path with
  | none => simp
  | some route => cases route <;> simp

/-- The routes are those of two paths. -/
theorem route_health_iff : Route.ofPath? r.path = some .health ↔ Names "/health" r.target := by
  rw [ofPath?_eq_health_iff, path_eq_iff isPath_health]

/-- The route of the opening, by the target. -/
theorem route_openChat_iff : Route.ofPath? r.path = some .openChat ↔ Names "/generate-chat-messages" r.target := by
  rw [ofPath?_eq_openChat_iff, path_eq_iff isPath_openChat]

/-- Targets that belong to no route. -/
theorem route_none_iff : Route.ofPath? r.path = none ↔
    ¬ Names "/health" r.target ∧ ¬ Names "/generate-chat-messages" r.target := by
  rw [ofPath?_eq_none_iff, Ne, Ne, path_eq_iff isPath_health, path_eq_iff isPath_openChat]

end Paths

section Headers

variable {router : Router} {ids : Nat → Uuid} {r : Request} {a : Answer} {name : String}

/-- The refusals of a request to open a chat have a type, and statuses of their own. -/
theorem refusal_headers (refusal : Refusal) :
    (∃ type, refusal.answer.headers = [("content-type", type)]) ∧ refusal.answer.status ∉ [404, 405] := by
  refine ⟨?_, ?_⟩
  · cases refusal with
    | undecodable report =>
      rw [answer_undecodable]
      split <;> exact ⟨_, rfl⟩
    | _ => exact ⟨_, rfl⟩
  · rcases refusal_cases refusal with ⟨-, hstatus, -⟩ | ⟨hstatus, -⟩
    · simp [hstatus]
    · simp only [List.mem_cons, List.not_mem_nil, or_false] at hstatus ⊢
      omega

/-- Answers of the opening have their content type for a header, and no status of the routing. -/
theorem openChat_headers (router : Router) (ids : Nat → Uuid) (r : Request) :
    (∃ type, (router.openChat ids r).1.headers = [("content-type", type)]) ∧
      (router.openChat ids r).1.status ∉ [404, 405] := by
  rcases openChat_cases router ids r with ⟨refusal, -, h⟩ | ⟨request, response, -, -, h⟩ | ⟨request, fault, -, -, h⟩
  · rw [h]
    exact refusal_headers refusal
  · rw [h]
    exact ⟨⟨_, rfl⟩, by simp [Answer.json]⟩
  · rw [h]
    exact ⟨⟨_, rfl⟩, by simp [Answer.refused, Answer.json]⟩

/-- The headers that the answer of a route has of its own. -/
theorem routed_headers (router : Router) (ids : Nat → Uuid) (r : Request) :
    ∀ h ∈ (router.routed ids r).1.headers, h.1 = "content-type" ∨ h.1 = "allow" := by
  simp only [Router.routed]
  split
  · simp [Answer.empty]
  · next route _ =>
    split
    · cases route with
      | health => simp [Router.health, Answer.json]
      | openChat =>
        obtain ⟨⟨type, htype⟩, -⟩ := openChat_headers router ids r
        simp [htype]
    · simp [Answer.empty, Route.allow]

/-- Every answer has the shared headers, behind headers with other names. -/
theorem handle_headers (router : Router) (ids : Nat → Uuid) (r : Request) :
    ∃ own, (router.handle ids r).1.headers = own ++ Router.sharedHeaders ∧
      ∀ h ∈ own, h.1 ≠ "access-control-allow-origin" ∧ h.1 ≠ "vary" := by
  by_cases hmethod : r.method = "OPTIONS"
  · refine ⟨(Router.preflight r).headers, by simp [Router.handle, hmethod], ?_⟩
    intro h hmem
    simp only [Router.preflight, Answer.empty, List.mem_append, List.mem_map, Router.preflightHeaders, List.mem_cons,
      List.not_mem_nil, or_false] at hmem
    rcases hmem with ⟨route, -, rfl⟩ | rfl | rfl <;> simp [Route.allow]
  · refine ⟨(router.routed ids r).1.headers, by simp [Router.handle, hmethod], ?_⟩
    intro h hmem
    rcases routed_headers router ids r h hmem with hname | hname <;> simp [hname]

/-- A header that only stands among the later headers of an answer has the values that it has there. -/
theorem valuesOf_of_headers {own others : List (String × String)} (h : a.headers = own ++ others)
    (hown : ∀ h ∈ own, h.1 ≠ name) : a.valuesOf name = (others.filter (·.1 = name)).map (·.2) := by
  have hnone : own.filter (·.1 = name) = [] := by
    rw [List.filter_eq_nil_iff]
    intro h hmem
    simpa using hown h hmem
  rw [Answer.valuesOf, h, List.filter_append, hnone, List.nil_append]

end Headers

section Handle

variable {router : Router} {ids : Nat → Uuid} {r : Request} {route : Route}

/-- A preflight is answered by itself, whatever its target is. -/
theorem handle_of_options (h : r.method = "OPTIONS") :
    router.handle ids r = ((Router.preflight r).shared, []) := by
  simp only [Router.handle, h, if_true]
  rfl

/-- All other requests are routed, and their answers are shared. -/
theorem handle_of_other (h : r.method ≠ "OPTIONS") :
    router.handle ids r = ((router.routed ids r).1.shared, (router.routed ids r).2) := by
  simp only [Router.handle, h, if_false]
  rfl

/-- A path without a handler. -/
theorem handle_of_none (h : r.method ≠ "OPTIONS") (hroute : Route.ofPath? r.path = none) :
    router.handle ids r = ((Answer.empty 404 []).shared, []) := by
  rw [handle_of_other h, Router.routed, hroute]

/-- A path with a handler, but not for the method. -/
theorem handle_of_not_allowed (h : r.method ≠ "OPTIONS") (hroute : Route.ofPath? r.path = some route)
    (hmethod : r.method ∉ route.methods) :
    router.handle ids r = ((Answer.empty 405 [route.allow]).shared, []) := by
  have hcontains : route.methods.contains r.method = false := by
    simpa using hmethod
  simp only [handle_of_other h, Router.routed, hroute, hcontains]
  rfl

/-- Where the method is allowed, the state of health is answered and nothing is logged. -/
theorem handle_of_health (h : r.method ≠ "OPTIONS") (hroute : Route.ofPath? r.path = some .health)
    (hmethod : r.method ∈ Route.health.methods) :
    router.handle ids r = ((Router.health r.method).shared, []) := by
  have hcontains : Route.health.methods.contains r.method = true := by
    simpa using hmethod
  simp only [handle_of_other h, Router.routed, hroute, hcontains, if_true]

/-- The answer to a question for what is allowed depends on the target only. -/
theorem preflight_congr {q : Request} (h : q.target = r.target) : Router.preflight q = Router.preflight r := by
  have hpath : q.path = r.path := by
    simp only [Request.path, h]
  rw [Router.preflight, Router.preflight, hpath]

/-- But for the allowed methods, the headers of a preflight are the same for every target. -/
theorem valuesOf_preflight {name : String} (h : name ≠ "allow") (r : Request) :
    (Router.preflight r).shared.valuesOf name =
      ((Router.preflightHeaders ++ Router.sharedHeaders).filter (·.1 = name)).map (·.2) := by
  refine valuesOf_of_headers (List.append_assoc _ _ _) fun header hmem => ?_
  obtain ⟨route, -, rfl⟩ := List.mem_map.1 hmem
  exact h.symm

/-- The answer of a handler has neither of the two statuses for requests that reach none. -/
theorem status_of_reached (hmethod : r.method ≠ "OPTIONS") (hroute : Route.ofPath? r.path = some route)
    (hallowed : r.method ∈ route.methods) : (router.handle ids r).1.status ∉ [404, 405] := by
  cases route with
  | health =>
    rw [handle_of_health hmethod hroute hallowed]
    simp [Router.health, Answer.json, Answer.shared]
  | openChat =>
    have hpost : r.method = "POST" := List.mem_singleton.1 hallowed
    rw [handle_of_opensChat ⟨hpost, ofPath?_eq_openChat_iff.1 hroute⟩]
    exact (openChat_headers router ids r).2

/-- A request is answered by a handler exactly if its path has one for its method. -/
theorem status_not_mem_iff (hmethod : r.method ≠ "OPTIONS") :
    (router.handle ids r).1.status ∉ [404, 405] ↔
      ∃ route, Route.ofPath? r.path = some route ∧ r.method ∈ route.methods := by
  constructor
  · intro hstatus
    cases hroute : Route.ofPath? r.path with
    | none =>
      rw [handle_of_none hmethod hroute] at hstatus
      exact absurd (by simp [Answer.shared, Answer.empty]) hstatus
    | some route =>
      refine ⟨route, rfl, ?_⟩
      by_contra hallowed
      rw [handle_of_not_allowed hmethod hroute hallowed] at hstatus
      exact hstatus (by simp [Answer.shared, Answer.empty])
  · rintro ⟨route, hroute, hallowed⟩
    exact status_of_reached hmethod hroute hallowed

/-- Every answer may be read by pages of any origin. A question for what is allowed is answered in the same way by every
router, whatever else it holds: everything is allowed. Any other request reaches a handler exactly if its target names
one of two paths and its method is one of those of the path; a wrong method and a wrong path have answers of their own,
and whether the service is alive is said without asking for a key. -/
theorem handle_routes (router : Router) (ids : Nat → Uuid) (r : Request) :
    ((router.handle ids r).1.valuesOf "access-control-allow-origin" = ["*"] ∧
      (router.handle ids r).1.valuesOf "vary" =
        ["origin, access-control-request-method, access-control-request-headers"])
      ∧
    (r.method = "OPTIONS" →
      (router.handle ids r).1.status = 200 ∧ (router.handle ids r).1.body = "" ∧
      (router.handle ids r).1.valuesOf "access-control-allow-methods" = ["*"] ∧
      (router.handle ids r).1.valuesOf "access-control-allow-headers" = ["*"] ∧
      ∀ (other : Router) (others : Nat → Uuid) (q : Request), q.method = r.method → q.target = r.target →
        other.handle others q = router.handle ids r)
      ∧
    (r.method ≠ "OPTIONS" →
      (Names "/health" r.target → r.method = "GET" ∨ r.method = "HEAD" →
        ∀ (other : Router) (others : Nat → Uuid), other.handle others r =
          ((Answer.json 200 (if r.method = "HEAD" then "" else "\x7b\"status\":\"ok\"\x7d")).shared, [])) ∧
      (Names "/health" r.target → r.method ≠ "GET" → r.method ≠ "HEAD" →
        router.handle ids r = ((Answer.empty 405 [("allow", "GET,HEAD")]).shared, [])) ∧
      (Names "/generate-chat-messages" r.target → r.method = "POST" →
        router.handle ids r = ((router.openChat ids r).1.shared, (router.openChat ids r).2)) ∧
      (Names "/generate-chat-messages" r.target → r.method ≠ "POST" →
        router.handle ids r = ((Answer.empty 405 [("allow", "POST")]).shared, [])) ∧
      (¬ Names "/health" r.target → ¬ Names "/generate-chat-messages" r.target →
        router.handle ids r = ((Answer.empty 404 []).shared, [])) ∧
      ((router.handle ids r).1.status ∉ [404, 405] ↔
        (Names "/health" r.target ∧ (r.method = "GET" ∨ r.method = "HEAD")) ∨
          (Names "/generate-chat-messages" r.target ∧ r.method = "POST"))) := by
  obtain ⟨own, hheaders, hown⟩ := handle_headers router ids r
  refine ⟨⟨?_, ?_⟩, ?_, ?_⟩
  · rw [valuesOf_of_headers hheaders fun h hmem => (hown h hmem).1]
    decide
  · rw [valuesOf_of_headers hheaders fun h hmem => (hown h hmem).2]
    decide
  · intro hmethod
    rw [handle_of_options hmethod, valuesOf_preflight (by decide), valuesOf_preflight (by decide)]
    refine ⟨rfl, rfl, by decide, by decide, ?_⟩
    intro other others q hqmethod hqtarget
    rw [handle_of_options (hqmethod.trans hmethod), preflight_congr hqtarget]
  · intro hmethod
    refine ⟨?_, ?_, ?_, ?_, ?_, ?_⟩
    · intro hnames hallowed other others
      have hbody : Router.healthBody = "\x7b\"status\":\"ok\"\x7d" := by decide
      rw [handle_of_health hmethod (route_health_iff.2 hnames) (by simpa [Route.methods] using hallowed), Router.health,
        hbody]
    · intro hnames hget hhead
      exact handle_of_not_allowed hmethod (route_health_iff.2 hnames) (by simp [Route.methods, hget, hhead])
    · intro hnames hpost
      exact handle_of_opensChat ⟨hpost, (path_eq_iff isPath_openChat).2 hnames⟩
    · intro hnames hpost
      exact handle_of_not_allowed hmethod (route_openChat_iff.2 hnames) (by simp [Route.methods, hpost])
    · intro hhealth hopens
      exact handle_of_none hmethod (route_none_iff.2 ⟨hhealth, hopens⟩)
    · rw [status_not_mem_iff hmethod, ← route_health_iff, ← route_openChat_iff]
      constructor
      · rintro ⟨route, hroute, hallowed⟩
        cases route with
        | health => exact .inl ⟨hroute, by simpa [Route.methods] using hallowed⟩
        | openChat => exact .inr ⟨hroute, List.mem_singleton.1 hallowed⟩
      · rintro (⟨hroute, hallowed⟩ | ⟨hroute, hpost⟩)
        · exact ⟨.health, hroute, by simpa [Route.methods] using hallowed⟩
        · exact ⟨.openChat, hroute, List.mem_singleton.2 hpost⟩

end Handle

end Http

end ChatOpening
