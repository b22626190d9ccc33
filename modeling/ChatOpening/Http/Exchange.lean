import ChatOpening.Address.Reference
import ChatOpening.Http.Message

/-!
# Asking other servers

A request is sent to the host of its URL. The reply is final, or it redirects: it has one of five statuses and names a
place that requests can be sent to. After a redirect with status 307 or 308 the same request is sent to the new place,
after the others a request without content. A user in the URL of the first request authorizes it. The authorization is
not sent on to another host. After ten redirects a further one is a fault.

What the other servers reply is a value, the network, so an exchange is a function of it; `follow` returns the final
reply together with all requests that were answered on the way.
-/

namespace ChatOpening

namespace Http

inductive Method where
  | get
  | post
  deriving DecidableEq, Repr

def Method.name : Method → String
  | .get => "GET"
  | .post => "POST"

/-- A request that is sent. Its content, if it has any, is a JSON text. -/
structure Outgoing where
  method : Method
  url : Url
  authorization : Option String
  content : Option String
  deriving DecidableEq, Repr

structure Reply where
  status : Nat
  reason : String
  headers : List (String × Bytes)
  body : Bytes
  deriving DecidableEq, Repr

/-- What a request is replied after those before it; nothing, if its host cannot be reached. The request is for an `http`
or an `https` URL, and the network decides which hosts it reaches by either. -/
abbrev Network := List Outgoing → Outgoing → Option Reply

/-- Why there is no final reply that tells of success. -/
inductive ExchangeFault where
  | unreadableUrl
  | unsupportedUrl (url : Url)
  | unreachable (url : Url)
  | tooManyRedirects (url : Url)
  | refused (status : Nat) (reason : String) (url : Url)
  deriving DecidableEq, Repr

namespace ExchangeFault

def isClientStatus (status : Nat) : Bool :=
  400 ≤ status && status < 500

def isServerStatus (status : Nat) : Bool :=
  500 ≤ status && status < 600

def message : ExchangeFault → String
  | unreadableUrl => "builder error"
  | unsupportedUrl url => s!"builder error for url ({url.written})"
  | unreachable url => s!"error sending request for url ({url.written})"
  | tooManyRedirects url => s!"error following redirect for url ({url.written})"
  | refused status reason url =>
    let side := if isClientStatus status then "client" else "server"
    s!"HTTP status {side} error ({status} {reason}) for url ({url.written})"

end ExchangeFault

namespace Outgoing

def contentType (r : Outgoing) : Option String :=
  r.content.map fun _ => "application/json"

/-- The request to post a JSON text to a place that is given as a text. A user in the place takes precedence over the given
authorization. -/
def post (place : String) (authorization : Option String) (content : String) : Except ExchangeFault Outgoing :=
  match Url.ofText? place with
  | none => .error .unreadableUrl
  | some url =>
    if url.isWeb && url.anonymous.isSendable then
      .ok {
        method := .post
        url := url.anonymous
        authorization := url.authorization? <|> authorization
        content := some content }
    else .error (.unsupportedUrl url.anonymous)

/-- Whether a status asks for the same request at another place. -/
def repeats (status : Nat) : Bool :=
  status = 307 || status = 308

/-- Whether a status names another place. -/
def redirects (status : Nat) : Bool :=
  status = 301 || status = 302 || status = 303 || repeats status

/-- The place that a reply to the request names, if it redirects. -/
def destination? (r : Outgoing) (reply : Reply) : Option Url :=
  if redirects reply.status then do
    let location ← firstHeader reply.headers "location"
    let url ← r.url.join (← Text.ofBytes? location)
    if url.isSendable then some url else none
  else none

/-- The request that follows a redirect. -/
def redirected (r : Outgoing) (status : Nat) (url : Url) : Outgoing :=
  let authorization := if r.url.sameHost url then r.authorization else none
  if repeats status then { r with url, authorization }
  else { method := .get, url, authorization, content := none }

end Outgoing

/-- How many redirects are followed. -/
def mostRedirects : Nat := 10

/-- A final reply and where it came from. -/
structure Final where
  url : Url
  reply : Reply
  deriving DecidableEq, Repr

namespace Network

/-- Sends a request, after those in `past`, and follows redirects, at most `left` of them. -/
def follow (network : Network) : (left : Nat) → (past : List Outgoing) → Outgoing →
    Except ExchangeFault Final × List Outgoing
  | left, past, r =>
    match network past r with
    | none => (.error (.unreachable r.url), [])
    | some reply =>
      match r.destination? reply with
      | none => (.ok ⟨r.url, reply⟩, [r])
      | some url =>
        match left with
        | 0 => (.error (.tooManyRedirects r.url), [r])
        | left + 1 =>
          if url.isWeb then
            let (result, others) := follow network left (past ++ [r]) (r.redirected reply.status url)
            (result, r :: others)
          else (.error (.unsupportedUrl url), [r])

/-- Posts a JSON text. The result is the body of the final reply, and all requests that were answered. -/
def post (network : Network) (past : List Outgoing) (place : String) (authorization : Option String)
    (content : String) : Except ExchangeFault Bytes × List Outgoing :=
  match Outgoing.post place authorization content with
  | .error fault => (.error fault, [])
  | .ok r =>
    match network.follow mostRedirects past r with
    | (.error fault, requests) => (.error fault, requests)
    | (.ok final, requests) =>
      let status := final.reply.status
      if ExchangeFault.isClientStatus status || ExchangeFault.isServerStatus status then
        (.error (.refused status final.reply.reason final.url), requests)
      else (.ok final.reply.body, requests)

end Network

end Http

end ChatOpening
