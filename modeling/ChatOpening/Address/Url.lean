import ChatOpening.Address.Host
import ChatOpening.Text.Base64

/-!
# URLs

A URL has a scheme and a path, and may have a host with a user and a port, a query and a fragment. Some schemes are
special: their URLs have a host, backslashes count as slashes in them, and a port that is the scheme's own is left
out. A path is a list of segments, or, behind a scheme that has none of this, a plain text.
-/

namespace ChatOpening

inductive UrlPath where
  | plain (text : String)
  | segments (list : List String)
  deriving DecidableEq, Repr

structure Url where
  scheme : String
  user : String
  password : Option String
  host : Option Host
  port : Option Nat
  path : UrlPath
  query : Option String
  fragment : Option String
  deriving DecidableEq, Repr

namespace Url

/-- The special schemes with their ports. -/
def specialSchemes : List (String × Option Nat) :=
  [("http", some 80), ("https", some 443), ("ws", some 80), ("wss", some 443), ("ftp", some 21), ("file", none)]

def isSpecialScheme (scheme : String) : Bool :=
  specialSchemes.any (·.1 = scheme)

/-- The port that a scheme implies. -/
def impliedPort (scheme : String) : Option Nat :=
  (specialSchemes.lookup scheme).join

/-- The port that a request goes to. -/
def effectivePort (u : Url) : Option Nat :=
  u.port <|> impliedPort u.scheme

/-- The user with a mark behind, if there is one. -/
def writtenUser (u : Url) : String :=
  match u.password with
  | some password => s!"{u.user}:{password}@"
  | none => if u.user = "" then "" else u.user ++ "@"

/-- What stands between the scheme and the path. A path without host that starts with two slashes has a dot segment
before it. -/
def writtenAuthority (u : Url) : String :=
  match u.host with
  | some host =>
    let port := u.port.elim "" fun p => s!":{p}"
    "//" ++ u.writtenUser ++ host.written ++ port
  | none =>
    match u.path with
    | .segments ("" :: _ :: _) => "/."
    | _ => ""

def writtenPath (u : Url) : String :=
  match u.path with
  | .plain text => text
  | .segments list => String.join (list.map ("/" ++ ·))

def writtenQuery (u : Url) : String :=
  u.query.elim "" ("?" ++ ·)

def writtenFragment (u : Url) : String :=
  u.fragment.elim "" ("#" ++ ·)

def written (u : Url) : String :=
  u.scheme ++ ":" ++ u.writtenAuthority ++ u.writtenPath ++ u.writtenQuery ++ u.writtenFragment

/-- What a request for the URL asks its host for. -/
def target (u : Url) : String :=
  u.writtenPath ++ u.writtenQuery

/-- The name and the password of the user, if there is either. A name that is not the escaped form of a text counts as
no user, and such a password as none. -/
def credentials? (u : Url) : Option (String × Option String) :=
  match Percent.text? u.user with
  | none => none
  | some name =>
    let password := u.password.bind Percent.text?
    if name = "" && password.isNone then none else some (name, password)

/-- The URL without its user. -/
def anonymous (u : Url) : Url :=
  if u.credentials?.isSome then { u with user := "", password := none } else u

/-- How requests for the URL are authorized by its user. -/
def authorization? (u : Url) : Option String :=
  u.credentials?.map fun (name, password) =>
    "Basic " ++ String.ofList (Base64.written (Text.bytes (name ++ ":" ++ password.getD "")))

/-- Whether requests can be made for URLs with this scheme. -/
def isWeb (u : Url) : Bool :=
  u.scheme = "http" || u.scheme = "https"

/-- A character that may stand in a name, but not in that of a host that requests are sent to. -/
def isUnsendable (c : Char) : Bool :=
  ['"', '\x60', '\x7b', '\x7d'].contains c

/-- The most bytes of a URL that requests are sent for. -/
def longest : Nat := 65534

/-- Whether requests can be sent for the URL. -/
def isSendable (u : Url) : Bool :=
  let plainHost :=
    match u.host with
    | some (.name text) => !text.toList.any isUnsendable
    | _ => true
  plainHost && u.written.utf8ByteSize ≤ longest

/-- Whether two URLs have the same host and port. -/
def sameHost (u v : Url) : Bool :=
  u.host = v.host && u.effectivePort = v.effectivePort

end Url

end ChatOpening
