import ChatOpening.Text.Bytes

/-!
# Requests and answers

A request has a method, a target, headers in the order in which they were sent, and a body. The names of headers are
compared without regard to case; of several headers of the same name the first one counts. A value is bytes, and a
text only if all of them are visible ASCII characters, blanks or tabs.
-/

namespace ChatOpening

namespace Http

structure Request where
  method : String
  target : String
  headers : List (String × Bytes)
  body : Bytes
  deriving DecidableEq, Repr

structure Answer where
  status : Nat
  headers : List (String × String)
  body : String
  deriving DecidableEq, Repr

/-- The value of the first header of a name, which is given in lower case. -/
def firstHeader (headers : List (String × Bytes)) (name : String) : Option Bytes :=
  (headers.find? fun h => h.1.toLower = name).map (·.2)

namespace Request

def header? (r : Request) (name : String) : Option Bytes :=
  firstHeader r.headers name

/-- A character of a target before its query. -/
def isPathChar (c : Char) : Bool :=
  c ≠ '?' && c ≠ '#'

def isSchemeChar (c : Char) : Bool :=
  c.isAlphanum || ['+', '-', '.', '~'].contains c

/-- What follows a scheme and `://`, if the target starts with them. -/
def afterScheme? (target : List Char) : Option (List Char) :=
  match target.dropWhile isSchemeChar with
  | ':' :: '/' :: '/' :: rest => some rest
  | _ => none

/-- The path of a target as it is written, without query. A target with a scheme has at least a slash as its path, and
one that is only an authority has none. -/
def path (r : Request) : String :=
  let target := r.target.toList
  match target with
  | '/' :: _ => String.ofList (target.takeWhile isPathChar)
  | ['*'] => "*"
  | _ =>
    match afterScheme? target with
    | none => ""
    | some rest =>
      let path := (rest.takeWhile isPathChar).dropWhile (· ≠ '/')
      if path.isEmpty then "/" else String.ofList path

end Request

/-- A byte of a header that is a text. -/
def isVisibleByte (b : UInt8) : Bool :=
  (32 ≤ b && b < 127) || b = 9

/-- The text that the value of a header is, if it is one. -/
def visibleText? (value : Bytes) : Option String :=
  if value.all isVisibleByte then Text.ofBytes? value else none

end Http

end ChatOpening
