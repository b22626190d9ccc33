import ChatOpening.Text.Bytes

/-!
# Media types

The value of a content type: a type, a subtype, and parameters. The last plus sign of the subtype starts its suffix.
Names are read without regard to case. Spaces may stand before the name of a parameter; between two parameters stands a
semicolon, which may also end the value. Values of parameters are words or stand in quotation marks.
-/

namespace ChatOpening

namespace Http

/-- The names of a media type, in lower case. -/
structure MediaType where
  type : List Char
  subtype : List Char
  suffix : Option (List Char)
  deriving DecidableEq, Repr

namespace MediaType

/-- The characters of a word. -/
def isToken (c : Char) : Bool :=
  c.isAlphanum || "!#$%&\x27*+-.^_\x60|~".toList.contains c

/-- The characters that may stand in quotation marks. -/
def isQuotable (c : Char) : Bool :=
  31 < c.toNat && c.toNat ≠ 127

/-- Whether the characters behind a quoted value end the list of parameters well; what follows the next semicolon is
left to `more`. -/
def afterQuoted (more : List Char → Bool) (cs : List Char) : Bool :=
  match cs.dropWhile (· = ' ') with
  | [] => true
  | c :: rest => c = ';' && more rest

/-- Reads a parameter. The result is false if it is none, and otherwise what `more` says of the others. -/
def parameter (cs : List Char) (more : List Char → Bool) : Bool :=
  let name := cs.takeWhile isToken
  match name, cs.dropWhile isToken with
  | _ :: _, '=' :: '"' :: rest =>
    match rest with
    | [] => false
    | first :: others =>
      isQuotable first
        && (others.takeWhile (· ≠ '"')).all isQuotable
        && match others.dropWhile (· ≠ '"') with
          | [] => false
          | _ :: after => afterQuoted more after
  | _ :: _, '=' :: rest =>
    match rest.takeWhile isToken, rest.dropWhile isToken with
    | _, [] => true
    | _ :: _, c :: others => c = ';' && more others
    | [], _ :: _ => false
  | _, _ => false

/-- Whether the characters are parameters, with semicolons between them. No list is longer than `bound`. -/
def parameters : (bound : Nat) → List Char → Bool
  | _, [] => true
  | 0, _ :: _ => false
  | bound + 1, c :: rest =>
    if c = ' ' then parameters bound rest else parameter (c :: rest) (parameters bound)

/-- The subtype and its suffix: what stands before and behind the last plus sign, unless nothing stands before it. -/
def splitSuffix (name : List Char) : List Char × Option (List Char) :=
  match name with
  | [] => ([], none)
  | first :: rest =>
    if rest.contains '+' then
      let behind := (rest.reverse.takeWhile (· ≠ '+')).reverse
      (first :: rest.take (rest.length - behind.length - 1), some behind)
    else (first :: rest, none)

/-- Reads a media type. -/
def ofText? (cs : List Char) : Option MediaType :=
  let type := cs.takeWhile isToken
  match type, cs.dropWhile isToken with
  | _ :: _, '/' :: rest =>
    let name := rest.takeWhile isToken
    let (subtype, suffix) := splitSuffix name
    let result : MediaType :=
      ⟨type.map Char.toLower, subtype.map Char.toLower, suffix.map fun cs => cs.map Char.toLower⟩
    match name, rest.dropWhile isToken with
    | _, [] => some result
    | _ :: _, ';' :: after => if parameters after.length after then some result else none
    | _, _ => none
  | _, _ => none

/-- The media types whose values are JSON: the type itself, and those with its name as suffix. -/
def isJson (m : MediaType) : Bool :=
  m.type = "application".toList && (m.subtype = "json".toList || m.suffix = some "json".toList)

end MediaType

end Http

end ChatOpening
