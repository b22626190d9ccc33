import ChatOpening.Number.Numeral
import ChatOpening.Text.Quoted

/-!
# What is wrong with a JSON text

A fault has a cause, the place it names, and the way from the outermost value to the innermost value that was being
read. The place is kept as the number of bytes that follow it, which needs no knowledge of the text as a whole; line
and column are computed from the text when the fault is reported.

Two kinds of places occur. A fault is `here` if it names the last byte that was read, and `next` if it names the byte
that was looked at but not read; at the end of the text both are the same.
-/

namespace ChatOpening

namespace Json

/-- What was found in place of the wanted kind of value. -/
inductive Found where
  | null
  | truth (b : Bool)
  | number (n : Number)
  | text (s : String)
  | sequence
  | map
  deriving DecidableEq, Repr

/-- Why a text cannot be read. -/
inductive Cause where
  | endInValue
  | endInList
  | endInObject
  | endInText
  | expectedValue
  | expectedWord
  | expectedColon
  | expectedCommaOrBracket
  | expectedCommaOrBrace
  | commaBeforeEnd
  | trailingCharacters
  | keyNotText
  | badNumeral
  | numberOutOfRange
  | badEscape
  | controlCharacter
  | notUtf8
  | loneSurrogate
  | surrogateWithoutEscape
  | tooDeep
  | wrongKind (found : Found) (wanted : String)
  | integerOutOfRange (n : Int) (wanted : String)
  | unknownVariant (given : String) (known : List String)
  | repeatedField (name : String)
  | missingField (name : String)
  | wrongLength (count : Nat) (record : String) (fields : Nat)
  deriving DecidableEq, Repr

/-- The three classes of causes: the text is no JSON, it ends too early, or it is JSON for something else. -/
inductive CauseClass where
  | malformed
  | cutShort
  | data
  deriving DecidableEq, Repr

def Cause.class : Cause → CauseClass
  | .endInValue | .endInList | .endInObject | .endInText => .cutShort
  | .wrongKind .. | .integerOutOfRange .. | .unknownVariant .. | .repeatedField _ | .missingField _
  | .wrongLength .. => .data
  | _ => .malformed

/-- The words for what was found. -/
def Found.message : Found → String
  | .null => "null"
  | .truth b => s!"boolean `{b}`"
  | .number (.integer n) => s!"integer `{n}`"
  | .number (.fraction x) => s!"floating point `{x.written}`"
  | .text s => "string " ++ Text.quoted s
  | .sequence => "sequence"
  | .map => "map"

/-- The known variants in a sentence. -/
def listed : List String → String
  | [] => "there are no variants"
  | [a] => s!"expected `{a}`"
  | [a, b] => s!"expected `{a}` or `{b}`"
  | names => "expected one of " ++ String.intercalate ", " (names.map fun a => s!"`{a}`")

/-- The words for a cause. -/
def Cause.message : Cause → String
  | .endInValue => "EOF while parsing a value"
  | .endInList => "EOF while parsing a list"
  | .endInObject => "EOF while parsing an object"
  | .endInText => "EOF while parsing a string"
  | .expectedValue => "expected value"
  | .expectedWord => "expected ident"
  | .expectedColon => "expected `:`"
  | .expectedCommaOrBracket => "expected `,` or `]`"
  | .expectedCommaOrBrace => "expected `,` or `\x7d`"
  | .commaBeforeEnd => "trailing comma"
  | .trailingCharacters => "trailing characters"
  | .keyNotText => "key must be a string"
  | .badNumeral => "invalid number"
  | .numberOutOfRange => "number out of range"
  | .badEscape => "invalid escape"
  | .controlCharacter => "control character (\\u0000-\\u001F) found while parsing a string"
  | .notUtf8 => "invalid unicode code point"
  | .loneSurrogate => "lone leading surrogate in hex escape"
  | .surrogateWithoutEscape => "unexpected end of hex escape"
  | .tooDeep => "recursion limit exceeded"
  | .wrongKind found wanted => s!"invalid type: {found.message}, expected {wanted}"
  | .integerOutOfRange n wanted => s!"invalid value: integer `{n}`, expected {wanted}"
  | .unknownVariant given known => s!"unknown variant `{given}`, {listed known}"
  | .repeatedField name => s!"duplicate field `{name}`"
  | .missingField name => s!"missing field `{name}`"
  | .wrongLength count record fields =>
    let noun := if fields = 1 then "element" else "elements"
    s!"invalid length {count}, expected struct {record} with {fields} {noun}"

/-- A step from a value to one of its parts; `unread` leads to a member whose key could not be read. -/
inductive Step where
  | key (name : String)
  | index (n : Nat)
  | unread
  deriving DecidableEq, Repr

/-- Whether the way to the value that is being read is noted. -/
inductive Tracking where
  | off
  | on
  deriving DecidableEq, Repr

/-- A cause, the number of bytes after the place that it names, and the way to the value in question, which is empty if
it is not noted. -/
structure Fault where
  cause : Cause
  left : Nat
  path : List Step
  deriving DecidableEq, Repr

namespace Fault

/-- A fault at the last byte that was read. -/
def here (cause : Cause) (rest : Bytes) : Fault :=
  ⟨cause, rest.length, []⟩

/-- A fault at the byte that comes next; at the end of the text it is the last one. -/
def next (cause : Cause) (rest : Bytes) : Fault :=
  ⟨cause, rest.length - 1, []⟩

/-- The same fault, seen from the value that has the faulty one as a part. -/
def within (tracking : Tracking) (step : Step) (f : Fault) : Fault :=
  match tracking with
  | .off => f
  | .on => { f with path := step :: f.path }

end Fault

/-- A line, counted from one, and the number of its bytes up to the place. -/
structure Place where
  line : Nat
  column : Nat
  deriving DecidableEq, Repr

/-- The line feed. -/
def lineFeed : UInt8 := 10

/-- The place behind the given bytes. -/
def Place.behind (read : Bytes) : Place :=
  ⟨1 + read.count lineFeed, (read.reverse.takeWhile (· ≠ lineFeed)).length⟩

/-- A fault as it is reported: the cause, the place by line and column, and the way to the value in question. -/
structure Report where
  cause : Cause
  place : Place
  path : List Step
  deriving DecidableEq, Repr

/-- The report of a fault in a text. -/
def Fault.report (source : Bytes) (f : Fault) : Report :=
  ⟨f.cause, .behind (source.take (source.length - f.left)), f.path⟩

/-- The words of a report. -/
def Report.message (r : Report) : String :=
  s!"{r.cause.message} at line {r.place.line} column {r.place.column}"

/-- A path with dots before keys, except the first step, and indices in brackets. A question mark stands for a key that
could not be read. -/
def pathText : List Step → String
  | [] => ""
  | .key name :: rest => name ++ following rest
  | .index n :: rest => s!"[{n}]" ++ following rest
  | .unread :: rest => "?" ++ following rest
where
  following : List Step → String
    | [] => ""
    | .key name :: rest => "." ++ name ++ following rest
    | .index n :: rest => s!"[{n}]" ++ following rest
    | .unread :: rest => ".?" ++ following rest

/-- The words of a report with the way to the value in question, unless nothing is known of it: that value is the
outermost one, or a member of it whose key could not be read. -/
def Report.locatedMessage (r : Report) : String :=
  if r.path.all (· = .unread) then r.message else s!"{pathText r.path}: {r.message}"

end Json

end ChatOpening
