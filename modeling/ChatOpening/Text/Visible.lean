/-!
# Text without control sequences

What is written to a terminal about words of the user must not command the terminal. So escape sequences are left out,
and with them all controls that are not line ends, tabs or form feeds.

A sequence starts with the escape character. It is that character and one more, or has intermediate characters
before the last one, or is a control sequence with parameters, or a string that lasts until it is ended. A sequence that
is still open does not hide tabs and line ends, unless it is a string. What follows one of these belongs to the text, and
there are two views of how far it does: the sequence has ended (`visible`), or it goes on behind the text
(`displayed`), which lasts until the next control that is not shown.
-/

namespace ChatOpening

namespace Text

/-- Where in an escape sequence a character stands. -/
inductive Sequence where
  | outside
  | escape
  | intermediate
  | control
  /-- At the front of a string for the device. -/
  | deviceEntry
  | deviceParameters
  | deviceIntermediate
  /-- In a string that lasts until the string terminator. -/
  | string
  /-- In a string for the system, which lasts until the bell. -/
  | command
  deriving DecidableEq, Repr

namespace Sequence

def escapeChar : Char := '\x1B'

/-- The two controls that end every sequence. -/
def isAbort (c : Char) : Bool :=
  c = '\x18' || c = '\x1A'

def isIntermediate (c : Char) : Bool :=
  ' ' ≤ c && c ≤ '/'

/-- Controls that are shown. -/
def isLayout (c : Char) : Bool :=
  c = '\t' || c = '\n' || c = '\x0C' || c = '\r'

/-- The byte that ends a string. -/
def terminator : UInt8 := 0x9C

/-- Whether the byte that ends a string is one of the character's. -/
def hasTerminator (c : Char) : Bool :=
  (String.utf8EncodeChar c).contains terminator

/-- Whether the character is shown. -/
def shows (s : Sequence) (c : Char) : Bool :=
  match s with
  | outside => (' ' ≤ c && c ≠ '\x7F') || isLayout c
  | escape | intermediate | control => isLayout c
  | _ => false

/-- Where the character behind an escape leads to. -/
def afterEscape (c : Char) : Sequence :=
  if c < ' ' then escape
  else if c = '[' then control
  else if c = ']' then command
  else if c = 'P' then deviceEntry
  else if c = 'X' || c = '^' || c = '_' then string
  else if isIntermediate c then intermediate
  else outside

/-- Where the next character stands. -/
def next (s : Sequence) (c : Char) : Sequence :=
  if c = escapeChar then escape
  else if isAbort c then outside
  else if '\x7F' ≤ c then
    if s = string && hasTerminator c then outside else s
  else
    match s with
    | outside => outside
    | escape => afterEscape c
    | intermediate => if c < '0' then intermediate else outside
    | control => if c < '@' then control else outside
    | deviceEntry =>
      if c < ' ' then deviceEntry
      else if c < '0' then deviceIntermediate
      else if c < '@' then deviceParameters
      else string
    | deviceParameters =>
      if c < ' ' then deviceParameters
      else if c < '0' then deviceIntermediate
      else if c < '<' then deviceParameters
      else string
    | deviceIntermediate => if c < '0' then deviceIntermediate else string
    | string => string
    | command => if c = '\x07' then outside else command

end Sequence

/-- A place in what is written to a terminal. -/
structure Display where
  sequence : Sequence
  /-- Whether text is shown although the sequence is open. -/
  paused : Bool
  deriving DecidableEq, Repr

namespace Display

def start : Display := ⟨.outside, false⟩

def shows (d : Display) (c : Char) : Bool :=
  if d.paused then Sequence.outside.shows c else d.sequence.shows c

/-- The place behind a character; `resumes` says whether a sequence goes on behind text that is shown in it. -/
def next (resumes : Bool) (d : Display) (c : Char) : Display :=
  if d.paused then
    if '\x7F' < c then start
    else if Sequence.outside.shows c then d
    else ⟨d.sequence.next c, false⟩
  else if d.sequence ≠ .outside && d.sequence.shows c then
    if resumes then ⟨d.sequence, true⟩ else start
  else ⟨d.sequence.next c, false⟩

/-- The characters that are shown. -/
def shown (resumes : Bool) (d : Display) : List Char → List Char
  | [] => []
  | c :: rest =>
    let others := shown resumes (d.next resumes c) rest
    if d.shows c then c :: others else others

end Display

/-- The text without escape sequences and hidden controls, where a sequence ends at a tab or line end. -/
def visible (s : String) : String :=
  String.ofList (Display.start.shown false s.toList)

/-- The text without escape sequences and hidden controls, where a sequence may go on behind a tab or line end. -/
def displayed (s : String) : String :=
  String.ofList (Display.start.shown true s.toList)

end Text

end ChatOpening
