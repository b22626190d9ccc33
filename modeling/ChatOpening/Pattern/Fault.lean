/-!
# Faults in patterns

A fault in a pattern has a cause and the span of the characters that it is about; some have a second span, with
which the first one is in conflict. The report of a fault shows the pattern with marks below the spans. If the pattern
has several lines, they are numbered, and spans over more than one of them are described in words.
-/

namespace ChatOpening

namespace Pattern

/-- A place between characters; lines and the columns in a line are counted from one. -/
structure Place where
  line : Nat
  column : Nat
  deriving DecidableEq, Repr

namespace Place

def start : Place := ⟨1, 1⟩

/-- The place behind a character. -/
def behind (p : Place) (c : Char) : Place :=
  if c = '\n' then ⟨p.line + 1, 1⟩ else ⟨p.line, p.column + 1⟩

def isBefore (p q : Place) : Bool :=
  p.line < q.line || (p.line = q.line && p.column < q.column)

end Place

/-- The characters from one place to another. -/
structure Span where
  first : Place
  last : Place
  deriving DecidableEq, Repr

namespace Span

/-- The span without characters. -/
def point (p : Place) : Span := ⟨p, p⟩

def isInLine (s : Span) : Bool :=
  s.first.line = s.last.line

/-- The order in which spans are marked. -/
def isUpTo (s t : Span) : Bool :=
  s.first.isBefore t.first || (s.first = t.first && !t.last.isBefore s.last)

end Span

/-- How deep the parts of a pattern may be nested. -/
def deepest : Nat := 250

inductive Cause where
  | badClassEscape
  | reversedClassRange
  | classRangeBoundary
  | openClass
  | badDecimal
  | emptyHexadecimal
  | noScalarValue
  | badHexadecimalDigit
  | endInEscape
  | unknownEscape
  | danglingNegation
  | repeatedFlag
  | repeatedNegation
  | endInFlags
  | unknownFlag
  | repeatedName
  | emptyName
  | badName
  | endInName
  | openGroup
  | unopenedGroup
  | tooDeep
  | reversedCount
  | emptyCount
  | openCount
  | nothingToRepeat
  | openBoundary
  | unknownBoundary
  | endInBoundaryOrCount
  | badProperty
  | backreference
  | lookAround
  | beyondAscii
  | brokenUtf8
  | unknownProperty
  | unknownPropertyValue
  | unknownShorthand
  | foldingUnavailable
  deriving DecidableEq, Repr

def Cause.message : Cause → String
  | badClassEscape => "invalid escape sequence found in character class"
  | reversedClassRange => "invalid character class range, the start must be <= the end"
  | classRangeBoundary => "invalid range boundary, must be a literal"
  | openClass => "unclosed character class"
  | badDecimal => "decimal literal invalid"
  | emptyHexadecimal => "hexadecimal literal empty"
  | noScalarValue => "hexadecimal literal is not a Unicode scalar value"
  | badHexadecimalDigit => "invalid hexadecimal digit"
  | endInEscape => "incomplete escape sequence, reached end of pattern prematurely"
  | unknownEscape => "unrecognized escape sequence"
  | danglingNegation => "dangling flag negation operator"
  | repeatedFlag => "duplicate flag"
  | repeatedNegation => "flag negation operator repeated"
  | endInFlags => "expected flag but got end of regex"
  | unknownFlag => "unrecognized flag"
  | repeatedName => "duplicate capture group name"
  | emptyName => "empty capture group name"
  | badName => "invalid capture group character"
  | endInName => "unclosed capture group name"
  | openGroup => "unclosed group"
  | unopenedGroup => "unopened group"
  | tooDeep => s!"exceed the maximum number of nested parentheses/brackets ({deepest})"
  | reversedCount => "invalid repetition count range, the start must be <= the end"
  | emptyCount => "repetition quantifier expects a valid decimal"
  | openCount => "unclosed counted repetition"
  | nothingToRepeat => "repetition operator missing expression"
  | openBoundary => "special word boundary assertion is either unclosed or contains an invalid character"
  | unknownBoundary =>
    "unrecognized special word boundary assertion, valid choices are: start, end, start-half or end-half"
  | endInBoundaryOrCount =>
    "found either the beginning of a special word boundary or a bounded repetition on a \\b with an opening brace, "
      ++ "but no closing brace"
  | badProperty => "invalid Unicode character class"
  | backreference => "backreferences are not supported"
  | lookAround => "look-around, including look-ahead and look-behind, is not supported"
  | beyondAscii => "Unicode not allowed here"
  | brokenUtf8 => "pattern can match invalid UTF-8"
  | unknownProperty => "Unicode property not found"
  | unknownPropertyValue => "Unicode property value not found"
  | unknownShorthand =>
    "Unicode-aware Perl class not found (make sure the unicode-perl feature is enabled)"
  | foldingUnavailable =>
    "Unicode-aware case insensitivity matching is not available (make sure the unicode-case feature is enabled)"

structure Fault where
  cause : Cause
  span : Span
  /-- What the span is in conflict with. -/
  other : Option Span
  deriving DecidableEq, Repr

namespace Fault

/-- The spans in the order in which they are marked. -/
def spans (f : Fault) : List Span :=
  match f.other with
  | none => [f.span]
  | some s => if f.span.isUpTo s then [f.span, s] else [s, f.span]

def blanks (n : Nat) : String :=
  String.ofList (List.replicate n ' ')

/-- The marks below spans of a line of which `done` columns are filled. -/
def marksFrom (done : Nat) : List Span → String
  | [] => ""
  | s :: others =>
    let gap := s.first.column - 1 - done
    let width := max 1 (s.last.column - s.first.column)
    blanks gap ++ String.ofList (List.replicate width '^') ++ marksFrom (done + gap + width) others

/-- The lines of a pattern without their ends, and whether a place behind the last one belongs to a further line. -/
def linesOf (pattern : List Char) : List (List Char) × Bool :=
  let pieces := pattern.splitOn '\n'
  let ended := pieces.dropLast.map fun line => if line.getLast? = some '\r' then line.dropLast else line
  match pieces.getLast? with
  | some [] | none => (ended, true)
  | some last => (ended ++ [last], false)

/-- How wide the numbers of lines are; zero if there is no need for numbers. -/
def numberWidth (pattern : List Char) : Nat :=
  let (lines, more) := linesOf pattern
  let count := lines.length + if more then 1 else 0
  if count ≤ 1 then 0 else (toString count).length

/-- What stands in front of a line. -/
def lead (width number : Nat) : String :=
  if width = 0 then blanks 4 else blanks (width - (toString number).length) ++ toString number ++ ": "

/-- A line with the marks below it. -/
def marked (spans : List Span) (width number : Nat) (line : List Char) : String :=
  let inLine := spans.filter fun s => s.isInLine && s.first.line = number
  let marks := if inLine.isEmpty then "" else blanks (if width = 0 then 4 else width + 2) ++ marksFrom 0 inLine ++ "\n"
  lead width number ++ String.ofList line ++ "\n" ++ marks

/-- The lines from a number on. -/
def markedFrom (spans : List Span) (width number : Nat) : List (List Char) → String
  | [] => ""
  | line :: others => marked spans width number line ++ markedFrom spans width (number + 1) others

/-- A span over several lines in words. -/
def described (s : Span) : String :=
  s!"on line {s.first.line} (column {s.first.column}) through line {s.last.line} (column {s.last.column - 1})\n"

/-- The report of a fault in a pattern. -/
def report (f : Fault) (pattern : List Char) : String :=
  let shown := markedFrom f.spans (numberWidth pattern) 1 (linesOf pattern).1
  let divider := String.ofList (List.replicate 79 '~') ++ "\n"
  let body :=
    if pattern.contains '\n' then
      divider ++ shown ++ divider ++ String.join ((f.spans.filter (!·.isInLine)).map described)
    else shown
  "regex parse error:\n" ++ body ++ "error: " ++ f.cause.message

end Fault

end Pattern

end ChatOpening
