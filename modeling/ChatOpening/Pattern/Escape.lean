import ChatOpening.Pattern.Cursor
import ChatOpening.Pattern.Tree

/-!
# Escapes in patterns

What may stand behind a backslash: a character that would mean something else without it, the letter of a control, the
hexadecimal number of a character, an anchor, or a class of characters.
-/

namespace ChatOpening

namespace Pattern

/-- The characters that mean something of their own. -/
def isMeta (c : Char) : Bool :=
  ['\\', '.', '+', '*', '?', '(', ')', '|', '[', ']', '\x7b', '\x7d', '^', '$', '#', '&', '-', '~'].contains c

/-- The characters that mean themselves behind a backslash. -/
def isEscapable (c : Char) : Bool :=
  isMeta c || (c < '\x80' && !c.isAlphanum && c ≠ '<' && c ≠ '>')

/-- The control of a letter. -/
def control? (c : Char) : Option Char :=
  [('a', '\x07'), ('f', '\x0C'), ('t', '\t'), ('n', '\n'), ('r', '\r'), ('v', '\x0B')].lookup c

/-- The anchor of a letter. -/
def anchor? (c : Char) : Option Anchor :=
  [('A', .textStart), ('z', .textEnd), ('b', .boundary), ('B', .noBoundary), ('<', .wordStart), ('>', .wordEnd)].lookup c

/-- The class of a letter; a capital letter stands for the characters outside of it. -/
def shorthand? (c : Char) : Option (Shorthand × Bool) :=
  [('d', (.digit, false)), ('s', (.space, false)), ('w', (.word, false)),
    ('D', (.digit, true)), ('S', (.space, true)), ('W', (.word, true))].lookup c

section Hexadecimal

def isHexDigit (c : Char) : Bool :=
  c.isDigit || ('a' ≤ c && c ≤ 'f') || ('A' ≤ c && c ≤ 'F')

def hexValue (c : Char) : Nat :=
  if c.isDigit then c.toNat - '0'.toNat
  else if c ≤ 'F' then c.toNat - 'A'.toNat + 10
  else c.toNat - 'a'.toNat + 10

/-- The character that digits are the number of. -/
def charOfHex? (digits : List Char) : Option Char :=
  let n := digits.foldl (fun n c => n * 16 + hexValue c) 0
  if n.isValidChar then some (Char.ofNat n) else none

/-- How many digits a number without braces has. -/
def hexWidth (letter : Char) : Nat :=
  if letter = 'x' then 2 else if letter = 'u' then 4 else 8

/-- Reads the given number of digits. -/
def hexDigits : (count : Nat) → Cursor → Except Fault (List Char × Cursor)
  | 0, c => .ok ([], c)
  | count + 1, c =>
    match c.peek? with
    | none => refuse .endInEscape c.point
    | some x =>
      if isHexDigit x then do
        let (others, c) ← hexDigits count c.step
        return (x :: others, c)
      else refuse .badHexadecimalDigit c.char

/-- Reads the number between braces. -/
def bracedHex (first : Place) (c : Cursor) : Except Fault (Literal × Cursor) :=
  let inner := c.next.place
  let (digits, behind) := c.step.run isHexDigit
  match behind.peek? with
  | none => refuse .endInEscape (behind.since c.place)
  | some '\x7d' =>
    let last := behind.step
    if digits.isEmpty then refuse .emptyHexadecimal (last.since c.place)
    else
      match charOfHex? digits with
      | none => refuse .noScalarValue (behind.since inner)
      | some char => .ok (⟨char, last.since first, false⟩, last)
  | some _ => refuse .badHexadecimalDigit behind.char

/-- Reads the number behind a letter. -/
def hexadecimal (first : Place) (letter : Char) (c : Cursor) : Except Fault (Literal × Cursor) := do
  let c := c.step
  match c.peek? with
  | none => refuse .endInEscape c.point
  | some '\x7b' => bracedHex first c
  | some _ =>
    let (digits, behind) ← hexDigits (hexWidth letter) c
    match charOfHex? digits with
    | none => refuse .noScalarValue (behind.since c.place)
    | some char => return (⟨char, behind.since first, letter = 'x'⟩, behind)

end Hexadecimal

/-- Reads the name of a property, one letter or between braces. -/
def property (first : Place) (c : Cursor) : Except Fault (Node × Cursor) :=
  let c := c.step
  match c.peek? with
  | none => refuse .endInEscape c.point
  | some '\x7b' =>
    let (name, behind) := c.step.run (· ≠ '\x7d')
    if behind.isAtEnd then refuse .endInEscape behind.point
    else .ok (.property (behind.next.since first) name, behind.next)
  | some '\\' => refuse .badProperty c.char
  | some letter => .ok (.property (c.step.since first) [letter], c.step)

section Boundaries

def isBoundaryChar (c : Char) : Bool :=
  c.isAlpha || c = '-'

def namedBoundary? (name : List Char) : Option Anchor :=
  [("start", .wordStart), ("end", .wordEnd), ("start-half", .wordStartHalf), ("end-half", .wordEndHalf)].lookup
    (String.ofList name)

/-- Reads the name of a boundary, if braces with one follow; they may also hold a count. -/
def boundary (first : Place) (c : Cursor) : Except Fault (Anchor × Cursor) :=
  if c.peek? ≠ some '\x7b' then .ok (.boundary, c)
  else
    let inner := c.step
    match inner.peek? with
    | none => refuse .endInBoundaryOrCount (inner.since first)
    | some x =>
      if isBoundaryChar x then
        let (name, behind) := inner.run isBoundaryChar
        if behind.peek? ≠ some '\x7d' then refuse .openBoundary (behind.since c.place)
        else
          match namedBoundary? name with
          | none => refuse .unknownBoundary (behind.since inner.place)
          | some a => .ok (a, behind.next)
      else .ok (.boundary, c)

end Boundaries

/-- Reads what follows a backslash, where the letter has no parts behind it. -/
def plainEscape (first : Place) (letter : Char) (c : Cursor) : Except Fault (Node × Cursor) :=
  let span := c.since first
  if isEscapable letter then .ok (.literal ⟨letter, span, false⟩, c)
  else
    match control? letter with
    | some char => .ok (.literal ⟨char, span, false⟩, c)
    | none =>
      match anchor? letter with
      | some .boundary => do
        let (a, behind) ← boundary first c
        return (.anchor (behind.since first) a, behind)
      | some a => .ok (.anchor span a, c)
      | none => refuse .unknownEscape span

/-- Reads an escape; the cursor stands in front of the backslash. -/
def escape (c : Cursor) : Except Fault (Node × Cursor) :=
  let first := c.place
  let c := c.next
  match c.peek? with
  | none => refuse .endInEscape (c.since first)
  | some letter =>
    if letter.isDigit then refuse .backreference (c.next.since first)
    else if letter = 'x' || letter = 'u' || letter = 'U' then do
      let (l, c) ← hexadecimal first letter c
      return (.literal l, c)
    else if letter = 'p' || letter = 'P' then property first c
    else
      match shorthand? letter with
      | some (s, negated) => .ok (.shorthand (c.next.since first) s negated, c.next)
      | none => plainEscape first letter c.next

end Pattern

end ChatOpening
