import ChatOpening.Pattern.Expression

/-!
# The size of patterns

Patterns are refused if an automaton for them would take too much memory. The automaton reads bytes; a set of
characters is read by states for the bytes of their UTF-8 forms. There are two automata, one that reads forwards and
keeps what groups capture, and one that reads backwards. Reading forwards, characters share the states of equal ends;
reading backwards, those of equal beginnings.
-/

namespace ChatOpening

namespace Pattern

/-- The ranges of the bytes of characters, from the first byte to the last one. -/
abbrev ByteRanges := List Interval

section Utf8

/-- The ranges of the continuation bytes of numbers, given how many bytes there are. -/
def continuations : (count : Nat) → (first last : Nat) → List ByteRanges
  | 0, _, _ => [[]]
  | count + 1, first, last =>
    let unit := Nat.pow 64 count
    let byte (n : Nat) : Nat := 0x80 + n
    let a := first / unit
    let b := last / unit
    if a = b then (continuations count (first % unit) (last % unit)).map (⟨byte a, byte a⟩ :: ·)
    else
      let low := if first % unit = 0 then a else a + 1
      let high := if last % unit = unit - 1 then b + 1 else b
      let head :=
        if low = a then [] else (continuations count (first % unit) (unit - 1)).map (⟨byte a, byte a⟩ :: ·)
      let middle :=
        if low < high then (continuations count 0 (unit - 1)).map (⟨byte low, byte (high - 1)⟩ :: ·) else []
      let tail := if high = b then (continuations count 0 (last % unit)).map (⟨byte b, byte b⟩ :: ·) else []
      head ++ middle ++ tail

/-- The lengths of UTF-8 forms: the numbers that have them, the continuation bytes, and what the first byte adds. -/
def forms : List (Interval × Nat × Nat) :=
  [(⟨0, 0x7F⟩, 0, 0), (⟨0x80, 0x7FF⟩, 1, 0xC0), (⟨0x800, 0xFFFF⟩, 2, 0xE0), (⟨0x10000, 0x10FFFF⟩, 3, 0xF0)]

/-- The ranges for numbers of a form with continuation bytes. A first byte is counted as a continuation byte and then
moved to its place. -/
def formRanges (r : Interval) (count mark : Nat) : List ByteRanges :=
  if count = 0 then [[r]]
  else
    (continuations (count + 1) r.first r.last).map fun bytes =>
      match bytes with
      | [] => []
      | b :: others => ⟨b.first - 0x80 + mark, b.last - 0x80 + mark⟩ :: others

/-- The ranges of the bytes of the characters of a set. -/
def byteRanges (s : CharSet) : List ByteRanges :=
  (s.intersection .all).ranges.flatMap fun r =>
    forms.flatMap fun (form, count, mark) =>
      let part := r.meet form
      if part.isEmpty then [] else formRanges part count mark

/-- What follows each of the different first ranges. Equal ones stand side by side. -/
def branches : List ByteRanges → List (Interval × List ByteRanges)
  | [] => []
  | [] :: others => branches others
  | (r :: rest) :: others =>
    match branches others with
    | (s, ends) :: more => if s = r then (r, rest :: ends) :: more else (r, [rest]) :: (s, ends) :: more
    | [] => [(r, [rest])]

/-- What is still to be read in the states behind at most `depth` bytes. -/
def stateEnds : (depth : Nat) → List ByteRanges → List (List ByteRanges)
  | 0, _ => []
  | depth + 1, ends =>
    match branches ends with
    | [] => []
    | bs => ends :: bs.flatMap fun b => stateEnds depth b.2

/-- The beginnings of a list of ranges. -/
def beginnings (bytes : ByteRanges) : List ByteRanges :=
  (List.range bytes.length).map fun n => bytes.take (n + 1)

end Utf8

/-- The bytes that a state takes. -/
def stateSize : Nat := 32

/-- The bytes that a transition to one of several states takes. -/
def choiceSize : Nat := 4

/-- The bytes that a transition for one of several ranges takes. -/
def rangeSize : Nat := 8

/-- The size of a state that reads one of several ranges. -/
def readerSize (count : Nat) : Nat :=
  stateSize + if count = 1 then 0 else rangeSize * count

/-- The character of a set with no other one. -/
def onlyChar? (s : CharSet) : Option Nat :=
  match s.ranges with
  | [r] => if r.first = r.last then some r.first else none
  | _ => none

/-- The size of what reads a character of a set. -/
def setSize (backwards : Bool) (s : CharSet) : Nat :=
  match onlyChar? s with
  | some n => stateSize * (Char.ofNat n).utf8Size
  | none =>
    if s.isAscii then stateSize + readerSize s.ranges.length
    else
      let all := byteRanges s
      if backwards then
        stateSize * (2 + (all.flatMap beginnings).eraseDups.length) + choiceSize * all.length
      else (stateEnds 4 all).eraseDups.foldl (fun size ends => size + readerSize (branches ends).length) stateSize

namespace Expression

/-- The size of a state that chooses between two others. -/
def forkSize : Nat := stateSize + 2 * choiceSize

/-- The size of the automaton of an expression. -/
def size (backwards : Bool) : Expression → Nat
  | empty => stateSize
  | set s => setSize backwards s
  | look _ => stateSize
  | both a b => a.size backwards + b.size backwards
  | either a b => forkSize + stateSize + a.size backwards + b.size backwards
  | repetition least most inner =>
    let one := inner.size backwards
    match most with
    | none => (max least 1) * one + forkSize
    | some most => least * one + stateSize + (most - least) * (one + forkSize)
  | capture inner => inner.size backwards + if backwards then 0 else 2 * stateSize

/-- The largest size of an automaton. -/
def largestSize : Nat := 10485760

/-- Whether the automaton that reads in a direction would be too large. -/
def isTooLarge (backwards : Bool) (e : Expression) : Bool :=
  largestSize < e.size backwards

end Expression

end Pattern

end ChatOpening
