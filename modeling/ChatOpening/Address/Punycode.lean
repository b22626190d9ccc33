/-!
# Punycode

A text is written in ASCII as its ASCII characters, a hyphen if there are any, and then the other characters in the
order of their numbers. Each of them is one number: how many places and characters lie between it and the one before
it. These numbers stand in a number system with 36 digits whose carry adapts to the size of the numbers.

Reading fails where a number exceeds 32 bits, ends too early, or leads to no character.
-/

namespace ChatOpening

namespace Punycode

def isAscii (c : Char) : Bool :=
  c.toNat < 0x80

def base : Nat := 36

/-- The digit of a value below 36: the letters and then the figures. -/
def digit (n : Nat) : Char :=
  if n < 26 then Char.ofNat ('a'.toNat + n) else Char.ofNat ('0'.toNat + (n - 26))

/-- The value of a digit. -/
def digitValue? (c : Char) : Option Nat :=
  if c.isLower then some (c.toNat - 'a'.toNat)
  else if c.isDigit then some (c.toNat - '0'.toNat + 26)
  else none

/-- The smallest value that is not the last digit at a place of a number; between 1 and 26. -/
def threshold (place bias : Nat) : Nat :=
  max 1 (min 26 (place - bias))

/-- The digits of a number, the least one first. The first digit below the threshold of its place is the last one. -/
def digits (bias place n : Nat) : List Char :=
  let t := threshold place bias
  if n < t then [digit n]
  else digit (t + (n - t) % (base - t)) :: digits bias (place + base) ((n - t) / (base - t))
termination_by n
decreasing_by
  have : 1 ≤ threshold place bias := Nat.le_max_left _ _
  exact Nat.lt_of_le_of_lt (Nat.div_le_self _ _) (by omega)

/-- Divides a number until it is small, and adds 36 for each time. -/
def damped (n place : Nat) : Nat :=
  if 455 < n then damped (n / 35) (place + base) else place + base * n / (n + 38)
termination_by n
decreasing_by omega

/-- The bias after a number, which was the first or a later one of `count`. -/
def bias (n count : Nat) (first : Bool) : Nat :=
  let scaled := if first then n / 700 else n / 2
  damped (scaled + scaled / count) 0

/-- The bias of the first number. -/
def firstBias : Nat := 72

/-- The least number of a character that is not ASCII. -/
def firstPoint : Nat := 0x80

/-- What has been written, and where the next number is counted from. -/
structure Writing where
  written : List Char
  distance : Nat
  bias : Nat
  count : Nat

namespace Writing

/-- Passes a character of the text while those of the number `point` are written; `basic` is the number of ASCII
characters. -/
def pass (basic point : Nat) (w : Writing) (c : Char) : Writing :=
  if c.toNat < point then { w with distance := w.distance + 1 }
  else if c.toNat = point then
    { written := w.written ++ digits w.bias base w.distance
      distance := 0
      bias := Punycode.bias w.distance (w.count + 1) (w.count = basic)
      count := w.count + 1 }
  else w

/-- Writes the characters with the given numbers, which ascend; the one before them is `last`. -/
def points (text : List Char) (basic : Nat) : (last : Nat) → List Nat → Writing → Writing
  | _, [], w => w
  | last, point :: others, w =>
    let reached := { w with distance := w.distance + (point - last) * (w.count + 1) }
    let passed := text.foldl (pass basic point) reached
    points text basic (point + 1) others { passed with distance := passed.distance + 1 }

end Writing

/-- The written form of a text. -/
def encoded (text : List Char) : List Char :=
  let basic := text.filter isAscii
  let points := ((text.filter fun c => !isAscii c).map Char.toNat).mergeSort.eraseDups
  let start : Writing := { written := [], distance := 0, bias := firstBias, count := basic.length }
  let separator := if basic.isEmpty then [] else ['-']
  basic ++ separator ++ (Writing.points text basic.length firstPoint points start).written

/-- What has been read, and the number that is being read. -/
structure Reading where
  text : List Char
  /-- The number of the character that was put in last. -/
  point : Nat
  bias : Nat
  /-- The place behind that character. -/
  origin : Nat
  /-- The place and what the digits so far add to it. -/
  sum : Nat
  /-- What the next digit counts. -/
  weight : Nat
  place : Nat

namespace Reading

def start (basic : List Char) : Reading :=
  { text := basic, point := firstPoint, bias := firstBias, origin := 0, sum := 0, weight := 1, place := base }

/-- The largest number that can be read. -/
def limit : Nat := 4294967295

/-- Puts in the character that a whole number means. -/
def insert? (r : Reading) : Option Reading :=
  let count := r.text.length + 1
  let point := r.point + r.sum / count
  let here := r.sum % count
  if point.isValidChar then
    some
      { text := r.text.take here ++ Char.ofNat point :: r.text.drop here
        point
        bias := Punycode.bias (r.sum - r.origin) count (r.origin = 0)
        origin := here + 1
        sum := here + 1
        weight := 1
        place := base }
  else none

/-- Reads a digit. -/
def next? (r : Reading) (c : Char) : Option Reading :=
  match digitValue? c with
  | none => none
  | some d =>
    let t := threshold r.place r.bias
    if (limit - r.sum) / r.weight < d then none
    else if d < t then insert? { r with sum := r.sum + d * r.weight }
    else if limit / (base - t) < r.weight then none
    else
      some { r with sum := r.sum + d * r.weight, weight := r.weight * (base - t), place := r.place + base }

/-- Whether no number has been begun. -/
def isWhole (r : Reading) : Bool :=
  r.place = base

end Reading

/-- The text of a written form. -/
def decoded? (code : List Char) : Option (List Char) :=
  let basic := (code.reverse.dropWhile (· ≠ '-')).tail.reverse
  let digits := if basic.isEmpty then code else (code.reverse.takeWhile (· ≠ '-')).reverse
  ((digits.foldlM Reading.next? (Reading.start basic)).filter Reading.isWhole).map Reading.text

end Punycode

end ChatOpening
