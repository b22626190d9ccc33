import ChatOpening.Number.Shortest
import ChatOpening.Text.Bytes

/-!
# The value of a numeral

A numeral is what the grammar of JSON calls a number: a sign, the digits of the whole part, possibly the digits
of a fraction, possibly an exponent. Its value is a whole number if it has neither fraction nor exponent and fits
into 64 bits, signed or not; otherwise, and for minus zero, it is a binary fraction.

The fraction is computed from the leading digits, as many as fit into 64 bits, and one multiplication or division
by a power of ten. The digits that do not fit are dropped; those of the whole part still count for the exponent.
So the result is not always the nearest number to the numeral, and this is part of the format.
-/

namespace ChatOpening

/-- The parts of a numeral; digits are kept as they are written. -/
structure Numeral where
  negative : Bool
  whole : Bytes
  fraction : Option Bytes
  /-- Whether the exponent is negative, and its digits. -/
  exponent : Option (Bool × Bytes)
  deriving DecidableEq, Repr

/-- The value of a numeral. -/
inductive Number where
  | integer (n : Int)
  | fraction (x : Binary64)
  deriving DecidableEq, Repr

namespace Numeral

/-- The value of a digit. -/
def digitValue (b : UInt8) : Nat :=
  b.toNat - 48

/-- The greatest number of 64 bits. -/
def greatestWord : Nat := UInt64.size - 1

/-- The greatest exponent that is read to its end. -/
def greatestPower : Nat := Nat.pow 2 31 - 1

/-- Puts digits behind a number while it stays below the limit, and returns the digits that were left over. -/
def gather (limit word : Nat) : Bytes → Nat × Bytes
  | [] => (word, [])
  | d :: rest =>
    let next := word * 10 + digitValue d
    if next ≤ limit then gather limit next rest else (word, d :: rest)

/-- The number `m * 10 ^ power`, with one rounding for each step of at most 308 powers of ten. -/
def scaled (m : Magnitude) (power : Int) : Option Magnitude :=
  if m.significand = 0 then some Magnitude.zero
  else if 308 < power then none
  else if 0 ≤ power then do m.mul (← Magnitude.ofNat (Nat.pow 10 power.toNat))
  else if -308 ≤ power then do m.div (← Magnitude.ofNat (Nat.pow 10 (-power).toNat))
  else do scaled (← m.div (← Magnitude.ofNat (Nat.pow 10 308))) (power + 308)
termination_by power.natAbs
decreasing_by omega

/-- The leading digits as a word, and the power of ten that it is to be multiplied with before the exponent. -/
def leading (n : Numeral) : Nat × Int :=
  let (word, dropped) := gather greatestWord 0 n.whole
  match n.fraction with
  | none => (word, dropped.length)
  | some digits =>
    let (longer, unread) := gather greatestWord word digits
    (longer, (dropped.length : Int) - ((digits.length : Int) - unread.length))

/-- The whole number that the numeral is, if it is one. -/
def integer? (n : Numeral) : Option Int :=
  match n.fraction, n.exponent, gather greatestWord 0 n.whole with
  | none, none, (word, []) =>
    if n.negative then
      if 0 < word && word ≤ Nat.pow 2 63 then some (-(word : Int)) else none
    else some word
  | _, _, _ => none

/-- A numeral beyond the range of the format, and how many of its last digits were not looked at when that was
seen. -/
structure OutOfRange where
  unread : Nat

/-- The binary fraction that the numeral stands for. -/
def fractionValue (n : Numeral) : Except OutOfRange Binary64 :=
  let (word, power) := n.leading
  let finish (power : Int) : Except OutOfRange Binary64 :=
    match Magnitude.ofNat word >>= fun m => scaled m power with
    | some m => .ok ⟨n.negative, m⟩
    | none => .error ⟨0⟩
  match n.exponent with
  | none => finish power
  | some (down, digits) =>
    match gather greatestPower 0 digits with
    | (size, []) => finish (if down then power - size else power + size)
    | (_, unread) =>
      if word ≠ 0 && !down then .error ⟨unread.length - 1⟩
      else .ok ⟨n.negative, Magnitude.zero⟩

/-- The value of the numeral. -/
def value (n : Numeral) : Except OutOfRange Number :=
  match n.integer? with
  | some i => .ok (.integer i)
  | none => n.fractionValue.map .fraction

end Numeral

/-- The written form of a number. -/
def Number.written : Number → String
  | .integer n => toString n
  | .fraction x => x.written

end ChatOpening
