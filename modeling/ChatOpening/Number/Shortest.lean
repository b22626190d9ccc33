import ChatOpening.Number.Binary64

/-!
# The shortest decimal that reads back

A binary fraction is written with the fewest decimal digits that still lie between the two points half way to its
neighbours; of two such numerals the nearer one is taken, and of two equally near ones the even one.

The decimal digits are found on exact whole numbers. A value `s * 2 ^ q` is `exact * 10 ^ scale` with
`scale = min q 0`, and in the same units its neighbours are `unit` away. Cutting the last digits of `exact` and
rounding down or up gives the only two candidates of each length.
-/

namespace ChatOpening

/-- A decimal numeral without sign: `digits * 10 ^ exponent`. -/
structure Decimal where
  digits : Nat
  exponent : Int
  deriving DecidableEq, Repr, Inhabited

namespace Decimal

/-- The bounds of the values that round to a number, in quarters of its unit, and whether they belong to it. -/
structure Interval where
  low : Nat
  high : Nat
  closed : Bool

def Interval.contains (i : Interval) (fourfold : Nat) : Bool :=
  if i.closed then i.low ≤ fourfold && fourfold ≤ i.high else i.low < fourfold && fourfold < i.high

/-- How far two numbers are apart. -/
def distance (a b : Nat) : Nat :=
  (a - b) + (b - a)

/-- The candidate with `cut` digits less than `exact` that lies in the interval and is nearest. -/
def candidate? (exact : Nat) (interval : Interval) (cut : Nat) : Option Nat :=
  let grid := Nat.pow 10 cut
  let down := exact / grid
  let up := down + 1
  let inside (n : Nat) : Bool := interval.contains (4 * (n * grid))
  let downGap := distance exact (down * grid)
  let upGap := distance (up * grid) exact
  let downFirst := downGap < upGap || (downGap = upGap && down % 2 = 0)
  match inside down, inside up with
  | true, true => some (if downFirst then down else up)
  | true, false => some down
  | false, true => some up
  | false, false => none

/-- The first candidate when ever fewer digits are cut; with no digit cut it is `exact` itself. -/
def search (exact : Nat) (interval : Interval) : Nat → Decimal
  | 0 => ⟨exact, 0⟩
  | cut + 1 =>
    match candidate? exact interval (cut + 1) with
    | some n => ⟨n, cut + 1⟩
    | none => search exact interval cut

/-- The shortest decimal numeral of a magnitude. -/
def ofMagnitude (m : Magnitude) : Decimal :=
  let unit : Nat := if 0 ≤ m.exponent then Nat.pow 2 m.exponent.toNat else Nat.pow 5 (-m.exponent).toNat
  let exact := m.significand * unit
  let lowGap := if m.significand = Nat.pow 2 52 && Magnitude.leastExponent < m.exponent then unit else 2 * unit
  let interval : Interval := ⟨4 * exact - lowGap, 4 * exact + 2 * unit, m.significand % 2 = 0⟩
  let found := search exact interval (Nat.toDigits 10 exact).length
  ⟨found.digits, found.exponent + min m.exponent 0⟩

/-- The digits of a numeral without the zeros at its end. -/
def significantDigits (d : Decimal) : List Char :=
  ((Nat.toDigits 10 d.digits).reverse.dropWhile (· = '0')).reverse

/-- The power of ten of the first digit. -/
def leadingPower (d : Decimal) : Int :=
  (Nat.toDigits 10 d.digits).length - 1 + d.exponent

end Decimal

/-- Which powers of ten of the first digit are written without an exponent. -/
structure PlainRange where
  least : Int
  beyond : Int

/-- Numbers from 0.00001 up to, but not including, ten quadrillions are written without an exponent. -/
def plainRange : PlainRange := ⟨-5, 16⟩

namespace Decimal

/-- Digits with the mark of the decimal fraction and at least one digit on either side of it. -/
def plain (digits : List Char) (power : Int) : List Char :=
  if power < 0 then
    '0' :: '.' :: (List.replicate (-power - 1).toNat '0' ++ digits)
  else
    let whole := power.toNat + 1
    let padded := digits ++ List.replicate (whole - digits.length) '0'
    let fraction := padded.drop whole
    padded.take whole ++ '.' :: (if fraction.isEmpty then ['0'] else fraction)

/-- One digit before the mark, the others behind it, and the power of ten with its sign. -/
def scientific (digits : List Char) (power : Int) : List Char :=
  let fraction := digits.drop 1
  digits.take 1 ++ (if fraction.isEmpty then [] else '.' :: fraction)
    ++ 'e' :: (if power < 0 then '-' else '+') :: (Nat.toDigits 10 power.natAbs)

/-- The written form of a numeral. -/
def written (d : Decimal) : List Char :=
  if d.digits = 0 then ['0', '.', '0']
  else
    let power := d.leadingPower
    if plainRange.least ≤ power && power < plainRange.beyond then plain d.significantDigits power
    else scientific d.significantDigits power

end Decimal

/-- The shortest numeral that reads back, with a minus sign before the numbers that carry one. -/
def Binary64.written (x : Binary64) : String :=
  let digits := (Decimal.ofMagnitude x.magnitude).written
  String.ofList (if x.negative then '-' :: digits else digits)

end ChatOpening
