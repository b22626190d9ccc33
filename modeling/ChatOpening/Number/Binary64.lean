/-!
# Binary fractions of 53 bits

The numbers of the 64-bit binary format, by their meaning: a sign, a significand below 2^53 and a power of two
between 2^(-1074) and 2^971. Every operation takes the nearest such number to the exact result, a tie goes to the
even significand, and a result beyond the greatest one is none.

Only what a decimal numeral needs is here: the nearest number to a quotient, products and quotients.
-/

namespace ChatOpening

/-- A number without its sign: `significand * 2 ^ exponent`. -/
structure Magnitude where
  significand : Nat
  exponent : Int
  deriving DecidableEq, Repr, Inhabited

/-- A number of the 64-bit binary format; zero has both signs. -/
structure Binary64 where
  negative : Bool
  magnitude : Magnitude
  deriving DecidableEq, Repr, Inhabited

namespace Magnitude

/-- The least exponent. Numbers with less than 53 significant bits have it. -/
def leastExponent : Int := -1074

/-- The greatest exponent. -/
def greatestExponent : Int := 971

def zero : Magnitude := ⟨0, leastExponent⟩

/-- The quotient to the nearest whole number; the half goes to the even one. -/
def roundedQuotient (numerator denominator : Nat) : Nat :=
  let floor := numerator / denominator
  let twice := 2 * (numerator % denominator)
  if twice < denominator then floor
  else if denominator < twice then floor + 1
  else if floor % 2 = 0 then floor else floor + 1

/-- The part of `2 ^ e` that is a factor, and the part that is a divisor. -/
def powerParts (e : Int) : Nat × Nat :=
  (Nat.pow 2 e.toNat, Nat.pow 2 (-e).toNat)

/-- The exponent at which the quotient has 53 significant bits, or the least one if that is greater. -/
def fittingExponent (numerator denominator : Nat) : Int :=
  let guess : Int := (numerator.log2 : Int) - denominator.log2 - 53
  let (up, down) := powerParts guess
  let fitting := if numerator * down / (denominator * up) < Nat.pow 2 53 then guess else guess + 1
  max fitting leastExponent

/-- The nearest number to a quotient, unless it is beyond the greatest one. -/
def nearest (numerator denominator : Nat) : Option Magnitude :=
  if numerator = 0 then some zero
  else
    let exponent := fittingExponent numerator denominator
    let (up, down) := powerParts exponent
    let rounded := roundedQuotient (numerator * down) (denominator * up)
    let result : Magnitude :=
      if rounded = Nat.pow 2 53 then ⟨Nat.pow 2 52, exponent + 1⟩ else ⟨rounded, exponent⟩
    if result.exponent ≤ greatestExponent then some result else none

/-- The nearest number to a whole number. -/
def ofNat (n : Nat) : Option Magnitude :=
  nearest n 1

def mul (a b : Magnitude) : Option Magnitude :=
  let (up, down) := powerParts (a.exponent + b.exponent)
  nearest (a.significand * b.significand * up) down

def div (a b : Magnitude) : Option Magnitude :=
  let (up, down) := powerParts (a.exponent - b.exponent)
  nearest (a.significand * up) (b.significand * down)

end Magnitude

/-- The number one. -/
def Binary64.one : Binary64 := ⟨false, ⟨Nat.pow 2 52, -52⟩⟩

end ChatOpening
