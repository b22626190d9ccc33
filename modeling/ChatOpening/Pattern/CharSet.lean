/-!
# Sets of characters

A set is a list of ranges of numbers of characters, which ascend and do not touch each other.
-/

namespace ChatOpening

namespace Pattern

/-- The numbers from the first to the last one. -/
structure Interval where
  first : Nat
  last : Nat
  deriving DecidableEq, Repr

namespace Interval

def contains (r : Interval) (n : Nat) : Bool :=
  r.first ≤ n && n ≤ r.last

/-- What two ranges have in common. -/
def meet (r s : Interval) : Interval :=
  ⟨max r.first s.first, min r.last s.last⟩

def isEmpty (r : Interval) : Bool :=
  r.last < r.first

end Interval

structure CharSet where
  ranges : List Interval
  deriving DecidableEq, Repr

namespace CharSet

def empty : CharSet := ⟨[]⟩

def isEmpty (s : CharSet) : Bool :=
  s.ranges.isEmpty

def containsNumber (s : CharSet) (n : Nat) : Bool :=
  s.ranges.any (·.contains n)

def contains (s : CharSet) (c : Char) : Bool :=
  s.containsNumber c.toNat

/-- Puts together ranges that touch each other; they are given in the order of their first numbers. -/
def merged : List Interval → List Interval
  | [] => []
  | r :: others =>
    match merged others with
    | [] => [r]
    | s :: rest => if s.first ≤ r.last + 1 then ⟨r.first, max r.last s.last⟩ :: rest else r :: s :: rest

/-- The set of the numbers in some of the ranges. -/
def ofIntervals (rs : List Interval) : CharSet :=
  ⟨merged ((rs.filter (!·.isEmpty)).mergeSort fun r s => r.first ≤ s.first)⟩

/-- The set of characters in some of the ranges. -/
def ofRanges (rs : List (Char × Char)) : CharSet :=
  ofIntervals (rs.map fun r => ⟨r.1.toNat, r.2.toNat⟩)

def union (s t : CharSet) : CharSet :=
  ofIntervals (s.ranges ++ t.ranges)

def intersection (s t : CharSet) : CharSet :=
  ⟨(s.ranges.flatMap fun r => t.ranges.map r.meet).filter (!·.isEmpty)⟩

/-- The number of the last character. -/
def lastNumber : Nat := 0x10FFFF

/-- The ranges between the given ones, from a number on. -/
def gapsFrom (low : Nat) : List Interval → List Interval
  | [] => [⟨low, lastNumber⟩]
  | r :: others =>
    if low < r.first then ⟨low, r.first - 1⟩ :: gapsFrom (r.last + 1) others else gapsFrom (r.last + 1) others

def difference (s t : CharSet) : CharSet :=
  s.intersection ⟨gapsFrom 0 t.ranges⟩

def symmetricDifference (s t : CharSet) : CharSet :=
  (s.union t).difference (s.intersection t)

/-- All characters. -/
def all : CharSet := ⟨[⟨0, 0xD7FF⟩, ⟨0xE000, lastNumber⟩]⟩

/-- All bytes. -/
def bytes : CharSet := ⟨[⟨0, 0xFF⟩]⟩

def isAscii (s : CharSet) : Bool :=
  s.ranges.all (·.last < 0x80)

/-- The small and capital letters of ASCII that differ from those of a set only in this. -/
def otherCase (s : CharSet) : CharSet :=
  let letters (first last : Nat) (shift : Nat → Nat) : List Interval :=
    (s.intersection ⟨[⟨first, last⟩]⟩).ranges.map fun r => ⟨shift r.first, shift r.last⟩
  ofIntervals (letters 0x41 0x5A (· + 0x20) ++ letters 0x61 0x7A (· - 0x20))

end CharSet

end Pattern

end ChatOpening
