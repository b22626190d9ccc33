/-!
# Message ids

A message is named by the letters `msg`, an underscore and eight hexadecimal digits in lower case. The digits are the
first ones of a random UUID, so the version and the variant, which stand later in it, do not show.
-/

namespace ChatOpening

/-- A universally unique identifier: 128 bits, the first one on the left. -/
structure Uuid where
  bits : BitVec 128
  deriving DecidableEq, Repr

namespace Uuid

/-- The number of four-bit groups. -/
def groups : Nat := 32

/-- The group at a position, counted from the left. -/
def group (u : Uuid) (i : Nat) : Nat :=
  u.bits.toNat / Nat.pow 16 (groups - 1 - i) % 16

/-- The hexadecimal digits, without hyphens. -/
def digits (u : Uuid) : List Char :=
  (List.range groups).map fun i => Nat.digitChar (u.group i)

/-- The first 32 bits. -/
def head (u : Uuid) : BitVec 32 :=
  u.bits.extractLsb' 96 32

/-- A random identifier: the thirteenth group is 4, and the seventeenth starts with the bits 10. -/
def IsVersion4 (u : Uuid) : Prop :=
  u.group 12 = 4 ∧ u.group 16 / 4 = 2

instance (u : Uuid) : Decidable u.IsVersion4 :=
  inferInstanceAs (Decidable (_ ∧ _))

/-- The random identifier with the given bits, except where version and variant stand. -/
def version4 (random : BitVec 128) : Uuid :=
  let version : BitVec 128 := 0xF#128 <<< 76
  let variant : BitVec 128 := 0x3#128 <<< 62
  ⟨((random &&& ~~~(version ||| variant)) ||| (0x4#128 <<< 76)) ||| (0x2#128 <<< 62)⟩

end Uuid

namespace MessageId

/-- How every message id starts. -/
def opening : List Char := ['m', 's', 'g', '_']

/-- How many digits follow. -/
def digitCount : Nat := 8

/-- The message id with the first digits of an identifier. -/
def ofUuid (u : Uuid) : String :=
  String.ofList (opening ++ u.digits.take digitCount)

def isLowerHex (c : Char) : Bool :=
  c.isDigit || ('a' ≤ c && c ≤ 'f')

/-- What follows the given start, if the characters start with it. -/
def afterOpening : (start : List Char) → List Char → Option (List Char)
  | [], cs => some cs
  | _ :: _, [] => none
  | s :: start, c :: cs => if c = s then afterOpening start cs else none

/-- Whether a text is a message id: behind the start it has as many bytes as an id has digits, and all its characters
are digits of an id. -/
def isValid (s : String) : Bool :=
  match afterOpening opening s.toList with
  | none => false
  | some hex => (String.ofList hex).utf8ByteSize = digitCount && hex.all isLowerHex

end MessageId

end ChatOpening
