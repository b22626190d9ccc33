import ChatOpening.Text.Bytes

/-!
# Escapes in URLs

A character that may not stand in a part of a URL is written as its UTF-8 bytes, each as a percent sign with two
hexadecimal digits. Which characters these are depends on the part. Escapes that are there already are kept, so
escaping says nothing about the percent sign.
-/

namespace ChatOpening

namespace Percent

/-- The characters that are escaped everywhere: controls, and what is not ASCII. -/
def always (c : Char) : Bool :=
  c < ' ' || '~' < c

/-- The characters that are escaped in a fragment. -/
def inFragment (c : Char) : Bool :=
  always c || [' ', '"', '<', '>', '\x60'].contains c

/-- The characters that are escaped in a query. -/
def inQuery (c : Char) : Bool :=
  always c || [' ', '"', '#', '<', '>'].contains c

/-- The characters that are escaped in the query of a URL with a special scheme. -/
def inSpecialQuery (c : Char) : Bool :=
  inQuery c || c = '\x27'

/-- The characters that are escaped in a path. -/
def inPath (c : Char) : Bool :=
  inFragment c || ['#', '?', '\x7b', '\x7d'].contains c

/-- The characters that are escaped in the name and the password of a user. -/
def inUser (c : Char) : Bool :=
  inPath c || ['/', ':', ';', '=', '@', '[', '\\', ']', '^', '|'].contains c

def hexDigit (n : Nat) : Char :=
  (Nat.digitChar n).toUpper

/-- A byte as an escape. -/
def escapedByte (b : UInt8) : List Char :=
  ['%', hexDigit (b.toNat / 16), hexDigit (b.toNat % 16)]

/-- A character, escaped if it is in the set. -/
def escapedChar (set : Char → Bool) (c : Char) : List Char :=
  if set c then (Text.bytes c.toString).flatMap escapedByte else [c]

/-- A text with the characters of the set escaped. -/
def escaped (set : Char → Bool) (cs : List Char) : String :=
  String.ofList (cs.flatMap (escapedChar set))

/-- The value of a byte that is a hexadecimal digit. -/
def hexValue? (b : UInt8) : Option UInt8 :=
  if 0x30 ≤ b && b ≤ 0x39 then some (b - 0x30)
  else if 0x41 ≤ b && b ≤ 0x46 then some (b - 0x37)
  else if 0x61 ≤ b && b ≤ 0x66 then some (b - 0x57)
  else none

/-- The bytes with each escape replaced by the byte that it stands for. -/
def unescaped : Bytes → Bytes
  | [] => []
  | b :: rest =>
    match b, rest with
    | 0x25, high :: low :: others =>
      match hexValue? high, hexValue? low with
      | some h, some l => (h * 16 + l) :: unescaped others
      | _, _ => 0x25 :: unescaped (high :: low :: others)
    | b, rest => b :: unescaped rest

/-- The text that is escaped in another, if it is one. -/
def text? (s : String) : Option String :=
  Text.ofBytes? (unescaped (Text.bytes s))

end Percent

end ChatOpening
