import ChatOpening.Text.Bytes

/-!
# Base 64

Bytes written with 64 characters, each of which stands for six bits: three bytes make four characters. One or two bytes
that are left at the end make two or three characters, and equals signs fill up the four.
-/

namespace ChatOpening

namespace Base64

/-- The character for six bits. -/
def digit (n : Nat) : Char :=
  if n < 26 then Char.ofNat ('A'.toNat + n)
  else if n < 52 then Char.ofNat ('a'.toNat + (n - 26))
  else if n < 62 then Char.ofNat ('0'.toNat + (n - 52))
  else if n = 62 then '+'
  else '/'

/-- The characters for 24 bits. -/
def group (n : Nat) : List Char :=
  [digit (n / 262144), digit (n / 4096 % 64), digit (n / 64 % 64), digit (n % 64)]

/-- The written form of bytes. -/
def written : Bytes → List Char
  | [] => []
  | [a] => (group (a.toNat * 65536)).take 2 ++ ['=', '=']
  | [a, b] => (group (a.toNat * 65536 + b.toNat * 256)).take 3 ++ ['=']
  | a :: b :: c :: rest => group (a.toNat * 65536 + b.toNat * 256 + c.toNat) ++ written rest

end Base64

end ChatOpening
