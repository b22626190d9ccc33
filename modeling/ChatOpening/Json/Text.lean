import ChatOpening.Json.Reader

/-!
# Texts in JSON

A text stands between two quotation marks. Backslashes start escapes; an escape by number is a UTF-16 unit, so a
character outside the first plane needs two. Bytes below the blank are refused. The spelled bytes must be UTF-8,
which is looked at when the closing mark has been read: the fault lies as far in front of what follows that mark as
there are spelled bytes from the first wrong one on.

Passing over a text (`passText`) differs from reading it (`text`): units need no partner and bytes need not be UTF-8.
-/

namespace ChatOpening

namespace Json

/-- The quotation mark. -/
def quoteMark : UInt8 := 0x22

/-- The backslash. -/
def backslash : UInt8 := 0x5C

/-- The value of a hexadecimal digit. -/
def hexValue (b : UInt8) : Option Nat :=
  if 0x30 ≤ b && b ≤ 0x39 then some (b.toNat - 0x30)
  else if 0x41 ≤ b && b ≤ 0x46 then some (b.toNat - 0x41 + 10)
  else if 0x61 ≤ b && b ≤ 0x66 then some (b.toNat - 0x61 + 10)
  else none

/-- The unit that four hexadecimal digits spell. -/
def unitValue (a b c d : UInt8) : Option Nat := do
  return (((← hexValue a) * 16 + (← hexValue b)) * 16 + (← hexValue c)) * 16 + (← hexValue d)

/-- Reads the four digits of an escape by number. -/
def unit : Reader Nat
  | a :: b :: c :: d :: rest =>
    match unitValue a b c d with
    | some n => .ok ⟨n, rest, by simp; omega⟩
    | none => .error (.here .badEscape rest)
  | _ => .error (.here .endInText [])

/-- The first of the two units of a character outside the first plane. -/
def isHighSurrogate (n : Nat) : Bool :=
  0xD800 ≤ n && n ≤ 0xDBFF

/-- The second of the two units of a character outside the first plane. -/
def isLowSurrogate (n : Nat) : Bool :=
  0xDC00 ≤ n && n ≤ 0xDFFF

/-- The bytes of the character with the given number. -/
def codePoint (n : Nat) : Bytes :=
  String.utf8EncodeChar (Char.ofNat n)

/-- The number of a character from its two units. -/
def joined (high low : Nat) : Nat :=
  (high - 0xD800) * 0x400 + (low - 0xDC00) + 0x10000

/-- Reads the second unit of a character outside the first plane. -/
def lowUnit (high : Nat) : Reader Bytes
  | [] => .error (.here .endInText [])
  | b :: rest =>
    if b ≠ backslash then .error (.here .surrogateWithoutEscape rest)
    else
      match rest with
      | [] => .error (.here .endInText [])
      | letter :: digits =>
        if letter ≠ 0x75 then .error (.here .surrogateWithoutEscape digits)
        else
          match unit digits with
          | .error fault => .error fault
          | .ok p =>
            if isLowSurrogate p.value then
              .ok ⟨codePoint (joined high p.value), p.rest, by have := p.shorter; simp; omega⟩
            else .error (.here .loneSurrogate p.rest)

/-- Reads the character after a backslash and the letter u. -/
def numbered (input : Bytes) : Outcome input.length Bytes :=
  match unit input with
  | .error fault => .error fault
  | .ok p =>
    if isLowSurrogate p.value then .error (.here .loneSurrogate p.rest)
    else if isHighSurrogate p.value then (lowUnit p.value p.rest).widen (Nat.le_of_lt p.shorter)
    else .ok ⟨codePoint p.value, p.rest, p.shorter⟩

/-- The byte that a letter after a backslash stands for. -/
def shortEscape (letter : UInt8) : Option UInt8 :=
  if letter = 0x22 || letter = 0x5C || letter = 0x2F then some letter
  else if letter = 0x62 then some 0x08
  else if letter = 0x66 then some 0x0C
  else if letter = 0x6E then some 0x0A
  else if letter = 0x72 then some 0x0D
  else if letter = 0x74 then some 0x09
  else none

/-- Reads what follows a backslash. -/
def escape : Reader Bytes
  | [] => .error (.here .endInText [])
  | letter :: rest =>
    match shortEscape letter with
    | some b => .ok (.before [b] rest)
    | none =>
      if letter = 0x75 then (numbered rest).afterFirst
      else .error (.here .badEscape rest)

/-- The bytes that are spelled up to the closing mark; those before `input` stand in `done` in reverse. -/
def spelledBytes {bound : Nat} (input : Bytes) (h : input.length ≤ bound) (done : Bytes) : Outcome bound Bytes :=
  match input, h with
  | [], _ => .error (.here .endInText [])
  | b :: rest, h =>
    if b = quoteMark then .ok ⟨done.reverse, rest, h⟩
    else if b = backslash then
      match escape rest with
      | .ok p => spelledBytes p.rest (by have := p.shorter; simp at h; omega) (p.value.reverse ++ done)
      | .error fault => .error fault
    else if b < 0x20 then .error (.here .controlCharacter rest)
    else spelledBytes rest (Nat.le_of_succ_le h) (b :: done)
termination_by input.length
decreasing_by
  · have := p.shorter
    simp
    omega
  · simp

/-- Reads a text whose opening mark has been read. -/
def text (input : Bytes) : Outcome input.length String :=
  match spelledBytes input (length_le_self input) [] with
  | .error fault => .error fault
  | .ok p =>
    match Text.ofBytes? p.value with
    | some s => .ok ⟨s, p.rest, p.shorter⟩
    | none =>
      let lost := p.value.length - Text.intactLength p.value
      .error (.here .notUtf8 (input.drop (input.length - p.rest.length - lost)))

/-- Passes over what follows a backslash. -/
def passEscape : Reader Unit
  | [] => .error (.here .endInText [])
  | letter :: rest =>
    match shortEscape letter with
    | some _ => .ok (.before () rest)
    | none =>
      if letter = 0x75 then ((unit rest).map fun _ => ()).afterFirst
      else .error (.here .badEscape rest)

/-- Passes over a text whose opening mark has been read. -/
def passText {bound : Nat} (input : Bytes) (h : input.length ≤ bound) : Outcome bound Unit :=
  match input, h with
  | [], _ => .error (.here .endInText [])
  | b :: rest, h =>
    if b = quoteMark then .ok ⟨(), rest, h⟩
    else if b = backslash then
      match passEscape rest with
      | .ok p => passText p.rest (by have := p.shorter; simp at h; omega)
      | .error fault => .error fault
    else if b < 0x20 then .error (.here .controlCharacter (b :: rest))
    else passText rest (Nat.le_of_succ_le h)
termination_by input.length
decreasing_by
  · have := p.shorter
    simp
    omega
  · simp

end Json

end ChatOpening
