/-!
# Texts and their bytes

A text is a `String`; what travels over a connection or lies in a file is a list of bytes. This module
holds the way from a text to its UTF-8 bytes, the way back, and the two readings of bytes that spell no
text: where the first byte stands that no text continues with (`intactLength`), and the text in which each
broken stretch is shown as one replacement character (`lossy`).

Main statement: `ofBytes?_bytes`, a text is read back from its own bytes.
-/

namespace ChatOpening

/-- What is stored in a file or sent over a connection. -/
abbrev Bytes := List UInt8

namespace Text

/-- The UTF-8 bytes of a text. -/
def bytes (s : String) : Bytes :=
  s.toByteArray.data.toList

/-- The text that the bytes spell in UTF-8, if they spell one. -/
def ofBytes? (b : Bytes) : Option String :=
  String.fromUTF8? b.toByteArray

/-- The bytes of a text are read as this text. -/
theorem ofBytes?_bytes (s : String) : ofBytes? (bytes s) = some s := by
  have h : (bytes s).toByteArray = s.toByteArray := by
    apply ByteArray.ext
    simp [bytes]
  simp only [ofBytes?, String.fromUTF8?, h, dif_pos s.isValidUTF8]
  rfl

/-- What the first bytes of a sequence are: a whole character of the given size, or a stretch of the given
size that starts no character. -/
inductive Head where
  | whole (size : Nat)
  | broken (size : Nat)
  deriving DecidableEq, Repr

/-- The bytes that follow the first byte of a character. -/
def isTail (b : UInt8) : Bool :=
  0x80 ≤ b && b ≤ 0xBF

/-- The smallest and the greatest second byte after the given first byte. They exclude the longer spellings
of shorter characters, the surrogates, and all above U+10FFFF. -/
def secondRange (first : UInt8) : UInt8 × UInt8 :=
  if first = 0xE0 then (0xA0, 0xBF)
  else if first = 0xED then (0x80, 0x9F)
  else if first = 0xF0 then (0x90, 0xBF)
  else if first = 0xF4 then (0x80, 0x8F)
  else (0x80, 0xBF)

/-- How many bytes follow the given first byte; none if no character starts with it. -/
def tailCount (first : UInt8) : Option Nat :=
  if first < 0x80 then some 0
  else if 0xC2 ≤ first && first ≤ 0xDF then some 1
  else if 0xE0 ≤ first && first ≤ 0xEF then some 2
  else if 0xF0 ≤ first && first ≤ 0xF4 then some 3
  else none

/-- The character, or the broken stretch, that starts with `first`. A stretch ends before the first byte that
cannot continue it. -/
def headOf (first : UInt8) (rest : Bytes) : Head :=
  match tailCount first with
  | none => .broken 1
  | some 0 => .whole 1
  | some (count + 1) =>
    let (low, high) := secondRange first
    match rest with
    | [] => .broken 1
    | second :: others =>
      if low ≤ second && second ≤ high then
        let seen := ((others.take count).takeWhile isTail).length
        if seen = count then .whole (count + 2) else .broken (seen + 2)
      else .broken 1

/-- Adds to `count` the number of bytes before the first stretch that starts no character. -/
def intactFrom (count : Nat) (b : Bytes) : Nat :=
  match b with
  | [] => count
  | first :: rest =>
    match headOf first rest with
    | .whole size => intactFrom (count + size) (rest.drop (size - 1))
    | .broken _ => count
termination_by b.length
decreasing_by simp only [List.length_drop, List.length_cons]; omega

/-- The number of bytes before the first stretch that starts no character; all of them, if there is none. -/
def intactLength (b : Bytes) : Nat :=
  intactFrom 0 b

/-- Puts the characters that the bytes spell, U+FFFD for each broken stretch, behind those in `done`, which
stand there in reverse. -/
def lossyFrom (done : List Char) (b : Bytes) : List Char :=
  match b with
  | [] => done.reverse
  | first :: rest =>
    match headOf first rest with
    | .whole size =>
      let spelled := (ofBytes? (first :: rest.take (size - 1))).getD ""
      lossyFrom (spelled.toList.reverse ++ done) (rest.drop (size - 1))
    | .broken size => lossyFrom ('\uFFFD' :: done) (rest.drop (size - 1))
termination_by b.length
decreasing_by all_goals simp only [List.length_drop, List.length_cons]; omega

/-- The text that the bytes spell, with U+FFFD for each stretch that starts no character. -/
def lossy (b : Bytes) : String :=
  match ofBytes? b with
  | some s => s
  | none => String.ofList (lossyFrom [] b)

end Text

end ChatOpening
