import ChatOpening.Text.Bytes

/-!
# The bytes of a text

A text and its UTF-8 bytes determine each other, and the ASCII bytes among them stand for the ASCII characters of the
text: a byte below 0x80 is a character of its own, and all bytes of any other character are at least 0x80.

**Results.**
* `ofBytes?_eq_some_iff`: bytes spell a text exactly if they are the bytes of this text.
* `isText_behind_text`: what stands behind a text that is part of a text is a text.
-/

namespace ChatOpening

namespace Text

section Bytes

/-- A text is encoded character by character. -/
theorem bytes_eq_flatMap (s : String) : bytes s = s.toList.flatMap String.utf8EncodeChar := by
  have h : s.toByteArray = (s.toList.flatMap String.utf8EncodeChar).toByteArray := by
    rw [← @String.utf8Encode_toList s]
    rfl
  simp [bytes, h]

@[simp] theorem bytes_ofList (cs : List Char) :
    bytes (String.ofList cs) = cs.flatMap String.utf8EncodeChar := by
  rw [bytes_eq_flatMap, String.toList_ofList]

@[simp] theorem bytes_append (s t : String) : bytes (s ++ t) = bytes s ++ bytes t := by
  simp [bytes_eq_flatMap]

theorem length_bytes (s : String) : (bytes s).length = s.utf8ByteSize :=
  Array.length_toList

/-- Bytes spell a text exactly if they are its bytes. -/
theorem ofBytes?_eq_some_iff {b : Bytes} {s : String} : ofBytes? b = some s ↔ b = bytes s := by
  constructor
  · intro h
    unfold ofBytes? String.fromUTF8? at h
    split at h
    · next hv =>
      rw [Option.some.injEq] at h
      subst h
      simp [bytes, String.fromUTF8]
    · contradiction
  · rintro rfl
    exact ofBytes?_bytes s

/-- Bytes that are read as no text belong to none. -/
theorem ofBytes?_eq_none_iff {b : Bytes} : ofBytes? b = none ↔ ∀ s, b ≠ bytes s := by
  rw [Option.eq_none_iff_forall_ne_some]
  exact forall_congr' fun s => not_congr ofBytes?_eq_some_iff

/-- Texts with the same bytes are the same. -/
theorem bytes_injective {s t : String} (h : bytes s = bytes t) : s = t := by
  have hread := ofBytes?_bytes s
  rw [h, ofBytes?_bytes t, Option.some.injEq] at hread
  exact hread.symm

end Bytes

section Ascii

/-- The bytes of an ASCII character: its number, and nothing else. -/
theorem utf8EncodeChar_ascii {c : Char} (h : c.toNat < 0x80) :
    String.utf8EncodeChar c = [UInt8.ofNat c.toNat] := by
  have hle : c.toNat ≤ 127 := by omega
  simp [String.utf8EncodeChar, hle]

theorem high_of_le {n : Nat} (hlow : 0x80 ≤ n) (hhigh : n < 0x100) : 0x80 ≤ UInt8.ofNat n := by
  rw [UInt8.le_iff_toNat_le, UInt8.toNat_ofNat_of_lt' hhigh]
  exact hlow

/-- All bytes of a character beyond ASCII have their highest bit set. -/
theorem high_of_mem_utf8EncodeChar {c : Char} (h : 0x80 ≤ c.toNat) {b : UInt8}
    (hb : b ∈ String.utf8EncodeChar c) : 0x80 ≤ b := by
  have hne : ¬ c.toNat ≤ 127 := by omega
  simp only [String.utf8EncodeChar, Char.toNat_val, hne, if_false] at hb
  split at hb
  · simp only [List.mem_cons, List.not_mem_nil, or_false] at hb
    rcases hb with rfl | rfl <;> exact high_of_le (by omega) (by omega)
  · split at hb
    · simp only [List.mem_cons, List.not_mem_nil, or_false] at hb
      rcases hb with rfl | rfl | rfl <;> exact high_of_le (by omega) (by omega)
    · simp only [List.mem_cons, List.not_mem_nil, or_false] at hb
      rcases hb with rfl | rfl | rfl | rfl <;> exact high_of_le (by omega) (by omega)

/-- ASCII bytes are those of ASCII characters. -/
theorem low_iff_ascii {c : Char} {b : UInt8} (hb : b ∈ String.utf8EncodeChar c) :
    b < 0x80 ↔ c.toNat < 0x80 := by
  constructor
  · intro hlow
    rcases Nat.lt_or_ge c.toNat 0x80 with hc | hc
    · exact hc
    · exact absurd hlow (UInt8.not_lt.2 (high_of_mem_utf8EncodeChar hc hb))
  · intro hc
    rw [utf8EncodeChar_ascii hc, List.mem_singleton] at hb
    rw [hb, UInt8.lt_iff_toNat_lt, UInt8.toNat_ofNat_of_lt' (Nat.lt_trans hc (by decide))]
    exact hc

theorem toNat_ofNat_ascii : ∀ n < 0x80, (Char.ofNat n).toNat = n := by
  decide

/-- An ASCII byte is the character with its number. -/
theorem exists_char_of_low {b : UInt8} (hb : b < 0x80) :
    ∃ c : Char, c.toNat < 0x80 ∧ String.utf8EncodeChar c = [b] ∧ b = UInt8.ofNat c.toNat := by
  have hlow : b.toNat < 0x80 := UInt8.lt_iff_toNat_lt.1 hb
  have hsame : (Char.ofNat b.toNat).toNat = b.toNat := toNat_ofNat_ascii _ hlow
  have hback : UInt8.ofNat b.toNat = b := UInt8.ofNat_toNat
  refine ⟨Char.ofNat b.toNat, by rw [hsame]; exact hlow, ?_, ?_⟩
  · rw [utf8EncodeChar_ascii (by rw [hsame]; exact hlow), hsame, hback]
  · rw [hsame, hback]

end Ascii

/-- The character that stands in front. -/
def firstChar? (b : Bytes) : Option Char :=
  b.toByteArray.utf8DecodeChar? 0

/-- The first character is read off the bytes of a text. -/
theorem firstChar?_append (c : Char) (rest : Bytes) : firstChar? (String.utf8EncodeChar c ++ rest) = some c := by
  rw [firstChar?, List.toByteArray_append]
  exact ByteArray.utf8DecodeChar?_utf8EncodeChar_append

section IsText

/-- The bytes are those of some characters. -/
def IsText (b : Bytes) : Prop :=
  ∃ cs : List Char, b = cs.flatMap String.utf8EncodeChar

variable {a rest : Bytes} {b : UInt8} {c : Char}

theorem isText_nil : IsText [] :=
  ⟨[], rfl⟩

theorem isText_bytes (s : String) : IsText (bytes s) :=
  ⟨s.toList, bytes_eq_flatMap s⟩

theorem isText_utf8EncodeChar (c : Char) : IsText (String.utf8EncodeChar c) :=
  ⟨[c], by simp⟩

theorem isText_singleton (hb : b < 0x80) : IsText [b] := by
  obtain ⟨c, -, hc, -⟩ := exists_char_of_low hb
  exact hc ▸ isText_utf8EncodeChar c

theorem isText_append (ha : IsText a) (hrest : IsText rest) : IsText (a ++ rest) := by
  obtain ⟨cs, rfl⟩ := ha
  obtain ⟨ds, rfl⟩ := hrest
  exact ⟨cs ++ ds, List.flatMap_append.symm⟩

theorem isText_cons (hb : b < 0x80) (h : IsText rest) : IsText (b :: rest) :=
  isText_append (isText_singleton hb) h

theorem isText_of_low (h : ∀ x ∈ a, x < 0x80) : IsText a := by
  induction a with
  | nil => exact isText_nil
  | cons x a ih =>
    rw [List.forall_mem_cons] at h
    exact isText_cons h.1 (ih h.2)

/-- What stands behind a character of a text is a text. -/
theorem isText_behind_char (h : IsText (String.utf8EncodeChar c ++ rest)) : IsText rest := by
  obtain ⟨ds, hds⟩ := h
  cases ds with
  | nil =>
    obtain ⟨hc, -⟩ := List.append_eq_nil_iff.1 hds
    exact absurd hc String.utf8EncodeChar_ne_nil
  | cons d ds =>
    rw [List.flatMap_cons] at hds
    have hsame : some c = some d := by
      rw [← firstChar?_append c rest, hds, firstChar?_append]
    cases hsame
    exact ⟨ds, List.append_cancel_left hds⟩

/-- What stands behind a text that is part of a text is a text. -/
theorem isText_behind_text (ha : IsText a) (h : IsText (a ++ rest)) : IsText rest := by
  obtain ⟨cs, rfl⟩ := ha
  induction cs with
  | nil => exact h
  | cons c cs ih =>
    rw [List.flatMap_cons, List.append_assoc] at h
    exact ih (isText_behind_char h)

/-- What stands behind an ASCII byte of a text is a text. -/
theorem isText_of_cons (hb : b < 0x80) (h : IsText (b :: rest)) : IsText rest :=
  isText_behind_text (isText_singleton hb) h

theorem isText_behind {mark : UInt8} (hmark : decide (mark < 0x80) = true) (hb : b = mark) (h : IsText (b :: rest)) :
    IsText rest :=
  isText_of_cons (hb ▸ of_decide_eq_true hmark) h

/-- What stands behind ASCII bytes of a text is a text. -/
theorem isText_of_append (ha : ∀ b ∈ a, b < 0x80) (h : IsText (a ++ rest)) : IsText rest :=
  isText_behind_text (isText_of_low ha) h

/-- Without some of its ASCII bytes in front a text is still a text. -/
theorem isText_dropWhile {p : UInt8 → Bool} (hp : ∀ b, p b = true → b < 0x80) (h : IsText a) :
    IsText (a.dropWhile p) := by
  rw [← @List.takeWhile_append_dropWhile _ p a] at h
  exact isText_of_append (fun b hb => hp b (List.all_eq_true.1 List.all_takeWhile b hb)) h

/-- Bytes of a text spell a text. -/
theorem exists_ofBytes?_of_isText (h : IsText a) : ∃ s, ofBytes? a = some s := by
  obtain ⟨cs, rfl⟩ := h
  exact ⟨String.ofList cs, by rw [ofBytes?_eq_some_iff, bytes_ofList]⟩

end IsText

end Text

end ChatOpening
