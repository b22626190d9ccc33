import ChatOpening.Text.Blank
import ChatOpening.Proofs.Text.Cut

/-!
# The property White_Space

The blanks of `Text.isBlank` are the characters that Unicode lists under the property White_Space.

**Results.**
* `isBlank_iff_whiteSpace`: a character is blank exactly if its number lies in one of the listed ranges.
* `isAllBlank_iff`: a text is blank exactly if each of its characters is white space.
* `exists_trimmed`, `trimmed_append`: what is left of a text without the white space around it.
-/

namespace ChatOpening

namespace Text

/-- The ranges of numbers under White_Space in the Unicode character database, ends included. -/
def whiteSpaceRanges : List (Nat × Nat) :=
  [(0x0009, 0x000D), (0x0020, 0x0020), (0x0085, 0x0085), (0x00A0, 0x00A0), (0x1680, 0x1680),
    (0x2000, 0x200A), (0x2028, 0x2028), (0x2029, 0x2029), (0x202F, 0x202F), (0x205F, 0x205F), (0x3000, 0x3000)]

def IsWhiteSpace (c : Char) : Prop :=
  ∃ range ∈ whiteSpaceRanges, range.1 ≤ c.toNat ∧ c.toNat ≤ range.2

instance (c : Char) : Decidable (IsWhiteSpace c) :=
  inferInstanceAs (Decidable (∃ range ∈ whiteSpaceRanges, range.1 ≤ c.toNat ∧ c.toNat ≤ range.2))

theorem char_le_iff {a b : Char} : a ≤ b ↔ a.toNat ≤ b.toNat :=
  Iff.rfl

theorem char_eq_iff {a b : Char} : a = b ↔ a.toNat = b.toNat :=
  Char.toNat_inj.symm

/-- The blanks are the characters with the property White_Space. -/
theorem isBlank_iff_whiteSpace (c : Char) : isBlank c = true ↔ IsWhiteSpace c := by
  simp only [isBlank, IsWhiteSpace, whiteSpaceRanges, Bool.or_eq_true, Bool.and_eq_true, decide_eq_true_eq,
    char_le_iff, char_eq_iff, Char.reduceToNat, List.mem_cons, List.not_mem_nil, or_false, exists_eq_or_imp,
    exists_eq_left]
  omega

/-- A text is blank exactly if each of its characters is white space; the empty text is blank. -/
theorem isAllBlank_iff (s : String) : isAllBlank s = true ↔ ∀ c ∈ s.toList, IsWhiteSpace c := by
  simp only [isAllBlank, List.all_eq_true, isBlank_iff_whiteSpace]

section Trimmed

variable {before word after : List Char}

/-- Before and behind what is left of a text there is white space only. -/
theorem exists_trimmed (cs : List Char) :
    ∃ before after, cs = before ++ trimmed cs ++ after ∧ (∀ c ∈ before, IsWhiteSpace c) ∧
      ∀ c ∈ after, IsWhiteSpace c := by
  have hfront := @List.takeWhile_append_dropWhile _ isBlank cs
  have hback := @List.takeWhile_append_dropWhile _ isBlank (cs.dropWhile isBlank).reverse
  refine ⟨cs.takeWhile isBlank, ((cs.dropWhile isBlank).reverse.takeWhile isBlank).reverse, ?_, ?_, ?_⟩
  · rw [trimmed, List.append_assoc, ← List.reverse_append, hback, List.reverse_reverse, hfront]
  · intro c hc
    exact (isBlank_iff_whiteSpace c).1 (List.mem_takeWhile_imp hc)
  · intro c hc
    exact (isBlank_iff_whiteSpace c).1 (List.mem_takeWhile_imp (List.mem_reverse.1 hc))

/-- What is left of a word with white space around it is the word. -/
theorem trimmed_append (hne : word ≠ []) (hword : ∀ c ∈ word, ¬ IsWhiteSpace c)
    (hbefore : ∀ c ∈ before, IsWhiteSpace c) (hafter : ∀ c ∈ after, IsWhiteSpace c) :
    trimmed (before ++ word ++ after) = word := by
  have hstop : ∀ c ∈ word, isBlank c = false := by
    intro c hc
    rw [← Bool.not_eq_true, isBlank_iff_whiteSpace]
    exact hword c hc
  have hfront : (before ++ word ++ after).dropWhile isBlank = word ++ after := by
    rw [List.append_assoc]
    refine dropWhile_append_of_stop (fun c hc => (isBlank_iff_whiteSpace c).2 (hbefore c hc)) fun c hc => ?_
    obtain ⟨first, rest, rfl⟩ := List.exists_cons_of_ne_nil hne
    cases hc
    exact hstop c List.mem_cons_self
  have hback : (word ++ after).reverse.dropWhile isBlank = word.reverse := by
    rw [List.reverse_append]
    refine dropWhile_append_of_stop (fun c hc => ?_) fun c hc => ?_
    · exact (isBlank_iff_whiteSpace c).2 (hafter c (List.mem_reverse.1 hc))
    · exact hstop c (List.mem_reverse.1 (List.mem_of_mem_head? hc))
  rw [trimmed, hfront, hback, List.reverse_reverse]

end Trimmed

end Text

end ChatOpening
