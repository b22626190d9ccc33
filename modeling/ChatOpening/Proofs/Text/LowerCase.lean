import Mathlib.Data.List.Forall2
import ChatOpening.Text.Folding
import ChatOpening.Proofs.Text.WhiteSpace

/-!
# Words that are lower case forms

The lower case form of a text is made of small letters of ASCII only if the text is made of letters of ASCII, with two
exceptions: the dotted capital I becomes a small i and a combining dot, and the Kelvin sign becomes a small k.  All other
characters beyond ASCII keep beyond it.  So a word of small letters without a k is the lower case form of those texts
only that equal it up to the case of ASCII letters.

**Input.**  Any characters, with any characters around them.

**Results.**
* `mem_of_entry?`: the entry that is found for a number in a table is one of the table, and the number lies in it.
* `loweredChar_cases`: what becomes of a character beyond ASCII.
* `lowered_eq_iff`: the texts whose lower case form is a given word.
-/

namespace ChatOpening

namespace Text

/-- The same character, or the same letter of ASCII as a capital and as a small letter. -/
def IsCaseOf (c d : Char) : Prop :=
  c = d ∨ ('A' ≤ c ∧ c ≤ 'Z' ∧ d.toNat = c.toNat + 0x20) ∨ ('A' ≤ d ∧ d ≤ 'Z' ∧ c.toNat = d.toNat + 0x20)

/-- A small letter of ASCII that is the lower case form of no character beyond ASCII. -/
def IsPlainSmall (d : Char) : Prop :=
  'a' ≤ d ∧ d ≤ 'z' ∧ d ≠ 'k'

instance (d : Char) : Decidable (IsPlainSmall d) :=
  inferInstanceAs (Decidable (_ ∧ _))

/-- There are values for the numbers of the entry, and all of them are characters beyond ASCII. -/
structure CodePointEntry.StaysBeyond (e : CodePointEntry) : Prop where
  values_ne_nil : e.values ≠ []
  beyond : ∀ v ∈ e.values, 0x80 ≤ v
  valid : ∀ v ∈ e.values, v + (e.last - e.first) < 0xD800 ∨ (0xDFFF < v ∧ v + (e.last - e.first) < 0x110000)

instance (e : CodePointEntry) : Decidable e.StaysBeyond :=
  decidable_of_iff (e.values ≠ [] ∧ (∀ v ∈ e.values, 0x80 ≤ v) ∧
      ∀ v ∈ e.values, v + (e.last - e.first) < 0xD800 ∨ (0xDFFF < v ∧ v + (e.last - e.first) < 0x110000))
    ⟨fun ⟨hne, hbeyond, hvalid⟩ => ⟨hne, hbeyond, hvalid⟩, fun h => ⟨h.values_ne_nil, h.beyond, h.valid⟩⟩

section Tables

variable {t : CodePoints} {e : CodePointEntry} {n v : Nat}

/-- The search ends where it starts, or behind an entry that does not start behind the number. -/
theorem countUpTo_cases (t : CodePoints) (n low high : Nat) :
    t.countUpTo n low high = low ∨
      ∃ count e, t.countUpTo n low high = count + 1 ∧ t.entries[count]? = some e ∧ e.first ≤ n := by
  fun_induction CodePoints.countUpTo t n low high with
  | case1 low high hlt middle hany ih =>
    rcases ih with hsame | hfound
    · simp only [Option.any_eq_true, decide_eq_true_eq] at hany
      obtain ⟨e, he, hfirst⟩ := hany
      exact .inr ⟨middle, e, hsame, he, hfirst⟩
    · exact .inr hfound
  | case2 low high hlt middle hany ih => exact ih
  | case3 low high hlt => exact .inl rfl

/-- The entry that is found for a number has it in its range. -/
theorem mem_of_entry? (h : t.entry? n = some e) : e ∈ t.entries ∧ e.first ≤ n ∧ n ≤ e.last := by
  simp only [CodePoints.entry?] at h
  split at h
  · cases h
  · next count hcount =>
    rw [Option.filter_eq_some_iff] at h
    obtain ⟨hentry, hmeets⟩ := h
    rcases countUpTo_cases t n 0 t.entries.size with hnone | ⟨place, f, hplace, hf, hfirst⟩
    · rw [hcount] at hnone
      cases hnone
    · rw [hcount, Nat.succ_inj] at hplace
      rw [← hplace, hentry, Option.some.injEq] at hf
      simp only [CodePointEntry.meets, Bool.and_eq_true, decide_eq_true_eq] at hmeets
      exact ⟨Array.mem_of_getElem? hentry, hf ▸ hfirst, hmeets.1⟩

theorem valuesAt_ne_nil (h : e.StaysBeyond) : e.valuesAt n ≠ [] := by
  simp only [CodePointEntry.valuesAt]
  split
  · exact mt List.map_eq_nil_iff.1 h.values_ne_nil
  · exact h.values_ne_nil

/-- The values of an entry that stays beyond ASCII are characters beyond ASCII. -/
theorem beyond_of_mem_valuesAt (h : e.StaysBeyond) (hfirst : e.first ≤ n) (hlast : n ≤ e.last)
    (hv : v ∈ e.valuesAt n) : 0x80 ≤ v ∧ v.isValidChar := by
  simp only [Nat.isValidChar]
  simp only [CodePointEntry.valuesAt] at hv
  split at hv
  · obtain ⟨w, hw, rfl⟩ := List.mem_map.1 hv
    have hbeyond := h.beyond w hw
    have hvalid := h.valid w hw
    omega
  · have hbeyond := h.beyond v hv
    have hvalid := h.valid v hv
    omega

/-- All entries but two stay beyond ASCII. -/
theorem loweredBeyond_entries : ∀ e ∈ loweredBeyond.entries.toList,
    e = .single 0x130 [0x69, 0x307] ∨ e = .single 0x212A [0x6B] ∨ e.StaysBeyond := by
  decide +kernel

end Tables

section Characters

variable {c d : Char}

theorem loweredChar_ascii (hc : c.toNat < 0x80) : loweredChar c = [c.toLower] :=
  if_pos hc

/-- Of the characters beyond ASCII, two have an ASCII letter in their lower case form. -/
theorem loweredChar_cases (hc : 0x80 ≤ c.toNat) :
    (c = '\u0130' ∧ loweredChar c = ['i', '\u0307']) ∨ (c = '\u212A' ∧ loweredChar c = ['k']) ∨
      (loweredChar c ≠ [] ∧ ∀ d ∈ loweredChar c, 0x80 ≤ d.toNat) := by
  have hascii : ¬ c < '\x80' := Nat.not_lt.2 hc
  cases hentry : loweredBeyond.entry? c.toNat with
  | none => exact .inr (.inr (by simp [loweredChar, hascii, CodePoints.values?, hentry, hc]))
  | some e =>
    have hform : loweredChar c = (e.valuesAt c.toNat).map Char.ofNat := by
      simp only [loweredChar, hascii, if_false, CodePoints.values?, hentry, Option.map_some]
    obtain ⟨hmem, hfirst, hlast⟩ := mem_of_entry? hentry
    rcases loweredBeyond_entries e (Array.mem_toList_iff.2 hmem) with rfl | rfl | hbeyond
    · exact .inl ⟨char_eq_iff.2 (Nat.le_antisymm hlast hfirst), hform⟩
    · exact .inr (.inl ⟨char_eq_iff.2 (Nat.le_antisymm hlast hfirst), hform⟩)
    · refine .inr (.inr ⟨?_, ?_⟩)
      · rw [hform]
        exact mt List.map_eq_nil_iff.1 (valuesAt_ne_nil hbeyond)
      · intro d hd
        rw [hform] at hd
        obtain ⟨v, hv, rfl⟩ := List.mem_map.1 hd
        obtain ⟨hle, hvalid⟩ := beyond_of_mem_valuesAt hbeyond hfirst hlast hv
        have hnumber : (Char.ofNat v).toNat = v := by
          rw [Char.ofNat, dif_pos hvalid]
          rfl
        rw [hnumber]
        exact hle

theorem toNat_toLower (c : Char) :
    c.toLower.toNat = if 'A' ≤ c ∧ c ≤ 'Z' then c.toNat + 0x20 else c.toNat := by
  split
  · next hcapital =>
    have hdistance : ('a'.val - 'A'.val).toNat = 0x20 := by decide
    have hsum : (c.val + ('a'.val - 'A'.val)).toNat = (c.toNat + 0x20) % 2 ^ 32 := by
      rw [UInt32.toNat_add, hdistance, Char.toNat_val]
    have hlower : c.toLower.toNat = (c.val + ('a'.val - 'A'.val)).toNat := congrArg Char.toNat (dif_pos hcapital)
    simp only [char_le_iff, Char.reduceToNat] at hcapital
    rw [hlower, hsum]
    omega
  · next hother => exact congrArg Char.toNat (dif_neg hother)

/-- The letters that become a small one are its two cases. -/
theorem toLower_eq_iff (hd : IsPlainSmall d) : c.toLower = d ↔ IsCaseOf c d := by
  obtain ⟨ha, hz, -⟩ := hd
  simp only [char_le_iff, Char.reduceToNat] at ha hz
  simp only [char_eq_iff, toNat_toLower, IsCaseOf, char_le_iff, Char.reduceToNat]
  split <;> omega

/-- A character is one of ASCII if it is a letter of ASCII up to case. -/
theorem ascii_of_isCaseOf (h : IsCaseOf c d) (hd : IsPlainSmall d) : c.toNat < 0x80 := by
  obtain ⟨ha, hz, -⟩ := hd
  simp only [IsCaseOf, char_eq_iff, char_le_iff, Char.reduceToNat] at h ha hz
  omega

/-- A letter is no white space. -/
theorem not_isWhiteSpace_of_isCaseOf (h : IsCaseOf c d) (hd : IsPlainSmall d) : ¬ IsWhiteSpace c := by
  obtain ⟨ha, hz, -⟩ := hd
  simp only [IsCaseOf, char_eq_iff, char_le_iff, Char.reduceToNat] at h ha hz
  simp only [IsWhiteSpace, whiteSpaceRanges, List.mem_cons, List.not_mem_nil, or_false, exists_eq_or_imp, exists_eq_left]
  omega

end Characters

section Words

variable {cs before w : List Char} {c : Char}

/-- A text in ASCII is lowered letter by letter. -/
theorem loweredBehind_ascii (h : ∀ c ∈ cs, c.toNat < 0x80) : loweredBehind before cs = cs.map Char.toLower := by
  induction cs generalizing before with
  | nil => rfl
  | cons c cs ih =>
    rw [List.forall_mem_cons] at h
    have hsigma : c ≠ '\u03A3' := by
      rintro rfl
      exact absurd h.1 (by decide)
    rw [loweredBehind, if_neg hsigma, loweredChar_ascii h.1, ih h.2]
    rfl

/-- A character beyond ASCII leaves something in the lower case form that is no plain small letter. -/
theorem exists_not_plain (hc : c ∈ cs) (hbeyond : 0x80 ≤ c.toNat) :
    ∃ d ∈ loweredBehind before cs, ¬ IsPlainSmall d := by
  have hhigh : ∀ {d : Char}, 0x80 ≤ d.toNat → ¬ IsPlainSmall d := by
    rintro d hd ⟨-, hz, -⟩
    simp only [char_le_iff, Char.reduceToNat] at hz
    omega
  induction cs generalizing before with
  | nil => cases hc
  | cons b cs ih =>
    rw [loweredBehind]
    rcases List.mem_cons.1 hc with rfl | hlater
    · split
      · refine ⟨loweredSigma before cs, List.mem_append_left _ (List.mem_singleton_self _), hhigh ?_⟩
        simp only [loweredSigma]
        split <;> decide
      · rcases loweredChar_cases hbeyond with ⟨-, hform⟩ | ⟨-, hform⟩ | ⟨hne, hform⟩
        · exact ⟨'\u0307', by simp [hform], hhigh (by decide)⟩
        · exact ⟨'k', by simp [hform], by decide⟩
        · obtain ⟨d, form, hcons⟩ := List.exists_cons_of_ne_nil hne
          exact ⟨d, by simp [hcons], hhigh (hform d (by simp [hcons]))⟩
    · obtain ⟨d, hd, hplain⟩ := ih hlater
      exact ⟨d, List.mem_append_right _ hd, hplain⟩

/-- A text becomes a word of small letters if it has a case of each. -/
theorem map_toLower_eq_iff (hw : ∀ d ∈ w, IsPlainSmall d) :
    cs.map Char.toLower = w ↔ List.Forall₂ IsCaseOf cs w := by
  induction cs generalizing w with
  | nil => cases w <;> simp
  | cons c cs ih =>
    cases w with
    | nil => simp
    | cons d w =>
      rw [List.forall_mem_cons] at hw
      rw [List.map_cons, List.cons.injEq, List.forall₂_cons, toLower_eq_iff hw.1, ih hw.2]

theorem exists_isCaseOf (hw : ∀ d ∈ w, IsPlainSmall d) (h : List.Forall₂ IsCaseOf cs w) (hc : c ∈ cs) :
    ∃ d, IsPlainSmall d ∧ IsCaseOf c d := by
  rw [← map_toLower_eq_iff hw] at h
  have hplain : IsPlainSmall c.toLower := hw _ (h ▸ List.mem_map_of_mem hc)
  exact ⟨c.toLower, hplain, (toLower_eq_iff hplain).1 rfl⟩

/-- A word of plain small letters is the lower case form of the texts that equal it up to the case of ASCII letters. -/
theorem lowered_eq_iff (hw : ∀ d ∈ w, IsPlainSmall d) : lowered cs = w ↔ List.Forall₂ IsCaseOf cs w := by
  rw [← map_toLower_eq_iff hw, lowered]
  by_cases hascii : ∀ c ∈ cs, c.toNat < 0x80
  · rw [loweredBehind_ascii hascii]
  · have hother : ∃ c ∈ cs, 0x80 ≤ c.toNat := by
      simpa only [not_forall, exists_prop, Nat.not_lt] using hascii
    obtain ⟨c, hc, hbeyond⟩ := hother
    constructor
    · intro hlowered
      obtain ⟨d, hd, hplain⟩ := exists_not_plain hc hbeyond
      exact absurd (hw d (hlowered ▸ hd)) hplain
    · intro hmap
      obtain ⟨d, hd, hcase⟩ := exists_isCaseOf hw ((map_toLower_eq_iff hw).1 hmap) hc
      exact absurd (ascii_of_isCaseOf hcase hd) (Nat.not_lt.2 hbeyond)

end Words

end Text

end ChatOpening
