import ChatOpening.Proofs.Text.Encoding

/-!
# The order of texts

Texts are ordered by the numbers of their characters, and so are their bytes: the first byte of a character tells how
many bytes it has, and longer spellings belong to greater characters.

**Results.**
* `utf8EncodeChar_append_lt`: the order of two characters is that of their bytes, whatever follows.
* `bytes_lt_of_lt`: the order of two texts is that of their bytes.
-/

namespace ChatOpening

namespace Text

section Order

theorem ofNat_cons_lt {m n : Nat} {x y : Bytes} (hm : m < 256) (hn : n < 256) (h : m < n ∨ (m = n ∧ x < y)) :
    UInt8.ofNat m :: x < UInt8.ofNat n :: y := by
  rw [List.cons_lt_cons_iff, UInt8.lt_iff_toNat_lt, UInt8.toNat_ofNat_of_lt' hm, UInt8.toNat_ofNat_of_lt' hn]
  exact h.imp_right fun ⟨hmn, hxy⟩ => ⟨congrArg UInt8.ofNat hmn, hxy⟩

/-- A smaller character is spelled by smaller bytes, whatever follows. -/
theorem utf8EncodeChar_append_lt {c d : Char} (h : c < d) (x y : Bytes) :
    String.utf8EncodeChar c ++ x < String.utf8EncodeChar d ++ y := by
  have hcd : c.toNat < d.toNat := h
  have hd : d.toNat < 0x110000 := by
    have hvalid : d.toNat < 0xD800 ∨ (0xDFFF < d.toNat ∧ d.toNat < 0x110000) := d.valid
    omega
  simp only [String.utf8EncodeChar, Char.toNat_val]
  generalize c.toNat = m at *
  generalize d.toNat = n at *
  -- A longer spelling starts with a greater byte; spellings of the same length differ in a place.
  split
  · split
    · exact ofNat_cons_lt (by omega) (by omega) (by omega)
    split
    · exact ofNat_cons_lt (by omega) (by omega) (by omega)
    split
    · exact ofNat_cons_lt (by omega) (by omega) (by omega)
    · exact ofNat_cons_lt (by omega) (by omega) (by omega)
  split
  · rw [if_neg (by omega)]
    split
    · refine ofNat_cons_lt (by omega) (by omega) ?_
      rcases Nat.lt_or_ge (m / 64) (n / 64) with hfirst | hfirst
      · omega
      · exact .inr ⟨by omega, ofNat_cons_lt (by omega) (by omega) (by omega)⟩
    split
    · exact ofNat_cons_lt (by omega) (by omega) (by omega)
    · exact ofNat_cons_lt (by omega) (by omega) (by omega)
  split
  · rw [if_neg (by omega), if_neg (by omega)]
    split
    · refine ofNat_cons_lt (by omega) (by omega) ?_
      rcases Nat.lt_or_ge (m / 4096) (n / 4096) with hfirst | hfirst
      · omega
      refine .inr ⟨by omega, ofNat_cons_lt (by omega) (by omega) ?_⟩
      rcases Nat.lt_or_ge (m / 64) (n / 64) with hsecond | hsecond
      · omega
      · exact .inr ⟨by omega, ofNat_cons_lt (by omega) (by omega) (by omega)⟩
    · exact ofNat_cons_lt (by omega) (by omega) (by omega)
  · rw [if_neg (by omega), if_neg (by omega), if_neg (by omega)]
    refine ofNat_cons_lt (by omega) (by omega) ?_
    rcases Nat.lt_or_ge (m / 262144) (n / 262144) with hfirst | hfirst
    · omega
    refine .inr ⟨by omega, ofNat_cons_lt (by omega) (by omega) ?_⟩
    rcases Nat.lt_or_ge (m / 4096) (n / 4096) with hsecond | hsecond
    · omega
    refine .inr ⟨by omega, ofNat_cons_lt (by omega) (by omega) ?_⟩
    rcases Nat.lt_or_ge (m / 64) (n / 64) with hthird | hthird
    · omega
    · exact .inr ⟨by omega, ofNat_cons_lt (by omega) (by omega) (by omega)⟩

/-- A smaller text has smaller bytes. -/
theorem bytes_lt_of_lt {s t : String} (h : s < t) : bytes s < bytes t := by
  rw [String.lt_iff] at h
  rw [bytes_eq_flatMap, bytes_eq_flatMap]
  generalize s.toList = cs at h ⊢
  generalize t.toList = ds at h ⊢
  induction h with
  | @nil d ds =>
    obtain ⟨first, others, hfirst⟩ := List.exists_cons_of_ne_nil (@String.utf8EncodeChar_ne_nil d)
    rw [List.flatMap_cons, hfirst]
    exact .nil
  | @rel c cs d ds hcd =>
    rw [List.flatMap_cons, List.flatMap_cons]
    exact utf8EncodeChar_append_lt hcd _ _
  | @cons c cs ds _ ih =>
    rw [List.flatMap_cons, List.flatMap_cons]
    exact List.append_left_lt ih

end Order

end Text

end ChatOpening
