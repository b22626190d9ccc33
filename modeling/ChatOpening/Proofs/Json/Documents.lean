import ChatOpening.Proofs.Json.Layouts
import ChatOpening.Proofs.Json.StrayValues

/-!
# Which bytes are read

JSON texts are texts: nothing that spells a tree has a stray byte.  Readers take more, since they do not look at stray bytes
in what they pass over.  What they take are the bytes that are a JSON text when the stray bytes among them are marked.

**Input.**  Any bytes.

**Results.**
* `isText_of_isDocument`: a JSON text is a text.
* `decodeWith_eq_ok_iff_marked`: what any bytes are read as.
-/

namespace ChatOpening

namespace Json

open Text

section Spellings

variable {ps : List Piece} {b : Bytes} {P : Bytes → Prop} {Ps : List (Bytes → Prop)}

theorem isText_of_piece {p : Piece} (h : p.Spelled b) : IsText b := by
  cases h with
  | plain => exact isText_utf8EncodeChar _
  | short hmem =>
    exact isText_cons (by decide) (isText_singleton (low_of_mem_shortForms _ hmem).1)
  | number hn =>
    exact isText_cons (by decide) (isText_cons (by decide) (isText_of_low (low_of_unitValue hn)))

/-- Pieces are spelled with whole characters. -/
theorem isText_of_pieces (h : PiecesSpelled ps b) : IsText b := by
  induction ps generalizing b with
  | nil =>
    rw [PiecesSpelled] at h
    rw [h]
    exact isText_nil
  | cons p ps ih =>
    obtain ⟨first, others, rfl, hp, hothers⟩ := h
    exact isText_append (isText_of_piece hp) (ih hothers)

theorem isText_of_textSpelled (h : TextSpelled ps b) : IsText b := by
  obtain ⟨inner, hinner, rfl⟩ := h
  exact isText_cons (by decide) (isText_append (isText_of_pieces hinner) (isText_singleton (by decide)))

theorem isText_of_isDigits (h : IsDigits b) : IsText b :=
  isText_of_low fun d hd => low_of_isDigit (h.2 d hd)

theorem isText_of_unsignedSpelled {n : Numeral} (h : UnsignedSpelled n b) : IsText b := by
  obtain ⟨fraction, exponent, hwhole, hfraction, hexponent, rfl⟩ := h
  refine isText_append (isText_of_isDigits hwhole.1) (isText_append ?_ ?_)
  · cases hn : n.fraction with
    | none =>
      rw [hn] at hfraction
      cases hfraction
      exact isText_nil
    | some ds =>
      rw [hn] at hfraction
      obtain ⟨hds, rfl⟩ := hfraction
      exact isText_cons (by decide) (isText_of_isDigits hds)
  · cases hn : n.exponent with
    | none =>
      rw [hn] at hexponent
      cases hexponent
      exact isText_nil
    | some e =>
      rw [hn] at hexponent
      obtain ⟨hds, letter, sign, hletter, hsign, rfl⟩ := hexponent
      have hsigned : ∀ x ∈ sign, x < 0x80 := by
        split at hsign
        · rw [hsign]
          exact List.forall_mem_singleton.2 (by decide)
        · rcases hsign with rfl | rfl
          · exact List.forall_mem_nil _
          · exact List.forall_mem_singleton.2 (by decide)
      refine isText_cons ?_ (isText_append (isText_of_low hsigned) (isText_of_isDigits hds))
      rcases hletter with rfl | rfl <;> decide

/-- Numerals are spelled in ASCII. -/
theorem isText_of_numeralSpelled {n : Numeral} (h : NumeralSpelled n b) : IsText b := by
  rw [NumeralSpelled] at h
  split at h
  · obtain ⟨digits, hdigits, rfl⟩ := h
    exact isText_cons (by decide) (isText_of_unsignedSpelled hdigits)
  · exact isText_of_unsignedSpelled h

theorem isText_of_allBlank (h : AllBlank b) : IsText b :=
  isText_of_low fun x hx => low_of_isBlankByte (h x hx)

/-- Blanks around a text leave it a text. -/
theorem isText_of_padded (hP : ∀ x, P x → IsText x) (h : Padded P b) : IsText b := by
  obtain ⟨before, inner, after, hbefore, hinner, hafter, rfl⟩ := h
  exact isText_append (isText_of_allBlank hbefore) (isText_append (hP inner hinner) (isText_of_allBlank hafter))

theorem isText_of_later (hPs : ∀ P ∈ Ps, ∀ x, P x → IsText x) (h : Later Ps b) : IsText b := by
  induction Ps generalizing b with
  | nil =>
    cases h
    exact isText_nil
  | cons P Ps ih =>
    obtain ⟨part, others, hpart, hothers, rfl⟩ := h
    rw [List.forall_mem_cons] at hPs
    exact isText_cons (by decide) (isText_append (isText_of_padded hPs.1 hpart) (ih hPs.2 hothers))

/-- Parts with commas between them are a text if all parts are. -/
theorem isText_of_separated (hPs : ∀ P ∈ Ps, ∀ x, P x → IsText x) (h : Separated Ps b) : IsText b := by
  cases Ps with
  | nil => exact isText_of_allBlank h
  | cons P Ps =>
    obtain ⟨part, others, hpart, hothers, rfl⟩ := h
    rw [List.forall_mem_cons] at hPs
    exact isText_append (isText_of_padded hPs.1 hpart) (isText_of_later hPs.2 hothers)

/-- A member is a text if its value is. -/
theorem isText_of_memberSpelled {key : List Piece} (hP : ∀ x, P x → IsText x) (h : MemberSpelled key P b) : IsText b := by
  obtain ⟨name, before, after, value, hname, hbefore, hafter, hvalue, rfl⟩ := h
  refine isText_append (isText_of_textSpelled hname) (isText_append (isText_of_allBlank hbefore) ?_)
  exact isText_cons (by decide) (isText_append (isText_of_allBlank hafter) (hP value hvalue))

end Spellings

section Trees

mutual

/-- Whatever spells a tree is a text. -/
theorem Tree.isText_of_spelled : (t : Tree) → ∀ b, t.Spelled b → IsText b
  | .null, _, h => h ▸ isText_bytes _
  | .truth true, _, h => h ▸ isText_bytes _
  | .truth false, _, h => h ▸ isText_bytes _
  | .number _, _, h => isText_of_numeralSpelled h
  | .text _, _, h => isText_of_textSpelled h
  | .array ts, _, ⟨inner, hinner, hb⟩ => by
    rw [hb]
    exact isText_cons (by decide)
      (isText_append (isText_of_separated (isText_of_itemsSpelled ts) hinner) (isText_singleton (by decide)))
  | .object ms, _, ⟨inner, hinner, hb⟩ => by
    rw [hb]
    exact isText_cons (by decide)
      (isText_append (isText_of_separated (isText_of_membersSpelled ms) hinner) (isText_singleton (by decide)))

/-- The items of a list are spelled with whole characters. -/
theorem isText_of_itemsSpelled : (ts : List Tree) → ∀ P ∈ itemsSpelled ts, ∀ b, P b → IsText b
  | [], _, hP => nomatch hP
  | t :: ts, P, hP => by
    rw [itemsSpelled, List.mem_cons] at hP
    rcases hP with rfl | hP
    · exact t.isText_of_spelled
    · exact isText_of_itemsSpelled ts P hP

theorem isText_of_membersSpelled : (ms : List (List Piece × Tree)) → ∀ P ∈ membersSpelled ms, ∀ b, P b → IsText b
  | [], _, hP => nomatch hP
  | (_, t) :: ms, P, hP => by
    rw [membersSpelled, List.mem_cons] at hP
    rcases hP with rfl | hP
    · exact fun _ => isText_of_memberSpelled t.isText_of_spelled
    · exact isText_of_membersSpelled ms P hP

end

/-- A JSON text is a text. -/
theorem isText_of_isDocument {source : Bytes} {t : Tree} (h : IsDocument source t) : IsText source :=
  isText_of_padded t.isText_of_spelled h

end Trees

section Decoding

variable {α : Type} [Described α] {tracking : Tracking} {source : Bytes} {a : α}

/-- A decoder reads the same off the bytes and off the marked bytes. -/
theorem decodeWith_marked_iff : decodeWith tracking α (marked source) = .ok a ↔ decodeWith tracking α source = .ok a := by
  have hsame : ∀ v, (Described.schema α).decode tracking (marked source) = .ok v ↔
      (Described.schema α).decode tracking source = .ok v :=
    fun _ => Schema.decode_marked_iff
  simp only [decodeWith]
  cases hx : (Described.schema α).decode tracking (marked source) with
  | ok v => rw [(hsame v).1 hx]
  | error report =>
    cases hy : (Described.schema α).decode tracking source with
    | ok v => cases hx.symm.trans ((hsame v).2 hy)
    | error other => simp

/-- Bytes are read as an element if they are one of its layouts when their stray bytes are marked. -/
theorem decodeWith_eq_ok_iff_marked [Described.Faithful α] :
    decodeWith tracking α source = .ok a ↔ ∃ t, IsDocument (marked source) t ∧ t.Presents a :=
  decodeWith_marked_iff.symm.trans (decodeWith_eq_ok_iff_presents (isText_marked source))

end Decoding

end Json

end ChatOpening
