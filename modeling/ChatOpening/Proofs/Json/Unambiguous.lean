import ChatOpening.Proofs.Json.Spelling
import ChatOpening.Proofs.Json.Numerals

/-!
# A JSON text spells one tree

**Input.**  Bytes that begin with two trees.

**Idea.**  The first byte tells the kind of the value.  A text ends with its mark, and a numeral is what its reader takes;
the parts of a list or an object are the same one after the other, each of them shorter than the whole.

**Results.**
* `begins_unique`: the trees are the same, and so is what follows them.
* `isDocument_unique`: a JSON text spells a single tree.
* `allBlank_of_isDocument_append`: a list or an object is not a JSON text together with what stands behind it, unless
  that is blank.
-/

namespace ChatOpening

namespace Json

open Text

section Pieces

variable {p q : Piece} {ps qs : List Piece} {x y more later input rest other : Bytes} {c d : Char}

/-- Bytes begin with one character. -/
theorem utf8EncodeChar_append_inj (h : String.utf8EncodeChar c ++ x = String.utf8EncodeChar d ++ y) : c = d := by
  have hbytes : (String.utf8EncodeChar c).toByteArray ++ x.toByteArray =
      (String.utf8EncodeChar d).toByteArray ++ y.toByteArray := by
    rw [← List.toByteArray_append, ← List.toByteArray_append, h]
  have hc := @ByteArray.utf8DecodeChar?_utf8EncodeChar_append x.toByteArray c
  rw [hbytes, ByteArray.utf8DecodeChar?_utf8EncodeChar_append, Option.some.injEq] at hc
  exact hc.symm

/-- A plain character starts neither an escape nor the end of a text. -/
theorem ne_backslash_of_plain (hquote : c ≠ '"') (hback : c ≠ '\\') (hcontrol : 0x20 ≤ c.toNat) :
    String.utf8EncodeChar c ++ x ≠ backslash :: y ∧ String.utf8EncodeChar c ++ x ≠ quoteMark :: y := by
  obtain ⟨first, others, hfirst⟩ := List.exists_cons_of_ne_nil (@String.utf8EncodeChar_ne_nil c)
  have hplain := isPlainByte_of_plain hquote hback hcontrol first (by rw [hfirst]; exact List.mem_cons_self)
  rw [hfirst, List.cons_append]
  constructor
  · intro h
    exact hplain.2.1 (List.cons.inj h).1
  · intro h
    exact hplain.1 (List.cons.inj h).1

/-- A letter stands for one character. -/
theorem shortForm_unique {m n : Char × Char} (hm : m ∈ shortForms) (hn : n ∈ shortForms)
    (h : UInt8.ofNat m.1.toNat = UInt8.ofNat n.1.toNat) : m.2 = n.2 := by
  obtain ⟨hfirst, hlow⟩ := shortEscape_of_mem m hm
  obtain ⟨hsecond, hlow'⟩ := shortEscape_of_mem n hn
  rw [h, hsecond, Option.some.injEq, ← UInt8.toNat_inj, UInt8.toNat_ofNat_of_lt' (Nat.lt_trans hlow (by decide)),
    UInt8.toNat_ofNat_of_lt' (Nat.lt_trans hlow' (by decide))] at hfirst
  exact (Char.toNat_inj.1 hfirst).symm

theorem shortForm_ne_number : ∀ m ∈ shortForms, UInt8.ofNat m.1.toNat ≠ 0x75 := by
  decide

/-- The next piece is determined by the bytes. -/
theorem Piece.Spelled.unique (hp : p.Spelled x) (hq : q.Spelled y) (h : x ++ more = y ++ later) :
    p = q ∧ more = later := by
  cases hp with
  | plain hquote hback hcontrol =>
    cases hq with
    | plain _ _ _ =>
      have hsame := utf8EncodeChar_append_inj h
      subst hsame
      exact ⟨rfl, List.append_cancel_left h⟩
    | short _ => exact absurd h (ne_backslash_of_plain hquote hback hcontrol).1
    | number _ => exact absurd h (ne_backslash_of_plain hquote hback hcontrol).1
  | short hm =>
    cases hq with
    | plain hquote hback hcontrol => exact absurd h.symm (ne_backslash_of_plain hquote hback hcontrol).1
    | short hn =>
      simp only [List.cons_append, List.nil_append, List.cons.injEq, true_and] at h
      obtain ⟨hletter, hmore⟩ := h
      exact ⟨congrArg Piece.char (shortForm_unique hm hn hletter), hmore⟩
    | number _ =>
      simp only [List.cons_append, List.nil_append, List.cons.injEq, true_and] at h
      exact absurd h.1 (shortForm_ne_number _ hm)
  | number hm =>
    cases hq with
    | plain hquote hback hcontrol => exact absurd h.symm (ne_backslash_of_plain hquote hback hcontrol).1
    | short hn =>
      simp only [List.cons_append, List.nil_append, List.cons.injEq, true_and] at h
      exact absurd h.1.symm (shortForm_ne_number _ hn)
    | number hn =>
      simp only [List.cons_append, List.nil_append, List.cons.injEq, true_and] at h
      obtain ⟨rfl, rfl, rfl, rfl, hmore⟩ := h
      rw [hm, Option.some.injEq] at hn
      exact ⟨congrArg Piece.unit hn, hmore⟩

theorem not_textAt_quote (h : TextAt (p :: ps) (quoteMark :: rest) other) : False := by
  obtain ⟨first, more, hp, hfirst, -⟩ := textAt_cons_iff.1 h
  cases hp with
  | plain hquote hback hcontrol => exact (ne_backslash_of_plain hquote hback hcontrol).2 hfirst.symm
  | short _ => cases hfirst
  | number _ => cases hfirst

/-- The pieces up to a quotation mark are determined by the bytes. -/
theorem textAt_unique (hps : TextAt ps input rest) (hqs : TextAt qs input other) : ps = qs ∧ rest = other := by
  induction ps generalizing qs input with
  | nil =>
    obtain ⟨_, rfl, rfl⟩ := hps
    cases qs with
    | nil =>
      obtain ⟨_, rfl, hinput⟩ := hqs
      exact ⟨rfl, (List.cons.inj hinput).2⟩
    | cons q qs => exact (not_textAt_quote hqs).elim
  | cons p ps ih =>
    cases qs with
    | nil =>
      obtain ⟨_, rfl, rfl⟩ := hqs
      exact (not_textAt_quote hps).elim
    | cons q qs =>
      obtain ⟨x, more, hp, rfl, hmore⟩ := textAt_cons_iff.1 hps
      obtain ⟨y, later, hq, hsame, hlater⟩ := textAt_cons_iff.1 hqs
      obtain ⟨rfl, rfl⟩ := hp.unique hq hsame
      obtain ⟨rfl, rfl⟩ := ih hmore hlater
      exact ⟨rfl, rfl⟩

end Pieces

section Parts

variable {ι : Type} {part : ι → Bytes → Prop} {is js : List ι} {fresh : Bool} {closing : UInt8}
  {input rest other : Bytes}

/-- Where the bytes are fewer than `bound`, they begin with one part at most. -/
def UniqueBelow (bound : Nat) (part : ι → Bytes → Prop) : Prop :=
  ∀ {i j : ι} {input rest other : Bytes}, input.length < bound → BeginsWith (part i) input rest →
    BeginsWith (part j) input other → Stops rest → Stops other → i = j ∧ rest = other

/-- The next part starts at one place. -/
theorem startsAt_unique {start start' : Bytes} (h : StartsAt fresh input start) (h' : StartsAt fresh input start') :
    start = start' := by
  cases fresh with
  | true => exact Eq.trans h (Eq.symm h')
  | false => exact (List.cons.inj (Eq.trans (Eq.symm h) h')).2

/-- What is left where the next part starts is no longer than the input. -/
theorem length_startsAt_le {start : Bytes} (h : StartsAt fresh input start) : start.length ≤ input.length := by
  cases fresh with
  | true => exact Nat.le_of_eq (congrArg List.length h)
  | false => exact Nat.le_of_lt (length_lt_of_skipBlanks h)

theorem length_le_of_beginsWith {P : Bytes → Prop} (h : BeginsWith P input rest) : rest.length ≤ input.length := by
  obtain ⟨inner, -, hskip⟩ := h
  have hshorter := length_skipBlanks_le input
  rw [hskip, List.length_append] at hshorter
  omega

/-- Where the parts have ended there is no further one. -/
theorem not_partsFrom_nil {P : Bytes → Prop} {Ps : List (Bytes → Prop)} (hP : Visible P) (hclosing : isStop closing = true)
    (hcomma : closing ≠ comma) (hnil : PartsFrom fresh closing [] input rest)
    (hcons : PartsFrom fresh closing (P :: Ps) input other) : False := by
  have hend := hnil
  obtain ⟨start, middle, hstart, hbegins, -⟩ := hcons
  cases fresh with
  | true =>
    obtain ⟨first, more, hfirst, hvisible⟩ := hP.exists_first hbegins
    rw [StartsAt, if_pos rfl] at hstart
    subst hstart
    cases hend.symm.trans hfirst
    rw [hclosing] at hvisible
    cases hvisible
  | false =>
    cases hend.symm.trans hstart
    exact hcomma rfl

/-- Parts up to a closing mark are determined by the bytes if each of them is. -/
theorem partsFrom_unique (hvisible : ∀ i, Visible (part i)) (hclosing : isStop closing = true) (hcomma : closing ≠ comma)
    {bound : Nat} (hunique : UniqueBelow bound part) (hinput : input.length < bound)
    (his : PartsFrom fresh closing (is.map part) input rest) (hjs : PartsFrom fresh closing (js.map part) input other) :
    is = js ∧ rest = other := by
  induction is generalizing js fresh input with
  | nil =>
    cases js with
    | nil => exact ⟨rfl, (List.cons.inj (his.symm.trans hjs)).2⟩
    | cons j js => exact (not_partsFrom_nil (hvisible j) hclosing hcomma his hjs).elim
  | cons i is ih =>
    cases js with
    | nil => exact (not_partsFrom_nil (hvisible i) hclosing hcomma hjs his).elim
    | cons j js =>
      obtain ⟨start, middle, hstart, hi, his⟩ := his
      obtain ⟨start', middle', hstart', hj, hjs⟩ := hjs
      obtain rfl := startsAt_unique hstart hstart'
      have hshorter := length_startsAt_le hstart
      have hless := length_le_of_beginsWith hi
      obtain ⟨rfl, rfl⟩ :=
        hunique (by omega) hi hj (stops_of_partsFrom hclosing his) (stops_of_partsFrom hclosing hjs)
      obtain ⟨rfl, rfl⟩ := ih (by omega) his hjs
      exact ⟨rfl, rfl⟩

end Parts

section Trees

variable {t u : Tree} {input rest other : Bytes}

/-- An outcome yields one value and leaves one rest. -/
theorem Outcome.Yields.unique {α : Type} {bound : Nat} {x : Outcome bound α} {a b : α} (ha : x.Yields a rest)
    (hb : x.Yields b other) : a = b ∧ rest = other := by
  obtain ⟨_, rfl⟩ := ha
  exact yields_ok_iff.1 hb

/-- A minus sign is no digit. -/
theorem signed_inj {d e : UInt8} {more later : Bytes} {b c : Bool} (hd : isDigit d = true) (he : isDigit e = true)
    (h : (if b then 0x2D :: d :: more else d :: more) = if c then 0x2D :: e :: later else e :: later) :
    b = c ∧ d :: more = e :: later := by
  cases b with
  | true =>
    cases c with
    | true => exact ⟨rfl, (List.cons.inj h).2⟩
    | false =>
      cases h
      cases he
  | false =>
    cases c with
    | true =>
      cases h
      cases hd
    | false => exact ⟨rfl, h⟩

/-- Bytes begin with one numeral if it ends there. -/
theorem numeral_unique {m n : Numeral} (hm : Begins (.number m) input rest) (hn : Begins (.number n) input other)
    (hrest : Stops rest) (hother : Stops other) : m = n ∧ rest = other := by
  obtain ⟨d, more, hd, hskip, hm⟩ := @yields_numeral_of_begins _ _ .badNumeral _ hm hrest
  obtain ⟨e, later, he, hskip', hn⟩ := @yields_numeral_of_begins _ _ .badNumeral _ hn hother
  obtain ⟨hsign, hdigits⟩ := signed_inj hd he (hskip.symm.trans hskip')
  rw [hsign] at hm
  cases hdigits
  exact hm.unique hn

theorem visible_member (m : List Piece × Tree) : Visible (MemberSpelled m.1 m.2.Spelled) :=
  visible_memberSpelled m.1 _

/-- Members are determined by the bytes if values are. -/
theorem uniqueBelow_member {bound : Nat} (h : UniqueBelow bound Tree.Spelled) :
    UniqueBelow bound fun m : List Piece × Tree => MemberSpelled m.1 m.2.Spelled := by
  intro m n input rest other hbound hm hn hrest hother
  obtain ⟨more, middle, hskip, hps, start, hcolon, ht⟩ := (beginsWith_member_iff (visible_spelled _)).1 hm
  obtain ⟨more', middle', hskip', hqs, start', hcolon', hu⟩ := (beginsWith_member_iff (visible_spelled _)).1 hn
  cases hskip.symm.trans hskip'
  obtain ⟨hkey, rfl⟩ := textAt_unique hps hqs
  cases hcolon.symm.trans hcolon'
  have hmiddle : middle.length ≤ more.length := by
    obtain ⟨inner, -, rfl⟩ := hps
    simp only [List.length_append, List.length_cons]
    omega
  have hmore := length_lt_of_skipBlanks hskip
  have hstart := length_lt_of_skipBlanks hcolon
  obtain ⟨hvalue, rfl⟩ := h (by omega) ht hu hrest hother
  exact ⟨Prod.ext hkey hvalue, rfl⟩

/-- What stands between brackets or braces is determined by the bytes, whatever follows. -/
theorem enclosed_unique {bound : Nat} (h : UniqueBelow bound Tree.Spelled) (hbound : input.length ≤ bound)
    (ht : Begins t input rest) (hu : Begins u input other) (hshape : t.shape = .array ∨ t.shape = .object) :
    t = u ∧ rest = other := by
  obtain ⟨first, more, hskip, -⟩ := (visible_spelled t).exists_first ht
  have hsame : t.shape = u.shape := (shapeOf_first ht hskip).symm.trans (shapeOf_first hu hskip)
  have hmore := length_lt_of_skipBlanks hskip
  cases t with
  | array ts =>
    cases u with
    | array us =>
      obtain ⟨behind, hbehind, hts⟩ := begins_array_iff.1 ht
      obtain ⟨behind', hbehind', hus⟩ := begins_array_iff.1 hu
      cases hskip.symm.trans hbehind
      cases hskip.symm.trans hbehind'
      rw [itemsSpelled_eq_map] at hts hus
      obtain ⟨rfl, rfl⟩ := partsFrom_unique visible_spelled rfl (by decide) h (by omega) hts hus
      exact ⟨rfl, rfl⟩
    | _ => cases hsame
  | object ms =>
    cases u with
    | object ns =>
      obtain ⟨behind, hbehind, hms⟩ := begins_object_iff.1 ht
      obtain ⟨behind', hbehind', hns⟩ := begins_object_iff.1 hu
      cases hskip.symm.trans hbehind
      cases hskip.symm.trans hbehind'
      rw [membersSpelled_eq_map] at hms hns
      obtain ⟨rfl, rfl⟩ := partsFrom_unique visible_member rfl (by decide) (uniqueBelow_member h) (by omega) hms hns
      exact ⟨rfl, rfl⟩
    | _ => cases hsame
  | _ => rcases hshape with hshape | hshape <;> cases hshape

/-- Bytes begin with one tree at most. The induction is on the number of bytes. -/
theorem uniqueBelow_spelled (bound : Nat) : UniqueBelow bound Tree.Spelled := by
  induction bound with
  | zero =>
    intro t u input rest other hbound
    omega
  | succ bound ih =>
    intro t u input rest other hbound ht hu hrest hother
    obtain ⟨first, more, hskip, -⟩ := (visible_spelled t).exists_first ht
    have hshape : t.shape = u.shape := (shapeOf_first ht hskip).symm.trans (shapeOf_first hu hskip)
    cases t with
    | null =>
      cases u with
      | null => exact ⟨rfl, List.append_cancel_left (List.cons.inj
          ((begins_null_iff.1 ht).symm.trans (begins_null_iff.1 hu))).2⟩
      | _ => cases hshape
    | truth b =>
      cases u with
      | truth c =>
        cases hshape
        cases b with
        | true => exact ⟨rfl, List.append_cancel_left (List.cons.inj
            ((begins_true_iff.1 ht).symm.trans (begins_true_iff.1 hu))).2⟩
        | false => exact ⟨rfl, List.append_cancel_left (List.cons.inj
            ((begins_false_iff.1 ht).symm.trans (begins_false_iff.1 hu))).2⟩
      | _ => cases hshape
    | number m =>
      cases u with
      | number n =>
        obtain ⟨rfl, rfl⟩ := numeral_unique ht hu hrest hother
        exact ⟨rfl, rfl⟩
      | _ => cases hshape
    | text ps =>
      cases u with
      | text qs =>
        obtain ⟨more, hskip, hps⟩ := begins_text_iff.1 ht
        obtain ⟨more', hskip', hqs⟩ := begins_text_iff.1 hu
        cases hskip.symm.trans hskip'
        obtain ⟨rfl, rfl⟩ := textAt_unique hps hqs
        exact ⟨rfl, rfl⟩
      | _ => cases hshape
    | array ts => exact enclosed_unique ih (Nat.le_of_lt_succ hbound) ht hu (.inl rfl)
    | object ms => exact enclosed_unique ih (Nat.le_of_lt_succ hbound) ht hu (.inr rfl)

/-- Trees with which the same bytes begin are the same. -/
theorem begins_unique (ht : Begins t input rest) (hu : Begins u input other) (hrest : Stops rest) (hother : Stops other) :
    t = u ∧ rest = other :=
  uniqueBelow_spelled (input.length + 1) (Nat.lt_succ_self _) ht hu hrest hother

/-- A JSON text spells a single tree. -/
theorem isDocument_unique (ht : IsDocument input t) (hu : IsDocument input u) : t = u := by
  obtain ⟨rest, ht, hrest⟩ := isDocument_iff.1 ht
  obtain ⟨other, hu, hother⟩ := isDocument_iff.1 hu
  exact (begins_unique ht hu (stops_of_allBlank hrest) (stops_of_allBlank hother)).1

/-- Nothing but blanks may stand behind a list or an object. -/
theorem allBlank_of_isDocument_append (ht : IsDocument input t) (hshape : t.shape = .array ∨ t.shape = .object)
    (hu : IsDocument (input ++ other) u) : AllBlank other := by
  obtain ⟨rest, ht, -⟩ := isDocument_iff.1 ht
  obtain ⟨behind, hu, hbehind⟩ := isDocument_iff.1 hu
  obtain ⟨before, inner, hbefore, hinner, rfl⟩ := (beginsWith_iff (visible_spelled t)).1 ht
  have hlonger : Begins t (before ++ (inner ++ rest) ++ other) (rest ++ other) :=
    (beginsWith_iff (visible_spelled t)).2 ⟨before, inner, hbefore, hinner, by simp⟩
  obtain ⟨-, rfl⟩ := enclosed_unique (uniqueBelow_spelled _) (Nat.le_refl _) hlonger hu hshape
  exact fun b hb => hbehind b (List.mem_append_right _ hb)

end Trees

end Json

end ChatOpening
