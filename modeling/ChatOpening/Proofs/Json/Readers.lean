import ChatOpening.Proofs.Json.Meaning

/-!
# The readers of the kinds of values

Each kind of value that a schema may ask for has a reader of its own.  For each of them it is said which trees it takes,
and what they mean to it.

**Input.**  Bytes of a text.

**Results.**
* `reads_readText`, `reads_readTruth`, `reads_readInteger`, `reads_readVariant`: values without parts.
* `reads_readOptional`, `reads_readList`, `reads_readEntries`: values whose parts have readers.
-/

namespace ChatOpening

namespace Json

open Text

variable {α β σ : Type} {bound : Nat}

namespace Tree

/-- The tree is the text, spelled in any way. -/
def MeansText (t : Tree) (s : String) : Prop :=
  ∃ ps, t = .text ps ∧ Denotes ps s.toList

/-- The tree is the whole number. -/
def MeansInteger (t : Tree) (i : Int) : Prop :=
  ∃ n, t = .number n ∧ Spells n i

/-- The tree is an object with these members. -/
def IsObject (t : Tree) (es : List (String × Tree)) : Prop :=
  ∃ ms, t = .object ms ∧ Named ms es

end Tree

section Readers

variable {tracking : Tracking} {levels : Nat} {P : Tree → α → Prop} {r : Reader α} {a : α} {input rest more : Bytes}
  {wanted : String} {t : Tree}

/-- One level is needed to go deeper. -/
theorem yields_deeper_iff {opening : Bytes} {inside : Nat → Outcome bound α} :
    (deeper levels opening inside).Yields a rest ↔ ∃ fewer, levels = fewer + 1 ∧ (inside fewer).Yields a rest := by
  cases levels with
  | zero => simp [deeper]
  | succ fewer => simp [deeper]

theorem reads_readText : readText.Reads Tree.MeansText where
  keeps := keepsText_readText
  sound hinput hy := by
    rw [readText, yields_afterBlanks_iff] at hy
    obtain ⟨first, others, hskip, hy⟩ := hy
    split at hy
    · next hfirst =>
      subst hfirst
      rw [yields_afterFirst_iff] at hy
      obtain ⟨ps, hps, hs⟩ := exists_pieces_of_text (isText_behind_mark hinput hskip rfl) hy
      exact ⟨.text ps, begins_text_iff.2 ⟨others, hskip, hps⟩, ps, rfl, hs⟩
    · exact absurd hy not_yields_error
  complete hinput ht hs _ := by
    obtain ⟨ps, rfl, hs⟩ := hs
    obtain ⟨others, hskip, hps⟩ := begins_text_iff.1 ht
    rw [readText, yields_afterBlanks_iff]
    refine ⟨quoteMark, others, hskip, ?_⟩
    rw [if_pos rfl, yields_afterFirst_iff]
    exact yields_text_of_denotes hs hps

theorem reads_readTruth : readTruth.Reads fun t b => t = .truth b where
  keeps := keepsText_readTruth
  sound hinput hy := by
    rw [readTruth, yields_afterBlanks_iff] at hy
    obtain ⟨first, others, hskip, hy⟩ := hy
    split at hy
    · next hfirst =>
      obtain ⟨rfl, rfl⟩ := yields_wordValue_iff.1 hy
      exact ⟨.truth true, begins_true_iff.2 (hfirst ▸ hskip), rfl⟩
    split at hy
    · next hfirst =>
      obtain ⟨rfl, rfl⟩ := yields_wordValue_iff.1 hy
      exact ⟨.truth false, begins_false_iff.2 (hfirst ▸ hskip), rfl⟩
    · exact absurd hy not_yields_error
  complete {input rest t b} hinput ht hb _ := by
    subst hb
    rw [readTruth, yields_afterBlanks_iff]
    cases b with
    | true => exact ⟨0x74, _, begins_true_iff.1 ht, yields_wordValue_iff.2 ⟨rfl, rfl⟩⟩
    | false => exact ⟨0x66, _, begins_false_iff.1 ht, yields_wordValue_iff.2 ⟨rfl, rfl⟩⟩

/-- A number in bounds is an integer that can be converted. -/
theorem yields_bounded_iff {convert : Int → Option α} {x : Outcome bound Number} :
    (bounded wanted convert x).Yields a rest ↔ ∃ i, x.Yields (.integer i) rest ∧ convert i = some a := by
  cases x with
  | error fault => simp [bounded]
  | ok p =>
    obtain ⟨number, behind, hshorter⟩ := p
    simp only [bounded, yields_ok_iff]
    cases number with
    | fraction x => simp
    | integer i =>
      cases hconvert : convert i with
      | none =>
        simp only [hconvert, Number.integer.injEq]
        constructor
        · intro h
          exact absurd h not_yields_error
        · rintro ⟨_, ⟨rfl, -⟩, hnone⟩
          rw [hconvert] at hnone
          cases hnone
      | some b =>
        simp only [hconvert, yields_ok_iff, Number.integer.injEq]
        constructor
        · rintro ⟨rfl, rfl⟩
          exact ⟨i, ⟨rfl, rfl⟩, hconvert⟩
        · rintro ⟨_, ⟨rfl, rfl⟩, hsome⟩
          exact ⟨Option.some.inj (hconvert.symm.trans hsome), rfl⟩

/-- A whole number that can be converted. -/
theorem reads_readInteger {convert : Int → Option α} :
    (readInteger wanted convert).Reads fun t a =>
      ∃ n i, t = .number n ∧ n.value = .ok (.integer i) ∧ convert i = some a where
  keeps := keepsText_readInteger
  sound hinput hy := by
    rw [readInteger, yields_afterBlanks_iff] at hy
    obtain ⟨first, others, hskip, hy⟩ := hy
    split at hy
    · next hfirst =>
      rw [yields_afterFirst_iff, yields_bounded_iff] at hy
      obtain ⟨i, hi, ha⟩ := hy
      obtain ⟨n, hn, hvalue⟩ := yields_number_iff.1 hi
      exact ⟨.number n, begins_of_yields_numeral hn (hfirst ▸ hskip), n, i, rfl, hvalue, ha⟩
    split at hy
    · rw [yields_bounded_iff] at hy
      obtain ⟨i, hi, ha⟩ := hy
      obtain ⟨n, hn, hvalue⟩ := yields_number_iff.1 hi
      exact ⟨.number n, begins_of_yields_numeral hn hskip, n, i, rfl, hvalue, ha⟩
    · exact absurd hy not_yields_error
  complete hinput ht ha hrest := by
    obtain ⟨n, i, rfl, hvalue, ha⟩ := ha
    obtain ⟨d, more, hd, hskip, hn⟩ := yields_numeral_of_begins ht hrest
    have hnumber := yields_number_iff.2 ⟨n, hn, hvalue⟩
    rw [readInteger, yields_afterBlanks_iff]
    cases hnegative : n.negative with
    | true =>
      rw [hnegative] at hskip hnumber
      refine ⟨0x2D, _, hskip, ?_⟩
      rw [if_pos rfl, yields_afterFirst_iff, yields_bounded_iff]
      exact ⟨i, hnumber, ha⟩
    | false =>
      rw [hnegative] at hskip hnumber
      obtain ⟨-, -, -, hminus, -⟩ := ne_of_isDigit hd
      refine ⟨d, more, hskip, ?_⟩
      rw [if_neg hminus, if_pos hd, yields_bounded_iff]
      exact ⟨i, hnumber, ha⟩

theorem int64Of?_eq_some_iff {i : Int} {n : Int64} : int64Of? i = some n ↔ i = n.toInt := by
  have hlow : Int64.minValue.toInt = -0x8000000000000000 := by
    decide
  have hhigh : Int64.maxValue.toInt = 0x7FFFFFFFFFFFFFFF := by
    decide
  have hleast := n.minValue_le_toInt
  have hgreatest := n.toInt_le
  simp only [int64Of?, Bool.and_eq_true, decide_eq_true_eq, hlow, hhigh]
  constructor
  · intro h
    split at h
    · next hrange =>
      cases h
      rw [Int64.toInt_ofInt_of_le (by omega) (by omega)]
    · cases h
  · rintro rfl
    rw [hlow] at hleast
    rw [hhigh] at hgreatest
    rw [if_pos ⟨hleast, hgreatest⟩, Int64.ofInt_toInt]

theorem uint32Of?_eq_some_iff {i : Int} {n : UInt32} : uint32Of? i = some n ↔ i = n.toNat := by
  have hsize : UInt32.size = 0x100000000 := rfl
  have hgreatest := n.toNat_lt
  simp only [uint32Of?, Bool.and_eq_true, decide_eq_true_eq, hsize]
  constructor
  · intro h
    split at h
    · next hrange =>
      cases h
      rw [UInt32.toNat_ofNat_of_lt' (by omega)]
      omega
    · cases h
  · rintro rfl
    rw [if_pos ⟨by omega, by omega⟩]
    simp

/-- A number is an element of a type within 64 bits if its numeral spells the value of the element. -/
theorem meansInteger_iff {convert : Int → Option α} {toInt : α → Int} (hconvert : ∀ i a, convert i = some a ↔ i = toInt a)
    (hrange : IsWord (toInt a)) :
    (∃ n i, t = .number n ∧ n.value = .ok (.integer i) ∧ convert i = some a) ↔ t.MeansInteger (toInt a) := by
  simp only [value_eq_integer_iff, integer?_eq_some_iff, hconvert]
  constructor
  · rintro ⟨n, _, rfl, ⟨hn, -⟩, rfl⟩
    exact ⟨n, rfl, hn⟩
  · rintro ⟨n, rfl, hn⟩
    exact ⟨n, _, rfl, ⟨hn, hrange⟩, rfl⟩

theorem eq_null_of_begins {others : Bytes} (ht : Begins t input rest) (hskip : skipBlanks input = 0x6E :: others) :
    t = .null := by
  have hshape := shapeOf_first ht hskip
  cases t with
  | null => rfl
  | truth b => cases hshape
  | number n => cases hshape
  | text ps => cases hshape
  | array ts => cases hshape
  | object ms => cases hshape

/-- An optional element is null or an element. -/
theorem reads_readOptional (h : r.Reads P) :
    (readOptional r).Reads fun t v => match v with
      | none => t = .null
      | some a => t ≠ .null ∧ P t a where
  keeps := keepsText_readOptional h.keeps
  sound {input rest v} hinput hy := by
    rw [readOptional, yields_afterBlanks_iff] at hy
    obtain ⟨first, others, hskip, hy⟩ := hy
    split at hy
    · next hfirst =>
      obtain ⟨rfl, rfl⟩ := yields_wordValue_iff.1 hy
      exact ⟨.null, begins_null_iff.2 (hfirst ▸ hskip), rfl⟩
    · next hfirst =>
      obtain ⟨a, ha, rfl⟩ := yields_map_iff.1 hy
      obtain ⟨t, ht, hP⟩ := h.sound (isText_of_skipBlanks hinput hskip) ha
      rw [← hskip] at ht
      have ht : Begins t input rest := beginsWith_skipBlanks_iff.1 ht
      refine ⟨t, ht, ?_, hP⟩
      rintro rfl
      cases hskip.symm.trans (begins_null_iff.1 ht)
      exact hfirst rfl
  complete {input rest t v} hinput ht hv hrest := by
    rw [readOptional, yields_afterBlanks_iff]
    cases v with
    | none =>
      cases hv
      exact ⟨0x6E, _, begins_null_iff.1 ht, yields_wordValue_iff.2 ⟨rfl, rfl⟩⟩
    | some a =>
      obtain ⟨hnull, ha⟩ := hv
      obtain ⟨first, others, hskip, -⟩ := (visible_spelled t).exists_first ht
      refine ⟨first, others, hskip, ?_⟩
      have hfirst : first ≠ 0x6E := by
        rintro rfl
        exact hnull (eq_null_of_begins ht hskip)
      have hbehind : Begins t (first :: others) rest := hskip ▸ beginsWith_skipBlanks_iff.2 ht
      rw [if_neg hfirst, yields_map_iff]
      exact ⟨a, h.complete (isText_of_skipBlanks hinput hskip) hbehind ha hrest, rfl⟩

/-- A list takes a level, and its items are read. -/
theorem reads_readList {item : Nat → Reader α} {Ps : Nat → Tree → α → Prop} (h : ∀ fewer, (item fewer).Reads (Ps fewer)) :
    (readList tracking item levels).Reads fun t vs =>
      ∃ fewer, levels = fewer + 1 ∧ ∃ ts, t = .array ts ∧ List.Forall₂ (Ps fewer) ts vs where
  keeps := keepsText_readList (fun fewer => (h fewer).keeps) levels
  sound hinput hy := by
    rw [readList, yields_afterBlanks_iff] at hy
    obtain ⟨first, others, hskip, hy⟩ := hy
    split at hy
    · next hfirst =>
      subst hfirst
      obtain ⟨fewer, hlevels, hy⟩ := yields_deeper_iff.1 hy
      obtain ⟨ts, hts, hvs⟩ := exists_trees_of_all_items (h fewer) (isText_behind_mark hinput hskip rfl) hy
      exact ⟨.array ts, begins_array_iff.2 ⟨others, hskip, hts⟩, fewer, hlevels, ts, rfl, hvs⟩
    · exact absurd hy not_yields_error
  complete hinput ht hvs _ := by
    obtain ⟨fewer, hlevels, ts, rfl, hvs⟩ := hvs
    obtain ⟨others, hskip, hts⟩ := begins_array_iff.1 ht
    rw [readList, yields_afterBlanks_iff]
    refine ⟨0x5B, others, hskip, ?_⟩
    rw [if_pos rfl]
    exact yields_deeper_iff.2 ⟨fewer, hlevels, yields_all_items (h fewer) hvs (isText_behind_mark hinput hskip rfl) hts⟩

/-- An object takes a level, and its members are gathered. -/
theorem reads_readEntries {item : Nat → Reader α} {Ps : Nat → Tree → α → Prop} {put : σ → String → α → σ} {start : σ}
    (h : ∀ fewer, (item fewer).Reads (Ps fewer)) :
    (readEntries tracking put start item levels).Reads fun t s =>
      ∃ fewer, levels = fewer + 1 ∧ ∃ es vs, t.IsObject es ∧ Entries (Ps fewer) es vs ∧ s = gathered put start vs where
  keeps := keepsText_readEntries put start (fun fewer => (h fewer).keeps) levels
  sound hinput hy := by
    rw [readEntries, yields_afterBlanks_iff] at hy
    obtain ⟨first, others, hskip, hy⟩ := hy
    split at hy
    · next hfirst =>
      subst hfirst
      obtain ⟨fewer, hlevels, hy⟩ := yields_deeper_iff.1 hy
      obtain ⟨ms, es, vs, hms, hes, hvs, hs⟩ := exists_entries (h fewer) (isText_behind_mark hinput hskip rfl) hy
      exact ⟨.object ms, begins_object_iff.2 ⟨others, hskip, hms⟩, fewer, hlevels, es, vs, ⟨ms, rfl, hes⟩, hvs, hs⟩
    · exact absurd hy not_yields_error
  complete hinput ht hs _ := by
    obtain ⟨fewer, hlevels, es, vs, ⟨ms, rfl, hes⟩, hvs, rfl⟩ := hs
    obtain ⟨others, hskip, hms⟩ := begins_object_iff.1 ht
    rw [readEntries, yields_afterBlanks_iff]
    refine ⟨0x7B, others, hskip, ?_⟩
    rw [if_pos rfl]
    exact yields_deeper_iff.2
      ⟨fewer, hlevels, yields_entries (h fewer) (isText_behind_mark hinput hskip rfl) hes hvs hms⟩

/-- A name is read as the place that it has among the names. -/
theorem yields_readVariantName {names : List String} {s : String} {i : Fin names.length} {ps : List Piece}
    (ht : Begins (.text ps) input rest) (hs : Denotes ps s.toList) (hi : names.finIdxOf? s = some i) :
    (readVariantName names input).Yields i rest := by
  obtain ⟨others, hskip, hps⟩ := begins_text_iff.1 ht
  obtain ⟨_, htext⟩ := yields_text_of_denotes hs hps
  rw [readVariantName, yields_afterBlanks_iff]
  refine ⟨quoteMark, others, hskip, ?_⟩
  rw [if_pos rfl, htext]
  simp only [hi]
  exact yields_ok_iff.2 ⟨rfl, rfl⟩

/-- The text is the name of a variant, the first one of this name. -/
theorem reads_readVariantName (names : List String) :
    (readVariantName names).Reads fun t i => ∃ s, names.finIdxOf? s = some i ∧ t.MeansText s where
  keeps := keepsText_readVariantName names
  sound {input rest i} hinput hy := by
    rw [readVariantName, yields_afterBlanks_iff] at hy
    obtain ⟨first, others, hskip, hy⟩ := hy
    split at hy
    · next hfirst =>
      subst hfirst
      cases htext : text others with
      | error fault =>
        rw [htext] at hy
        exact absurd hy not_yields_error
      | ok p =>
        rw [htext] at hy
        simp only at hy
        split at hy
        · next j hj =>
          obtain ⟨rfl, rfl⟩ := yields_ok_iff.1 hy
          obtain ⟨ps, hps, hs⟩ :=
            exists_pieces_of_text (isText_behind_mark hinput hskip rfl) (htext ▸ yields_ok_iff.2 ⟨rfl, rfl⟩)
          exact ⟨.text ps, begins_text_iff.2 ⟨others, hskip, hps⟩, p.value, hj, ps, rfl, hs⟩
        · exact absurd hy not_yields_error
    · exact absurd hy not_yields_error
  complete hinput ht hi _ := by
    obtain ⟨s, hi, ps, rfl, hs⟩ := hi
    exact yields_readVariantName ht hs hi

theorem reads_readUnit : readUnit.Reads fun t _ => t = .null where
  keeps := keepsText_readUnit
  sound hinput hy := by
    rw [readUnit, yields_afterBlanks_iff] at hy
    obtain ⟨first, others, hskip, hy⟩ := hy
    split at hy
    · next hfirst =>
      obtain ⟨rfl, -⟩ := yields_wordValue_iff.1 hy
      exact ⟨.null, begins_null_iff.2 (hfirst ▸ hskip), rfl⟩
    · exact absurd hy not_yields_error
  complete hinput ht hnull _ := by
    subst hnull
    rw [readUnit, yields_afterBlanks_iff]
    exact ⟨0x6E, _, begins_null_iff.1 ht, yields_wordValue_iff.2 ⟨rfl, rfl⟩⟩

theorem yields_readVariantEnd_iff : (readVariantEnd input).Yields () rest ↔ skipBlanks input = 0x7D :: rest := by
  constructor
  · intro h
    simp only [readVariantEnd] at h
    split at h
    · exact absurd h not_yields_error
    · next first others hskip =>
      split at h
      · next hfirst =>
        obtain ⟨-, rfl⟩ := yields_ok_iff.1 h
        exact hfirst ▸ hskip
      · exact absurd h not_yields_error
  · intro hskip
    simp only [readVariantEnd]
    split
    · next hnone => cases hnone.symm.trans hskip
    · next first others hfirst =>
      cases hfirst.symm.trans hskip
      rw [if_pos rfl]
      exact yields_ok_iff.2 ⟨rfl, rfl⟩

/-- An object with a single member goes over its key, its value and its end. -/
theorem begins_single_iff {ps : List Piece} :
    Begins (.object [(ps, t)]) input rest ↔
      ∃ more middle behind, skipBlanks input = 0x7B :: more ∧ Begins (.text ps) more middle ∧
        ValueAt t.Spelled middle behind ∧ skipBlanks behind = 0x7D :: rest := by
  simp only [begins_object_iff, membersSpelled, PartsFrom, StartsAt, if_true, begins_text_iff,
    beginsWith_member_iff (visible_spelled t)]
  constructor
  · rintro ⟨more, hskip, _, behind, rfl, ⟨others, middle, hquote, hps, ht⟩, hend⟩
    exact ⟨_, middle, behind, hskip, ⟨others, hquote, hps⟩, ht, hend⟩
  · rintro ⟨more, middle, behind, hskip, ⟨others, hquote, hps⟩, ht, hend⟩
    exact ⟨more, hskip, more, behind, rfl, ⟨others, middle, hquote, hps, ht⟩, hend⟩

/-- A variant is its name, or an object with the name as the only key and null as its value. -/
theorem reads_readVariant (names : List String) :
    (readVariant names levels).Reads fun t i =>
      ∃ s, names.finIdxOf? s = some i ∧ (t.MeansText s ∨ (levels ≠ 0 ∧ t.IsObject [(s, .null)])) where
  keeps := keepsText_readVariant names levels
  sound {input rest i} hinput hy := by
    rw [readVariant, yields_afterBlanks_iff] at hy
    obtain ⟨first, others, hskip, hy⟩ := hy
    have htext : IsText (first :: others) := isText_of_skipBlanks hinput hskip
    split at hy
    · obtain ⟨t, ht, s, hi, hs⟩ := (reads_readVariantName names).sound htext hy
      rw [← hskip] at ht
      exact ⟨t, beginsWith_skipBlanks_iff.1 ht, s, hi, .inl hs⟩
    split at hy
    · next hfirst =>
      subst hfirst
      have hothers : IsText others := isText_behind_mark hinput hskip rfl
      obtain ⟨fewer, hlevels, hy⟩ := yields_deeper_iff.1 hy
      obtain ⟨j, middle, hname, hy⟩ := yields_andThen_iff.1 (yields_afterFirst_iff.1 hy)
      have hmiddle : IsText middle := (keepsText_readVariantName names _ hothers).isText hname
      obtain ⟨_, hend, rfl⟩ := yields_map_iff.1 hy
      obtain ⟨_, behind, hunit, hend⟩ := yields_andThen_iff.1 hend
      obtain ⟨_, value, hcolon, hunit⟩ := yields_andThen_iff.1 hunit
      obtain ⟨t, ht, s, hi, ps, rfl, hs⟩ := (reads_readVariantName names).sound hothers hname
      have hcolon := yields_colon_iff.1 hcolon
      obtain ⟨_, hnull, rfl⟩ := reads_readUnit.sound (isText_behind_mark hmiddle hcolon rfl) hunit
      refine ⟨.object [(ps, .null)], begins_single_iff.2 ?_, s, hi, .inr ⟨by omega, _, rfl, .cons ⟨hs, rfl⟩ .nil⟩⟩
      exact ⟨others, middle, behind, hskip, ht, ⟨value, hcolon, hnull⟩, yields_readVariantEnd_iff.1 hend⟩
    · exact absurd hy not_yields_error
  complete {input rest t i} hinput ht hi hrest := by
    obtain ⟨s, hi, hs | ⟨hlevels, ms, rfl, hms⟩⟩ := hi
    · obtain ⟨ps, rfl, hdenotes⟩ := hs
      obtain ⟨others, hskip, -⟩ := begins_text_iff.1 ht
      have ht : Begins (.text ps) (quoteMark :: others) rest := hskip ▸ beginsWith_skipBlanks_iff.2 ht
      rw [readVariant, yields_afterBlanks_iff]
      refine ⟨quoteMark, others, hskip, ?_⟩
      rw [if_pos rfl]
      exact yields_readVariantName ht hdenotes hi
    · cases hms with
      | @cons m _ ms _ hm hms =>
        cases hms
        obtain ⟨ps, _⟩ := m
        obtain ⟨hdenotes, rfl⟩ := hm
        obtain ⟨others, middle, behind, hskip, ht, ⟨value, hcolon, hnull⟩, hend⟩ := begins_single_iff.1 ht
        obtain ⟨fewer, rfl⟩ := Nat.exists_eq_succ_of_ne_zero hlevels
        have hname := yields_readVariantName ht hdenotes hi
        have hmiddle : IsText middle :=
          (keepsText_readVariantName names _ (isText_behind_mark hinput hskip rfl)).isText hname
        have hlast : PartsFrom false 0x7D [] behind rest := hend
        have hstops : Stops behind := stops_of_partsFrom (by decide) hlast
        have hunit : (readUnit value).Yields () behind :=
          reads_readUnit.complete (isText_behind_mark hmiddle hcolon rfl) hnull rfl hstops
        rw [readVariant, yields_afterBlanks_iff]
        refine ⟨0x7B, others, hskip, ?_⟩
        rw [if_neg (by decide), if_pos rfl]
        refine yields_deeper_iff.2 ⟨fewer, rfl, yields_afterFirst_iff.2 (yields_andThen_iff.2 ⟨i, middle, hname, ?_⟩)⟩
        refine yields_map_iff.2 ⟨(), yields_andThen_iff.2 ⟨(), behind, ?_, yields_readVariantEnd_iff.2 hend⟩, rfl⟩
        exact yields_andThen_iff.2 ⟨(), value, yields_colon_iff.2 hcolon, hunit⟩

end Readers

end Json

end ChatOpening
