import ChatOpening.Proofs.Json.Readers

/-!
# Which trees fit a schema

A schema says which trees are wanted and what they mean; `Schema.read` reads exactly these.

**Input.**  A schema, a number of levels, and bytes of a text.

**Definitions.**
* `Schema.Fits`: the tree is a layout of the element, within the number of levels.

**Idea.**  A record that is written as an object is read member by member, and each member fills a slot.  The members of
one key are separated from the others (`run_step_field_iff`), so that a slot is filled by the only member of its key.

**Results.**
* `Schema.reads_read`: the reader of a schema takes the trees that fit, and no others.
* `Schema.decode_eq_ok_iff_fits`: a text as a whole is read as an element if it is one of its layouts.
-/

namespace ChatOpening

namespace Json

open Text

variable {α β σ : Type} {bound : Nat}

section Layouts

/-- The values of the members of a key. -/
def valuesOf (key : String) (es : List (String × Tree)) : List Tree :=
  (es.filter (·.1 = key)).map Prod.snd

/-- The members of all other keys. -/
def without (key : String) (es : List (String × Tree)) : List (String × Tree) :=
  es.filter (·.1 ≠ key)

/-- There is one value, and it fits; or there is none, and none is needed. -/
def FitsOnce (P : Tree → α → Prop) (absent : Option α) (ts : List Tree) (a : α) : Prop :=
  (∃ t, ts = [t] ∧ P t a) ∨ (ts = [] ∧ absent = some a)

mutual

/-- The tree is a layout of the element in which at most `levels` lists, objects and variants stand around each other. -/
def Schema.Fits : (schema : Schema) → (levels : Nat) → Tree → schema.Carrier → Prop
  | .text => fun _ t s => t.MeansText s
  | .truth => fun _ t b => t = .truth b
  | .int64 => fun _ t n => t.MeansInteger n.toInt
  | .uint32 => fun _ t n => t.MeansInteger n.toNat
  | .optional inner => fun levels t v =>
    match v with
    | none => t = .null
    | some a => t ≠ .null ∧ inner.Fits levels t a
  | .list item => fun levels t vs =>
    ∃ fewer, levels = fewer + 1 ∧ ∃ ts, t = .array ts ∧ List.Forall₂ (item.Fits fewer) ts vs
  | .dictionary => fun levels t d =>
    ∃ fewer, levels = fewer + 1 ∧ ∃ es vs, t.IsObject es ∧ Entries Tree.MeansText es vs ∧
      d = gathered Dictionary.insert Dictionary.empty vs
  | .object => fun levels t ms =>
    ∃ fewer, levels = fewer + 1 ∧ ∃ es vs, t.IsObject es ∧ Entries (Tree.Means fewer) es vs ∧
      ms = gathered putMember [] vs
  | .variant names => fun levels t i =>
    ∃ s, names.finIdxOf? s = some i ∧ (t.MeansText s ∨ (levels ≠ 0 ∧ t.IsObject [(s, .null)]))
  | .record _ fields => fun levels t row =>
    ∃ fewer, levels = fewer + 1 ∧
      ((∃ ts, t = .array ts ∧ fields.FitsRow fewer ts row) ∨ ∃ es, t.IsObject es ∧ fields.FitsMembers fewer es row)

/-- The trees are layouts of the values of the fields, in the declared order. -/
def Fields.FitsRow : (fields : Fields) → (levels : Nat) → List Tree → fields.Row → Prop
  | .none => fun _ ts _ => ts = []
  | .field _ schema others => fun levels ts row =>
    ∃ t more, ts = t :: more ∧ schema.Fits levels t row.1 ∧ others.FitsRow levels more row.2

/-- Each field has a single member with a layout of its value, or none if it need not be there. -/
def Fields.FitsMembers : (fields : Fields) → (levels : Nat) → List (String × Tree) → fields.Row → Prop
  | .none => fun _ _ _ => True
  | .field name schema others => fun levels es row =>
    FitsOnce (schema.Fits levels) schema.absent (valuesOf name es) row.1 ∧
      others.FitsMembers levels (without name es) row.2

end

end Layouts

section Slots

/-- What a member does to the slots of a record: it fills the free slot of its key, and one without a slot does nothing. -/
def Fields.Step : (fields : Fields) → (levels : Nat) → fields.Slots → String → Tree → fields.Slots → Prop
  | .none => fun _ slots _ _ filled => filled = slots
  | .field name schema others => fun levels slots key t filled =>
    if key = name then slots.1 = Option.none ∧ filled.2 = slots.2 ∧ ∃ v, schema.Fits levels t v ∧ filled.1 = some v
    else filled.1 = slots.1 ∧ others.Step levels slots.2 key t filled.2

/-- A slot before and after the values of its key. -/
def FillsSlot (P : Tree → α → Prop) : Option α → List Tree → Option α → Prop
  | slot, [], filled => filled = slot
  | none, [t], filled => ∃ v, P t v ∧ filled = some v
  | _, _, _ => False

variable {P : Tree → α → Prop} {name : String} {schema : Schema} {others : Fields} {levels : Nat}
  {es : List (String × Tree)} {t : Tree} {ts : List Tree}

/-- A slot takes a value only if it is free and no other value follows. -/
theorem fillsSlot_cons_iff {slot filled : Option α} :
    FillsSlot P slot (t :: ts) filled ↔ slot = none ∧ ts = [] ∧ ∃ v, P t v ∧ filled = some v := by
  cases slot with
  | none => cases ts <;> simp [FillsSlot]
  | some v => cases ts <;> simp [FillsSlot]

theorem valuesOf_cons_self : valuesOf name ((name, t) :: es) = t :: valuesOf name es := by
  simp [valuesOf]

theorem valuesOf_cons_of_ne {key : String} (h : key ≠ name) : valuesOf name ((key, t) :: es) = valuesOf name es := by
  simp [valuesOf, h]

theorem without_cons_self : without name ((name, t) :: es) = without name es := by
  simp [without]

theorem without_cons_of_ne {key : String} (h : key ≠ name) :
    without name ((key, t) :: es) = (key, t) :: without name es := by
  simp [without, h]

/-- A member with the key of the first field fills its slot. -/
theorem step_self_iff {slots filled : (Fields.field name schema others).Slots} :
    (Fields.field name schema others).Step levels slots name t filled ↔
      slots.1 = none ∧ filled.2 = slots.2 ∧ ∃ v, schema.Fits levels t v ∧ filled.1 = some v := by
  simp only [Fields.Step, if_true]

theorem step_of_ne_iff {key : String} (hkey : key ≠ name) {slots filled : (Fields.field name schema others).Slots} :
    (Fields.field name schema others).Step levels slots key t filled ↔
      filled.1 = slots.1 ∧ others.Step levels slots.2 key t filled.2 := by
  simp only [Fields.Step, if_neg hkey]

/-- The members of the first field fill its slot, and the others fill the others. -/
theorem run_step_field_iff {slots final : (Fields.field name schema others).Slots} :
    Run ((Fields.field name schema others).Step levels) slots es final ↔
      FillsSlot (schema.Fits levels) slots.1 (valuesOf name es) final.1 ∧
        Run (others.Step levels) slots.2 (without name es) final.2 := by
  induction es generalizing slots with
  | nil => exact run_nil_iff.trans (Prod.ext_iff.trans (and_congr Iff.rfl run_nil_iff.symm))
  | cons e es ih =>
    obtain ⟨key, t⟩ := e
    by_cases hkey : key = name
    · subst hkey
      simp only [run_cons_iff, valuesOf_cons_self, without_cons_self, fillsSlot_cons_iff, step_self_iff, ih]
      constructor
      · rintro ⟨next, ⟨hnone, hothers, v, hv, hfilled⟩, hslot, hrest⟩
        rw [hothers] at hrest
        rw [hfilled] at hslot
        cases hvalues : valuesOf key es with
        | nil =>
          rw [hvalues] at hslot
          exact ⟨⟨hnone, rfl, v, hv, hslot⟩, hrest⟩
        | cons u us =>
          rw [hvalues, fillsSlot_cons_iff] at hslot
          cases hslot.1
      · rintro ⟨⟨hnone, hvalues, v, hv, hfilled⟩, hrest⟩
        rw [hvalues]
        exact ⟨(some v, slots.2), ⟨hnone, rfl, v, hv, rfl⟩, hfilled, hrest⟩
    · simp only [run_cons_iff, valuesOf_cons_of_ne hkey, without_cons_of_ne hkey, step_of_ne_iff hkey, ih]
      constructor
      · rintro ⟨next, ⟨hfirst, hstep⟩, hslot, hrest⟩
        rw [hfirst] at hslot
        exact ⟨hslot, next.2, hstep, hrest⟩
      · rintro ⟨hslot, filled, hstep, hrest⟩
        exact ⟨(slots.1, filled), ⟨rfl, hstep⟩, hslot, hrest⟩

/-- A slot that was free holds the value of its key, or what an absent field means. -/
theorem fillsSlot_orElse_iff {absent : Option α} {a : α} :
    (∃ slot, FillsSlot P none ts slot ∧ (slot <|> absent) = some a) ↔ FitsOnce P absent ts a := by
  cases ts with
  | nil =>
    constructor
    · rintro ⟨_, rfl, hvalue⟩
      exact .inr ⟨rfl, hvalue⟩
    · rintro (⟨t, ht, -⟩ | ⟨-, hvalue⟩)
      · cases ht
      · exact ⟨none, rfl, hvalue⟩
  | cons t ts =>
    simp only [fillsSlot_cons_iff]
    constructor
    · rintro ⟨_, ⟨-, rfl, v, hv, rfl⟩, hvalue⟩
      cases hvalue
      exact .inl ⟨t, rfl, hv⟩
    · rintro (⟨u, hu, hv⟩ | ⟨hnil, -⟩)
      · cases hu
        exact ⟨some a, ⟨trivial, rfl, a, hv, rfl⟩, rfl⟩
      · cases hnil

/-- A row is complete if each slot is filled or need not be. -/
theorem Fields.complete_field_iff {slots : (Fields.field name schema others).Slots}
    {row : (Fields.field name schema others).Row} :
    (Fields.field name schema others).complete slots = .ok row ↔
      (slots.1 <|> schema.absent) = some row.1 ∧ others.complete slots.2 = .ok row.2 := by
  obtain ⟨slot, slots⟩ := slots
  obtain ⟨a, row⟩ := row
  simp only [Fields.complete]
  cases slot <|> schema.absent with
  | none => simp
  | some v =>
    cases others.complete slots with
    | error cause => simp
    | ok filled =>
      constructor
      · intro h
        cases h
        exact ⟨rfl, rfl⟩
      · rintro ⟨hv, hfilled⟩
        cases hv
        cases hfilled
        rfl

/-- Without fields all members are passed over. -/
theorem exists_run_step_none (levels : Nat) (es : List (String × Tree)) :
    Run (Fields.none.Step levels) () es () := by
  induction es with
  | nil => exact .nil ()
  | cons e es ih => exact .cons rfl ih

/-- All slots together are filled by members that fit. The induction is on the fields. -/
theorem Fields.run_complete_iff (levels : Nat) : (fields : Fields) → (es : List (String × Tree)) → (row : fields.Row) →
    ((∃ final, Run (fields.Step levels) fields.free es final ∧ fields.complete final = .ok row) ↔
      fields.FitsMembers levels es row)
  | .none, es, () => by
    constructor
    · intro _
      trivial
    · intro _
      exact ⟨(), exists_run_step_none levels es, rfl⟩
  | .field name schema others, es, row => by
    simp only [run_step_field_iff, complete_field_iff, Fields.FitsMembers]
    rw [← fillsSlot_orElse_iff, ← others.run_complete_iff levels (without name es) row.2]
    constructor
    · rintro ⟨final, ⟨hslot, hrun⟩, hvalue, hrow⟩
      exact ⟨⟨final.1, hslot, hvalue⟩, final.2, hrun, hrow⟩
    · rintro ⟨⟨slot, hslot, hvalue⟩, slots, hrun, hrow⟩
      exact ⟨(slot, slots), ⟨hslot, hrun⟩, hvalue, hrow⟩

end Slots

section Records

variable {tracking : Tracking} {P : Tree → α → Prop} {read : Reader α} {slot : σ → String → Slot σ}
  {Q : σ → String → Tree → σ → Prop} {slots : σ} {name : String} {input rest : Bytes} {a : α} {place : RowPlace}

/-- What a record does with the member of a key, said of the slots before and after it. -/
def Slot.Does (slots : σ) (P : Tree → σ → Prop) : Slot σ → Prop
  | .unknown => ∀ t filled, P t filled ↔ filled = slots
  | .taken => ∀ t filled, ¬ P t filled
  | .free read => read.Reads P

/-- A member is read into its slot, or passed over. -/
theorem readsMember_recordMember (hslot : (slot slots name).Does slots (Q slots name)) :
    (recordMember tracking slot slots name).ReadsMember (Q slots name) := by
  unfold recordMember
  cases hcase : slot slots name with
  | unknown =>
    rw [hcase] at hslot
    refine ((reads_pass.memberValue tracking name).map fun _ => slots).congr fun t filled => ?_
    rw [hslot t filled]
    constructor
    · rintro ⟨_, -, rfl⟩
      rfl
    · rintro rfl
      exact ⟨(), trivial, rfl⟩
  | taken =>
    rw [hcase] at hslot
    exact {
      keeps := fun input _ => keepsText_here rfl
      sound := fun _ hy => absurd hy not_yields_error
      complete := fun _ _ hP _ => absurd hP (hslot _ _) }
  | free read =>
    rw [hcase] at hslot
    exact Reader.Takes.memberValue tracking name hslot

theorem yields_readRowEnd_iff : (readRowEnd input).Yields () rest ↔ skipBlanks input = 0x5D :: rest := by
  constructor
  · intro h
    simp only [readRowEnd] at h
    split at h
    · exact absurd h not_yields_error
    next first others hskip =>
    split at h
    · next hfirst =>
      obtain ⟨-, rfl⟩ := yields_ok_iff.1 h
      exact hfirst ▸ hskip
    split at h
    · split at h
      · exact absurd h not_yields_error
      split at h
      · exact absurd h not_yields_error
      · exact absurd h not_yields_error
    · exact absurd h not_yields_error
  · intro hskip
    simp only [readRowEnd]
    split
    · next hnone => cases hnone.symm.trans hskip
    · next first others hfirst =>
      cases hfirst.symm.trans hskip
      rw [if_pos rfl]
      exact yields_ok_iff.2 ⟨rfl, rfl⟩

/-- A field of a row is read where the next item starts. -/
theorem yields_readRowField_iff :
    (readRowField tracking place read input).Yields a rest ↔
      ∃ more, (nextItem (place.index = 0) input).Yields true more ∧ (read more).Yields a rest := by
  have hnext : ∀ b more, ((nextItem (place.index = 0) input).within tracking (.index place.index)).Yields b more ↔
      (nextItem (place.index = 0) input).Yields b more :=
    fun _ _ => yields_within_iff
  simp only [← hnext, readRowField]
  cases (nextItem (place.index = 0) input).within tracking (.index place.index) with
  | error fault => simp
  | ok next =>
    obtain ⟨b, more, hshorter⟩ := next
    cases b with
    | false => simp
    | true => simp

/-- The next field of a record that is written as a list is the next part of the list. -/
theorem exists_tree_of_readRowField (hread : read.Reads P) (hinput : IsText input)
    (hy : (readRowField tracking place read input).Yields a rest) :
    ∃ t start, StartsAt (place.index = 0) input start ∧ Begins t start rest ∧ P t a := by
  obtain ⟨more, hnext, hvalue⟩ := yields_readRowField_iff.1 hy
  obtain ⟨start, b, others, hstart, hskip, -, hmore⟩ := yields_nextItem_true_iff.1 hnext
  obtain ⟨t, ht, ha⟩ := hread.sound ((keepsText_nextItem _ hinput).isText hnext) hvalue
  exact ⟨t, start, hstart, (begins_of_nextItem hskip hmore).1 ht, ha⟩

theorem yields_readRowField_of_tree (hread : read.Reads P) (hinput : IsText input) {t : Tree} {start : Bytes}
    (hstart : StartsAt (place.index = 0) input start) (ht : Begins t start rest) (ha : P t a) (hrest : Stops rest) :
    (readRowField tracking place read input).Yields a rest := by
  obtain ⟨b, others, hskip, hb⟩ := (visible_spelled t).exists_first ht
  have hbracket : b ≠ 0x5D := by
    rintro rfl
    cases hb
  obtain ⟨more, hmore⟩ : ∃ more, more = if decide (place.index = 0) = true then b :: others else start := ⟨_, rfl⟩
  have hnext : (nextItem (place.index = 0) input).Yields true more :=
    yields_nextItem_true_iff.2 ⟨start, b, others, hstart, hskip, hbracket, hmore⟩
  refine yields_readRowField_iff.2 ⟨more, hnext, ?_⟩
  exact hread.complete ((keepsText_nextItem _ hinput).isText hnext) ((begins_of_nextItem hskip hmore).2 ht) ha hrest

end Records

section Schemas

variable {tracking : Tracking} {levels : Nat}

/-- The reader takes the rest of a list of which the items fit the fields. -/
structure Fields.ReadsRow (fields : Fields) (levels : Nat) (fresh : Bool) (r : Reader fields.Row) : Prop where
  sound : ∀ {input rest : Bytes} {row : fields.Row}, IsText input → (r input).Yields row rest →
    ∃ ts, PartsFrom fresh 0x5D (itemsSpelled ts) input rest ∧ fields.FitsRow levels ts row
  complete : ∀ {input rest : Bytes} {ts : List Tree} {row : fields.Row}, IsText input →
    PartsFrom fresh 0x5D (itemsSpelled ts) input rest → fields.FitsRow levels ts row → (r input).Yields row rest

/-- A record stands in brackets or in braces, one level deeper. -/
theorem Schema.yields_record_iff {name : String} {fields : Fields} {input rest : Bytes} {row : fields.Row} :
    ((Schema.record name fields).read tracking levels input).Yields row rest ↔
      ∃ fewer others, levels = fewer + 1 ∧
        ((skipBlanks input = 0x5B :: others ∧
            (fields.readRow tracking fewer ⟨name, fields.count, 0⟩ others).Yields row rest) ∨
          (skipBlanks input = 0x7B :: others ∧
            (members tracking (recordMember tracking fun slots key => fields.slot tracking fewer slots key)
              fields.complete true fields.free others (length_le_self others)).Yields row rest)) := by
  rw [Schema.read]
  constructor
  · intro hy
    obtain ⟨first, others, hskip, hy⟩ := yields_afterBlanks_iff.1 hy
    split at hy
    · next hfirst =>
      obtain ⟨fewer, hlevels, hy⟩ := yields_deeper_iff.1 hy
      exact ⟨fewer, others, hlevels, .inl ⟨hfirst ▸ hskip, yields_afterFirst_iff.1 hy⟩⟩
    split at hy
    · next hfirst =>
      obtain ⟨fewer, hlevels, hy⟩ := yields_deeper_iff.1 hy
      exact ⟨fewer, others, hlevels, .inr ⟨hfirst ▸ hskip, yields_afterFirst_iff.1 hy⟩⟩
    · exact absurd hy not_yields_error
  · rintro ⟨fewer, others, hlevels, ⟨hskip, hy⟩ | ⟨hskip, hy⟩⟩
    · refine yields_afterBlanks_iff.2 ⟨0x5B, others, hskip, ?_⟩
      rw [if_pos rfl]
      exact yields_deeper_iff.2 ⟨fewer, hlevels, yields_afterFirst_iff.2 hy⟩
    · refine yields_afterBlanks_iff.2 ⟨0x7B, others, hskip, ?_⟩
      rw [if_neg (by decide), if_pos rfl]
      exact yields_deeper_iff.2 ⟨fewer, hlevels, yields_afterFirst_iff.2 hy⟩

/-- A record is read if its fields are, one after the other and each into its slot. -/
theorem Schema.reads_record {name : String} {fields : Fields}
    (hrow : ∀ fewer, fields.ReadsRow fewer true (fields.readRow tracking fewer ⟨name, fields.count, 0⟩))
    (hslot : ∀ fewer slots key, (fields.slot tracking fewer slots key).Does slots (fields.Step fewer slots key)) :
    ((Schema.record name fields).read tracking levels).Reads ((Schema.record name fields).Fits levels) := by
  have hmember : ∀ fewer slots key,
      (recordMember tracking (fun slots key => fields.slot tracking fewer slots key) slots key).ReadsMember
        (fields.Step fewer slots key) :=
    fun fewer slots key => readsMember_recordMember (hslot fewer slots key)
  refine ⟨(Schema.record name fields).keepsText_read levels, ?_, ?_⟩
  · intro input rest row hinput hy
    obtain ⟨fewer, others, hlevels, ⟨hskip, hy⟩ | ⟨hskip, hy⟩⟩ := yields_record_iff.1 hy
    · obtain ⟨ts, hts, hfits⟩ := (hrow fewer).sound (isText_behind_mark hinput hskip rfl) hy
      exact ⟨.array ts, begins_array_iff.2 ⟨others, hskip, hts⟩, fewer, hlevels, .inl ⟨ts, rfl, hfits⟩⟩
    · obtain ⟨ms, es, final, hms, hes, hrun, hfinal⟩ :=
        exists_run_of_members (hmember fewer) (isText_behind_mark hinput hskip rfl) hy
      refine ⟨.object ms, begins_object_iff.2 ⟨others, hskip, hms⟩, fewer, hlevels, .inr ⟨es, ⟨ms, rfl, hes⟩, ?_⟩⟩
      exact (fields.run_complete_iff fewer es row).1 ⟨final, hrun, hfinal⟩
  · intro input rest t row hinput ht hfits _
    obtain ⟨fewer, hlevels, ⟨ts, rfl, hts⟩ | ⟨es, ⟨ms, rfl, hes⟩, hfits⟩⟩ := hfits
    · obtain ⟨others, hskip, hparts⟩ := begins_array_iff.1 ht
      have hy := (hrow fewer).complete (isText_behind_mark hinput hskip rfl) hparts hts
      exact yields_record_iff.2 ⟨fewer, others, hlevels, .inl ⟨hskip, hy⟩⟩
    · obtain ⟨others, hskip, hparts⟩ := begins_object_iff.1 ht
      obtain ⟨final, hrun, hfinal⟩ := (fields.run_complete_iff fewer es row).2 hfits
      refine yields_record_iff.2 ⟨fewer, others, hlevels, .inr ⟨hskip, ?_⟩⟩
      exact yields_members_of_run (hmember fewer) hrun hes (isText_behind_mark hinput hskip rfl) hparts hfinal
        (length_le_self others)

/-- A row is read if its first field and the others are. -/
theorem Fields.readsRow_field {name : String} {schema : Schema} {others : Fields} {place : RowPlace}
    (hfield : (schema.read tracking levels).Reads (schema.Fits levels))
    (hothers : others.ReadsRow levels false
      (others.readRow tracking levels { place with index := place.index + 1 })) :
    (Fields.field name schema others).ReadsRow levels (place.index = 0)
      ((Fields.field name schema others).readRow tracking levels place) where
  sound {input rest row} hinput hy := by
    simp only [Fields.readRow] at hy
    obtain ⟨v, middle, hv, hy⟩ := yields_andThen_iff.1 hy
    obtain ⟨later, hlater, rfl⟩ := yields_map_iff.1 hy
    obtain ⟨t, start, hstart, ht, hfits⟩ := exists_tree_of_readRowField hfield hinput hv
    have hmiddle : IsText middle := (keepsText_readRowField place hfield.keeps _ hinput).isText hv
    obtain ⟨ts, hts, hrow⟩ := hothers.sound hmiddle hlater
    exact ⟨t :: ts, ⟨start, middle, hstart, ht, hts⟩, t, ts, rfl, hfits, hrow⟩
  complete {input rest ts row} hinput hts hfits := by
    obtain ⟨t, more, rfl, hfirst, hrow⟩ := hfits
    obtain ⟨start, middle, hstart, ht, hlater⟩ := hts
    have hv : (readRowField tracking place (schema.read tracking levels) input).Yields row.1 middle :=
      yields_readRowField_of_tree hfield hinput hstart ht hfirst (stops_of_partsFrom (by decide) hlater)
    have hmiddle : IsText middle := (keepsText_readRowField place hfield.keeps _ hinput).isText hv
    simp only [Fields.readRow]
    exact yields_andThen_iff.2
      ⟨row.1, middle, hv, yields_map_iff.2 ⟨row.2, hothers.complete hmiddle hlater hrow, rfl⟩⟩

mutual

/-- The reader of a schema takes the trees that fit it, and no others. -/
theorem Schema.reads_read (schema : Schema) (levels : Nat) : (schema.read tracking levels).Reads (schema.Fits levels) := by
  cases schema with
  | text => exact reads_readText
  | truth => exact reads_readTruth
  | int64 =>
    refine reads_readInteger.congr fun t n => meansInteger_iff (fun _ _ => int64Of?_eq_some_iff) ?_
    have hleast := n.le_toInt
    have hgreatest := n.toInt_lt
    exact ⟨by omega, by omega⟩
  | uint32 =>
    refine reads_readInteger.congr fun t n => meansInteger_iff (fun _ _ => uint32Of?_eq_some_iff) ?_
    have hgreatest := n.toNat_lt
    exact ⟨by omega, by omega⟩
  | optional inner =>
    refine (reads_readOptional (inner.reads_read levels)).congr fun t v => ?_
    cases v <;> rfl
  | list item => exact reads_readList item.reads_read
  | dictionary => exact reads_readEntries fun _ => reads_readText
  | object => exact reads_readEntries (reads_value tracking)
  | variant names => exact reads_readVariant names
  | record name fields =>
    exact Schema.reads_record (fun fewer => fields.readsRow_readRow fewer ⟨name, fields.count, 0⟩) fields.does_slot

/-- The reader of a slot does what the step of its key says. -/
theorem Fields.does_slot (fields : Fields) (levels : Nat) (slots : fields.Slots) (key : String) :
    (fields.slot tracking levels slots key).Does slots (fields.Step levels slots key) := by
  cases fields with
  | none => exact fun t filled => Iff.rfl
  | field name schema others =>
    simp only [Fields.slot]
    by_cases hkey : key = name
    · rw [if_pos hkey]
      cases hfirst : slots.1 with
      | some v =>
        intro t filled hstep
        simp only [Fields.Step, if_pos hkey, hfirst] at hstep
        cases hstep.1
      | none =>
        refine ((schema.reads_read levels).map _).congr fun t filled => ?_
        simp only [Fields.Step, if_pos hkey, hfirst]
        constructor
        · rintro ⟨v, hv, rfl⟩
          exact ⟨trivial, rfl, v, hv, rfl⟩
        · rintro ⟨-, hothers, v, hv, hvalue⟩
          exact ⟨v, hv, Prod.ext hvalue.symm hothers.symm⟩
    · rw [if_neg hkey]
      have hothers := others.does_slot levels slots.2 key
      cases hcase : others.slot tracking levels slots.2 key with
      | unknown =>
        rw [hcase] at hothers
        intro t filled
        simp only [Fields.Step, if_neg hkey, hothers t filled.2]
        constructor
        · rintro ⟨hfirst, hsecond⟩
          exact Prod.ext hfirst hsecond
        · rintro rfl
          exact ⟨rfl, rfl⟩
      | taken =>
        rw [hcase] at hothers
        intro t filled hstep
        simp only [Fields.Step, if_neg hkey] at hstep
        exact hothers t filled.2 hstep.2
      | free read =>
        rw [hcase] at hothers
        refine (Reader.Takes.map hothers _).congr fun t filled => ?_
        simp only [Fields.Step, if_neg hkey]
        constructor
        · rintro ⟨later, hlater, rfl⟩
          exact ⟨rfl, hlater⟩
        · rintro ⟨hfirst, hlater⟩
          exact ⟨filled.2, hlater, Prod.ext hfirst.symm rfl⟩

/-- The fields of a row are read one after the other. The induction is on the fields. -/
theorem Fields.readsRow_readRow (fields : Fields) (levels : Nat) (place : RowPlace) :
    fields.ReadsRow levels (place.index = 0) (fields.readRow tracking levels place) := by
  cases fields with
  | none =>
    constructor
    · intro input rest row _ hy
      exact ⟨[], yields_readRowEnd_iff.1 hy, rfl⟩
    · rintro input rest ts row _ hts rfl
      exact yields_readRowEnd_iff.2 hts
  | field name schema others =>
    exact Fields.readsRow_field (schema.reads_read levels)
      (others.readsRow_readRow levels { place with index := place.index + 1 })

end

/-- A text as a whole is read as an element if it is one of its layouts. -/
theorem Schema.decode_eq_ok_iff_fits {schema : Schema} {source : Bytes} {v : schema.Carrier} (hsource : IsText source) :
    schema.decode tracking source = .ok v ↔ ∃ t, IsDocument source t ∧ schema.Fits deepest t v := by
  rw [Schema.decode_eq_ok_iff]
  constructor
  · rintro ⟨rest, hread, hrest⟩
    obtain ⟨t, ht, hfits⟩ := (schema.reads_read deepest).sound hsource hread
    exact ⟨t, isDocument_iff.2 ⟨rest, ht, skipBlanks_eq_nil_iff.1 hrest⟩, hfits⟩
  · rintro ⟨t, ht, hfits⟩
    obtain ⟨rest, ht, hrest⟩ := isDocument_iff.1 ht
    refine ⟨rest, (schema.reads_read deepest).complete hsource ht hfits (stops_of_allBlank hrest), ?_⟩
    exact skipBlanks_eq_nil_iff.2 hrest

end Schemas

end Json

end ChatOpening
