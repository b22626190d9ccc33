import ChatOpening.Json.Schema

/-!
# Reading with and without noting the way

A reader that notes the way to the value in question differs from one that does not in the ways of its faults only.
Two outcomes are alike if they are the same value with the same rest, or faults with the same cause at the same place.

Every way to put readers together keeps outcomes alike, so by induction on the schema the readers of a schema do.

**Results.**
* `Schema.alike_read`: the readers of a schema are alike.
* `decodeWith_eq_ok_iff`: both give the same elements.
* `exists_report_of_decodeWith`: what they report has the same cause and the same words, apart from the way.
-/

namespace ChatOpening

namespace Json

variable {α β σ : Type} {bound larger : Nat}

/-- The same value with the same rest, or faults that differ in their ways only. -/
inductive Outcome.Alike : Outcome bound α → Outcome bound α → Prop where
  | ok (p : Parsed bound α) : Alike (.ok p) (.ok p)
  | error {f g : Fault} (hcause : f.cause = g.cause) (hleft : f.left = g.left) : Alike (.error f) (.error g)

/-- Readers whose outcomes are alike on all bytes. -/
def Reader.Alike (r s : Reader α) : Prop :=
  ∀ input, Outcome.Alike (r input) (s input)

/-- The same decision about a key, with readers that are alike if the field is free. -/
inductive Slot.Alike : Slot σ → Slot σ → Prop where
  | unknown : Alike .unknown .unknown
  | taken : Alike .taken .taken
  | free {r s : Reader σ} (h : Reader.Alike r s) : Alike (.free r) (.free s)

namespace Outcome.Alike

variable {x y : Outcome bound α} {t u : Tracking} {step : Step}

protected theorem refl (x : Outcome bound α) : Outcome.Alike x x := by
  cases x with
  | ok p => exact .ok p
  | error f => exact .error rfl rfl

protected theorem map (f : α → β) (h : Outcome.Alike x y) : Outcome.Alike (Outcome.map f x) (Outcome.map f y) := by
  cases h with
  | ok p => exact .ok (p.map f)
  | error hcause hleft => exact .error hcause hleft

protected theorem widen (hle : bound ≤ larger) (h : Outcome.Alike x y) :
    Outcome.Alike (Outcome.widen hle x) (Outcome.widen hle y) := by
  cases h with
  | ok p => exact .ok (p.widen hle)
  | error hcause hleft => exact .error hcause hleft

protected theorem afterFirst (h : Outcome.Alike x y) : Outcome.Alike (Outcome.afterFirst x) (Outcome.afterFirst y) :=
  h.widen (Nat.le_succ bound)

/-- The way is all that the two trackings treat differently. -/
protected theorem within (h : Outcome.Alike x y) :
    Outcome.Alike (Outcome.within t step x) (Outcome.within u step y) := by
  cases h with
  | ok p => exact .ok p
  | error hcause hleft => cases t <;> cases u <;> exact .error hcause hleft

protected theorem andThen {f g : α → Reader β} (h : Outcome.Alike x y) (hnext : ∀ a, Reader.Alike (f a) (g a)) :
    Outcome.Alike (Outcome.andThen x f) (Outcome.andThen y g) := by
  cases h with
  | ok p => exact (hnext p.value p.rest).widen (Nat.le_of_lt p.shorter)
  | error hcause hleft => exact .error hcause hleft

end Outcome.Alike

namespace Reader.Alike

variable {r s : Reader α} {t u : Tracking}

protected theorem refl (r : Reader α) : Reader.Alike r r :=
  fun input => .refl (r input)

protected theorem map (f : α → β) (h : Reader.Alike r s) : Reader.Alike (Reader.map f r) (Reader.map f s) :=
  fun input => (h input).map f

protected theorem andThen {f g : α → Reader β} (h : Reader.Alike r s) (hnext : ∀ a, Reader.Alike (f a) (g a)) :
    Reader.Alike (Reader.andThen r f) (Reader.andThen s g) :=
  fun input => (h input).andThen hnext

protected theorem afterBlanks {ending : Cause}
    {f g : (first : UInt8) → (rest : Bytes) → Outcome (rest.length + 1) α}
    (h : ∀ first rest, Outcome.Alike (f first rest) (g first rest)) :
    Reader.Alike (Json.afterBlanks ending f) (Json.afterBlanks ending g) := by
  intro input
  simp only [Json.afterBlanks]
  split
  · exact .refl _
  · next first rest _ => exact (h first rest).widen _

protected theorem memberValue (name : String) (h : Reader.Alike r s) :
    Reader.Alike (Json.memberValue t name r) (Json.memberValue u name s) :=
  fun input => ((Outcome.Alike.refl (colon input)).andThen fun _ => h).within

end Reader.Alike

section Loops

variable {t u : Tracking} {r s : Reader α}

/-- The items of a list. The induction is on the number of bytes, of which every item takes some. -/
theorem alike_items (h : Reader.Alike r s) (input : Bytes) (hlength : input.length ≤ bound) (done : List α) :
    Outcome.Alike (items t r input hlength done) (items u s input hlength done) := by
  induction hn : input.length using Nat.strongRecOn generalizing input done with
  | ind n ih =>
    rw [items, items]
    have hmore : Outcome.Alike ((nextItem done.isEmpty input).within t (.index done.length))
        ((nextItem done.isEmpty input).within u (.index done.length)) :=
      (Outcome.Alike.refl _).within
    generalize (nextItem done.isEmpty input).within t (.index done.length) = x at hmore ⊢
    generalize (nextItem done.isEmpty input).within u (.index done.length) = y at hmore ⊢
    cases hmore with
    | error hcause hleft => exact .error hcause hleft
    | ok more =>
      by_cases hvalue : more.value = true
      · simp only [hvalue, if_true]
        have hitem : Outcome.Alike ((r more.rest).within t (.index done.length))
            ((s more.rest).within u (.index done.length)) :=
          (h more.rest).within
        generalize (r more.rest).within t (.index done.length) = x at hitem ⊢
        generalize (s more.rest).within u (.index done.length) = y at hitem ⊢
        cases hitem with
        | error hcause hleft => exact .error hcause hleft
        | ok p =>
          have hless : p.rest.length < n := by
            have := p.shorter
            have := more.shorter
            omega
          exact ih p.rest.length hless p.rest _ _ rfl
      · simp only [hvalue]
        exact .refl _

/-- The members of an object, likewise. -/
theorem alike_members {member other : σ → String → Reader σ} (h : ∀ state name, Reader.Alike (member state name)
    (other state name)) (finish : σ → Except Cause α) (first : Bool) (state : σ) (input : Bytes)
    (hlength : input.length ≤ bound) :
    Outcome.Alike (members t member finish first state input hlength)
      (members u other finish first state input hlength) := by
  induction hn : input.length using Nat.strongRecOn generalizing input first state with
  | ind n ih =>
    rw [members, members]
    have hkey : Outcome.Alike ((nextKey first input).within t .unread) ((nextKey first input).within u .unread) :=
      (Outcome.Alike.refl _).within
    generalize (nextKey first input).within t .unread = x at hkey ⊢
    generalize (nextKey first input).within u .unread = y at hkey ⊢
    cases hkey with
    | error hcause hleft => exact .error hcause hleft
    | ok key =>
      simp only
      cases key.value with
      | none => exact .refl _
      | some name =>
        have hmember := h state name key.rest
        simp only
        generalize member state name key.rest = x at hmember ⊢
        generalize other state name key.rest = y at hmember ⊢
        cases hmember with
        | error hcause hleft => exact .error hcause hleft
        | ok p =>
          have hless : p.rest.length < n := by
            have := p.shorter
            have := key.shorter
            omega
          exact ih p.rest.length hless false p.value p.rest _ rfl

theorem alike_entries (put : σ → String → α → σ) (start : σ) (h : Reader.Alike r s) (input : Bytes) :
    Outcome.Alike (entries t put start r input) (entries u put start s input) :=
  (alike_members (fun done name => (h.memberValue name).map fun v => put done name v) _ _ _ _ _).afterFirst

/-- Values are alike if those inside them are. -/
theorem alike_valueOver {inner other : Reader Value} (h : Reader.Alike inner other) :
    Reader.Alike (valueOver t (some inner)) (valueOver u (some other)) := by
  refine Reader.Alike.afterBlanks fun first rest => ?_
  split
  · exact .refl _
  split
  · exact .refl _
  split
  · exact .refl _
  split
  · exact .refl _
  split
  · exact .refl _
  split
  · exact .refl _
  split
  · exact (alike_items h rest _ []).map Value.array
  split
  · exact (alike_entries putMember [] h rest).map Value.object
  · exact .refl _

/-- A value is read alike with tracking and without it. The induction is on the levels. -/
theorem alike_value (levels : Nat) : Reader.Alike (value t levels) (value u levels) := by
  induction levels with
  | zero => exact .refl _
  | succ fewer ih => exact alike_valueOver ih

end Loops

section Readers

variable {t u : Tracking} {r s : Reader α}

theorem alike_deeper {levels : Nat} {opening : Bytes} {inside other : Nat → Outcome bound α}
    (h : ∀ fewer, Outcome.Alike (inside fewer) (other fewer)) :
    Outcome.Alike (deeper levels opening inside) (deeper levels opening other) := by
  cases levels with
  | zero => exact .refl _
  | succ fewer => exact h fewer

theorem alike_readOptional (h : Reader.Alike r s) : Reader.Alike (readOptional r) (readOptional s) := by
  refine Reader.Alike.afterBlanks fun first rest => ?_
  split
  · exact .refl _
  · exact (h (first :: rest)).map some

theorem alike_readList {item other : Nat → Reader α} (h : ∀ levels, Reader.Alike (item levels) (other levels))
    (levels : Nat) : Reader.Alike (readList t item levels) (readList u other levels) := by
  refine Reader.Alike.afterBlanks fun first rest => ?_
  split
  · exact alike_deeper fun fewer => alike_items (h fewer) rest _ []
  · exact .refl _

theorem alike_readEntries (put : σ → String → α → σ) (start : σ) {value other : Nat → Reader α}
    (h : ∀ levels, Reader.Alike (value levels) (other levels)) (levels : Nat) :
    Reader.Alike (readEntries t put start value levels) (readEntries u put start other levels) := by
  refine Reader.Alike.afterBlanks fun first rest => ?_
  split
  · exact alike_deeper fun fewer => alike_entries put start (h fewer) rest
  · exact .refl _

/-- Members of records are alike if the slots of their keys are. -/
theorem alike_recordMember {slot other : σ → String → Slot σ}
    (h : ∀ slots name, Slot.Alike (slot slots name) (other slots name)) (slots : σ) (name : String) :
    Reader.Alike (recordMember t slot slots name) (recordMember u other slots name) := by
  have hslot := h slots name
  simp only [recordMember]
  generalize slot slots name = x at hslot ⊢
  generalize other slots name = y at hslot ⊢
  cases hslot with
  | unknown => exact ((Reader.Alike.refl pass).memberValue name).map _
  | taken => exact .refl _
  | free hread => exact hread.memberValue name

theorem alike_readRowField (place : RowPlace) (h : Reader.Alike r s) :
    Reader.Alike (readRowField t place r) (readRowField u place s) := by
  intro input
  simp only [readRowField]
  have hmore : Outcome.Alike ((nextItem (place.index = 0) input).within t (.index place.index))
      ((nextItem (place.index = 0) input).within u (.index place.index)) :=
    (Outcome.Alike.refl _).within
  generalize (nextItem (place.index = 0) input).within t (.index place.index) = x at hmore ⊢
  generalize (nextItem (place.index = 0) input).within u (.index place.index) = y at hmore ⊢
  cases hmore with
  | error hcause hleft => exact .error hcause hleft
  | ok more =>
    simp only
    split
    · exact (h more.rest).within.widen _
    · exact .refl _

end Readers

section Schemas

variable {t u : Tracking}

mutual

/-- The readers of a schema are alike, whether they note the way or not. -/
theorem Schema.alike_read (schema : Schema) (levels : Nat) :
    Reader.Alike (schema.read t levels) (schema.read u levels) := by
  cases schema with
  | text => exact .refl _
  | truth => exact .refl _
  | int64 => exact .refl _
  | uint32 => exact .refl _
  | optional inner => exact alike_readOptional (inner.alike_read levels)
  | list item => exact alike_readList item.alike_read levels
  | dictionary => exact alike_readEntries _ _ (fun _ => .refl _) levels
  | object => exact alike_readEntries _ _ alike_value levels
  | variant names => exact .refl _
  | record name fields =>
    refine Reader.Alike.afterBlanks fun first rest => ?_
    split
    · exact alike_deeper fun fewer => (fields.alike_readRow fewer _ rest).afterFirst
    split
    · exact alike_deeper fun fewer =>
        (alike_members (alike_recordMember (fields.alike_slot fewer)) _ _ _ rest _).afterFirst
    · exact .refl _

/-- The slots of the fields are alike. -/
theorem Fields.alike_slot (fields : Fields) (levels : Nat) (slots : fields.Slots) (key : String) :
    Slot.Alike (fields.slot t levels slots key) (fields.slot u levels slots key) := by
  cases fields with
  | none => exact .unknown
  | field name schema others =>
    simp only [Fields.slot]
    split
    · split
      · exact .taken
      · exact .free ((schema.alike_read levels).map _)
    · have hothers := others.alike_slot levels slots.2 key
      generalize others.slot t levels slots.2 key = x at hothers ⊢
      generalize others.slot u levels slots.2 key = y at hothers ⊢
      cases hothers with
      | unknown => exact .unknown
      | taken => exact .taken
      | free hread => exact .free (hread.map _)

/-- Rows are read alike. The induction is on the fields. -/
theorem Fields.alike_readRow (fields : Fields) (levels : Nat) (place : RowPlace) :
    Reader.Alike (fields.readRow t levels place) (fields.readRow u levels place) := by
  cases fields with
  | none => exact .refl _
  | field name schema others =>
    exact (alike_readRowField place (schema.alike_read levels)).andThen fun v =>
      (others.alike_readRow levels _).map _

end

/-- A text as a whole means the same, or what is wrong with it has the same cause at the same place. -/
theorem Schema.readWhole_cases (t u : Tracking) (schema : Schema) (source : Bytes) :
    (∃ v, schema.readWhole t source = .ok v ∧ schema.readWhole u source = .ok v) ∨
      ∃ f g : Fault, schema.readWhole t source = .error f ∧ schema.readWhole u source = .error g ∧
        f.cause = g.cause ∧ f.left = g.left := by
  have hread : Outcome.Alike (schema.read t deepest source) (schema.read u deepest source) :=
    schema.alike_read deepest source
  simp only [Schema.readWhole]
  generalize schema.read t deepest source = x at hread ⊢
  generalize schema.read u deepest source = y at hread ⊢
  cases hread with
  | error hcause hleft => exact .inr ⟨_, _, rfl, rfl, hcause, hleft⟩
  | ok p =>
    simp only
    split
    · exact .inl ⟨p.value, rfl, rfl⟩
    · exact .inr ⟨_, _, rfl, rfl, rfl, rfl⟩

/-- Both decoders read the same element, or both report the same cause at the same place. -/
theorem decodeWith_cases (t u : Tracking) (α : Type) [Described α] (source : Bytes) :
    (∃ a, decodeWith t α source = .ok a ∧ decodeWith u α source = .ok a) ∨
      ∃ f g : Report, decodeWith t α source = .error f ∧ decodeWith u α source = .error g ∧
        f.cause = g.cause ∧ f.place = g.place := by
  rcases Schema.readWhole_cases t u (Described.schema α) source with ⟨v, ht, hu⟩ | ⟨f, g, ht, hu, hcause, hleft⟩
  · exact .inl ⟨Described.ofCarrier v, by simp [decodeWith, Schema.decode, ht], by simp [decodeWith, Schema.decode, hu]⟩
  · refine .inr ⟨f.report source, g.report source, ?_, ?_, hcause, ?_⟩
    · simp [decodeWith, Schema.decode, ht]
    · simp [decodeWith, Schema.decode, hu]
    · simp only [Fault.report, hleft]

end Schemas

section Decoding

variable [Described α] {t u : Tracking} {source : Bytes} {a : α} {report : Report}

/-- Noting the way changes no element that a text means. -/
theorem decodeWith_eq_ok_iff : decodeWith t α source = .ok a ↔ decodeWith u α source = .ok a := by
  rcases decodeWith_cases t u α source with ⟨b, ht, hu⟩ | ⟨f, g, ht, hu, -⟩
  · rw [ht, hu]
  · rw [ht, hu]
    simp

/-- Noting the way changes neither the cause nor the words of a report. -/
theorem exists_report_of_decodeWith (h : decodeWith t α source = .error report) :
    ∃ other, decodeWith u α source = .error other ∧ other.cause = report.cause ∧ other.message = report.message := by
  rcases decodeWith_cases t u α source with ⟨b, ht, -⟩ | ⟨f, g, ht, hu, hcause, hplace⟩
  · rw [h] at ht
    cases ht
  · rw [h] at ht
    cases ht
    exact ⟨g, hu, hcause.symm, by simp only [Report.message, hcause, hplace]⟩

end Decoding

/-- The words with the way are the words without it, behind others that name the way. -/
theorem Report.exists_locatedMessage_eq (report : Report) :
    ∃ front, report.locatedMessage = front ++ report.message := by
  simp only [Report.locatedMessage]
  split
  · exact ⟨"", by simp⟩
  · exact ⟨pathText report.path ++ ": ", rfl⟩

end Json

end ChatOpening
