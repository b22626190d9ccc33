import ChatOpening.Proofs.Json.Textual

/-!
# Reading the bytes of a text

Whatever is wanted, a reader that starts between two characters of a text stops between two characters, and nothing
that it reports says that the bytes are no text.  So it makes no difference whether the bytes of a text are looked at
for broken characters.

**Input.**  Bytes of a text.

**Results.**
* `keepsText_pass`: what is left behind a value that is passed over is a text.
* `Schema.keepsText_read`: what is left behind a value of a schema is a text.
* `cause_ne_notUtf8`: no report on a text says that it is none.
-/

namespace ChatOpening

namespace Json

open Text

variable {α σ : Type} {bound : Nat}

section Passing

variable {input : Bytes}

theorem keepsText_passHead : Reader.KeepsText passHead := by
  refine keepsText_afterBlanks rfl fun first rest h => ?_
  split
  · next hfirst => exact keepsText_wordValue rfl (isText_behind rfl hfirst h)
  split
  · next hfirst => exact keepsText_wordValue rfl (isText_behind rfl hfirst h)
  split
  · next hfirst => exact keepsText_wordValue rfl (isText_behind rfl hfirst h)
  split
  · next hfirst =>
    have hrest : IsText rest := isText_behind rfl hfirst h
    exact keepsText_afterFirst (keepsText_map (keepsText_numeral rfl rest hrest))
  split
  · exact keepsText_map (keepsText_numeral rfl (first :: rest) h)
  split
  · next hfirst =>
    have hrest : IsText rest := isText_behind rfl hfirst h
    exact keepsText_afterFirst (keepsText_map (keepsText_passText hrest _))
  split
  · next hfirst => exact keepsText_before (isText_behind rfl hfirst h)
  split
  · next hfirst => exact keepsText_before (isText_behind rfl hfirst h)
  · exact keepsText_next rfl

theorem keepsText_passKey : Reader.KeepsText passKey := by
  intro input hinput
  refine keepsText_andThen (keepsText_afterBlanks rfl (fun first rest h => ?_) input hinput) fun _ => keepsText_colon
  split
  · next hfirst =>
    have hrest : IsText rest := isText_behind rfl hfirst h
    exact keepsText_afterFirst (keepsText_passText hrest _)
  · exact keepsText_next rfl

theorem keepsText_passToPart (enclosure : Enclosure) (hinput : IsText input) :
    (passToPart enclosure input).KeepsText := by
  cases enclosure with
  | list => exact hinput
  | object => exact keepsText_afterFirst (keepsText_passKey input hinput)

theorem keepsText_settle (fresh : Bool) (stack : List Enclosure) (hinput : IsText input) (h : input.length < bound) :
    (settle fresh stack input h).KeepsText := by
  induction stack generalizing fresh input with
  | nil => exact hinput
  | cons enclosure outer ih =>
    have hskip := isText_skipBlanks hinput
    rw [settle]
    split
    · cases enclosure <;> exact keepsText_next rfl
    · next first rest hrest =>
      rw [hrest] at hskip
      split
      · next hclosing =>
        have hlow : first < 0x80 := by
          rw [hclosing]
          cases enclosure <;> decide
        exact ih false (isText_of_cons hlow hskip) _
      split
      · exact keepsText_widen (keepsText_map (keepsText_passToPart enclosure hskip))
      split
      · next hcomma =>
        have hlow : first < 0x80 := by
          rw [hcomma]
          decide
        exact keepsText_widen (keepsText_map (keepsText_passToPart enclosure (isText_of_cons hlow hskip)))
      · cases enclosure <;> exact keepsText_next rfl

/-- Passing over values. The induction is on the number of bytes, of which every round takes some. -/
theorem keepsText_passWithin (stack : List Enclosure) (hinput : IsText input) (h : input.length ≤ bound) :
    (passWithin stack input h).KeepsText := by
  induction hn : input.length using Nat.strongRecOn generalizing input stack with
  | ind n ih =>
    have hhead := keepsText_passHead input hinput
    rw [passWithin]
    generalize passHead input = x at hhead ⊢
    cases x with
    | error fault => exact hhead
    | ok head =>
      have hsettle := keepsText_settle head.value.isSome (head.value.toList ++ stack) hhead head.shorter
      simp only
      generalize settle head.value.isSome (head.value.toList ++ stack) head.rest head.shorter = y at hsettle ⊢
      cases y with
      | error fault => exact hsettle
      | ok p =>
        simp only
        split
        · exact hsettle
        · next inner _ =>
          have hless : p.rest.length < n := hn ▸ p.shorter
          exact ih p.rest.length hless inner hsettle _ rfl

theorem keepsText_pass : Reader.KeepsText pass :=
  fun _ hinput => keepsText_passWithin [] hinput _

end Passing

section Sequences

variable {tracking : Tracking} {item : Reader α} {input : Bytes}

theorem keepsText_nextItem (first : Bool) (hinput : IsText input) : (nextItem first input).KeepsText := by
  have hskip := isText_skipBlanks hinput
  simp only [nextItem]
  split
  · exact keepsText_next rfl
  · next b rest hrest =>
    rw [hrest] at hskip
    split
    · next hb => exact isText_behind rfl hb hskip
    split
    · exact hskip
    split
    · next hb =>
      split
      · exact keepsText_next rfl
      split
      · exact keepsText_next rfl
      · exact isText_behind rfl hb hskip
    · exact keepsText_next rfl

theorem keepsText_items (hitem : item.KeepsText) (hinput : IsText input) (h : input.length ≤ bound) (done : List α) :
    (items tracking item input h done).KeepsText := by
  induction hn : input.length using Nat.strongRecOn generalizing input done with
  | ind n ih =>
    have hnext : ((nextItem done.isEmpty input).within tracking (.index done.length)).KeepsText :=
      keepsText_within (keepsText_nextItem done.isEmpty hinput)
    rw [items]
    generalize (nextItem done.isEmpty input).within tracking (.index done.length) = x at hnext ⊢
    cases x with
    | error fault => exact hnext
    | ok more =>
      simp only
      split
      · have hpart : ((item more.rest).within tracking (.index done.length)).KeepsText :=
          keepsText_within (hitem more.rest hnext)
        generalize (item more.rest).within tracking (.index done.length) = y at hpart ⊢
        cases y with
        | error fault => exact hpart
        | ok p =>
          have hless : p.rest.length < n := by
            have := p.shorter
            have := more.shorter
            omega
          exact ih p.rest.length hless hpart _ _ rfl
      · exact hnext

theorem keepsText_key {b : UInt8} {rest : Bytes} (h : IsText (b :: rest)) : (nextKey.key b rest).KeepsText := by
  simp only [nextKey.key]
  split
  · next hb => exact keepsText_afterFirst (keepsText_map (keepsText_text rest (isText_behind rfl hb h)))
  · exact keepsText_next rfl

theorem keepsText_nextKey (first : Bool) (hinput : IsText input) : (nextKey first input).KeepsText := by
  refine keepsText_afterBlanks rfl (fun b rest h => ?_) input hinput
  split
  · next hb => exact keepsText_before (isText_behind rfl hb h)
  split
  · exact keepsText_key h
  split
  · next hb =>
    have hrest : IsText rest := isText_behind rfl hb h
    refine keepsText_afterFirst (keepsText_afterBlanks rfl (fun c others hc => ?_) rest hrest)
    split
    · exact keepsText_next rfl
    · exact keepsText_key hc
  · exact keepsText_next rfl

/-- Members end within a text if each of them does and what ends them says nothing of the encoding. -/
theorem keepsText_members {member : σ → String → Reader σ} {finish : σ → Except Cause α}
    (hmember : ∀ state name, (member state name).KeepsText)
    (hfinish : ∀ state cause, finish state = .error cause → cause.isBrokenText = false) (first : Bool) (state : σ)
    (hinput : IsText input) (h : input.length ≤ bound) :
    (members tracking member finish first state input h).KeepsText := by
  induction hn : input.length using Nat.strongRecOn generalizing input first state with
  | ind n ih =>
    have hkey : ((nextKey first input).within tracking .unread).KeepsText :=
      keepsText_within (keepsText_nextKey first hinput)
    rw [members]
    generalize (nextKey first input).within tracking .unread = x at hkey ⊢
    cases x with
    | error fault => exact hkey
    | ok key =>
      simp only
      split
      · split
        · exact hkey
        · next cause hcause => exact keepsText_here (hfinish state cause hcause)
      · next name _ =>
        have hpart := hmember state name key.rest hkey
        generalize member state name key.rest = y at hpart ⊢
        cases y with
        | error fault => exact hpart
        | ok p =>
          have hless : p.rest.length < n := by
            have := p.shorter
            have := key.shorter
            omega
          exact ih p.rest.length hless false p.value hpart _ rfl

theorem keepsText_entries (put : σ → String → α → σ) (start : σ) (hitem : item.KeepsText) (hinput : IsText input) :
    (entries tracking put start item input).KeepsText :=
  keepsText_afterFirst (keepsText_members
    (fun _ _ input hinput => keepsText_map (keepsText_memberValue hitem input hinput)) (fun _ _ h => by cases h) _ _
    hinput _)

theorem keepsText_valueOver {inner : Option (Reader Value)} (hinner : ∀ r ∈ inner, Reader.KeepsText r) :
    (valueOver tracking inner).KeepsText := by
  refine keepsText_afterBlanks rfl fun first rest h => ?_
  split
  · next hfirst => exact keepsText_wordValue rfl (isText_behind rfl hfirst h)
  split
  · next hfirst => exact keepsText_wordValue rfl (isText_behind rfl hfirst h)
  split
  · next hfirst => exact keepsText_wordValue rfl (isText_behind rfl hfirst h)
  split
  · next hfirst =>
    have hrest : IsText rest := isText_behind rfl hfirst h
    exact keepsText_afterFirst (keepsText_map (keepsText_number rest hrest))
  split
  · exact keepsText_map (keepsText_number (first :: rest) h)
  split
  · next hfirst =>
    have hrest : IsText rest := isText_behind rfl hfirst h
    exact keepsText_afterFirst (keepsText_map (keepsText_text rest hrest))
  split
  · next hfirst =>
    have hrest : IsText rest := isText_behind rfl hfirst h
    cases inner with
    | none => exact keepsText_next rfl
    | some r => exact keepsText_map (keepsText_items (hinner r rfl) hrest _ [])
  split
  · next hfirst =>
    have hrest : IsText rest := isText_behind rfl hfirst h
    cases inner with
    | none => exact keepsText_next rfl
    | some r => exact keepsText_map (keepsText_entries _ _ (hinner r rfl) hrest)
  · exact keepsText_next rfl

/-- Values of any shape end within a text. The induction is on the levels. -/
theorem keepsText_value (levels : Nat) : (value tracking levels).KeepsText := by
  induction levels with
  | zero =>
    refine keepsText_valueOver fun r hr => ?_
    cases hr
  | succ fewer ih =>
    refine keepsText_valueOver fun r hr => ?_
    cases hr
    exact ih

end Sequences

section Readers

variable {tracking : Tracking} {item : Nat → Reader α} {rest : Bytes} {first : UInt8} {wanted : String}

theorem cause_of_wrongKind {found : α → Found} {x : Outcome bound α} (h : x.KeepsText) :
    (wrongKind wanted found x).cause.isBrokenText = false := by
  cases x with
  | ok p => exact rfl
  | error fault => exact h

/-- A value of another kind is not found broken. -/
theorem cause_of_mismatch (h : IsText (first :: rest)) : (mismatch wanted first rest).cause.isBrokenText = false := by
  simp only [mismatch]
  split
  · next hfirst =>
    exact cause_of_wrongKind (keepsText_wordValue rfl (isText_behind rfl hfirst h))
  split
  · next hfirst =>
    exact cause_of_wrongKind (keepsText_wordValue rfl (isText_behind rfl hfirst h))
  split
  · next hfirst =>
    exact cause_of_wrongKind (keepsText_wordValue rfl (isText_behind rfl hfirst h))
  split
  · next hfirst => exact cause_of_wrongKind (keepsText_number rest (isText_behind rfl hfirst h))
  split
  · exact cause_of_wrongKind (keepsText_number (first :: rest) h)
  split
  · next hfirst => exact cause_of_wrongKind (keepsText_text rest (isText_behind rfl hfirst h))
  split
  · exact rfl
  split
  · exact rfl
  · exact rfl

theorem keepsText_mismatch (h : IsText (first :: rest)) :
    Outcome.KeepsText (.error (mismatch wanted first rest) : Outcome bound α) :=
  cause_of_mismatch h

theorem keepsText_deeper {levels : Nat} {opening : Bytes} {inside : Nat → Outcome bound α}
    (h : ∀ fewer, (inside fewer).KeepsText) : (deeper levels opening inside).KeepsText := by
  cases levels with
  | zero => exact keepsText_next rfl
  | succ fewer => exact h fewer

theorem keepsText_readText : Reader.KeepsText readText := by
  refine keepsText_afterBlanks rfl fun first rest h => ?_
  split
  · next hfirst => exact keepsText_afterFirst (keepsText_text rest (isText_behind rfl hfirst h))
  · exact keepsText_mismatch h

theorem keepsText_readTruth : Reader.KeepsText readTruth := by
  refine keepsText_afterBlanks rfl fun first rest h => ?_
  split
  · next hfirst => exact keepsText_wordValue rfl (isText_behind rfl hfirst h)
  split
  · next hfirst => exact keepsText_wordValue rfl (isText_behind rfl hfirst h)
  · exact keepsText_mismatch h

theorem keepsText_bounded {convert : Int → Option α} {x : Outcome bound Number} (h : x.KeepsText) :
    (bounded wanted convert x).KeepsText := by
  cases x with
  | error fault => exact h
  | ok p =>
    simp only [bounded]
    split
    · exact keepsText_here rfl
    split
    · exact h
    · exact keepsText_here rfl

theorem keepsText_readInteger {convert : Int → Option α} : (readInteger wanted convert).KeepsText := by
  refine keepsText_afterBlanks rfl fun first rest h => ?_
  split
  · next hfirst =>
    have hrest : IsText rest := isText_behind rfl hfirst h
    exact keepsText_afterFirst (keepsText_bounded (keepsText_number rest hrest))
  split
  · exact keepsText_bounded (keepsText_number (first :: rest) h)
  · exact keepsText_mismatch h

theorem keepsText_readOptional {inner : Reader α} (hinner : inner.KeepsText) : (readOptional inner).KeepsText := by
  refine keepsText_afterBlanks rfl fun first rest h => ?_
  split
  · next hfirst => exact keepsText_wordValue rfl (isText_behind rfl hfirst h)
  · exact keepsText_map (hinner (first :: rest) h)

theorem keepsText_readList (hitem : ∀ levels, (item levels).KeepsText) (levels : Nat) :
    (readList tracking item levels).KeepsText := by
  refine keepsText_afterBlanks rfl fun first rest h => ?_
  split
  · next hfirst =>
    have hrest : IsText rest := isText_behind rfl hfirst h
    exact keepsText_deeper fun fewer => keepsText_items (hitem fewer) hrest _ []
  · exact keepsText_mismatch h

theorem keepsText_readEntries (put : σ → String → α → σ) (start : σ) (hitem : ∀ levels, (item levels).KeepsText)
    (levels : Nat) : (readEntries tracking put start item levels).KeepsText := by
  refine keepsText_afterBlanks rfl fun first rest h => ?_
  split
  · next hfirst =>
    have hrest : IsText rest := isText_behind rfl hfirst h
    exact keepsText_deeper fun fewer => keepsText_entries put start (hitem fewer) hrest
  · exact keepsText_mismatch h

theorem keepsText_readVariantName (names : List String) : (readVariantName names).KeepsText := by
  refine keepsText_afterBlanks rfl fun first rest h => ?_
  split
  · next hfirst =>
    have hname := keepsText_text rest (isText_behind rfl hfirst h)
    generalize text rest = x at hname ⊢
    cases x with
    | error fault => exact hname
    | ok p =>
      simp only
      split
      · exact hname
      · exact keepsText_here rfl
  · exact keepsText_mismatch h

theorem keepsText_readUnit : Reader.KeepsText readUnit := by
  refine keepsText_afterBlanks rfl fun first rest h => ?_
  split
  · next hfirst => exact keepsText_wordValue rfl (isText_behind rfl hfirst h)
  · exact keepsText_mismatch h

theorem keepsText_readVariantEnd : Reader.KeepsText readVariantEnd := by
  intro input hinput
  have hskip := isText_skipBlanks hinput
  simp only [readVariantEnd]
  split
  · exact keepsText_here rfl
  · next first rest hrest =>
    rw [hrest] at hskip
    split
    · next hfirst => exact isText_behind rfl hfirst hskip
    · exact keepsText_here rfl

theorem keepsText_readVariant (names : List String) (levels : Nat) : (readVariant names levels).KeepsText := by
  refine keepsText_afterBlanks rfl fun first rest h => ?_
  split
  · exact keepsText_readVariantName names (first :: rest) h
  split
  · next hfirst =>
    have hrest : IsText rest := isText_behind rfl hfirst h
    refine keepsText_deeper fun _ => keepsText_afterFirst ?_
    refine keepsText_andThen (keepsText_readVariantName names rest hrest) fun i input hinput => ?_
    have hunit : ((colon.andThen fun _ => readUnit) input).KeepsText :=
      keepsText_andThen (keepsText_colon input hinput) fun _ => keepsText_readUnit
    exact keepsText_map (keepsText_andThen hunit fun _ => keepsText_readVariantEnd)
  · exact keepsText_next rfl

theorem keepsText_recordMember {slot : σ → String → Slot σ}
    (hslot : ∀ slots name r, slot slots name = .free r → r.KeepsText) (slots : σ) (name : String) :
    (recordMember tracking slot slots name).KeepsText := by
  simp only [recordMember]
  split
  · exact fun input hinput => keepsText_map (keepsText_memberValue keepsText_pass input hinput)
  · exact fun input _ => keepsText_here rfl
  · next r hr => exact keepsText_memberValue (hslot slots name r hr)

theorem keepsText_readRowEnd : Reader.KeepsText readRowEnd := by
  intro input hinput
  have hskip := isText_skipBlanks hinput
  simp only [readRowEnd]
  split
  · exact keepsText_next rfl
  · next first rest hrest =>
    rw [hrest] at hskip
    split
    · next hfirst => exact isText_behind rfl hfirst hskip
    split
    · split
      · exact keepsText_next rfl
      split
      · exact keepsText_next rfl
      · exact keepsText_next rfl
    · exact keepsText_next rfl

theorem keepsText_readRowField {read : Reader α} (place : RowPlace) (hread : read.KeepsText) :
    Reader.KeepsText (readRowField tracking place read) := by
  intro input hinput
  have hnext : ((nextItem (place.index = 0) input).within tracking (.index place.index)).KeepsText :=
    keepsText_within (keepsText_nextItem _ hinput)
  simp only [readRowField]
  generalize (nextItem (place.index = 0) input).within tracking (.index place.index) = x at hnext ⊢
  cases x with
  | error fault => exact hnext
  | ok more =>
    simp only
    split
    · exact keepsText_widen (keepsText_within (hread more.rest hnext))
    · exact keepsText_here rfl

/-- A record that lacks a field is not broken. -/
theorem Fields.cause_of_complete {cause : Cause} :
    (fields : Fields) → (slots : fields.Slots) → fields.complete slots = .error cause → cause.isBrokenText = false
  | .none, (), h => by cases h
  | .field name schema others, (slot, slots), h => by
    simp only [Fields.complete] at h
    split at h
    · cases h
      rfl
    split at h
    · cases h
    · next hcomplete =>
      cases h
      exact others.cause_of_complete slots hcomplete

end Readers

section Schemas

variable {tracking : Tracking}

mutual

/-- The readers of a schema stop between characters, and never find broken ones. -/
theorem Schema.keepsText_read (schema : Schema) (levels : Nat) : (schema.read tracking levels).KeepsText := by
  cases schema with
  | text => exact keepsText_readText
  | truth => exact keepsText_readTruth
  | int64 => exact keepsText_readInteger
  | uint32 => exact keepsText_readInteger
  | optional inner => exact keepsText_readOptional (inner.keepsText_read levels)
  | list item => exact keepsText_readList item.keepsText_read levels
  | dictionary => exact keepsText_readEntries _ _ (fun _ => keepsText_readText) levels
  | object => exact keepsText_readEntries _ _ keepsText_value levels
  | variant names => exact keepsText_readVariant names levels
  | record name fields =>
    refine keepsText_afterBlanks rfl fun first rest h => ?_
    split
    · next hfirst =>
      have hrest : IsText rest := isText_behind rfl hfirst h
      exact keepsText_deeper fun fewer => keepsText_afterFirst (fields.keepsText_readRow fewer _ rest hrest)
    split
    · next hfirst =>
      have hrest : IsText rest := isText_behind rfl hfirst h
      refine keepsText_deeper fun fewer => keepsText_afterFirst ?_
      exact keepsText_members (keepsText_recordMember (fields.keepsText_slot fewer))
        (fun slots cause => fields.cause_of_complete slots) true fields.free hrest _
    · exact keepsText_mismatch h

theorem Fields.keepsText_slot (fields : Fields) (levels : Nat) (slots : fields.Slots) (key : String)
    (r : Reader fields.Slots) (hr : fields.slot tracking levels slots key = .free r) : r.KeepsText := by
  cases fields with
  | none => cases hr
  | field name schema others =>
    simp only [Fields.slot] at hr
    split at hr
    · split at hr
      · cases hr
      · cases hr
        exact fun input hinput => keepsText_map (schema.keepsText_read levels input hinput)
    split at hr
    · cases hr
    · cases hr
    · next read hread =>
      cases hr
      exact fun input hinput => keepsText_map (others.keepsText_slot levels slots.2 key read hread input hinput)

theorem Fields.keepsText_readRow (fields : Fields) (levels : Nat) (place : RowPlace) :
    (fields.readRow tracking levels place).KeepsText := by
  cases fields with
  | none => exact keepsText_readRowEnd
  | field name schema others =>
    intro input hinput
    have hfield : (readRowField tracking place (schema.read tracking levels) input).KeepsText :=
      keepsText_readRowField place (schema.keepsText_read levels) input hinput
    simp only [Fields.readRow]
    refine keepsText_andThen hfield fun v later hlater => ?_
    exact keepsText_map (others.keepsText_readRow levels _ later hlater)

end

end Schemas

/-- No report about a text says that it is none. -/
theorem Schema.cause_of_readWhole {tracking : Tracking} {schema : Schema} {source : Bytes} {fault : Fault}
    (hsource : IsText source) (h : schema.readWhole tracking source = .error fault) : fault.cause.isBrokenText = false := by
  have hread : (schema.read tracking deepest source).KeepsText := schema.keepsText_read deepest source hsource
  simp only [Schema.readWhole] at h
  generalize schema.read tracking deepest source = x at h hread
  cases x with
  | error first =>
    cases h
    exact hread
  | ok p =>
    simp only at h
    split at h
    · cases h
    · cases h
      rfl

/-- What is wrong with a text is never that it is none. -/
theorem cause_ne_notUtf8 [Described α] {tracking : Tracking} {source : String} {report : Report}
    (h : decodeWith tracking α (Text.bytes source) = .error report) : report.cause ≠ .notUtf8 := by
  simp only [decodeWith, Schema.decode] at h
  cases hwhole : (Described.schema α).readWhole tracking (Text.bytes source) with
  | ok v =>
    rw [hwhole] at h
    cases h
  | error fault =>
    rw [hwhole] at h
    cases h
    have hintact : fault.cause.isBrokenText = false := Schema.cause_of_readWhole (isText_bytes source) hwhole
    intro hcause
    have hbroken : fault.cause = .notUtf8 := hcause
    rw [hbroken] at hintact
    cases hintact

end Json

end ChatOpening
