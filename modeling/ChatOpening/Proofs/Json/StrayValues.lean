import ChatOpening.Proofs.Json.Fitting
import ChatOpening.Proofs.Json.Stray

/-!
# Reading values among stray bytes

Whatever is wanted, it makes no difference whether stray bytes are marked.  So any bytes at all are read as the text is
that they become when they are marked.

**Input.**  Any bytes.

**Results.**
* `mirrors_pass`: values that are passed over.
* `Schema.mirrors_read`: the readers of a schema.
* `Schema.decode_marked_iff`: the same elements are decoded.
-/

namespace ChatOpening

namespace Json

open Text

variable {α β σ : Type} {bound larger : Nat}

section Passing

variable {input rest : Bytes}

theorem mirrors_passHead : Reader.Mirrors passHead := by
  refine mirrors_afterBlanks (fun first rest hfirst => ?_) fun first rest hfirst => ?_
  · refine .ite (fun _ => mirrors_wordValue rfl rest) fun _ => ?_
    refine .ite (fun _ => mirrors_wordValue rfl rest) fun _ => ?_
    refine .ite (fun _ => mirrors_wordValue rfl rest) fun _ => ?_
    refine .ite (fun _ => ((mirrors_numeral _ _ rest).map _).afterFirst) fun _ => ?_
    refine .ite (fun _ => ?_) fun _ => ?_
    · have hnumeral := mirrors_numeral .badNumeral false (first :: rest)
      rw [marked_low hfirst] at hnumeral
      exact hnumeral.map _
    refine .ite (fun _ => ((mirrors_passText _ _).map _).afterFirst) fun _ => ?_
    exact .ite (fun _ => .ok _ _) fun _ => .ite (fun _ => .ok _ _) fun _ => .error _ _
  · simp [hfirst.ne, not_isDigit_of_foreign hfirst, quoteMark]

theorem mirrors_passKey : Reader.Mirrors passKey := by
  refine Reader.Mirrors.andThen (mirrors_afterBlanks (fun first rest _ => ?_) fun first rest hfirst => ?_) fun _ =>
    mirrors_colon
  · split
    · exact (mirrors_passText _ _).afterFirst
    · exact .error _ _
  · simp [hfirst.ne, quoteMark]

theorem mirrors_passToPart (enclosure : Enclosure) (input : Bytes) :
    Outcome.Mirrors (passToPart enclosure input) (passToPart enclosure (marked input)) := by
  cases enclosure with
  | list => exact .ok _ _
  | object => exact (mirrors_passKey input).afterFirst

section Settling

variable {fresh : Bool} {enclosure : Enclosure} {outer : List Enclosure} {first : UInt8} {h : input.length < bound}

theorem settle_nil (hskip : skipBlanks input = []) :
    settle fresh (enclosure :: outer) input h = .error (.next enclosure.ending []) := by
  rw [settle]
  split
  · rfl
  · next hsome => cases hskip.symm.trans hsome

theorem settle_cons (hskip : skipBlanks input = first :: rest) :
    settle fresh (enclosure :: outer) input h =
      if first = enclosure.closing then settle false outer rest (length_succ_le hskip h)
      else if fresh then
        ((passToPart enclosure (first :: rest)).map fun _ => some (enclosure :: outer)).widen (length_cons_succ_le hskip h)
      else if first = comma then
        ((passToPart enclosure rest).map fun _ => some (enclosure :: outer)).widen (length_succ_le hskip h)
      else .error (.next enclosure.noComma (first :: rest)) := by
  rw [settle]
  split
  · next hnone => cases hskip.symm.trans hnone
  · next hsome =>
    cases hskip.symm.trans hsome
    rfl

end Settling

theorem ne_closing_of_foreign {first : UInt8} (h : IsForeign first) (enclosure : Enclosure) :
    first ≠ enclosure.closing := by
  cases enclosure with
  | list => exact h.ne (by decide) (by decide)
  | object => exact h.ne (by decide) (by decide)

/-- What is behind a value is settled alike. The induction is on the open lists and objects. -/
theorem mirrors_settle (fresh : Bool) (stack : List Enclosure) (h : input.length < bound)
    (h' : (marked input).length < larger) :
    Outcome.Mirrors (settle fresh stack input h) (settle fresh stack (marked input) h') := by
  induction stack generalizing fresh input with
  | nil => exact .ok _ _
  | cons enclosure outer ih =>
    rcases skipBlanks_cases input with ⟨hx, hy⟩ | ⟨b, rest, hb, hx, hy⟩ | ⟨b, rest, c, more, hb, hc, hx, hy⟩
    · rw [settle_nil hx, settle_nil hy]
      exact .error _ _
    · rw [settle_cons hx, settle_cons hy]
      split
      · exact ih false _ _
      have hpart := mirrors_passToPart enclosure (b :: rest)
      rw [marked_low hb] at hpart
      split
      · exact (hpart.map _).widen _ _
      split
      · exact ((mirrors_passToPart enclosure rest).map _).widen _ _
      · exact .error _ _
    · have hpart := mirrors_passToPart enclosure (b :: rest)
      rw [← hx, ← skipBlanks_marked, hx, hy] at hpart
      rw [settle_cons hx, settle_cons hy, if_neg (ne_closing_of_foreign hb enclosure),
        if_neg (ne_closing_of_foreign hc enclosure), if_neg (hb.ne (by decide) (by decide)),
        if_neg (hc.ne (by decide) (by decide))]
      split
      · exact (hpart.map _).widen _ _
      · exact .error _ _

/-- Passing over values. The induction is on the number of bytes, of which every round takes some. -/
theorem mirrors_passWithin (stack : List Enclosure) (h : input.length ≤ bound) (h' : (marked input).length ≤ larger) :
    Outcome.Mirrors (passWithin stack input h) (passWithin stack (marked input) h') := by
  induction hn : input.length using Nat.strongRecOn generalizing input stack with
  | ind n ih =>
    have hhead := mirrors_passHead input
    rw [passWithin, passWithin]
    generalize passHead input = x at hhead ⊢
    generalize passHead (marked input) = y at hhead ⊢
    cases hhead with
    | error f g => exact .error f g
    | @ok head rest hshorter hshorter' =>
      have hsettle := mirrors_settle head.isSome (head.toList ++ stack) hshorter hshorter'
      simp only
      generalize settle head.isSome (head.toList ++ stack) rest hshorter = x at hsettle ⊢
      generalize settle head.isSome (head.toList ++ stack) (marked rest) hshorter' = y at hsettle ⊢
      cases hsettle with
      | error f g => exact .error f g
      | @ok inner more hless _ =>
        cases inner with
        | none => exact .ok _ _
        | some inner => exact ih more.length (hn ▸ hless) inner _ _ rfl

/-- Values of any shape are passed over alike. -/
theorem mirrors_pass : Reader.Mirrors pass :=
  fun _ => mirrors_passWithin [] _ _

end Passing

section Sequences

variable {tracking : Tracking} {r : Reader α} {input : Bytes}

section NextItem

variable {fresh : Bool} {b : UInt8} {rest : Bytes}

theorem nextItem_nil (hskip : skipBlanks input = []) : nextItem fresh input = .error (.next .endInList []) := by
  simp only [nextItem]
  split
  · rfl
  · next hsome => cases hskip.symm.trans hsome

/-- How the next item is found, by the first byte that is no blank. -/
theorem nextItem_cons (hskip : skipBlanks input = b :: rest) :
    nextItem fresh input =
      if b = 0x5D then .ok ⟨false, rest, length_lt_succ_of_skipBlanks hskip⟩
      else if fresh then .ok ⟨true, b :: rest, length_cons_lt_of_skipBlanks hskip⟩
      else if b = comma then
        match skipBlanks rest with
        | [] => .error (.next .endInValue [])
        | c :: others =>
          if c = 0x5D then .error (.next .commaBeforeEnd (c :: others))
          else .ok ⟨true, rest, length_lt_succ_of_skipBlanks hskip⟩
      else .error (.next .expectedCommaOrBracket (b :: rest)) := by
  simp only [nextItem]
  split
  · next hnone => cases hskip.symm.trans hnone
  · next hsome =>
    cases hskip.symm.trans hsome
    rfl

end NextItem

/-- The next item is found alike. -/
theorem mirrors_nextItem (fresh : Bool) (input : Bytes) :
    Outcome.Mirrors (nextItem fresh input) (nextItem fresh (marked input)) := by
  rcases skipBlanks_cases input with ⟨hx, hy⟩ | ⟨b, rest, hb, hx, hy⟩ | ⟨b, rest, c, more, hb, hc, hx, hy⟩
  · rw [nextItem_nil hx, nextItem_nil hy]
    exact .error _ _
  · rw [nextItem_cons hx, nextItem_cons hy]
    split
    · exact .ok _ _
    split
    · exact .of_rest (marked_low hb rest).symm _ _
    split
    · rcases skipBlanks_cases rest with ⟨hx, hy⟩ | ⟨c, others, -, hx, hy⟩ | ⟨c, others, d, more, hc, hd, hx, hy⟩
      · simp only [hx, hy]
        exact .error _ _
      · simp only [hx, hy]
        split
        · exact .error _ _
        · exact .ok _ _
      · simp only [hx, hy, if_neg (hc.ne (c := 0x5D) (by decide) (by decide)),
          if_neg (hd.ne (c := 0x5D) (by decide) (by decide))]
        exact .ok _ _
    · exact .error _ _
  · have hfront : c :: more = marked (b :: rest) := by
      rw [← hy, skipBlanks_marked, hx]
    rw [nextItem_cons hx, nextItem_cons hy, if_neg (hb.ne (by decide) (by decide)), if_neg (hc.ne (by decide) (by decide)),
      if_neg (hb.ne (by decide) (by decide)), if_neg (hc.ne (by decide) (by decide))]
    split
    · exact .of_rest hfront _ _
    · exact .error _ _

/-- The items of a list. The induction is on the number of bytes, of which every item takes some. -/
theorem mirrors_items (hitem : r.Mirrors) (h : input.length ≤ bound) (h' : (marked input).length ≤ larger)
    (done : List α) :
    Outcome.Mirrors (items tracking r input h done) (items tracking r (marked input) h' done) := by
  induction hn : input.length using Nat.strongRecOn generalizing input done with
  | ind n ih =>
    rw [items, items]
    have hmore : Outcome.Mirrors ((nextItem done.isEmpty input).within tracking (.index done.length))
        ((nextItem done.isEmpty (marked input)).within tracking (.index done.length)) :=
      (mirrors_nextItem done.isEmpty input).within
    generalize (nextItem done.isEmpty input).within tracking (.index done.length) = x at hmore ⊢
    generalize (nextItem done.isEmpty (marked input)).within tracking (.index done.length) = y at hmore ⊢
    cases hmore with
    | error f g => exact .error f g
    | @ok goesOn rest hrest _ =>
      cases goesOn with
      | false => exact .ok _ _
      | true =>
        have hfirst : Outcome.Mirrors ((r rest).within tracking (.index done.length))
            ((r (marked rest)).within tracking (.index done.length)) :=
          (hitem rest).within
        simp only [if_true]
        generalize (r rest).within tracking (.index done.length) = x at hfirst ⊢
        generalize (r (marked rest)).within tracking (.index done.length) = y at hfirst ⊢
        cases hfirst with
        | error f g => exact .error f g
        | @ok a behind hbehind _ => exact ih behind.length (by omega) _ _ _ rfl

theorem mirrors_key {b : UInt8} (rest : Bytes) :
    Outcome.Mirrors (nextKey.key b rest) (nextKey.key b (marked rest)) := by
  simp only [nextKey.key]
  split
  · exact ((mirrors_text rest).map some).afterFirst
  · exact .error _ _

theorem key_of_foreign {b : UInt8} (h : IsForeign b) (rest : Bytes) :
    ∃ fault, nextKey.key b rest = .error fault := by
  simp [nextKey.key, h.ne, quoteMark]

theorem mirrors_nextKey (first : Bool) : ∀ input, Outcome.Mirrors (nextKey first input) (nextKey first (marked input)) := by
  refine mirrors_afterBlanks (fun b rest hb => ?_) fun b rest hb => ?_
  · split
    · exact .ok _ _
    split
    · exact mirrors_key rest
    split
    · refine (mirrors_afterBlanks (fun c others hc => ?_) (fun c others hc => ?_) rest).afterFirst
      · split
        · exact .error _ _
        · exact mirrors_key others
      · rw [if_neg (hc.ne (by decide) (by decide))]
        exact key_of_foreign hc others
    · exact .error _ _
  · rw [if_neg (hb.ne (by decide) (by decide)), if_neg (hb.ne (by decide) (by decide))]
    split
    · exact key_of_foreign hb rest
    · exact ⟨_, rfl⟩

/-- The members of an object, likewise. -/
theorem mirrors_members {member : σ → String → Reader σ} (hmember : ∀ state name, (member state name).Mirrors)
    (finish : σ → Except Cause α) (first : Bool) (state : σ) (h : input.length ≤ bound)
    (h' : (marked input).length ≤ larger) :
    Outcome.Mirrors (members tracking member finish first state input h)
      (members tracking member finish first state (marked input) h') := by
  induction hn : input.length using Nat.strongRecOn generalizing input first state with
  | ind n ih =>
    have hkey : Outcome.Mirrors ((nextKey first input).within tracking .unread)
        ((nextKey first (marked input)).within tracking .unread) :=
      (mirrors_nextKey first input).within
    rw [members, members]
    generalize (nextKey first input).within tracking .unread = x at hkey ⊢
    generalize (nextKey first (marked input)).within tracking .unread = y at hkey ⊢
    cases hkey with
    | error f g => exact .error f g
    | @ok key rest hrest _ =>
      cases key with
      | none =>
        simp only
        cases finish state with
        | ok a => exact .ok _ _
        | error cause => exact .error _ _
      | some name =>
        have hvalue := hmember state name rest
        simp only
        generalize member state name rest = x at hvalue ⊢
        generalize member state name (marked rest) = y at hvalue ⊢
        cases hvalue with
        | error f g => exact .error f g
        | @ok next behind hbehind _ => exact ih behind.length (by omega) false next _ _ rfl

theorem mirrors_entries (put : σ → String → α → σ) (start : σ) (h : r.Mirrors) (input : Bytes) :
    Outcome.Mirrors (entries tracking put start r input) (entries tracking put start r (marked input)) :=
  (mirrors_members (fun done name => (mirrors_memberValue tracking name h).map fun v => put done name v)
    _ _ _ _ _).afterFirst

theorem mirrors_valueOver {inner : Option (Reader Value)} (hinner : ∀ r ∈ inner, Reader.Mirrors r) :
    Reader.Mirrors (valueOver tracking inner) := by
  refine mirrors_afterBlanks (fun first rest hfirst => ?_) fun first rest hfirst => ?_
  · refine .ite (fun _ => mirrors_wordValue rfl rest) fun _ => ?_
    refine .ite (fun _ => mirrors_wordValue rfl rest) fun _ => ?_
    refine .ite (fun _ => mirrors_wordValue rfl rest) fun _ => ?_
    refine .ite (fun _ => ((mirrors_number _ rest).map _).afterFirst) fun _ => ?_
    refine .ite (fun _ => ?_) fun _ => ?_
    · have hnumber := mirrors_number false (first :: rest)
      rw [marked_low hfirst] at hnumber
      exact hnumber.map _
    refine .ite (fun _ => ((mirrors_text rest).map _).afterFirst) fun _ => ?_
    refine .ite (fun _ => ?_) fun _ => .ite (fun _ => ?_) fun _ => .error _ _
    · cases inner with
      | none => exact .error _ _
      | some item => exact (mirrors_items (hinner item rfl) _ _ []).map _
    · cases inner with
      | none => exact .error _ _
      | some value => exact (mirrors_entries putMember [] (hinner value rfl) rest).map _
  · simp [hfirst.ne, not_isDigit_of_foreign hfirst, quoteMark]

/-- Values of any shape are read alike. The induction is on the levels. -/
theorem mirrors_value (levels : Nat) : Reader.Mirrors (value tracking levels) := by
  induction levels with
  | zero => exact mirrors_valueOver fun r hr => nomatch hr
  | succ fewer ih =>
    refine mirrors_valueOver fun r hr => ?_
    cases hr
    exact ih

end Sequences

section Readers

variable {tracking : Tracking} {r : Reader α} {rest : Bytes} {wanted : String} {levels : Nat}

theorem mirrors_deeper {opening opening' : Bytes} {inside : Nat → Outcome bound α} {inside' : Nat → Outcome larger α}
    (h : ∀ fewer, Outcome.Mirrors (inside fewer) (inside' fewer)) :
    Outcome.Mirrors (deeper levels opening inside) (deeper levels opening' inside') := by
  cases levels with
  | zero => exact .error _ _
  | succ fewer => exact h fewer

theorem mirrors_readText : Reader.Mirrors readText := by
  refine mirrors_afterBlanks (fun first rest _ => ?_) fun first rest hfirst => ?_
  · split
    · exact (mirrors_text rest).afterFirst
    · exact .error _ _
  · rw [if_neg (hfirst.ne (by decide) (by decide))]
    exact ⟨_, rfl⟩

theorem mirrors_readTruth : Reader.Mirrors readTruth := by
  refine mirrors_afterBlanks (fun first rest _ => ?_) fun first rest hfirst => ?_
  · split
    · exact mirrors_wordValue rfl rest
    split
    · exact mirrors_wordValue rfl rest
    · exact .error _ _
  · rw [if_neg (hfirst.ne (by decide) (by decide)), if_neg (hfirst.ne (by decide) (by decide))]
    exact ⟨_, rfl⟩

/-- Numbers in bounds are mirrored if the numbers are. -/
theorem mirrors_bounded {convert : Int → Option α} {x : Outcome bound Number} {y : Outcome larger Number}
    (h : Outcome.Mirrors x y) : Outcome.Mirrors (bounded wanted convert x) (bounded wanted convert y) := by
  cases h with
  | error f g => exact .error f g
  | @ok n rest _ _ =>
    cases n with
    | fraction q => exact .error _ _
    | integer i =>
      simp only [bounded]
      split
      · exact .ok _ _
      · exact .error _ _

theorem mirrors_readInteger (wanted : String) (convert : Int → Option α) : Reader.Mirrors (readInteger wanted convert) := by
  refine mirrors_afterBlanks (fun first rest hfirst => ?_) fun first rest hfirst => ?_
  · split
    · exact (mirrors_bounded (mirrors_number true rest)).afterFirst
    split
    · have hnumber := mirrors_number false (first :: rest)
      rw [marked_low hfirst] at hnumber
      exact mirrors_bounded hnumber
    · exact .error _ _
  · rw [if_neg (hfirst.ne (by decide) (by decide)), not_isDigit_of_foreign hfirst]
    exact ⟨_, rfl⟩

/-- What is not null is left to another reader, whatever it starts with. -/
theorem mirrors_readOptional (h : r.Mirrors) : Reader.Mirrors (readOptional r) := by
  refine mirrors_afterBlanks_of (fun first rest hfirst => ?_) fun first rest other more hfirst hother hmore => ?_
  · have hsome := h (first :: rest)
    rw [marked_low hfirst] at hsome
    split
    · exact mirrors_wordValue rfl rest
    · exact hsome.map some
  · have hsome := h (first :: rest)
    rw [hmore] at hsome
    rw [if_neg (hfirst.ne (by decide) (by decide)), if_neg (hother.ne (by decide) (by decide))]
    exact hsome.map some

/-- Lists are mirrored if their items are. -/
theorem mirrors_readList {item : Nat → Reader α} (h : ∀ levels, (item levels).Mirrors) (levels : Nat) :
    Reader.Mirrors (readList tracking item levels) := by
  refine mirrors_afterBlanks (fun first rest _ => ?_) fun first rest hfirst => ?_
  · split
    · exact mirrors_deeper fun fewer => mirrors_items (h fewer) _ _ []
    · exact .error _ _
  · rw [if_neg (hfirst.ne (by decide) (by decide))]
    exact ⟨_, rfl⟩

/-- Objects are mirrored if their values are. -/
theorem mirrors_readEntries (put : σ → String → α → σ) (start : σ) {value : Nat → Reader α}
    (h : ∀ levels, (value levels).Mirrors) (levels : Nat) :
    Reader.Mirrors (readEntries tracking put start value levels) := by
  refine mirrors_afterBlanks (fun first rest _ => ?_) fun first rest hfirst => ?_
  · split
    · exact mirrors_deeper fun fewer => mirrors_entries put start (h fewer) rest
    · exact .error _ _
  · rw [if_neg (hfirst.ne (by decide) (by decide))]
    exact ⟨_, rfl⟩

theorem mirrors_readVariantName (names : List String) : Reader.Mirrors (readVariantName names) := by
  refine mirrors_afterBlanks (fun first rest _ => ?_) fun first rest hfirst => ?_
  · split
    · have htext := mirrors_text rest
      generalize text rest = x at htext ⊢
      generalize text (marked rest) = y at htext ⊢
      cases htext with
      | error f g => exact .error f g
      | ok _ _ =>
        simp only
        split
        · exact .ok _ _
        · exact .error _ _
    · exact .error _ _
  · rw [if_neg (hfirst.ne (by decide) (by decide))]
    exact ⟨_, rfl⟩

theorem mirrors_readUnit : Reader.Mirrors readUnit := by
  refine mirrors_afterBlanks (fun first rest _ => ?_) fun first rest hfirst => ?_
  · split
    · exact mirrors_wordValue rfl rest
    · exact .error _ _
  · rw [if_neg (hfirst.ne (by decide) (by decide))]
    exact ⟨_, rfl⟩

theorem mirrors_readVariantEnd : Reader.Mirrors readVariantEnd :=
  fun _ => .of_yields fun () more => by
    rw [yields_readVariantEnd_iff, skipBlanks_marked_iff (by decide) (by decide)]
    simp only [yields_readVariantEnd_iff]

/-- The names of variants are read alike, with an object around them or without one. -/
theorem mirrors_readVariant (names : List String) (levels : Nat) : Reader.Mirrors (readVariant names levels) := by
  refine mirrors_afterBlanks (fun first rest hfirst => ?_) fun first rest hfirst => ?_
  · split
    · have hname := mirrors_readVariantName names (first :: rest)
      rw [marked_low hfirst] at hname
      exact hname
    split
    · have hunit : Reader.Mirrors (Reader.andThen (Reader.andThen colon fun _ => readUnit) fun _ => readVariantEnd) :=
        (mirrors_colon.andThen fun _ => mirrors_readUnit).andThen fun _ => mirrors_readVariantEnd
      exact mirrors_deeper fun _ => ((mirrors_readVariantName names rest).andThen fun _ => hunit.map _).afterFirst
    · exact .error _ _
  · rw [if_neg (hfirst.ne (by decide) (by decide)), if_neg (hfirst.ne (by decide) (by decide))]
    exact ⟨_, rfl⟩

/-- A slot whose reader, if it has one, is mirrored. -/
def Slot.Mirrors : Slot σ → Prop
  | .free read => read.Mirrors
  | _ => True

/-- Members of records are mirrored if the slots of their keys are. -/
theorem mirrors_recordMember {slot : σ → String → Slot σ} (h : ∀ slots name, (slot slots name).Mirrors) (slots : σ)
    (name : String) : Reader.Mirrors (recordMember tracking slot slots name) := by
  have hslot := h slots name
  simp only [recordMember]
  generalize slot slots name = s at hslot ⊢
  cases s with
  | unknown => exact (mirrors_memberValue tracking name mirrors_pass).map _
  | taken => exact fun _ => .error _ _
  | free read => exact mirrors_memberValue tracking name hslot

theorem mirrors_readRowEnd : Reader.Mirrors readRowEnd :=
  fun _ => .of_yields fun () more => by
    rw [yields_readRowEnd_iff, skipBlanks_marked_iff (by decide) (by decide)]
    simp only [yields_readRowEnd_iff]

theorem mirrors_readRowField (place : RowPlace) (h : r.Mirrors) : Reader.Mirrors (readRowField tracking place r) := by
  intro input
  simp only [readRowField]
  have hmore : Outcome.Mirrors ((nextItem (place.index = 0) input).within tracking (.index place.index))
      ((nextItem (place.index = 0) (marked input)).within tracking (.index place.index)) :=
    (mirrors_nextItem _ input).within
  generalize (nextItem (place.index = 0) input).within tracking (.index place.index) = x at hmore ⊢
  generalize (nextItem (place.index = 0) (marked input)).within tracking (.index place.index) = y at hmore ⊢
  cases hmore with
  | error f g => exact .error f g
  | @ok goesOn rest _ _ =>
    simp only
    split
    · exact (h rest).within.widen _ _
    · exact .error _ _

end Readers

section Schemas

variable {tracking : Tracking}

mutual

/-- The readers of a schema are mirrored. -/
theorem Schema.mirrors_read (schema : Schema) (levels : Nat) : Reader.Mirrors (schema.read tracking levels) := by
  cases schema with
  | text => exact mirrors_readText
  | truth => exact mirrors_readTruth
  | int64 => exact mirrors_readInteger _ _
  | uint32 => exact mirrors_readInteger _ _
  | optional inner => exact mirrors_readOptional (inner.mirrors_read levels)
  | list item => exact mirrors_readList item.mirrors_read levels
  | dictionary => exact mirrors_readEntries _ _ (fun _ => mirrors_readText) levels
  | object => exact mirrors_readEntries _ _ mirrors_value levels
  | variant names => exact mirrors_readVariant names levels
  | record name fields =>
    refine mirrors_afterBlanks (fun first rest _ => ?_) fun first rest hfirst => ?_
    · split
      · exact mirrors_deeper fun fewer => (fields.mirrors_readRow fewer _ rest).afterFirst
      split
      · exact mirrors_deeper fun fewer =>
          (mirrors_members (mirrors_recordMember (fields.mirrors_slot fewer)) _ _ _ _ _).afterFirst
      · exact .error _ _
    · rw [if_neg (hfirst.ne (by decide) (by decide)), if_neg (hfirst.ne (by decide) (by decide))]
      exact ⟨_, rfl⟩

theorem Fields.mirrors_slot (fields : Fields) (levels : Nat) (slots : fields.Slots) (key : String) :
    (fields.slot tracking levels slots key).Mirrors := by
  cases fields with
  | none => trivial
  | field name schema others =>
    simp only [Fields.slot]
    split
    · split
      · trivial
      · exact (schema.mirrors_read levels).map _
    · have hothers := others.mirrors_slot levels slots.2 key
      generalize others.slot tracking levels slots.2 key = s at hothers ⊢
      cases s with
      | unknown => trivial
      | taken => trivial
      | free read => exact hothers.map _

theorem Fields.mirrors_readRow (fields : Fields) (levels : Nat) (place : RowPlace) :
    Reader.Mirrors (fields.readRow tracking levels place) := by
  cases fields with
  | none => exact mirrors_readRowEnd
  | field name schema others =>
    exact (mirrors_readRowField place (schema.mirrors_read levels)).andThen fun v =>
      (others.mirrors_readRow levels _).map _

end

/-- Marks change nothing in what is decoded. -/
theorem Schema.decode_marked_iff {schema : Schema} {source : Bytes} {v : schema.Carrier} :
    schema.decode tracking (marked source) = .ok v ↔ schema.decode tracking source = .ok v := by
  have hread : Outcome.Mirrors (schema.read tracking deepest source) (schema.read tracking deepest (marked source)) :=
    schema.mirrors_read deepest source
  simp only [Schema.decode_eq_ok_iff, hread.yields_iff]
  constructor
  · rintro ⟨_, ⟨rest, hrest, rfl⟩, hblank⟩
    rw [skipBlanks_marked, marked_eq_nil_iff] at hblank
    exact ⟨rest, hrest, hblank⟩
  · rintro ⟨rest, hrest, hblank⟩
    refine ⟨marked rest, ⟨rest, hrest, rfl⟩, ?_⟩
    rw [skipBlanks_marked, hblank, marked_nil]

end Schemas

end Json

end ChatOpening
