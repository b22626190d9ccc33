import ChatOpening.Json.Schema
import ChatOpening.Proofs.Text.Encoding

/-!
# What a reader takes

An outcome yields a value and the bytes behind it, or it is a fault. For every way to put readers together it is said
here when the result yields a value: from what its parts yield, and from nothing else.

**Results.**
* `yields_map_iff`, `yields_andThen_iff` and so on: one law for each way to put readers together.
* `yields_text_iff`: which text stands before a closing mark.
* `yields_nextKey_none_iff`, `yields_nextKey_first_iff`, `yields_nextKey_later_iff`: when an object ends, and when it
  goes on with a key.
* `yields_items_iff`, `yields_members_iff`: one round of the loop over the items of a list, and over the members of an
  object.
* `Schema.decode_eq_ok_iff`: when a text as a whole means a value.
-/

namespace ChatOpening

namespace Json

variable {α β σ : Type} {bound larger : Nat}

/-- The outcome is the value, and `rest` is what is left of the bytes. -/
def Outcome.Yields (x : Outcome bound α) (a : α) (rest : Bytes) : Prop :=
  ∃ h, x = .ok ⟨a, rest, h⟩

section Outcomes

open Outcome

variable {x : Outcome bound α} {p : Parsed bound α} {fault : Fault} {a : α} {b : β} {rest : Bytes}

theorem Outcome.Yields.shorter (h : x.Yields a rest) : rest.length < bound :=
  h.1

@[simp] theorem yields_ok_iff : Yields (.ok p : Outcome bound α) a rest ↔ p.value = a ∧ p.rest = rest := by
  constructor
  · rintro ⟨h, heq⟩
    cases heq
    exact ⟨rfl, rfl⟩
  · rintro ⟨rfl, rfl⟩
    exact ⟨p.shorter, rfl⟩

@[simp] theorem not_yields_error : ¬ Yields (.error fault : Outcome bound α) a rest := by
  rintro ⟨h, heq⟩
  cases heq

@[simp] theorem yields_map_iff {f : α → β} : (x.map f).Yields b rest ↔ ∃ a, x.Yields a rest ∧ f a = b := by
  cases x with
  | ok p =>
    simp only [Outcome.map, Parsed.map, yields_ok_iff]
    constructor
    · rintro ⟨hvalue, hrest⟩
      exact ⟨p.value, ⟨rfl, hrest⟩, hvalue⟩
    · rintro ⟨a, ⟨rfl, hrest⟩, hvalue⟩
      exact ⟨hvalue, hrest⟩
  | error fault => simp [Outcome.map]

@[simp] theorem yields_widen_iff {h : bound ≤ larger} : (x.widen h).Yields a rest ↔ x.Yields a rest := by
  cases x with
  | ok p => simp [Outcome.widen, Parsed.widen]
  | error fault => simp [Outcome.widen]

@[simp] theorem yields_afterFirst_iff : x.afterFirst.Yields a rest ↔ x.Yields a rest :=
  yields_widen_iff

@[simp] theorem yields_within_iff {tracking : Tracking} {step : Step} :
    (x.within tracking step).Yields a rest ↔ x.Yields a rest := by
  cases x with
  | ok p => rfl
  | error fault => simp [Outcome.within]

/-- Of two readers one behind the other the second starts where the first ends. -/
theorem yields_andThen_iff {f : α → Reader β} :
    (x.andThen f).Yields b rest ↔ ∃ a middle, x.Yields a middle ∧ (f a middle).Yields b rest := by
  cases x with
  | ok p =>
    simp only [Outcome.andThen, yields_widen_iff, yields_ok_iff]
    constructor
    · intro h
      exact ⟨p.value, p.rest, ⟨rfl, rfl⟩, h⟩
    · rintro ⟨a, middle, ⟨rfl, rfl⟩, h⟩
      exact h
  | error fault => simp [Outcome.andThen]

end Outcomes

section Marks

variable {a : α} {input rest expected : Bytes} {ending : Cause}

/-- A reader behind blanks starts from the first byte that is none. -/
theorem yields_afterBlanks_iff {read : (first : UInt8) → (rest : Bytes) → Outcome (rest.length + 1) α} :
    (afterBlanks ending read input).Yields a rest ↔
      ∃ first others, skipBlanks input = first :: others ∧ (read first others).Yields a rest := by
  simp only [afterBlanks]
  split
  · next h => simp [h]
  · next first others h =>
    rw [yields_widen_iff]
    constructor
    · intro hread
      exact ⟨first, others, h, hread⟩
    · rintro ⟨f, o, hskip, hread⟩
      rw [h] at hskip
      cases hskip
      exact hread

/-- A word is read exactly where it stands. -/
theorem word_eq_ok_iff : word expected input = .ok rest ↔ input = expected ++ rest := by
  induction expected generalizing input with
  | nil => simp [word]
  | cons e expected ih =>
    cases input with
    | nil => simp [word]
    | cons b others =>
      simp only [word, List.cons_append, List.cons.injEq]
      split
      · next hb => simp [hb, ih]
      · next hb => simp [hb]

theorem yields_wordValue_iff {value : α} :
    (wordValue expected value input).Yields a rest ↔ input = expected ++ rest ∧ value = a := by
  rw [← word_eq_ok_iff]
  simp only [wordValue]
  split
  · next others h => simp [h, and_comm]
  · next fault h => simp [h]

theorem yields_colon_iff : (colon input).Yields () rest ↔ skipBlanks input = 0x3A :: rest := by
  simp only [colon, yields_afterBlanks_iff]
  constructor
  · rintro ⟨first, others, hskip, hyields⟩
    split at hyields
    · next hfirst =>
      obtain ⟨-, rfl⟩ := yields_ok_iff.1 hyields
      rw [hskip, hfirst]
      rfl
    · exact absurd hyields not_yields_error
  · intro hskip
    refine ⟨0x3A, rest, hskip, ?_⟩
    simp [Parsed.before]

/-- The value of a member stands behind a colon. -/
theorem yields_memberValue_iff {tracking : Tracking} {name : String} {value : Reader α} :
    (memberValue tracking name value input).Yields a rest ↔
      ∃ middle, skipBlanks input = 0x3A :: middle ∧ (value middle).Yields a rest := by
  simp only [memberValue, Reader.within, yields_within_iff, Reader.andThen, yields_andThen_iff]
  constructor
  · rintro ⟨u, middle, hcolon, hvalue⟩
    exact ⟨middle, yields_colon_iff.1 hcolon, hvalue⟩
  · rintro ⟨middle, hskip, hvalue⟩
    exact ⟨(), middle, yields_colon_iff.2 hskip, hvalue⟩

end Marks

/-- The bytes that are spelled up to the closing mark are those of the text. -/
theorem yields_text_iff {input rest : Bytes} {s : String} :
    (text input).Yields s rest ↔ (spelledBytes input (length_le_self input) []).Yields (Text.bytes s) rest := by
  simp only [text]
  cases spelledBytes input (length_le_self input) [] with
  | error fault => simp
  | ok p =>
    rw [yields_ok_iff, ← Text.ofBytes?_eq_some_iff]
    simp only
    split
    · next t hs => simp [hs]
    · next hs => simp [hs]

section Keys

variable {input rest : Bytes} {name : String} {first : Bool}

/-- A key is a text. -/
theorem yields_key_iff {b : UInt8} {others : Bytes} :
    (nextKey.key b others).Yields (some name) rest ↔ b = quoteMark ∧ (text others).Yields name rest := by
  simp only [nextKey.key]
  split
  · next hb => simp [hb]
  · next hb => simp [hb]

theorem not_yields_key_none {b : UInt8} {others : Bytes} : ¬ (nextKey.key b others).Yields none rest := by
  simp only [nextKey.key]
  split <;> simp

/-- An object ends with its brace. -/
theorem yields_nextKey_none_iff : (nextKey first input).Yields none rest ↔ skipBlanks input = 0x7D :: rest := by
  simp only [nextKey, yields_afterBlanks_iff]
  constructor
  · rintro ⟨b, others, hskip, hyields⟩
    split at hyields
    · next hb =>
      obtain ⟨-, rfl⟩ := yields_ok_iff.1 hyields
      rw [hskip, hb]
      rfl
    split at hyields
    · exact absurd hyields not_yields_key_none
    split at hyields
    · rw [yields_afterFirst_iff, yields_afterBlanks_iff] at hyields
      obtain ⟨c, more, -, hkey⟩ := hyields
      split at hkey
      · exact absurd hkey not_yields_error
      · exact absurd hkey not_yields_key_none
    · exact absurd hyields not_yields_error
  · intro hskip
    exact ⟨0x7D, rest, hskip, by simp [Parsed.before]⟩

/-- The first key of an object stands behind its brace. -/
theorem yields_nextKey_first_iff :
    (nextKey true input).Yields (some name) rest ↔
      ∃ others, skipBlanks input = quoteMark :: others ∧ (text others).Yields name rest := by
  simp only [nextKey, yields_afterBlanks_iff, if_true]
  constructor
  · rintro ⟨b, others, hskip, hyields⟩
    split at hyields
    · simp [Parsed.before] at hyields
    · obtain ⟨rfl, htext⟩ := yields_key_iff.1 hyields
      exact ⟨others, hskip, htext⟩
  · rintro ⟨others, hskip, htext⟩
    refine ⟨quoteMark, others, hskip, ?_⟩
    rw [if_neg (by decide), yields_key_iff]
    exact ⟨rfl, htext⟩

/-- Every other key of an object stands behind a comma. -/
theorem yields_nextKey_later_iff :
    (nextKey false input).Yields (some name) rest ↔
      ∃ middle others, skipBlanks input = comma :: middle ∧ skipBlanks middle = quoteMark :: others ∧
        (text others).Yields name rest := by
  simp only [nextKey, yields_afterBlanks_iff]
  constructor
  · rintro ⟨b, middle, hskip, hyields⟩
    split at hyields
    · simp [Parsed.before] at hyields
    rw [if_neg (by decide)] at hyields
    split at hyields
    · next hb =>
      rw [yields_afterFirst_iff, yields_afterBlanks_iff] at hyields
      obtain ⟨c, others, hquote, hkey⟩ := hyields
      split at hkey
      · exact absurd hkey not_yields_error
      · obtain ⟨rfl, htext⟩ := yields_key_iff.1 hkey
        exact ⟨middle, others, by rw [hskip, hb], hquote, htext⟩
    · exact absurd hyields not_yields_error
  · rintro ⟨middle, others, hskip, hquote, htext⟩
    refine ⟨comma, middle, hskip, ?_⟩
    rw [if_neg (by decide), if_neg (by decide), if_pos rfl, yields_afterFirst_iff, yields_afterBlanks_iff]
    refine ⟨quoteMark, others, hquote, ?_⟩
    rw [if_neg (by decide), yields_key_iff]
    exact ⟨rfl, htext⟩

end Keys

section Items

variable {tracking : Tracking} {item : Reader α} {input rest : Bytes} {done vs : List α}

/-- A list is at its end, or there is one more item and then those behind it. -/
theorem yields_items_iff {h : input.length ≤ bound} :
    (items tracking item input h done).Yields vs rest ↔
      ((nextItem done.isEmpty input).Yields false rest ∧ vs = done.reverse) ∨
      ∃ more a behind, (nextItem done.isEmpty input).Yields true more ∧ (item more).Yields a behind ∧
        ∃ h : behind.length ≤ bound, (items tracking item behind h (a :: done)).Yields vs rest := by
  have hnext : ∀ b more, ((nextItem done.isEmpty input).within tracking (.index done.length)).Yields b more ↔
      (nextItem done.isEmpty input).Yields b more :=
    fun _ _ => yields_within_iff
  simp only [← hnext]
  rw [items]
  cases (nextItem done.isEmpty input).within tracking (.index done.length) with
  | error fault => simp
  | ok next =>
    rcases next with ⟨b, more, hshorter⟩
    simp only [yields_ok_iff]
    cases b with
    | false =>
      simp only [Bool.false_eq_true, if_false, yields_ok_iff, true_and, false_and, exists_false, or_false]
      constructor
      · rintro ⟨hvs, hrest⟩
        exact ⟨hrest, hvs.symm⟩
      · rintro ⟨hrest, hvs⟩
        exact ⟨hvs.symm, hrest⟩
    | true =>
      have hvalue : ∀ a behind, ((item more).within tracking (.index done.length)).Yields a behind ↔
          (item more).Yields a behind :=
        fun _ _ => yields_within_iff
      simp only [if_true, Bool.true_eq_false, false_and, false_or, true_and]
      constructor
      · intro hyields
        cases hp : (item more).within tracking (.index done.length) with
        | error fault =>
          rw [hp] at hyields
          exact absurd hyields not_yields_error
        | ok p =>
          rw [hp] at hyields
          exact ⟨more, p.value, p.rest, rfl, (hvalue _ _).1 (hp ▸ yields_ok_iff.2 ⟨rfl, rfl⟩), _, hyields⟩
      · rintro ⟨_, a, behind, rfl, hitem, _, hyields⟩
        obtain ⟨_, hp⟩ := (hvalue _ _).2 hitem
        rw [hp]
        exact hyields

end Items

section Members

variable {member : σ → String → Reader σ} {finish : σ → Except Cause α} {first : Bool} {state : σ} {input rest : Bytes}
  {a : α}

/-- The members are at their end, or there is one more and then those behind it. -/
theorem yields_members_iff {h : input.length ≤ bound} :
    (members tracking member finish first state input h).Yields a rest ↔
      ((nextKey first input).Yields none rest ∧ finish state = .ok a) ∨
      ∃ name middle later others, (nextKey first input).Yields (some name) middle ∧
        (member state name middle).Yields later others ∧
        ∃ h : others.length ≤ bound, (members tracking member finish false later others h).Yields a rest := by
  have hkey : ∀ key behind, ((nextKey first input).within tracking .unread).Yields key behind ↔
      (nextKey first input).Yields key behind :=
    fun _ _ => yields_within_iff
  rw [members]
  simp only [← hkey]
  cases (nextKey first input).within tracking .unread with
  | error fault => simp
  | ok key =>
    rcases key with ⟨key, behind, hkey⟩
    cases key with
    | none =>
      simp only [yields_ok_iff, true_and]
      constructor
      · intro hyields
        cases hfinish : finish state with
        | error cause =>
          rw [hfinish] at hyields
          exact absurd hyields not_yields_error
        | ok b =>
          rw [hfinish] at hyields
          obtain ⟨rfl, rfl⟩ := yields_ok_iff.1 hyields
          exact .inl ⟨rfl, rfl⟩
      · rintro (⟨rfl, hfinish⟩ | ⟨name, middle, later, others, ⟨hname, -⟩, -⟩)
        · rw [hfinish]
          simp
        · cases hname
    | some name =>
      simp only [yields_ok_iff]
      constructor
      · intro hyields
        cases hmember : member state name behind with
        | error fault =>
          rw [hmember] at hyields
          exact absurd hyields not_yields_error
        | ok p =>
          rw [hmember] at hyields
          exact .inr ⟨name, behind, p.value, p.rest, ⟨rfl, rfl⟩, hmember ▸ yields_ok_iff.2 ⟨rfl, rfl⟩, _, hyields⟩
      · rintro (⟨⟨hname, -⟩, -⟩ | ⟨_, _, later, others, ⟨hname, rfl⟩, ⟨_, hmember⟩, _, hyields⟩)
        · cases hname
        · cases hname
          rw [hmember]
          exact hyields

end Members

/-- A text as a whole means a value if the value is read and nothing but blanks follows. -/
theorem Schema.decode_eq_ok_iff {tracking : Tracking} {schema : Schema} {source : Bytes} {v : schema.Carrier} :
    schema.decode tracking source = .ok v ↔
      ∃ rest, (schema.read tracking deepest source).Yields v rest ∧ skipBlanks rest = [] := by
  simp only [Schema.decode, Schema.readWhole]
  cases schema.read tracking deepest source with
  | error fault => simp
  | ok p =>
    simp only [yields_ok_iff]
    constructor
    · intro h
      split at h
      · next w hw =>
        split at hw
        · next hrest =>
          cases hw
          cases h
          exact ⟨p.rest, ⟨rfl, rfl⟩, hrest⟩
        · cases hw
      · cases h
    · rintro ⟨rest, ⟨rfl, rfl⟩, hrest⟩
      simp only [hrest]

end Json

end ChatOpening
