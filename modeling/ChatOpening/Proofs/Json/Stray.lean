import ChatOpening.Proofs.Json.Spelling
import ChatOpening.Proofs.Text.Stray

/-!
# Reading stray bytes

A reader does not mind stray bytes where it only passes over a text, and nowhere else.  There it does not mind a surrogate
without a partner either, and it minds both where it reads.  So it makes no difference to a reader whether stray bytes
are marked: the outcomes on the bytes and on the marked bytes are mirrored, that is, they are the same value with rests
of which one is the other one marked, or two faults.

Here are the ways to put readers together, and the readers of marks, numerals and texts.

**Input.**  Any bytes.

**Results.**
* `mirrors_afterBlanks`: a reader is mirrored if it is so behind each ASCII byte, and refuses all other bytes.
* `mirrors_numeral`, `mirrors_number`: numerals.
* `mirrors_text`, `mirrors_passText`: texts that are read, and texts that are passed over.
-/

namespace ChatOpening

namespace Json

open Text

variable {α β σ : Type} {bound larger wide wider : Nat}

/-- The same value, behind which the same bytes are left, marked; or two faults. -/
inductive Outcome.Mirrors : Outcome bound α → Outcome larger α → Prop where
  | ok {a : α} {rest : Bytes} (h : rest.length < bound) (h' : (marked rest).length < larger) :
      Mirrors (.ok ⟨a, rest, h⟩) (.ok ⟨a, marked rest, h'⟩)
  | error (f g : Fault) : Mirrors (.error f) (.error g)

/-- It makes no difference whether stray bytes are marked. -/
def Reader.Mirrors (r : Reader α) : Prop :=
  ∀ input, Outcome.Mirrors (r input) (r (marked input))

namespace Outcome.Mirrors

variable {x : Outcome bound α} {y : Outcome larger α} {tracking : Tracking} {step : Step}

protected theorem map (f : α → β) (h : Outcome.Mirrors x y) : Outcome.Mirrors (Outcome.map f x) (Outcome.map f y) := by
  cases h with
  | ok h h' => exact .ok h h'
  | error f g => exact .error f g

protected theorem widen (hle : bound ≤ wide) (hle' : larger ≤ wider) (h : Outcome.Mirrors x y) :
    Outcome.Mirrors (Outcome.widen hle x) (Outcome.widen hle' y) := by
  cases h with
  | ok h h' => exact .ok _ _
  | error f g => exact .error f g

protected theorem afterFirst (h : Outcome.Mirrors x y) : Outcome.Mirrors (Outcome.afterFirst x) (Outcome.afterFirst y) :=
  h.widen _ _

protected theorem within (h : Outcome.Mirrors x y) :
    Outcome.Mirrors (Outcome.within tracking step x) (Outcome.within tracking step y) := by
  cases h with
  | ok h h' => exact .ok h h'
  | error f g => exact .error _ _

protected theorem andThen {f : α → Reader β} (h : Outcome.Mirrors x y) (hnext : ∀ a, Reader.Mirrors (f a)) :
    Outcome.Mirrors (Outcome.andThen x f) (Outcome.andThen y f) := by
  cases h with
  | @ok a rest _ _ => exact (hnext a rest).widen _ _
  | error f g => exact .error f g

protected theorem ite {c : Prop} [Decidable c] {x' : Outcome bound α} {y' : Outcome larger α}
    (hpos : c → Outcome.Mirrors x y) (hneg : ¬ c → Outcome.Mirrors x' y') :
    Outcome.Mirrors (if c then x else x') (if c then y else y') := by
  by_cases hc : c
  · rw [if_pos hc, if_pos hc]
    exact hpos hc
  · rw [if_neg hc, if_neg hc]
    exact hneg hc

protected theorem of_rest {a : α} {rest more : Bytes} (hmore : more = marked rest) (h : rest.length < bound)
    (h' : more.length < larger) :
    Outcome.Mirrors (.ok ⟨a, rest, h⟩ : Outcome bound α) (.ok ⟨a, more, h'⟩ : Outcome larger α) := by
  subst hmore
  exact .ok h h'

/-- Outcomes are mirrored if the one yields what the other one yields. -/
protected theorem of_yields (h : ∀ a more, y.Yields a more ↔ ∃ rest, x.Yields a rest ∧ more = marked rest) :
    Outcome.Mirrors x y := by
  cases x with
  | ok p =>
    obtain ⟨h', rfl⟩ := (h p.value (marked p.rest)).2 ⟨p.rest, yields_ok_iff.2 ⟨rfl, rfl⟩, rfl⟩
    exact .ok p.shorter h'
  | error f =>
    cases y with
    | ok q =>
      obtain ⟨rest, hrest, -⟩ := (h q.value q.rest).1 (yields_ok_iff.2 ⟨rfl, rfl⟩)
      exact absurd hrest not_yields_error
    | error g => exact .error f g

protected theorem yields_iff {a : α} {more : Bytes} (h : Outcome.Mirrors x y) :
    y.Yields a more ↔ ∃ rest, x.Yields a rest ∧ more = marked rest := by
  cases h with
  | ok h h' =>
    simp only [yields_ok_iff]
    constructor
    · rintro ⟨rfl, rfl⟩
      exact ⟨_, ⟨rfl, rfl⟩, rfl⟩
    · rintro ⟨_, ⟨rfl, rfl⟩, rfl⟩
      exact ⟨rfl, rfl⟩
  | error f g => simp

end Outcome.Mirrors

namespace Reader.Mirrors

variable {r : Reader α}

protected theorem map (f : α → β) (h : r.Mirrors) : Reader.Mirrors (Reader.map f r) :=
  fun input => (h input).map f

protected theorem andThen {f : α → Reader β} (h : r.Mirrors) (hnext : ∀ a, Reader.Mirrors (f a)) :
    Reader.Mirrors (Reader.andThen r f) :=
  fun input => (h input).andThen hnext

end Reader.Mirrors

section Marks

variable {input expected : Bytes} {first other : UInt8} {rest more : Bytes} {ending : Cause}
  {read : (first : UInt8) → (rest : Bytes) → Outcome (rest.length + 1) α}

theorem isBlankByte_of_foreign (h : IsForeign first) : isBlankByte first = false := by
  simp [isBlankByte, h.ne]

theorem skipBlanks_marked (input : Bytes) : skipBlanks (marked input) = marked (skipBlanks input) :=
  dropWhile_marked fun _ => isBlankByte_of_foreign

/-- A mark behind blanks was there before. -/
theorem skipBlanks_marked_iff (hlow : first < 0x80) (hmark : first ≠ 0x3F) :
    skipBlanks (marked input) = first :: more ↔ ∃ rest, skipBlanks input = first :: rest ∧ more = marked rest := by
  rw [skipBlanks_marked, marked_eq_cons_iff hlow hmark]

/-- Behind blanks there is the same ASCII byte, or none of the two is ASCII. -/
theorem skipBlanks_cases (input : Bytes) :
    (skipBlanks input = [] ∧ skipBlanks (marked input) = []) ∨
      (∃ b rest, b < 0x80 ∧ skipBlanks input = b :: rest ∧ skipBlanks (marked input) = b :: marked rest) ∨
      ∃ b rest c more, IsForeign b ∧ IsForeign c ∧ skipBlanks input = b :: rest ∧
        skipBlanks (marked input) = c :: more := by
  rw [skipBlanks_marked]
  exact marked_cases (skipBlanks input)

theorem afterBlanks_nil (h : skipBlanks input = []) : afterBlanks ending read input = .error (.next ending []) := by
  simp only [afterBlanks]
  split
  · rfl
  · next hskip => cases h.symm.trans hskip

theorem afterBlanks_cons (h : skipBlanks input = first :: rest) :
    afterBlanks ending read input = (read first rest).widen (length_lt_of_skipBlanks h) := by
  simp only [afterBlanks]
  split
  · next hskip => cases h.symm.trans hskip
  · next hskip =>
    cases h.symm.trans hskip
    rfl

theorem mirrors_afterBlanks_of
    (hlow : ∀ first rest, first < 0x80 → Outcome.Mirrors (read first rest) (read first (marked rest)))
    (hforeign : ∀ first rest other more, IsForeign first → IsForeign other → marked (first :: rest) = other :: more →
      Outcome.Mirrors (read first rest) (read other more)) :
    Reader.Mirrors (afterBlanks ending read) := by
  intro input
  rcases skipBlanks_cases input with ⟨h, h'⟩ | ⟨b, rest, hb, h, h'⟩ | ⟨b, rest, c, more, hb, hc, h, h'⟩
  · rw [afterBlanks_nil h, afterBlanks_nil h']
    exact .error _ _
  · rw [afterBlanks_cons h, afterBlanks_cons h']
    exact (hlow b rest hb).widen _ _
  · rw [afterBlanks_cons h, afterBlanks_cons h']
    rw [skipBlanks_marked, h] at h'
    exact (hforeign b rest c more hb hc h').widen _ _

/-- What starts with an ASCII byte is mirrored, and nothing starts with another one. -/
theorem mirrors_afterBlanks
    (hlow : ∀ first rest, first < 0x80 → Outcome.Mirrors (read first rest) (read first (marked rest)))
    (hforeign : ∀ first rest, IsForeign first → ∃ fault, read first rest = .error fault) :
    Reader.Mirrors (afterBlanks ending read) := by
  refine mirrors_afterBlanks_of hlow fun first rest other more hfirst hother _ => ?_
  obtain ⟨f, hf⟩ := hforeign first rest hfirst
  obtain ⟨g, hg⟩ := hforeign other more hother
  rw [hf, hg]
  exact .error f g

/-- A word of plain letters is read in the same way among marks. -/
theorem mirrors_wordValue {value : α} (hexpected : expected.all (fun b => b < 0x80 ∧ b ≠ 0x3F) = true) (rest : Bytes) :
    Outcome.Mirrors (wordValue expected value rest) (wordValue expected value (marked rest)) := by
  refine .of_yields fun a more => ?_
  have hplain : ∀ b ∈ expected, b < 0x80 ∧ b ≠ 0x3F := fun b hb =>
    of_decide_eq_true (List.all_eq_true.1 hexpected b hb)
  simp only [yields_wordValue_iff, marked_eq_append_iff hplain]
  constructor
  · rintro ⟨⟨others, rfl, rfl⟩, rfl⟩
    exact ⟨others, ⟨rfl, rfl⟩, rfl⟩
  · rintro ⟨others, ⟨rfl, rfl⟩, rfl⟩
    exact ⟨⟨others, rfl, rfl⟩, rfl⟩

theorem mirrors_colon : Reader.Mirrors colon :=
  fun _ => .of_yields fun () more => by
    rw [yields_colon_iff, skipBlanks_marked_iff (by decide) (by decide)]
    simp only [yields_colon_iff]

/-- A member is mirrored if its value is. -/
theorem mirrors_memberValue (tracking : Tracking) (name : String) {value : Reader α} (h : value.Mirrors) :
    Reader.Mirrors (memberValue tracking name value) :=
  fun input => ((mirrors_colon input).andThen fun _ => h).within

end Marks

section Numerals

variable {input rest : Bytes} {ending : Cause} {negative : Bool} {b : UInt8}

theorem not_isDigit_of_foreign (h : IsForeign b) : isDigit b = false := by
  rcases h with rfl | h
  · decide
  · simp only [isDigit, Bool.and_eq_false_iff, decide_eq_false_iff_not, UInt8.le_iff_toNat_le, UInt8.reduceToNat] at h ⊢
    omega

theorem mirrors_digits (f : Bytes → α) (rest : Bytes) (h : (rest.dropWhile isDigit).length < bound)
    (h' : ((marked rest).dropWhile isDigit).length < larger) :
    Outcome.Mirrors (.ok ⟨f (rest.takeWhile isDigit), rest.dropWhile isDigit, h⟩ : Outcome bound α)
      (.ok ⟨f ((marked rest).takeWhile isDigit), (marked rest).dropWhile isDigit, h'⟩ : Outcome larger α) := by
  have hdigits : (marked rest).takeWhile isDigit = rest.takeWhile isDigit :=
    takeWhile_marked fun _ => not_isDigit_of_foreign
  rw [hdigits]
  exact .of_rest (dropWhile_marked fun _ => not_isDigit_of_foreign) h h'

theorem mirrors_wholePart (ending : Cause) : Reader.Mirrors (wholePart ending) := by
  intro input
  rcases marked_cases input with ⟨rfl, h⟩ | ⟨d, rest, -, rfl, h⟩ | ⟨d, rest, e, more, hd, he, rfl, h⟩
  · rw [h]
    exact .error _ _
  · rw [h]
    simp only [wholePart]
    split
    · rcases marked_cases rest with ⟨rfl, h⟩ | ⟨next, others, -, rfl, h⟩ | ⟨next, others, c, more, hnext, hc, rfl, h⟩
      · rw [h]
        exact .of_rest h.symm _ _
      · rw [h]
        simp only
        split
        · exact .error _ _
        · exact .of_rest h.symm _ _
      · rw [h]
        simp only [not_isDigit_of_foreign hnext, not_isDigit_of_foreign hc]
        exact .of_rest h.symm _ _
    split
    · exact mirrors_digits (d :: ·) rest _ _
    · exact .error _ _
  · rw [h]
    simp only [wholePart, not_isDigit_of_foreign hd, not_isDigit_of_foreign he, hd.ne (c := 0x30) (by decide) (by decide),
      he.ne (c := 0x30) (by decide) (by decide), if_false, Bool.false_eq_true]
    exact .error _ _

theorem mirrors_fractionPart (ending : Cause) (input : Bytes) :
    Outcome.Mirrors (fractionPart ending input) (fractionPart ending (marked input)) := by
  rcases marked_cases input with ⟨rfl, h⟩ | ⟨b, rest, -, rfl, h⟩ | ⟨b, rest, c, more, hb, hc, rfl, h⟩
  · rw [h]
    exact .of_rest h.symm _ _
  · rw [h]
    simp only [fractionPart]
    split
    · exact .of_rest h.symm _ _
    rcases marked_cases rest with ⟨rfl, h⟩ | ⟨d, others, -, rfl, h⟩ | ⟨d, others, e, more, hd, he, rfl, h⟩
    · rw [h]
      exact .error _ _
    · rw [h]
      simp only
      split
      · exact mirrors_digits (some <| d :: ·) others _ _
      · exact .error _ _
    · rw [h]
      simp only [not_isDigit_of_foreign hd, not_isDigit_of_foreign he]
      exact .error _ _
  · rw [h]
    simp only [fractionPart, ne_eq, hb.ne (c := 0x2E) (by decide) (by decide), hc.ne (c := 0x2E) (by decide) (by decide),
      not_false_eq_true, if_true]
    exact .of_rest h.symm _ _

theorem exponentSign_marked (input : Bytes) :
    exponentSign (marked input) = ((exponentSign input).1, marked (exponentSign input).2) := by
  rcases marked_cases input with ⟨rfl, h⟩ | ⟨b, rest, -, rfl, h⟩ | ⟨b, rest, c, more, hb, hc, rfl, h⟩
  · rw [h, exponentSign, h]
  · rw [h]
    simp only [exponentSign]
    split
    · rfl
    split
    · rfl
    · rw [h]
  · rw [h]
    simp [exponentSign, hb.ne, hc.ne, h]

section Exponents

variable {letter d : UInt8} {others : Bytes} (hletter : ¬ (letter ≠ 0x65 && letter ≠ 0x45) = true)

include hletter

theorem exponentPart_nil (h : (exponentSign rest).2 = []) :
    exponentPart ending (letter :: rest) = .error (.here ending []) := by
  simp only [exponentPart, if_neg hletter]
  split
  · rfl
  · next hsome => cases h.symm.trans hsome

theorem exponentPart_cons (h : (exponentSign rest).2 = d :: others) :
    exponentPart ending (letter :: rest) =
      if isDigit d then
        .ok ⟨some ((exponentSign rest).1, d :: others.takeWhile isDigit), others.dropWhile isDigit,
          length_exponent_lt h⟩
      else .error (.here .badNumeral others) := by
  simp only [exponentPart, if_neg hletter]
  split
  · next hnone => cases h.symm.trans hnone
  · next hsome =>
    cases h.symm.trans hsome
    rfl

end Exponents

theorem mirrors_exponentPart (ending : Cause) (input : Bytes) :
    Outcome.Mirrors (exponentPart ending input) (exponentPart ending (marked input)) := by
  rcases marked_cases input with ⟨rfl, h⟩ | ⟨b, rest, -, rfl, h⟩ | ⟨b, rest, c, more, hb, hc, rfl, h⟩
  · rw [h]
    exact .of_rest h.symm _ _
  · rw [h]
    by_cases hletter : (b ≠ 0x65 && b ≠ 0x45) = true
    · simp only [exponentPart, hletter, if_true]
      exact .of_rest h.symm _ _
    have hsign := exponentSign_marked rest
    have hbehind : (exponentSign (marked rest)).2 = marked (exponentSign rest).2 := congrArg Prod.snd hsign
    rcases marked_cases (exponentSign rest).2 with ⟨hx, hy⟩ | ⟨d, others, -, hx, hy⟩ | ⟨d, others, e, more, hd, he, hx, hy⟩
    · rw [exponentPart_nil hletter hx, exponentPart_nil hletter (hbehind.trans hy)]
      exact .error _ _
    · rw [exponentPart_cons hletter hx, exponentPart_cons hletter (hbehind.trans hy), congrArg Prod.fst hsign]
      split
      · exact mirrors_digits (fun ds => some ((exponentSign rest).1, d :: ds)) others _ _
      · exact .error _ _
    · rw [exponentPart_cons hletter hx, exponentPart_cons hletter (hbehind.trans hy), not_isDigit_of_foreign hd,
        not_isDigit_of_foreign he]
      exact .error _ _
  · rw [h]
    simp only [exponentPart, ne_eq, hb.ne (c := 0x65) (by decide) (by decide), hb.ne (c := 0x45) (by decide) (by decide),
      hc.ne (c := 0x65) (by decide) (by decide), hc.ne (c := 0x45) (by decide) (by decide), not_false_eq_true,
      decide_true, Bool.and_true, if_true]
    exact .of_rest h.symm _ _

theorem mirrors_numeral (ending : Cause) (negative : Bool) : Reader.Mirrors (numeral ending negative) := by
  intro input
  have hwhole := mirrors_wholePart ending input
  simp only [numeral]
  generalize wholePart ending input = x at hwhole ⊢
  generalize wholePart ending (marked input) = y at hwhole ⊢
  cases hwhole with
  | error f g => exact .error f g
  | @ok whole rest _ _ =>
    have hfraction := mirrors_fractionPart ending rest
    simp only
    generalize fractionPart ending rest = x at hfraction ⊢
    generalize fractionPart ending (marked rest) = y at hfraction ⊢
    cases hfraction with
    | error f g => exact .error f g
    | @ok fraction rest _ _ =>
      have hexponent := mirrors_exponentPart ending rest
      simp only
      generalize exponentPart ending rest = x at hexponent ⊢
      generalize exponentPart ending (marked rest) = y at hexponent ⊢
      cases hexponent with
      | error f g => exact .error f g
      | ok _ _ => exact .ok _ _

theorem mirrors_number (negative : Bool) : Reader.Mirrors (number negative) := by
  intro input
  have hnumeral := mirrors_numeral .endInValue negative input
  simp only [number]
  generalize numeral .endInValue negative input = x at hnumeral ⊢
  generalize numeral .endInValue negative (marked input) = y at hnumeral ⊢
  cases hnumeral with
  | error f g => exact .error f g
  | ok _ _ =>
    simp only
    split
    · exact .ok _ _
    · exact .error _ _

end Numerals

section Escapes

variable {input rest bs : Bytes} {b : UInt8} {n : Nat}

theorem ne_mark_of_hexValue (h : hexValue b = some n) : b ≠ 0x3F := by
  rintro rfl
  cases h

/-- The digits of a number are plain letters. -/
theorem plain_of_unitValue {a b c d : UInt8} (h : unitValue a b c d = some n) :
    ∀ x ∈ [a, b, c, d], x < 0x80 ∧ x ≠ 0x3F := by
  intro x hx
  obtain ⟨_, hm⟩ := exists_hexValue h x hx
  exact ⟨low_of_hexValue hm, ne_mark_of_hexValue hm⟩

theorem mirrors_unit : Reader.Mirrors unit := by
  refine fun input => .of_yields fun n more => ?_
  simp only [yields_unit_iff]
  constructor
  · rintro ⟨a, b, c, d, hinput, hn⟩
    obtain ⟨rest, rfl, rfl⟩ := (marked_eq_append_iff (x := [a, b, c, d]) (plain_of_unitValue hn)).1 hinput
    exact ⟨rest, ⟨a, b, c, d, rfl, hn⟩, rfl⟩
  · rintro ⟨rest, ⟨a, b, c, d, rfl, hn⟩, rfl⟩
    exact ⟨a, b, c, d, (marked_eq_append_iff (x := [a, b, c, d]) (plain_of_unitValue hn)).2 ⟨rest, rfl, rfl⟩, hn⟩

theorem mirrors_lowUnit (high : Nat) : Reader.Mirrors (lowUnit high) := by
  intro input
  rcases marked_cases input with ⟨rfl, h⟩ | ⟨b, rest, -, rfl, h⟩ | ⟨b, rest, c, more, hb, hc, rfl, h⟩
  · rw [h]
    exact .error _ _
  · rw [h]
    simp only [lowUnit]
    split
    · exact .error _ _
    rcases marked_cases rest with ⟨rfl, h⟩ | ⟨letter, digits, -, rfl, h⟩ | ⟨letter, digits, c, more, hd, he, rfl, h⟩
    · rw [h]
      exact .error _ _
    · rw [h]
      simp only
      split
      · exact .error _ _
      have hunit := mirrors_unit digits
      generalize unit digits = x at hunit ⊢
      generalize unit (marked digits) = y at hunit ⊢
      cases hunit with
      | error f g => exact .error f g
      | ok _ _ =>
        simp only
        split
        · exact .ok _ _
        · exact .error _ _
    · rw [h]
      simp only [if_pos (hd.ne (c := 0x75) (by decide) (by decide)), if_pos (he.ne (c := 0x75) (by decide) (by decide))]
      exact .error _ _
  · rw [h]
    simp only [lowUnit, if_pos (hb.ne (c := backslash) (by decide) (by decide)),
      if_pos (hc.ne (c := backslash) (by decide) (by decide))]
    exact .error _ _

/-- Escapes by number are read alike, also in pairs. -/
theorem mirrors_numbered (input : Bytes) : Outcome.Mirrors (numbered input) (numbered (marked input)) := by
  have hunit := mirrors_unit input
  simp only [numbered]
  generalize unit input = x at hunit ⊢
  generalize unit (marked input) = y at hunit ⊢
  cases hunit with
  | error f g => exact .error f g
  | @ok n rest _ _ =>
    simp only
    split
    · exact .error _ _
    split
    · exact (mirrors_lowUnit n rest).widen _ _
    · exact .ok _ _

theorem shortEscape_of_foreign (h : IsForeign b) : shortEscape b = none := by
  simp [shortEscape, h.ne]

theorem escape_of_foreign (h : IsForeign b) : escape (b :: rest) = .error (.here .badEscape rest) := by
  simp only [escape, shortEscape_of_foreign h, if_neg (h.ne (c := 0x75) (by decide) (by decide))]

theorem passEscape_of_foreign (h : IsForeign b) : passEscape (b :: rest) = .error (.here .badEscape rest) := by
  simp only [passEscape, shortEscape_of_foreign h, if_neg (h.ne (c := 0x75) (by decide) (by decide))]

theorem mirrors_escape : Reader.Mirrors escape := by
  intro input
  rcases marked_cases input with ⟨rfl, h⟩ | ⟨letter, rest, -, rfl, h⟩ | ⟨b, rest, c, more, hb, hc, rfl, h⟩
  · rw [h]
    exact .error _ _
  · rw [h]
    simp only [escape]
    split
    · exact .ok _ _
    split
    · exact (mirrors_numbered rest).afterFirst
    · exact .error _ _
  · rw [h, escape_of_foreign hb, escape_of_foreign hc]
    exact .error _ _

theorem mirrors_passEscape : Reader.Mirrors passEscape := by
  intro input
  rcases marked_cases input with ⟨rfl, h⟩ | ⟨letter, rest, -, rfl, h⟩ | ⟨b, rest, c, more, hb, hc, rfl, h⟩
  · rw [h]
    exact .error _ _
  · rw [h]
    simp only [passEscape]
    split
    · exact .ok _ _
    split
    · exact ((mirrors_unit rest).map _).afterFirst
    · exact .error _ _
  · rw [h, passEscape_of_foreign hb, passEscape_of_foreign hc]
    exact .error _ _

end Escapes

section Texts

variable {input rest done bs : Bytes} {b : UInt8}

/-- Whatever is read behind a backslash starts a character, so it goes on with none. -/
theorem exists_char_of_escape (h : (escape input).Yields bs rest) : ∃ c, bs = String.utf8EncodeChar c := by
  obtain ⟨_, _, c, _, _, hc, _⟩ := exists_pieces_of_escape h
  exact ⟨c, hc⟩

/-- If the bytes that are spelled start with some that only go on with a character, these stand there as they are. -/
theorem tails_of_spelledBytes {h : input.length ≤ bound} (hyields : (spelledBytes input h done).Yields bs rest) :
    ∃ spelled, bs = done.reverse ++ spelled ∧
      ∀ tails, (∀ t ∈ tails, isTail t = true) → tails <+: spelled → tails <+: input := by
  induction hn : input.length using Nat.strongRecOn generalizing input done with
  | ind n ih =>
    cases input with
    | nil =>
      rw [spelledBytes] at hyields
      exact absurd hyields not_yields_error
    | cons b more =>
      rw [List.length_cons] at hn
      rw [spelledBytes] at hyields
      split at hyields
      · obtain ⟨rfl, rfl⟩ := yields_ok_iff.1 hyields
        refine ⟨[], (List.append_nil _).symm, fun tails _ hfront => ?_⟩
        rw [List.prefix_nil.1 hfront]
        exact List.nil_prefix
      split at hyields
      · cases hletters : escape more with
        | error fault =>
          rw [hletters] at hyields
          exact absurd hyields not_yields_error
        | ok p =>
          rw [hletters] at hyields
          have hless : p.rest.length < n := by
            have := p.shorter
            omega
          obtain ⟨c, hc⟩ := exists_char_of_escape (hletters ▸ yields_ok_iff.2 ⟨rfl, rfl⟩)
          obtain ⟨first, others, hfirst⟩ := List.exists_cons_of_ne_nil (@String.utf8EncodeChar_ne_nil c)
          obtain ⟨spelled, rfl, -⟩ := ih p.rest.length hless hyields rfl
          refine ⟨p.value ++ spelled, reverse_done .., fun tails htails hfront => ?_⟩
          cases tails with
          | nil => exact List.nil_prefix
          | cons t tails =>
            rw [hc, hfirst, List.cons_append, List.cons_prefix_cons] at hfront
            have htail := htails t List.mem_cons_self
            rw [hfront.1, (isTail_of_utf8EncodeChar hfirst).1] at htail
            cases htail
      split at hyields
      · exact absurd hyields not_yields_error
      · obtain ⟨spelled, rfl, hspelled⟩ := ih more.length (by omega) hyields rfl
        refine ⟨b :: spelled, by simp, fun tails htails hfront => ?_⟩
        cases tails with
        | nil => exact List.nil_prefix
        | cons t tails =>
          rw [List.cons_prefix_cons] at hfront ⊢
          exact ⟨hfront.1, hspelled tails (fun u hu => htails u (List.mem_cons_of_mem _ hu)) hfront.2⟩

theorem isPlainByte_of_le (hb : 0x80 ≤ b) : IsPlainByte b := by
  simp only [IsPlainByte, quoteMark, backslash, Ne, UInt8.lt_iff_toNat_lt, ← UInt8.toNat_inj, UInt8.le_iff_toNat_le,
    UInt8.reduceToNat] at hb ⊢
  omega

theorem strayMark_append (rest : Bytes) :
    strayMark ++ rest = 0x3F :: backslash :: 0x75 :: 0x64 :: 0x63 :: 0x30 :: 0x30 :: rest :=
  rfl

/-- A text in which a mark is read is refused. -/
theorem spelledBytes_strayMark (rest : Bytes) (h : (strayMark ++ rest).length ≤ bound) (done : Bytes) :
    spelledBytes (strayMark ++ rest) h done = .error (.here .loneSurrogate rest) := by
  have hrefused : escape (0x75 :: 0x64 :: 0x63 :: 0x30 :: 0x30 :: rest) = .error (.here .loneSurrogate rest) := rfl
  simp only [strayMark_append]
  rw [spelledBytes, if_neg (by decide), if_neg (by decide), if_neg (by decide), spelledBytes, if_neg (by decide),
    if_pos rfl]
  simp only [hrefused]

/-- A stray byte is spelled as it is, and no byte goes on with it that did not before. -/
theorem not_isText_of_spelledBytes {h : (b :: input).length ≤ bound} (hb : 0x80 ≤ b)
    (hfront : firstChar? (b :: input) = none) (hdone : IsText done.reverse)
    (hyields : (spelledBytes (b :: input) h done).Yields bs rest) : ¬ IsText bs := by
  obtain ⟨hquote, hback, hcontrol⟩ := isPlainByte_of_le hb
  rw [spelledBytes, if_neg hquote, if_neg hback, if_neg hcontrol] at hyields
  obtain ⟨spelled, rfl, htails⟩ := tails_of_spelledBytes hyields
  rw [List.reverse_cons, List.append_assoc]
  exact fun hbs => not_isText_of_stray hfront htails (isText_behind_text hdone hbs)

/-- The same bytes are spelled; or there is a stray byte, which is spelled in no text, and whose mark is refused.  The
induction is on the number of bytes, and it goes from one character or stray byte to the next. -/
theorem mirrors_spelledBytes (h : input.length ≤ bound) (h' : (marked input).length ≤ larger) (hdone : IsText done.reverse) :
    Outcome.Mirrors (spelledBytes input h done) (spelledBytes (marked input) h' done) ∨
      (∃ g, spelledBytes (marked input) h' done = .error g) ∧
        ∀ bs rest, (spelledBytes input h done).Yields bs rest → ¬ IsText bs := by
  induction hn : input.length using Nat.strongRecOn generalizing input done with
  | ind n ih =>
    rcases front_cases input with rfl | ⟨b, rest, hb, rfl⟩ | ⟨c, rest, hc, rfl⟩ | ⟨b, rest, hb, rfl, hfront⟩
    · simp only [marked_nil]
      rw [spelledBytes, spelledBytes]
      exact .inl (.error _ _)
    · rw [List.length_cons] at hn
      simp only [marked_low hb]
      rw [spelledBytes, spelledBytes]
      split
      · exact .inl (.ok _ _)
      split
      · have hescape := mirrors_escape rest
        have hchar : ∀ bs more, (escape rest).Yields bs more → ∃ c, bs = String.utf8EncodeChar c :=
          fun _ _ => exists_char_of_escape
        generalize escape rest = x at hescape hchar ⊢
        generalize escape (marked rest) = y at hescape ⊢
        cases hescape with
        | error f g => exact .inl (.error f g)
        | @ok bs more hshorter _ =>
          obtain ⟨c, rfl⟩ := hchar bs more ⟨hshorter, rfl⟩
          refine ih more.length (by omega) _ _ ?_ rfl
          rw [List.reverse_append, List.reverse_reverse]
          exact isText_append hdone (isText_utf8EncodeChar c)
      split
      · exact .inl (.error _ _)
      · refine ih rest.length (by omega) _ _ ?_ rfl
        rw [List.reverse_cons]
        exact isText_append hdone (isText_singleton hb)
    · have hless : rest.length < n := hn ▸ length_lt_of_char c rest
      have hbound : rest.length ≤ bound := by
        rw [List.length_append] at h
        omega
      simp only [marked_char] at h' ⊢
      have hbound' : (marked rest).length ≤ larger := by
        rw [List.length_append] at h'
        omega
      rw [spelledBytes_plain (isPlainByte_of_high hc) h hbound, spelledBytes_plain (isPlainByte_of_high hc) h' hbound']
      refine ih rest.length hless hbound hbound' ?_ rfl
      rw [List.reverse_append, List.reverse_reverse]
      exact isText_append hdone (isText_utf8EncodeChar c)
    · simp only [marked_stray hfront]
      exact .inr ⟨⟨_, spelledBytes_strayMark ..⟩, fun _ _ => not_isText_of_spelledBytes hb hfront hdone⟩

/-- Reading a text minds stray bytes, and their marks as well. -/
theorem mirrors_text : Reader.Mirrors text := by
  intro input
  have hnone : IsText (List.reverse []) := isText_nil
  rcases mirrors_spelledBytes (length_le_self input) (length_le_self (marked input)) hnone with
    hspelled | ⟨⟨g, hg⟩, hstray⟩
  · simp only [text]
    generalize spelledBytes input (length_le_self input) [] = x at hspelled ⊢
    generalize spelledBytes (marked input) (length_le_self (marked input)) [] = y at hspelled ⊢
    cases hspelled with
    | error f g => exact .error f g
    | ok _ _ =>
      simp only
      split
      · exact .ok _ _
      · exact .error _ _
  · refine .of_yields fun s more => ?_
    constructor
    · intro hmarked
      rw [yields_text_iff, hg] at hmarked
      exact absurd hmarked not_yields_error
    · rintro ⟨rest, hrest, -⟩
      exact absurd (isText_bytes s) (hstray _ _ (yields_text_iff.1 hrest))

/-- A mark is passed over. -/
theorem passText_strayMark (rest : Bytes) (h : (strayMark ++ rest).length ≤ bound) (hrest : rest.length ≤ bound) :
    passText (strayMark ++ rest) h = passText rest hrest := by
  have hpassed : passEscape (0x75 :: 0x64 :: 0x63 :: 0x30 :: 0x30 :: rest) = .ok ⟨(), rest, by simp; omega⟩ := rfl
  simp only [strayMark_append]
  rw [passText, if_neg (by decide), if_neg (by decide), if_neg (by decide), passText, if_neg (by decide), if_pos rfl]
  simp only [hpassed]

/-- Passing over a text minds neither stray bytes nor their marks. -/
theorem mirrors_passText (h : input.length ≤ bound) (h' : (marked input).length ≤ larger) :
    Outcome.Mirrors (passText input h) (passText (marked input) h') := by
  induction hn : input.length using Nat.strongRecOn generalizing input with
  | ind n ih =>
    rcases front_cases input with rfl | ⟨b, rest, hb, rfl⟩ | ⟨c, rest, hc, rfl⟩ | ⟨b, rest, hb, rfl, hfront⟩
    · simp only [marked_nil]
      rw [passText, passText]
      exact .error _ _
    · rw [List.length_cons] at hn
      simp only [marked_low hb]
      rw [passText, passText]
      split
      · exact .ok _ _
      split
      · have hescape := mirrors_passEscape rest
        generalize passEscape rest = x at hescape ⊢
        generalize passEscape (marked rest) = y at hescape ⊢
        cases hescape with
        | error f g => exact .error f g
        | @ok _ more hshorter _ => exact ih more.length (by omega) _ _ rfl
      split
      · exact .error _ _
      · exact ih rest.length (by omega) _ _ rfl
    · have hless : rest.length < n := hn ▸ length_lt_of_char c rest
      have hbound : rest.length ≤ bound := by
        rw [List.length_append] at h
        omega
      simp only [marked_char] at h' ⊢
      have hbound' : (marked rest).length ≤ larger := by
        rw [List.length_append] at h'
        omega
      rw [passText_plain (isPlainByte_of_high hc) h hbound, passText_plain (isPlainByte_of_high hc) h' hbound']
      exact ih rest.length hless hbound hbound' rfl
    · obtain ⟨hquote, hback, hcontrol⟩ := isPlainByte_of_le hb
      simp only [marked_stray hfront] at h' ⊢
      have hbound' : (marked rest).length ≤ larger := by
        rw [List.length_append] at h'
        omega
      rw [passText_strayMark _ h' hbound', passText, if_neg hquote, if_neg hback, if_neg hcontrol]
      exact ih rest.length (by simp [← hn]) _ hbound' rfl

end Texts

end Json

end ChatOpening
