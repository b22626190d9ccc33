import ChatOpening.Proofs.Json.Grammar
import ChatOpening.Proofs.Json.Yields
import ChatOpening.Proofs.Text.Cut

/-!
# Numerals are read as they are spelled

A numeral has no closing mark, so it is read as it is spelled where something follows that cannot go on with it: a blank,
a comma, a closing mark, or nothing.

**Input.**  Bytes, behind a minus sign if there is one.

**Results.**
* `unsignedSpelled_of_yields`, `yields_numeral_of_spelled`: reading a numeral.
* `integer?_eq_some_iff`: which numerals are whole numbers, and of which value.
* `value_eq_integer_iff`: the same for what is read as a number.
-/

namespace ChatOpening

namespace Json

section Digits

variable {ds input rest others : Bytes} {b d : UInt8}

def NoDigit (rest : Bytes) : Prop :=
  ∀ b ∈ rest.head?, isDigit b = false

theorem noDigit_cons (h : isDigit b = false) : NoDigit (b :: rest) := by
  intro c hc
  cases hc
  exact h

/-- Digits are taken up to the first byte that is none. -/
theorem takeWhile_digits (hds : ∀ d ∈ ds, isDigit d = true) (hrest : NoDigit rest) :
    (ds ++ rest).takeWhile isDigit = ds :=
  takeWhile_append_of_stop hds hrest

theorem dropWhile_digits (hds : ∀ d ∈ ds, isDigit d = true) (hrest : NoDigit rest) :
    (ds ++ rest).dropWhile isDigit = rest :=
  dropWhile_append_of_stop hds hrest

/-- A digit and those behind it. -/
theorem isDigits_cons (hd : isDigit d = true) (others : Bytes) : IsDigits (d :: others.takeWhile isDigit) := by
  refine ⟨List.cons_ne_nil _ _, ?_⟩
  intro e he
  rcases List.mem_cons.1 he with rfl | he
  · exact hd
  · exact List.all_eq_true.1 List.all_takeWhile e he

theorem cons_eq_digits_append (d : UInt8) (others : Bytes) :
    d :: others = (d :: others.takeWhile isDigit) ++ others.dropWhile isDigit := by
  rw [List.cons_append, List.takeWhile_append_dropWhile]

/-- The byte does not go on with the whole part, nor with a fraction or an exponent. -/
theorem ne_of_isStop (h : isStop b = true) : isDigit b = false ∧ b ≠ 0x2E ∧ b ≠ 0x65 ∧ b ≠ 0x45 := by
  simp only [isStop, isBlankByte, Bool.or_eq_true, decide_eq_true_eq] at h
  rcases h with (((((rfl | rfl) | rfl) | rfl) | rfl) | rfl) | rfl <;> decide

theorem noDigit_of_stops (h : Stops rest) : NoDigit rest :=
  fun b hb => (ne_of_isStop (h b hb)).1

end Digits

section Parts

variable {ds input rest : Bytes} {ending : Cause} {fraction : Option Bytes} {exponent : Option (Bool × Bytes)}

theorem isWhole_of_yields (h : (wholePart ending input).Yields ds rest) : IsWhole ds ∧ input = ds ++ rest := by
  cases input with
  | nil => exact absurd h not_yields_error
  | cons d others =>
    simp only [wholePart] at h
    split at h
    · next hzero =>
      have hsingle : IsWhole [0x30] := by
        refine ⟨⟨List.cons_ne_nil _ _, ?_⟩, fun _ => rfl⟩
        simp [isDigit]
      subst hzero
      split at h
      · split at h
        · exact absurd h not_yields_error
        · obtain ⟨rfl, rfl⟩ := yields_ok_iff.1 h
          exact ⟨hsingle, rfl⟩
      · obtain ⟨rfl, rfl⟩ := yields_ok_iff.1 h
        exact ⟨hsingle, rfl⟩
    · next hzero =>
      split at h
      · next hdigit =>
        obtain ⟨rfl, rfl⟩ := yields_ok_iff.1 h
        refine ⟨⟨isDigits_cons hdigit others, fun hhead => ?_⟩, cons_eq_digits_append d others⟩
        exact absurd (Option.some.inj hhead) hzero
      · exact absurd h not_yields_error

/-- Every whole part is read. -/
theorem yields_wholePart_of_isWhole (h : IsWhole ds) (hrest : NoDigit rest) :
    (wholePart ending (ds ++ rest)).Yields ds rest := by
  obtain ⟨⟨hne, hdigits⟩, hzero⟩ := h
  obtain ⟨d, others, rfl⟩ := List.exists_cons_of_ne_nil hne
  by_cases hd : d = 0x30
  · subst hd
    have hnone : others = [] := (List.cons.inj (hzero rfl)).2
    subst hnone
    cases rest with
    | nil => simp [wholePart, Parsed.before]
    | cons b more => simp [wholePart, hrest b rfl, Parsed.before]
  · have hothers : ∀ e ∈ others, isDigit e = true := fun e he => hdigits e (List.mem_cons_of_mem _ he)
    simp only [wholePart, List.cons_append]
    rw [if_neg hd, if_pos (hdigits d List.mem_cons_self)]
    exact yields_ok_iff.2 ⟨congrArg (d :: ·) (takeWhile_digits hothers hrest), dropWhile_digits hothers hrest⟩

theorem fractionSpelled_of_yields (h : (fractionPart ending input).Yields fraction rest) :
    ∃ b, FractionSpelled fraction b ∧ input = b ++ rest := by
  cases input with
  | nil =>
    obtain ⟨rfl, rfl⟩ := yields_ok_iff.1 h
    exact ⟨[], rfl, rfl⟩
  | cons mark others =>
    simp only [fractionPart] at h
    split at h
    · obtain ⟨rfl, rfl⟩ := yields_ok_iff.1 h
      exact ⟨[], rfl, rfl⟩
    · next hmark =>
      split at h
      · exact absurd h not_yields_error
      · next d more =>
        split at h
        · next hdigit =>
          obtain ⟨rfl, rfl⟩ := yields_ok_iff.1 h
          refine ⟨_, ⟨isDigits_cons hdigit more, rfl⟩, ?_⟩
          rw [Decidable.not_not.1 hmark, List.cons_append, ← cons_eq_digits_append]
        · exact absurd h not_yields_error

/-- Every fraction is read, and without a point there is none. -/
theorem yields_fractionPart_of_spelled {b : Bytes} (h : FractionSpelled fraction b) (hmark : ∀ c ∈ rest.head?, c ≠ 0x2E)
    (hrest : NoDigit rest) : (fractionPart ending (b ++ rest)).Yields fraction rest := by
  cases fraction with
  | none =>
    rw [FractionSpelled] at h
    subst h
    cases rest with
    | nil => simp [fractionPart, Parsed.before]
    | cons c more => simp [fractionPart, hmark c rfl, Parsed.before]
  | some ds =>
    obtain ⟨⟨hne, hdigits⟩, rfl⟩ := h
    obtain ⟨d, others, rfl⟩ := List.exists_cons_of_ne_nil hne
    have hothers : ∀ e ∈ others, isDigit e = true := fun e he => hdigits e (List.mem_cons_of_mem _ he)
    have hd : isDigit d = true := hdigits d List.mem_cons_self
    simp [fractionPart, hd, takeWhile_digits hothers hrest, dropWhile_digits hothers hrest]

/-- The sign of an exponent may be left out. -/
theorem exponentSign_eq_iff {down : Bool} (hrest : ∃ d others, rest = d :: others ∧ isDigit d = true) :
    exponentSign input = (down, rest) ↔
      ∃ sign, (if down then sign = [0x2D] else sign = [] ∨ sign = [0x2B]) ∧ input = sign ++ rest := by
  obtain ⟨d, others, rfl, hd⟩ := hrest
  have hplus : d ≠ 0x2B := by
    rintro rfl
    cases hd
  have hminus : d ≠ 0x2D := by
    rintro rfl
    cases hd
  constructor
  · intro h
    cases input with
    | nil => simp [exponentSign] at h
    | cons b more =>
      simp only [exponentSign] at h
      split at h
      · next hb =>
        cases h
        exact ⟨[0x2B], .inr rfl, by rw [hb]; rfl⟩
      split at h
      · next hb =>
        cases h
        exact ⟨[0x2D], rfl, by rw [hb]; rfl⟩
      · cases h
        exact ⟨[], .inl rfl, rfl⟩
  · rintro ⟨sign, hsign, rfl⟩
    cases down with
    | true =>
      rw [if_pos rfl] at hsign
      subst hsign
      rfl
    | false =>
      rcases hsign with rfl | rfl
      · simp [exponentSign, hplus, hminus]
      · rfl

theorem exponentSpelled_of_yields (h : (exponentPart ending input).Yields exponent rest) :
    ∃ b, ExponentSpelled exponent b ∧ input = b ++ rest := by
  cases input with
  | nil =>
    obtain ⟨rfl, rfl⟩ := yields_ok_iff.1 h
    exact ⟨[], rfl, rfl⟩
  | cons letter more =>
    simp only [exponentPart] at h
    split at h
    · obtain ⟨rfl, rfl⟩ := yields_ok_iff.1 h
      exact ⟨[], rfl, rfl⟩
    · next hletter =>
      have hletter : letter = 0x65 ∨ letter = 0x45 := by
        simp only [ne_eq, Bool.and_eq_true, decide_eq_true_eq, not_and, Decidable.not_not] at hletter
        by_cases hsmall : letter = 0x65
        · exact .inl hsmall
        · exact .inr (hletter hsmall)
      split at h
      · exact absurd h not_yields_error
      · next d others hothers =>
        split at h
        · next hdigit =>
          obtain ⟨rfl, rfl⟩ := yields_ok_iff.1 h
          have hsplit : exponentSign more = ((exponentSign more).1, d :: others) := by
            rw [← hothers]
          obtain ⟨sign, hsign, hmore⟩ := (exponentSign_eq_iff ⟨d, others, rfl, hdigit⟩).1 hsplit
          refine ⟨_, ⟨isDigits_cons hdigit others, letter, sign, hletter, hsign, rfl⟩, ?_⟩
          rw [List.cons_append, List.append_assoc, ← cons_eq_digits_append, ← hmore]
        · exact absurd h not_yields_error

/-- Every exponent is read, and without its letter there is none. -/
theorem yields_exponentPart_of_spelled {b : Bytes} (h : ExponentSpelled exponent b)
    (hletter : ∀ c ∈ rest.head?, c ≠ 0x65 ∧ c ≠ 0x45) (hrest : NoDigit rest) :
    (exponentPart ending (b ++ rest)).Yields exponent rest := by
  cases exponent with
  | none =>
    rw [ExponentSpelled] at h
    subst h
    cases rest with
    | nil => simp [exponentPart, Parsed.before]
    | cons c more => simp [exponentPart, hletter c rfl, Parsed.before]
  | some exponent =>
    obtain ⟨down, ds⟩ := exponent
    obtain ⟨⟨hne, hdigits⟩, letter, sign, hletter, hsign, rfl⟩ := h
    obtain ⟨d, others, rfl⟩ := List.exists_cons_of_ne_nil hne
    have hothers : ∀ e ∈ others, isDigit e = true := fun e he => hdigits e (List.mem_cons_of_mem _ he)
    have hd : isDigit d = true := hdigits d List.mem_cons_self
    have hsplit : exponentSign (sign ++ (d :: others ++ rest)) = (down, d :: others ++ rest) :=
      (exponentSign_eq_iff ⟨d, others ++ rest, rfl, hd⟩).2 ⟨sign, hsign, rfl⟩
    have hpresent : ¬ (letter ≠ 0x65 && letter ≠ 0x45) = true := by
      rcases hletter with rfl | rfl <;> decide
    rw [List.cons_append, List.append_assoc, exponentPart, if_neg hpresent]
    split
    · next hnone =>
      rw [hsplit] at hnone
      cases hnone
    · next e more hmore =>
      rw [hsplit] at hmore
      cases hmore
      rw [if_pos hd]
      refine yields_ok_iff.2 ⟨?_, dropWhile_digits hothers hrest⟩
      show some ((exponentSign (sign ++ (d :: others ++ rest))).1, d :: (others ++ rest).takeWhile isDigit) = _
      rw [hsplit, takeWhile_digits hothers hrest]

end Parts

section Reading

variable {input rest digits : Bytes} {ending : Cause} {negative : Bool} {n : Numeral}

/-- What is read as a numeral is spelled as it. -/
theorem unsignedSpelled_of_yields (h : (numeral ending negative input).Yields n rest) :
    n.negative = negative ∧ ∃ digits, UnsignedSpelled n digits ∧ input = digits ++ rest := by
  simp only [numeral] at h
  cases hwhole : wholePart ending input with
  | error fault =>
    rw [hwhole] at h
    exact absurd h not_yields_error
  | ok whole =>
    rw [hwhole] at h
    simp only at h
    cases hfraction : fractionPart ending whole.rest with
    | error fault =>
      rw [hfraction] at h
      exact absurd h not_yields_error
    | ok fraction =>
      rw [hfraction] at h
      simp only at h
      cases hexponent : exponentPart ending fraction.rest with
      | error fault =>
        rw [hexponent] at h
        exact absurd h not_yields_error
      | ok exponent =>
        rw [hexponent] at h
        obtain ⟨rfl, rfl⟩ := yields_ok_iff.1 h
        obtain ⟨hds, hinput⟩ := isWhole_of_yields (hwhole ▸ yields_ok_iff.2 ⟨rfl, rfl⟩)
        obtain ⟨f, hf, hbehind⟩ := fractionSpelled_of_yields (hfraction ▸ yields_ok_iff.2 ⟨rfl, rfl⟩)
        obtain ⟨e, he, hrest⟩ := exponentSpelled_of_yields (hexponent ▸ yields_ok_iff.2 ⟨rfl, rfl⟩)
        have hdigits : whole.rest = (f ++ e) ++ exponent.rest :=
          hbehind.trans ((congrArg (f ++ ·) hrest).trans (List.append_assoc ..).symm)
        refine ⟨rfl, _, ⟨f, e, hds, hf, he, rfl⟩, ?_⟩
        exact hinput.trans ((congrArg (whole.value ++ ·) hdigits).trans (List.append_assoc ..).symm)

/-- An exponent starts with its letter. -/
theorem head?_exponent {exponent : Option (Bool × Bytes)} {e : Bytes} (he : ExponentSpelled exponent e) (hrest : Stops rest) :
    ∀ b ∈ (e ++ rest).head?, isDigit b = false ∧ b ≠ 0x2E := by
  intro b hb
  cases exponent with
  | none =>
    rw [ExponentSpelled] at he
    subst he
    exact ⟨(ne_of_isStop (hrest b hb)).1, (ne_of_isStop (hrest b hb)).2.1⟩
  | some exponent =>
    obtain ⟨-, letter, sign, hletter, -, rfl⟩ := he
    cases hb
    rcases hletter with rfl | rfl <;> decide

theorem noDigit_fraction {fraction : Option Bytes} {f : Bytes} (hf : FractionSpelled fraction f) (hrest : NoDigit rest) :
    NoDigit (f ++ rest) := by
  cases fraction with
  | none =>
    rw [FractionSpelled] at hf
    rw [hf]
    exact hrest
  | some ds =>
    obtain ⟨-, rfl⟩ := hf
    exact noDigit_cons rfl

/-- What is spelled as a numeral is read as it, if nothing follows that goes on with it. -/
theorem yields_numeral_of_spelled (h : UnsignedSpelled n digits) (hrest : Stops rest) :
    (numeral ending n.negative (digits ++ rest)).Yields n rest := by
  obtain ⟨f, e, hwhole, hf, he, rfl⟩ := h
  have hexponent := head?_exponent he hrest
  have hstop : ∀ b ∈ rest.head?, b ≠ 0x65 ∧ b ≠ 0x45 := fun b hb => (ne_of_isStop (hrest b hb)).2.2
  have hnodigit : NoDigit (e ++ rest) := fun b hb => (hexponent b hb).1
  obtain ⟨_, hw⟩ := @yields_wholePart_of_isWhole _ _ ending hwhole (noDigit_fraction hf hnodigit)
  obtain ⟨_, hf⟩ := @yields_fractionPart_of_spelled _ ending _ _ hf (fun b hb => (hexponent b hb).2) hnodigit
  obtain ⟨_, he⟩ := @yields_exponentPart_of_spelled _ ending _ _ he hstop (noDigit_of_stops hrest)
  have hinput : n.whole ++ (f ++ e) ++ rest = n.whole ++ (f ++ (e ++ rest)) := by
    rw [List.append_assoc, List.append_assoc]
  rw [hinput]
  simp [numeral, hw, hf, he]

/-- A numeral at the front has its minus sign there, or a digit. -/
theorem begins_of_yields_numeral {more : Bytes} (h : (numeral ending negative more).Yields n rest)
    (hskip : skipBlanks input = if negative then 0x2D :: more else more) : Begins (.number n) input rest := by
  obtain ⟨rfl, digits, hdigits, rfl⟩ := unsignedSpelled_of_yields h
  exact begins_number_iff.2 ⟨digits, hdigits, hskip⟩

/-- A numeral that begins there is read to its last digit. -/
theorem yields_numeral_of_begins (h : Begins (.number n) input rest) (hrest : Stops rest) :
    ∃ d more, isDigit d = true ∧ (skipBlanks input = if n.negative then 0x2D :: d :: more else d :: more) ∧
      (numeral ending n.negative (d :: more)).Yields n rest := by
  obtain ⟨digits, hdigits, hskip⟩ := begins_number_iff.1 h
  obtain ⟨d, more, rfl, hd⟩ := exists_digit_of_unsignedSpelled hdigits
  exact ⟨d, more ++ rest, hd, hskip, yields_numeral_of_spelled hdigits hrest⟩

/-- A number is a numeral with its value. -/
theorem yields_number_iff {x : Number} :
    (number negative input).Yields x rest ↔
      ∃ n, (numeral .endInValue negative input).Yields n rest ∧ n.value = .ok x := by
  simp only [number]
  cases numeral .endInValue negative input with
  | error fault => simp
  | ok p =>
    simp only [yields_ok_iff]
    split
    · next y hy =>
      simp only [yields_ok_iff]
      constructor
      · rintro ⟨rfl, rfl⟩
        exact ⟨p.value, ⟨rfl, rfl⟩, hy⟩
      · rintro ⟨_, ⟨rfl, rfl⟩, hx⟩
        exact ⟨Except.ok.inj (hy.symm.trans hx), rfl⟩
    · next beyond hbeyond =>
      constructor
      · intro h
        exact absurd h not_yields_error
      · rintro ⟨_, ⟨rfl, -⟩, hx⟩
        rw [hbeyond] at hx
        cases hx

end Reading

section Wholes

open Numeral

variable {n : Numeral} {i : Int} {limit word : Nat} {ds : Bytes}

/-- The number that digits spell behind others. -/
def spelledNumber (word : Nat) (ds : Bytes) : Nat :=
  ds.foldl (fun w d => w * 10 + digitValue d) word

/-- Further digits never make a number smaller. -/
theorem le_spelledNumber (word : Nat) (ds : Bytes) : word ≤ spelledNumber word ds := by
  induction ds generalizing word with
  | nil => exact Nat.le_refl _
  | cons d ds ih =>
    have hmore : word * 10 + digitValue d ≤ spelledNumber word (d :: ds) := ih _
    omega

/-- Digits are put together to the end if the number stays below the limit. -/
theorem gather_eq_nil_iff (hword : word ≤ limit) {w : Nat} :
    gather limit word ds = (w, []) ↔ spelledNumber word ds = w ∧ w ≤ limit := by
  induction ds generalizing word with
  | nil =>
    simp only [gather, spelledNumber, List.foldl_nil, Prod.mk.injEq, and_true]
    constructor
    · rintro rfl
      exact ⟨rfl, hword⟩
    · rintro ⟨rfl, -⟩
      rfl
  | cons d ds ih =>
    simp only [gather]
    split
    · next hle => exact ih hle
    · next hgt =>
      have hmore : word * 10 + digitValue d ≤ spelledNumber word (d :: ds) := le_spelledNumber _ ds
      constructor
      · intro h
        cases h
      · rintro ⟨rfl, hle⟩
        omega

/-- The numeral has neither fraction nor exponent, and its digits spell the number. There is no minus zero. -/
structure Spells (n : Numeral) (i : Int) : Prop where
  fraction : n.fraction = none
  exponent : n.exponent = none
  size : i.natAbs = spelledNumber 0 n.whole
  sign : n.negative = true ↔ i < 0

/-- A whole number of 64 bits, signed or not. -/
def IsWord (i : Int) : Prop :=
  -0x8000000000000000 ≤ i ∧ i < 0x10000000000000000

instance (i : Int) : Decidable (IsWord i) :=
  inferInstanceAs (Decidable (_ ∧ _))

/-- A whole numeral is an integer as far as 64 bits reach. -/
theorem integer?_of_whole (negative : Bool) (whole : Bytes) :
    integer? ⟨negative, whole, none, none⟩ =
      if spelledNumber 0 whole < 0x10000000000000000 then
        if negative then
          if 0 < spelledNumber 0 whole ∧ spelledNumber 0 whole ≤ 0x8000000000000000 then
            some (-(spelledNumber 0 whole : Int))
          else none
        else some (spelledNumber 0 whole)
      else none := by
  have hgather : ∀ w, gather greatestWord 0 whole = (w, []) ↔ spelledNumber 0 whole = w ∧ w ≤ greatestWord :=
    fun _ => gather_eq_nil_iff (Nat.zero_le _)
  have hgreatest : greatestWord = 0xFFFFFFFFFFFFFFFF := by
    decide
  split
  · next hsize =>
    have hword := (hgather _).2 ⟨rfl, by omega⟩
    simp [integer?, hword]
  · next hsize =>
    unfold integer?
    split
    · next word _ _ hword =>
      have := (hgather word).1 hword
      omega
    · rfl

/-- A numeral is a whole number if it spells one of 64 bits, signed or not. -/
theorem integer?_eq_some_iff : n.integer? = some i ↔ Spells n i ∧ IsWord i := by
  obtain ⟨negative, whole, fraction, exponent⟩ := n
  constructor
  · intro h
    have hnone : fraction = none ∧ exponent = none := by
      unfold integer? at h
      split at h
      · next hfraction hexponent _ => exact ⟨hfraction, hexponent⟩
      · cases h
    obtain ⟨rfl, rfl⟩ := hnone
    rw [integer?_of_whole] at h
    split at h
    · cases negative with
      | true =>
        rw [if_pos rfl] at h
        split at h
        · cases h
          exact ⟨⟨rfl, rfl, by simp, by simp; omega⟩, by omega, by omega⟩
        · cases h
      | false =>
        rw [if_neg (by decide)] at h
        cases h
        exact ⟨⟨rfl, rfl, by simp, by simp⟩, by omega, by omega⟩
    · cases h
  · rintro ⟨⟨hfraction, hexponent, hsize, hsign⟩, hlow, hhigh⟩
    simp only at hfraction hexponent hsize hsign
    subst hfraction hexponent
    rw [integer?_of_whole, ← hsize, if_pos (by omega)]
    cases negative with
    | true =>
      have hnegative : i < 0 := hsign.1 rfl
      rw [if_pos rfl, if_pos (by omega)]
      exact congrArg some (by omega)
    | false =>
      have hpositive : ¬ i < 0 := fun h => Bool.noConfusion (hsign.2 h)
      rw [if_neg (by decide)]
      exact congrArg some (by omega)

/-- The numerals with integers for values are those of which the integers are read. -/
theorem value_eq_integer_iff : n.value = .ok (.integer i) ↔ n.integer? = some i := by
  simp only [Numeral.value]
  cases n.integer? with
  | some j => simp
  | none =>
    simp only [reduceCtorEq, iff_false]
    cases n.fractionValue with
    | ok x => simp [Except.map]
    | error fault => simp [Except.map]

end Wholes

end Json

end ChatOpening
