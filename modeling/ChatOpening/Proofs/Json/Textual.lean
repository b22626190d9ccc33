import ChatOpening.Proofs.Json.Grammar
import ChatOpening.Proofs.Json.Yields

/-!
# Reading between characters

Bytes from outside need not be UTF-8, and the reader looks at that when a text between quotation marks ends.  The bytes
of a text always pass: a reader that starts between two characters stops between two characters, since what it takes
outside of quotation marks are ASCII bytes, and what it takes between them are whole characters.

Here are the ways to put readers together, and the readers of marks, numerals and texts.

**Input.**  Bytes of a text.

**Results.**
* `keepsText_numeral`, `keepsText_text`, `keepsText_passText`: what is left behind a numeral or a text is a text.
* `spellsText_spelledBytes`: between quotation marks stand whole characters.
-/

namespace ChatOpening

namespace Json

open Text

variable {α β σ : Type} {bound larger : Nat}

/-- The cause says that the bytes are no text. -/
def Cause.isBrokenText : Cause → Bool
  | .notUtf8 => true
  | _ => false

/-- What is left of the bytes is a text, or the fault is not that they are none. -/
def Outcome.KeepsText : Outcome bound α → Prop
  | .ok p => IsText p.rest
  | .error fault => fault.cause.isBrokenText = false

/-- The reader keeps what is left of a text a text. -/
def Reader.KeepsText (r : Reader α) : Prop :=
  ∀ input, IsText input → (r input).KeepsText

/-- Moreover the bytes that have been taken spell a text. -/
def Outcome.SpellsText (x : Outcome bound Bytes) : Prop :=
  x.KeepsText ∧ ∀ p, x = .ok p → IsText p.value

section Outcomes

variable {x : Outcome bound α} {rest : Bytes} {cause : Cause}

theorem keepsText_here (h : cause.isBrokenText = false) : Outcome.KeepsText (.error (.here cause rest) : Outcome bound α) :=
  h

theorem keepsText_next (h : cause.isBrokenText = false) : Outcome.KeepsText (.error (.next cause rest) : Outcome bound α) :=
  h

theorem keepsText_before {a : α} (h : IsText rest) :
    Outcome.KeepsText (.ok (.before a rest) : Outcome (rest.length + 1) α) :=
  h

theorem keepsText_map {f : α → β} (h : x.KeepsText) : (x.map f).KeepsText := by
  cases x with
  | ok p => exact h
  | error fault => exact h

theorem keepsText_widen {hle : bound ≤ larger} (h : x.KeepsText) : (x.widen hle).KeepsText := by
  cases x with
  | ok p => exact h
  | error fault => exact h

theorem keepsText_afterFirst (h : x.KeepsText) : x.afterFirst.KeepsText :=
  keepsText_widen h

theorem keepsText_within {tracking : Tracking} {step : Step} (h : x.KeepsText) : (x.within tracking step).KeepsText := by
  cases x with
  | ok p => exact h
  | error fault => cases tracking <;> exact h

/-- Readers that keep a text a text do so one behind the other. -/
theorem keepsText_andThen {f : α → Reader β} (h : x.KeepsText) (hnext : ∀ a, (f a).KeepsText) :
    (x.andThen f).KeepsText := by
  cases x with
  | ok p => exact keepsText_widen (hnext p.value p.rest h)
  | error fault => exact h

end Outcomes

section Marks

variable {input rest expected : Bytes} {ending : Cause}

theorem low_of_isBlankByte {b : UInt8} (h : isBlankByte b = true) : b < 0x80 := by
  simp only [isBlankByte, Bool.or_eq_true, decide_eq_true_eq] at h
  rcases h with ((rfl | rfl) | rfl) | rfl <;> decide

theorem isText_skipBlanks (h : IsText input) : IsText (skipBlanks input) :=
  isText_dropWhile (fun _ => low_of_isBlankByte) h

/-- A reader keeps a text a text if it does so behind each first byte. -/
theorem keepsText_afterBlanks {read : (first : UInt8) → (rest : Bytes) → Outcome (rest.length + 1) α}
    (hending : ending.isBrokenText = false) (h : ∀ first rest, IsText (first :: rest) → (read first rest).KeepsText) :
    Reader.KeepsText (afterBlanks ending read) := by
  intro input hinput
  have hskip := isText_skipBlanks hinput
  simp only [afterBlanks]
  split
  · exact hending
  · next first rest hrest =>
    rw [hrest] at hskip
    exact keepsText_widen (h first rest hskip)

/-- A word that is not there says nothing of the encoding. -/
theorem cause_of_word_error {fault : Fault} (h : word expected input = .error fault) : fault.cause.isBrokenText = false := by
  induction expected generalizing input with
  | nil => cases h
  | cons e expected ih =>
    cases input with
    | nil =>
      cases h
      rfl
    | cons b rest =>
      simp only [word] at h
      split at h
      · exact ih h
      · cases h
        rfl

theorem keepsText_wordValue {value : α} (hexpected : expected.all (· < 0x80) = true) (hinput : IsText input) :
    (wordValue expected value input).KeepsText := by
  simp only [wordValue]
  split
  · next rest hrest =>
    rw [word_eq_ok_iff.1 hrest] at hinput
    exact isText_of_append (fun b hb => of_decide_eq_true (List.all_eq_true.1 hexpected b hb)) hinput
  · next fault hfault => exact cause_of_word_error hfault

theorem keepsText_colon : Reader.KeepsText colon := by
  refine keepsText_afterBlanks rfl fun first rest h => ?_
  split
  · next hfirst =>
    subst hfirst
    exact keepsText_before (isText_of_cons (by decide) h)
  · exact keepsText_next rfl

theorem keepsText_memberValue {tracking : Tracking} {name : String} {value : Reader α} (h : value.KeepsText) :
    (memberValue tracking name value).KeepsText :=
  fun input hinput => keepsText_within (keepsText_andThen (keepsText_colon input hinput) fun _ => h)

end Marks

section Numerals

variable {input rest : Bytes} {ending : Cause} {negative : Bool} {b : UInt8}

theorem low_of_isDigit (h : isDigit b = true) : b < 0x80 := by
  simp only [isDigit, Bool.and_eq_true, decide_eq_true_eq, UInt8.le_iff_toNat_le, UInt8.lt_iff_toNat_lt,
    UInt8.reduceToNat] at h ⊢
  omega

theorem isText_dropDigits (h : IsText input) : IsText (input.dropWhile isDigit) :=
  isText_dropWhile (fun _ => low_of_isDigit) h

theorem keepsText_wholePart (hending : ending.isBrokenText = false) : (wholePart ending).KeepsText := by
  intro input hinput
  cases input with
  | nil => exact keepsText_here hending
  | cons d rest =>
    simp only [wholePart]
    split
    · next hzero =>
      subst hzero
      have hrest : IsText rest := isText_of_cons (by decide) hinput
      cases rest with
      | nil => exact hrest
      | cons next others =>
        simp only
        split
        · exact keepsText_next rfl
        · exact hrest
    split
    · next hdigit => exact isText_dropDigits (isText_of_cons (low_of_isDigit hdigit) hinput)
    · exact keepsText_here rfl

theorem keepsText_fractionPart (hending : ending.isBrokenText = false) (hinput : IsText input) :
    (fractionPart ending input).KeepsText := by
  cases input with
  | nil => exact hinput
  | cons mark rest =>
    simp only [fractionPart]
    split
    · exact hinput
    · next hmark =>
      have hmark : mark = 0x2E := Decidable.not_not.1 hmark
      subst hmark
      have hrest : IsText rest := isText_of_cons (by decide) hinput
      cases rest with
      | nil => exact keepsText_next hending
      | cons d others =>
        simp only
        split
        · next hdigit => exact isText_dropDigits (isText_of_cons (low_of_isDigit hdigit) hrest)
        · exact keepsText_next rfl

theorem isText_exponentSign (hinput : IsText input) : IsText (exponentSign input).2 := by
  cases input with
  | nil => exact hinput
  | cons b rest =>
    simp only [exponentSign]
    split
    · next hplus =>
      subst hplus
      exact isText_of_cons (by decide) hinput
    split
    · next hminus =>
      subst hminus
      exact isText_of_cons (by decide) hinput
    · exact hinput

theorem keepsText_exponentPart (hending : ending.isBrokenText = false) (hinput : IsText input) :
    (exponentPart ending input).KeepsText := by
  cases input with
  | nil => exact hinput
  | cons letter rest =>
    simp only [exponentPart]
    split
    · exact hinput
    · next hletter =>
      have hlow : letter < 0x80 := by
        simp only [ne_eq, Bool.and_eq_true, decide_eq_true_eq, not_and, Decidable.not_not] at hletter
        by_cases hsmall : letter = 0x65
        · subst hsmall
          decide
        · rw [hletter hsmall]
          decide
      have hsign : IsText (exponentSign rest).2 := isText_exponentSign (isText_of_cons hlow hinput)
      split
      · exact keepsText_here hending
      · next d others hothers =>
        rw [hothers] at hsign
        split
        · next hdigit => exact isText_dropDigits (isText_of_cons (low_of_isDigit hdigit) hsign)
        · exact keepsText_here rfl

theorem keepsText_numeral (hending : ending.isBrokenText = false) : (numeral ending negative).KeepsText := by
  intro input hinput
  have hwhole := keepsText_wholePart hending input hinput
  simp only [numeral]
  cases hw : wholePart ending input with
  | error fault =>
    rw [hw] at hwhole
    exact hwhole
  | ok whole =>
    rw [hw] at hwhole
    have hfraction := keepsText_fractionPart hending hwhole
    simp only
    cases hf : fractionPart ending whole.rest with
    | error fault =>
      rw [hf] at hfraction
      exact hfraction
    | ok fraction =>
      rw [hf] at hfraction
      have hexponent := keepsText_exponentPart hending hfraction
      simp only
      cases he : exponentPart ending fraction.rest with
      | error fault =>
        rw [he] at hexponent
        exact hexponent
      | ok exponent =>
        rw [he] at hexponent
        exact hexponent

theorem keepsText_number : (number negative).KeepsText := by
  intro input hinput
  have hnumeral : (numeral .endInValue negative input).KeepsText := keepsText_numeral rfl input hinput
  simp only [number]
  cases hn : numeral .endInValue negative input with
  | error fault =>
    rw [hn] at hnumeral
    exact hnumeral
  | ok p =>
    rw [hn] at hnumeral
    simp only
    split
    · exact hnumeral
    · exact rfl

end Numerals

section Texts

variable {input rest done : Bytes} {b : UInt8} {n : Nat}

theorem low_of_hexValue (h : hexValue b = some n) : b < 0x80 := by
  simp only [hexValue, Bool.and_eq_true, decide_eq_true_eq, UInt8.le_iff_toNat_le, UInt8.lt_iff_toNat_lt,
    UInt8.reduceToNat] at h ⊢
  split at h
  · omega
  split at h
  · omega
  split at h
  · omega
  · cases h

theorem exists_hexValue {a b c d : UInt8} (h : unitValue a b c d = some n) :
    ∀ x ∈ [a, b, c, d], ∃ m, hexValue x = some m := by
  simp only [unitValue, Option.bind_eq_bind, Option.bind_eq_some_iff] at h
  obtain ⟨_, ha, _, hb, _, hc, _, hd, -⟩ := h
  intro x hx
  simp only [List.mem_cons, List.not_mem_nil, or_false] at hx
  rcases hx with rfl | rfl | rfl | rfl
  · exact ⟨_, ha⟩
  · exact ⟨_, hb⟩
  · exact ⟨_, hc⟩
  · exact ⟨_, hd⟩

theorem low_of_unitValue {a b c d : UInt8} (h : unitValue a b c d = some n) : ∀ x ∈ [a, b, c, d], x < 0x80 := by
  intro x hx
  obtain ⟨_, hm⟩ := exists_hexValue h x hx
  exact low_of_hexValue hm

theorem keepsText_unit : Reader.KeepsText unit := by
  intro input hinput
  unfold unit
  split
  · next a b c d rest =>
    split
    · next n hn => exact isText_of_append (low_of_unitValue hn) hinput
    · exact keepsText_here rfl
  · exact keepsText_here rfl

theorem isText_codePoint (n : Nat) : IsText (codePoint n) :=
  isText_utf8EncodeChar _

theorem exists_shortForm {letter : UInt8} (h : shortEscape letter = some b) :
    ∃ m ∈ shortForms, letter = UInt8.ofNat m.1.toNat ∧ b = UInt8.ofNat m.2.toNat := by
  simp only [shortEscape, Bool.or_eq_true, decide_eq_true_eq] at h
  split at h
  · next hletter =>
    cases h
    rcases hletter with (rfl | rfl) | rfl <;> decide
  iterate 5
    split at h
    · next hletter =>
      cases h
      subst hletter
      decide
  cases h

theorem low_of_mem_shortForms : ∀ m ∈ shortForms, UInt8.ofNat m.1.toNat < 0x80 ∧ UInt8.ofNat m.2.toNat < 0x80 := by
  decide

theorem low_of_shortEscape {letter : UInt8} (h : shortEscape letter = some b) : letter < 0x80 ∧ b < 0x80 := by
  obtain ⟨m, hm, rfl, rfl⟩ := exists_shortForm h
  exact low_of_mem_shortForms m hm

theorem spellsText_ok {p : Parsed bound Bytes} (hvalue : IsText p.value) (hrest : IsText p.rest) :
    Outcome.SpellsText (.ok p) := by
  refine ⟨hrest, ?_⟩
  intro q hq
  cases hq
  exact hvalue

theorem spellsText_error {fault : Fault} (h : fault.cause.isBrokenText = false) :
    Outcome.SpellsText (.error fault : Outcome bound Bytes) := by
  refine ⟨h, ?_⟩
  intro p hp
  cases hp

theorem spellsText_here {cause : Cause} (h : cause.isBrokenText = false) :
    Outcome.SpellsText (.error (.here cause rest) : Outcome bound Bytes) :=
  spellsText_error h

/-- What a backslash and the letters behind it spell are the bytes of a character. -/
theorem spellsText_lowUnit (high : Nat) (hinput : IsText input) : (lowUnit high input).SpellsText := by
  cases input with
  | nil => exact spellsText_here rfl
  | cons b rest =>
    simp only [lowUnit]
    split
    · exact spellsText_here rfl
    · next hb =>
      have hb : b = backslash := Decidable.not_not.1 hb
      subst hb
      have hrest : IsText rest := isText_of_cons (by decide) hinput
      cases rest with
      | nil => exact spellsText_here rfl
      | cons letter digits =>
        simp only
        split
        · exact spellsText_here rfl
        · next hletter =>
          have hletter : letter = 0x75 := Decidable.not_not.1 hletter
          subst hletter
          have hunit := keepsText_unit digits (isText_of_cons (by decide) hrest)
          cases hn : unit digits with
          | error fault =>
            rw [hn] at hunit
            exact spellsText_error hunit
          | ok p =>
            rw [hn] at hunit
            simp only
            split
            · -- The number is a large sum, which is better not computed with.
              generalize joined high p.value = n
              exact spellsText_ok (isText_codePoint n) hunit
            · exact spellsText_here rfl

theorem spellsText_widen {x : Outcome bound Bytes} {hle : bound ≤ larger} (h : x.SpellsText) :
    (x.widen hle).SpellsText := by
  cases x with
  | error fault => exact spellsText_error h.1
  | ok p => exact spellsText_ok (h.2 p rfl) h.1

/-- Escapes by number spell characters. -/
theorem spellsText_numbered (hinput : IsText input) : (numbered input).SpellsText := by
  have hunit := keepsText_unit input hinput
  simp only [numbered]
  cases hn : unit input with
  | error fault =>
    rw [hn] at hunit
    exact spellsText_error hunit
  | ok p =>
    rw [hn] at hunit
    simp only
    split
    · exact spellsText_here rfl
    split
    · exact spellsText_widen (spellsText_lowUnit p.value hunit)
    · exact spellsText_ok (isText_codePoint _) hunit

theorem spellsText_escape (hinput : IsText input) : (escape input).SpellsText := by
  cases input with
  | nil => exact spellsText_here rfl
  | cons letter rest =>
    simp only [escape]
    split
    · next b hb =>
      obtain ⟨hletter, hlow⟩ := low_of_shortEscape hb
      exact spellsText_ok (isText_singleton hlow) (isText_of_cons hletter hinput)
    split
    · next hletter =>
      subst hletter
      exact spellsText_widen (spellsText_numbered (isText_of_cons (by decide) hinput))
    · exact spellsText_here rfl

/-- A byte that needs no escape. -/
def IsPlainByte (b : UInt8) : Prop :=
  b ≠ quoteMark ∧ b ≠ backslash ∧ ¬ b < 0x20

/-- Plain bytes are taken as they are. -/
theorem spelledBytes_plain {plain more done : Bytes} (hplain : ∀ b ∈ plain, IsPlainByte b)
    (h : (plain ++ more).length ≤ bound) (hmore : more.length ≤ bound) :
    spelledBytes (plain ++ more) h done = spelledBytes more hmore (plain.reverse ++ done) := by
  induction plain generalizing done with
  | nil => rfl
  | cons b plain ih =>
    obtain ⟨hquote, hback, hcontrol⟩ := hplain b (List.mem_cons_self)
    simp only [List.cons_append]
    rw [spelledBytes, if_neg hquote, if_neg hback, if_neg hcontrol,
      ih (fun c hc => hplain c (List.mem_cons_of_mem _ hc))]
    simp

/-- The bytes of a plain character are plain. -/
theorem isPlainByte_of_plain {c : Char} (hquote : c ≠ '"') (hback : c ≠ '\\') (hcontrol : 0x20 ≤ c.toNat) :
    ∀ b ∈ String.utf8EncodeChar c, IsPlainByte b := by
  intro b hb
  rcases Nat.lt_or_ge c.toNat 0x80 with hascii | hbeyond
  · rw [Text.utf8EncodeChar_ascii hascii, List.mem_singleton] at hb
    subst hb
    have hsize : c.toNat < UInt8.size := Nat.lt_trans hascii (by decide)
    rw [Ne, ← Char.toNat_inj] at hquote hback
    simp only [IsPlainByte, quoteMark, backslash, Ne, UInt8.lt_iff_toNat_lt, ← UInt8.toNat_inj,
      UInt8.toNat_ofNat_of_lt' hsize, UInt8.reduceToNat]
    exact ⟨hquote, hback, Nat.not_lt.2 hcontrol⟩
  · have hhigh := Text.high_of_mem_utf8EncodeChar hbeyond hb
    simp only [IsPlainByte, quoteMark, backslash, Ne, UInt8.lt_iff_toNat_lt, ← UInt8.toNat_inj, UInt8.le_iff_toNat_le,
      UInt8.reduceToNat] at hhigh ⊢
    omega

theorem ne_marks_of_high {c : Char} (hc : 0x80 ≤ c.toNat) : c ≠ '"' ∧ c ≠ '\\' := by
  refine ⟨?_, ?_⟩
  · rintro rfl
    revert hc
    decide
  · rintro rfl
    revert hc
    decide

theorem isPlainByte_of_high {c : Char} (hc : 0x80 ≤ c.toNat) : ∀ b ∈ String.utf8EncodeChar c, IsPlainByte b :=
  isPlainByte_of_plain (ne_marks_of_high hc).1 (ne_marks_of_high hc).2 (Nat.le_trans (by decide) hc)

/-- A text starts with an ASCII byte or with the bytes of another character. -/
theorem isText_cases (h : IsText input) :
    input = [] ∨ (∃ b rest, input = b :: rest ∧ b < 0x80 ∧ IsText rest) ∨
      ∃ c rest, input = String.utf8EncodeChar c ++ rest ∧ 0x80 ≤ c.toNat ∧ IsText rest := by
  obtain ⟨cs, rfl⟩ := h
  cases cs with
  | nil => exact .inl rfl
  | cons c cs =>
    rcases Nat.lt_or_ge c.toNat 0x80 with hascii | hbeyond
    · have hlow : UInt8.ofNat c.toNat < 0x80 := by
        rw [UInt8.lt_iff_toNat_lt, UInt8.toNat_ofNat_of_lt' (Nat.lt_trans hascii (by decide))]
        exact hascii
      refine .inr (.inl ⟨UInt8.ofNat c.toNat, cs.flatMap String.utf8EncodeChar, ?_, hlow, cs, rfl⟩)
      rw [List.flatMap_cons, utf8EncodeChar_ascii hascii]
      rfl
    · exact .inr (.inr ⟨c, cs.flatMap String.utf8EncodeChar, List.flatMap_cons, hbeyond, cs, rfl⟩)

theorem length_lt_of_char (c : Char) (rest : Bytes) : rest.length < (String.utf8EncodeChar c ++ rest).length := by
  have hpositive : 0 < (String.utf8EncodeChar c).length := List.length_pos_iff.2 String.utf8EncodeChar_ne_nil
  rw [List.length_append]
  omega

/-- Whole characters between quotation marks. The induction is on the number of bytes, and it goes from one character
to the next. -/
theorem spellsText_spelledBytes (hinput : IsText input) (h : input.length ≤ bound) (hdone : IsText done.reverse) :
    (spelledBytes input h done).SpellsText := by
  induction hn : input.length using Nat.strongRecOn generalizing input done with
  | ind n ih =>
    rcases isText_cases hinput with rfl | ⟨b, rest, rfl, hlow, hrest⟩ | ⟨c, rest, rfl, hbeyond, hrest⟩
    · rw [spelledBytes]
      exact spellsText_here rfl
    · rw [spelledBytes]
      split
      · exact spellsText_ok hdone hrest
      split
      · have hescape := spellsText_escape hrest
        cases hletters : escape rest with
        | error fault =>
          rw [hletters] at hescape
          exact spellsText_error hescape.1
        | ok p =>
          rw [hletters] at hescape
          have hless : p.rest.length < n := by
            have := p.shorter
            rw [List.length_cons] at hn
            omega
          refine ih p.rest.length hless hescape.1 _ ?_ rfl
          rw [List.reverse_append, List.reverse_reverse]
          exact isText_append hdone (hescape.2 p rfl)
      split
      · exact spellsText_here rfl
      · have hless : rest.length < n := by
          rw [List.length_cons] at hn
          omega
        refine ih rest.length hless hrest _ ?_ rfl
        rw [List.reverse_cons]
        exact isText_append hdone (isText_singleton hlow)
    · have hless : rest.length < n := hn ▸ length_lt_of_char c rest
      have hmore : rest.length ≤ bound := by
        rw [List.length_append] at h
        omega
      rw [spelledBytes_plain (isPlainByte_of_high hbeyond) h hmore]
      refine ih rest.length hless hrest hmore ?_ rfl
      rw [List.reverse_append, List.reverse_reverse]
      exact isText_append hdone (isText_utf8EncodeChar c)

/-- Between quotation marks stands a text. -/
theorem keepsText_text : Reader.KeepsText text := by
  intro input hinput
  have hspelled : (spelledBytes input (length_le_self input) []).SpellsText :=
    spellsText_spelledBytes hinput _ isText_nil
  simp only [text]
  cases hp : spelledBytes input (length_le_self input) [] with
  | error fault =>
    rw [hp] at hspelled
    exact hspelled.1
  | ok p =>
    rw [hp] at hspelled
    obtain ⟨s, hs⟩ := exists_ofBytes?_of_isText (hspelled.2 p rfl)
    simp only
    split
    · exact hspelled.1
    · next hnone =>
      rw [hs] at hnone
      cases hnone

theorem keepsText_passEscape : Reader.KeepsText passEscape := by
  intro input hinput
  cases input with
  | nil => exact keepsText_here rfl
  | cons letter rest =>
    simp only [passEscape]
    split
    · next b hb => exact isText_of_cons (low_of_shortEscape hb).1 hinput
    split
    · next hletter =>
      subst hletter
      exact keepsText_afterFirst (keepsText_map (keepsText_unit rest (isText_of_cons (by decide) hinput)))
    · exact keepsText_here rfl

theorem passText_plain {plain more : Bytes} (hplain : ∀ b ∈ plain, IsPlainByte b)
    (h : (plain ++ more).length ≤ bound) (hmore : more.length ≤ bound) :
    passText (plain ++ more) h = passText more hmore := by
  induction plain with
  | nil => rfl
  | cons b plain ih =>
    obtain ⟨hquote, hback, hcontrol⟩ := hplain b (List.mem_cons_self)
    simp only [List.cons_append]
    rw [passText, if_neg hquote, if_neg hback, if_neg hcontrol, ih (fun c hc => hplain c (List.mem_cons_of_mem _ hc))]

theorem keepsText_passText (hinput : IsText input) (h : input.length ≤ bound) : (passText input h).KeepsText := by
  induction hn : input.length using Nat.strongRecOn generalizing input with
  | ind n ih =>
    rcases isText_cases hinput with rfl | ⟨b, rest, rfl, hlow, hrest⟩ | ⟨c, rest, rfl, hbeyond, hrest⟩
    · rw [passText]
      exact keepsText_here rfl
    · rw [passText]
      split
      · exact hrest
      split
      · have hescape := keepsText_passEscape rest hrest
        cases hletters : passEscape rest with
        | error fault =>
          rw [hletters] at hescape
          exact hescape
        | ok p =>
          rw [hletters] at hescape
          have hless : p.rest.length < n := by
            have := p.shorter
            rw [List.length_cons] at hn
            omega
          exact ih p.rest.length hless hescape _ rfl
      split
      · exact keepsText_here rfl
      · have hless : rest.length < n := by
          rw [List.length_cons] at hn
          omega
        exact ih rest.length hless hrest _ rfl
    · have hless : rest.length < n := hn ▸ length_lt_of_char c rest
      have hmore : rest.length ≤ bound := by
        rw [List.length_append] at h
        omega
      rw [passText_plain (isPlainByte_of_high hbeyond) h hmore]
      exact ih rest.length hless hrest hmore rfl

end Texts

end Json

end ChatOpening
