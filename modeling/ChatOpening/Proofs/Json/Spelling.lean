import ChatOpening.Proofs.Json.Textual

/-!
# Texts are read as they are spelled

Between quotation marks a reader takes exactly what pieces spell.  Reading a text needs pieces that stand for
characters; passing over it takes all.

**Input.**  Bytes of a text, behind a quotation mark.

**Results.**
* `exists_pieces_of_escape`: what is read behind a backslash are pieces that stand for one character.
* `yields_text_of_denotes`, `exists_pieces_of_text`: reading a text.
* `yields_passText_of_textAt`, `exists_pieces_of_passText`: passing over a text.
-/

namespace ChatOpening

namespace Json

open Text

section Pieces

variable {ps qs : List Piece} {p : Piece} {input rest x y : Bytes}

/-- Pieces are spelled one behind the other. -/
theorem piecesSpelled_append (hps : PiecesSpelled ps x) (hqs : PiecesSpelled qs y) :
    PiecesSpelled (ps ++ qs) (x ++ y) := by
  induction ps generalizing x with
  | nil =>
    rw [PiecesSpelled] at hps
    rw [hps]
    exact hqs
  | cons p ps ih =>
    obtain ⟨first, others, rfl, hp, hothers⟩ := hps
    exact ⟨first, others ++ y, List.append_assoc .., hp, ih hothers⟩

theorem piecesSpelled_singleton (h : p.Spelled x) : PiecesSpelled [p] x :=
  ⟨x, [], (List.append_nil x).symm, h, rfl⟩

theorem textAt_nil (rest : Bytes) : TextAt [] (quoteMark :: rest) rest :=
  ⟨[], rfl, rfl⟩

/-- Pieces in front of a text belong to it. -/
theorem textAt_append (hps : PiecesSpelled ps x) (h : TextAt qs input rest) : TextAt (ps ++ qs) (x ++ input) rest := by
  obtain ⟨inner, hinner, rfl⟩ := h
  exact ⟨x ++ inner, piecesSpelled_append hps hinner, (List.append_assoc ..).symm⟩

/-- A text begins with its first piece. -/
theorem textAt_cons_iff :
    TextAt (p :: ps) input rest ↔ ∃ first more, p.Spelled first ∧ input = first ++ more ∧ TextAt ps more rest := by
  constructor
  · rintro ⟨_, ⟨first, others, rfl, hp, hothers⟩, rfl⟩
    exact ⟨first, others ++ quoteMark :: rest, hp, List.append_assoc .., others, hothers, rfl⟩
  · rintro ⟨first, more, hp, rfl, hmore⟩
    exact textAt_append (piecesSpelled_singleton hp) hmore

end Pieces

section Characters

variable {b : UInt8} {c : Char} {n : Nat}

/-- A byte that is no mark and no control spells a piece by itself if it is ASCII. -/
theorem spelled_of_low (hb : b < 0x80) (hplain : IsPlainByte b) :
    ∃ c : Char, (Piece.char c).Spelled [b] ∧ String.utf8EncodeChar c = [b] := by
  obtain ⟨c, hc, hbytes, rfl⟩ := exists_char_of_low hb
  obtain ⟨hquote, hback, hcontrol⟩ := hplain
  have hnumber : (UInt8.ofNat c.toNat).toNat = c.toNat :=
    UInt8.toNat_ofNat_of_lt' (Nat.lt_trans hc (by decide))
  refine ⟨c, ?_, hbytes⟩
  rw [← hbytes]
  refine .plain ?_ ?_ ?_
  · rintro rfl
    exact hquote rfl
  · rintro rfl
    exact hback rfl
  · rw [UInt8.lt_iff_toNat_lt, hnumber] at hcontrol
    exact Nat.not_lt.1 hcontrol

theorem spelled_of_high (hc : 0x80 ≤ c.toNat) : (Piece.char c).Spelled (String.utf8EncodeChar c) :=
  .plain (ne_marks_of_high hc).1 (ne_marks_of_high hc).2 (Nat.le_trans (by decide) hc)

theorem shortEscape_of_mem : ∀ m ∈ shortForms,
    shortEscape (UInt8.ofNat m.1.toNat) = some (UInt8.ofNat m.2.toNat) ∧ m.2.toNat < 0x80 := by
  decide

end Characters

section Escapes

variable {input rest bs : Bytes} {n high : Nat}

theorem not_low_of_high (h : isHighSurrogate n = true) : isLowSurrogate n = false := by
  simp only [isHighSurrogate, isLowSurrogate, Bool.and_eq_true, decide_eq_true_eq, Bool.and_eq_false_iff,
    decide_eq_false_iff_not] at h ⊢
  omega

/-- Four digits are the number that they spell. -/
theorem yields_unit_iff :
    (unit input).Yields n rest ↔ ∃ a b c d, input = a :: b :: c :: d :: rest ∧ unitValue a b c d = some n := by
  constructor
  · intro h
    unfold unit at h
    split at h
    · next a b c d others =>
      split at h
      · next m hm =>
        obtain ⟨rfl, rfl⟩ := yields_ok_iff.1 h
        exact ⟨a, b, c, d, rfl, hm⟩
      · exact absurd h not_yields_error
    · exact absurd h not_yields_error
  · rintro ⟨a, b, c, d, rfl, hn⟩
    simp [unit, hn]

/-- The second unit of a pair stands behind a backslash and the letter u. -/
theorem yields_lowUnit_iff :
    (lowUnit high input).Yields bs rest ↔
      ∃ digits low, input = backslash :: 0x75 :: digits ∧ (unit digits).Yields low rest ∧ isLowSurrogate low = true ∧
        bs = codePoint (joined high low) := by
  constructor
  · intro h
    cases input with
    | nil => exact absurd h not_yields_error
    | cons b others =>
      simp only [lowUnit] at h
      split at h
      · exact absurd h not_yields_error
      · next hb =>
        cases others with
        | nil => exact absurd h not_yields_error
        | cons letter digits =>
          simp only at h
          split at h
          · exact absurd h not_yields_error
          · next hletter =>
            cases hunit : unit digits with
            | error fault =>
              rw [hunit] at h
              exact absurd h not_yields_error
            | ok p =>
              rw [hunit] at h
              simp only at h
              split at h
              · next hlow =>
                -- The number is a large sum, which is better not computed with.
                generalize hjoint : joined high p.value = joint at h
                obtain ⟨hbs, hrest⟩ := yields_ok_iff.1 h
                rw [Decidable.not_not.1 hb, Decidable.not_not.1 hletter]
                exact ⟨digits, p.value, rfl, hunit ▸ yields_ok_iff.2 ⟨rfl, hrest⟩, hlow, by rw [hjoint]; exact hbs.symm⟩
              · exact absurd h not_yields_error
  · rintro ⟨digits, low, rfl, ⟨_, hunit⟩, hlow, hbs⟩
    simp only [lowUnit, hunit, hlow, hbs]
    generalize joined high low = joint
    exact yields_ok_iff.2 ⟨rfl, rfl⟩

/-- An escape by number is one unit, or two that belong together. -/
theorem yields_numbered_iff :
    (numbered input).Yields bs rest ↔
      ∃ n middle, (unit input).Yields n middle ∧ isLowSurrogate n = false ∧
        ((isHighSurrogate n = true ∧ (lowUnit n middle).Yields bs rest) ∨
          (isHighSurrogate n = false ∧ bs = codePoint n ∧ middle = rest)) := by
  simp only [numbered]
  cases unit input with
  | error fault => simp
  | ok p =>
    simp only [yields_ok_iff]
    constructor
    · intro h
      split at h
      · exact absurd h not_yields_error
      · next hlow =>
        refine ⟨p.value, p.rest, ⟨rfl, rfl⟩, Bool.eq_false_iff.2 hlow, ?_⟩
        split at h
        · next hhigh => exact .inl ⟨hhigh, yields_widen_iff.1 h⟩
        · next hhigh =>
          obtain ⟨hbs, hrest⟩ := yields_ok_iff.1 h
          exact .inr ⟨Bool.eq_false_iff.2 hhigh, hbs.symm, hrest⟩
    · rintro ⟨_, _, ⟨rfl, rfl⟩, hlow, ⟨hhigh, hpair⟩ | ⟨hhigh, rfl, rfl⟩⟩
      · simpa [hlow, hhigh] using hpair
      · simp [hlow, hhigh]

/-- What stands behind a backslash is a letter with its byte, or a number. -/
theorem yields_escape_iff :
    (escape input).Yields bs rest ↔
      (∃ letter b, input = letter :: rest ∧ shortEscape letter = some b ∧ bs = [b]) ∨
        ∃ digits, input = 0x75 :: digits ∧ (numbered digits).Yields bs rest := by
  have hnumber : shortEscape 0x75 = none := by
    decide
  constructor
  · intro h
    cases input with
    | nil => exact absurd h not_yields_error
    | cons letter others =>
      simp only [escape] at h
      split at h
      · next b hb =>
        obtain ⟨rfl, rfl⟩ := yields_ok_iff.1 h
        exact .inl ⟨letter, b, rfl, hb, rfl⟩
      split at h
      · next hletter =>
        subst hletter
        exact .inr ⟨others, rfl, yields_afterFirst_iff.1 h⟩
      · exact absurd h not_yields_error
  · rintro (⟨letter, b, rfl, hb, rfl⟩ | ⟨digits, rfl, hdigits⟩)
    · simp [escape, hb, Parsed.before]
    · simpa [escape, hnumber] using hdigits

/-- What is read behind a backslash are pieces that stand for one character, whatever follows. -/
theorem exists_pieces_of_escape (h : (escape input).Yields bs rest) :
    ∃ ps inner c, PiecesSpelled ps inner ∧ backslash :: input = inner ++ rest ∧ bs = String.utf8EncodeChar c ∧
      ∀ qs cs, Denotes qs cs → Denotes (ps ++ qs) (c :: cs) := by
  rcases yields_escape_iff.1 h with ⟨letter, b, rfl, hshort, rfl⟩ | ⟨digits, rfl, hnumbered⟩
  · obtain ⟨⟨l, c⟩, hmem, rfl, rfl⟩ := exists_shortForm hshort
    have hascii := (shortEscape_of_mem _ hmem).2
    exact ⟨[.char c], _, c, piecesSpelled_singleton (.short hmem), rfl, (utf8EncodeChar_ascii hascii).symm,
      fun _ _ => .char⟩
  · obtain ⟨n, middle, hunit, hlow, ⟨hhigh, hpair⟩ | ⟨hhigh, rfl, rfl⟩⟩ := yields_numbered_iff.1 hnumbered
    · obtain ⟨a, b, c, d, rfl, hn⟩ := yields_unit_iff.1 hunit
      obtain ⟨_, low, rfl, hsecond, hislow, hbs⟩ := yields_lowUnit_iff.1 hpair
      obtain ⟨a', b', c', d', rfl, hm⟩ := yields_unit_iff.1 hsecond
      have hfirst : (Piece.unit n).Spelled [backslash, 0x75, a, b, c, d] := .number hn
      have hpieces := piecesSpelled_append (piecesSpelled_singleton hfirst) (piecesSpelled_singleton (.number hm))
      exact ⟨[.unit n, .unit low], _, _, hpieces, rfl, hbs, fun _ _ => .pair hhigh hislow⟩
    · obtain ⟨a, b, c, d, rfl, hn⟩ := yields_unit_iff.1 hunit
      exact ⟨[.unit n], _, _, piecesSpelled_singleton (.number hn), rfl, rfl, fun _ _ => .unit hhigh hlow⟩

end Escapes

section Reading

variable {bound : Nat} {ps : List Piece} {cs : List Char} {input rest done bs : Bytes} {s : String}

/-- What is read up to the closing mark is spelled by pieces. The induction is on the number of bytes, and it goes from
one character to the next. -/
theorem exists_pieces_of_spelledBytes (hinput : IsText input) {h : input.length ≤ bound}
    (hyields : (spelledBytes input h done).Yields bs rest) :
    ∃ ps cs, TextAt ps input rest ∧ Denotes ps cs ∧ bs = done.reverse ++ cs.flatMap String.utf8EncodeChar := by
  induction hn : input.length using Nat.strongRecOn generalizing input done with
  | ind n ih =>
    rcases isText_cases hinput with rfl | ⟨b, more, rfl, hlow, hmore⟩ | ⟨c, more, rfl, hbeyond, hmore⟩
    · rw [spelledBytes] at hyields
      exact absurd hyields not_yields_error
    · rw [spelledBytes] at hyields
      split at hyields
      · next hquote =>
        obtain ⟨rfl, rfl⟩ := yields_ok_iff.1 hyields
        exact ⟨[], [], hquote ▸ textAt_nil _, .nil, (List.append_nil _).symm⟩
      next hquote =>
      split at hyields
      · next hback =>
        have hescape := spellsText_escape hmore
        cases hletters : escape more with
        | error fault =>
          rw [hletters] at hyields
          exact absurd hyields not_yields_error
        | ok p =>
          rw [hletters] at hyields hescape
          have hless : p.rest.length < n := by
            have := p.shorter
            rw [List.length_cons] at hn
            omega
          obtain ⟨ps, inner, c, hps, hinner, hc, hdenotes⟩ :=
            exists_pieces_of_escape (hletters ▸ yields_ok_iff.2 ⟨rfl, rfl⟩)
          obtain ⟨qs, cs, hqs, hcs, rfl⟩ := ih p.rest.length hless hescape.1 hyields rfl
          refine ⟨ps ++ qs, c :: cs, ?_, hdenotes qs cs hcs, ?_⟩
          · rw [hback, hinner]
            exact textAt_append hps hqs
          · simp [hc]
      next hback =>
      split at hyields
      · exact absurd hyields not_yields_error
      · next hcontrol =>
        have hless : more.length < n := by
          rw [List.length_cons] at hn
          omega
        obtain ⟨c, hc, hbytes⟩ := spelled_of_low hlow ⟨hquote, hback, hcontrol⟩
        obtain ⟨qs, cs, hqs, hcs, rfl⟩ := ih more.length hless hmore hyields rfl
        refine ⟨.char c :: qs, c :: cs, textAt_append (piecesSpelled_singleton hc) hqs, .char hcs, ?_⟩
        simp [hbytes]
    · have hless : more.length < n := hn ▸ length_lt_of_char c more
      have hbound : more.length ≤ bound := by
        rw [List.length_append] at h
        omega
      rw [spelledBytes_plain (isPlainByte_of_high hbeyond) h hbound] at hyields
      obtain ⟨qs, cs, hqs, hcs, rfl⟩ := ih more.length hless hmore hyields rfl
      refine ⟨.char c :: qs, c :: cs, textAt_append (piecesSpelled_singleton (spelled_of_high hbeyond)) hqs, .char hcs, ?_⟩
      simp

/-- A text that is read is spelled by pieces that stand for its characters. -/
theorem exists_pieces_of_text (hinput : IsText input) (h : (text input).Yields s rest) :
    ∃ ps, TextAt ps input rest ∧ Denotes ps s.toList := by
  obtain ⟨ps, cs, hps, hcs, hs⟩ := exists_pieces_of_spelledBytes hinput (yields_text_iff.1 h)
  have hsame : s = String.ofList cs := bytes_injective (by rw [hs, bytes_ofList]; rfl)
  refine ⟨ps, hps, ?_⟩
  rw [hsame, String.toList_ofList]
  exact hcs

theorem reverse_done (bs done others : Bytes) : (bs.reverse ++ done).reverse ++ others = done.reverse ++ (bs ++ others) := by
  rw [List.reverse_append, List.reverse_reverse, List.append_assoc]

/-- An escape is read as what it spells, and then what is behind it. -/
theorem yields_spelledBytes_escape {letters more others : Bytes} (hescape : (escape (letters ++ more)).Yields bs more)
    (hinput : input = backslash :: letters ++ more) (h : input.length ≤ bound)
    (hmore : ∀ hbound : more.length ≤ bound,
      (spelledBytes more hbound (bs.reverse ++ done)).Yields ((bs.reverse ++ done).reverse ++ others) rest) :
    (spelledBytes input h done).Yields (done.reverse ++ (bs ++ others)) rest := by
  subst hinput
  have hbound : more.length ≤ bound := by
    rw [List.length_append] at h
    omega
  obtain ⟨_, hok⟩ := hescape
  simp only [List.cons_append]
  rw [spelledBytes, if_neg (by decide), if_pos rfl, ← reverse_done]
  simp only [hok]
  exact hmore hbound

/-- Pieces that stand for characters are read as these. -/
theorem yields_spelledBytes_of_denotes (hcs : Denotes ps cs) (hps : TextAt ps input rest) (h : input.length ≤ bound) :
    (spelledBytes input h done).Yields (done.reverse ++ cs.flatMap String.utf8EncodeChar) rest := by
  induction hcs generalizing input done with
  | nil =>
    obtain ⟨_, rfl, rfl⟩ := hps
    rw [List.nil_append] at h
    simp [spelledBytes]
  | @char c ps cs _ ih =>
    obtain ⟨first, more, hfirst, rfl, hmore⟩ := textAt_cons_iff.1 hps
    rw [List.flatMap_cons]
    cases hfirst with
    | plain hquote hback hcontrol =>
      have hbound : more.length ≤ bound := by
        rw [List.length_append] at h
        omega
      rw [spelledBytes_plain (isPlainByte_of_plain hquote hback hcontrol) h hbound, ← reverse_done]
      exact ih hmore hbound
    | short hmem =>
      obtain ⟨hshort, hascii⟩ := shortEscape_of_mem _ hmem
      have hescape : (escape ([_] ++ more)).Yields (String.utf8EncodeChar c) more :=
        yields_escape_iff.2 (.inl ⟨_, _, rfl, hshort, utf8EncodeChar_ascii hascii⟩)
      exact yields_spelledBytes_escape hescape rfl h fun hbound => ih hmore hbound
  | @unit n ps cs hhigh hlow _ ih =>
    obtain ⟨first, more, hfirst, rfl, hmore⟩ := textAt_cons_iff.1 hps
    cases hfirst with
    | @number a b c d _ hn =>
      have hescape : (escape ([0x75, a, b, c, d] ++ more)).Yields (codePoint n) more :=
        yields_escape_iff.2 (.inr ⟨_, rfl, yields_numbered_iff.2
          ⟨n, more, yields_unit_iff.2 ⟨a, b, c, d, rfl, hn⟩, hlow, .inr ⟨hhigh, rfl, rfl⟩⟩⟩)
      rw [List.flatMap_cons]
      exact yields_spelledBytes_escape hescape rfl h fun hbound => ih hmore hbound
  | @pair high low ps cs hhigh hlow _ ih =>
    obtain ⟨_, _, hfirst, rfl, hbehind⟩ := textAt_cons_iff.1 hps
    obtain ⟨_, more, hsecond, rfl, hmore⟩ := textAt_cons_iff.1 hbehind
    cases hfirst with
    | @number a b c d _ hn =>
      cases hsecond with
      | @number a' b' c' d' _ hm =>
        have hescape : (escape ([0x75, a, b, c, d, backslash, 0x75, a', b', c', d'] ++ more)).Yields
            (codePoint (joined high low)) more :=
          yields_escape_iff.2 (.inr ⟨_, rfl, yields_numbered_iff.2 ⟨high, _, yields_unit_iff.2 ⟨a, b, c, d, rfl, hn⟩,
            not_low_of_high hhigh, .inl ⟨hhigh, yields_lowUnit_iff.2
              ⟨_, low, rfl, yields_unit_iff.2 ⟨a', b', c', d', rfl, hm⟩, hlow, rfl⟩⟩⟩⟩)
        rw [List.flatMap_cons]
        generalize joined high low = joint at hescape ⊢
        exact yields_spelledBytes_escape hescape rfl h fun hbound => ih hmore hbound

/-- Pieces that stand for the characters of a text are read as the text. -/
theorem yields_text_of_denotes (hs : Denotes ps s.toList) (hps : TextAt ps input rest) : (text input).Yields s rest := by
  rw [yields_text_iff, bytes_eq_flatMap]
  exact yields_spelledBytes_of_denotes hs hps _

end Reading

section Passing

variable {bound : Nat} {ps : List Piece} {p : Piece} {input more rest : Bytes}

/-- An escape is passed over exactly if it spells a piece. -/
theorem yields_passEscape_iff :
    (passEscape input).Yields () rest ↔
      ∃ (p : Piece) (letters : Bytes), p.Spelled (backslash :: letters) ∧ input = letters ++ rest := by
  have hnumber : shortEscape 0x75 = none := by
    decide
  constructor
  · intro h
    cases input with
    | nil => exact absurd h not_yields_error
    | cons letter others =>
      simp only [passEscape] at h
      split at h
      · next b hb =>
        obtain ⟨⟨l, c⟩, hmem, rfl, -⟩ := exists_shortForm hb
        obtain ⟨-, rfl⟩ := yields_ok_iff.1 h
        exact ⟨.char c, [_], .short hmem, rfl⟩
      split at h
      · next hletter =>
        subst hletter
        simp only [yields_afterFirst_iff, yields_map_iff] at h
        obtain ⟨n, hunit, -⟩ := h
        obtain ⟨a, b, c, d, rfl, hn⟩ := yields_unit_iff.1 hunit
        exact ⟨.unit n, [0x75, a, b, c, d], .number hn, rfl⟩
      · exact absurd h not_yields_error
  · rintro ⟨p, letters, hp, rfl⟩
    generalize hspelled : backslash :: letters = spelled at hp
    cases hp with
    | plain hquote hback hcontrol =>
      have hplain := isPlainByte_of_plain hquote hback hcontrol backslash (by rw [← hspelled]; exact List.mem_cons_self)
      exact absurd rfl hplain.2.1
    | short hmem =>
      cases hspelled
      simp [passEscape, (shortEscape_of_mem _ hmem).1, Parsed.before]
    | @number a b c d n hn =>
      cases hspelled
      simp [passEscape, hnumber, unit, hn]

/-- Whatever is passed over is spelled by pieces. The induction is on the number of bytes. -/
theorem exists_pieces_of_passText (hinput : IsText input) {h : input.length ≤ bound}
    (hyields : (passText input h).Yields () rest) : ∃ ps, TextAt ps input rest := by
  induction hn : input.length using Nat.strongRecOn generalizing input with
  | ind n ih =>
    rcases isText_cases hinput with rfl | ⟨b, more, rfl, hlow, hmore⟩ | ⟨c, more, rfl, hbeyond, hmore⟩
    · rw [passText] at hyields
      exact absurd hyields not_yields_error
    · rw [passText] at hyields
      split at hyields
      · next hquote =>
        obtain ⟨-, rfl⟩ := yields_ok_iff.1 hyields
        exact ⟨[], hquote ▸ textAt_nil _⟩
      next hquote =>
      split at hyields
      · next hback =>
        have hescape := keepsText_passEscape more hmore
        cases hletters : passEscape more with
        | error fault =>
          rw [hletters] at hyields
          exact absurd hyields not_yields_error
        | ok q =>
          rw [hletters] at hyields hescape
          have hless : q.rest.length < n := by
            have := q.shorter
            rw [List.length_cons] at hn
            omega
          obtain ⟨p, letters, hp, hmore⟩ := yields_passEscape_iff.1 (hletters ▸ yields_ok_iff.2 ⟨rfl, rfl⟩)
          obtain ⟨qs, hqs⟩ := ih q.rest.length hless hescape hyields rfl
          refine ⟨p :: qs, textAt_cons_iff.2 ⟨_, _, hp, ?_, hqs⟩⟩
          rw [hback]
          exact congrArg (backslash :: ·) hmore
      next hback =>
      split at hyields
      · exact absurd hyields not_yields_error
      · next hcontrol =>
        have hless : more.length < n := by
          rw [List.length_cons] at hn
          omega
        obtain ⟨c, hc, -⟩ := spelled_of_low hlow ⟨hquote, hback, hcontrol⟩
        obtain ⟨qs, hqs⟩ := ih more.length hless hmore hyields rfl
        exact ⟨.char c :: qs, textAt_cons_iff.2 ⟨_, _, hc, rfl, hqs⟩⟩
    · have hless : more.length < n := hn ▸ length_lt_of_char c more
      have hbound : more.length ≤ bound := by
        rw [List.length_append] at h
        omega
      rw [passText_plain (isPlainByte_of_high hbeyond) h hbound] at hyields
      obtain ⟨qs, hqs⟩ := ih more.length hless hmore hyields rfl
      exact ⟨.char c :: qs, textAt_cons_iff.2 ⟨_, _, spelled_of_high hbeyond, rfl, hqs⟩⟩

/-- A piece is passed over, and then what is behind it. -/
theorem yields_passText_piece {first : Bytes} (hp : p.Spelled first) (h : (first ++ more).length ≤ bound)
    (hmore : ∀ hbound : more.length ≤ bound, (passText more hbound).Yields () rest) :
    (passText (first ++ more) h).Yields () rest := by
  have hbound : more.length ≤ bound := by
    rw [List.length_append] at h
    omega
  have hescape : ∀ letters, first = backslash :: letters → (passText (first ++ more) h).Yields () rest := by
    rintro letters rfl
    have hpassed : (passEscape (letters ++ more)).Yields () more := yields_passEscape_iff.2 ⟨p, letters, hp, rfl⟩
    obtain ⟨_, hok⟩ := hpassed
    show (passText (backslash :: (letters ++ more)) h).Yields () rest
    rw [passText, if_neg (by decide), if_pos rfl]
    simp only [hok]
    exact hmore hbound
  cases hp with
  | plain hquote hback hcontrol =>
    rw [passText_plain (isPlainByte_of_plain hquote hback hcontrol) h hbound]
    exact hmore hbound
  | short hmem => exact hescape _ rfl
  | number hn => exact hescape _ rfl

/-- Whatever pieces spell is passed over. -/
theorem yields_passText_of_textAt (hps : TextAt ps input rest) (h : input.length ≤ bound) :
    (passText input h).Yields () rest := by
  induction ps generalizing input with
  | nil =>
    obtain ⟨_, rfl, rfl⟩ := hps
    rw [List.nil_append] at h
    simp [passText]
  | cons p ps ih =>
    obtain ⟨first, more, hp, rfl, hmore⟩ := textAt_cons_iff.1 hps
    exact yields_passText_piece hp h fun hbound => ih hmore hbound

end Passing

end Json

end ChatOpening
