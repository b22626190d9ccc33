import ChatOpening.Proofs.Text.Encoding

/-!
# Stray bytes

Bytes may come from anywhere, and some of them may belong to no character.  A stray byte can be made visible in a text: a
question mark takes its place, and behind it the escape of a surrogate that has no partner.  Nothing else is changed, so
bytes of a text stay as they are.

**Input.**  Any bytes.

**Definitions.**
* `marked`: the bytes with a mark in the place of each stray byte.

**Results.**
* `front_cases`: what may stand in front.
* `marked_eq_append_iff`: ASCII bytes stay where they are, and no others appear but in marks.
* `isText_marked`, `marked_of_isText`: what is marked is a text, and a text is not changed.
* `not_isText_of_stray`: bytes with a stray byte are no text, unless something new goes on with it.
-/

namespace ChatOpening

namespace Text

/-- What takes the place of a stray byte: a question mark, and the escape of a surrogate. -/
def strayMark : Bytes :=
  [0x3F, 0x5C, 0x75, 0x64, 0x63, 0x30, 0x30]

/-- The bytes with a mark in the place of each one that belongs to no character. -/
def marked (input : Bytes) : Bytes :=
  match input with
  | [] => []
  | b :: rest =>
    match firstChar? (b :: rest) with
    | some c => String.utf8EncodeChar c ++ marked (rest.drop ((String.utf8EncodeChar c).length - 1))
    | none => strayMark ++ marked rest
termination_by input.length
decreasing_by
  · simp only [List.length_drop, List.length_cons]
    omega
  · simp

section Front

variable {input rest x y : Bytes} {b : UInt8} {c d : Char}

/-- The first character is the one with whose bytes the input begins. -/
theorem firstChar?_eq_some_iff : firstChar? input = some c ↔ ∃ rest, input = String.utf8EncodeChar c ++ rest := by
  constructor
  · intro h
    obtain ⟨l, hl⟩ := ByteArray.exists_of_utf8DecodeChar?_eq_some h
    refine ⟨l.data.toList, ?_⟩
    have hdata := congrArg (fun b => b.data.toList) hl
    simpa using hdata
  · rintro ⟨rest, rfl⟩
    exact firstChar?_append c rest

theorem marked_char (c : Char) (rest : Bytes) :
    marked (String.utf8EncodeChar c ++ rest) = String.utf8EncodeChar c ++ marked rest := by
  have hfront := firstChar?_append c rest
  obtain ⟨first, others, hfirst⟩ := List.exists_cons_of_ne_nil (@String.utf8EncodeChar_ne_nil c)
  rw [hfirst, List.cons_append] at hfront ⊢
  rw [marked]
  simp only [hfront, hfirst, List.length_cons, Nat.add_sub_cancel, List.drop_left, List.cons_append]

theorem marked_low (hb : b < 0x80) (rest : Bytes) : marked (b :: rest) = b :: marked rest := by
  obtain ⟨c, -, hc, -⟩ := exists_char_of_low hb
  have hmarked := marked_char c rest
  rwa [hc] at hmarked

/-- A byte that belongs to no character is marked. -/
theorem marked_stray (h : firstChar? (b :: rest) = none) : marked (b :: rest) = strayMark ++ marked rest := by
  rw [marked]
  simp only [h]

theorem marked_nil : marked [] = [] := by
  rw [marked]

/-- In front stands nothing, an ASCII byte, another character, or a stray byte. -/
theorem front_cases (input : Bytes) :
    input = [] ∨ (∃ b rest, b < 0x80 ∧ input = b :: rest) ∨
      (∃ c rest, 0x80 ≤ c.toNat ∧ input = String.utf8EncodeChar c ++ rest) ∨
      ∃ b rest, 0x80 ≤ b ∧ input = b :: rest ∧ firstChar? (b :: rest) = none := by
  cases input with
  | nil => exact .inl rfl
  | cons b rest =>
    by_cases hb : b < 0x80
    · exact .inr (.inl ⟨b, rest, hb, rfl⟩)
    cases hfront : firstChar? (b :: rest) with
    | none => exact .inr (.inr (.inr ⟨b, rest, UInt8.not_lt.1 hb, rfl, hfront⟩))
    | some c =>
      obtain ⟨more, hmore⟩ := firstChar?_eq_some_iff.1 hfront
      refine .inr (.inr (.inl ⟨c, more, ?_, hmore⟩))
      obtain ⟨first, others, hfirst⟩ := List.exists_cons_of_ne_nil (@String.utf8EncodeChar_ne_nil c)
      rw [hfirst, List.cons_append, List.cons.injEq] at hmore
      rw [← Nat.not_lt, ← low_iff_ascii (by rw [hfirst]; exact List.mem_cons_self), ← hmore.1]
      exact hb

end Front

section Marks

variable {input rest x y : Bytes} {b c : UInt8} {p : UInt8 → Bool}

/-- A question mark, or a part of something beyond ASCII. -/
def IsForeign (b : UInt8) : Prop :=
  b = 0x3F ∨ 0x80 ≤ b

theorem IsForeign.ne (hb : IsForeign b) (hlow : c < 0x80) (hmark : c ≠ 0x3F) : b ≠ c := by
  rintro rfl
  rcases hb with hb | hb
  · exact hmark hb
  · exact absurd hlow (UInt8.not_lt.2 hb)

/-- A character beyond ASCII starts with a foreign byte. -/
theorem isForeign_of_char {d : Char} (hd : 0x80 ≤ d.toNat) :
    ∃ b others, String.utf8EncodeChar d = b :: others ∧ IsForeign b := by
  obtain ⟨b, others, hfirst⟩ := List.exists_cons_of_ne_nil (@String.utf8EncodeChar_ne_nil d)
  exact ⟨b, others, hfirst, .inr (high_of_mem_utf8EncodeChar hd (by rw [hfirst]; exact List.mem_cons_self))⟩

/-- An ASCII byte stays in front, and whatever else is there stays foreign. -/
theorem marked_cases (input : Bytes) :
    (input = [] ∧ marked input = []) ∨
      (∃ b rest, b < 0x80 ∧ input = b :: rest ∧ marked input = b :: marked rest) ∨
      ∃ b rest b' rest', IsForeign b ∧ IsForeign b' ∧ input = b :: rest ∧ marked input = b' :: rest' := by
  rcases front_cases input with rfl | ⟨b, rest, hb, rfl⟩ | ⟨d, rest, hd, rfl⟩ | ⟨b, rest, hb, rfl, hfront⟩
  · exact .inl ⟨rfl, marked_nil⟩
  · exact .inr (.inl ⟨b, rest, hb, rfl, marked_low hb rest⟩)
  · obtain ⟨b, others, hfirst, hb⟩ := isForeign_of_char hd
    refine .inr (.inr ⟨b, others ++ rest, b, others ++ marked rest, hb, hb, ?_, ?_⟩)
    · rw [hfirst, List.cons_append]
    · rw [marked_char, hfirst, List.cons_append]
  · exact .inr (.inr ⟨b, rest, 0x3F, _, .inr hb, .inl rfl, rfl, marked_stray hfront⟩)

theorem marked_eq_nil_iff : marked input = [] ↔ input = [] := by
  rcases marked_cases input with ⟨rfl, h⟩ | ⟨b, rest, -, rfl, h⟩ | ⟨b, rest, c, more, -, -, rfl, h⟩
  · simp [h]
  · simp [h]
  · simp [h]

/-- A plain byte in front was there before. -/
theorem marked_eq_cons_iff (hb : b < 0x80) (hmark : b ≠ 0x3F) :
    marked input = b :: y ↔ ∃ rest, input = b :: rest ∧ y = marked rest := by
  constructor
  · intro h
    rcases marked_cases input with ⟨rfl, hinput⟩ | ⟨c, rest, -, rfl, hinput⟩ | ⟨_, _, c, rest, -, hc, rfl, hinput⟩
    · cases hinput.symm.trans h
    · cases hinput.symm.trans h
      exact ⟨rest, rfl, rfl⟩
    · cases hinput.symm.trans h
      exact absurd rfl (hc.ne hb hmark)
  · rintro ⟨rest, rfl, rfl⟩
    exact marked_low hb rest

/-- ASCII bytes that are not in a mark were there before. -/
theorem marked_eq_append_iff (hx : ∀ b ∈ x, b < 0x80 ∧ b ≠ 0x3F) :
    marked input = x ++ y ↔ ∃ rest, input = x ++ rest ∧ y = marked rest := by
  induction x generalizing input with
  | nil =>
    constructor
    · rintro rfl
      exact ⟨input, rfl, rfl⟩
    · rintro ⟨rest, rfl, rfl⟩
      rfl
  | cons b x ih =>
    obtain ⟨hb, hmark⟩ := hx b List.mem_cons_self
    have ih := fun input => @ih input fun c hc => hx c (List.mem_cons_of_mem _ hc)
    rw [List.cons_append, marked_eq_cons_iff hb hmark]
    constructor
    · rintro ⟨rest, rfl, hrest⟩
      obtain ⟨more, rfl, rfl⟩ := (ih rest).1 hrest.symm
      exact ⟨more, rfl, rfl⟩
    · rintro ⟨more, rfl, rfl⟩
      exact ⟨x ++ more, rfl, ((ih _).2 ⟨more, rfl, rfl⟩).symm⟩

/-- The bytes up to a foreign one are the same with marks and without. -/
theorem takeWhile_marked (hp : ∀ b, IsForeign b → p b = false) : (marked x).takeWhile p = x.takeWhile p := by
  induction x with
  | nil => rw [marked_nil]
  | cons b rest ih =>
    rcases marked_cases (b :: rest) with ⟨hnil, -⟩ | ⟨_, _, -, hinput, hmarked⟩ | ⟨_, _, c, _, hb, hc, hinput, hmarked⟩
    · cases hnil
    · cases hinput
      rw [hmarked, List.takeWhile_cons, List.takeWhile_cons, ih]
    · cases hinput
      rw [hmarked, List.takeWhile_cons_of_neg (by simp [hp _ hc]), List.takeWhile_cons_of_neg (by simp [hp _ hb])]

/-- What is left behind the bytes up to a foreign one is marked. -/
theorem dropWhile_marked (hp : ∀ b, IsForeign b → p b = false) : (marked x).dropWhile p = marked (x.dropWhile p) := by
  induction x with
  | nil => rw [marked_nil, List.dropWhile_nil, marked_nil]
  | cons b rest ih =>
    rcases marked_cases (b :: rest) with ⟨hnil, -⟩ | ⟨_, _, -, hinput, hmarked⟩ | ⟨_, _, c, _, hb, hc, hinput, hmarked⟩
    · cases hnil
    · cases hinput
      rw [hmarked, List.dropWhile_cons, List.dropWhile_cons, ih]
      split
      · rfl
      · exact hmarked.symm
    · cases hinput
      rw [hmarked, List.dropWhile_cons_of_neg (by simp [hp _ hc]), List.dropWhile_cons_of_neg (by simp [hp _ hb]), hmarked]

end Marks

section Texts

variable {input x y : Bytes}

/-- A text in front is not changed. -/
theorem marked_append_of_isText (hx : IsText x) (y : Bytes) : marked (x ++ y) = x ++ marked y := by
  obtain ⟨cs, rfl⟩ := hx
  induction cs with
  | nil => rfl
  | cons c cs ih => rw [List.flatMap_cons, List.append_assoc, marked_char, ih, List.append_assoc]

/-- A text stays as it is. -/
theorem marked_of_isText (hx : IsText x) : marked x = x := by
  have h := marked_append_of_isText hx []
  rwa [List.append_nil, marked_nil, List.append_nil] at h

theorem isText_strayMark : IsText strayMark :=
  ⟨['?', '\\', 'u', 'd', 'c', '0', '0'], by decide⟩

/-- What is marked is a text. The induction is on the number of bytes. -/
theorem isText_marked (input : Bytes) : IsText (marked input) := by
  induction hn : input.length using Nat.strongRecOn generalizing input with
  | ind n ih =>
    rcases front_cases input with rfl | ⟨b, rest, hb, rfl⟩ | ⟨c, rest, -, rfl⟩ | ⟨b, rest, -, rfl, hfront⟩
    · rw [marked_nil]
      exact isText_nil
    · rw [marked_low hb, ← List.singleton_append]
      exact isText_append (isText_singleton hb) (ih rest.length (by simp [← hn]) rest rfl)
    · have hless : rest.length < n := by
        have hsome := List.length_pos_iff.2 (@String.utf8EncodeChar_ne_nil c)
        rw [List.length_append] at hn
        omega
      rw [marked_char]
      exact isText_append (isText_utf8EncodeChar c) (ih rest.length hless rest rfl)
    · rw [marked_stray hfront]
      exact isText_append isText_strayMark (ih rest.length (by simp [← hn]) rest rfl)

end Texts

section Tails

variable {a front rest z : Bytes} {b : UInt8} {c : Char}

theorem isTail_mod (n : Nat) : isTail (UInt8.ofNat (n % 64 + 128)) = true := by
  have hsize : n % 64 + 128 < UInt8.size := by
    simp only [UInt8.size]
    omega
  simp only [isTail, Bool.and_eq_true, decide_eq_true_eq, UInt8.le_iff_toNat_le, UInt8.toNat_ofNat_of_lt' hsize,
    UInt8.reduceToNat]
  omega

/-- A byte that starts a character beyond ASCII goes on with no other one. -/
theorem not_isTail_of_lt {n : Nat} (hlow : 0xBF < n) (hhigh : n < 0x100) : isTail (UInt8.ofNat n) = false := by
  simp only [isTail, Bool.and_eq_false_iff, decide_eq_false_iff_not, UInt8.le_iff_toNat_le,
    UInt8.toNat_ofNat_of_lt' hhigh, UInt8.reduceToNat]
  omega

theorem not_isTail_of_low (hb : b < 0x80) : isTail b = false := by
  simp [isTail, UInt8.not_le.2 hb]

/-- A character starts with a byte that goes on with none, and all its other bytes go on. -/
theorem isTail_of_utf8EncodeChar {first : UInt8} {others : Bytes} (h : String.utf8EncodeChar c = first :: others) :
    isTail first = false ∧ ∀ b ∈ others, isTail b = true := by
  rcases Nat.lt_or_ge c.toNat 0x80 with hc | hc
  · have hfirst : first < 0x80 := (low_iff_ascii (by rw [h]; exact List.mem_cons_self)).2 hc
    rw [utf8EncodeChar_ascii hc] at h
    obtain ⟨-, rfl⟩ := List.cons.inj h
    exact ⟨not_isTail_of_low hfirst, List.forall_mem_nil _⟩
  · have hbeyond : ¬ c.toNat ≤ 127 := by omega
    simp only [String.utf8EncodeChar, Char.toNat_val, hbeyond, if_false] at h
    split at h
    · obtain ⟨rfl, rfl⟩ := List.cons.inj h
      exact ⟨not_isTail_of_lt (by omega) (by omega), List.forall_mem_singleton.2 (isTail_mod _)⟩
    split at h
    · obtain ⟨rfl, rfl⟩ := List.cons.inj h
      refine ⟨not_isTail_of_lt (by omega) (by omega), List.forall_mem_cons.2 ⟨isTail_mod _, ?_⟩⟩
      exact List.forall_mem_singleton.2 (isTail_mod _)
    · obtain ⟨rfl, rfl⟩ := List.cons.inj h
      refine ⟨not_isTail_of_lt (by omega) (by omega), List.forall_mem_cons.2 ⟨isTail_mod _, ?_⟩⟩
      exact List.forall_mem_cons.2 ⟨isTail_mod _, List.forall_mem_singleton.2 (isTail_mod _)⟩

/-- A stray byte stays stray if no byte goes on with it that did not before. -/
theorem not_isText_of_stray (h : firstChar? (b :: rest) = none)
    (htails : ∀ tails, (∀ t ∈ tails, isTail t = true) → tails <+: z → tails <+: rest) : ¬ IsText (b :: z) := by
  rintro ⟨cs, hcs⟩
  cases cs with
  | nil => cases hcs
  | cons c cs =>
    obtain ⟨first, tails, hc⟩ := List.exists_cons_of_ne_nil (@String.utf8EncodeChar_ne_nil c)
    rw [List.flatMap_cons, hc, List.cons_append] at hcs
    obtain ⟨rfl, rfl⟩ := List.cons.inj hcs
    obtain ⟨more, rfl⟩ := htails tails (isTail_of_utf8EncodeChar hc).2 (List.prefix_append ..)
    have hfront := firstChar?_append c more
    rw [hc, List.cons_append, h] at hfront
    cases hfront

end Tails

end Text

end ChatOpening
