import ChatOpening.Proofs.Json.Layouts

/-!
# What is written is a layout

The canonical text of an element spells a tree, and the tree is one of the layouts of the element: an object with all
declared fields in their order, null for what is absent, and numerals without leading zeros.

**Input.**  An element of a described type.

**Definitions.**
* `Value.Integral`, `Value.depth`: all numbers are whole and fit into 64 bits; how deep lists and objects are nested.
* `Schema.Writable`: the element can be told from its text, within a number of levels.

**Results.**
* `exists_pieces_writtenText`, `exists_numeral_written`: texts and whole numbers.
* `Value.exists_layout`: a value of any shape.
* `Schema.exists_layout`, `Schema.exists_list_layout`: an element of a schema, and a record as a list.
* `exists_document_encode`: the canonical text of an element is one of its layouts.
-/

namespace ChatOpening

namespace Json

open Text

section Texts

variable {c : Char} {cs : List Char}

theorem ascii_of_mem_shortForms : ∀ m ∈ shortForms, m.1.toNat < 0x80 := by
  decide

/-- A character is written with a short escape, with an escape by number, or as it is. -/
theorem escapedChar_cases (c : Char) :
    (∃ letter, escapedChar c = ['\\', letter] ∧ (letter, c) ∈ shortForms) ∨
      (escapedChar c = ['\\', 'u', '0', '0', Nat.digitChar (c.toNat / 16), Nat.digitChar (c.toNat % 16)] ∧
        c.toNat < 0x20) ∨
      (escapedChar c = [c] ∧ c ≠ '"' ∧ c ≠ '\\' ∧ 0x20 ≤ c.toNat) := by
  unfold escapedChar
  split
  · exact .inl ⟨'"', rfl, by decide⟩
  · exact .inl ⟨'\\', rfl, by decide⟩
  · exact .inl ⟨'b', rfl, by decide⟩
  · exact .inl ⟨'f', rfl, by decide⟩
  · exact .inl ⟨'n', rfl, by decide⟩
  · exact .inl ⟨'r', rfl, by decide⟩
  · exact .inl ⟨'t', rfl, by decide⟩
  · next hquote hback _ _ _ _ _ =>
    split
    · next hcontrol => exact .inr (.inl ⟨rfl, hcontrol⟩)
    · next hcontrol => exact .inr (.inr ⟨rfl, hquote, hback, Nat.not_lt.1 hcontrol⟩)

/-- The digits of an escape by number spell the number. -/
theorem unitValue_digits : ∀ n < 0x20, unitValue 0x30 0x30 (UInt8.ofNat (Nat.digitChar (n / 16)).toNat)
    (UInt8.ofNat (Nat.digitChar (n % 16)).toNat) = some n := by
  decide

theorem toNat_digitChar_lt : ∀ n < 16, (Nat.digitChar n).toNat < 0x80 := by
  decide

/-- What is written for a character is a piece that stands for it. -/
theorem exists_piece_escapedChar (c : Char) :
    ∃ p : Piece, p.Spelled ((escapedChar c).flatMap String.utf8EncodeChar) ∧
      ∀ {ps cs}, Denotes ps cs → Denotes (p :: ps) (c :: cs) := by
  rcases escapedChar_cases c with ⟨letter, hwritten, hshort⟩ | ⟨hwritten, hcontrol⟩ | ⟨hwritten, hquote, hback, hcontrol⟩
  · have hbytes : (escapedChar c).flatMap String.utf8EncodeChar = [backslash, UInt8.ofNat letter.toNat] := by
      rw [hwritten, List.flatMap_cons, List.flatMap_cons, utf8EncodeChar_ascii (ascii_of_mem_shortForms _ hshort)]
      rfl
    exact ⟨.char c, hbytes ▸ .short hshort, .char⟩
  · have hbytes : (escapedChar c).flatMap String.utf8EncodeChar =
        [backslash, 0x75, 0x30, 0x30, UInt8.ofNat (Nat.digitChar (c.toNat / 16)).toNat,
          UInt8.ofNat (Nat.digitChar (c.toNat % 16)).toNat] := by
      rw [hwritten]
      simp only [List.flatMap_cons, List.flatMap_nil, utf8EncodeChar_ascii (toNat_digitChar_lt _ (Nat.mod_lt _ (by decide))),
        utf8EncodeChar_ascii (toNat_digitChar_lt (c.toNat / 16) (by omega))]
      rfl
    have hhigh : isHighSurrogate c.toNat = false := by
      simp only [isHighSurrogate, Bool.and_eq_false_iff, decide_eq_false_iff_not]
      omega
    have hlow : isLowSurrogate c.toNat = false := by
      simp only [isLowSurrogate, Bool.and_eq_false_iff, decide_eq_false_iff_not]
      omega
    refine ⟨.unit c.toNat, hbytes ▸ .number (unitValue_digits _ hcontrol), fun {ps cs} hcs => ?_⟩
    have hunit := Denotes.unit hhigh hlow hcs
    rwa [Char.ofNat_toNat] at hunit
  · have hbytes : (escapedChar c).flatMap String.utf8EncodeChar = String.utf8EncodeChar c := by
      rw [hwritten, List.flatMap_cons, List.flatMap_nil, List.append_nil]
    exact ⟨.char c, hbytes ▸ .plain hquote hback hcontrol, .char⟩

/-- Escaped characters are spelled pieces that stand for them. -/
theorem exists_pieces_escaped (cs : List Char) :
    ∃ ps, PiecesSpelled ps ((cs.flatMap escapedChar).flatMap String.utf8EncodeChar) ∧ Denotes ps cs := by
  induction cs with
  | nil => exact ⟨[], rfl, .nil⟩
  | cons c cs ih =>
    obtain ⟨p, hp, hdenotes⟩ := exists_piece_escapedChar c
    obtain ⟨ps, hps, hcs⟩ := ih
    refine ⟨p :: ps, ⟨_, _, ?_, hp, hps⟩, hdenotes hcs⟩
    rw [List.flatMap_cons, List.flatMap_append]

/-- A text that is written is spelled by pieces that stand for its characters. -/
theorem exists_pieces_writtenText (s : String) :
    ∃ ps, TextSpelled ps (bytes (writtenText s)) ∧ Denotes ps s.toList := by
  obtain ⟨ps, hps, hs⟩ := exists_pieces_escaped s.toList
  have hquote : bytes "\"" = [quoteMark] := by
    decide
  refine ⟨ps, ⟨_, hps, ?_⟩, hs⟩
  simp only [writtenText, bytes_append, bytes_ofList, hquote, List.cons_append, List.nil_append]

end Texts

section Numbers

theorem utf8EncodeChar_digitChar : ∀ d < 10, String.utf8EncodeChar (Nat.digitChar d) = [UInt8.ofNat (0x30 + d)] := by
  decide

/-- The last digit comes behind the digits of the tenth. -/
theorem bytes_toString (n : Nat) :
    bytes (toString n) = (if n < 10 then [] else bytes (toString (n / 10))) ++ [UInt8.ofNat (0x30 + n % 10)] := by
  have hlast := utf8EncodeChar_digitChar (n % 10) (Nat.mod_lt _ (by decide))
  simp only [Nat.toString_eq_ofList_toDigits, bytes_ofList]
  rw [Nat.toDigits_eq_if (by decide)]
  split
  · next hsmall =>
    rw [Nat.mod_eq_of_lt hsmall] at hlast ⊢
    simp only [List.flatMap_cons, List.flatMap_nil, List.append_nil, List.nil_append, hlast]
  · simp only [List.flatMap_append, List.flatMap_cons, List.flatMap_nil, List.append_nil, hlast]

theorem isDigit_lastDigit : ∀ d < 10, isDigit (UInt8.ofNat (0x30 + d)) = true ∧
    Numeral.digitValue (UInt8.ofNat (0x30 + d)) = d ∧ (UInt8.ofNat (0x30 + d) = 0x30 → d = 0) := by
  decide

/-- The digits of a number spell it, and only zero starts with a zero. -/
theorem digits_toString (n : Nat) :
    IsDigits (bytes (toString n)) ∧ spelledNumber 0 (bytes (toString n)) = n ∧
      ((bytes (toString n)).head? = some 0x30 → n = 0) := by
  induction n using Nat.strongRecOn with
  | ind n ih =>
    obtain ⟨hdigit, hvalue, hzero⟩ := isDigit_lastDigit (n % 10) (Nat.mod_lt _ (by decide))
    rw [bytes_toString]
    split
    · next hsmall =>
      rw [Nat.mod_eq_of_lt hsmall] at hdigit hvalue hzero ⊢
      refine ⟨⟨List.cons_ne_nil _ _, ?_⟩, ?_, fun hhead => hzero (Option.some.inj hhead)⟩
      · intro d hd
        rw [List.mem_singleton.1 hd]
        exact hdigit
      · simp only [spelledNumber, List.nil_append, List.foldl_cons, List.foldl_nil, hvalue, Nat.zero_mul, Nat.zero_add]
    · next hlarge =>
      obtain ⟨⟨hne, hdigits⟩, hspelled, hhead⟩ := ih (n / 10) (by omega)
      refine ⟨⟨List.append_ne_nil_of_left_ne_nil hne _, ?_⟩, ?_, ?_⟩
      · intro d hd
        rcases List.mem_append.1 hd with hd | hd
        · exact hdigits d hd
        · rw [List.mem_singleton.1 hd]
          exact hdigit
      · simp only [spelledNumber] at hspelled
        simp only [spelledNumber, List.foldl_append, hspelled, List.foldl_cons, List.foldl_nil, hvalue]
        omega
      · rw [List.head?_append_of_ne_nil _ hne]
        intro hstart
        have htenth := hhead hstart
        omega

/-- A number is written without leading zeros. -/
theorem isWhole_toString (n : Nat) : IsWhole (bytes (toString n)) := by
  obtain ⟨hdigits, -, hzero⟩ := digits_toString n
  refine ⟨hdigits, fun hhead => ?_⟩
  rw [hzero hhead]
  decide

/-- A whole number that is written is a numeral that spells it. -/
theorem exists_numeral_written (i : Int) : ∃ n, NumeralSpelled n (bytes (toString i)) ∧ Spells n i := by
  have hunsigned : ∀ negative m, UnsignedSpelled ⟨negative, bytes (toString m), none, none⟩ (bytes (toString m)) :=
    fun _ m => ⟨[], [], isWhole_toString m, rfl, rfl, (List.append_nil _).symm⟩
  cases i with
  | ofNat m =>
    refine ⟨⟨false, bytes (toString m), none, none⟩, hunsigned false m, ⟨rfl, rfl, (digits_toString m).2.1.symm, ?_⟩⟩
    simp
  | negSucc m =>
    have hminus : bytes "-" = [0x2D] := by
      decide
    have hbytes : bytes (toString (Int.negSucc m)) = 0x2D :: bytes (toString (m + 1)) := by
      rw [show toString (Int.negSucc m) = "-" ++ toString (m + 1) from rfl, bytes_append, hminus]
      rfl
    refine ⟨⟨true, bytes (toString (m + 1)), none, none⟩, ⟨_, hunsigned true (m + 1), hbytes⟩,
      ⟨rfl, rfl, (digits_toString (m + 1)).2.1.symm, ?_⟩⟩
    simp [Int.negSucc_lt_zero]

end Numbers

section Parts

variable {P : Bytes → Prop} {Ps : List (Bytes → Prop)} {b : Bytes} {ts : List Tree} {parts : List String}
  {es : List (String × Tree)} {members : List (String × String)}

/-- The text spells the tree. -/
def Tree.WrittenAs (t : Tree) (s : String) : Prop :=
  t.Spelled (bytes s)

theorem padded_self (h : P b) : Padded P b :=
  ⟨[], b, [], allBlank_nil, h, allBlank_nil, by simp⟩

theorem later_of_separated (h : Separated (P :: Ps) b) : Later (P :: Ps) (comma :: b) := by
  obtain ⟨part, others, hpart, hothers, rfl⟩ := h
  exact ⟨part, others, hpart, hothers, rfl⟩

/-- Written parts are separated by commas. -/
theorem separated_written (h : List.Forall₂ (fun (P : Bytes → Prop) part => P (bytes part)) Ps parts) :
    Separated Ps (bytes (separated parts)) := by
  induction h with
  | nil => exact allBlank_nil
  | @cons P part Ps parts hP hparts ih =>
    cases hparts with
    | nil => exact ⟨bytes part, [], padded_self hP, rfl, (List.append_nil _).symm⟩
    | @cons _ next _ others _ _ =>
      have hcomma : bytes "," = [comma] := by
        decide
      refine ⟨bytes part, _, padded_self hP, later_of_separated ih, ?_⟩
      rw [show separated (part :: next :: others) = part ++ "," ++ separated (next :: others) from rfl, bytes_append,
        bytes_append, hcomma, List.append_assoc]
      rfl

theorem writtenAs_array (h : List.Forall₂ Tree.WrittenAs ts parts) : (Tree.array ts).WrittenAs (writtenArray parts) := by
  have hopen : bytes "[" = [0x5B] := by
    decide
  have hclose : bytes "]" = [0x5D] := by
    decide
  have hparts : Separated (itemsSpelled ts) (bytes (separated parts)) := by
    rw [itemsSpelled_eq_map]
    exact separated_written (List.forall₂_map_left_iff.2 h)
  rw [Tree.WrittenAs, Tree.Spelled, writtenArray, bytes_append, bytes_append, hopen, hclose]
  exact ⟨_, hparts, rfl⟩

/-- Members that are written have names and spelled parts. -/
theorem exists_named_written (h : Entries Tree.WrittenAs es members) :
    ∃ ms, Named ms es ∧ List.Forall₂ (fun (P : Bytes → Prop) part => P (bytes part)) (membersSpelled ms)
      (members.map fun m => writtenText m.1 ++ ":" ++ m.2) := by
  have hcolon : bytes ":" = [0x3A] := by
    decide
  induction h with
  | nil => exact ⟨[], .nil, .nil⟩
  | @cons e m es members hm _ ih =>
    obtain ⟨name, t⟩ := e
    obtain ⟨rfl, ht⟩ := hm
    obtain ⟨ms, hms, hspelled⟩ := ih
    obtain ⟨ps, hps, hname⟩ := exists_pieces_writtenText m.1
    refine ⟨(ps, t) :: ms, .cons ⟨hname, rfl⟩ hms, .cons ⟨_, [], [], _, hps, allBlank_nil, allBlank_nil, ht, ?_⟩ hspelled⟩
    rw [bytes_append, bytes_append, hcolon, List.append_assoc]
    rfl

/-- Written members are spelled by an object with these members. -/
theorem exists_object_written (h : Entries Tree.WrittenAs es members) :
    ∃ t : Tree, t.WrittenAs (writtenObject members) ∧ t.IsObject es := by
  have hopen : bytes "\x7b" = [0x7B] := by
    decide
  have hclose : bytes "\x7d" = [0x7D] := by
    decide
  obtain ⟨ms, hms, hspelled⟩ := exists_named_written h
  refine ⟨.object ms, ?_, ms, rfl, hms⟩
  rw [Tree.WrittenAs, Tree.Spelled, writtenObject, bytes_append, bytes_append, hopen, hclose]
  exact ⟨_, separated_written hspelled, rfl⟩

/-- Half of a surrogate pair can be written, although it means no text. -/
theorem writtenAs_loneSurrogate : (Tree.text [.unit 0xD800]).WrittenAs "\"\\ud800\"" := by
  have hbytes : bytes "\"\\ud800\"" = [0x22, 0x5C, 0x75, 0x64, 0x38, 0x30, 0x30, 0x22] := by
    decide
  rw [Tree.WrittenAs, hbytes]
  exact ⟨_, ⟨_, [], rfl, .number rfl, rfl⟩, rfl⟩

end Parts

section Values

mutual

/-- Every number in the value is a whole one of 64 bits, signed or not. -/
def Value.Integral : Value → Prop
  | .number (.integer n) => IsWord n
  | .number (.fraction _) => False
  | .array items => ItemsIntegral items
  | .object members => MembersIntegral members
  | _ => True

def ItemsIntegral : List Value → Prop
  | [] => True
  | v :: vs => v.Integral ∧ ItemsIntegral vs

def MembersIntegral : List (String × Value) → Prop
  | [] => True
  | (_, v) :: ms => v.Integral ∧ MembersIntegral ms

end

mutual

def Value.decideIntegral : (v : Value) → Decidable v.Integral
  | .null | .truth _ | .text _ => .isTrue trivial
  | .number (.integer n) => inferInstanceAs (Decidable (IsWord n))
  | .number (.fraction _) => .isFalse id
  | .array items => decideItemsIntegral items
  | .object members => decideMembersIntegral members

def decideItemsIntegral : (items : List Value) → Decidable (ItemsIntegral items)
  | [] => .isTrue trivial
  | v :: vs => @instDecidableAnd _ _ v.decideIntegral (decideItemsIntegral vs)

def decideMembersIntegral : (members : List (String × Value)) → Decidable (MembersIntegral members)
  | [] => .isTrue trivial
  | (_, v) :: ms => @instDecidableAnd _ _ v.decideIntegral (decideMembersIntegral ms)

end

instance (v : Value) : Decidable v.Integral :=
  v.decideIntegral

mutual

/-- How many lists and objects stand around each other in the value. -/
def Value.depth : Value → Nat
  | .array items => itemsDepth items + 1
  | .object members => membersDepth members + 1
  | _ => 0

def itemsDepth : List Value → Nat
  | [] => 0
  | v :: vs => max v.depth (itemsDepth vs)

def membersDepth : List (String × Value) → Nat
  | [] => 0
  | (_, v) :: ms => max v.depth (membersDepth ms)

end

variable {levels : Nat}

/-- Ordered members are what is left of them when they are put together. -/
theorem gathered_putMember {ms : List (String × Value)} (h : Ordered ms) : gathered putMember [] ms = ms :=
  foldl_putEntry_of_ordered h

theorem exists_meansOver (levels : Nat) : ∃ inner, Tree.Means levels = MeansOver inner := by
  cases levels with
  | zero => exact ⟨none, rfl⟩
  | succ fewer => exact ⟨some (Tree.Means fewer), rfl⟩

/-- A number that is whole and fits into 64 bits is written as a numeral of its value. -/
theorem exists_number_written {x : Number} (h : (Value.number x).Integral) :
    ∃ n : Numeral, (Tree.number n).WrittenAs (Value.number x).written ∧ n.value = .ok x := by
  cases x with
  | fraction x => exact absurd h id
  | integer i =>
    obtain ⟨n, hn, hi⟩ := exists_numeral_written i
    exact ⟨n, hn, value_eq_integer_iff.2 (integer?_eq_some_iff.2 ⟨hi, h⟩)⟩

mutual

/-- A value is written as a tree that means it. -/
theorem Value.exists_layout (levels : Nat) (v : Value) (horder : v.InOrder) (hintegral : v.Integral)
    (hdepth : v.depth ≤ levels) : ∃ t : Tree, t.WrittenAs v.written ∧ t.Means levels v := by
  obtain ⟨inner, hinner⟩ := exists_meansOver levels
  cases v with
  | null => exact ⟨.null, rfl, hinner ▸ .null⟩
  | truth b =>
    cases b with
    | true => exact ⟨.truth true, rfl, hinner ▸ .truth true⟩
    | false => exact ⟨.truth false, rfl, hinner ▸ .truth false⟩
  | number x =>
    obtain ⟨n, hn, hvalue⟩ := exists_number_written hintegral
    exact ⟨.number n, hn, hinner ▸ .number hvalue⟩
  | text s =>
    obtain ⟨ps, hps, hs⟩ := exists_pieces_writtenText s
    exact ⟨.text ps, hps, hinner ▸ .text hs⟩
  | array vs =>
    cases levels with
    | zero => exact absurd hdepth (Nat.not_succ_le_zero _)
    | succ fewer =>
      obtain ⟨ts, hwritten, hmeans⟩ :=
        exists_item_layouts fewer vs horder hintegral (Nat.le_of_succ_le_succ hdepth)
      exact ⟨.array ts, writtenAs_array hwritten, .array rfl hmeans⟩
  | object ms =>
    cases levels with
    | zero => exact absurd hdepth (Nat.not_succ_le_zero _)
    | succ fewer =>
      obtain ⟨es, hwritten, hmeans⟩ :=
        exists_member_layouts fewer ms horder.2 hintegral (Nat.le_of_succ_le_succ hdepth)
      obtain ⟨t, ht, ns, rfl, hns⟩ := exists_object_written hwritten
      have hobject : (Tree.object ns).Means (fewer + 1) (.object (gathered putMember [] ms)) := .object rfl hns hmeans
      rw [gathered_putMember horder.1] at hobject
      exact ⟨.object ns, ht, hobject⟩

/-- Items are written as trees that mean them. -/
theorem exists_item_layouts (levels : Nat) (vs : List Value) (horder : Value.ItemsInOrder vs)
    (hintegral : ItemsIntegral vs) (hdepth : itemsDepth vs ≤ levels) :
    ∃ ts, List.Forall₂ Tree.WrittenAs ts (Value.writtenItems vs) ∧ List.Forall₂ (Tree.Means levels) ts vs := by
  cases vs with
  | nil => exact ⟨[], .nil, .nil⟩
  | cons v vs =>
    obtain ⟨hfirst, hothers⟩ := Nat.max_le.1 hdepth
    obtain ⟨t, ht, hv⟩ := Value.exists_layout levels v horder.1 hintegral.1 hfirst
    obtain ⟨ts, hts, hvs⟩ := exists_item_layouts levels vs horder.2 hintegral.2 hothers
    exact ⟨t :: ts, .cons ht hts, .cons hv hvs⟩

/-- Members are written as trees that mean them. -/
theorem exists_member_layouts (levels : Nat) (ms : List (String × Value)) (horder : Value.MembersInOrder ms)
    (hintegral : MembersIntegral ms) (hdepth : membersDepth ms ≤ levels) :
    ∃ es, Entries Tree.WrittenAs es (Value.writtenMembers ms) ∧ Entries (Tree.Means levels) es ms := by
  cases ms with
  | nil => exact ⟨[], .nil, .nil⟩
  | cons m ms =>
    obtain ⟨key, v⟩ := m
    obtain ⟨hfirst, hothers⟩ := Nat.max_le.1 hdepth
    obtain ⟨t, ht, hv⟩ := Value.exists_layout levels v horder.1 hintegral.1 hfirst
    obtain ⟨es, hes, hms⟩ := exists_member_layouts levels ms horder.2 hintegral.2 hothers
    exact ⟨(key, t) :: es, .cons ⟨rfl, ht⟩ hes, .cons ⟨rfl, hv⟩ hms⟩

end

end Values

section Schemas

mutual

/-- The element can be told from its text: fields and variants have names of their own, null stands for absence only, and
`levels` lists, objects and variants may stand around each other. -/
def Schema.Writable : (schema : Schema) → (levels : Nat) → schema.Carrier → Prop
  | .text => fun _ _ => True
  | .truth => fun _ _ => True
  | .int64 => fun _ _ => True
  | .uint32 => fun _ _ => True
  | .optional inner => fun levels v => inner.absent = Option.none ∧ ∀ a, v = some a → inner.Writable levels a
  | .list item => fun levels (vs : List item.Carrier) => ∃ fewer, levels = fewer + 1 ∧ ∀ v ∈ vs, item.Writable fewer v
  | .dictionary => fun levels _ => levels ≠ 0
  | .object => fun levels ms =>
    (Value.object ms).InOrder ∧ (Value.object ms).Integral ∧ (Value.object ms).depth ≤ levels
  | .variant names => fun _ _ => names.Nodup
  | .record _ fields => fun levels row => fields.names.Nodup ∧ ∃ fewer, levels = fewer + 1 ∧ fields.WritableRow fewer row

def Fields.WritableRow : (fields : Fields) → (levels : Nat) → fields.Row → Prop
  | .none => fun _ _ => True
  | .field _ schema others => fun levels row => schema.Writable levels row.1 ∧ others.WritableRow levels row.2

end

variable {α β : Type} {levels : Nat} {es : List (String × Tree)} {name : String}

/-- Only a value that may be absent is written as null. -/
theorem Schema.ne_null_of_fits {schema : Schema} (habsent : schema.absent = none) {t : Tree} {v : schema.Carrier}
    (h : schema.Fits levels t v) : t ≠ .null := by
  rintro rfl
  cases schema with
  | text =>
    obtain ⟨_, hnull, -⟩ := h
    cases hnull
  | truth => cases h
  | int64 =>
    obtain ⟨_, hnull, -⟩ := h
    cases hnull
  | uint32 =>
    obtain ⟨_, hnull, -⟩ := h
    cases hnull
  | optional inner => cases habsent
  | list item =>
    obtain ⟨_, -, _, hnull, -⟩ := h
    cases hnull
  | dictionary =>
    obtain ⟨_, -, _, _, ⟨_, hnull, -⟩, -⟩ := h
    cases hnull
  | object =>
    obtain ⟨_, -, _, _, ⟨_, hnull, -⟩, -⟩ := h
    cases hnull
  | variant names =>
    obtain ⟨_, -, ⟨_, hnull, -⟩ | ⟨-, _, hnull, -⟩⟩ := h
    · cases hnull
    · cases hnull
  | record name fields =>
    obtain ⟨_, -, ⟨_, hnull, -⟩ | ⟨_, ⟨_, hnull, -⟩, -⟩⟩ := h
    · cases hnull
    · cases hnull

theorem exists_forall₂ {P : α → β → Prop} {bs : List β} (h : ∀ b ∈ bs, ∃ a, P a b) : ∃ as, List.Forall₂ P as bs := by
  induction bs with
  | nil => exact ⟨[], .nil⟩
  | cons b bs ih =>
    obtain ⟨a, ha⟩ := h b List.mem_cons_self
    obtain ⟨as, has⟩ := ih fun c hc => h c (List.mem_cons_of_mem _ hc)
    exact ⟨a :: as, .cons ha has⟩

theorem valuesOf_eq_nil (h : name ∉ es.map Prod.fst) : valuesOf name es = [] := by
  rw [valuesOf, List.map_eq_nil_iff, List.filter_eq_nil_iff]
  intro e he hname
  exact h (List.mem_map.2 ⟨e, he, of_decide_eq_true hname⟩)

theorem without_eq_self (h : name ∉ es.map Prod.fst) : without name es = es := by
  rw [without, List.filter_eq_self]
  intro e he
  rw [decide_eq_true_eq]
  rintro rfl
  exact h (List.mem_map_of_mem he)

theorem keys_eq_of_entries {P : Tree → α → Prop} {vs : List (String × α)} (h : Entries P es vs) :
    es.map Prod.fst = vs.map Prod.fst := by
  induction h with
  | nil => rfl
  | cons he _ ih => rw [List.map_cons, List.map_cons, he.1, ih]

theorem Fields.keys_writtenRow : (fields : Fields) → (row : fields.Row) →
    (fields.writtenRow row).map Prod.fst = fields.names
  | .none, _ => rfl
  | .field name _ others, row => congrArg (name :: ·) (others.keys_writtenRow row.2)

theorem gathered_insert (d : Dictionary String) (vs : List (String × String)) :
    (gathered Dictionary.insert d vs).entries = vs.foldl (fun done v => putEntry v.1 v.2 done) d.entries := by
  induction vs generalizing d with
  | nil => rfl
  | cons v vs ih => exact ih (d.insert v.1 v.2)

/-- Gathering the entries of a dictionary gives it back. -/
theorem gathered_entries (d : Dictionary String) : gathered Dictionary.insert Dictionary.empty d.entries = d :=
  Dictionary.ext ((gathered_insert _ _).trans (foldl_putEntry_of_ordered d.ordered))

/-- Entries that are texts are written as trees that mean them. -/
theorem exists_entries_written (vs : List (String × String)) :
    ∃ es, Entries Tree.WrittenAs es (vs.map fun v => (v.1, writtenText v.2)) ∧ Entries Tree.MeansText es vs := by
  induction vs with
  | nil => exact ⟨[], .nil, .nil⟩
  | cons v vs ih =>
    obtain ⟨ps, hps, hs⟩ := exists_pieces_writtenText v.2
    obtain ⟨es, hes, hvs⟩ := ih
    exact ⟨(v.1, .text ps) :: es, .cons ⟨rfl, hps⟩ hes, .cons ⟨rfl, ps, rfl, hs⟩ hvs⟩

theorem finIdxOf?_get {names : List String} (h : names.Nodup) (i : Fin names.length) :
    names.finIdxOf? (names.get i) = some i := by
  refine List.finIdxOf?_eq_some_iff.2 ⟨rfl, fun j hj hsame => ?_⟩
  exact List.pairwise_iff_getElem.1 h j i j.isLt i.isLt hj hsame

theorem fits_object_of_means {t : Tree} {ms : List (String × Value)} (h : t.Means levels (.object ms)) :
    Schema.object.Fits levels t ms := by
  cases levels with
  | zero =>
    cases h with
    | object hP => cases hP
  | succ fewer =>
    cases h with
    | object hP hes hvs =>
      cases hP
      exact ⟨fewer, rfl, _, _, ⟨_, rfl, hes⟩, hvs, rfl⟩

mutual

/-- An element of a schema is written as one of its layouts. -/
theorem Schema.exists_layout (schema : Schema) (levels : Nat) (v : schema.Carrier) (h : schema.Writable levels v) :
    ∃ t : Tree, t.WrittenAs (schema.written v) ∧ schema.Fits levels t v := by
  cases schema with
  | text =>
    obtain ⟨ps, hps, hs⟩ := exists_pieces_writtenText v
    exact ⟨.text ps, hps, ps, rfl, hs⟩
  | truth =>
    cases v with
    | true => exact ⟨.truth true, rfl, rfl⟩
    | false => exact ⟨.truth false, rfl, rfl⟩
  | int64 =>
    obtain ⟨n, hn, hi⟩ := exists_numeral_written v.toInt
    exact ⟨.number n, hn, n, rfl, hi⟩
  | uint32 =>
    obtain ⟨n, hn, hi⟩ := exists_numeral_written v.toNat
    exact ⟨.number n, hn, n, rfl, hi⟩
  | optional inner =>
    cases v with
    | none => exact ⟨.null, rfl, rfl⟩
    | some a =>
      obtain ⟨t, ht, ha⟩ := inner.exists_layout levels a (h.2 a rfl)
      exact ⟨t, ht, Schema.ne_null_of_fits h.1 ha, ha⟩
  | list item =>
    obtain ⟨fewer, rfl, hitems⟩ := h
    obtain ⟨ts, hts⟩ := exists_forall₂ fun a ha => item.exists_layout fewer a (hitems a ha)
    have hwritten : List.Forall₂ Tree.WrittenAs ts (v.map item.written) :=
      List.forall₂_map_right_iff.2 (hts.imp fun _ _ ht => ht.1)
    exact ⟨.array ts, writtenAs_array hwritten, fewer, rfl, ts, rfl, hts.imp fun _ _ ht => ht.2⟩
  | dictionary =>
    obtain ⟨fewer, rfl⟩ := Nat.exists_eq_succ_of_ne_zero h
    obtain ⟨es, hwritten, hes⟩ := exists_entries_written v.entries
    obtain ⟨t, ht, hobject⟩ := exists_object_written hwritten
    exact ⟨t, ht, fewer, rfl, es, v.entries, hobject, hes, (gathered_entries v).symm⟩
  | object =>
    obtain ⟨horder, hintegral, hdepth⟩ := h
    obtain ⟨t, ht, hv⟩ := Value.exists_layout levels (.object v) horder hintegral hdepth
    exact ⟨t, ht, fits_object_of_means hv⟩
  | variant names =>
    obtain ⟨ps, hps, hs⟩ := exists_pieces_writtenText (names.get v)
    exact ⟨.text ps, hps, names.get v, finIdxOf?_get h v, .inl ⟨ps, rfl, hs⟩⟩
  | record name fields =>
    obtain ⟨hnames, fewer, rfl, hrow⟩ := h
    obtain ⟨es, hwritten, hmembers⟩ := fields.exists_members fewer v hnames hrow
    obtain ⟨t, ht, hobject⟩ := exists_object_written hwritten
    exact ⟨t, ht, fewer, rfl, .inr ⟨es, hobject, hmembers⟩⟩

/-- The fields are written as members, one for each of them. -/
theorem Fields.exists_members (fields : Fields) (levels : Nat) (row : fields.Row) (hnames : fields.names.Nodup)
    (h : fields.WritableRow levels row) :
    ∃ es, Entries Tree.WrittenAs es (fields.writtenRow row) ∧ fields.FitsMembers levels es row := by
  cases fields with
  | none => exact ⟨[], .nil, trivial⟩
  | field name schema others =>
    obtain ⟨hname, hothers⟩ := List.nodup_cons.1 hnames
    obtain ⟨t, ht, hfits⟩ := schema.exists_layout levels row.1 h.1
    obtain ⟨es, hes, hmembers⟩ := others.exists_members levels row.2 hothers h.2
    have hnew : name ∉ es.map Prod.fst := by
      rw [keys_eq_of_entries hes, others.keys_writtenRow]
      exact hname
    refine ⟨(name, t) :: es, .cons ⟨rfl, ht⟩ hes, .inl ⟨t, ?_, hfits⟩, ?_⟩
    · rw [valuesOf_cons_self, valuesOf_eq_nil hnew]
    · rw [without_cons_self, without_eq_self hnew]
      exact hmembers

end

/-- The values of a row are written as trees that fit. The induction is on the fields. -/
theorem Fields.exists_items (fields : Fields) (levels : Nat) (row : fields.Row) (h : fields.WritableRow levels row) :
    ∃ ts, List.Forall₂ Tree.WrittenAs ts ((fields.writtenRow row).map Prod.snd) ∧ fields.FitsRow levels ts row := by
  cases fields with
  | none => exact ⟨[], .nil, rfl⟩
  | field name schema others =>
    obtain ⟨t, ht, hfits⟩ := schema.exists_layout levels row.1 h.1
    obtain ⟨ts, hts, hrow⟩ := others.exists_items levels row.2 h.2
    exact ⟨t :: ts, .cons ht hts, t, ts, rfl, hfits, hrow⟩

/-- The list of what is written for the fields is another layout of a record. -/
theorem Schema.exists_list_layout {record : String} {fields : Fields} (levels : Nat) (row : fields.Row)
    (h : (Schema.record record fields).Writable levels row) :
    ∃ t : Tree, t.WrittenAs (writtenArray ((fields.writtenRow row).map Prod.snd)) ∧
      (Schema.record record fields).Fits levels t row := by
  obtain ⟨-, fewer, rfl, hrow⟩ := h
  obtain ⟨ts, hts, hfits⟩ := fields.exists_items fewer row hrow
  exact ⟨.array ts, writtenAs_array hts, fewer, rfl, .inl ⟨ts, rfl, hfits⟩⟩

end Schemas

section Documents

variable {α : Type} [Described α] {tracking : Tracking} {t : Tree} {s : String}

/-- What is written is a whole document. -/
theorem isDocument_of_writtenAs (h : t.WrittenAs s) : IsDocument (bytes s) t :=
  padded_self h

/-- Members that are written one after the other are read back, each in the place of earlier ones of its key. -/
theorem decode_writtenObject (tracking : Tracking) (ms : List (String × Value)) (horder : Value.MembersInOrder ms)
    (hintegral : MembersIntegral ms) (hdepth : membersDepth ms < deepest) :
    Schema.object.decode tracking (bytes (writtenObject (Value.writtenMembers ms))) = .ok (gathered putMember [] ms) := by
  obtain ⟨es, hwritten, hmeans⟩ := exists_member_layouts 126 ms horder hintegral (Nat.le_of_lt_succ hdepth)
  obtain ⟨t, ht, hobject⟩ := exists_object_written hwritten
  have hfits : Schema.object.Fits deepest t (gathered putMember [] ms) := ⟨126, rfl, es, ms, hobject, hmeans, rfl⟩
  exact (Schema.decode_eq_ok_iff_fits (isText_bytes _)).2 ⟨t, isDocument_of_writtenAs ht, hfits⟩

/-- The element can be told from its canonical text. -/
def IsWritable (a : α) : Prop :=
  (Described.schema α).Writable deepest (Described.toCarrier a)

/-- The canonical text of an element is one of its layouts. -/
theorem exists_document_encode {a : α} (h : IsWritable a) : ∃ t, IsDocument (bytes (encode a)) t ∧ t.Presents a := by
  obtain ⟨t, ht, hfits⟩ := (Described.schema α).exists_layout deepest (Described.toCarrier a) h
  exact ⟨t, isDocument_of_writtenAs ht, hfits⟩

end Documents

end Json

end ChatOpening
