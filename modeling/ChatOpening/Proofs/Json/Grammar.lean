import ChatOpening.Json.Sequence

/-!
# The grammar of JSON

Which bytes spell which value, said without a reader.  A value is a tree; blanks leave no trace in it, but digits are
kept as they are written, and a text is kept as the pieces with which it is spelled, since escapes by number that lack
their partner may be spelled and mean nothing.

**Input.**  A tree, and bytes in UTF-8.

**Definitions.**
* `Tree.Spelled`: the bytes spell the tree.
* `IsDocument`: the bytes spell the tree with nothing but blanks around it.
* `Denotes`: the characters for which pieces stand, if every surrogate among them has its partner.

**Results.**
* `begins_array_iff`, `begins_object_iff`, `beginsWith_member_iff`: what stands at the front of bytes that begin with a
  list, an object or a member, from one mark to the next.
-/

namespace ChatOpening

namespace Json

/-- A part of a spelled text: a character, or the number of an escape by number. -/
inductive Piece where
  | char (c : Char)
  | unit (n : Nat)
  deriving DecidableEq, Repr

/-- A JSON value as it is spelled, without its blanks. -/
inductive Tree where
  | null
  | truth (b : Bool)
  | number (n : Numeral)
  | text (pieces : List Piece)
  | array (items : List Tree)
  | object (members : List (List Piece × Tree))

section Spelling

/-- The letters that stand behind a backslash for a character. -/
def shortForms : List (Char × Char) :=
  [('"', '"'), ('\\', '\\'), ('/', '/'), ('b', '\x08'), ('f', '\x0C'), ('n', '\n'), ('r', '\r'), ('t', '\t')]

inductive Piece.Spelled : Piece → Bytes → Prop
  | plain {c : Char} (hquote : c ≠ '"') (hback : c ≠ '\\') (hcontrol : 0x20 ≤ c.toNat) :
      Spelled (.char c) (String.utf8EncodeChar c)
  | short {letter c : Char} (h : (letter, c) ∈ shortForms) :
      Spelled (.char c) [backslash, UInt8.ofNat letter.toNat]
  | number {a b c d : UInt8} {n : Nat} (h : unitValue a b c d = some n) :
      Spelled (.unit n) [backslash, 0x75, a, b, c, d]

def PiecesSpelled : List Piece → Bytes → Prop
  | [], b => b = []
  | p :: ps, b => ∃ first others, b = first ++ others ∧ p.Spelled first ∧ PiecesSpelled ps others

/-- The pieces between quotation marks. -/
def TextSpelled (ps : List Piece) (b : Bytes) : Prop :=
  ∃ inner, PiecesSpelled ps inner ∧ b = quoteMark :: (inner ++ [quoteMark])

def IsDigits (ds : Bytes) : Prop :=
  ds ≠ [] ∧ ∀ d ∈ ds, isDigit d = true

instance (ds : Bytes) : Decidable (IsDigits ds) :=
  decidable_of_iff (ds ≠ [] ∧ ds.all isDigit = true) (and_congr_right fun _ => List.all_eq_true)

/-- A whole part has no leading zeros. -/
def IsWhole (ds : Bytes) : Prop :=
  IsDigits ds ∧ (ds.head? = some 0x30 → ds = [0x30])

def FractionSpelled : Option Bytes → Bytes → Prop
  | none, b => b = []
  | some ds, b => IsDigits ds ∧ b = 0x2E :: ds

def ExponentSpelled : Option (Bool × Bytes) → Bytes → Prop
  | none, b => b = []
  | some (down, ds), b =>
    IsDigits ds ∧ ∃ letter sign, (letter = 0x65 ∨ letter = 0x45) ∧
      (if down then sign = [0x2D] else sign = [] ∨ sign = [0x2B]) ∧ b = letter :: (sign ++ ds)

/-- A numeral without its sign. -/
def UnsignedSpelled (n : Numeral) (b : Bytes) : Prop :=
  ∃ fraction exponent, IsWhole n.whole ∧ FractionSpelled n.fraction fraction ∧ ExponentSpelled n.exponent exponent ∧
    b = n.whole ++ (fraction ++ exponent)

def NumeralSpelled (n : Numeral) (b : Bytes) : Prop :=
  if n.negative then ∃ digits, UnsignedSpelled n digits ∧ b = 0x2D :: digits else UnsignedSpelled n b

def AllBlank (b : Bytes) : Prop :=
  ∀ x ∈ b, isBlankByte x = true

/-- Blanks may stand before and behind. -/
def Padded (P : Bytes → Prop) (b : Bytes) : Prop :=
  ∃ before inner after, AllBlank before ∧ P inner ∧ AllBlank after ∧ b = before ++ (inner ++ after)

/-- Further parts, a comma before each. -/
def Later : List (Bytes → Prop) → Bytes → Prop
  | [], b => b = []
  | P :: Ps, b => ∃ part others, Padded P part ∧ Later Ps others ∧ b = comma :: (part ++ others)

/-- Parts with commas between them; if there are none, blanks. -/
def Separated : List (Bytes → Prop) → Bytes → Prop
  | [], b => AllBlank b
  | P :: Ps, b => ∃ part others, Padded P part ∧ Later Ps others ∧ b = part ++ others

/-- A key, a colon and a value. -/
def MemberSpelled (key : List Piece) (P : Bytes → Prop) (b : Bytes) : Prop :=
  ∃ name before after value, TextSpelled key name ∧ AllBlank before ∧ AllBlank after ∧ P value ∧
    b = name ++ (before ++ 0x3A :: (after ++ value))

mutual

/-- The bytes spell the tree. -/
def Tree.Spelled : Tree → Bytes → Prop
  | .null, b => b = Text.bytes "null"
  | .truth true, b => b = Text.bytes "true"
  | .truth false, b => b = Text.bytes "false"
  | .number n, b => NumeralSpelled n b
  | .text ps, b => TextSpelled ps b
  | .array ts, b => ∃ inner, Separated (itemsSpelled ts) inner ∧ b = 0x5B :: (inner ++ [0x5D])
  | .object ms, b => ∃ inner, Separated (membersSpelled ms) inner ∧ b = 0x7B :: (inner ++ [0x7D])

def itemsSpelled : List Tree → List (Bytes → Prop)
  | [] => []
  | t :: ts => t.Spelled :: itemsSpelled ts

def membersSpelled : List (List Piece × Tree) → List (Bytes → Prop)
  | [] => []
  | (key, t) :: ms => MemberSpelled key t.Spelled :: membersSpelled ms

end

/-- A JSON text: one value, and blanks around it. -/
def IsDocument (source : Bytes) (t : Tree) : Prop :=
  Padded t.Spelled source

end Spelling

section Meaning

/-- The characters for which pieces stand. A high surrogate needs a low one right behind it, and a low surrogate a high
one right before it. -/
inductive Denotes : List Piece → List Char → Prop
  | nil : Denotes [] []
  | char {c : Char} {ps : List Piece} {cs : List Char} (h : Denotes ps cs) : Denotes (.char c :: ps) (c :: cs)
  | unit {n : Nat} {ps : List Piece} {cs : List Char} (hhigh : isHighSurrogate n = false)
      (hlow : isLowSurrogate n = false) (h : Denotes ps cs) : Denotes (.unit n :: ps) (Char.ofNat n :: cs)
  | pair {high low : Nat} {ps : List Piece} {cs : List Char} (hhigh : isHighSurrogate high = true)
      (hlow : isLowSurrogate low = true) (h : Denotes ps cs) :
      Denotes (.unit high :: .unit low :: ps) (Char.ofNat (joined high low) :: cs)

end Meaning

section Blanks

variable {before input rest : Bytes} {b : UInt8}

theorem skipBlanks_blank_append (h : AllBlank before) (input : Bytes) :
    skipBlanks (before ++ input) = skipBlanks input :=
  List.dropWhile_append_of_pos h

theorem skipBlanks_cons_of_not_blank (h : isBlankByte b = false) (rest : Bytes) :
    skipBlanks (b :: rest) = b :: rest := by
  simp [skipBlanks, h]

/-- What is skipped is made of blanks. -/
theorem exists_blank_append (input : Bytes) : ∃ before, AllBlank before ∧ input = before ++ skipBlanks input :=
  ⟨input.takeWhile isBlankByte, fun _ hx => List.all_eq_true.1 List.all_takeWhile _ hx,
    List.takeWhile_append_dropWhile.symm⟩

/-- The first byte that is skipped to stands behind blanks only. -/
theorem skipBlanks_eq_cons_iff (hb : isBlankByte b = false) :
    skipBlanks input = b :: rest ↔ ∃ before, AllBlank before ∧ input = before ++ b :: rest := by
  constructor
  · intro h
    obtain ⟨before, hbefore, heq⟩ := exists_blank_append input
    exact ⟨before, hbefore, by rw [← h]; exact heq⟩
  · rintro ⟨before, hbefore, rfl⟩
    rw [skipBlanks_blank_append hbefore, skipBlanks_cons_of_not_blank hb]

theorem allBlank_nil : AllBlank [] := by
  intro x hx
  cases hx

/-- All is skipped exactly if all is blank. -/
theorem skipBlanks_eq_nil_iff : skipBlanks input = [] ↔ AllBlank input := by
  constructor
  · intro h
    obtain ⟨before, hbefore, heq⟩ := exists_blank_append input
    rw [h, List.append_nil] at heq
    rw [heq]
    exact hbefore
  · intro h
    have hskip := skipBlanks_blank_append h []
    rwa [List.append_nil] at hskip

end Blanks

section Front

variable {P : Bytes → Prop} {Ps : List (Bytes → Prop)} {input rest : Bytes} {closing : UInt8}

/-- Behind blanks the input begins with what `P` says, and `rest` is what follows. -/
def BeginsWith (P : Bytes → Prop) (input rest : Bytes) : Prop :=
  ∃ inner, P inner ∧ skipBlanks input = inner ++ rest

def Begins (t : Tree) (input rest : Bytes) : Prop :=
  BeginsWith t.Spelled input rest

/-- The input is behind a quotation mark, `rest` behind the next one. -/
def TextAt (ps : List Piece) (input rest : Bytes) : Prop :=
  ∃ inner, PiecesSpelled ps inner ∧ input = inner ++ quoteMark :: rest

/-- The next part starts at `start`: at once if it is the first one, otherwise behind a comma. -/
def StartsAt (fresh : Bool) (input start : Bytes) : Prop :=
  if fresh then start = input else skipBlanks input = comma :: start

/-- The parts follow, and then the closing mark. If they are not fresh, others have been there before. -/
def PartsFrom (fresh : Bool) (closing : UInt8) : List (Bytes → Prop) → Bytes → Bytes → Prop
  | [], input, rest => skipBlanks input = closing :: rest
  | P :: Ps, input, rest =>
    ∃ start middle, StartsAt fresh input start ∧ BeginsWith P start middle ∧ PartsFrom false closing Ps middle rest

/-- The byte is a blank, a comma or a closing mark, so it goes on with no value and starts none. -/
def isStop (b : UInt8) : Bool :=
  isBlankByte b || b = comma || b = 0x5D || b = 0x7D

/-- Nothing follows that goes on with a value. -/
def Stops (rest : Bytes) : Prop :=
  ∀ b ∈ rest.head?, isStop b = true

theorem stops_of_allBlank (h : AllBlank rest) : Stops rest := by
  intro b hb
  cases rest with
  | nil => cases hb
  | cons c more =>
    cases hb
    simp [isStop, h b List.mem_cons_self]

/-- What `P` says of has a first byte, and it may start a value. -/
def Visible (P : Bytes → Prop) : Prop :=
  ∀ b, P b → ∃ first more, b = first :: more ∧ isStop first = false

theorem not_blank_of_not_stop {b : UInt8} (h : isStop b = false) : isBlankByte b = false := by
  simp only [isStop, Bool.or_eq_false_iff] at h
  exact h.1.1.1

/-- Nothing is skipped in front of a part that is visible. -/
theorem Visible.skipBlanks_append (hP : Visible P) {b : Bytes} (h : P b) (rest : Bytes) :
    skipBlanks (b ++ rest) = b ++ rest := by
  obtain ⟨first, more, rfl, hfirst⟩ := hP b h
  exact skipBlanks_cons_of_not_blank (not_blank_of_not_stop hfirst) _

/-- Skipping blanks twice is skipping them once. -/
theorem skipBlanks_skipBlanks (input : Bytes) : skipBlanks (skipBlanks input) = skipBlanks input := by
  cases h : skipBlanks input with
  | nil => rfl
  | cons b rest =>
    have hb : isBlankByte b = false := by
      have hhead := List.head?_dropWhile_not isBlankByte input
      rw [show input.dropWhile isBlankByte = b :: rest from h] at hhead
      exact hhead
    exact skipBlanks_cons_of_not_blank hb rest

theorem beginsWith_skipBlanks_iff : BeginsWith P (skipBlanks input) rest ↔ BeginsWith P input rest := by
  simp only [BeginsWith, skipBlanks_skipBlanks]

theorem Visible.exists_first (hP : Visible P) (h : BeginsWith P input rest) :
    ∃ first more, skipBlanks input = first :: more ∧ isStop first = false := by
  obtain ⟨inner, hinner, hskip⟩ := h
  obtain ⟨first, more, rfl, hfirst⟩ := hP inner hinner
  exact ⟨first, more ++ rest, hskip, hfirst⟩

/-- Behind a part there is a comma or the closing mark. -/
theorem stops_of_partsFrom (hclosing : isStop closing = true) (h : PartsFrom false closing Ps input rest) :
    Stops input := by
  have hskip : ∃ b more, skipBlanks input = b :: more ∧ isStop b = true := by
    cases Ps with
    | nil => exact ⟨closing, rest, h, hclosing⟩
    | cons P Ps =>
      obtain ⟨start, -, hcomma, -⟩ := h
      exact ⟨comma, start, hcomma, by decide⟩
  obtain ⟨b, more, hskip, hb⟩ := hskip
  intro c hc
  cases input with
  | nil => cases hc
  | cons d others =>
    cases hc
    cases hd : isBlankByte c with
    | true => simp [isStop, hd]
    | false =>
      rw [skipBlanks_cons_of_not_blank hd] at hskip
      cases hskip
      exact hb

/-- A part begins an input if nothing but blanks stands before it. -/
theorem beginsWith_iff (hP : Visible P) :
    BeginsWith P input rest ↔ ∃ before inner, AllBlank before ∧ P inner ∧ input = before ++ (inner ++ rest) := by
  constructor
  · rintro ⟨inner, hinner, hskip⟩
    obtain ⟨before, hbefore, heq⟩ := exists_blank_append input
    exact ⟨before, inner, hbefore, hinner, by rw [← hskip]; exact heq⟩
  · rintro ⟨before, inner, hbefore, hinner, rfl⟩
    exact ⟨inner, hinner, by rw [skipBlanks_blank_append hbefore, hP.skipBlanks_append hinner]⟩

/-- Further parts are those with a comma before each. -/
theorem partsFrom_later_iff (hPs : ∀ P ∈ Ps, Visible P) (hclosing : isBlankByte closing = false) :
    PartsFrom false closing Ps input rest ↔
      ∃ after later, AllBlank after ∧ Later Ps later ∧ input = after ++ (later ++ closing :: rest) := by
  induction Ps generalizing input with
  | nil =>
    rw [PartsFrom, skipBlanks_eq_cons_iff hclosing]
    simp [Later]
  | cons P Ps ih =>
    have hP := hPs P List.mem_cons_self
    have htail : ∀ middle, PartsFrom false closing Ps middle rest ↔
        ∃ after later, AllBlank after ∧ Later Ps later ∧ middle = after ++ (later ++ closing :: rest) :=
      fun _ => ih fun Q hQ => hPs Q (List.mem_cons_of_mem _ hQ)
    have hstarts : ∀ start, StartsAt false input start ↔ ∃ blank, AllBlank blank ∧ input = blank ++ comma :: start :=
      fun _ => skipBlanks_eq_cons_iff (by decide)
    simp only [PartsFrom, Later, beginsWith_iff hP, htail, hstarts]
    constructor
    · rintro ⟨_, _, ⟨blank, hblank, rfl⟩, ⟨before, inner, hbefore, hinner, rfl⟩, after, later, hafter, hlater, rfl⟩
      refine ⟨blank, _, hblank, ⟨before ++ (inner ++ after), later, ⟨before, inner, after, hbefore, hinner, hafter, rfl⟩,
        hlater, rfl⟩, ?_⟩
      simp
    · rintro ⟨blank, _, hblank, ⟨_, later, ⟨before, inner, after, hbefore, hinner, hafter, rfl⟩, hlater, rfl⟩, rfl⟩
      exact ⟨before ++ (inner ++ (after ++ (later ++ closing :: rest))), after ++ (later ++ closing :: rest),
        ⟨blank, hblank, by simp⟩, ⟨before, inner, hbefore, hinner, rfl⟩, after, later, hafter, hlater, rfl⟩

/-- All parts are those with commas between them. -/
theorem partsFrom_separated_iff (hPs : ∀ P ∈ Ps, Visible P) (hclosing : isBlankByte closing = false) :
    PartsFrom true closing Ps input rest ↔ ∃ inner, Separated Ps inner ∧ input = inner ++ closing :: rest := by
  cases Ps with
  | nil =>
    rw [PartsFrom, skipBlanks_eq_cons_iff hclosing]
    rfl
  | cons P Ps =>
    have hP := hPs P List.mem_cons_self
    have hlater : ∀ middle, PartsFrom false closing Ps middle rest ↔
        ∃ after later, AllBlank after ∧ Later Ps later ∧ middle = after ++ (later ++ closing :: rest) :=
      fun _ => partsFrom_later_iff (fun Q hQ => hPs Q (List.mem_cons_of_mem _ hQ)) hclosing
    simp only [PartsFrom, Separated, StartsAt, if_true, beginsWith_iff hP, hlater]
    constructor
    · rintro ⟨_, _, rfl, ⟨before, inner, hbefore, hinner, rfl⟩, after, later, hafter, hlater, rfl⟩
      refine ⟨_, ⟨before ++ (inner ++ after), later, ⟨before, inner, after, hbefore, hinner, hafter, rfl⟩, hlater, rfl⟩, ?_⟩
      simp
    · rintro ⟨_, ⟨_, later, ⟨before, inner, after, hbefore, hinner, hafter, rfl⟩, hlater, rfl⟩, rfl⟩
      exact ⟨_, after ++ (later ++ closing :: rest), rfl, ⟨before, inner, hbefore, hinner, by simp⟩, after, later, hafter,
        hlater, rfl⟩

end Front

section Trees

variable {P : Bytes → Prop} {ps : List Piece} {t : Tree} {ts : List Tree} {ms : List (List Piece × Tree)}
  {input rest : Bytes} {b : UInt8}

attribute [local simp] Tree.Spelled

/-- The parts of a list are the spelled items. -/
theorem itemsSpelled_eq_map (ts : List Tree) : itemsSpelled ts = ts.map Tree.Spelled := by
  induction ts with
  | nil => rfl
  | cons t ts ih => rw [itemsSpelled, ih, List.map_cons]

theorem membersSpelled_eq_map (ms : List (List Piece × Tree)) :
    membersSpelled ms = ms.map fun m => MemberSpelled m.1 m.2.Spelled := by
  induction ms with
  | nil => rfl
  | cons m ms ih => rw [membersSpelled, ih, List.map_cons]

theorem not_stop_of_isDigit (h : isDigit b = true) : isStop b = false := by
  simp only [isDigit, isStop, isBlankByte, comma, Bool.and_eq_true, Bool.or_eq_false_iff, decide_eq_true_eq,
    decide_eq_false_iff_not, UInt8.le_iff_toNat_le, ← UInt8.toNat_inj, UInt8.reduceToNat] at h ⊢
  omega

/-- A text starts with its quotation mark. -/
theorem visible_textSpelled (ps : List Piece) : Visible (TextSpelled ps) := by
  rintro b ⟨inner, -, rfl⟩
  exact ⟨quoteMark, _, rfl, by decide⟩

theorem exists_digit_of_unsignedSpelled {n : Numeral} (h : UnsignedSpelled n input) :
    ∃ d more, input = d :: more ∧ isDigit d = true := by
  obtain ⟨fraction, exponent, ⟨⟨hne, hdigits⟩, -⟩, -, -, rfl⟩ := h
  obtain ⟨d, ds, hwhole⟩ := List.exists_cons_of_ne_nil hne
  rw [hwhole]
  exact ⟨d, _, rfl, hdigits d (by rw [hwhole]; exact List.mem_cons_self)⟩

theorem visible_unsignedSpelled (n : Numeral) : Visible (UnsignedSpelled n) := by
  intro b h
  obtain ⟨d, more, rfl, hd⟩ := exists_digit_of_unsignedSpelled h
  exact ⟨d, more, rfl, not_stop_of_isDigit hd⟩

/-- A numeral starts with a digit or a minus sign. -/
theorem visible_numeralSpelled (n : Numeral) : Visible (NumeralSpelled n) := by
  intro b h
  simp only [NumeralSpelled] at h
  split at h
  · obtain ⟨digits, -, rfl⟩ := h
    exact ⟨0x2D, digits, rfl, by decide⟩
  · exact visible_unsignedSpelled n b h

theorem bytes_null : Text.bytes "null" = 0x6E :: afterN := by
  decide

theorem bytes_true : Text.bytes "true" = 0x74 :: afterT := by
  decide

theorem bytes_false : Text.bytes "false" = 0x66 :: afterF := by
  decide

/-- No value starts with a blank, a comma or a closing mark. -/
theorem visible_spelled (t : Tree) : Visible t.Spelled := by
  intro b h
  cases t with
  | null =>
    rw [Tree.Spelled, bytes_null] at h
    exact ⟨0x6E, afterN, h, by decide⟩
  | truth v =>
    cases v with
    | true =>
      rw [Tree.Spelled, bytes_true] at h
      exact ⟨0x74, afterT, h, by decide⟩
    | false =>
      rw [Tree.Spelled, bytes_false] at h
      exact ⟨0x66, afterF, h, by decide⟩
  | number n =>
    rw [Tree.Spelled] at h
    exact visible_numeralSpelled n b h
  | text ps =>
    rw [Tree.Spelled] at h
    exact visible_textSpelled ps b h
  | array ts =>
    rw [Tree.Spelled] at h
    obtain ⟨inner, -, rfl⟩ := h
    exact ⟨0x5B, _, rfl, by decide⟩
  | object ms =>
    rw [Tree.Spelled] at h
    obtain ⟨inner, -, rfl⟩ := h
    exact ⟨0x7B, _, rfl, by decide⟩

theorem visible_memberSpelled (key : List Piece) (P : Bytes → Prop) : Visible (MemberSpelled key P) := by
  rintro b ⟨name, before, after, value, ⟨inner, -, rfl⟩, -, -, -, rfl⟩
  exact ⟨quoteMark, _, rfl, by decide⟩

theorem visible_of_mem_itemsSpelled {ts : List Tree} : ∀ P ∈ itemsSpelled ts, Visible P := by
  intro P hP
  rw [itemsSpelled_eq_map] at hP
  obtain ⟨t, -, rfl⟩ := List.mem_map.1 hP
  exact visible_spelled t

theorem visible_of_mem_membersSpelled {ms : List (List Piece × Tree)} : ∀ P ∈ membersSpelled ms, Visible P := by
  intro P hP
  rw [membersSpelled_eq_map] at hP
  obtain ⟨m, -, rfl⟩ := List.mem_map.1 hP
  exact visible_memberSpelled m.1 _

theorem begins_null_iff : Begins .null input rest ↔ skipBlanks input = 0x6E :: (afterN ++ rest) := by
  simp [Begins, BeginsWith, bytes_null]

theorem begins_true_iff : Begins (.truth true) input rest ↔ skipBlanks input = 0x74 :: (afterT ++ rest) := by
  simp [Begins, BeginsWith, bytes_true]

theorem begins_false_iff : Begins (.truth false) input rest ↔ skipBlanks input = 0x66 :: (afterF ++ rest) := by
  simp [Begins, BeginsWith, bytes_false]

/-- A number begins with its sign, if it has one, and its digits follow at once. -/
theorem begins_number_iff {n : Numeral} :
    Begins (.number n) input rest ↔
      ∃ digits, UnsignedSpelled n digits ∧
        skipBlanks input = if n.negative then 0x2D :: (digits ++ rest) else digits ++ rest := by
  simp only [Begins, BeginsWith, Tree.Spelled, NumeralSpelled]
  cases n.negative with
  | true =>
    constructor
    · rintro ⟨_, ⟨digits, hdigits, rfl⟩, hskip⟩
      exact ⟨digits, hdigits, hskip⟩
    · rintro ⟨digits, hdigits, hskip⟩
      exact ⟨_, ⟨digits, hdigits, rfl⟩, hskip⟩
  | false => rfl

theorem beginsWith_textSpelled_iff :
    BeginsWith (TextSpelled ps) input rest ↔ ∃ more, skipBlanks input = quoteMark :: more ∧ TextAt ps more rest := by
  constructor
  · rintro ⟨_, ⟨inner, hinner, rfl⟩, hskip⟩
    exact ⟨inner ++ quoteMark :: rest, by simpa using hskip, inner, hinner, rfl⟩
  · rintro ⟨_, hskip, inner, hinner, rfl⟩
    exact ⟨_, ⟨inner, hinner, rfl⟩, by simpa using hskip⟩

theorem begins_text_iff :
    Begins (.text ps) input rest ↔ ∃ more, skipBlanks input = quoteMark :: more ∧ TextAt ps more rest := by
  rw [← beginsWith_textSpelled_iff]
  simp only [Begins, BeginsWith, Tree.Spelled]

/-- A list goes from its bracket to the other one. -/
theorem begins_array_iff :
    Begins (.array ts) input rest ↔
      ∃ more, skipBlanks input = 0x5B :: more ∧ PartsFrom true 0x5D (itemsSpelled ts) more rest := by
  have hparts : ∀ more, PartsFrom true 0x5D (itemsSpelled ts) more rest ↔
      ∃ inner, Separated (itemsSpelled ts) inner ∧ more = inner ++ 0x5D :: rest :=
    fun _ => partsFrom_separated_iff visible_of_mem_itemsSpelled (by decide)
  simp only [Begins, BeginsWith, Tree.Spelled, hparts]
  constructor
  · rintro ⟨_, ⟨inner, hinner, rfl⟩, hskip⟩
    exact ⟨inner ++ 0x5D :: rest, by simpa using hskip, inner, hinner, rfl⟩
  · rintro ⟨_, hskip, inner, hinner, rfl⟩
    exact ⟨_, ⟨inner, hinner, rfl⟩, by simpa using hskip⟩

/-- An object goes from its brace to the other one. -/
theorem begins_object_iff :
    Begins (.object ms) input rest ↔
      ∃ more, skipBlanks input = 0x7B :: more ∧ PartsFrom true 0x7D (membersSpelled ms) more rest := by
  have hparts : ∀ more, PartsFrom true 0x7D (membersSpelled ms) more rest ↔
      ∃ inner, Separated (membersSpelled ms) inner ∧ more = inner ++ 0x7D :: rest :=
    fun _ => partsFrom_separated_iff visible_of_mem_membersSpelled (by decide)
  simp only [Begins, BeginsWith, Tree.Spelled, hparts]
  constructor
  · rintro ⟨_, ⟨inner, hinner, rfl⟩, hskip⟩
    exact ⟨inner ++ 0x7D :: rest, by simpa using hskip, inner, hinner, rfl⟩
  · rintro ⟨_, hskip, inner, hinner, rfl⟩
    exact ⟨_, ⟨inner, hinner, rfl⟩, by simpa using hskip⟩

/-- What the first byte of a value tells of it. -/
inductive Shape where
  | null
  | truth (b : Bool)
  | number
  | text
  | array
  | object

def Tree.shape : Tree → Shape
  | .null => .null
  | .truth b => .truth b
  | .number _ => .number
  | .text _ => .text
  | .array _ => .array
  | .object _ => .object

def shapeOf (first : UInt8) : Shape :=
  if first = 0x6E then .null
  else if first = 0x74 then .truth true
  else if first = 0x66 then .truth false
  else if first = quoteMark then .text
  else if first = 0x5B then .array
  else if first = 0x7B then .object
  else .number

/-- A digit is none of the bytes with which other values start. -/
theorem ne_of_isDigit (h : isDigit b = true) :
    b ≠ 0x6E ∧ b ≠ 0x74 ∧ b ≠ 0x66 ∧ b ≠ 0x2D ∧ b ≠ quoteMark ∧ b ≠ 0x5B ∧ b ≠ 0x7B := by
  refine ⟨?_, ?_, ?_, ?_, ?_, ?_, ?_⟩ <;> rintro rfl <;> cases h

theorem shapeOf_digit (h : isDigit b = true) : shapeOf b = .number := by
  obtain ⟨hnull, htrue, hfalse, -, hquote, hbracket, hbrace⟩ := ne_of_isDigit h
  simp [shapeOf, hnull, htrue, hfalse, hquote, hbracket, hbrace]

/-- The first byte tells the shape of a value. -/
theorem shapeOf_first {more : Bytes} (ht : Begins t input rest) (hskip : skipBlanks input = b :: more) :
    shapeOf b = t.shape := by
  cases t with
  | null =>
    cases hskip.symm.trans (begins_null_iff.1 ht)
    rfl
  | truth v =>
    cases v with
    | true =>
      cases hskip.symm.trans (begins_true_iff.1 ht)
      rfl
    | false =>
      cases hskip.symm.trans (begins_false_iff.1 ht)
      rfl
  | number n =>
    obtain ⟨digits, hdigits, hnumber⟩ := begins_number_iff.1 ht
    obtain ⟨d, later, rfl, hd⟩ := exists_digit_of_unsignedSpelled hdigits
    cases hnegative : n.negative with
    | true =>
      rw [hnegative] at hnumber
      cases hskip.symm.trans hnumber
      rfl
    | false =>
      rw [hnegative] at hnumber
      cases hskip.symm.trans hnumber
      exact shapeOf_digit hd
  | text ps =>
    obtain ⟨later, hquote, -⟩ := begins_text_iff.1 ht
    cases hskip.symm.trans hquote
    rfl
  | array ts =>
    obtain ⟨later, hbracket, -⟩ := begins_array_iff.1 ht
    cases hskip.symm.trans hbracket
    rfl
  | object ms =>
    obtain ⟨later, hbrace, -⟩ := begins_object_iff.1 ht
    cases hskip.symm.trans hbrace
    rfl

/-- The input is behind a key, `rest` behind the value of the member. -/
def ValueAt (P : Bytes → Prop) (input rest : Bytes) : Prop :=
  ∃ more, skipBlanks input = 0x3A :: more ∧ BeginsWith P more rest

/-- A member goes from its key over the colon to its value. -/
theorem beginsWith_member_iff (hP : Visible P) :
    BeginsWith (MemberSpelled ps P) input rest ↔
      ∃ more middle, skipBlanks input = quoteMark :: more ∧ TextAt ps more middle ∧ ValueAt P middle rest := by
  have hcolon : isBlankByte 0x3A = false := by
    decide
  simp only [ValueAt, beginsWith_iff hP, skipBlanks_eq_cons_iff hcolon]
  constructor
  · rintro ⟨_, ⟨_, before, after, value, ⟨inner, hinner, rfl⟩, hbefore, hafter, hvalue, rfl⟩, hskip⟩
    refine ⟨inner ++ quoteMark :: (before ++ 0x3A :: (after ++ (value ++ rest))),
      before ++ 0x3A :: (after ++ (value ++ rest)), by simpa using hskip, ⟨inner, hinner, rfl⟩, ?_⟩
    exact ⟨after ++ (value ++ rest), ⟨before, hbefore, rfl⟩, after, value, hafter, hvalue, rfl⟩
  · rintro ⟨_, _, hskip, ⟨inner, hinner, rfl⟩, _, ⟨before, hbefore, rfl⟩, after, value, hafter, hvalue, rfl⟩
    exact ⟨_, ⟨_, before, after, value, ⟨inner, hinner, rfl⟩, hbefore, hafter, hvalue, rfl⟩, by simpa using hskip⟩

/-- The bytes spell the tree as a whole if they begin with it and blanks follow. -/
theorem isDocument_iff : IsDocument input t ↔ ∃ rest, Begins t input rest ∧ AllBlank rest := by
  simp only [Begins, beginsWith_iff (visible_spelled t), IsDocument, Padded]
  constructor
  · rintro ⟨before, inner, after, hbefore, hinner, hafter, rfl⟩
    exact ⟨after, ⟨before, inner, hbefore, hinner, rfl⟩, hafter⟩
  · rintro ⟨after, ⟨before, inner, hbefore, hinner, rfl⟩, hafter⟩
    exact ⟨before, inner, after, hbefore, hinner, hafter, rfl⟩

end Trees

end Json

end ChatOpening
