import ChatOpening.Startup.Arguments
import ChatOpening.Proofs.Text.Cut
import ChatOpening.Proofs.Text.Encoding
import ChatOpening.Proofs.Text.WhiteSpace

/-!
# The option groups of a command line

A command line that is accepted is a row of groups, one for each option that is given: a flag is a word, and so is a
parameter with its value behind an equals sign; a parameter whose value is a word of its own takes two.  Two hyphens alone
may stand at the end.

The reader looks at a value that is a word of its own when the next option begins.  For a line that is accepted it makes
no difference when it does, so such a group may be taken like one with an equals sign.

**Input.**  Any words, which are any bytes.

**Results.**
* `word_cases`: what a word does that is no fault.
* `finish_given_iff`: a value may be looked at as soon as it is there.
* `finish_line_iff`: a row of groups is accepted exactly if no option is given twice, and what is read then.
* `exists_line`: all words that are accepted are such a row.
-/

namespace ChatOpening

namespace Arguments

/-- A value that may be a word of its own: it does not start with a hyphen, unless it is just the hyphen. -/
def IsPlainValue (value : String) : Prop :=
  value.toList.head? ≠ some '-' ∨ value = "-"

/-- An option with its value, as it is given on a command line. -/
inductive Group where
  | flag (f : Flag)
  /-- The value stands behind an equals sign. -/
  | attached (q : Parameter) (value : String)
  /-- The value is the next word. -/
  | apart (q : Parameter) (value : String) (plain : IsPlainValue value)

namespace Group

def words : Group → List Bytes
  | flag f => [Text.bytes ("--" ++ f.option)]
  | attached q value => [Text.bytes ("--" ++ q.option ++ "=" ++ value)]
  | apart q value _ => [Text.bytes ("--" ++ q.option), Text.bytes value]

def option : Group → CommandOption
  | flag f => .flag f
  | attached q _ => .parameter q
  | apart q _ _ => .parameter q

def flag? : Group → Option Flag
  | flag f => some f
  | _ => none

def value? : Group → Option (Parameter × String)
  | flag _ => none
  | attached q value => some (q, value)
  | apart q value _ => some (q, value)

end Group

/-- A row of groups, and whether two hyphens alone stand behind them. -/
structure Line where
  groups : List Group
  closed : Bool

namespace Line

def words (line : Line) : List Bytes :=
  line.groups.flatMap Group.words ++ if line.closed then [Text.bytes "--"] else []

theorem words_cons (g : Group) (gs : List Group) (closed : Bool) :
    (Line.mk (g :: gs) closed).words = g.words ++ (Line.mk gs closed).words := by
  simp [words]

end Line

section Words

variable {o : CommandOption} {f : Flag} {q : Parameter} {w raw name b : Bytes} {attached : Option Bytes} {value : String}

/-- What stands behind the name of an option. -/
def behindName : Option Bytes → Bytes
  | none => []
  | some raw => equalsSign :: raw

/-- The word of an option. -/
def optionWord (o : CommandOption) (attached : Option Bytes) : Bytes :=
  hyphen :: hyphen :: (Text.bytes o.name ++ behindName attached)

/-- Two hyphens alone. -/
def closingWord : Bytes :=
  [hyphen, hyphen]

/-- A word that may be a value. -/
def IsPlainWord (w : Bytes) : Prop :=
  w.head? ≠ some hyphen ∨ w = [hyphen]

theorem bytes_closing : Text.bytes "--" = closingWord :=
  rfl

theorem words_flag : (Group.flag f).words = [optionWord (.flag f) none] := by
  simp [Group.words, optionWord, behindName, CommandOption.name, bytes_closing, closingWord]

theorem words_attached :
    (Group.attached q value).words = [optionWord (.parameter q) (some (Text.bytes value))] := by
  have hequals : Text.bytes "=" = [equalsSign] := rfl
  simp [Group.words, optionWord, behindName, CommandOption.name, bytes_closing, closingWord, hequals]

theorem words_apart {plain : IsPlainValue value} :
    (Group.apart q value plain).words = [optionWord (.parameter q) none, Text.bytes value] := by
  simp [Group.words, optionWord, behindName, CommandOption.name, bytes_closing, closingWord]

theorem words_length_pos (g : Group) : 0 < g.words.length := by
  cases g with
  | flag f => simp [words_flag]
  | attached q value => simp [words_attached]
  | apart q value plain => simp [words_apart]

/-- A text starts with a hyphen exactly if its bytes do. -/
theorem head?_bytes_eq_hyphen_iff : (Text.bytes value).head? = some hyphen ↔ value.toList.head? = some '-' := by
  rw [Text.bytes_eq_flatMap]
  cases value.toList with
  | nil => simp
  | cons c cs =>
    rw [List.flatMap_cons, List.head?_cons, Option.some.injEq, Text.char_eq_iff]
    rcases Nat.lt_or_ge c.toNat 0x80 with hascii | hbeyond
    · have hsize : c.toNat < UInt8.size := Nat.lt_trans hascii (by decide)
      rw [Text.utf8EncodeChar_ascii hascii, List.singleton_append, List.head?_cons, Option.some.injEq, hyphen,
        ← UInt8.toNat_inj, UInt8.toNat_ofNat_of_lt' hsize]
      rfl
    · obtain ⟨b, bs, hcons⟩ := List.exists_cons_of_ne_nil (@String.utf8EncodeChar_ne_nil c)
      have hhigh := Text.high_of_mem_utf8EncodeChar hbeyond (b := b) (by simp [hcons])
      rw [hcons, List.cons_append, List.head?_cons, Option.some.injEq]
      refine iff_of_false ?_ ?_
      · rintro rfl
        exact absurd hhigh (by decide)
      · intro hc
        rw [hc] at hbeyond
        exact absurd hbeyond (by decide)

/-- A text may be a value exactly if its bytes may. -/
theorem isPlainWord_bytes_iff : IsPlainWord (Text.bytes value) ↔ IsPlainValue value := by
  have hsingle : Text.bytes value = [hyphen] ↔ value = "-" :=
    ⟨fun h => Text.bytes_injective (h.trans rfl), fun h => h ▸ rfl⟩
  rw [IsPlainWord, IsPlainValue, Ne, Ne, head?_bytes_eq_hyphen_iff, hsingle]

/-- The name of an option ends where the equals sign stands. -/
theorem splitLong_eq_iff : splitLong b = (name, attached) ↔ b = name ++ behindName attached ∧ equalsSign ∉ name := by
  constructor
  · intro h
    simp only [splitLong] at h
    split at h
    · next hdrop =>
      obtain ⟨rfl, rfl⟩ := Prod.mk.inj h
      obtain ⟨hsplit, hname, -⟩ := takeWhile_dropWhile_eq_iff.1 ⟨rfl, hdrop⟩
      rw [List.append_nil] at hsplit
      refine ⟨(List.append_nil b).symm, fun hmem => ?_⟩
      rw [hsplit] at hmem
      exact of_decide_eq_true (hname _ hmem) rfl
    · next first value hdrop =>
      obtain ⟨rfl, rfl⟩ := Prod.mk.inj h
      obtain ⟨hsplit, hname, hfirst⟩ := takeWhile_dropWhile_eq_iff.1 ⟨rfl, hdrop⟩
      have hequals : first = equalsSign := by simpa using hfirst first rfl
      rw [hequals] at hsplit
      exact ⟨hsplit, fun hmem => of_decide_eq_true (hname _ hmem) rfl⟩
  · rintro ⟨hsplit, hname⟩
    have hname' : ∀ x ∈ name, decide (x ≠ equalsSign) = true :=
      fun x hx => decide_eq_true fun hequals => hname (hequals ▸ hx)
    have hstop : ∀ x ∈ (behindName attached).head?, decide (x ≠ equalsSign) = false := by
      cases attached with
      | none => simp [behindName]
      | some raw => simp [behindName]
    obtain ⟨htake, hdrop⟩ := takeWhile_dropWhile_eq_iff.2 ⟨hsplit, hname', hstop⟩
    simp only [splitLong, hdrop, htake]
    cases attached with
    | none => simp [behindName, hsplit]
    | some raw => rfl

theorem splitLong_name (hname : equalsSign ∉ name) (attached : Option Bytes) :
    splitLong (name ++ behindName attached) = (name, attached) :=
  splitLong_eq_iff.2 ⟨rfl, hname⟩

theorem ofBytes_plain (h : IsPlainWord w) : Word.ofBytes w = .other w := by
  rcases h with h | rfl
  · cases w with
    | nil => rfl
    | cons a rest =>
      have ha : a ≠ hyphen := by simpa using h
      simp only [Word.ofBytes, ha, ne_eq, not_false_eq_true, if_true]
  · rfl

/-- What a word is that starts with two hyphens. -/
theorem ofBytes_long (hne : b ≠ []) : Word.ofBytes (hyphen :: hyphen :: b) = .long (splitLong b).1 (splitLong b).2 := by
  have hempty : b.isEmpty = false := by simpa using hne
  simp [Word.ofBytes, hempty]

/-- The four kinds of words. -/
theorem ofBytes_cases (w : Bytes) :
    (IsPlainWord w ∧ Word.ofBytes w = .other w) ∨ (w = closingWord ∧ Word.ofBytes w = .separator) ∨
      (∃ letters, Word.ofBytes w = .short letters) ∨
      ∃ name attached, w = hyphen :: hyphen :: (name ++ behindName attached) ∧ Word.ofBytes w = .long name attached := by
  rcases w with _ | ⟨a, _ | ⟨b, rest⟩⟩
  · exact .inl ⟨.inl (by simp), rfl⟩
  · by_cases ha : a = hyphen
    · exact .inl ⟨.inr (by rw [ha]), by rw [ha]; rfl⟩
    · have hplain : IsPlainWord [a] := .inl (by simpa using ha)
      exact .inl ⟨hplain, ofBytes_plain hplain⟩
  · by_cases ha : a = hyphen
    · by_cases hb : b = hyphen
      · subst ha hb
        by_cases hrest : rest = []
        · rw [hrest]
          exact .inr (.inl ⟨rfl, rfl⟩)
        · have hsplit : rest = (splitLong rest).1 ++ behindName (splitLong rest).2 := (splitLong_eq_iff.1 rfl).1
          exact .inr (.inr (.inr ⟨_, _, by rw [← hsplit], ofBytes_long hrest⟩))
      · exact .inr (.inr (.inl ⟨b :: rest, by simp [Word.ofBytes, ha, hb]⟩))
    · have hplain : IsPlainWord (a :: b :: rest) := .inl (by simpa using ha)
      exact .inl ⟨hplain, ofBytes_plain hplain⟩

theorem ofName?_eq_some_iff {name : String} : CommandOption.ofName? name = some o ↔ name = o.name := by
  constructor
  · intro h
    rw [CommandOption.ofName?] at h
    have hname := List.find?_some h
    exact (of_decide_eq_true hname).symm
  · rintro rfl
    cases o with
    | flag f => cases f <;> rfl
    | parameter q => cases q <;> rfl
    | help => rfl
    | version => rfl

/-- The name of an option is not empty and has no equals sign. -/
theorem name_ne_nil (o : CommandOption) : Text.bytes o.name ≠ [] ∧ equalsSign ∉ Text.bytes o.name := by
  cases o with
  | flag f => cases f <;> decide
  | parameter q => cases q <;> decide
  | help => decide
  | version => decide

/-- The word of an option is read as its name and what is attached. -/
theorem ofBytes_optionWord : Word.ofBytes (optionWord o attached) = .long (Text.bytes o.name) attached := by
  obtain ⟨hne, hname⟩ := name_ne_nil o
  rw [optionWord, ofBytes_long (fun h => hne (List.append_eq_nil_iff.1 h).1), splitLong_name hname]

end Words

/-- Two steps succeed exactly if each one does in its turn. -/
theorem bind_eq_ok_iff {ε α β : Type} {x : Except ε α} {f : α → Except ε β} {b : β} :
    (x >>= f) = .ok b ↔ ∃ a, x = .ok a ∧ f a = .ok b := by
  cases x with
  | error e => simp [bind, Except.bind]
  | ok a => simp [bind, Except.bind]

namespace Progress

/-- No value is pending, and options may follow. -/
structure IsIdle (p : Progress) : Prop where
  pending : p.pending = none
  separated : p.separated = false

variable {p p' z : Progress} {o : CommandOption} {f : Flag} {q : Parameter} {w raw name : Bytes} {ws : List Bytes}
  {attached : Option Bytes} {value : String}

section Steps

theorem settled_of_none (h : p.pending = none) : p.settled = .ok p := by
  simp only [settled, h]

/-- A parameter that still waits for its value cannot be settled. -/
theorem settled_of_missing (h : p.pending = some (q, none)) : p.settled ≠ .ok z := by
  simp [settled, h]

theorem settled_of_given (h : p.pending = some (q, some raw)) :
    p.settled = ({ p with pending := none } : Progress).store q raw := by
  simp only [settled, h]

/-- A value is stored if it is a text and the parameter has none yet. -/
theorem store_eq_ok_iff : p.store q raw = .ok z ↔
    p.value? q = none ∧ ∃ s, raw = Text.bytes s ∧ z = { p with values := (q, s) :: p.values } := by
  cases hvalue : p.value? q with
  | some s => simp [store, hvalue]
  | none =>
    cases htext : Text.ofBytes? raw with
    | none => simp [store, hvalue, htext, Text.ofBytes?_eq_none_iff.1 htext]
    | some s =>
      have hraw := Text.ofBytes?_eq_some_iff.1 htext
      simp only [store, hvalue, htext, Option.isSome_none, Bool.false_eq_true, if_false, Except.ok.injEq, true_and]
      constructor
      · rintro rfl
        exact ⟨s, hraw, rfl⟩
      · rintro ⟨other, hother, rfl⟩
        rw [Text.bytes_injective (hraw.symm.trans hother)]

/-- Looking at the value that is pending succeeds if there is none, or if it is stored. -/
theorem settled_eq_ok_iff : p.settled = .ok z ↔
    (p.pending = none ∧ z = p) ∨ ∃ q s, p.pending = some (q, some (Text.bytes s)) ∧ p.value? q = none ∧
      z = { p with pending := none, values := (q, s) :: p.values } := by
  rcases hpending : p.pending with _ | ⟨q, _ | raw⟩
  · simp [settled_of_none hpending, eq_comm]
  · simpa using settled_of_missing hpending
  · rw [settled_of_given hpending, store_eq_ok_iff]
    constructor
    · rintro ⟨hvalue, s, rfl, rfl⟩
      exact .inr ⟨q, s, rfl, hvalue, rfl⟩
    · rintro (⟨hnone, -⟩ | ⟨q', s, hgiven, hvalue, rfl⟩)
      · cases hnone
      · cases hgiven
        exact ⟨hvalue, s, rfl, rfl⟩

/-- Once a pending value is settled nothing is pending. -/
theorem pending_of_settled (h : p.settled = .ok z) : z.pending = none := by
  rcases settled_eq_ok_iff.1 h with ⟨hnone, rfl⟩ | ⟨q, s, -, -, rfl⟩
  · exact hnone
  · rfl

/-- A pending value does not end the options. -/
theorem separated_of_settled (h : p.settled = .ok z) : z.separated = p.separated := by
  rcases settled_eq_ok_iff.1 h with ⟨-, rfl⟩ | ⟨q, s, -, -, rfl⟩ <;> rfl

/-- Whether options may follow has no part in looking at a value. -/
theorem settled_closed_iff : ({ p with separated := true } : Progress).settled = .ok z ↔
    ∃ p', p.settled = .ok p' ∧ z = { p' with separated := true } := by
  simp only [settled_eq_ok_iff]
  constructor
  · rintro (⟨hnone, rfl⟩ | ⟨q, s, hgiven, hvalue, rfl⟩)
    · exact ⟨p, .inl ⟨hnone, rfl⟩, rfl⟩
    · exact ⟨_, .inr ⟨q, s, hgiven, hvalue, rfl⟩, rfl⟩
  · rintro ⟨p', ⟨hnone, rfl⟩ | ⟨q, s, hgiven, hvalue, rfl⟩, rfl⟩
    · exact .inl ⟨hnone, rfl⟩
    · exact .inr ⟨q, s, hgiven, hvalue, rfl⟩

/-- An option first looks at the value that is pending. -/
theorem option_eq_ok_iff : p.option o attached = .ok p' ↔ ∃ z, p.settled = .ok z ∧ z.option o attached = .ok p' := by
  have hsettled : ∀ z, p.settled = .ok z → z.settled = .ok z := fun z hz => settled_of_none (pending_of_settled hz)
  cases hp : p.settled with
  | error e =>
    simp only [reduceCtorEq, false_and, exists_false, iff_false]
    rcases o with f | q | _ | _ <;> rcases attached with _ | raw <;> simp [option, hp, bind, Except.bind]
  | ok z =>
    have hz := hsettled z hp
    simp only [Except.ok.injEq, exists_eq_left']
    rcases o with f | q | _ | _ <;> rcases attached with _ | raw <;> simp [option, hp, hz, bind, Except.bind]

/-- A flag is taken once. -/
theorem option_flag_eq_ok_iff (h : p.pending = none) :
    p.option (.flag f) none = .ok p' ↔ f ∉ p.flags ∧ p' = { p with flags := f :: p.flags } := by
  by_cases hf : f ∈ p.flags
  · simp [option, settled_of_none h, hf, bind, Except.bind]
  · simp [option, settled_of_none h, hf, bind, Except.bind, pure, Except.pure, eq_comm]

/-- A parameter waits for its value. -/
theorem option_parameter (h : p.pending = none) :
    p.option (.parameter q) none = .ok { p with pending := some (q, none) } := by
  simp [option, settled_of_none h, bind, Except.bind, pure, Except.pure]

theorem option_attached (h : p.pending = none) : p.option (.parameter q) (some raw) = p.store q raw := by
  simp [option, settled_of_none h, bind, Except.bind]

/-- Neither the help nor the version is a step on the way, and a flag has no value. -/
theorem option_cases (h : p.pending = none) (hok : p.option o attached = .ok p') :
    (∃ f, o = .flag f ∧ attached = none ∧ p' = { p with flags := f :: p.flags }) ∨
      (∃ q, o = .parameter q ∧ attached = none ∧ p' = { p with pending := some (q, none) }) ∨
      ∃ q raw, o = .parameter q ∧ attached = some raw ∧ p.store q raw = .ok p' := by
  rcases o with f | q | _ | _
  · cases attached with
    | none => exact .inl ⟨f, rfl, rfl, ((option_flag_eq_ok_iff h).1 hok).2⟩
    | some raw => cases hok
  · cases attached with
    | none =>
      rw [option_parameter h] at hok
      cases hok
      exact .inr (.inl ⟨q, rfl, rfl, rfl⟩)
    | some raw =>
      rw [option_attached h] at hok
      exact .inr (.inr ⟨q, raw, rfl, rfl, hok⟩)
  · cases attached with
    | none => simp [option, settled_of_none h, bind, Except.bind] at hok
    | some raw => cases hok
  · cases attached with
    | none => simp [option, settled_of_none h, bind, Except.bind] at hok
    | some raw => cases hok

/-- The options of one letter end the reading. -/
theorem option_of_letter {c : Char} (h : CommandOption.ofLetter? c = some o) : p.option o none ≠ .ok p' := by
  have ho : o = .help ∨ o = .version := by
    simp only [CommandOption.ofLetter?] at h
    split at h
    · cases h
      exact .inl rfl
    · split at h
      · cases h
        exact .inr rfl
      · cases h
  intro hok
  obtain ⟨z, hz, hoption⟩ := option_eq_ok_iff.1 hok
  rcases option_cases (pending_of_settled hz) hoption with ⟨f, hf, -⟩ | ⟨q, hq, -⟩ | ⟨q, raw, hq, -⟩
  · rcases ho with rfl | rfl <;> cases hf
  · rcases ho with rfl | rfl <;> cases hq
  · rcases ho with rfl | rfl <;> cases hq

theorem namedOption?_eq_some_iff : namedOption? name = some o ↔ name = Text.bytes o.name := by
  simp only [namedOption?, Option.bind_eq_bind, Option.bind_eq_some_iff, Text.ofBytes?_eq_some_iff,
    ofName?_eq_some_iff]
  constructor
  · rintro ⟨s, rfl, rfl⟩
    rfl
  · rintro rfl
    exact ⟨_, rfl, rfl⟩

theorem word_optionWord (h : p.separated = false) : p.word (optionWord o attached) = p.option o attached := by
  simp only [word, h, ofBytes_optionWord, namedOption?_eq_some_iff.2 (Eq.refl (Text.bytes o.name))]
  rfl

theorem word_closing (h : p.separated = false) : p.word closingWord = .ok { p with separated := true } := by
  have hseparator : Word.ofBytes closingWord = .separator := rfl
  simp only [word, h, hseparator]
  rfl

theorem word_plain (h : p.separated = false) (hpending : p.pending = some (q, none)) (hw : IsPlainWord w) :
    p.word w = .ok { p with pending := some (q, some w) } := by
  simp only [word, h, ofBytes_plain hw, hpending]
  rfl

/-- Behind the end of the options no word is accepted. -/
theorem word_separated (h : p.separated = true) : p.word w ≠ .ok p' := by
  simp [word, h]

/-- What a word does that is no fault: it ends the options, it is an option, or it is a value that is waited for. -/
theorem word_cases (h : p.separated = false) (hok : p.word w = .ok p') :
    (w = closingWord ∧ p' = { p with separated := true }) ∨
      (∃ o attached, w = optionWord o attached ∧ p.option o attached = .ok p') ∨
      ∃ q, p.pending = some (q, none) ∧ IsPlainWord w ∧ p' = { p with pending := some (q, some w) } := by
  rcases ofBytes_cases w with ⟨hplain, hw⟩ | ⟨rfl, -⟩ | ⟨letters, hw⟩ | ⟨name, attached, hsplit, hw⟩
  · rcases hpending : p.pending with _ | ⟨q, _ | raw⟩
    · simp [word, h, hw, hpending] at hok
    · rw [word_plain h hpending hplain] at hok
      cases hok
      exact .inr (.inr ⟨q, rfl, hplain, rfl⟩)
    · simp [word, h, hw, hpending] at hok
  · rw [word_closing h] at hok
    cases hok
    exact .inl ⟨rfl, rfl⟩
  · cases hletter : (firstLetter letters).1 >>= CommandOption.ofLetter? with
    | none => simp [word, h, hw, hletter] at hok
    | some o =>
      have hoption : p.option o none = .ok p' := by
        simpa [word, h, hw, hletter] using hok
      obtain ⟨c, -, hc⟩ := Option.bind_eq_some_iff.1 hletter
      exact absurd hoption (option_of_letter hc)
  · cases hname : namedOption? name with
    | none => simp [word, h, hw, hname] at hok
    | some o =>
      have hbytes := namedOption?_eq_some_iff.1 hname
      refine .inr (.inl ⟨o, attached, by rw [hsplit, hbytes]; rfl, ?_⟩)
      simpa [word, h, hw, hname] using hok

end Steps

/-- Reads the words that are left, and looks at the value that is then pending. -/
def finish (p : Progress) (ws : List Bytes) : Except Stop Progress :=
  ws.foldlM word p >>= settled

section Finish

@[simp] theorem finish_nil : p.finish [] = p.settled :=
  rfl

/-- The words are read one after the other. -/
theorem finish_cons_iff : p.finish (w :: ws) = .ok z ↔ ∃ p', p.word w = .ok p' ∧ p'.finish ws = .ok z := by
  rw [finish, List.foldlM_cons, bind_assoc, bind_eq_ok_iff]
  rfl

/-- Nothing is accepted behind two hyphens. -/
theorem finish_separated_iff (h : p.separated = true) : p.finish ws = .ok z ↔ ws = [] ∧ p.settled = .ok z := by
  cases ws with
  | nil => simp
  | cons w ws =>
    simp only [finish_cons_iff, reduceCtorEq, false_and, iff_false, not_exists, not_and]
    intro p' hword
    exact absurd hword (word_separated h)

/-- Two hyphens can only be the last word. -/
theorem finish_closing_iff (h : p.separated = false) : p.finish (closingWord :: ws) = .ok z ↔
    ws = [] ∧ ∃ p', p.settled = .ok p' ∧ z = { p' with separated := true } := by
  rw [finish_cons_iff, word_closing h]
  simp only [Except.ok.injEq, exists_eq_left', finish_separated_iff, settled_closed_iff]

/-- An option is read, and the words behind it follow. -/
theorem finish_optionWord_iff (h : p.separated = false) :
    p.finish (optionWord o attached :: ws) = .ok z ↔ ∃ p', p.option o attached = .ok p' ∧ p'.finish ws = .ok z := by
  rw [finish_cons_iff, word_optionWord h]

/-- It does not matter when a value is looked at. -/
theorem finish_given_iff (hsep : p.separated = false) (hpending : p.pending = some (q, some raw)) :
    p.finish ws = .ok z ↔ ∃ p', p.settled = .ok p' ∧ p'.finish ws = .ok z := by
  cases ws with
  | nil =>
    simp only [finish_nil]
    constructor
    · intro h
      exact ⟨z, h, settled_of_none (pending_of_settled h)⟩
    · rintro ⟨p', hp', h⟩
      rw [settled_of_none (pending_of_settled hp')] at h
      rw [hp', h]
  | cons w ws =>
    constructor
    · intro h
      obtain ⟨p', hword, hrest⟩ := finish_cons_iff.1 h
      rcases word_cases hsep hword with ⟨rfl, rfl⟩ | ⟨o, attached, rfl, hoption⟩ | ⟨q', hnone, -⟩
      · obtain ⟨hws, p₁, hp₁, hz⟩ := (finish_closing_iff hsep).1 h
        have hp₁' := settled_of_none (pending_of_settled hp₁)
        exact ⟨p₁, hp₁, (finish_closing_iff ((separated_of_settled hp₁).trans hsep)).2 ⟨hws, p₁, hp₁', hz⟩⟩
      · obtain ⟨p₁, hp₁, hoption⟩ := option_eq_ok_iff.1 hoption
        exact ⟨p₁, hp₁, (finish_optionWord_iff ((separated_of_settled hp₁).trans hsep)).2 ⟨p', hoption, hrest⟩⟩
      · rw [hpending] at hnone
        cases hnone
    · rintro ⟨p₁, hp₁, h⟩
      have hsep₁ := (separated_of_settled hp₁).trans hsep
      obtain ⟨p', hword, hrest⟩ := finish_cons_iff.1 h
      rcases word_cases hsep₁ hword with ⟨rfl, rfl⟩ | ⟨o, attached, rfl, hoption⟩ | ⟨q', hnone, -⟩
      · obtain ⟨hws, p₂, hp₂, hz⟩ := (finish_closing_iff hsep₁).1 h
        rw [settled_of_none (pending_of_settled hp₁)] at hp₂
        cases hp₂
        exact (finish_closing_iff hsep).2 ⟨hws, p₁, hp₁, hz⟩
      · exact (finish_optionWord_iff hsep).2 ⟨p', option_eq_ok_iff.2 ⟨p₁, hp₁, hoption⟩, hrest⟩
      · rw [pending_of_settled hp₁] at hnone
        cases hnone

end Finish

/-- The progress with a group whose option has not been given before. -/
def put (p : Progress) (g : Group) : Progress :=
  { p with flags := g.flag?.toList ++ p.flags, values := g.value?.toList ++ p.values }

/-- The option has been given. -/
def Has (p : Progress) : CommandOption → Prop
  | .flag f => f ∈ p.flags
  | .parameter q => p.value? q ≠ none
  | _ => False

section Groups

variable {g : Group} {gs : List Group} {closed : Bool}

theorem IsIdle.put (h : p.IsIdle) (g : Group) : (p.put g).IsIdle :=
  ⟨h.pending, h.separated⟩

theorem isIdle_start : start.IsIdle :=
  ⟨rfl, rfl⟩

/-- An option is there if the group has it or it was there before. -/
theorem has_put_iff : (p.put g).Has o ↔ o = g.option ∨ p.Has o := by
  have hlookup : ∀ (q r : Parameter) (value : String),
      ((r, value) :: p.values).lookup q ≠ none ↔ q = r ∨ p.values.lookup q ≠ none := by
    intro q r value
    by_cases hq : q = r
    · simp [hq]
    · simp [List.lookup_cons, beq_eq_false_iff_ne.2 hq, hq]
  cases g with
  | flag f => cases o <;> simp [put, Has, Group.flag?, Group.value?, Group.option, value?]
  | attached r value =>
    cases o with
    | parameter q => simpa [put, Has, Group.value?, Group.option, value?] using hlookup q r value
    | _ => simp [put, Has, Group.flag?, Group.option]
  | apart r value plain =>
    cases o with
    | parameter q => simpa [put, Has, Group.value?, Group.option, value?] using hlookup q r value
    | _ => simp [put, Has, Group.flag?, Group.option]

/-- A text is stored unless its parameter has a value. -/
theorem store_bytes_eq_ok_iff : p.store q (Text.bytes value) = .ok p' ↔
    ¬ p.Has (.parameter q) ∧ p' = { p with values := (q, value) :: p.values } := by
  rw [store_eq_ok_iff, Has, not_not]
  refine and_congr_right fun _ => ⟨?_, fun h => ⟨value, rfl, h⟩⟩
  rintro ⟨s, hs, rfl⟩
  rw [Text.bytes_injective hs]

/-- A group is accepted exactly if its option has not been given before. -/
theorem finish_group_iff (h : p.IsIdle) :
    p.finish (g.words ++ ws) = .ok z ↔ ¬ p.Has g.option ∧ (p.put g).finish ws = .ok z := by
  cases g with
  | flag f =>
    rw [words_flag, List.singleton_append, finish_optionWord_iff h.separated]
    simp only [option_flag_eq_ok_iff h.pending, and_assoc, exists_and_left, exists_eq_left]
    rfl
  | attached q value =>
    rw [words_attached, List.singleton_append, finish_optionWord_iff h.separated, option_attached h.pending]
    simp only [store_bytes_eq_ok_iff, and_assoc, exists_and_left, exists_eq_left]
    rfl
  | apart q value plain =>
    -- The progress while the value is waited for, and when it is there.
    let waiting : Progress := { p with pending := some (q, none) }
    let given : Progress := { p with pending := some (q, some (Text.bytes value)) }
    have hword : waiting.word (Text.bytes value) = .ok given :=
      word_plain h.separated rfl (isPlainWord_bytes_iff.2 plain)
    have hsettled : given.settled = p.store q (Text.bytes value) := by
      have hpending : ({ given with pending := none } : Progress) = p := by
        simp only [given, ← h.pending]
      rw [settled_of_given (p := given) rfl, hpending]
    rw [words_apart, List.cons_append, List.singleton_append, finish_optionWord_iff h.separated,
      option_parameter h.pending]
    simp only [Except.ok.injEq, exists_eq_left']
    rw [finish_cons_iff, hword]
    simp only [Except.ok.injEq, exists_eq_left']
    rw [finish_given_iff (p := given) h.separated rfl, hsettled]
    simp only [store_bytes_eq_ok_iff, and_assoc, exists_and_left, exists_eq_left]
    rfl

/-- A row of groups is accepted exactly if no option is given twice. -/
theorem finish_line_iff (h : p.IsIdle) :
    p.finish (gs.flatMap Group.words ++ if closed then [closingWord] else []) = .ok z ↔
      ((gs.map Group.option).Nodup ∧ ∀ g ∈ gs, ¬ p.Has g.option) ∧ z = { gs.foldl put p with separated := closed } := by
  induction gs generalizing p with
  | nil =>
    cases closed with
    | false =>
      have hsame : ({ p with separated := false } : Progress) = p := by
        rw [← h.separated]
      simp [settled_of_none h.pending, hsame, eq_comm]
    | true =>
      simp [finish_closing_iff h.separated, settled_of_none h.pending]
  | cons g gs ih =>
    rw [List.flatMap_cons, List.append_assoc, finish_group_iff h, ih (h.put g), List.foldl_cons, ← and_assoc]
    refine and_congr_left fun _ => ?_
    simp only [List.map_cons, List.nodup_cons, List.mem_map, List.mem_cons, forall_eq_or_imp, has_put_iff, not_or,
      not_exists, not_and]
    constructor
    · rintro ⟨hhas, hnodup, hrest⟩
      exact ⟨⟨fun g' hg' => (hrest g' hg').1, hnodup⟩, hhas, fun g' hg' => (hrest g' hg').2⟩
    · rintro ⟨⟨hne, hnodup⟩, hhas, hrest⟩
      exact ⟨hhas, hnodup, fun g' hg' => ⟨hne g' hg', hrest g' hg'⟩⟩

/-- Where a value is waited for, the next word is one. -/
theorem exists_value (hsep : p.separated = false)
    (hok : ({ p with pending := some (q, none) } : Progress).finish ws = .ok z) :
    ∃ (value : String) (_ : IsPlainValue value) (rest : List Bytes), ws = Text.bytes value :: rest := by
  have hmissing : ∀ p', ({ p with pending := some (q, none) } : Progress).settled ≠ .ok p' :=
    fun p' => settled_of_missing rfl
  cases ws with
  | nil => exact absurd hok (hmissing z)
  | cons w rest =>
    obtain ⟨p', hword, hrest⟩ := finish_cons_iff.1 hok
    rcases word_cases (p := { p with pending := some (q, none) }) hsep hword with
      ⟨rfl, -⟩ | ⟨o, attached, rfl, hoption⟩ | ⟨r, hr, hplain, rfl⟩
    · obtain ⟨-, p₁, hp₁, -⟩ := (finish_closing_iff (p := { p with pending := some (q, none) }) hsep).1 hok
      exact absurd hp₁ (hmissing p₁)
    · obtain ⟨p₁, hp₁, -⟩ := option_eq_ok_iff.1 hoption
      exact absurd hp₁ (hmissing p₁)
    · obtain ⟨p₁, hp₁, -⟩ := (finish_given_iff (p := { p with pending := some (r, some w) }) hsep rfl).1 hrest
      rw [settled_of_given (p := { p with pending := some (r, some w) }) rfl] at hp₁
      obtain ⟨-, s, rfl, -⟩ := store_eq_ok_iff.1 hp₁
      exact ⟨s, isPlainWord_bytes_iff.1 hplain, rest, rfl⟩

/-- Words that are accepted start with a group, unless no option is there. -/
theorem exists_group (h : p.IsIdle) (hok : p.finish (w :: ws) = .ok z) :
    (w = closingWord ∧ ws = []) ∨ ∃ (g : Group) (rest : List Bytes), w :: ws = g.words ++ rest := by
  obtain ⟨p', hword, hrest⟩ := finish_cons_iff.1 hok
  rcases word_cases h.separated hword with ⟨rfl, rfl⟩ | ⟨o, attached, rfl, hoption⟩ | ⟨q, hnone, -⟩
  · exact .inl ⟨rfl, ((finish_separated_iff rfl).1 hrest).1⟩
  · right
    rcases option_cases h.pending hoption with ⟨f, rfl, rfl, -⟩ | ⟨q, rfl, rfl, rfl⟩ | ⟨q, raw, rfl, rfl, hstore⟩
    · exact ⟨.flag f, ws, by rw [words_flag, List.singleton_append]⟩
    · obtain ⟨value, plain, rest, rfl⟩ := exists_value h.separated hrest
      exact ⟨.apart q value plain, rest, by rw [words_apart]; rfl⟩
    · obtain ⟨-, s, rfl, -⟩ := store_eq_ok_iff.1 hstore
      exact ⟨.attached q s, ws, by rw [words_attached, List.singleton_append]⟩
  · rw [h.pending] at hnone
    cases hnone

/-- All words that are accepted are a row of groups. -/
theorem exists_line (h : p.IsIdle) (hok : p.finish ws = .ok z) : ∃ line : Line, ws = line.words := by
  induction hlength : ws.length using Nat.strong_induction_on generalizing p ws with
  | _ n ih =>
    subst hlength
    cases ws with
    | nil => exact ⟨⟨[], false⟩, rfl⟩
    | cons w ws =>
      rcases exists_group h hok with ⟨rfl, rfl⟩ | ⟨g, rest, hsplit⟩
      · exact ⟨⟨[], true⟩, rfl⟩
      · rw [hsplit] at hok ih ⊢
        have hshorter : rest.length < (g.words ++ rest).length := by
          rw [List.length_append]
          exact Nat.lt_add_of_pos_left (words_length_pos g)
        obtain ⟨line, rfl⟩ := ih _ hshorter (h.put g) ((finish_group_iff h).1 hok).2 rfl
        exact ⟨⟨g :: line.groups, line.closed⟩, (Line.words_cons g line.groups line.closed).symm⟩

end Groups

end Progress

end Arguments

end ChatOpening
