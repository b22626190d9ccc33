import Mathlib.Data.List.Forall2
import ChatOpening.Proofs.Dictionary
import ChatOpening.Proofs.Json.Passing

/-!
# What trees mean

A reader takes the trees of which a relation holds, each with its value, and takes nothing else.  This is said once for
each way to put readers together; a list is read with its items one after the other, and the members of an object lead
the reader from one state to the next.

**Input.**  Bytes of a text, and a relation between trees and values.

**Definitions.**
* `Reader.Reads`: the reader is sound and complete for the relation.
* `Tree.IsObject`: the members of an object with the keys that they spell.
* `Tree.Means`: the value of a tree of any shape.

**Results.**
* `exists_trees_of_items`, `yields_items_of_trees`: the items of a list.
* `exists_run_of_members`, `yields_members_of_run`: the members of an object.
* `reads_value`: a value of any shape.
-/

namespace ChatOpening

namespace Json

open Text

variable {α β σ : Type} {bound : Nat}

section Reads

/-- Where `At` finds a tree, the reader takes it with the values that `P` gives it, and it takes nothing else. -/
structure Reader.Takes (At : Tree → Bytes → Bytes → Prop) (r : Reader α) (P : Tree → α → Prop) : Prop where
  keeps : r.KeepsText
  sound : ∀ {input rest : Bytes} {a : α}, IsText input → (r input).Yields a rest → ∃ t, At t input rest ∧ P t a
  complete : ∀ {input rest : Bytes} {t : Tree} {a : α}, IsText input → At t input rest → P t a → Stops rest →
    (r input).Yields a rest

/-- The reader takes the trees of which `P` holds. -/
abbrev Reader.Reads (r : Reader α) (P : Tree → α → Prop) : Prop :=
  r.Takes Begins P

/-- Behind a key, the reader takes the trees of which `P` holds. -/
abbrev Reader.ReadsMember (r : Reader α) (P : Tree → α → Prop) : Prop :=
  r.Takes (fun t => ValueAt t.Spelled) P

variable {At : Tree → Bytes → Bytes → Prop} {r : Reader α} {P Q : Tree → α → Prop} {x : Outcome bound α} {a : α}
  {input rest more : Bytes} {first : UInt8}

theorem Outcome.KeepsText.isText (hx : x.KeepsText) (h : x.Yields a rest) : IsText rest := by
  obtain ⟨hrest, rfl⟩ := h
  exact hx

theorem Reader.Takes.congr (h : r.Takes At P) (hPQ : ∀ t a, P t a ↔ Q t a) : r.Takes At Q where
  keeps := h.keeps
  sound hinput hy := by
    obtain ⟨t, ht, ha⟩ := h.sound hinput hy
    exact ⟨t, ht, (hPQ t _).1 ha⟩
  complete hinput ht ha hrest := h.complete hinput ht ((hPQ _ _).2 ha) hrest

/-- A reader whose values are mapped takes the mapped meanings. -/
theorem Reader.Takes.map (h : r.Takes At P) (f : α → β) : (r.map f).Takes At fun t b => ∃ a, P t a ∧ f a = b where
  keeps input hinput := keepsText_map (h.keeps input hinput)
  sound hinput hy := by
    obtain ⟨a, ha, rfl⟩ := yields_map_iff.1 hy
    obtain ⟨t, ht, hPa⟩ := h.sound hinput ha
    exact ⟨t, ht, a, hPa, rfl⟩
  complete hinput ht hb hrest := by
    obtain ⟨a, ha, rfl⟩ := hb
    exact yields_map_iff.2 ⟨a, h.complete hinput ht ha hrest, rfl⟩

theorem isText_of_skipBlanks (hinput : IsText input) (hskip : skipBlanks input = more) : IsText more :=
  hskip ▸ isText_skipBlanks hinput

/-- What stands behind a mark. -/
theorem isText_behind_mark {mark : UInt8} (hinput : IsText input) (hskip : skipBlanks input = mark :: more)
    (hmark : decide (mark < 0x80) = true) : IsText more :=
  isText_behind hmark rfl (isText_of_skipBlanks hinput hskip)

/-- Behind a key a reader takes what it takes elsewhere. -/
theorem Reader.Takes.memberValue (tracking : Tracking) (name : String) (h : r.Reads P) :
    (memberValue tracking name r).ReadsMember P where
  keeps := keepsText_memberValue h.keeps
  sound hinput hy := by
    obtain ⟨middle, hcolon, hvalue⟩ := yields_memberValue_iff.1 hy
    obtain ⟨t, ht, ha⟩ := h.sound (isText_behind_mark hinput hcolon rfl) hvalue
    exact ⟨t, ⟨middle, hcolon, ht⟩, ha⟩
  complete hinput ht ha hrest := by
    obtain ⟨middle, hcolon, ht⟩ := ht
    exact yields_memberValue_iff.2 ⟨middle, hcolon, h.complete (isText_behind_mark hinput hcolon rfl) ht ha hrest⟩

/-- Whatever is passed over means nothing. -/
theorem reads_pass : pass.Reads fun _ _ => True where
  keeps := keepsText_pass
  sound hinput hy := by
    obtain ⟨t, ht⟩ := exists_begins_of_pass hinput hy
    exact ⟨t, ht, trivial⟩
  complete hinput ht _ hrest := yields_pass_of_begins hinput ht hrest

end Reads

section Lists

variable {tracking : Tracking} {item : Reader α} {P : Tree → α → Prop} {fresh : Bool} {input more rest : Bytes}
  {done vs : List α}

/-- A list ends at its closing bracket. -/
theorem yields_nextItem_false_iff : (nextItem fresh input).Yields false rest ↔ skipBlanks input = 0x5D :: rest := by
  constructor
  · intro h
    simp only [nextItem] at h
    split at h
    · exact absurd h not_yields_error
    next b others hskip =>
    split at h
    · next hb =>
      obtain ⟨-, rfl⟩ := yields_ok_iff.1 h
      exact hb ▸ hskip
    split at h
    · cases (yields_ok_iff.1 h).1
    split at h
    · split at h
      · exact absurd h not_yields_error
      split at h
      · exact absurd h not_yields_error
      · cases (yields_ok_iff.1 h).1
    · exact absurd h not_yields_error
  · intro hskip
    simp only [nextItem]
    split
    · next hnone => cases hnone.symm.trans hskip
    · next b others hb =>
      cases hb.symm.trans hskip
      rw [if_pos rfl]
      exact yields_ok_iff.2 ⟨rfl, rfl⟩

/-- The next item starts with a byte that is not the closing bracket. -/
theorem yields_nextItem_true_iff :
    (nextItem fresh input).Yields true more ↔
      ∃ start b others, StartsAt fresh input start ∧ skipBlanks start = b :: others ∧ b ≠ 0x5D ∧
        more = if fresh then b :: others else start := by
  constructor
  · intro h
    simp only [nextItem] at h
    split at h
    · exact absurd h not_yields_error
    next b others hskip =>
    split at h
    · cases (yields_ok_iff.1 h).1
    next hb =>
    split at h
    · next hfresh =>
      obtain ⟨-, rfl⟩ := yields_ok_iff.1 h
      subst hfresh
      exact ⟨input, b, others, rfl, hskip, hb, rfl⟩
    next hfresh =>
    have hfresh : fresh = false := Bool.eq_false_iff.2 hfresh
    subst hfresh
    split at h
    · next hcomma =>
      split at h
      · exact absurd h not_yields_error
      next c behind hc =>
      split at h
      · exact absurd h not_yields_error
      · next hne =>
        obtain ⟨-, rfl⟩ := yields_ok_iff.1 h
        rw [hcomma] at hskip
        exact ⟨others, c, behind, hskip, hc, hne, rfl⟩
    · exact absurd h not_yields_error
  · rintro ⟨start, b, others, hstart, hskip, hb, rfl⟩
    simp only [nextItem]
    cases fresh with
    | true =>
      have hinput : skipBlanks input = b :: others := hstart ▸ hskip
      split
      · next hnone => cases hnone.symm.trans hinput
      · next c behind hc =>
        cases hc.symm.trans hinput
        rw [if_neg hb, if_pos rfl]
        exact yields_ok_iff.2 ⟨rfl, rfl⟩
    | false =>
      have hinput : skipBlanks input = comma :: start := hstart
      split
      · next hnone => cases hnone.symm.trans hinput
      · next c behind hc =>
        cases hc.symm.trans hinput
        rw [if_neg (by decide), if_neg (by decide), if_pos rfl]
        split
        · next hnone => cases hnone.symm.trans hskip
        · next d later hd =>
          cases hd.symm.trans hskip
          rw [if_neg hb]
          exact yields_ok_iff.2 ⟨rfl, rfl⟩

/-- A value begins where the next item is found. -/
theorem begins_of_nextItem {t : Tree} {start : Bytes} {b : UInt8} {others : Bytes} (hskip : skipBlanks start = b :: others)
    (hmore : more = if fresh then b :: others else start) : Begins t more rest ↔ Begins t start rest := by
  cases fresh with
  | true =>
    rw [if_pos rfl, ← hskip] at hmore
    rw [hmore]
    exact beginsWith_skipBlanks_iff
  | false =>
    rw [if_neg (by decide)] at hmore
    rw [hmore]

/-- What is read up to the closing bracket are items that are spelled one after the other. -/
theorem exists_trees_of_items (hitem : item.Reads P) (hinput : IsText input) {h : input.length ≤ bound}
    (hy : (items tracking item input h done).Yields vs rest) :
    ∃ ts ws, PartsFrom done.isEmpty 0x5D (itemsSpelled ts) input rest ∧ List.Forall₂ P ts ws ∧ vs = done.reverse ++ ws := by
  induction hn : input.length using Nat.strongRecOn generalizing input done with
  | ind n ih =>
    rcases yields_items_iff.1 hy with ⟨hend, rfl⟩ | ⟨more, a, behind, hnext, hvalue, _, htail⟩
    · exact ⟨[], [], yields_nextItem_false_iff.1 hend, .nil, by simp⟩
    · obtain ⟨start, b, others, hstart, hskip, -, hmore⟩ := yields_nextItem_true_iff.1 hnext
      have htext : IsText more := (keepsText_nextItem _ hinput).isText hnext
      obtain ⟨t, ht, ha⟩ := hitem.sound htext hvalue
      have hless : behind.length < n := by
        have := hnext.shorter
        have := hvalue.shorter
        omega
      obtain ⟨ts, ws, hts, hws, rfl⟩ := ih behind.length hless ((hitem.keeps _ htext).isText hvalue) htail rfl
      refine ⟨t :: ts, a :: ws, ⟨start, behind, hstart, ?_, hts⟩, .cons ha hws, by simp⟩
      exact (begins_of_nextItem hskip hmore).1 ht

/-- Items that are spelled one after the other are read up to the closing bracket. -/
theorem yields_items_of_trees (hitem : item.Reads P) {ts : List Tree} {ws : List α} (hws : List.Forall₂ P ts ws)
    (hinput : IsText input) (hts : PartsFrom done.isEmpty 0x5D (itemsSpelled ts) input rest) (h : input.length ≤ bound) :
    (items tracking item input h done).Yields (done.reverse ++ ws) rest := by
  induction hws generalizing input done with
  | nil =>
    rw [List.append_nil]
    exact yields_items_iff.2 (.inl ⟨yields_nextItem_false_iff.2 hts, rfl⟩)
  | @cons t a ts ws ha _ ih =>
    obtain ⟨start, behind, hstart, ht, hlater⟩ := hts
    obtain ⟨b, others, hskip, hb⟩ := (visible_spelled t).exists_first ht
    have hbracket : b ≠ 0x5D := by
      rintro rfl
      cases hb
    obtain ⟨more, hmore⟩ : ∃ more, more = if done.isEmpty then b :: others else start := ⟨_, rfl⟩
    have hnext : (nextItem done.isEmpty input).Yields true more :=
      yields_nextItem_true_iff.2 ⟨start, b, others, hstart, hskip, hbracket, hmore⟩
    have htext : IsText more := (keepsText_nextItem _ hinput).isText hnext
    have hvalue : (item more).Yields a behind :=
      hitem.complete htext ((begins_of_nextItem hskip hmore).2 ht) ha (stops_of_partsFrom (by decide) hlater)
    have hbound : behind.length ≤ bound := by
      have := hnext.shorter
      have := hvalue.shorter
      omega
    have htail := @ih behind (a :: done) ((hitem.keeps _ htext).isText hvalue) hlater hbound
    rw [List.reverse_cons, List.append_assoc] at htail
    exact yields_items_iff.2 (.inr ⟨more, a, behind, hnext, hvalue, hbound, htail⟩)

/-- All items of a list, from its opening bracket on. -/
theorem exists_trees_of_all_items (hitem : item.Reads P) (hinput : IsText input)
    (hy : (items tracking item input (length_le_self input) []).Yields vs rest) :
    ∃ ts, PartsFrom true 0x5D (itemsSpelled ts) input rest ∧ List.Forall₂ P ts vs := by
  obtain ⟨ts, ws, hts, hws, rfl⟩ := exists_trees_of_items hitem hinput hy
  exact ⟨ts, hts, hws⟩

theorem yields_all_items (hitem : item.Reads P) {ts : List Tree} (hvs : List.Forall₂ P ts vs) (hinput : IsText input)
    (hts : PartsFrom true 0x5D (itemsSpelled ts) input rest) :
    (items tracking item input (length_le_self input) []).Yields vs rest := by
  have hfresh : PartsFrom ([] : List α).isEmpty 0x5D (itemsSpelled ts) input rest := hts
  exact yields_items_of_trees hitem hvs hinput hfresh _

end Lists

section Objects

/-- One member after the other leads from one state to the last. -/
inductive Run (Q : σ → String → Tree → σ → Prop) : σ → List (String × Tree) → σ → Prop
  | nil (s : σ) : Run Q s [] s
  | cons {s s' s'' : σ} {name : String} {t : Tree} {es : List (String × Tree)} (hmember : Q s name t s')
      (hes : Run Q s' es s'') : Run Q s ((name, t) :: es) s''

/-- The members with the keys that they spell. -/
def Named (ms : List (List Piece × Tree)) (es : List (String × Tree)) : Prop :=
  List.Forall₂ (fun m e => Denotes m.1 e.1.toList ∧ m.2 = e.2) ms es

/-- The entries with the values of their trees. -/
def Entries (P : Tree → α → Prop) (es : List (String × Tree)) (vs : List (String × α)) : Prop :=
  List.Forall₂ (fun e v => e.1 = v.1 ∧ P e.2 v.2) es vs

/-- The entries that are left when each takes the place of earlier ones of the same key. -/
def gathered (put : σ → String → α → σ) (start : σ) (vs : List (String × α)) : σ :=
  vs.foldl (fun done v => put done v.1 v.2) start

variable {tracking : Tracking} {member : σ → String → Reader σ} {Q : σ → String → Tree → σ → Prop}
  {finish : σ → Except Cause α} {put : σ → String → α → σ} {item : Reader α} {P : Tree → α → Prop} {fresh : Bool}
  {state final : σ} {input more rest : Bytes} {a : α} {name : String} {ms : List (List Piece × Tree)}
  {es : List (String × Tree)} {vs : List (String × α)}

/-- A key is read off the next member. -/
theorem yields_nextKey_some_iff :
    (nextKey fresh input).Yields (some name) rest ↔
      ∃ start others, StartsAt fresh input start ∧ skipBlanks start = quoteMark :: others ∧
        (text others).Yields name rest := by
  cases fresh with
  | true =>
    rw [yields_nextKey_first_iff]
    constructor
    · rintro ⟨others, hskip, hname⟩
      exact ⟨input, others, rfl, hskip, hname⟩
    · rintro ⟨_, others, rfl, hskip, hname⟩
      exact ⟨others, hskip, hname⟩
  | false =>
    rw [yields_nextKey_later_iff]
    constructor
    · rintro ⟨start, others, hcomma, hskip, hname⟩
      exact ⟨start, others, hcomma, hskip, hname⟩
    · rintro ⟨start, others, hcomma, hskip, hname⟩
      exact ⟨start, others, hcomma, hskip, hname⟩

theorem isText_startsAt {start : Bytes} (hinput : IsText input) (h : StartsAt fresh input start) : IsText start := by
  cases fresh with
  | true =>
    rw [StartsAt, if_pos rfl] at h
    exact h ▸ hinput
  | false => exact isText_behind_mark hinput h rfl

/-- What is read up to the closing brace are members that are spelled one after the other. -/
theorem exists_run_of_members (hmember : ∀ s name, (member s name).ReadsMember (Q s name)) (hinput : IsText input)
    {h : input.length ≤ bound} (hy : (members tracking member finish fresh state input h).Yields a rest) :
    ∃ ms es final, PartsFrom fresh 0x7D (membersSpelled ms) input rest ∧ Named ms es ∧ Run Q state es final ∧
      finish final = .ok a := by
  induction hn : input.length using Nat.strongRecOn generalizing input fresh state with
  | ind n ih =>
    rcases yields_members_iff.1 hy with ⟨hend, hfinish⟩ | ⟨name, middle, later, others, hkey, hvalue, _, htail⟩
    · exact ⟨[], [], state, yields_nextKey_none_iff.1 hend, .nil, .nil state, hfinish⟩
    · have hmiddle : IsText middle := (keepsText_nextKey _ hinput).isText hkey
      have hless : others.length < n := by
        have := hkey.shorter
        have := hvalue.shorter
        omega
      obtain ⟨start, behind, hstart, hskip, hname⟩ := yields_nextKey_some_iff.1 hkey
      have hbehind : IsText behind := isText_behind_mark (isText_startsAt hinput hstart) hskip rfl
      obtain ⟨ps, hps, hdenotes⟩ := exists_pieces_of_text hbehind hname
      obtain ⟨t, ht, hstep⟩ := (hmember state name).sound hmiddle hvalue
      obtain ⟨ms, es, final, hms, hes, hrun, hfinish⟩ :=
        ih others.length hless (((hmember state name).keeps _ hmiddle).isText hvalue) htail rfl
      refine ⟨(ps, t) :: ms, (name, t) :: es, final, ?_, .cons ⟨hdenotes, rfl⟩ hes, .cons hstep hrun, hfinish⟩
      refine ⟨start, others, hstart, ?_, hms⟩
      exact (beginsWith_member_iff (visible_spelled t)).2 ⟨behind, middle, hskip, hps, ht⟩

/-- Members that are spelled one after the other are read up to the closing brace. -/
theorem yields_members_of_run (hmember : ∀ s name, (member s name).ReadsMember (Q s name)) (hrun : Run Q state es final)
    (hes : Named ms es) (hinput : IsText input) (hms : PartsFrom fresh 0x7D (membersSpelled ms) input rest)
    (hfinish : finish final = .ok a) (h : input.length ≤ bound) :
    (members tracking member finish fresh state input h).Yields a rest := by
  induction hrun generalizing ms input fresh with
  | nil s =>
    cases hes
    exact yields_members_iff.2 (.inl ⟨yields_nextKey_none_iff.2 hms, hfinish⟩)
  | @cons s s' s'' name t es hstep _ ih =>
    cases hes with
    | @cons m _ ms _ hm hes =>
      obtain ⟨ps, _⟩ := m
      obtain ⟨hdenotes, rfl⟩ := hm
      obtain ⟨start, others, hstart, hbegins, hlater⟩ := hms
      obtain ⟨behind, middle, hskip, hps, ht⟩ := (beginsWith_member_iff (visible_spelled _)).1 hbegins
      have hkey : (nextKey fresh input).Yields (some name) middle :=
        yields_nextKey_some_iff.2 ⟨start, behind, hstart, hskip, yields_text_of_denotes hdenotes hps⟩
      have hmiddle : IsText middle := (keepsText_nextKey _ hinput).isText hkey
      have hvalue := (hmember s name).complete hmiddle ht hstep (stops_of_partsFrom (by decide) hlater)
      have hbound : others.length ≤ bound := by
        have := hkey.shorter
        have := hvalue.shorter
        omega
      have htail := ih hes (((hmember s name).keeps _ hmiddle).isText hvalue) hlater hfinish hbound
      exact yields_members_iff.2 (.inr ⟨name, middle, s', others, hkey, hvalue, hbound, htail⟩)

theorem run_nil_iff : Run Q state [] final ↔ final = state := by
  constructor
  · intro h
    cases h
    rfl
  · rintro rfl
    exact .nil _

theorem run_cons_iff {t : Tree} :
    Run Q state ((name, t) :: es) final ↔ ∃ next, Q state name t next ∧ Run Q next es final := by
  constructor
  · intro h
    cases h with
    | cons hstep hrun => exact ⟨_, hstep, hrun⟩
  · rintro ⟨next, hstep, hrun⟩
    exact .cons hstep hrun

/-- Putting one value after the other is putting all of them. -/
theorem run_put_iff :
    Run (fun s name t s' => ∃ v, P t v ∧ put s name v = s') state es final ↔
      ∃ vs, Entries P es vs ∧ final = gathered put state vs := by
  constructor
  · intro hrun
    induction hrun with
    | nil s => exact ⟨[], .nil, rfl⟩
    | cons hstep _ ih =>
      obtain ⟨v, hv, rfl⟩ := hstep
      obtain ⟨vs, hvs, rfl⟩ := ih
      exact ⟨(_, v) :: vs, .cons ⟨rfl, hv⟩ hvs, rfl⟩
  · rintro ⟨vs, hvs, rfl⟩
    induction hvs generalizing state with
    | nil => exact .nil state
    | @cons e v es vs hv _ ih =>
      obtain ⟨name, t⟩ := e
      obtain ⟨rfl, hv⟩ := hv
      exact .cons ⟨v.2, hv, rfl⟩ ih

/-- Members that have been read are spelled there, and their values are gathered. -/
theorem exists_entries (hitem : item.Reads P) (hinput : IsText input)
    (hy : (entries tracking put state item input).Yields final rest) :
    ∃ ms es vs, PartsFrom true 0x7D (membersSpelled ms) input rest ∧ Named ms es ∧ Entries P es vs ∧
      final = gathered put state vs := by
  rw [entries, yields_afterFirst_iff] at hy
  obtain ⟨ms, es, _, hms, hes, hrun, hfinish⟩ :=
    exists_run_of_members (fun s name => (hitem.memberValue tracking name).map (put s name)) hinput hy
  cases hfinish
  obtain ⟨vs, hvs, rfl⟩ := run_put_iff.1 hrun
  exact ⟨ms, es, vs, hms, hes, hvs, rfl⟩

/-- Members that are spelled there are read, and their values are gathered. -/
theorem yields_entries (hitem : item.Reads P) (hinput : IsText input) (hes : Named ms es) (hvs : Entries P es vs)
    (hms : PartsFrom true 0x7D (membersSpelled ms) input rest) :
    (entries tracking put state item input).Yields (gathered put state vs) rest := by
  rw [entries, yields_afterFirst_iff]
  exact yields_members_of_run (fun s name => (hitem.memberValue tracking name).map (put s name))
    (run_put_iff.2 ⟨vs, hvs, rfl⟩) hes hinput hms rfl _

end Objects

section Values

/-- The values of trees, with the values of what stands inside a list or an object if there may be any. An object means
the last member of each key, in ascending order of the keys. -/
inductive MeansOver (inner : Option (Tree → Value → Prop)) : Tree → Value → Prop
  | null : MeansOver inner .null .null
  | truth (b : Bool) : MeansOver inner (.truth b) (.truth b)
  | number {n : Numeral} {x : Number} (h : n.value = .ok x) : MeansOver inner (.number n) (.number x)
  | text {ps : List Piece} {s : String} (h : Denotes ps s.toList) : MeansOver inner (.text ps) (.text s)
  | array {P : Tree → Value → Prop} {ts : List Tree} {vs : List Value} (hP : inner = some P)
      (h : List.Forall₂ P ts vs) : MeansOver inner (.array ts) (.array vs)
  | object {P : Tree → Value → Prop} {ms : List (List Piece × Tree)} {es : List (String × Tree)}
      {vs : List (String × Value)} (hP : inner = some P) (hes : Named ms es) (h : Entries P es vs) :
      MeansOver inner (.object ms) (.object (gathered putMember [] vs))

/-- The values of trees in which at most `levels` lists and objects stand around each other. -/
def Tree.Means : (levels : Nat) → Tree → Value → Prop
  | 0 => MeansOver none
  | fewer + 1 => MeansOver (some (Tree.Means fewer))

variable {tracking : Tracking} {inner : Option (Reader Value)} {meanings : Option (Tree → Value → Prop)}
  {input rest : Bytes} {t : Tree} {v : Value}

/-- What is read as a value is spelled as a tree that means it. -/
theorem exists_tree_of_valueOver (hnone : inner = none ↔ meanings = none)
    (hinner : ∀ r P, inner = some r → meanings = some P → r.Reads P) (hinput : IsText input)
    (hy : (valueOver tracking inner input).Yields v rest) : ∃ t, Begins t input rest ∧ MeansOver meanings t v := by
  rw [valueOver, yields_afterBlanks_iff] at hy
  obtain ⟨first, others, hskip, hy⟩ := hy
  split at hy
  · next hfirst =>
    obtain ⟨rfl, rfl⟩ := yields_wordValue_iff.1 hy
    exact ⟨.null, begins_null_iff.2 (hfirst ▸ hskip), .null⟩
  split at hy
  · next hfirst =>
    obtain ⟨rfl, rfl⟩ := yields_wordValue_iff.1 hy
    exact ⟨.truth true, begins_true_iff.2 (hfirst ▸ hskip), .truth true⟩
  split at hy
  · next hfirst =>
    obtain ⟨rfl, rfl⟩ := yields_wordValue_iff.1 hy
    exact ⟨.truth false, begins_false_iff.2 (hfirst ▸ hskip), .truth false⟩
  split at hy
  · next hfirst =>
    rw [yields_afterFirst_iff, yields_map_iff] at hy
    obtain ⟨x, hx, rfl⟩ := hy
    obtain ⟨n, hn, hvalue⟩ := yields_number_iff.1 hx
    exact ⟨.number n, begins_of_yields_numeral hn (hfirst ▸ hskip), .number hvalue⟩
  split at hy
  · rw [yields_map_iff] at hy
    obtain ⟨x, hx, rfl⟩ := hy
    obtain ⟨n, hn, hvalue⟩ := yields_number_iff.1 hx
    exact ⟨.number n, begins_of_yields_numeral hn hskip, .number hvalue⟩
  split at hy
  · next hfirst =>
    subst hfirst
    rw [yields_afterFirst_iff, yields_map_iff] at hy
    obtain ⟨s, hs, rfl⟩ := hy
    obtain ⟨ps, hps, hdenotes⟩ := exists_pieces_of_text (isText_behind_mark hinput hskip rfl) hs
    exact ⟨.text ps, begins_text_iff.2 ⟨others, hskip, hps⟩, .text hdenotes⟩
  split at hy
  · next hfirst =>
    subst hfirst
    have hothers : IsText others := isText_behind_mark hinput hskip rfl
    split at hy
    · exact absurd hy not_yields_error
    next item =>
    obtain ⟨P, rfl⟩ : ∃ P, meanings = some P := Option.ne_none_iff_exists'.1 (fun h => by cases hnone.2 h)
    rw [yields_map_iff] at hy
    obtain ⟨vs, hvs, rfl⟩ := hy
    obtain ⟨ts, hts, hws⟩ := exists_trees_of_all_items (hinner item P rfl rfl) hothers hvs
    exact ⟨.array ts, begins_array_iff.2 ⟨others, hskip, hts⟩, .array rfl hws⟩
  split at hy
  · next hfirst =>
    subst hfirst
    have hothers : IsText others := isText_behind_mark hinput hskip rfl
    split at hy
    · exact absurd hy not_yields_error
    next item =>
    obtain ⟨P, rfl⟩ : ∃ P, meanings = some P := Option.ne_none_iff_exists'.1 (fun h => by cases hnone.2 h)
    rw [yields_map_iff] at hy
    obtain ⟨_, hentries, rfl⟩ := hy
    obtain ⟨ms, es, vs, hms, hes, hvs, rfl⟩ := exists_entries (hinner item P rfl rfl) hothers hentries
    exact ⟨.object ms, begins_object_iff.2 ⟨others, hskip, hms⟩, .object rfl hes hvs⟩
  · exact absurd hy not_yields_error

/-- What is spelled as a tree is read as the value that the tree means. -/
theorem yields_valueOver_of_tree (hnone : inner = none ↔ meanings = none)
    (hinner : ∀ r P, inner = some r → meanings = some P → r.Reads P) (hinput : IsText input) (ht : Begins t input rest)
    (hv : MeansOver meanings t v) (hrest : Stops rest) : (valueOver tracking inner input).Yields v rest := by
  rw [valueOver, yields_afterBlanks_iff]
  cases hv with
  | null => exact ⟨0x6E, _, begins_null_iff.1 ht, yields_wordValue_iff.2 ⟨rfl, rfl⟩⟩
  | truth b =>
    cases b with
    | true => exact ⟨0x74, _, begins_true_iff.1 ht, yields_wordValue_iff.2 ⟨rfl, rfl⟩⟩
    | false => exact ⟨0x66, _, begins_false_iff.1 ht, yields_wordValue_iff.2 ⟨rfl, rfl⟩⟩
  | @number n x hx =>
    obtain ⟨d, more, hd, hskip, hn⟩ := yields_numeral_of_begins ht hrest
    have hnumber := yields_number_iff.2 ⟨n, hn, hx⟩
    cases hnegative : n.negative with
    | true =>
      rw [hnegative] at hskip hnumber
      refine ⟨0x2D, _, hskip, ?_⟩
      rw [if_neg (by decide), if_neg (by decide), if_neg (by decide), if_pos rfl, yields_afterFirst_iff,
        yields_map_iff]
      exact ⟨x, hnumber, rfl⟩
    | false =>
      rw [hnegative] at hskip hnumber
      obtain ⟨hnull, htrue, hfalse, hminus, -⟩ := ne_of_isDigit hd
      refine ⟨d, more, hskip, ?_⟩
      rw [if_neg hnull, if_neg htrue, if_neg hfalse, if_neg hminus, if_pos hd, yields_map_iff]
      exact ⟨x, hnumber, rfl⟩
  | text hs =>
    obtain ⟨others, hskip, hps⟩ := begins_text_iff.1 ht
    refine ⟨quoteMark, others, hskip, ?_⟩
    exact yields_afterFirst_iff.2 (yields_map_iff.2 ⟨_, yields_text_of_denotes hs hps, rfl⟩)
  | @array P ts vs hP hvs =>
    obtain ⟨others, hskip, hts⟩ := begins_array_iff.1 ht
    obtain ⟨item, rfl⟩ : ∃ r, inner = some r := Option.ne_none_iff_exists'.1 (fun h => by cases hP.symm.trans (hnone.1 h))
    have hothers : IsText others := isText_behind_mark hinput hskip rfl
    refine ⟨0x5B, others, hskip, ?_⟩
    exact yields_map_iff.2 ⟨vs, yields_all_items (hinner item P rfl hP) hvs hothers hts, rfl⟩
  | @object P ms es vs hP hes hvs =>
    obtain ⟨others, hskip, hms⟩ := begins_object_iff.1 ht
    obtain ⟨item, rfl⟩ : ∃ r, inner = some r := Option.ne_none_iff_exists'.1 (fun h => by cases hP.symm.trans (hnone.1 h))
    have hothers : IsText others := isText_behind_mark hinput hskip rfl
    refine ⟨0x7B, others, hskip, ?_⟩
    exact yields_map_iff.2 ⟨_, yields_entries (hinner item P rfl hP) hothers hes hvs hms, rfl⟩

/-- A value of any shape is read if what stands inside lists and objects is. -/
theorem reads_valueOver (hnone : inner = none ↔ meanings = none)
    (hinner : ∀ r P, inner = some r → meanings = some P → r.Reads P) :
    (valueOver tracking inner).Reads (MeansOver meanings) where
  keeps := by
    refine keepsText_valueOver fun r hr => ?_
    cases hmeanings : meanings with
    | none => rw [hnone.2 hmeanings] at hr; cases hr
    | some P => exact (hinner r P hr hmeanings).keeps
  sound := exists_tree_of_valueOver hnone hinner
  complete := yields_valueOver_of_tree hnone hinner

/-- A value of any shape is read, up to the number of levels. -/
theorem reads_value (tracking : Tracking) (levels : Nat) : (value tracking levels).Reads (Tree.Means levels) := by
  induction levels with
  | zero =>
    refine reads_valueOver (by simp) fun r P hr => ?_
    cases hr
  | succ fewer ih =>
    refine reads_valueOver (by simp) fun r P hr hP => ?_
    cases hr
    cases hP
    exact ih

end Values

end Json

end ChatOpening
