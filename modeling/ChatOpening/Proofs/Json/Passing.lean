import ChatOpening.Proofs.Json.Numerals
import ChatOpening.Proofs.Json.Spelling
import ChatOpening.Proofs.Json.TextualValues

/-!
# What is passed over

Passing over takes exactly the values of the grammar, however deep they are nested.

**Input.**  Bytes of a text, and a stack of open lists and objects.

**Idea.**  A value and what closes the stack behind it are taken together: reading the head of the value turns this into
something that closes a larger stack, and settling turns it into the next value and what closes the stack behind that.
Each of the two holds in both directions, so `pass` is sound and complete by one induction on the number of bytes.

**Results.**
* `exists_begins_of_pass`: what is passed over is a value.
* `yields_pass_of_begins`: every value is passed over.
-/

namespace ChatOpening

namespace Json

open Text

namespace Enclosure

def opening : Enclosure → UInt8
  | list => 0x5B
  | object => 0x7B

/-- A part of a list is a value, and a part of an object is a member. -/
def IsPart : Enclosure → (Bytes → Prop) → Prop
  | list, P => ∃ t : Tree, P = t.Spelled
  | object, P => ∃ (key : List Piece) (t : Tree), P = MemberSpelled key t.Spelled

end Enclosure

section Parts

variable {e : Enclosure} {Ps : List (Bytes → Prop)} {P : Bytes → Prop} {input more middle rest : Bytes}

theorem visible_of_isPart (h : e.IsPart P) : Visible P := by
  cases e with
  | list =>
    obtain ⟨t, rfl⟩ := h
    exact visible_spelled t
  | object =>
    obtain ⟨key, t, rfl⟩ := h
    exact visible_memberSpelled key _

theorem isStop_closing (e : Enclosure) : isStop e.closing = true := by
  cases e <;> rfl

theorem exists_itemsSpelled (h : ∀ P ∈ Ps, Enclosure.list.IsPart P) : ∃ ts, Ps = itemsSpelled ts := by
  induction Ps with
  | nil => exact ⟨[], rfl⟩
  | cons P Ps ih =>
    obtain ⟨t, rfl⟩ := h P List.mem_cons_self
    obtain ⟨ts, rfl⟩ := ih fun Q hQ => h Q (List.mem_cons_of_mem _ hQ)
    exact ⟨t :: ts, rfl⟩

theorem exists_membersSpelled (h : ∀ P ∈ Ps, Enclosure.object.IsPart P) : ∃ ms, Ps = membersSpelled ms := by
  induction Ps with
  | nil => exact ⟨[], rfl⟩
  | cons P Ps ih =>
    obtain ⟨key, t, rfl⟩ := h P List.mem_cons_self
    obtain ⟨ms, rfl⟩ := ih fun Q hQ => h Q (List.mem_cons_of_mem _ hQ)
    exact ⟨(key, t) :: ms, rfl⟩

theorem exists_first_of_partsFrom {fresh : Bool} {closing : UInt8} (hPs : ∀ P ∈ Ps, e.IsPart P)
    (h : PartsFrom fresh closing Ps input rest) : ∃ first more, skipBlanks input = first :: more := by
  cases Ps with
  | nil => exact ⟨closing, rest, h⟩
  | cons P Ps =>
    obtain ⟨start, middle, hstart, hP, -⟩ := h
    cases fresh with
    | true =>
      obtain ⟨first, more, hfirst, -⟩ := (visible_of_isPart (hPs P List.mem_cons_self)).exists_first hP
      exact ⟨first, more, hstart ▸ hfirst⟩
    | false => exact ⟨comma, start, hstart⟩

/-- Parts between the two marks are a list or an object. -/
theorem exists_begins_of_parts (hskip : skipBlanks input = e.opening :: more) (hPs : ∀ P ∈ Ps, e.IsPart P)
    (hparts : PartsFrom true e.closing Ps more rest) : ∃ t, Begins t input rest := by
  cases e with
  | list =>
    obtain ⟨ts, rfl⟩ := exists_itemsSpelled hPs
    exact ⟨.array ts, begins_array_iff.2 ⟨more, hskip, hparts⟩⟩
  | object =>
    obtain ⟨ms, rfl⟩ := exists_membersSpelled hPs
    exact ⟨.object ms, begins_object_iff.2 ⟨more, hskip, hparts⟩⟩

theorem isPart_of_mem_itemsSpelled {ts : List Tree} : ∀ P ∈ itemsSpelled ts, Enclosure.list.IsPart P := by
  intro P hP
  rw [itemsSpelled_eq_map] at hP
  obtain ⟨t, -, rfl⟩ := List.mem_map.1 hP
  exact ⟨t, rfl⟩

theorem isPart_of_mem_membersSpelled {ms : List (List Piece × Tree)} :
    ∀ P ∈ membersSpelled ms, Enclosure.object.IsPart P := by
  intro P hP
  rw [membersSpelled_eq_map] at hP
  obtain ⟨m, -, rfl⟩ := List.mem_map.1 hP
  exact ⟨m.1, m.2, rfl⟩

/-- A key is passed over together with its colon. -/
theorem yields_passKey_iff (hinput : IsText input) :
    (passKey input).Yields () more ↔
      ∃ ps others middle, skipBlanks input = quoteMark :: others ∧ TextAt ps others middle ∧
        skipBlanks middle = 0x3A :: more := by
  simp only [passKey, Reader.andThen, yields_andThen_iff, yields_afterBlanks_iff]
  constructor
  · rintro ⟨_, middle, ⟨first, others, hskip, hkey⟩, hcolon⟩
    split at hkey
    · next hfirst =>
      subst hfirst
      have hothers : IsText others := by
        have htext := isText_skipBlanks hinput
        rw [hskip] at htext
        exact isText_of_cons (by decide) htext
      obtain ⟨ps, hps⟩ := exists_pieces_of_passText hothers (yields_afterFirst_iff.1 hkey)
      exact ⟨ps, others, middle, hskip, hps, yields_colon_iff.1 hcolon⟩
    · exact absurd hkey not_yields_error
  · rintro ⟨ps, others, middle, hskip, hps, hcolon⟩
    refine ⟨(), middle, ⟨quoteMark, others, hskip, ?_⟩, yields_colon_iff.2 hcolon⟩
    rw [if_pos rfl, yields_afterFirst_iff]
    exact yields_passText_of_textAt hps _

/-- A part of which the value is still to come. -/
theorem exists_part_of_passToPart (hinput : IsText input) (h : (passToPart e input).Yields () more) {t : Tree}
    (ht : Begins t more middle) : ∃ P, e.IsPart P ∧ BeginsWith P input middle := by
  cases e with
  | list =>
    obtain ⟨-, rfl⟩ := yields_ok_iff.1 h
    exact ⟨_, ⟨t, rfl⟩, ht⟩
  | object =>
    rw [passToPart, yields_afterFirst_iff, yields_passKey_iff hinput] at h
    obtain ⟨ps, others, behind, hskip, hps, hcolon⟩ := h
    refine ⟨_, ⟨ps, t, rfl⟩, ?_⟩
    exact (beginsWith_member_iff (visible_spelled t)).2 ⟨others, behind, hskip, hps, more, hcolon, ht⟩

theorem passToPart_of_part (hinput : IsText input) (hP : e.IsPart P) (h : BeginsWith P input middle) :
    ∃ t more, (passToPart e input).Yields () more ∧ Begins t more middle := by
  cases e with
  | list =>
    obtain ⟨t, rfl⟩ := hP
    exact ⟨t, input, yields_ok_iff.2 ⟨rfl, rfl⟩, h⟩
  | object =>
    obtain ⟨key, t, rfl⟩ := hP
    obtain ⟨others, behind, hskip, hps, more, hcolon, ht⟩ := (beginsWith_member_iff (visible_spelled t)).1 h
    refine ⟨t, more, ?_, ht⟩
    rw [passToPart, yields_afterFirst_iff, yields_passKey_iff hinput]
    exact ⟨key, others, behind, hskip, hps, hcolon⟩

end Parts

section Settling

variable {bound : Nat} {fresh : Bool} {stack inner : List Enclosure} {e : Enclosure} {input more rest : Bytes}

/-- Further parts and closing marks follow, until everything on the stack is closed. If the innermost list or object is
fresh, its first part is still to come. -/
def Closes : Bool → List Enclosure → Bytes → Bytes → Prop
  | _, [], input, rest => input = rest
  | fresh, e :: outer, input, rest =>
    ∃ Ps middle, (∀ P ∈ Ps, e.IsPart P) ∧ PartsFrom fresh e.closing Ps input middle ∧ Closes false outer middle rest

/-- Where lists and objects go on to be closed, no value goes on. -/
theorem stops_of_closes (h : Closes false stack input rest) (hrest : Stops rest) : Stops input := by
  cases stack with
  | nil =>
    rw [Closes] at h
    rw [h]
    exact hrest
  | cons e outer =>
    obtain ⟨Ps, middle, -, hlater, -⟩ := h
    exact stops_of_partsFrom (isStop_closing e) hlater

/-- What has been settled: everything is closed, or the next value stands in the stack that is left. -/
def Settled (next : Option (List Enclosure)) (more rest : Bytes) : Prop :=
  match next with
  | none => more = rest
  | some inner => ∃ t middle, Begins t more middle ∧ Closes false inner middle rest

theorem closes_nil_parts {outer : List Enclosure} (hskip : skipBlanks input = e.closing :: more)
    (h : Closes false outer more rest) : Closes fresh (e :: outer) input rest :=
  ⟨[], more, fun _ hP => absurd hP List.not_mem_nil, hskip, h⟩

/-- What has been settled had closed the stack. The induction is on the stack, of which every closing mark takes one. -/
theorem closes_of_yields_settle {next : Option (List Enclosure)} (hinput : IsText input) {h : input.length < bound}
    (hyields : (settle fresh stack input h).Yields next more) (hnext : Settled next more rest) :
    Closes fresh stack input rest := by
  induction stack generalizing fresh input with
  | nil =>
    obtain ⟨rfl, rfl⟩ := yields_ok_iff.1 hyields
    exact hnext
  | cons e outer ih =>
    have htext := isText_skipBlanks hinput
    rw [settle] at hyields
    split at hyields
    · exact absurd hyields not_yields_error
    next first behind hskip =>
    rw [hskip] at htext
    have hmark : ∀ mark, decide (mark < 0x80) = true → first = mark → IsText behind :=
      fun mark hmark hfirst => isText_behind hmark hfirst htext
    split at hyields
    · next hclosing =>
      have hbehind : IsText behind := hmark e.closing (by cases e <;> rfl) hclosing
      exact closes_nil_parts (hclosing ▸ hskip) (ih hbehind hyields)
    split at hyields
    · next hfresh =>
      rw [yields_widen_iff, yields_map_iff] at hyields
      obtain ⟨_, hpart, rfl⟩ := hyields
      obtain ⟨t, middle, ht, Ps, close, hPs, hlater, houter⟩ := hnext
      obtain ⟨P, hP, hbegins⟩ := exists_part_of_passToPart htext hpart ht
      rw [← hskip, beginsWith_skipBlanks_iff] at hbegins
      refine ⟨P :: Ps, close, List.forall_mem_cons.2 ⟨hP, hPs⟩, ?_, houter⟩
      rw [hfresh]
      exact ⟨input, middle, rfl, hbegins, hlater⟩
    next hfresh =>
    split at hyields
    · next hcomma =>
      rw [yields_widen_iff, yields_map_iff] at hyields
      obtain ⟨_, hpart, rfl⟩ := hyields
      obtain ⟨t, middle, ht, Ps, close, hPs, hlater, houter⟩ := hnext
      obtain ⟨P, hP, hbegins⟩ := exists_part_of_passToPart (hmark comma rfl hcomma) hpart ht
      refine ⟨P :: Ps, close, List.forall_mem_cons.2 ⟨hP, hPs⟩, ?_, houter⟩
      rw [hcomma] at hskip
      rw [Bool.eq_false_iff.2 hfresh]
      exact ⟨behind, middle, hskip, hbegins, hlater⟩
    · exact absurd hyields not_yields_error

/-- Whatever closes the stack is settled. -/
theorem yields_settle_of_closes (hinput : IsText input) (hcloses : Closes fresh stack input rest)
    (h : input.length < bound) :
    ∃ next more, (settle fresh stack input h).Yields next more ∧ Settled next more rest := by
  induction stack generalizing fresh input with
  | nil => exact ⟨none, input, yields_ok_iff.2 ⟨rfl, rfl⟩, hcloses⟩
  | cons e outer ih =>
    have htext := isText_skipBlanks hinput
    obtain ⟨Ps, close, hPs, hparts, houter⟩ := hcloses
    rw [settle]
    split
    · next hskip =>
      obtain ⟨first, more, hfirst⟩ := exists_first_of_partsFrom hPs hparts
      cases hskip.symm.trans hfirst
    next first behind hskip =>
    rw [hskip] at htext
    have hmark : ∀ mark, decide (mark < 0x80) = true → first = mark → IsText behind :=
      fun mark hmark hfirst => isText_behind hmark hfirst htext
    cases Ps with
    | nil =>
      obtain ⟨hfirst, rfl⟩ := List.cons.inj (hskip.symm.trans hparts)
      have hbehind : IsText behind := hmark e.closing (by cases e <;> rfl) hfirst
      rw [if_pos hfirst]
      exact ih hbehind houter _
    | cons P Ps =>
      have hP := hPs P List.mem_cons_self
      have hPs : ∀ Q ∈ Ps, e.IsPart Q := fun Q hQ => hPs Q (List.mem_cons_of_mem _ hQ)
      cases fresh with
      | true =>
        obtain ⟨_, middle, rfl, hbegins, hlater⟩ := hparts
        obtain ⟨start, more, hstart, hvisible⟩ := (visible_of_isPart hP).exists_first hbegins
        obtain ⟨rfl, rfl⟩ := List.cons.inj (hskip.symm.trans hstart)
        have hclosing : first ≠ e.closing := by
          rintro rfl
          rw [isStop_closing] at hvisible
          cases hvisible
        rw [← beginsWith_skipBlanks_iff, hskip] at hbegins
        obtain ⟨t, more, hpart, ht⟩ := passToPart_of_part htext hP hbegins
        rw [if_neg hclosing, if_pos rfl]
        refine ⟨some (e :: outer), more, ?_, t, middle, ht, Ps, close, hPs, hlater, houter⟩
        rw [yields_widen_iff, yields_map_iff]
        exact ⟨(), hpart, rfl⟩
      | false =>
        obtain ⟨more, middle, hcomma, hbegins, hlater⟩ := hparts
        obtain ⟨rfl, rfl⟩ := List.cons.inj (hskip.symm.trans hcomma)
        have hclosing : comma ≠ e.closing := by
          cases e <;> decide
        obtain ⟨t, more, hpart, ht⟩ := passToPart_of_part (hmark comma rfl rfl) hP hbegins
        rw [if_neg hclosing, if_neg (by decide), if_pos rfl]
        refine ⟨some (e :: outer), more, ?_, t, middle, ht, Ps, close, hPs, hlater, houter⟩
        rw [yields_widen_iff, yields_map_iff]
        exact ⟨(), hpart, rfl⟩

end Settling

section Heads

variable {stack : List Enclosure} {head : Option Enclosure} {input more middle rest : Bytes} {t : Tree}

/-- The head of a value, and what closes the stack with it, were a value and what closes the stack. -/
theorem exists_begins_of_passHead (hinput : IsText input) (h : (passHead input).Yields head more)
    (hcloses : Closes head.isSome (head.toList ++ stack) more rest) :
    ∃ t middle, Begins t input middle ∧ Closes false stack middle rest := by
  rw [passHead, yields_afterBlanks_iff] at h
  obtain ⟨first, others, hskip, h⟩ := h
  have htext := isText_skipBlanks hinput
  rw [hskip] at htext
  split at h
  · next hfirst =>
    obtain ⟨rfl, rfl⟩ := yields_wordValue_iff.1 h
    exact ⟨.null, more, begins_null_iff.2 (hfirst ▸ hskip), hcloses⟩
  split at h
  · next hfirst =>
    obtain ⟨rfl, rfl⟩ := yields_wordValue_iff.1 h
    exact ⟨.truth true, more, begins_true_iff.2 (hfirst ▸ hskip), hcloses⟩
  split at h
  · next hfirst =>
    obtain ⟨rfl, rfl⟩ := yields_wordValue_iff.1 h
    exact ⟨.truth false, more, begins_false_iff.2 (hfirst ▸ hskip), hcloses⟩
  split at h
  · next hfirst =>
    rw [yields_afterFirst_iff, yields_map_iff] at h
    obtain ⟨n, hn, rfl⟩ := h
    exact ⟨.number n, more, begins_of_yields_numeral hn (hfirst ▸ hskip), hcloses⟩
  split at h
  · rw [yields_map_iff] at h
    obtain ⟨n, hn, rfl⟩ := h
    exact ⟨.number n, more, begins_of_yields_numeral hn hskip, hcloses⟩
  split at h
  · next hfirst =>
    rw [yields_afterFirst_iff, yields_map_iff] at h
    obtain ⟨_, hpassed, rfl⟩ := h
    obtain ⟨ps, hps⟩ := exists_pieces_of_passText (isText_behind rfl hfirst htext) hpassed
    exact ⟨.text ps, more, begins_text_iff.2 ⟨others, hfirst ▸ hskip, hps⟩, hcloses⟩
  split at h
  · next hfirst =>
    obtain ⟨rfl, rfl⟩ := yields_ok_iff.1 h
    obtain ⟨Ps, close, hPs, hparts, houter⟩ := hcloses
    obtain ⟨t, ht⟩ := @exists_begins_of_parts .list _ _ _ _ (hfirst ▸ hskip) hPs hparts
    exact ⟨t, close, ht, houter⟩
  split at h
  · next hfirst =>
    obtain ⟨rfl, rfl⟩ := yields_ok_iff.1 h
    obtain ⟨Ps, close, hPs, hparts, houter⟩ := hcloses
    obtain ⟨t, ht⟩ := @exists_begins_of_parts .object _ _ _ _ (hfirst ▸ hskip) hPs hparts
    exact ⟨t, close, ht, houter⟩
  · exact absurd h not_yields_error

/-- The head of a value is passed over, and what is left of the value closes the stack with it. -/
theorem yields_passHead_of_begins (ht : Begins t input middle) (hcloses : Closes false stack middle rest)
    (hrest : Stops rest) :
    ∃ head more, (passHead input).Yields head more ∧ Closes head.isSome (head.toList ++ stack) more rest := by
  simp only [passHead, yields_afterBlanks_iff]
  cases t with
  | null => exact ⟨none, middle, ⟨0x6E, _, begins_null_iff.1 ht, yields_wordValue_iff.2 ⟨rfl, rfl⟩⟩, hcloses⟩
  | truth b =>
    cases b with
    | true => exact ⟨none, middle, ⟨0x74, _, begins_true_iff.1 ht, yields_wordValue_iff.2 ⟨rfl, rfl⟩⟩, hcloses⟩
    | false => exact ⟨none, middle, ⟨0x66, _, begins_false_iff.1 ht, yields_wordValue_iff.2 ⟨rfl, rfl⟩⟩, hcloses⟩
  | number n =>
    obtain ⟨d, more, hd, hskip, hn⟩ := yields_numeral_of_begins ht (stops_of_closes hcloses hrest)
    refine ⟨none, middle, ?_, hcloses⟩
    cases hnegative : n.negative with
    | true =>
      rw [hnegative] at hskip hn
      refine ⟨0x2D, _, hskip, ?_⟩
      rw [if_neg (by decide), if_neg (by decide), if_neg (by decide), if_pos rfl, yields_afterFirst_iff,
        yields_map_iff]
      exact ⟨n, hn, rfl⟩
    | false =>
      rw [hnegative] at hskip hn
      obtain ⟨hnull, htrue, hfalse, hminus, -⟩ := ne_of_isDigit hd
      refine ⟨d, more, hskip, ?_⟩
      rw [if_neg hnull, if_neg htrue, if_neg hfalse, if_neg hminus, if_pos hd, yields_map_iff]
      exact ⟨n, hn, rfl⟩
  | text ps =>
    obtain ⟨others, hskip, hps⟩ := begins_text_iff.1 ht
    refine ⟨none, middle, ⟨quoteMark, others, hskip, ?_⟩, hcloses⟩
    exact yields_afterFirst_iff.2 (yields_map_iff.2 ⟨(), yields_passText_of_textAt hps _, rfl⟩)
  | array ts =>
    obtain ⟨more, hskip, hparts⟩ := begins_array_iff.1 ht
    exact ⟨some .list, more, ⟨0x5B, more, hskip, yields_ok_iff.2 ⟨rfl, rfl⟩⟩, itemsSpelled ts, middle,
      isPart_of_mem_itemsSpelled, hparts, hcloses⟩
  | object ms =>
    obtain ⟨more, hskip, hparts⟩ := begins_object_iff.1 ht
    exact ⟨some .object, more, ⟨0x7B, more, hskip, yields_ok_iff.2 ⟨rfl, rfl⟩⟩, membersSpelled ms, middle,
      isPart_of_mem_membersSpelled, hparts, hcloses⟩

end Heads

section Passing

variable {bound : Nat} {stack : List Enclosure} {input middle rest : Bytes} {t : Tree}

/-- What has been passed over is a value, and behind it all is closed. -/
theorem exists_begins_of_passWithin (hinput : IsText input) {h : input.length ≤ bound}
    (hyields : (passWithin stack input h).Yields () rest) :
    ∃ t middle, Begins t input middle ∧ Closes false stack middle rest := by
  induction hn : input.length using Nat.strongRecOn generalizing input stack with
  | ind n ih =>
    have hhead := keepsText_passHead input hinput
    rw [passWithin] at hyields
    cases hx : passHead input with
    | error fault =>
      rw [hx] at hyields
      exact absurd hyields not_yields_error
    | ok head =>
      rw [hx] at hyields hhead
      simp only at hyields
      have hsettle := keepsText_settle head.value.isSome (head.value.toList ++ stack) hhead head.shorter
      refine exists_begins_of_passHead hinput (hx ▸ yields_ok_iff.2 ⟨rfl, rfl⟩) ?_
      generalize hy : settle head.value.isSome (head.value.toList ++ stack) head.rest head.shorter = y at hsettle hyields
      cases y with
      | error fault => exact absurd hyields not_yields_error
      | ok p =>
        refine closes_of_yields_settle hhead (hy ▸ yields_ok_iff.2 ⟨rfl, rfl⟩) ?_
        simp only at hyields
        split at hyields
        · next hnone =>
          obtain ⟨-, hrest⟩ := yields_ok_iff.1 hyields
          rw [hnone]
          exact hrest
        · next inner hinner =>
          have hless : p.rest.length < n := hn ▸ p.shorter
          rw [hinner]
          exact ih p.rest.length hless hsettle hyields rfl

/-- Every value is passed over if all is closed behind it. -/
theorem yields_passWithin_of_begins (hinput : IsText input) (ht : Begins t input middle)
    (hcloses : Closes false stack middle rest) (hrest : Stops rest) (h : input.length ≤ bound) :
    (passWithin stack input h).Yields () rest := by
  induction hn : input.length using Nat.strongRecOn generalizing input stack t middle with
  | ind n ih =>
    obtain ⟨head, more, ⟨hshorter, hhead⟩, hmore⟩ := yields_passHead_of_begins ht hcloses hrest
    have htext : IsText more := by
      have hkeeps := keepsText_passHead input hinput
      rw [hhead] at hkeeps
      exact hkeeps
    obtain ⟨next, behind, ⟨hless, hsettle⟩, hsettled⟩ := yields_settle_of_closes htext hmore hshorter
    have hbehind : IsText behind := by
      have hkeeps := keepsText_settle head.isSome (head.toList ++ stack) htext hshorter
      rw [hsettle] at hkeeps
      exact hkeeps
    rw [passWithin]
    simp only [hhead, hsettle]
    cases next with
    | none => exact yields_ok_iff.2 ⟨rfl, hsettled⟩
    | some inner =>
      obtain ⟨u, close, hu, hinner⟩ := hsettled
      exact ih behind.length (hn ▸ hless) hbehind hu hinner _ rfl

/-- What is passed over is a value. -/
theorem exists_begins_of_pass (hinput : IsText input) (h : (pass input).Yields () rest) : ∃ t, Begins t input rest := by
  obtain ⟨t, middle, ht, hmiddle⟩ := exists_begins_of_passWithin hinput h
  rw [Closes] at hmiddle
  exact ⟨t, hmiddle ▸ ht⟩

/-- Every value is passed over. -/
theorem yields_pass_of_begins (hinput : IsText input) (ht : Begins t input rest) (hrest : Stops rest) :
    (pass input).Yields () rest := by
  have hcloses : Closes false [] rest rest := by
    rw [Closes]
  exact yields_passWithin_of_begins hinput ht hcloses hrest _

end Passing

end Json

end ChatOpening
