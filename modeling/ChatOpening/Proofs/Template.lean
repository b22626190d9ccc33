import ChatOpening.Opening.Templates
import ChatOpening.Proofs.Text.Cut
import Mathlib.Data.List.Basic

/-!
# Places in a template

Filling goes through a template with its eyes on the next opening brace.  Here the same is said without an order: a name
stands between braces at some positions of the template, and all these places are filled at once.

**Input.**  Named values whose names have no braces, and any template: it may have braces that are not closed, braces in
braces, and names that have no value.

**Results.**
* `OccursAt.same_or_apart`: the places of a template do not overlap.
* `parts_append`: a template can be cut wherever it does not cut a place.
* `fillFrom_eq`: the filled template is what its parts stand for, one behind the other.
* `fill_substitutes_occurrences`: which parts a template has, and that the values have no part in this.
* `fill_append`: a template that is cut where it cuts no place is filled piece by piece.
-/

namespace ChatOpening

namespace Template

/-- A name without braces. -/
def IsPlainName (name : String) : Prop :=
  '\x7b' ∉ name.toList ∧ '\x7d' ∉ name.toList

/-- A name between braces. -/
def braced (name : String) : List Char :=
  '\x7b' :: (name.toList ++ ['\x7d'])

/-- One of the names stands between braces at a position of a template. -/
def OccursAt (names : List String) (template : List Char) (i : Nat) (name : String) : Prop :=
  name ∈ names ∧ braced name <+: template.drop i

/-- The name that stands between braces at a position of a template. -/
def nameAt? (names : List String) (template : List Char) (i : Nat) : Option String :=
  names.find? fun name => (braced name).isPrefixOf (template.drop i)

/-- A position lies behind the opening brace of a place, and not behind the place. -/
def isInside (names : List String) (template : List Char) (i : Nat) : Bool :=
  (List.range i).any fun j => (nameAt? names template j).any fun name => i < j + (braced name).length

/-- A part of a template. -/
inductive Part where
  | place (name : String)
  | character (c : Char)
  deriving DecidableEq, Repr

namespace Part

/-- What stands in the template. -/
def source : Part → List Char
  | place name => braced name
  | character c => [c]

/-- What stands in the filled template. -/
def text (values : Values) : Part → List Char
  | place name => ((values.lookup name).getD "").toList
  | character c => [c]

end Part

/-- The part that begins at a position of a template; none begins inside a place. -/
def partAt? (names : List String) (template : List Char) (i : Nat) : Option Part :=
  match nameAt? names template i with
  | some name => some (.place name)
  | none => if isInside names template i then none else template[i]?.map .character

/-- The parts of a template from its beginning to its end. -/
def parts (names : List String) (template : List Char) : List Part :=
  (List.range template.length).filterMap (partAt? names template)

section Occurrences

variable {names : List String} {p s t : List Char} {i j k : Nat} {name other : String}

@[simp] theorem length_braced (name : String) : (braced name).length = name.toList.length + 2 := by
  simp [braced]

/-- The name that is found at a position occurs there. -/
theorem occursAt_of_nameAt? (h : nameAt? names t i = some name) : OccursAt names t i name := by
  have hprefix : (braced name).isPrefixOf (t.drop i) = true :=
    List.find?_some (p := fun name => (braced name).isPrefixOf (t.drop i)) h
  exact ⟨List.mem_of_find?_eq_some h, List.isPrefixOf_iff_prefix.1 hprefix⟩

/-- No name is found exactly where none occurs. -/
theorem nameAt?_eq_none_iff : nameAt? names t i = none ↔ ∀ name, ¬ OccursAt names t i name := by
  simp only [nameAt?, List.find?_eq_none, List.isPrefixOf_iff_prefix, OccursAt, not_and]

/-- An occurrence does not reach beyond the end of its template. -/
theorem OccursAt.end_le (h : OccursAt names t i name) : i + (braced name).length ≤ t.length := by
  have hlength := h.2.length_le
  rw [List.length_drop, length_braced] at hlength
  rw [length_braced]
  omega

/-- The characters of an occurrence are those of the name between braces. -/
theorem OccursAt.getElem?_eq (h : OccursAt names t i name) (hk : k < (braced name).length) :
    t[i + k]? = (braced name)[k]? := by
  obtain ⟨rest, hrest⟩ := h.2
  rw [← List.getElem?_drop, ← hrest, List.getElem?_append_left hk]

theorem OccursAt.getElem?_start (h : OccursAt names t i name) : t[i]? = some '\x7b' :=
  h.getElem?_eq (k := 0) (by simp)

/-- Of the characters of a plain name between braces only the first one is an opening brace. -/
theorem getElem?_braced_ne (hname : IsPlainName name) (hk : 0 < k) : (braced name)[k]? ≠ some '\x7b' := by
  obtain ⟨n, rfl⟩ := Nat.exists_eq_succ_of_ne_zero (Nat.ne_of_gt hk)
  intro h
  have hmem : '\x7b' ∈ name.toList ++ ['\x7d'] := List.mem_of_getElem? h
  rw [List.mem_append, List.mem_singleton] at hmem
  rcases hmem with hmem | hmem
  · exact hname.1 hmem
  · exact absurd hmem (by decide)

/-- What follows the opening brace determines a plain name. -/
theorem braced_prefix_unique (hname : IsPlainName name) (hother : IsPlainName other) (h : braced name <+: t)
    (hsecond : braced other <+: t) : name = other := by
  have htake : ∀ {n : String}, IsPlainName n → braced n <+: t → t.tail.takeWhile (· ≠ '\x7d') = n.toList := by
    rintro n hn ⟨rest, rfl⟩
    have hall : ∀ c ∈ n.toList, decide (c ≠ '\x7d') = true := by
      intro c hc
      rw [decide_eq_true_eq]
      rintro rfl
      exact hn.2 hc
    have hrest : (braced n ++ rest).tail = n.toList ++ '\x7d' :: rest := by
      simp [braced]
    rw [hrest, List.takeWhile_append_of_pos hall]
    simp
  exact String.toList_injective ((htake hname h).symm.trans (htake hother hsecond))

/-- Two occurrences of plain names are the same, or one ends before the other begins. -/
theorem OccursAt.same_or_apart (hplain : ∀ name ∈ names, IsPlainName name) (h : OccursAt names t i name)
    (hother : OccursAt names t j other) :
    (i = j ∧ name = other) ∨ i + (braced name).length ≤ j ∨ j + (braced other).length ≤ i := by
  have hapart : ∀ {a b : Nat} {m n : String}, OccursAt names t a m → OccursAt names t b n → a < b →
      a + (braced m).length ≤ b := by
    intro a b m n hm hn hlt
    by_contra hoverlap
    obtain ⟨k, rfl⟩ := Nat.exists_eq_add_of_lt hlt
    have hinside : k + 1 < (braced m).length := by omega
    have hopening := hn.getElem?_start
    rw [Nat.add_assoc, hm.getElem?_eq hinside] at hopening
    exact getElem?_braced_ne (hplain m hm.1) (Nat.succ_pos k) hopening
  rcases Nat.lt_trichotomy i j with hlt | rfl | hgt
  · exact .inr (.inl (hapart h hother hlt))
  · exact .inl ⟨rfl, braced_prefix_unique (hplain name h.1) (hplain other hother.1) h.2 hother.2⟩
  · exact .inr (.inr (hapart hother h hgt))

/-- Only one plain name occurs at a position, so it is the one that is found. -/
theorem nameAt?_eq_some_iff (hplain : ∀ name ∈ names, IsPlainName name) :
    nameAt? names t i = some name ↔ OccursAt names t i name := by
  refine ⟨occursAt_of_nameAt?, fun h => ?_⟩
  cases hfound : nameAt? names t i with
  | none => exact absurd h (nameAt?_eq_none_iff.1 hfound name)
  | some other =>
    have hsame := braced_prefix_unique (hplain other (occursAt_of_nameAt? hfound).1) (hplain name h.1)
      (occursAt_of_nameAt? hfound).2 h.2
    rw [hsame]

/-- A position is inside if it is one of those of an earlier occurrence. -/
theorem isInside_eq_true_iff :
    isInside names t i = true ↔ ∃ j name, nameAt? names t j = some name ∧ j < i ∧ i < j + (braced name).length := by
  simp only [isInside, List.any_eq_true, List.mem_range, Option.any_eq_true, decide_eq_true_eq]
  constructor
  · rintro ⟨j, hlt, name, hname, hend⟩
    exact ⟨j, name, hname, hlt, hend⟩
  · rintro ⟨j, name, hname, hlt, hend⟩
    exact ⟨j, hlt, name, hname, hend⟩

end Occurrences

section Append

variable {names : List String} {p s t : List Char} {i j k : Nat} {name other : String}

/-- No occurrence in two texts, one behind the other, begins in the first and ends in the second. -/
def NoneAcross (names : List String) (p s : List Char) : Prop :=
  ∀ i name, OccursAt names (p ++ s) i name → i < p.length → i + (braced name).length ≤ p.length

/-- Behind a part of a template the same names are found as without it. -/
theorem nameAt?_append_right (k : Nat) : nameAt? names (p ++ s) (p.length + k) = nameAt? names s k := by
  simp only [nameAt?, List.drop_append, List.drop_of_length_le (Nat.le_add_right p.length k), List.nil_append,
    Nat.add_sub_cancel_left]

theorem nameAt?_append_left (h : NoneAcross names p s) (hi : i < p.length) :
    nameAt? names (p ++ s) i = nameAt? names p i := by
  have hdrop : (p ++ s).drop i = p.drop i ++ s := List.drop_append_of_le_length (Nat.le_of_lt hi)
  have hsame : ∀ name ∈ names, (braced name).isPrefixOf ((p ++ s).drop i) = (braced name).isPrefixOf (p.drop i) := by
    intro name hname
    rw [Bool.eq_iff_iff, List.isPrefixOf_iff_prefix, List.isPrefixOf_iff_prefix]
    constructor
    · intro hprefix
      have hend := h i name ⟨hname, hprefix⟩ hi
      rw [hdrop] at hprefix
      refine List.prefix_of_prefix_length_le hprefix (List.prefix_append _ _) ?_
      rw [List.length_drop]
      omega
    · intro hprefix
      rw [hdrop]
      exact hprefix.trans (List.prefix_append _ _)
  rw [nameAt?, nameAt?, ← List.head?_filter, ← List.head?_filter, List.filter_congr hsame]

/-- A position behind a cut that no occurrence goes across is inside exactly if it is so without the first part. -/
theorem isInside_append_right (h : NoneAcross names p s) (k : Nat) :
    isInside names (p ++ s) (p.length + k) = isInside names s k := by
  rw [Bool.eq_iff_iff, isInside_eq_true_iff, isInside_eq_true_iff]
  constructor
  · rintro ⟨j, name, hname, hlt, hend⟩
    rcases Nat.lt_or_ge j p.length with hj | hj
    · have := h j name (occursAt_of_nameAt? hname) hj
      omega
    · obtain ⟨j, rfl⟩ := Nat.exists_eq_add_of_le hj
      rw [nameAt?_append_right] at hname
      exact ⟨j, name, hname, by omega, by omega⟩
  · rintro ⟨j, name, hname, hlt, hend⟩
    exact ⟨p.length + j, name, (nameAt?_append_right j).trans hname, by omega, by omega⟩

theorem isInside_append_left (h : NoneAcross names p s) (hi : i < p.length) :
    isInside names (p ++ s) i = isInside names p i := by
  rw [Bool.eq_iff_iff, isInside_eq_true_iff, isInside_eq_true_iff]
  constructor
  · rintro ⟨j, name, hname, hlt, hend⟩
    exact ⟨j, name, nameAt?_append_left h (Nat.lt_trans hlt hi) ▸ hname, hlt, hend⟩
  · rintro ⟨j, name, hname, hlt, hend⟩
    exact ⟨j, name, (nameAt?_append_left h (Nat.lt_trans hlt hi)).trans hname, hlt, hend⟩

/-- The parts of two texts, one behind the other, are those of the first and then those of the second. -/
theorem parts_append (h : NoneAcross names p s) : parts names (p ++ s) = parts names p ++ parts names s := by
  have hleft : ∀ i ∈ List.range p.length, partAt? names (p ++ s) i = partAt? names p i := by
    intro i hi
    have hi := List.mem_range.1 hi
    simp only [partAt?, nameAt?_append_left h hi, isInside_append_left h hi, List.getElem?_append_left hi]
  have hright : ∀ k, partAt? names (p ++ s) (p.length + k) = partAt? names s k := by
    intro k
    simp only [partAt?, nameAt?_append_right, isInside_append_right h, List.getElem?_append_right (Nat.le_add_right _ k),
      Nat.add_sub_cancel_left]
  rw [parts, List.length_append, List.range_add, List.filterMap_append, List.filterMap_congr hleft,
    List.filterMap_map, parts, parts]
  congr 1
  exact List.filterMap_congr fun k _ => hright k

end Append

section Single

variable {names : List String} {t : List Char} {c : Char} {name : String}

/-- A single character is its only part: an occurrence has at least two. -/
theorem parts_singleton (c : Char) : parts names [c] = [.character c] := by
  have hnone : nameAt? names [c] 0 = none := by
    refine nameAt?_eq_none_iff.2 fun name h => ?_
    have hend := h.end_le
    simp at hend
  have hinside : isInside names [c] 0 = false := rfl
  simp [parts, partAt?, hnone, hinside]

/-- Where no occurrence starts with the first character, none goes across its end. -/
theorem noneAcross_singleton (h : ∀ name, ¬ OccursAt names (c :: t) 0 name) : NoneAcross names [c] t := by
  intro i name hoccurs hi
  rw [List.length_singleton, Nat.lt_one_iff] at hi
  exact absurd (hi ▸ hoccurs) (h name)

/-- A name between braces is one part. -/
theorem parts_braced (hplain : ∀ name ∈ names, IsPlainName name) (hname : name ∈ names) :
    parts names (braced name) = [.place name] := by
  have hoccurs : OccursAt names (braced name) 0 name := ⟨hname, List.prefix_rfl⟩
  have hfirst : nameAt? names (braced name) 0 = some name := (nameAt?_eq_some_iff hplain).2 hoccurs
  have hlater : ∀ k ∈ List.range (name.toList.length + 1), partAt? names (braced name) (1 + k) = none := by
    intro k hk
    have hk := List.mem_range.1 hk
    have hnone : nameAt? names (braced name) (1 + k) = none := by
      refine nameAt?_eq_none_iff.2 fun other hother => ?_
      exact getElem?_braced_ne (hplain name hname) (by omega) hother.getElem?_start
    have hinside : isInside names (braced name) (1 + k) = true :=
      isInside_eq_true_iff.2 ⟨0, name, hfirst, by omega, by rw [length_braced]; omega⟩
    simp [partAt?, hnone, hinside]
  have hlength : (braced name).length = 1 + (name.toList.length + 1) := by
    rw [length_braced]
    omega
  rw [parts, hlength, List.range_add, List.filterMap_append, List.filterMap_map]
  have hrest : (List.range (name.toList.length + 1)).filterMap (partAt? names (braced name) ∘ (1 + ·)) = [] :=
    List.filterMap_eq_nil_iff.2 hlater
  rw [hrest]
  simp [partAt?, hfirst]

/-- No occurrence goes across the end of another one. -/
theorem noneAcross_braced (hplain : ∀ name ∈ names, IsPlainName name) (hname : name ∈ names) :
    NoneAcross names (braced name) t := by
  intro i other hother hi
  have hoccurs : OccursAt names (braced name ++ t) 0 name := ⟨hname, List.prefix_append _ _⟩
  rcases hoccurs.same_or_apart hplain hother with ⟨rfl, rfl⟩ | hafter | hbefore
  · omega
  · omega
  · rw [length_braced] at hbefore
    omega

end Single

section Fill

variable {values : Values} {rest after : List Char} {value name : String}

/-- The value that takes a place is that of the name between the braces. -/
theorem exists_name_of_place? (h : place? values rest = some (value, after)) :
    ∃ name, values.lookup name = some value ∧ '\x7b' :: rest = braced name ++ after := by
  simp only [place?] at h
  split at h
  · cases h
  · next c others hdrop =>
    split at h
    · cases h
    · next found hlookup =>
      simp only [Option.some.injEq, Prod.mk.injEq] at h
      obtain ⟨rfl, rfl⟩ := h
      refine ⟨_, hlookup, ?_⟩
      have hclosing : c = '\x7d' := by
        have hhead := List.head?_dropWhile_not (!isClosing ·) rest
        rw [hdrop] at hhead
        simpa [isClosing] using hhead
      have hsplit := List.takeWhile_append_dropWhile (p := (!isClosing ·)) (l := rest)
      rw [hdrop, hclosing] at hsplit
      simp [braced, hsplit]

theorem mem_names_of_lookup (h : values.lookup name = some value) : name ∈ values.map Prod.fst := by
  obtain ⟨before, later, rfl, -⟩ := List.lookup_eq_some_iff.1 h
  simp

theorem exists_lookup_of_mem (h : name ∈ values.map Prod.fst) : ∃ value, values.lookup name = some value := by
  rw [← Option.ne_none_iff_exists']
  intro hnone
  obtain ⟨v, hv, rfl⟩ := List.mem_map.1 h
  have hdiffers := List.lookup_eq_none_iff.1 hnone v hv
  simp at hdiffers

/-- A name that stands between braces has a value that takes the place. -/
theorem place?_braced {others : List Char} (hname : IsPlainName name) :
    place? values (name.toList ++ '\x7d' :: others) = (values.lookup name).map fun value => (value, others) := by
  have hall : ∀ c ∈ name.toList, (!isClosing c) = true := by
    intro c hc
    simp only [isClosing, Bool.not_eq_true', decide_eq_false_iff_not]
    rintro rfl
    exact hname.2 hc
  have hstop : ∀ c ∈ ('\x7d' :: others).head?, (!isClosing c) = false := by
    rintro c ⟨⟩
    decide
  have hdrop := dropWhile_append_of_stop hall hstop
  have htake := takeWhile_append_of_stop hall hstop
  simp only [place?, hdrop, htake, String.ofList_toList]
  cases values.lookup name <;> rfl

/-- Where no place is found none occurs. -/
theorem not_occursAt_of_place? (hplain : ∀ name ∈ values.map Prod.fst, IsPlainName name) (h : place? values rest = none)
    (name : String) : ¬ OccursAt (values.map Prod.fst) ('\x7b' :: rest) 0 name := by
  rintro ⟨hname, others, hrest⟩
  obtain ⟨value, hvalue⟩ := exists_lookup_of_mem hname
  have hsplit : rest = name.toList ++ '\x7d' :: others := by
    simpa [braced] using hrest.symm
  rw [hsplit, place?_braced (hplain name hname), hvalue] at h
  cases h

theorem not_occursAt_of_ne {c : Char} {names : List String} (hc : c ≠ '\x7b') (name : String) :
    ¬ OccursAt names (c :: rest) 0 name := by
  intro h
  have hstart := h.getElem?_start
  exact hc (Option.some.inj hstart)

/-- A character that begins no place is a part by itself. -/
theorem parts_cons {c : Char} {names : List String} (h : ∀ name, ¬ OccursAt names (c :: rest) 0 name) :
    parts names (c :: rest) = .character c :: parts names rest := by
  rw [← List.singleton_append, parts_append (noneAcross_singleton h), parts_singleton]
  rfl

/-- Filling goes from part to part. -/
theorem fillFrom_eq (hplain : ∀ name ∈ values.map Prod.fst, IsPlainName name) (done template : List Char) :
    fillFrom values done template =
      done.reverse ++ (parts (values.map Prod.fst) template).flatMap (Part.text values) := by
  fun_induction fillFrom values done template with
  | case1 done => simp [parts]
  | case2 done rest value after hplace ih =>
    obtain ⟨name, hvalue, hsplit⟩ := exists_name_of_place? hplace
    have hname := mem_names_of_lookup hvalue
    rw [ih, hsplit, parts_append (noneAcross_braced hplain hname), parts_braced hplain hname]
    simp [Part.text, hvalue]
  | case3 done rest hplace ih =>
    rw [ih, parts_cons (not_occursAt_of_place? hplain hplace)]
    simp [Part.text]
  | case4 done c rest hc ih =>
    rw [ih, parts_cons (not_occursAt_of_ne hc)]
    simp [Part.text]

end Fill

section Sources

variable {names : List String}

/-- A template is empty, or it begins with a character that begins no place, or with a place. -/
theorem template_cases (names : List String) (t : List Char) :
    t = [] ∨ (∃ c rest, t = c :: rest ∧ ∀ name, ¬ OccursAt names t 0 name) ∨
      ∃ name rest, name ∈ names ∧ t = braced name ++ rest := by
  cases t with
  | nil => exact .inl rfl
  | cons c rest =>
    by_cases h : ∃ name, OccursAt names (c :: rest) 0 name
    · obtain ⟨name, hname, others, hsplit⟩ := h
      exact .inr (.inr ⟨name, others, hname, hsplit.symm⟩)
    · exact .inr (.inl ⟨c, rest, rfl, fun name hname => h ⟨name, hname⟩⟩)

/-- What holds of the empty template and is kept by a character in front that begins no place, and by a place in front,
holds of every template. -/
theorem template_induction (names : List String) {P : List Char → Prop} (nil : P [])
    (character : ∀ c rest, (∀ name, ¬ OccursAt names (c :: rest) 0 name) → P rest → P (c :: rest))
    (place : ∀ name rest, name ∈ names → P rest → P (braced name ++ rest)) (t : List Char) : P t := by
  rcases template_cases names t with h | ⟨c, rest, h, hnone⟩ | ⟨name, rest, hname, h⟩
  · rw [h]
    exact nil
  · have hshorter : rest.length < t.length := by simp [h]
    rw [h] at hnone ⊢
    exact character c rest hnone (template_induction names nil character place rest)
  · have hshorter : rest.length < t.length := by simp [h]
    rw [h]
    exact place name rest hname (template_induction names nil character place rest)
termination_by t.length

/-- The parts hold each character of the template once and in order. -/
theorem flatMap_source_parts (hplain : ∀ name ∈ names, IsPlainName name) (t : List Char) :
    (parts names t).flatMap Part.source = t := by
  induction t using template_induction names with
  | nil => rfl
  | character c rest hnone ih =>
    rw [parts_cons hnone, List.flatMap_cons, ih]
    rfl
  | place name rest hname ih =>
    rw [parts_append (noneAcross_braced hplain hname), parts_braced hplain hname, List.flatMap_append, ih]
    simp [Part.source]

variable {t : List Char} {i : Nat} {name : String} {c : Char}

/-- Places are the occurrences of the names. -/
theorem partAt?_eq_place_iff (hplain : ∀ name ∈ names, IsPlainName name) :
    partAt? names t i = some (.place name) ↔ OccursAt names t i name := by
  rw [← nameAt?_eq_some_iff hplain, partAt?]
  cases nameAt? names t i with
  | some other => simp
  | none =>
    cases isInside names t i with
    | true => simp
    | false => simp

/-- Characters that no occurrence holds are parts by themselves. -/
theorem partAt?_eq_character_iff (hplain : ∀ name ∈ names, IsPlainName name) :
    partAt? names t i = some (.character c) ↔
      t[i]? = some c ∧ ∀ j name, OccursAt names t j name → i < j ∨ j + (braced name).length ≤ i := by
  rw [partAt?]
  cases hname : nameAt? names t i with
  | some other =>
    have hoccurs := occursAt_of_nameAt? hname
    simp only [reduceCtorEq, Option.some.injEq, false_iff, not_and, not_forall]
    intro _
    refine ⟨i, other, hoccurs, ?_⟩
    rw [length_braced]
    omega
  | none =>
    cases hinside : isInside names t i with
    | true =>
      obtain ⟨j, name, hj, hlt, hend⟩ := isInside_eq_true_iff.1 hinside
      simp only [if_true, reduceCtorEq, false_iff, not_and, not_forall]
      intro _
      exact ⟨j, name, occursAt_of_nameAt? hj, by omega⟩
    | false =>
      have houtside : ∀ j name, OccursAt names t j name → i < j ∨ j + (braced name).length ≤ i := by
        intro j name hj
        have hnot : ¬ isInside names t i = true := by simp [hinside]
        rcases Nat.lt_trichotomy i j with hlt | rfl | hgt
        · exact .inl hlt
        · exact absurd hj (nameAt?_eq_none_iff.1 hname name)
        · refine .inr (Nat.le_of_not_lt fun hend => hnot ?_)
          exact isInside_eq_true_iff.2 ⟨j, name, (nameAt?_eq_some_iff hplain).2 hj, hgt, hend⟩
      rw [and_iff_left houtside]
      simp

end Sources

section Substitution

open IntroTemplates (welcomeValues briefingValues)

/-- The first value of a name is the one that counts. -/
theorem text_place_of_first {before later : Values} {name value : String} (h : name ∉ before.map Prod.fst) :
    Part.text (before ++ (name, value) :: later) (.place name) = value.toList := by
  have hlookup : (before ++ (name, value) :: later).lookup name = some value := by
    refine List.lookup_eq_some_iff.2 ⟨before, later, rfl, fun v hv => ?_⟩
    simp only [bne_iff_ne, ne_eq]
    rintro rfl
    exact h (List.mem_map_of_mem hv)
  simp [Part.text, hlookup]

/-- The names in a welcome have no braces. -/
theorem isPlainName_welcomeValues (userName simulationName : String) (topics : List String) :
    ∀ v ∈ welcomeValues userName simulationName topics, IsPlainName v.1 := by
  simp only [welcomeValues, List.forall_mem_cons, IsPlainName]
  decide

/-- The name in a briefing has no braces. -/
theorem isPlainName_briefingValues (description : String) : ∀ v ∈ briefingValues description, IsPlainName v.1 := by
  simp only [briefingValues, List.forall_mem_cons, IsPlainName]
  decide

/-- The names of the values stand between braces at some positions of a template; these places do not overlap.  They are
parts of the template, and so is each character that none of them holds; the parts are the whole template, in order.
Filled with any values of these names, the template is the same parts, but with the first value of its name for each
place. -/
theorem fill_substitutes_occurrences (values : Values) (template : String) (hplain : ∀ v ∈ values, IsPlainName v.1) :
    (∀ i j name other, OccursAt (values.map Prod.fst) template.toList i name →
      OccursAt (values.map Prod.fst) template.toList j other →
        (i = j ∧ name = other) ∨ i + (braced name).length ≤ j ∨ j + (braced other).length ≤ i)
      ∧
    (∀ i name, partAt? (values.map Prod.fst) template.toList i = some (.place name) ↔
      OccursAt (values.map Prod.fst) template.toList i name)
      ∧
    (∀ i c, partAt? (values.map Prod.fst) template.toList i = some (.character c) ↔
      template.toList[i]? = some c ∧ ∀ j name, OccursAt (values.map Prod.fst) template.toList j name →
        i < j ∨ j + (braced name).length ≤ i)
      ∧
    (parts (values.map Prod.fst) template.toList).flatMap Part.source = template.toList
      ∧
    (∀ others : Values, others.map Prod.fst = values.map Prod.fst →
      (fill others template).toList =
        (parts (values.map Prod.fst) template.toList).flatMap (Part.text others))
      ∧
    (∀ others before later : Values, ∀ name value, others = before ++ (name, value) :: later →
      name ∉ before.map Prod.fst → Part.text others (.place name) = value.toList) := by
  have hnames : ∀ name ∈ values.map Prod.fst, IsPlainName name := List.forall_mem_map.2 hplain
  refine ⟨?_, ?_, ?_, flatMap_source_parts hnames _, ?_, ?_⟩
  · intro i j name other hname hother
    exact hname.same_or_apart hnames hother
  · intro i name
    exact partAt?_eq_place_iff hnames
  · intro i c
    exact partAt?_eq_character_iff hnames
  · intro others hsame
    rw [← hsame] at hnames ⊢
    rw [fill, String.toList_ofList, fillFrom_eq hnames]
    rfl
  · rintro others before later name value rfl hfirst
    exact text_place_of_first hfirst

/-- A welcome with a place behind a brace, a place in braces, a value that looks like a place, and a brace that is not
closed; and a briefing whose value is its own place. -/
theorem fill_nested_braces :
    (∀ v ∈ welcomeValues "\x7bvariables\x7d" "\x7d" ["x", "y"], IsPlainName v.1) ∧
      (∀ v ∈ briefingValues "\x7bsimulation_description\x7d", IsPlainName v.1) ∧
      fill (welcomeValues "\x7bvariables\x7d" "\x7d" ["x", "y"])
          "\x7ba\x7buser_name\x7d\x7b\x7bvariables\x7d\x7d\x7bname\x7d\x7buser_name" =
        "\x7ba\x7bvariables\x7d\x7bx, y\x7d\x7bname\x7d\x7buser_name" ∧
      fill (briefingValues "\x7bsimulation_description\x7d") "\x7b\x7bsimulation_description\x7d" =
        "\x7b\x7bsimulation_description\x7d" := by
  have hwelcome := isPlainName_welcomeValues "\x7bvariables\x7d" "\x7d" ["x", "y"]
  have hbriefing := isPlainName_briefingValues "\x7bsimulation_description\x7d"
  obtain ⟨-, -, -, -, hwelcomed, -⟩ := fill_substitutes_occurrences _
    "\x7ba\x7buser_name\x7d\x7b\x7bvariables\x7d\x7d\x7bname\x7d\x7buser_name" hwelcome
  obtain ⟨-, -, -, -, hbriefed, -⟩ := fill_substitutes_occurrences _ "\x7b\x7bsimulation_description\x7d" hbriefing
  refine ⟨hwelcome, hbriefing, String.toList_injective ?_, String.toList_injective ?_⟩
  · rw [hwelcomed _ rfl]
    decide +kernel
  · rw [hbriefed _ rfl]
    decide +kernel

end Substitution

section Pieces

variable {names : List String} {p s : List Char} {values : Values}

/-- Only the positions in the first text and the listed names have to be looked at. -/
theorem noneAcross_iff : NoneAcross names p s ↔
    ∀ i ∈ List.range p.length, ∀ name ∈ names, braced name <+: (p ++ s).drop i →
      i + (braced name).length ≤ p.length := by
  constructor
  · intro h i hi name hname hprefix
    exact h i name ⟨hname, hprefix⟩ (List.mem_range.1 hi)
  · rintro h i name ⟨hname, hprefix⟩ hi
    exact h i (List.mem_range.2 hi) name hname hprefix

instance : Decidable (NoneAcross names p s) :=
  decidable_of_iff _ noneAcross_iff.symm

/-- The filled template is what its parts stand for. -/
theorem toList_fill (hplain : ∀ v ∈ values, IsPlainName v.1) (template : String) :
    (fill values template).toList =
      (parts (values.map Prod.fst) template.toList).flatMap (Part.text values) := by
  rw [fill, String.toList_ofList, fillFrom_eq (List.forall_mem_map.2 hplain), List.reverse_nil, List.nil_append]

/-- A template in two pieces is filled piece by piece, unless a place lies across the cut.  So an opening brace that begins
no place is kept, be it closed somewhere or not, and what follows it is filled as if it stood alone. -/
theorem fill_append (values : Values) (s t : String) (hplain : ∀ v ∈ values, IsPlainName v.1)
    (hcut : NoneAcross (values.map Prod.fst) s.toList t.toList) :
    fill values (s ++ t) = fill values s ++ fill values t
      ∧
    (∀ rest : String, t = "\x7b" ++ rest → (∀ name, ¬ OccursAt (values.map Prod.fst) t.toList 0 name) →
      fill values (s ++ t) = fill values s ++ "\x7b" ++ fill values rest) := by
  have happend : fill values (s ++ t) = fill values s ++ fill values t := by
    apply String.toList_injective
    rw [String.toList_append, toList_fill hplain, toList_fill hplain, toList_fill hplain, String.toList_append,
      parts_append hcut, List.flatMap_append]
  refine ⟨happend, ?_⟩
  rintro rest rfl hnone
  have hbrace : fill values ("\x7b" ++ rest) = "\x7b" ++ fill values rest := by
    apply String.toList_injective
    have hsplit : ("\x7b" ++ rest).toList = '\x7b' :: rest.toList := String.toList_append
    rw [hsplit] at hnone
    rw [toList_fill hplain, hsplit, String.toList_append, toList_fill hplain, parts_cons hnone, List.flatMap_cons]
    rfl
  rw [happend, hbrace, String.append_assoc]

/-- Two values, of which the second looks like a place for the first. -/
def nestedValues : Values :=
  [("a", "x"), ("b", "\x7ba\x7d")]

/-- A brace that the first piece leaves open meets a closing brace in the second piece, behind a place there. -/
theorem fill_open_brace_before_place :
    (∀ v ∈ nestedValues, IsPlainName v.1) ∧
      NoneAcross (nestedValues.map Prod.fst) "\x7bc \x7ba\x7d \x7ba".toList " \x7bb\x7d\x7d \x7bb".toList ∧
      fill nestedValues ("\x7bc \x7ba\x7d \x7ba" ++ " \x7bb\x7d\x7d \x7bb") =
        fill nestedValues "\x7bc \x7ba\x7d \x7ba" ++ fill nestedValues " \x7bb\x7d\x7d \x7bb" ∧
      fill nestedValues " \x7bb\x7d\x7d \x7bb" = " \x7ba\x7d\x7d \x7bb" := by
  have hplain : ∀ v ∈ nestedValues, IsPlainName v.1 := by
    simp only [nestedValues, List.forall_mem_cons, IsPlainName]
    decide
  have hcut : NoneAcross (nestedValues.map Prod.fst) "\x7bc \x7ba\x7d \x7ba".toList
      " \x7bb\x7d\x7d \x7bb".toList := by
    decide +kernel
  refine ⟨hplain, hcut, (fill_append _ _ _ hplain hcut).1, String.toList_injective ?_⟩
  rw [toList_fill hplain]
  decide +kernel

end Pieces

end Template

end ChatOpening
