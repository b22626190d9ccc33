import Mathlib.Data.List.Induction
import ChatOpening.Proofs.Json.Unambiguous
import ChatOpening.Proofs.Json.Written
import ChatOpening.Proofs.Text.Order

/-!
# The order of members

Readers keep the last member of each key, in the order of the keys, and what they keep is written in this order.  So the
order in which members of different keys stand in a text does not matter, at any depth.

**Input.**  The tree of a text, and a value that it means.

**Definitions.**
* `Tree.Arranged`: the second tree has the members of each object in the order of the bytes of their keys, and of each key
  the last one.
* `Tree.Reordered`: the objects of the two trees differ only by the order in which members of different keys stand.

**Results.**
* `rel_getLast_lookup`: what is found under a key is what its last member means.
* `means_unique`: a tree means one value.
* `means_of_reordered`: reordered trees mean the same.
* `Value.exists_arranged`: the value of a tree is written as an arrangement of the tree.
-/

namespace ChatOpening

namespace Json

open Text

section Lookups

variable {α : Type} {P : Tree → α → Prop} {es fs : List (String × Tree)} {vs : List (String × α)} {key : String}
  {t : Tree}

theorem mem_valuesOf_iff : t ∈ valuesOf key es ↔ (key, t) ∈ es := by
  simp [valuesOf]

/-- The last value of a key is the first one from behind. -/
theorem lookup_reverse (key : String) (es : List (String × Tree)) :
    es.reverse.lookup key = (valuesOf key es).getLast? := by
  induction es using List.reverseRecOn with
  | nil => rfl
  | append_singleton es e ih =>
    obtain ⟨name, t⟩ := e
    rw [List.reverse_append, List.reverse_singleton, List.singleton_append, lookup_cons_eq]
    by_cases hname : name = key
    · simp [valuesOf, hname]
    · simpa [valuesOf, hname, Ne.symm hname] using ih

theorem rel_lookup (key : String) (h : Entries P es vs) : Option.Rel P (es.lookup key) (vs.lookup key) := by
  induction h with
  | nil => exact .none
  | @cons e v _ _ he _ ih =>
    obtain ⟨name, t⟩ := e
    obtain ⟨_, a⟩ := v
    obtain ⟨rfl, ha⟩ := he
    rw [lookup_cons_eq, lookup_cons_eq]
    split
    · exact .some ha
    · exact ih

/-- The last entry of a key belongs to the last member of the key. -/
theorem rel_getLast_lookup (key : String) (h : Entries P es vs) :
    Option.Rel P (valuesOf key es).getLast? (vs.reverse.lookup key) := by
  rw [← lookup_reverse]
  exact rel_lookup key (List.rel_reverse h)

theorem exists_of_rel {x : Option Tree} {a : α} (h : Option.Rel P x (some a)) : ∃ t, x = some t ∧ P t a := by
  cases h with
  | some h => exact ⟨_, rfl, h⟩

theorem eq_some_iff_of_rel (hP : Relator.RightUnique P) {x : Option Tree} {y : Option α} {a : α} (h : Option.Rel P x y) :
    y = some a ↔ ∃ t, x = some t ∧ P t a := by
  constructor
  · rintro rfl
    exact exists_of_rel h
  · rintro ⟨t, rfl, ha⟩
    cases h with
    | some hb => rw [hP hb ha]

/-- Of values under the same key the last one stays. -/
theorem lookup_gathered (key : String) (vs : List (String × Value)) :
    (gathered putMember [] vs).lookup key = vs.reverse.lookup key := by
  have h := lookup_foldl_putEntry key vs []
  rwa [List.append_nil] at h

/-- Gathered members are in order. -/
theorem ordered_gathered (vs : List (String × Value)) : Ordered (gathered putMember [] vs) :=
  ordered_foldl_putEntry vs List.Pairwise.nil

/-- Each key of ordered members has one value. -/
theorem valuesOf_of_mem (hfs : Ordered fs) (h : (key, t) ∈ fs) : valuesOf key fs = [t] := by
  induction fs with
  | nil => cases h
  | cons f fs ih =>
    obtain ⟨name, u⟩ := f
    obtain ⟨hfirst, hothers⟩ := List.pairwise_cons.1 hfs
    rcases List.mem_cons.1 h with hsame | h
    · cases hsame
      have hnone : key ∉ fs.map Prod.fst := by
        intro hkey
        obtain ⟨e, he, rfl⟩ := List.mem_map.1 hkey
        exact Std.lt_irrefl (hfirst e he)
      rw [valuesOf_cons_self, valuesOf_eq_nil hnone]
    · have hne : name ≠ key := Std.ne_of_lt (hfirst (key, t) h)
      rw [valuesOf_cons_of_ne hne, ih hothers h]

end Lookups

section Meanings

variable {levels : Nat} {t u : Tree} {v w : Value} {ts us : List Tree} {es fs : List (String × Tree)}

/-- Members mean one list of entries if each of their values means one. -/
theorem rightUnique_entries {α : Type} {P : Tree → α → Prop} (hP : Relator.RightUnique P) :
    Relator.RightUnique (Entries P) := by
  refine Relator.RightUnique.forall₂ fun e v w hv hw => ?_
  exact Prod.ext (hv.1.symm.trans hw.1) (hP hv.2 hw.2)

/-- A tree has one meaning if the values inside it have. -/
theorem meansOver_unique {inner : Option (Tree → Value → Prop)} (hinner : ∀ P, inner = some P → Relator.RightUnique P)
    (hv : MeansOver inner t v) (hw : MeansOver inner t w) : v = w := by
  cases hv with
  | null =>
    cases hw
    rfl
  | truth b =>
    cases hw
    rfl
  | number hx =>
    cases hw with
    | number hy => rw [Except.ok.inj (hx.symm.trans hy)]
  | text hs =>
    cases hw with
    | text hs' => rw [String.toList_inj.1 (denotes_unique hs hs')]
  | array hP hvs =>
    cases hw with
    | array hQ hws =>
      cases hP.symm.trans hQ
      rw [(hinner _ hP).forall₂ hvs hws]
  | object hP hes hvs =>
    cases hw with
    | object hQ hfs hws =>
      cases hP.symm.trans hQ
      cases named_unique hes hfs
      rw [rightUnique_entries (hinner _ hP) hvs hws]

/-- A tree means one value. -/
theorem means_unique (levels : Nat) : Relator.RightUnique (Tree.Means levels) := by
  induction levels with
  | zero =>
    refine fun _ _ _ hv hw => meansOver_unique (fun P hP => ?_) hv hw
    cases hP
  | succ fewer ih =>
    refine fun _ _ _ hv hw => meansOver_unique (fun P hP => ?_) hv hw
    cases hP
    exact ih

/-- A list means what its items mean, one level deeper. -/
theorem means_array_iff {vs : List Value} :
    t.Means levels (.array vs) ↔
      ∃ fewer ts, levels = fewer + 1 ∧ t = .array ts ∧ List.Forall₂ (Tree.Means fewer) ts vs := by
  constructor
  · intro h
    cases levels with
    | zero =>
      cases h with
      | array hP => cases hP
    | succ fewer =>
      cases h with
      | array hP hvs =>
        cases hP
        exact ⟨fewer, _, rfl, rfl, hvs⟩
  · rintro ⟨fewer, ts, rfl, rfl, hvs⟩
    exact .array rfl hvs

/-- An object of any members fits what it means. -/
theorem fits_object_iff {ms : List (String × Value)} : Schema.object.Fits levels t ms ↔ t.Means levels (.object ms) := by
  constructor
  · rintro ⟨fewer, rfl, es, vs, ⟨ns, rfl, hes⟩, hvs, rfl⟩
    exact .object rfl hes hvs
  · exact fits_object_of_means

end Meanings

section Arrangements

/-- The second tree says what the first one does, but the members of each object stand in the order of the bytes of their
keys, and of each key there is only the last one. -/
inductive Tree.Arranged : Tree → Tree → Prop
  | null : Arranged .null .null
  | truth (b : Bool) : Arranged (.truth b) (.truth b)
  | number {m n : Numeral} {x : Number} (hm : m.value = .ok x) (hn : n.value = .ok x) :
      Arranged (.number m) (.number n)
  | text {ps qs : List Piece} {cs : List Char} (hps : Denotes ps cs) (hqs : Denotes qs cs) :
      Arranged (.text ps) (.text qs)
  | array {ts us : List Tree} (h : List.Forall₂ Arranged ts us) : Arranged (.array ts) (.array us)
  | object {ms ns : List (List Piece × Tree)} {es fs : List (String × Tree)} (hes : Named ms es) (hfs : Named ns fs)
      (ascending : (fs.map fun f => bytes f.1).Pairwise (· < ·))
      (last : ∀ key, List.Forall₂ Arranged (valuesOf key es).getLast?.toList (valuesOf key fs)) :
      Arranged (.object ms) (.object ns)

/-- The trees differ only by the order of members of different keys, at any depth. -/
inductive Tree.Reordered : Tree → Tree → Prop
  | refl (t : Tree) : Reordered t t
  | array {ts us : List Tree} (h : List.Forall₂ Reordered ts us) : Reordered (.array ts) (.array us)
  | object {ms ns : List (List Piece × Tree)} {es fs : List (String × Tree)} (hes : Named ms es) (hfs : Named ns fs)
      (h : ∀ key, List.Forall₂ Reordered (valuesOf key es) (valuesOf key fs)) : Reordered (.object ms) (.object ns)

variable {levels : Nat} {t u : Tree} {v : Value} {es fs : List (String × Tree)} {ms : List (String × Value)}

/-- Members that stand in order, each of them an arrangement of the last one of its key, arrange an object. -/
theorem arranged_object (ht : t.IsObject es) (hu : u.IsObject fs) (hfs : Ordered fs)
    (hkeys : ∀ key ∈ es.map Prod.fst, key ∈ fs.map Prod.fst)
    (hlast : ∀ f ∈ fs, ∃ t', (valuesOf f.1 es).getLast? = some t' ∧ t'.Arranged f.2) : t.Arranged u := by
  obtain ⟨ms, rfl, hes⟩ := ht
  obtain ⟨ns, rfl, hnamed⟩ := hu
  refine .object hes hnamed (List.pairwise_map.2 (hfs.imp bytes_lt_of_lt)) fun key => ?_
  by_cases hkey : key ∈ fs.map Prod.fst
  · obtain ⟨⟨_, u⟩, hu, rfl⟩ := List.mem_map.1 hkey
    obtain ⟨t', ht', harranged⟩ := hlast _ hu
    rw [valuesOf_of_mem hfs hu, ht']
    exact .cons harranged .nil
  · rw [valuesOf_eq_nil hkey, valuesOf_eq_nil (mt (hkeys key) hkey)]
    exact .nil

/-- What has been gathered under a key is what the last member of the key means. -/
theorem exists_last_of_mem {P : Tree → Value → Prop} {vs : List (String × Value)} (hvs : Entries P es vs) {key : String}
    (h : (key, v) ∈ gathered putMember [] vs) : ∃ t, (valuesOf key es).getLast? = some t ∧ P t v := by
  rw [mem_iff_lookup (ordered_gathered vs), lookup_gathered] at h
  exact exists_of_rel (h ▸ rel_getLast_lookup key hvs)

theorem keys_writtenMembers (ms : List (String × Value)) : (Value.writtenMembers ms).map Prod.fst = ms.map Prod.fst := by
  induction ms with
  | nil => rfl
  | cons m ms ih => exact congrArg (m.1 :: ·) ih

mutual

/-- What a tree means is written as an arrangement of the tree. -/
theorem Value.exists_arranged (levels : Nat) (v : Value) (t : Tree) (h : t.Means levels v) (hintegral : v.Integral) :
    ∃ u : Tree, u.WrittenAs v.written ∧ t.Arranged u := by
  obtain ⟨inner, hinner⟩ := exists_meansOver levels
  cases v with
  | null =>
    rw [hinner] at h
    cases h
    exact ⟨.null, rfl, .null⟩
  | truth b =>
    rw [hinner] at h
    cases h
    cases b with
    | true => exact ⟨.truth true, rfl, .truth true⟩
    | false => exact ⟨.truth false, rfl, .truth false⟩
  | number x =>
    rw [hinner] at h
    cases h with
    | number hx =>
      obtain ⟨n, hn, hvalue⟩ := exists_number_written hintegral
      exact ⟨.number n, hn, .number hx hvalue⟩
  | text s =>
    rw [hinner] at h
    cases h with
    | text hs =>
      obtain ⟨ps, hps, hs'⟩ := exists_pieces_writtenText s
      exact ⟨.text ps, hps, .text hs hs'⟩
  | array vs =>
    obtain ⟨fewer, ts, -, rfl, hvs⟩ := means_array_iff.1 h
    obtain ⟨us, hwritten, harranged⟩ := exists_items_arranged fewer vs ts hvs hintegral
    exact ⟨.array us, writtenAs_array hwritten, .array harranged⟩
  | object ms =>
    obtain ⟨fewer, -, es, vs, ht, hvs, hms⟩ := fits_object_of_means h
    have hlast : ∀ m ∈ ms, ∃ t', (valuesOf m.1 es).getLast? = some t' ∧ t'.Means fewer m.2 :=
      fun m hm => exists_last_of_mem hvs (hms ▸ hm)
    obtain ⟨fs, hwritten, harranged⟩ := exists_members_arranged fewer ms es hlast hintegral
    obtain ⟨u, hu, hfs⟩ := exists_object_written hwritten
    have hkeys : fs.map Prod.fst = ms.map Prod.fst := (keys_eq_of_entries hwritten).trans (keys_writtenMembers ms)
    have horder : Ordered fs := ordered_of_keys hkeys (hms ▸ ordered_gathered vs)
    refine ⟨u, hu, arranged_object ht hfs horder (fun key hkey => ?_) harranged⟩
    rw [hkeys, hms]
    exact mem_keys_foldl_putEntry.2 (keys_eq_of_entries hvs ▸ hkey)

/-- The items of a list are written as arrangements of the items read. -/
theorem exists_items_arranged (levels : Nat) (vs : List Value) (ts : List Tree)
    (h : List.Forall₂ (Tree.Means levels) ts vs) (hintegral : ItemsIntegral vs) :
    ∃ us, List.Forall₂ Tree.WrittenAs us (Value.writtenItems vs) ∧ List.Forall₂ Tree.Arranged ts us := by
  cases vs with
  | nil =>
    cases h
    exact ⟨[], .nil, .nil⟩
  | cons v vs =>
    cases h with
    | cons hv hvs =>
      obtain ⟨u, hu, hfirst⟩ := Value.exists_arranged levels v _ hv hintegral.1
      obtain ⟨us, hus, hothers⟩ := exists_items_arranged levels vs _ hvs hintegral.2
      exact ⟨u :: us, .cons hu hus, .cons hfirst hothers⟩

/-- The members of an object are written as arrangements of the last values of their keys. -/
theorem exists_members_arranged (levels : Nat) (ms : List (String × Value)) (es : List (String × Tree))
    (h : ∀ m ∈ ms, ∃ t, (valuesOf m.1 es).getLast? = some t ∧ t.Means levels m.2) (hintegral : MembersIntegral ms) :
    ∃ fs, Entries Tree.WrittenAs fs (Value.writtenMembers ms) ∧
      ∀ f ∈ fs, ∃ t, (valuesOf f.1 es).getLast? = some t ∧ t.Arranged f.2 := by
  cases ms with
  | nil => exact ⟨[], .nil, by simp⟩
  | cons m ms =>
    obtain ⟨key, v⟩ := m
    obtain ⟨t, hlast, hv⟩ := h (key, v) List.mem_cons_self
    obtain ⟨u, hu, hfirst⟩ := Value.exists_arranged levels v t hv hintegral.1
    obtain ⟨fs, hfs, hothers⟩ :=
      exists_members_arranged levels ms es (fun m hm => h m (List.mem_cons_of_mem _ hm)) hintegral.2
    refine ⟨(key, u) :: fs, .cons ⟨rfl, hu⟩ hfs, fun f hf => ?_⟩
    rcases List.mem_cons.1 hf with rfl | hf
    · exact ⟨t, hlast, hfirst⟩
    · exact hothers f hf

end

end Arrangements

section Reorderings

variable {P : Tree → Value → Prop} {levels : Nat} {t u : Tree} {v : Value} {ts us : List Tree} {vs : List Value}
  {es fs : List (String × Tree)}

theorem rel_getLast_of_forall₂ {R : Tree → Tree → Prop} (h : List.Forall₂ R ts us) :
    Option.Rel R ts.getLast? us.getLast? := by
  rw [List.getLast?_eq_head?_reverse, List.getLast?_eq_head?_reverse]
  have hreverse := List.rel_reverse h
  revert hreverse
  generalize ts.reverse = ts, us.reverse = us
  rintro (_ | ⟨h, -⟩)
  · exact .none
  · exact .some h

/-- Reordered items mean the same if each of them does. -/
theorem forall₂_of_reordered (hP : ∀ t u v, t.Reordered u → P t v → P u v) (h : List.Forall₂ Tree.Reordered ts us)
    (hvs : List.Forall₂ P ts vs) : List.Forall₂ P us vs := by
  induction h generalizing vs with
  | nil =>
    cases hvs
    exact .nil
  | cons h _ ih =>
    cases hvs with
    | cons hv hvs => exact .cons (hP _ _ _ h hv) (ih hvs)

theorem exists_of_mem_right {α β : Type} {R : α → β → Prop} {as : List α} {bs : List β} {b : β}
    (h : List.Forall₂ R as bs) (hb : b ∈ bs) : ∃ a ∈ as, R a b := by
  induction h with
  | nil => cases hb
  | @cons a _ _ _ hab _ ih =>
    rcases List.mem_cons.1 hb with rfl | hb
    · exact ⟨a, List.mem_cons_self, hab⟩
    · obtain ⟨a, ha, hab⟩ := ih hb
      exact ⟨a, List.mem_cons_of_mem _ ha, hab⟩

/-- The members of a reordered object have values, too. -/
theorem exists_entries_of_reordered {ws : List (String × Value)} (hP : ∀ t u v, t.Reordered u → P t v → P u v)
    (h : ∀ key, List.Forall₂ Tree.Reordered (valuesOf key es) (valuesOf key fs)) (hws : Entries P es ws) :
    ∃ xs, Entries P fs xs := by
  have hmembers : ∀ f ∈ fs, ∃ x : String × Value, f.1 = x.1 ∧ P f.2 x.2 := by
    rintro ⟨key, u⟩ hu
    obtain ⟨t, ht, htu⟩ := exists_of_mem_right (h key) (mem_valuesOf_iff.2 hu)
    obtain ⟨⟨_, v⟩, -, hname, hv⟩ := exists_of_mem_right hws.flip (mem_valuesOf_iff.1 ht)
    exact ⟨(key, v), rfl, hP _ _ _ htu hv⟩
  obtain ⟨xs, hxs⟩ := exists_forall₂ hmembers
  exact ⟨xs, hxs.flip⟩

/-- The same is found under every key. -/
theorem gathered_of_reordered {ws xs : List (String × Value)} (hunique : Relator.RightUnique P)
    (hP : ∀ t u v, t.Reordered u → P t v → P u v)
    (h : ∀ key, List.Forall₂ Tree.Reordered (valuesOf key es) (valuesOf key fs)) (hws : Entries P es ws)
    (hxs : Entries P fs xs) : gathered putMember [] ws = gathered putMember [] xs := by
  refine ordered_ext (ordered_gathered ws) (ordered_gathered xs) fun key => ?_
  have hes := rel_getLast_lookup key hws
  have hfs := rel_getLast_lookup key hxs
  have hlast := rel_getLast_of_forall₂ (h key)
  rw [lookup_gathered, lookup_gathered]
  generalize (valuesOf key es).getLast? = x at hes hlast
  generalize (valuesOf key fs).getLast? = y at hfs hlast
  generalize ws.reverse.lookup key = found at hes ⊢
  generalize xs.reverse.lookup key = found' at hfs ⊢
  cases hlast with
  | none =>
    cases hes
    cases hfs
    rfl
  | some htu =>
    cases hes with
    | some hv =>
      cases hfs with
      | some hw => rw [hunique (hP _ _ _ htu hv) hw]

/-- The order of members does not matter if it does not matter inside them. -/
theorem meansOver_of_reordered {inner : Option (Tree → Value → Prop)}
    (hunique : ∀ P, inner = some P → Relator.RightUnique P)
    (hinner : ∀ P, inner = some P → ∀ t u v, t.Reordered u → P t v → P u v) (h : t.Reordered u)
    (hv : MeansOver inner t v) : MeansOver inner u v := by
  cases h with
  | refl => exact hv
  | array h =>
    cases hv with
    | array hP hvs => exact .array hP (forall₂_of_reordered (hinner _ hP) h hvs)
  | object hes hfs h =>
    cases hv with
    | object hP hes' hws =>
      cases named_unique hes hes'
      obtain ⟨xs, hxs⟩ := exists_entries_of_reordered (hinner _ hP) h hws
      rw [gathered_of_reordered (hunique _ hP) (hinner _ hP) h hws hxs]
      exact .object hP hfs hxs

/-- Trees that differ by the order of members mean the same. The induction is on the number of levels. -/
theorem means_of_reordered (levels : Nat) {t u : Tree} {v : Value} (h : t.Reordered u) (hv : t.Means levels v) :
    u.Means levels v := by
  induction levels generalizing t u v with
  | zero => exact meansOver_of_reordered (by simp) (by simp) h hv
  | succ fewer ih =>
    refine meansOver_of_reordered (fun P hP => ?_) (fun P hP => ?_) h hv
    · cases hP
      exact means_unique fewer
    · cases hP
      exact fun _ _ _ => ih

end Reorderings

end Json

end ChatOpening
