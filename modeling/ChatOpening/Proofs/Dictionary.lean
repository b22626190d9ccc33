import Mathlib.Data.List.Nodup
import ChatOpening.Dictionary

/-!
# Looking up what has been put

What `putEntry` does to a list of entries, seen through `List.lookup` and through the keys.

**Results.**
* `lookup_putEntry`: a key that has been put has the new value, and every other key has the value that it had.
* `keys_putEntry`: a new key is added to the keys, and nothing else.
* `foldl_putEntry_of_ordered`: ordered entries are what they are put together to.
* `lookup_foldl_putEntry`: of entries that are put one after the other, the last one of a key counts.
* `lookup_eq_of_perm`: the order of entries does not matter if no key occurs twice.
* `ordered_ext`: ordered entries are determined by what is found when a key is looked up.
-/

namespace ChatOpening

section PutEntry

variable {α : Type}

theorem lookup_cons_eq (key wanted : String) (value : α) (entries : List (String × α)) :
    ((key, value) :: entries).lookup wanted = if wanted = key then some value else entries.lookup wanted := by
  by_cases h : wanted = key
  · simp [h]
  · have hbeq : (wanted == key) = false := beq_eq_false_iff_ne.2 h
    simp [List.lookup_cons, hbeq, h]

/-- A key that has been put has the new value; the others keep theirs. -/
theorem lookup_putEntry (key wanted : String) (value : α) (entries : List (String × α)) :
    (putEntry key value entries).lookup wanted =
      if wanted = key then some value else entries.lookup wanted := by
  induction entries with
  | nil => exact lookup_cons_eq key wanted value []
  | cons entry rest ih =>
    obtain ⟨k, v⟩ := entry
    by_cases hlt : key < k
    · rw [putEntry, if_pos hlt, lookup_cons_eq]
    · by_cases heq : key = k
      · subst heq
        rw [putEntry, if_neg hlt, if_pos rfl, lookup_cons_eq, lookup_cons_eq]
        split <;> rfl
      · rw [putEntry, if_neg hlt, if_neg heq, lookup_cons_eq, ih, lookup_cons_eq]
        by_cases hk : wanted = k
        · subst hk
          rw [if_pos rfl, if_neg (Ne.symm heq)]
          simp
        · rw [if_neg hk, if_neg hk]

/-- A key that is new is added to the keys. -/
theorem keys_putEntry {key : String} {value : α} {entries : List (String × α)}
    (h : key ∉ entries.map Prod.fst) :
    ((putEntry key value entries).map Prod.fst).Perm (key :: entries.map Prod.fst) := by
  induction entries with
  | nil => exact List.Perm.refl _
  | cons entry rest ih =>
    obtain ⟨k, v⟩ := entry
    have hne : key ≠ k := fun he => h (by simp [he])
    have hrest : key ∉ rest.map Prod.fst := fun hm => h (List.mem_cons_of_mem _ hm)
    by_cases hlt : key < k
    · rw [putEntry, if_pos hlt]
      exact List.Perm.refl _
    · rw [putEntry, if_neg hlt, if_neg hne]
      exact ((ih hrest).cons k).trans (List.Perm.swap key k _)

/-- A key that is greater than all others is put at the end. -/
theorem putEntry_of_greatest {key : String} {value : α} {entries : List (String × α)} (h : ∀ e ∈ entries, e.1 < key) :
    putEntry key value entries = entries ++ [(key, value)] := by
  induction entries with
  | nil => rfl
  | cons entry rest ih =>
    obtain ⟨k, v⟩ := entry
    have hk : k < key := h (k, v) List.mem_cons_self
    have hne : key ≠ k := fun he => Std.lt_irrefl (he ▸ hk)
    rw [putEntry, if_neg (Std.not_lt.2 (Std.le_of_lt hk)), if_neg hne, ih fun e he => h e (List.mem_cons_of_mem _ he)]
    rfl

/-- Putting ordered entries one after the other behind smaller ones appends them. -/
theorem foldl_putEntry_of_ordered {done entries : List (String × α)} (h : Ordered (done ++ entries)) :
    entries.foldl (fun done e => putEntry e.1 e.2 done) done = done ++ entries := by
  induction entries generalizing done with
  | nil => simp
  | cons e entries ih =>
    have hgreatest : ∀ d ∈ done, d.1 < e.1 := fun d hd => (List.pairwise_append.1 h).2.2 d hd e List.mem_cons_self
    have hnext : done ++ e :: entries = (done ++ [e]) ++ entries := List.append_cons ..
    rw [hnext] at h ⊢
    rw [List.foldl_cons, putEntry_of_greatest hgreatest]
    exact ih h

/-- What is put later goes before. -/
theorem lookup_foldl_putEntry (wanted : String) (entries done : List (String × α)) :
    (entries.foldl (fun done e => putEntry e.1 e.2 done) done).lookup wanted =
      (entries.reverse ++ done).lookup wanted := by
  induction entries generalizing done with
  | nil => rfl
  | cons e entries ih =>
    rw [List.foldl_cons, ih, List.reverse_cons, List.append_assoc, List.lookup_append, List.lookup_append,
      lookup_putEntry, List.singleton_append, lookup_cons_eq]

/-- The keys are those that are found. -/
theorem mem_keys_iff {key : String} {entries : List (String × α)} :
    key ∈ entries.map Prod.fst ↔ entries.lookup key ≠ none := by
  simp [List.lookup_eq_none_iff]

/-- The keys are those of the entries that are put, and no others. -/
theorem mem_keys_foldl_putEntry {key : String} {entries : List (String × α)} :
    key ∈ (entries.foldl (fun done e => putEntry e.1 e.2 done) []).map Prod.fst ↔ key ∈ entries.map Prod.fst := by
  rw [mem_keys_iff, lookup_foldl_putEntry, List.append_nil, ← mem_keys_iff, List.map_reverse, List.mem_reverse]

/-- Entries that are put one after the other are ordered if those before them are. -/
theorem ordered_foldl_putEntry (entries : List (String × α)) {done : List (String × α)} (h : Ordered done) :
    Ordered (entries.foldl (fun done e => putEntry e.1 e.2 done) done) := by
  induction entries generalizing done with
  | nil => exact h
  | cons e entries ih => exact ih (ordered_putEntry e.1 e.2 h)

end PutEntry

section Ordered

variable {α : Type} {es fs : List (String × α)} {key : String} {value : α}

theorem nodup_keys_of_ordered (h : Ordered es) : (es.map Prod.fst).Nodup :=
  List.pairwise_map.2 (h.imp fun hlt => Std.ne_of_lt hlt)

theorem ordered_of_keys {β : Type} {gs : List (String × β)} (h : gs.map Prod.fst = es.map Prod.fst) (hes : Ordered es) :
    Ordered gs := by
  have hkeys : (es.map Prod.fst).Pairwise (· < ·) := List.pairwise_map.2 hes
  exact List.pairwise_map.1 (h ▸ hkeys)

/-- If no key occurs twice, each key is found with its only value. -/
theorem mem_iff_lookup_of_nodup {κ : Type} [BEq κ] [LawfulBEq κ] {es : List (κ × α)} {key : κ}
    (h : (es.map Prod.fst).Nodup) : (key, value) ∈ es ↔ es.lookup key = some value := by
  induction es with
  | nil => simp
  | cons e es ih =>
    obtain ⟨k, v⟩ := e
    obtain ⟨hfirst, hothers⟩ := List.nodup_cons.1 h
    rw [List.mem_cons, ih hothers, Prod.mk.injEq]
    by_cases hkey : key = k
    · subst hkey
      have hnot : es.lookup key ≠ some value := fun hvalue =>
        hfirst (List.mem_map.2 ⟨(key, value), (ih hothers).2 hvalue, rfl⟩)
      simp [hnot, eq_comm]
    · have hbeq : (key == k) = false := beq_eq_false_iff_ne.2 hkey
      simp [List.lookup_cons, hbeq, hkey]

/-- In ordered entries each entry is found under its key. -/
theorem mem_iff_lookup (h : Ordered es) : (key, value) ∈ es ↔ es.lookup key = some value :=
  mem_iff_lookup_of_nodup (nodup_keys_of_ordered h)

/-- The order of entries does not matter if no key occurs twice. -/
theorem lookup_eq_of_perm {κ : Type} [BEq κ] [LawfulBEq κ] {es fs : List (κ × α)} (h : (es.map Prod.fst).Nodup)
    (hperm : es.Perm fs) (key : κ) : es.lookup key = fs.lookup key := by
  have hfs : (fs.map Prod.fst).Nodup := (hperm.map Prod.fst).nodup_iff.1 h
  refine Option.ext fun value => ?_
  rw [← mem_iff_lookup_of_nodup h, ← mem_iff_lookup_of_nodup hfs, hperm.mem_iff]

/-- Ordered entries in which the same is found are the same. -/
theorem ordered_ext (hes : Ordered es) (hfs : Ordered fs) (h : ∀ key, es.lookup key = fs.lookup key) : es = fs := by
  have hmem : ∀ e, e ∈ es ↔ e ∈ fs := by
    rintro ⟨key, value⟩
    rw [mem_iff_lookup hes, mem_iff_lookup hfs, h]
  have hperm : es.Perm fs :=
    (List.perm_ext_iff_of_nodup (List.Nodup.of_map _ (nodup_keys_of_ordered hes))
      (List.Nodup.of_map _ (nodup_keys_of_ordered hfs))).2 hmem
  exact hperm.eq_of_pairwise (fun _ _ _ _ hlt hgt => absurd (String.lt_trans hlt hgt) Std.lt_irrefl) hes hfs

end Ordered

end ChatOpening
