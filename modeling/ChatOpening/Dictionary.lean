/-!
# Dictionaries

A finite map from texts, as the list of its entries in strictly ascending order of the keys. The order of texts is
that of their characters' numbers, which is also the order of their UTF-8 bytes. Two dictionaries with the same
entries are equal, so the list can be printed as it stands.

`putEntry` works on bare lists, because the members of a JSON object are such a list inside the type of values;
`Dictionary` carries the proof of the order.
-/

namespace ChatOpening

variable {α : Type}

/-- Sets the value of a key in an ordered list of entries. -/
def putEntry (key : String) (value : α) : List (String × α) → List (String × α)
  | [] => [(key, value)]
  | (k, v) :: rest =>
    if key < k then (key, value) :: (k, v) :: rest
    else if key = k then (key, value) :: rest
    else (k, v) :: putEntry key value rest

/-- Entries in strictly ascending order of their keys. -/
def Ordered (entries : List (String × α)) : Prop :=
  entries.Pairwise fun a b => a.1 < b.1

theorem lt_of_not_lt_of_ne {a b : String} (h : ¬ a < b) (hne : a ≠ b) : b < a := by
  rcases Std.lt_trichotomy a b with hlt | heq | hgt
  · exact absurd hlt h
  · exact absurd heq hne
  · exact hgt

/-- An entry after one has been put is the new one or was there before. -/
theorem mem_putEntry {key : String} {value : α} {entries : List (String × α)} {e : String × α}
    (h : e ∈ putEntry key value entries) : e = (key, value) ∨ e ∈ entries := by
  induction entries with
  | nil => simpa [putEntry] using h
  | cons entry rest ih =>
    obtain ⟨k, v⟩ := entry
    simp only [putEntry] at h
    split at h
    · simpa using h
    · split at h
      · rcases List.mem_cons.1 h with h | h
        · exact .inl h
        · exact .inr (List.mem_cons_of_mem _ h)
      · rcases List.mem_cons.1 h with h | h
        · exact .inr (h ▸ List.mem_cons_self)
        · exact (ih h).imp_right (List.mem_cons_of_mem _)

/-- Putting an entry keeps the order of the keys. -/
theorem ordered_putEntry (key : String) (value : α) {entries : List (String × α)} (h : Ordered entries) :
    Ordered (putEntry key value entries) := by
  induction entries with
  | nil => simp [putEntry, Ordered]
  | cons entry rest ih =>
    obtain ⟨k, v⟩ := entry
    have hk := (List.pairwise_cons.1 h).1
    have hrest := (List.pairwise_cons.1 h).2
    simp only [putEntry]
    split
    · next hlt =>
      refine List.pairwise_cons.2 ⟨fun e he => ?_, h⟩
      rcases List.mem_cons.1 he with rfl | he
      · exact hlt
      · exact String.lt_trans hlt (hk e he)
    · next hlt =>
      split
      · next heq => exact List.pairwise_cons.2 ⟨fun e he => heq ▸ hk e he, hrest⟩
      · next hne =>
        refine List.pairwise_cons.2 ⟨fun e he => ?_, ih hrest⟩
        rcases mem_putEntry he with rfl | he
        · exact lt_of_not_lt_of_ne hlt hne
        · exact hk e he

/-- A finite map from texts. -/
structure Dictionary (α : Type) where
  entries : List (String × α)
  ordered : Ordered entries

namespace Dictionary

@[ext]
theorem ext {d e : Dictionary α} (h : d.entries = e.entries) : d = e := by
  cases d
  cases e
  simpa using h

instance [DecidableEq α] : DecidableEq (Dictionary α) :=
  fun d e => decidable_of_iff (d.entries = e.entries) ⟨ext, congrArg entries⟩

def empty : Dictionary α :=
  ⟨[], List.Pairwise.nil⟩

instance : Inhabited (Dictionary α) := ⟨empty⟩

/-- Sets the value of a key; the value that it had is lost. -/
def insert (d : Dictionary α) (key : String) (value : α) : Dictionary α :=
  ⟨putEntry key value d.entries, ordered_putEntry key value d.ordered⟩

/-- The value of a key. -/
def get? (d : Dictionary α) (key : String) : Option α :=
  d.entries.lookup key

/-- The number of keys. -/
def size (d : Dictionary α) : Nat :=
  d.entries.length

/-- The dictionary of a list of entries, in which a later entry replaces an earlier one of the same key. -/
def ofList (entries : List (String × α)) : Dictionary α :=
  entries.foldl (fun d e => d.insert e.1 e.2) empty

end Dictionary

end ChatOpening
