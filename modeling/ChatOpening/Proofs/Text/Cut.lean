import Mathlib.Data.List.TakeWhile

/-!
# Where a list is cut

A list is cut at the first element that does not have a property.  What stands before it and what it begins are
determined by that: all elements before the cut have the property, and what follows the cut does not begin with one that
has it.

**Results.**
* `takeWhile_dropWhile_eq_iff`: the two parts of a list that is cut.
* `takeWhile_append_of_stop`, `dropWhile_append_of_stop`: the same for a list that is given in two parts.
-/

namespace ChatOpening

section Cut

variable {α : Type} {p : α → Bool} {l a rest : List α}

/-- What holds of the first part and not behind it is cut out there. -/
theorem takeWhile_append_of_stop (ha : ∀ x ∈ a, p x = true) (hrest : ∀ x ∈ rest.head?, p x = false) :
    (a ++ rest).takeWhile p = a := by
  rw [List.takeWhile_append_of_pos ha]
  cases rest with
  | nil => exact List.append_nil a
  | cons x more =>
    have hx : ¬ p x = true := by simp [hrest x rfl]
    rw [List.takeWhile_cons_of_neg hx, List.append_nil]

theorem dropWhile_append_of_stop (ha : ∀ x ∈ a, p x = true) (hrest : ∀ x ∈ rest.head?, p x = false) :
    (a ++ rest).dropWhile p = rest := by
  rw [List.dropWhile_append_of_pos ha]
  cases rest with
  | nil => rfl
  | cons x more =>
    have hx : ¬ p x = true := by simp [hrest x rfl]
    rw [List.dropWhile_cons_of_neg hx]

/-- The first part of a list holds elements with the property only, and the second does not begin with one. -/
theorem takeWhile_dropWhile_eq_iff : (l.takeWhile p = a ∧ l.dropWhile p = rest) ↔
    l = a ++ rest ∧ (∀ x ∈ a, p x = true) ∧ ∀ x ∈ rest.head?, p x = false := by
  constructor
  · rintro ⟨rfl, rfl⟩
    refine ⟨List.takeWhile_append_dropWhile.symm, fun x hx => List.mem_takeWhile_imp hx, fun x hx => ?_⟩
    have hhead := List.head?_dropWhile_not p l
    rw [Option.mem_def.1 hx] at hhead
    exact hhead
  · rintro ⟨rfl, ha, hrest⟩
    exact ⟨takeWhile_append_of_stop ha hrest, dropWhile_append_of_stop ha hrest⟩

end Cut

end ChatOpening
