import ChatOpening.Provider.Config
import ChatOpening.Proofs.Text.LowerCase

/-!
# How kinds of providers are named

A kind is read off a text by its lower case form, without the white space around it.  The names of the kinds are made of
small letters of ASCII that are the lower case form of no character beyond ASCII, so that a kind is named by its name only,
in any case of ASCII letters.

**Input.**  Any text, with characters beyond ASCII or without.

**Results.**
* `lowered_trimmed_eq_iff`: the texts that have the name of a kind as their lower case form.
* `ofText_reads_names`: which texts are read as a kind, and what is reported for the others.
-/

namespace ChatOpening

namespace Provider

/-- The text is the name of the kind, up to the case of ASCII letters, with any white space around it. -/
def IsNamedBy (p : Provider) (s : String) : Prop :=
  ∃ before word after : List Char, s.toList = before ++ word ++ after ∧
    (∀ c ∈ before, Text.IsWhiteSpace c) ∧ (∀ c ∈ after, Text.IsWhiteSpace c) ∧
    List.Forall₂ Text.IsCaseOf word p.name.toList

section Names

variable {p : Provider} {s : String}

theorem isPlainSmall_of_mem_name (p : Provider) : ∀ d ∈ p.name.toList, Text.IsPlainSmall d := by
  -- As a statement about a list: `decide` on the one about its members goes through all characters.
  have hall : p.name.toList.all (fun d => decide (Text.IsPlainSmall d)) = true := by
    cases p <;> decide
  intro d hd
  exact of_decide_eq_true (List.all_eq_true.1 hall d hd)

/-- A text is the name but for blanks around it and the case of its letters. -/
theorem lowered_trimmed_eq_iff : Text.lowered (Text.trimmed s.toList) = p.name.toList ↔ p.IsNamedBy s := by
  rw [Text.lowered_eq_iff p.isPlainSmall_of_mem_name]
  constructor
  · intro hcase
    obtain ⟨before, after, hsplit, hbefore, hafter⟩ := Text.exists_trimmed s.toList
    exact ⟨before, _, after, hsplit, hbefore, hafter, hcase⟩
  · rintro ⟨before, word, after, hsplit, hbefore, hafter, hcase⟩
    have hne : word ≠ [] := by
      rintro rfl
      cases p <;> cases hcase
    have hword : ∀ c ∈ word, ¬ Text.IsWhiteSpace c := by
      intro c hc
      obtain ⟨d, hd, hcd⟩ := Text.exists_isCaseOf p.isPlainSmall_of_mem_name hcase hc
      exact Text.not_isWhiteSpace_of_isCaseOf hcd hd
    rw [hsplit, Text.trimmed_append hne hword hbefore hafter]
    exact hcase

/-- A provider is read where its name is left. -/
theorem ofText_eq_ok_iff : ofText s = .ok p ↔ Text.lowered (Text.trimmed s.toList) = p.name.toList := by
  simp only [ofText]
  split
  · next hollama =>
    rw [hollama]
    cases p <;> decide
  · next hollama =>
    split
    · next hopenai =>
      rw [hopenai]
      cases p <;> decide
    · next hopenai => cases p <;> simp [hollama, hopenai]

/-- The fault quotes the text as it was given. -/
theorem ofText_eq_error (h : ∀ p, ofText s ≠ .ok p) : ofText s = .error ⟨s⟩ := by
  simp only [Ne, ofText_eq_ok_iff] at h
  simp only [ofText, h, if_false]

/-- A text is read as a kind exactly if it is the name of the kind, up to the case of ASCII letters, with any white space
around it.  So no text is read as a kind that has a character beyond ASCII in it, other than white space, though the lower
case form of that may be an ASCII letter or begin with one.  Any other text is quoted as it is. -/
theorem ofText_reads_names (s : String) :
    (∀ p, ofText s = .ok p ↔ p.IsNamedBy s)
      ∧
    (∀ c ∈ s.toList, 0x80 ≤ c.toNat → ¬ Text.IsWhiteSpace c → ∀ p, ofText s ≠ .ok p)
      ∧
    ((∀ p : Provider, ¬ p.IsNamedBy s) →
      ∃ e, ofText s = .error e ∧ e.message = "Invalid LLM type: '" ++ s ++ "'") := by
  have hok : ∀ p, ofText s = .ok p ↔ p.IsNamedBy s := fun p => ofText_eq_ok_iff.trans lowered_trimmed_eq_iff
  refine ⟨hok, ?_, ?_⟩
  · intro c hc hbeyond hblank p hp
    obtain ⟨before, word, after, hsplit, hbefore, hafter, hcase⟩ := (hok p).1 hp
    rw [hsplit, List.mem_append, List.mem_append] at hc
    rcases hc with (hc | hc) | hc
    · exact hblank (hbefore c hc)
    · obtain ⟨d, hd, hcd⟩ := Text.exists_isCaseOf p.isPlainSmall_of_mem_name hcase hc
      exact absurd (Text.ascii_of_isCaseOf hcd hd) (Nat.not_lt.2 hbeyond)
    · exact hblank (hafter c hc)
  · intro hnone
    exact ⟨⟨s⟩, ofText_eq_error fun p hp => hnone p ((hok p).1 hp), rfl⟩

/-- The dotted capital I has a lower case form that begins with a small i, but goes on. -/
example : ofText "\u2003OpenAI\n" = .ok .openai ∧ ofText "OPENA\u0130" = .error ⟨"OPENA\u0130"⟩ := by
  decide +kernel

end Names

end Provider

end ChatOpening
