import ChatOpening.Opening.Conversation
import ChatOpening.Proofs.Json.Layouts

/-!
# Which texts are requests

**Input.**  A text, and what it is to be read as.

**Definitions.**
* `IsRequest`, `IsSimulation`, `IsUser`: the tree is a record with these values.
* `LacksFields`: the tree, or one of its two parts, is no record of the wanted fields, or one of these is null.

**Results.**
* `decodeWith_request_iff`: a text is read as a request exactly if it is one JSON value that matches it.
-/

namespace ChatOpening

open Json

section Requests

variable {tracking : Tracking} {source : String} {t : Tree} {levels : Nat}

/-- The tree is a list of these texts, in this order. -/
def IsTexts (t : Tree) (ss : List String) : Prop :=
  ∃ ts, t = .array ts ∧ List.Forall₂ Tree.MeansText ts ss

def IsSimulation (t : Tree) (s : Simulation) : Prop :=
  ∃ name description topics, t.HasFields ["name", "description", "variables"] [name, description, topics] ∧
    name.MeansText s.name ∧ description.MeansText s.description ∧ IsTexts topics s.topics

def IsUser (t : Tree) (u : User) : Prop :=
  ∃ name, t.HasFields ["name"] [name] ∧ name.MeansText u.name

def IsRequest (t : Tree) (r : OpeningRequest) : Prop :=
  ∃ simulation user, t.HasFields ["simulation", "user"] [simulation, user] ∧ IsSimulation simulation r.simulation ∧
    IsUser user r.user

/-- At one of the three levels a declared field is null, missing or repeated, or a list is too short or too long. -/
def LacksFields (t : Tree) : Prop :=
  t.Refutes ["simulation", "user"] ∨
    ∃ simulation user, t.HasFields ["simulation", "user"] [simulation, user] ∧
      (simulation.Refutes ["name", "description", "variables"] ∨ user.Refutes ["name"])

instance : Described.Faithful Simulation where
  toCarrier_ofCarrier _ := rfl

instance : Described.Faithful User where
  toCarrier_ofCarrier _ := rfl

instance : Described.Faithful OpeningRequest where
  toCarrier_ofCarrier _ := rfl

/-- The layouts of a simulation, field by field. -/
theorem fits_simulation_iff {s : Simulation} :
    Conversation.simulationSchema.Fits (levels + 2) t (Described.toCarrier s) ↔ IsSimulation t s := by
  refine (Schema.fits_record_iff (by exact ⟨rfl, rfl, rfl, trivial⟩) (by decide)).trans ?_
  constructor
  · rintro ⟨_, hfields, name, _, rfl, hname, description, _, rfl, hdescription, topics, _, rfl, hvariables, rfl⟩
    obtain ⟨_, -, ts, rfl, hts⟩ := hvariables
    exact ⟨name, description, .array ts, hfields, hname, hdescription, ts, rfl, hts⟩
  · rintro ⟨name, description, _, hfields, hname, hdescription, ts, rfl, hts⟩
    exact ⟨_, hfields, name, _, rfl, hname, description, _, rfl, hdescription, .array ts, _, rfl,
      ⟨levels, rfl, ts, rfl, hts⟩, rfl⟩

theorem fits_user_iff {u : User} :
    Conversation.userSchema.Fits (levels + 1) t (Described.toCarrier u) ↔ IsUser t u := by
  refine (Schema.fits_record_iff (by exact ⟨rfl, trivial⟩) (by decide)).trans ?_
  constructor
  · rintro ⟨_, hfields, name, _, rfl, hname, rfl⟩
    exact ⟨name, hfields, hname⟩
  · rintro ⟨name, hfields, hname⟩
    exact ⟨_, hfields, name, _, rfl, hname, rfl⟩

/-- A tree presents the request that it is. -/
theorem presents_request_iff {r : OpeningRequest} : t.Presents r ↔ IsRequest t r := by
  refine (Schema.fits_record_iff (by exact ⟨rfl, rfl, trivial⟩) (by decide)).trans ?_
  constructor
  · rintro ⟨_, hfields, simulation, _, rfl, hsimulation, user, _, rfl, huser, rfl⟩
    exact ⟨simulation, user, hfields, fits_simulation_iff.1 hsimulation, fits_user_iff.1 huser⟩
  · rintro ⟨simulation, user, hfields, hsimulation, huser⟩
    exact ⟨_, hfields, simulation, _, rfl, fits_simulation_iff.2 hsimulation, user, _, rfl, fits_user_iff.2 huser, rfl⟩

theorem not_isSimulation_of_refutes {s : Simulation} (h : t.Refutes ["name", "description", "variables"]) :
    ¬ IsSimulation t s := by
  rintro ⟨name, description, topics, hfields, ⟨ps, rfl, -⟩, ⟨qs, rfl, -⟩, ts, rfl, -⟩
  have hnull := null_mem_of_refutes h hfields
  simp at hnull

theorem not_isUser_of_refutes {u : User} (h : t.Refutes ["name"]) : ¬ IsUser t u := by
  rintro ⟨name, hfields, ps, rfl, -⟩
  have hnull := null_mem_of_refutes h hfields
  simp at hnull

theorem not_isRequest_of_lacksFields {r : OpeningRequest} (h : LacksFields t) : ¬ IsRequest t r := by
  rintro ⟨simulation, user, hfields, hsimulation, huser⟩
  rcases h with hrefutes | ⟨simulation', user', hfields', hrefutes⟩
  · have hnull := null_mem_of_refutes hrefutes hfields
    have hsimulation : simulation ≠ .null := by
      rintro rfl
      exact not_isSimulation_of_refutes (null_refutes _) hsimulation
    have huser : user ≠ .null := by
      rintro rfl
      exact not_isUser_of_refutes (null_refutes _) huser
    simp [hsimulation.symm, huser.symm] at hnull
  · cases hasFields_unique hfields hfields'
    rcases hrefutes with hrefutes | hrefutes
    · exact not_isSimulation_of_refutes hrefutes hsimulation
    · exact not_isUser_of_refutes hrefutes huser

/-- The decoder reads a request off a document that is one. -/
theorem decodeWith_eq_ok_iff_isRequest {r : OpeningRequest} :
    decodeWith tracking OpeningRequest (Text.bytes source) = .ok r ↔
      ∃ t, IsDocument (Text.bytes source) t ∧ IsRequest t r := by
  rw [decodeWith_eq_ok_iff_presents (Text.isText_bytes source)]
  simp only [presents_request_iff]

theorem exists_report_of_ne_ok {bytes : Bytes}
    (h : ∀ r, decodeWith tracking OpeningRequest bytes ≠ .ok r) :
    ∃ report, decodeWith tracking OpeningRequest bytes = .error report := by
  cases hdecode : decodeWith tracking OpeningRequest bytes with
  | ok r => exact absurd hdecode (h r)
  | error report => exact ⟨report, rfl⟩

/-- A text is read as a request exactly if it is one JSON value, with nothing but blanks around it, that is a request;
there is one value at most that it is. It is refused if a declared field is null, missing or repeated, or if a list is
too short or too long, and a text that is read is refused when anything but blanks stands behind it. -/
theorem decodeWith_request_iff (tracking : Tracking) (source : String) :
    (∀ r, decodeWith tracking OpeningRequest (Text.bytes source) = .ok r ↔
      ∃ t, IsDocument (Text.bytes source) t ∧ IsRequest t r)
      ∧
    (∀ t u, IsDocument (Text.bytes source) t → IsDocument (Text.bytes source) u → t = u)
      ∧
    (∀ t, IsDocument (Text.bytes source) t → LacksFields t →
      ∃ report, decodeWith tracking OpeningRequest (Text.bytes source) = .error report)
      ∧
    (∀ r behind, decodeWith tracking OpeningRequest (Text.bytes source) = .ok r → ¬ AllBlank (Text.bytes behind) →
      ∃ report, decodeWith tracking OpeningRequest (Text.bytes (source ++ behind)) = .error report) := by
  refine ⟨fun _ => decodeWith_eq_ok_iff_isRequest, fun _ _ => isDocument_unique, ?lacking, ?behind⟩
  case lacking =>
    intro t ht hlacks
    refine exists_report_of_ne_ok fun r hr => ?_
    obtain ⟨u, hu, hrequest⟩ := decodeWith_eq_ok_iff_isRequest.1 hr
    rw [isDocument_unique hu ht] at hrequest
    exact not_isRequest_of_lacksFields hlacks hrequest
  case behind =>
    intro r behind hr hbehind
    obtain ⟨t, ht, simulation, user, hfields, -⟩ := decodeWith_eq_ok_iff_isRequest.1 hr
    refine exists_report_of_ne_ok fun other hother => ?_
    obtain ⟨u, hu, -⟩ := decodeWith_eq_ok_iff_isRequest.1 hother
    rw [Text.bytes_append] at hu
    exact hbehind (allBlank_of_isDocument_append ht (shape_of_hasFields hfields) hu)

end Requests

end ChatOpening
