import ChatOpening.Proofs.Json.Fitting
import ChatOpening.Proofs.Json.Unambiguous

/-!
# Layouts of a record

A record has two kinds of layouts: a list of the values in the declared order, or an object in which every declared name
occurs once.  Other names are of no account in the object, and a field that may be absent may be left out of it.

**Input.**  A tree, the declared fields, and an element of a described type.

**Definitions.**
* `Fields.SaySame`: two objects say the same of every declared field.
* `Tree.HasFields`: the tree is a record with these values of the fields, all of which are needed.
* `Tree.Lacks`: it is none, since it is neither list nor object, is too short or too long, or misses or repeats a name.
* `Tree.Refutes`: it is none, or one of the values is null.
* `Tree.Presents`: the tree is a layout of the element.

**Results.**
* `Schema.fits_record_of_saySame`: which objects are as good as another one.
* `Schema.fits_record_iff`: a tree fits a record of needed fields if it has the fields and their values fit.
* `decodeWith_eq_ok_iff_presents`: a text is read as an element if it is one of its layouts.
* `decodeWith_document_eq_ok_iff`: the tree of a text decides what the text is read as.
-/

namespace ChatOpening

namespace Json

open Text

section Fields

variable {t : Tree} {name key : String} {wanted : List String} {es : List (String × Tree)} {ts : List Tree} {levels : Nat}

/-- The values of the declared fields: all items of a list, or the values of the only members of these names. -/
def Tree.HasFields (t : Tree) (names : List String) (ts : List Tree) : Prop :=
  (t = .array ts ∧ ts.length = names.length) ∨
    ∃ es, t.IsObject es ∧ names.map (fun name => valuesOf name es) = ts.map fun u => [u]

/-- The tree is no record with fields of these names. -/
def Tree.Lacks (t : Tree) (names : List String) : Prop :=
  match t with
  | .array ts => ts.length ≠ names.length
  | .object ms => ∀ es, Named ms es → ∃ name ∈ names, (valuesOf name es).length ≠ 1
  | _ => True

/-- The tree lacks the fields, or one of them is null. -/
def Tree.Refutes (t : Tree) (names : List String) : Prop :=
  t.Lacks names ∨ ∃ ts, t.HasFields names ts ∧ .null ∈ ts

theorem null_refutes (wanted : List String) : Tree.null.Refutes wanted :=
  .inl trivial

/-- Pieces stand for the same characters at any time. The induction is on the first way to read them. -/
theorem denotes_unique {ps : List Piece} {cs ds : List Char} (hcs : Denotes ps cs) (hds : Denotes ps ds) : cs = ds := by
  induction hcs generalizing ds with
  | nil =>
    cases hds
    rfl
  | char _ ih =>
    cases hds with
    | char hds => rw [ih hds]
  | unit hhigh hlow _ ih =>
    cases hds with
    | unit _ _ hds => rw [ih hds]
    | pair hhigh' _ _ =>
      rw [hhigh] at hhigh'
      cases hhigh'
  | pair hhigh hlow _ ih =>
    cases hds with
    | unit hhigh' _ _ =>
      rw [hhigh] at hhigh'
      cases hhigh'
    | pair _ _ hds => rw [ih hds]

/-- The keys of members stand for one list of names only. -/
theorem named_unique {ms : List (List Piece × Tree)} {fs : List (String × Tree)} (hes : Named ms es) (hfs : Named ms fs) :
    es = fs := by
  induction hes generalizing fs with
  | nil =>
    cases hfs
    rfl
  | cons he _ ih =>
    cases hfs with
    | cons hf hfs =>
      have hname := String.toList_inj.1 (denotes_unique he.1 hf.1)
      rw [Prod.ext hname (he.2.symm.trans hf.2), ih hfs]

theorem singletons_inj {us : List Tree} (h : ts.map (fun u => [u]) = us.map fun u => [u]) : ts = us :=
  List.map_injective_iff.2 (fun _ _ huv => (List.cons.inj huv).1) h

/-- The values of the fields are determined by the tree. -/
theorem hasFields_unique {us : List Tree} (hts : t.HasFields wanted ts) (hus : t.HasFields wanted us) : ts = us := by
  rcases hts with ⟨rfl, -⟩ | ⟨es, ⟨ms, rfl, hes⟩, hts⟩
  · rcases hus with ⟨hsame, -⟩ | ⟨_, ⟨_, hsame, -⟩, -⟩
    · cases hsame
      rfl
    · cases hsame
  · rcases hus with ⟨hsame, -⟩ | ⟨fs, ⟨ns, hsame, hfs⟩, hus⟩
    · cases hsame
    · cases hsame
      rw [← named_unique hes hfs] at hus
      exact singletons_inj (hts.symm.trans hus)

theorem not_hasFields_of_lacks (h : t.Lacks wanted) : ¬ t.HasFields wanted ts := by
  rintro (⟨rfl, hlength⟩ | ⟨es, ⟨ms, rfl, hes⟩, hvalues⟩)
  · exact h hlength
  · obtain ⟨name, hname, hcount⟩ := h es hes
    have hmem : valuesOf name es ∈ ts.map fun u => [u] := by
      rw [← hvalues]
      exact List.mem_map.2 ⟨name, hname, rfl⟩
    obtain ⟨u, -, hu⟩ := List.mem_map.1 hmem
    rw [← hu] at hcount
    exact hcount rfl

/-- A tree that refutes the fields though it has them has a null among them. -/
theorem null_mem_of_refutes (h : t.Refutes wanted) (hts : t.HasFields wanted ts) : .null ∈ ts := by
  rcases h with hlacks | ⟨us, hus, hnull⟩
  · exact absurd hts (not_hasFields_of_lacks hlacks)
  · rw [hasFields_unique hts hus]
    exact hnull

/-- A tree with fields is a list or an object. -/
theorem shape_of_hasFields (h : t.HasFields wanted ts) : t.shape = .array ∨ t.shape = .object := by
  rcases h with ⟨rfl, -⟩ | ⟨es, ⟨ms, rfl, -⟩, -⟩
  · exact .inl rfl
  · exact .inr rfl

def Fields.names : Fields → List String
  | .none => []
  | .field name _ others => name :: others.names

/-- No field may be absent. -/
def Fields.Needed : Fields → Prop
  | .none => True
  | .field _ schema others => schema.absent = Option.none ∧ others.Needed

theorem valuesOf_without (h : key ≠ name) : valuesOf key (without name es) = valuesOf key es := by
  simp only [valuesOf, without, List.filter_filter]
  congr 1
  refine List.filter_congr fun e _ => ?_
  by_cases hkey : e.1 = key
  · simp [hkey, h]
  · simp [hkey]

/-- Each needed field has a single member, and the values of all of them fit the row. -/
theorem Fields.fitsMembers_iff : (fields : Fields) → fields.Needed → fields.names.Nodup →
    (es : List (String × Tree)) → (row : fields.Row) →
    (fields.FitsMembers levels es row ↔
      ∃ ts, fields.names.map (fun name => valuesOf name es) = ts.map (fun u => [u]) ∧ fields.FitsRow levels ts row)
  | .none, _, _, es, row => by
    constructor
    · intro _
      exact ⟨[], rfl, rfl⟩
    · intro _
      trivial
  | .field name schema others, hneeded, hnodup, es, row => by
    obtain ⟨habsent, hothers⟩ := hneeded
    obtain ⟨hname, hnodup⟩ := List.nodup_cons.1 hnodup
    have hvalues : others.names.map (fun key => valuesOf key (without name es)) =
        others.names.map fun key => valuesOf key es := by
      refine List.map_congr_left fun key hkey => valuesOf_without ?_
      rintro rfl
      exact hname hkey
    simp only [Fields.FitsMembers, others.fitsMembers_iff hothers hnodup, hvalues, FitsOnce, habsent, reduceCtorEq,
      and_false, or_false, Fields.names, List.map_cons, Fields.FitsRow]
    constructor
    · rintro ⟨⟨t, ht, hfits⟩, ts, hts, hrow⟩
      exact ⟨t :: ts, by rw [ht, hts, List.map_cons], t, ts, rfl, hfits, hrow⟩
    · rintro ⟨_, hts, t, more, rfl, hfits, hrow⟩
      obtain ⟨ht, hmore⟩ := List.cons.inj hts
      exact ⟨⟨t, ht, hfits⟩, more, hmore, hrow⟩

/-- A row has as many items as there are fields. -/
theorem Fields.length_of_fitsRow : (fields : Fields) → (ts : List Tree) → (row : fields.Row) →
    fields.FitsRow levels ts row → ts.length = fields.names.length
  | .none, _, _, h => by
    cases h
    rfl
  | .field _ _ others, _, row, h => by
    obtain ⟨t, more, rfl, -, hrow⟩ := h
    exact congrArg (· + 1) (others.length_of_fitsRow more row.2 hrow)

/-- Both say the same of a field: the same values in any order, or nothing and null if the field may be absent. -/
def SaySame (schema : Schema) (ts us : List Tree) : Prop :=
  ts.Perm us ∨ (schema.absent ≠ none ∧ (ts = [] ∨ ts = [.null]) ∧ (us = [] ∨ us = [.null]))

/-- Both say the same of every declared field. -/
def Fields.SaySame : Fields → (es fs : List (String × Tree)) → Prop
  | .none, _, _ => True
  | .field name schema others, es, fs =>
    Json.SaySame schema (valuesOf name es) (valuesOf name fs) ∧ others.SaySame (without name es) (without name fs)

/-- The declared fields of a record. -/
def Schema.fields : Schema → Fields
  | .record _ fields => fields
  | _ => .none

/-- Only an optional field may be absent. -/
theorem exists_optional_of_absent {schema : Schema} (h : schema.absent ≠ none) : ∃ inner, schema = .optional inner := by
  cases schema with
  | optional inner => exact ⟨inner, rfl⟩
  | _ => exact absurd rfl h

/-- A field that may be absent has no value both where nothing stands and where null does. -/
theorem fitsOnce_optional_iff {inner : Schema} {v : Option inner.Carrier} (hts : ts = [] ∨ ts = [.null]) :
    FitsOnce ((Schema.optional inner).Fits levels) (Schema.optional inner).absent ts v ↔ v = none := by
  constructor
  · rintro (⟨t, rfl, hfits⟩ | ⟨-, habsent⟩)
    · rcases hts with hts | hts
      · cases hts
      · cases hts
        cases v with
        | none => rfl
        | some a => exact absurd rfl hfits.1
    · exact (Option.some.inj habsent).symm
  · rintro rfl
    rcases hts with rfl | rfl
    · exact .inr ⟨rfl, rfl⟩
    · exact .inl ⟨.null, rfl, rfl⟩

/-- What is said of a field in another way fits as well. -/
theorem fitsOnce_of_saySame {schema : Schema} {us : List Tree} {v : schema.Carrier} (hsame : SaySame schema ts us)
    (h : FitsOnce (schema.Fits levels) schema.absent ts v) : FitsOnce (schema.Fits levels) schema.absent us v := by
  rcases hsame with hperm | ⟨habsent, hts, hus⟩
  · rcases h with ⟨t, rfl, hv⟩ | ⟨rfl, hv⟩
    · exact .inl ⟨t, List.perm_singleton.1 hperm.symm, hv⟩
    · exact .inr ⟨List.perm_nil.1 hperm.symm, hv⟩
  · obtain ⟨inner, rfl⟩ := exists_optional_of_absent habsent
    exact (fitsOnce_optional_iff hus).2 ((fitsOnce_optional_iff hts).1 h)

/-- Members fit by what they say of the declared fields; their order and other members are of no account. -/
theorem Fields.fitsMembers_of_saySame : (fields : Fields) → (es fs : List (String × Tree)) → (row : fields.Row) →
    fields.SaySame es fs → fields.FitsMembers levels es row → fields.FitsMembers levels fs row
  | .none, _, _, _, _, _ => trivial
  | .field _ _ others, _, _, row, hsame, hmembers =>
    ⟨fitsOnce_of_saySame hsame.1 hmembers.1, others.fitsMembers_of_saySame _ _ row.2 hsame.2 hmembers.2⟩

/-- An object stays a layout of a record when its members are put into another order, when others are added or left out,
and when null is written for a field that is absent, or left out. -/
theorem Schema.fits_record_of_saySame {record : String} {fields : Fields} {u : Tree} {fs : List (String × Tree)}
    {row : fields.Row} (ht : t.IsObject es) (hu : u.IsObject fs) (hsame : fields.SaySame es fs)
    (h : (Schema.record record fields).Fits levels t row) : (Schema.record record fields).Fits levels u row := by
  obtain ⟨ms, rfl, hes⟩ := ht
  obtain ⟨fewer, hlevels, ⟨_, harray, -⟩ | ⟨es', ⟨_, hobject, hes'⟩, hmembers⟩⟩ := h
  · cases harray
  · cases hobject
    rw [named_unique hes' hes] at hmembers
    exact ⟨fewer, hlevels, .inr ⟨fs, hu, fields.fitsMembers_of_saySame es fs row hsame hmembers⟩⟩

/-- A tree fits a record of needed fields if it has the fields and their values fit. -/
theorem Schema.fits_record_iff {record : String} {fields : Fields} (hneeded : fields.Needed) (hnodup : fields.names.Nodup)
    {row : fields.Row} :
    (Schema.record record fields).Fits (levels + 1) t row ↔
      ∃ ts, t.HasFields fields.names ts ∧ fields.FitsRow levels ts row := by
  constructor
  · rintro ⟨fewer, hlevels, ⟨ts, rfl, hrow⟩ | ⟨es, hes, hmembers⟩⟩
    · cases hlevels
      exact ⟨ts, .inl ⟨rfl, fields.length_of_fitsRow ts row hrow⟩, hrow⟩
    · cases hlevels
      obtain ⟨ts, hts, hrow⟩ := (fields.fitsMembers_iff hneeded hnodup es row).1 hmembers
      exact ⟨ts, .inr ⟨es, hes, hts⟩, hrow⟩
  · rintro ⟨ts, ⟨rfl, -⟩ | ⟨es, hes, hts⟩, hrow⟩
    · exact ⟨levels, rfl, .inl ⟨ts, rfl, hrow⟩⟩
    · exact ⟨levels, rfl, .inr ⟨es, hes, (fields.fitsMembers_iff hneeded hnodup es row).2 ⟨ts, hts, hrow⟩⟩⟩

end Fields

section Decoding

/-- Nothing is lost when a value of the schema is taken as an element. -/
class Described.Faithful (α : Type) [Described α] : Prop where
  toCarrier_ofCarrier : ∀ v : (Described.schema α).Carrier, Described.toCarrier (Described.ofCarrier v : α) = v

variable {α : Type} [Described α] [Described.Faithful α] {tracking : Tracking} {source : Bytes} {a : α} {t : Tree}

/-- Elements survive the way to their carriers and back. -/
theorem map_toCarrier_ofCarrier (vs : List (Described.schema α).Carrier) :
    (vs.map (@Described.ofCarrier α _)).map Described.toCarrier = vs := by
  rw [List.map_map]
  exact List.map_id'' Described.Faithful.toCarrier_ofCarrier vs

/-- The tree is a layout of the element, as deep as a text may be nested. -/
def Tree.Presents (t : Tree) (a : α) : Prop :=
  (Described.schema α).Fits deepest t (Described.toCarrier a)

/-- A text is read as an element if it is one of its layouts. -/
theorem decodeWith_eq_ok_iff_presents (hsource : IsText source) :
    decodeWith tracking α source = .ok a ↔ ∃ t, IsDocument source t ∧ t.Presents a := by
  have hfits : ∀ v, (Described.schema α).decode tracking source = .ok v ↔
      ∃ t, IsDocument source t ∧ (Described.schema α).Fits deepest t v :=
    fun _ => Schema.decode_eq_ok_iff_fits hsource
  show _ ↔ ∃ t, IsDocument source t ∧ (Described.schema α).Fits deepest t (Described.toCarrier a)
  rw [← hfits, decodeWith]
  cases (Described.schema α).decode tracking source with
  | error report => simp
  | ok v =>
    simp only [Except.ok.injEq]
    constructor
    · rintro rfl
      exact (Described.Faithful.toCarrier_ofCarrier v).symm
    · rintro rfl
      exact Described.ofCarrier_toCarrier a

/-- The tree of a text decides what the text is read as. -/
theorem decodeWith_document_eq_ok_iff (hsource : IsText source) (ht : IsDocument source t) :
    decodeWith tracking α source = .ok a ↔ t.Presents a := by
  rw [decodeWith_eq_ok_iff_presents hsource]
  constructor
  · rintro ⟨u, hu, hfits⟩
    rw [isDocument_unique ht hu]
    exact hfits
  · intro hfits
    exact ⟨t, ht, hfits⟩

end Decoding

end Json

end ChatOpening
