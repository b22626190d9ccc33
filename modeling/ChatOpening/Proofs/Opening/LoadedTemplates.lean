import Mathlib.Data.List.Dedup
import ChatOpening.Opening.Templates
import ChatOpening.Proofs.Json.Arranged

/-!
# Which templates are loaded

Templates come from a JSON text with one field, whose members are read into a dictionary.  A key may occur more than once
in the dictionary, and the field may not.

**Input.**  Any file, and any JSON text.

**Definitions.**
* `IsTemplates`: the tree is an object of texts with these members.
* `HoldsLast`: the dictionary has for each key the text of its last member.

**Results.**
* `fits_dictionary_iff`: what is read as a dictionary.
* `ofText_eq_ok_iff`: what is read as templates.
* `ofText_templatesText`: a dictionary is read from what is written for it, in any order.
* `load_reads_templates`: what is loaded from a file.
-/

namespace ChatOpening

open Json

instance : Described.Faithful IntroTemplates where
  toCarrier_ofCarrier _ := rfl

section Dictionaries

variable {t : Tree} {fs : List (String × Tree)} {d : Dictionary String} {key s : String} {levels : Nat}

/-- The tree is an object of texts with these members. -/
def IsTemplates (t : Tree) (fs : List (String × Tree)) : Prop :=
  t.IsObject fs ∧ ∀ f ∈ fs, ∃ s, f.2.MeansText s

/-- Each key has the text of its last member, and a key without members has none. -/
def HoldsLast (d : Dictionary String) (fs : List (String × Tree)) : Prop :=
  ∀ key s, d.get? key = some s ↔ ∃ t, (valuesOf key fs).getLast? = some t ∧ t.MeansText s

theorem meansText_unique : Relator.RightUnique Tree.MeansText := by
  rintro _ s s' ⟨ps, rfl, hs⟩ ⟨_, hps, hs'⟩
  cases hps
  exact String.toList_inj.1 (denotes_unique hs hs')

/-- Under each key the last text is found. -/
theorem get?_gathered (key : String) (vs : List (String × String)) :
    (gathered Dictionary.insert Dictionary.empty vs).get? key = vs.reverse.lookup key := by
  rw [Dictionary.get?, gathered_insert, lookup_foldl_putEntry]
  exact congrArg (List.lookup key) (List.append_nil _)

/-- The gathered texts are the last ones of their keys. -/
theorem holdsLast_gathered {vs : List (String × String)} (h : Entries Tree.MeansText fs vs) :
    HoldsLast (gathered Dictionary.insert Dictionary.empty vs) fs := by
  intro key s
  rw [get?_gathered]
  exact eq_some_iff_of_rel meansText_unique (rel_getLast_lookup key h)

/-- One dictionary holds the last texts of the members. -/
theorem HoldsLast.unique {e : Dictionary String} (hd : HoldsLast d fs) (he : HoldsLast e fs) : d = e := by
  refine Dictionary.ext (ordered_ext d.ordered e.ordered fun key => Option.ext fun s => ?_)
  exact (hd key s).trans (he key s).symm

theorem exists_texts (h : ∀ f ∈ fs, ∃ s, f.2.MeansText s) : ∃ vs, Entries Tree.MeansText fs vs := by
  obtain ⟨vs, hvs⟩ := exists_forall₂ (P := fun (v : String × String) f => f.1 = v.1 ∧ f.2.MeansText v.2) fun f hf =>
    (h f hf).imp' (Prod.mk f.1) fun _ hs => ⟨rfl, hs⟩
  exact ⟨vs, hvs.flip⟩

theorem isTemplates_of_entries {vs : List (String × String)} (ht : t.IsObject fs) (h : Entries Tree.MeansText fs vs) :
    IsTemplates t fs := by
  refine ⟨ht, fun f hf => ?_⟩
  obtain ⟨v, -, -, hv⟩ := exists_of_mem_right h.flip hf
  exact ⟨v.2, hv⟩

/-- An object of texts is read as a dictionary, in which a later member replaces an earlier one of its key. -/
theorem fits_dictionary_iff :
    Schema.dictionary.Fits (levels + 1) t d ↔ ∃ fs, IsTemplates t fs ∧ HoldsLast d fs := by
  constructor
  · rintro ⟨_, -, fs, vs, ht, hvs, rfl⟩
    exact ⟨fs, isTemplates_of_entries ht hvs, holdsLast_gathered hvs⟩
  · rintro ⟨fs, ⟨ht, htexts⟩, hd⟩
    obtain ⟨vs, hvs⟩ := exists_texts htexts
    exact ⟨levels, rfl, fs, vs, ht, hvs, hd.unique (holdsLast_gathered hvs)⟩

/-- There are as many entries as there are different keys. -/
theorem size_of_holdsLast (htexts : ∀ f ∈ fs, ∃ s, f.2.MeansText s) (hd : HoldsLast d fs) :
    d.size = (fs.map Prod.fst).dedup.length := by
  obtain ⟨vs, hvs⟩ := exists_texts htexts
  obtain rfl := hd.unique (holdsLast_gathered hvs)
  have hkeys : ∀ key, key ∈ (gathered Dictionary.insert Dictionary.empty vs).entries.map Prod.fst ↔
      key ∈ (fs.map Prod.fst).dedup := by
    intro key
    rw [List.mem_dedup, keys_eq_of_entries hvs, gathered_insert]
    exact mem_keys_foldl_putEntry
  have hperm := (List.perm_ext_iff_of_nodup (nodup_keys_of_ordered (Dictionary.ordered _)) (List.nodup_dedup _)).2 hkeys
  rw [Dictionary.size, ← hperm.length_eq, List.length_map]

end Dictionaries

section Texts

variable {source : String} {t : Tree} {templates : IntroTemplates}

/-- The templates are the texts of one field, each under its key. -/
theorem presents_templates_iff :
    t.Presents templates ↔ ∃ inner fs, t.HasFields ["intro_templates"] [inner] ∧ IsTemplates inner fs ∧
      HoldsLast templates.templates fs := by
  have hneeded : IntroTemplates.schema.fields.Needed := ⟨rfl, trivial⟩
  have hnodup : IntroTemplates.schema.fields.names.Nodup := List.nodup_singleton _
  refine (Schema.fits_record_iff hneeded hnodup).trans ?_
  constructor
  · rintro ⟨_, ht, inner, _, rfl, hinner, rfl⟩
    obtain ⟨fs, hfs, hd⟩ := fits_dictionary_iff.1 hinner
    exact ⟨inner, fs, ht, hfs, hd⟩
  · rintro ⟨inner, fs, ht, hfs, hd⟩
    exact ⟨[inner], ht, inner, [], rfl, fits_dictionary_iff.2 ⟨fs, hfs, hd⟩, rfl⟩

theorem ofText_eq_ok_iff_decode :
    IntroTemplates.ofText source = .ok templates ↔
      decodeWith .off IntroTemplates (Text.bytes source) = .ok templates := by
  rw [IntroTemplates.ofText, decode]
  cases decodeWith .off IntroTemplates (Text.bytes source) <;> simp

/-- A text is read as templates if it has the one field, and the field is an object of texts. -/
theorem ofText_eq_ok_iff (ht : IsDocument (Text.bytes source) t) :
    IntroTemplates.ofText source = .ok templates ↔ ∃ inner fs, t.HasFields ["intro_templates"] [inner] ∧
      IsTemplates inner fs ∧ HoldsLast templates.templates fs :=
  ofText_eq_ok_iff_decode.trans
    ((decodeWith_document_eq_ok_iff (Text.isText_bytes source) ht).trans presents_templates_iff)

/-- What is not read is malformed. -/
theorem exists_malformed_of_ne_ok (h : ∀ templates, IntroTemplates.ofText source ≠ .ok templates) :
    ∃ report, IntroTemplates.ofText source = .error (.malformed report) := by
  rw [IntroTemplates.ofText] at h ⊢
  cases hread : decode IntroTemplates (Text.bytes source) with
  | error report => exact ⟨report, rfl⟩
  | ok templates =>
    rw [hread] at h
    exact absurd rfl (h templates)

/-- What is written for templates, in the given order. -/
def templatesText (entries : List (String × String)) : String :=
  writtenObject [("intro_templates", writtenObject (entries.map fun e => (e.1, writtenText e.2)))]

/-- Entries in any order make up the same dictionary. -/
theorem gathered_of_perm {entries : List (String × String)} {d : Dictionary String} (h : entries.Perm d.entries) :
    gathered Dictionary.insert Dictionary.empty entries = d := by
  have hreverse : entries.reverse.Perm d.entries := entries.reverse_perm.trans h
  have hnodup : (entries.reverse.map Prod.fst).Nodup :=
    (hreverse.map Prod.fst).nodup_iff.2 (nodup_keys_of_ordered d.ordered)
  refine Dictionary.ext (ordered_ext (Dictionary.ordered _) d.ordered fun key => ?_)
  exact (get?_gathered key entries).trans (lookup_eq_of_perm hnodup hreverse key)

/-- Templates that are written are read back. -/
theorem ofText_templatesText {entries : List (String × String)} {d : Dictionary String} (h : entries.Perm d.entries) :
    IntroTemplates.ofText (templatesText entries) = .ok ⟨d⟩ := by
  obtain ⟨fs, hwritten, hvs⟩ := exists_entries_written entries
  obtain ⟨inner, hinner, hobject⟩ := exists_object_written hwritten
  obtain ⟨t, ht, hmembers⟩ := exists_object_written
    (.cons ⟨rfl, hinner⟩ .nil : Entries Tree.WrittenAs [("intro_templates", inner)] [("intro_templates", _)])
  refine (ofText_eq_ok_iff (isDocument_of_writtenAs ht)).2 ⟨inner, fs, .inr ⟨_, hmembers, ?_⟩, ?_, ?_⟩
  · simp [valuesOf]
  · exact isTemplates_of_entries hobject hvs
  · exact gathered_of_perm h ▸ holdsLast_gathered hvs

end Texts

section Loading

variable {files : Files} {path source : String} {t : Tree} {es : List (String × Tree)}

theorem text_of_bytes (h : files path = .ok (Text.bytes source)) : files.text path = .ok source := by
  have hread : Text.ofBytes? (Text.bytes source) = some source := Text.ofBytes?_eq_some_iff.2 rfl
  simp only [Files.text, h, hread]

theorem text_of_not_utf8 {content : Bytes} (h : files path = .ok content) (hcontent : ∀ s, content ≠ Text.bytes s) :
    files.text path = .error .notUtf8 := by
  have hread : Text.ofBytes? content = none := Text.ofBytes?_eq_none_iff.2 hcontent
  simp only [Files.text, h, hread]

/-- The templates in a file are those in its text, and they are counted. -/
theorem load_of_text (h : files.text path = .ok source) :
    IntroTemplates.load files path =
      (IntroTemplates.ofText source,
        match IntroTemplates.ofText source with
        | .ok templates => [⟨.info, .templates, s!"Loaded {templates.templates.size} intro templates from '{path}'"⟩]
        | .error _ => []) := by
  simp only [IntroTemplates.load, h]
  cases IntroTemplates.ofText source <;> rfl

theorem singleton_of_hasFields {inner : Tree} (ht : t.IsObject es) (h : t.HasFields ["intro_templates"] [inner]) :
    valuesOf "intro_templates" es = [inner] := by
  obtain ⟨ms, rfl, hes⟩ := ht
  rcases h with ⟨harray, -⟩ | ⟨fs, ⟨_, hobject, hfs⟩, hvalues⟩
  · cases harray
  · cases hobject
    rw [named_unique hes hfs]
    exact (List.cons.inj hvalues).1

/-- An object is read as templates if its only member of their name is an object of texts. -/
theorem ofText_of_isTemplates {inner : Tree} {fs : List (String × Tree)} (ht : IsDocument (Text.bytes source) t)
    (hes : t.IsObject es) (hinner : valuesOf "intro_templates" es = [inner]) (hfs : IsTemplates inner fs) :
    ∃ templates, IntroTemplates.ofText source = .ok templates ∧ HoldsLast templates.templates fs ∧
      templates.templates.size = (fs.map Prod.fst).dedup.length := by
  obtain ⟨vs, hvs⟩ := exists_texts hfs.2
  have hd := holdsLast_gathered hvs
  refine ⟨⟨_⟩, (ofText_eq_ok_iff ht).2 ⟨inner, fs, .inr ⟨es, hes, ?_⟩, hfs, hd⟩, hd, size_of_holdsLast hfs.2 hd⟩
  simp [hinner]

/-- A document without templates is reported. -/
theorem malformed_of_not_isTemplates (ht : IsDocument (Text.bytes source) t) (hes : t.IsObject es)
    (h : ∀ inner fs, valuesOf "intro_templates" es = [inner] → ¬ IsTemplates inner fs) :
    ∃ report, IntroTemplates.ofText source = .error (.malformed report) := by
  refine exists_malformed_of_ne_ok fun templates hread => ?_
  obtain ⟨inner, fs, hfields, hfs, -⟩ := (ofText_eq_ok_iff ht).1 hread
  exact h inner fs (singleton_of_hasFields hes hfields) hfs

/-- A file that is no text is unreadable; any other is read as its text is, and the record of its success counts the
entries.  An object with a single member `intro_templates` that is an object of texts is read as the dictionary with the
last text of each key.  The text is malformed if there is no such member or more than one, if one of the members inside
it, even one that is replaced later, is no text, and if the name of a member means no text.  Every dictionary is read from what is
written for it, in whatever order. -/
theorem load_reads_templates (files : Files) (path : String) :
    (∀ content, files path = .ok content → (∀ s, content ≠ Text.bytes s) →
      IntroTemplates.load files path = (.error (.unreadable .notUtf8), [])) ∧
    (∀ source, files path = .ok (Text.bytes source) →
      IntroTemplates.load files path =
        (IntroTemplates.ofText source,
          match IntroTemplates.ofText source with
          | .ok templates => [⟨.info, .templates, s!"Loaded {templates.templates.size} intro templates from '{path}'"⟩]
          | .error _ => [])) ∧
    (∀ source t es, IsDocument (Text.bytes source) t → t.IsObject es →
      (∀ inner fs, valuesOf "intro_templates" es = [inner] → inner.IsObject fs → (∀ f ∈ fs, ∃ s, f.2.MeansText s) →
        ∃ templates, IntroTemplates.ofText source = .ok templates ∧
          (∀ key s, templates.templates.get? key = some s ↔
            ∃ u, (valuesOf key fs).getLast? = some u ∧ u.MeansText s) ∧
          templates.templates.size = (fs.map Prod.fst).dedup.length) ∧
      (∀ inner fs, valuesOf "intro_templates" es = [inner] → inner.IsObject fs → (∃ f ∈ fs, ∀ s, ¬ f.2.MeansText s) →
        ∃ report, IntroTemplates.ofText source = .error (.malformed report)) ∧
      (∀ ns, valuesOf "intro_templates" es = [.object ns] → (∀ fs, ¬ Named ns fs) →
        ∃ report, IntroTemplates.ofText source = .error (.malformed report)) ∧
      ((valuesOf "intro_templates" es).length ≠ 1 →
        ∃ report, IntroTemplates.ofText source = .error (.malformed report))) ∧
    (∀ source ms, IsDocument (Text.bytes source) (.object ms) → (∀ es, ¬ Named ms es) →
      ∃ report, IntroTemplates.ofText source = .error (.malformed report)) ∧
    ∀ (d : Dictionary String) (entries : List (String × String)), entries.Perm d.entries →
      IntroTemplates.ofText (templatesText entries) = .ok ⟨d⟩ := by
  refine ⟨?unread, ?text, ?object, ?unnamed, fun _ _ => ofText_templatesText⟩
  case unread =>
    intro content hfile hcontent
    simp only [IntroTemplates.load, text_of_not_utf8 hfile hcontent]
  case text =>
    intro source hfile
    exact load_of_text (text_of_bytes hfile)
  case object =>
    intro source t es ht hes
    refine ⟨?_, ?_, ?_, ?_⟩
    · intro inner fs hinner hobject htexts
      exact ofText_of_isTemplates ht hes hinner ⟨hobject, htexts⟩
    · rintro inner fs hinner ⟨ns, rfl, hfs⟩ ⟨f, hf, hnot⟩
      refine malformed_of_not_isTemplates ht hes fun inner' fs' hinner' => ?_
      cases hinner.symm.trans hinner'
      rintro ⟨⟨_, hobject, hfs'⟩, htexts⟩
      cases hobject
      cases named_unique hfs hfs'
      obtain ⟨s, hs⟩ := htexts f hf
      exact hnot s hs
    · intro ns hinner hnames
      refine malformed_of_not_isTemplates ht hes fun inner' fs' hinner' => ?_
      cases hinner.symm.trans hinner'
      rintro ⟨⟨_, hobject, hfs'⟩, -⟩
      cases hobject
      exact hnames fs' hfs'
    · intro hcount
      refine malformed_of_not_isTemplates ht hes fun inner fs hinner => ?_
      exact absurd (congrArg List.length hinner) hcount
  case unnamed =>
    intro source ms ht hnames
    refine exists_malformed_of_ne_ok fun templates hread => ?_
    obtain ⟨inner, fs, ⟨harray, -⟩ | ⟨es, ⟨_, hobject, hes⟩, -⟩, -⟩ := (ofText_eq_ok_iff ht).1 hread
    · cases harray
    · cases hobject
      exact hnames es hes

/-- A single member whose text is half of a surrogate pair. -/
def loneSurrogateText : String :=
  "\x7b\"intro_templates\":\x7b\"a\":\"\\ud800\"\x7d\x7d"

/-- A text may be well formed and yet mean nothing: an escaped surrogate needs another one beside it. -/
theorem not_meansText_loneSurrogate (s : String) : ¬ (Tree.text [.unit 0xD800]).MeansText s := by
  rintro ⟨_, hps, hdenotes⟩
  cases hps
  generalize s.toList = cs at hdenotes
  cases hdenotes with
  | unit hhigh _ _ => cases hhigh

/-- An object whose only member is an object of texts, of which none is loaded. -/
theorem loneSurrogate_not_loaded :
    ∃ (t inner : Tree) (es fs : List (String × Tree)), IsDocument (Text.bytes loneSurrogateText) t ∧ t.IsObject es ∧
      valuesOf "intro_templates" es = [inner] ∧ inner.IsObject fs ∧ (∀ f ∈ fs, ∃ ps, f.2 = .text ps) ∧
      ∀ templates, IntroTemplates.ofText loneSurrogateText ≠ .ok templates := by
  obtain ⟨inner, hinner, hobject⟩ := exists_object_written
    (.cons ⟨rfl, writtenAs_loneSurrogate⟩ .nil : Entries Tree.WrittenAs [("a", .text [.unit 0xD800])] [("a", "\"\\ud800\"")])
  obtain ⟨t, ht, hmembers⟩ := exists_object_written
    (.cons ⟨rfl, hinner⟩ .nil : Entries Tree.WrittenAs [("intro_templates", inner)] [("intro_templates", _)])
  have hwritten : writtenObject [("intro_templates", writtenObject [("a", "\"\\ud800\"")])] = loneSurrogateText := by
    decide
  have hdocument : IsDocument (Text.bytes loneSurrogateText) t := by
    rw [← hwritten]
    exact isDocument_of_writtenAs ht
  have hvalues : valuesOf "intro_templates" [("intro_templates", inner)] = [inner] := by
    simp [valuesOf]
  refine ⟨t, inner, _, _, hdocument, hmembers, hvalues, hobject, by simp, fun templates hread => ?_⟩
  obtain ⟨inner', fs, hfields, ⟨⟨ns, hinner', hfs⟩, htexts⟩, -⟩ := (ofText_eq_ok_iff hdocument).1 hread
  cases hvalues.symm.trans (singleton_of_hasFields hmembers hfields)
  obtain ⟨ms, rfl, hms⟩ := hobject
  cases hinner'
  cases named_unique hms hfs
  obtain ⟨s, hs⟩ := htexts _ List.mem_cons_self
  exact not_meansText_loneSurrogate s hs

end Loading

end ChatOpening
