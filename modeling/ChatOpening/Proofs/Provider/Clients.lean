import ChatOpening.Provider.Config
import ChatOpening.Proofs.Text.Encoding
import ChatOpening.Proofs.Text.WhiteSpace

/-!
# Which clients can be built

A client is built for a configuration of its own kind.  The kind that authorizes its requests needs a key besides, which
is looked at twice: it must not be blank, as a text, and it must be fit for a header, as bytes.

**Input.**  Any configuration: of either kind, with or without a key, a model and an address, which may be any texts.

**Results.**
* `isSendable_iff`: the bytes of a key are fit for a header exactly if it has no ASCII control but tabs.
* `build_openai_cases`: what becomes of a configuration of the kind that authorizes its requests.
* `build_outcome`: when a client is built, with which fault it is not, and what it reports.
-/

namespace ChatOpening

/-- The key has a character that is not white space. -/
def HasContent (key : String) : Prop :=
  ∃ c ∈ key.toList, ¬ Text.IsWhiteSpace c

/-- Every byte of the key may stand in the value of a header. -/
def IsSendable (key : String) : Prop :=
  ∀ b ∈ Text.bytes key, b = 0x09 ∨ (0x20 ≤ b ∧ b ≠ 0x7F)

/-- The key has no control of the ASCII range other than the tab. Characters beyond that range may be controls. -/
def HasNoControl (key : String) : Prop :=
  ∀ c ∈ key.toList, (c < '\u0020' → c = '\t') ∧ c ≠ '\u007F'

instance (key : String) : Decidable (HasContent key) :=
  List.decidableBEx (fun c => ¬ Text.IsWhiteSpace c) key.toList

instance (key : String) : Decidable (IsSendable key) :=
  List.decidableBAll (fun b => b = 0x09 ∨ (0x20 ≤ b ∧ b ≠ 0x7F)) (Text.bytes key)

section Keys

variable {k : String} {key : Option String} {c : Char}

theorem not_isAllBlank_iff : (!Text.isAllBlank k) = true ↔ HasContent k := by
  rw [Bool.not_eq_true', ← Bool.not_eq_true, Text.isAllBlank_iff, HasContent]
  simp only [Classical.not_forall, exists_prop]

/-- A key can be sent exactly if no byte of it is a control. -/
theorem all_isHeaderByte_iff : (Text.bytes k).all Client.isHeaderByte = true ↔ IsSendable k := by
  simp only [List.all_eq_true, Client.isHeaderByte, IsSendable, Bool.or_eq_true, Bool.and_eq_true, decide_eq_true_eq,
    or_comm]

/-- An ASCII character is one byte, and the bytes of any other character may all stand in a header. -/
theorem sendable_char_iff :
    (∀ b ∈ String.utf8EncodeChar c, b = 0x09 ∨ (0x20 ≤ b ∧ b ≠ 0x7F)) ↔
      (c < '\u0020' → c = '\t') ∧ c ≠ '\u007F' := by
  have hlt : c < '\u0020' ↔ c.toNat < 0x20 := Iff.rfl
  rw [hlt, Ne, Text.char_eq_iff, Text.char_eq_iff]
  rcases Nat.lt_or_ge c.toNat 0x80 with hascii | hbeyond
  · have hsize : c.toNat < UInt8.size := Nat.lt_trans hascii (by decide)
    simp only [Text.utf8EncodeChar_ascii hascii, List.forall_mem_singleton, UInt8.le_iff_toNat_le, ne_eq,
      ← UInt8.toNat_inj, UInt8.toNat_ofNat_of_lt' hsize, UInt8.reduceToNat, Char.reduceToNat]
    omega
  · refine iff_of_true (fun b hb => .inr ?_) ?_
    · have hhigh := Text.high_of_mem_utf8EncodeChar hbeyond hb
      simp only [UInt8.le_iff_toNat_le, ne_eq, ← UInt8.toNat_inj, UInt8.reduceToNat] at hhigh ⊢
      omega
    · simp only [Char.reduceToNat]
      omega

/-- On the level of characters: a key can be sent if it has no control but the tab. -/
theorem isSendable_iff : IsSendable k ↔ HasNoControl k := by
  simp only [IsSendable, HasNoControl, Text.bytes_eq_flatMap, List.mem_flatMap, ← sendable_char_iff]
  constructor
  · intro h c hc b hb
    exact h b ⟨c, hc, hb⟩
  · rintro h b ⟨c, hc, hb⟩
    exact h c hc b hb

/-- A key is usable if something in it can be seen. -/
theorem usableKey_eq_some_iff : Client.usableKey key = some k ↔ key = some k ∧ HasContent k := by
  rw [Client.usableKey, Option.filter_eq_some_iff, not_isAllBlank_iff]

/-- A key is not usable if there is none, or if it is blank. -/
theorem usableKey_eq_none_iff : Client.usableKey key = none ↔ ∀ k, key = some k → ¬ HasContent k := by
  simp only [Client.usableKey, Option.filter_eq_none_iff, not_isAllBlank_iff]

end Keys

section Builds

variable {config : ClientConfig} {kind : Provider} {client : Client} {k : String}

/-- A client refuses a configuration for the other one. -/
theorem build_of_other_kind (h : config.provider ≠ kind) :
    Client.build kind config = .error (.wrongProvider kind config.provider) := by
  simp [Client.build, h]

theorem build_ollama (h : config.provider = .ollama) : Client.build .ollama config = .ok (Client.ollama config) := by
  simp [Client.build, h]

/-- Without a usable key there is no client. -/
theorem build_openai_of_unusable (h : config.provider = .openai) (hkey : Client.usableKey config.apiKey = none) :
    Client.build .openai config = .error .keyRequired := by
  simp [Client.build, h, hkey]

/-- A key that cannot be sent makes no client. -/
theorem build_openai_of_unsendable (h : config.provider = .openai) (hkey : Client.usableKey config.apiKey = some k)
    (hbytes : ¬ IsSendable k) : Client.build .openai config = .error .keyFormat := by
  have hall : ¬ (Text.bytes k).all Client.isHeaderByte = true := mt all_isHeaderByte_iff.1 hbytes
  simp only [Client.build, h, hkey, hall]
  rfl

theorem build_openai_of_sendable (h : config.provider = .openai) (hkey : Client.usableKey config.apiKey = some k)
    (hbytes : IsSendable k) : Client.build .openai config = .ok (Client.openai config k) := by
  have hall : (Text.bytes k).all Client.isHeaderByte = true := all_isHeaderByte_iff.2 hbytes
  simp only [Client.build, h, hkey, hall]
  rfl

/-- There is no key with content, or there is one that cannot be sent, or there is one that can. -/
theorem build_openai_cases (h : config.provider = .openai) :
    ((∀ k, config.apiKey = some k → ¬ HasContent k) ∧ Client.build .openai config = .error .keyRequired) ∨
      (∃ k, config.apiKey = some k ∧ HasContent k ∧ ¬ HasNoControl k ∧
        Client.build .openai config = .error .keyFormat) ∨
      ∃ k, config.apiKey = some k ∧ HasContent k ∧ HasNoControl k ∧
        Client.build .openai config = .ok (Client.openai config k) := by
  cases hkey : Client.usableKey config.apiKey with
  | none => exact .inl ⟨usableKey_eq_none_iff.1 hkey, build_openai_of_unusable h hkey⟩
  | some k =>
    obtain ⟨hgiven, hcontent⟩ := usableKey_eq_some_iff.1 hkey
    by_cases hbytes : IsSendable k
    · exact .inr (.inr ⟨k, hgiven, hcontent, isSendable_iff.1 hbytes, build_openai_of_sendable h hkey hbytes⟩)
    · exact .inr (.inl ⟨k, hgiven, hcontent, mt isSendable_iff.2 hbytes, build_openai_of_unsendable h hkey hbytes⟩)

/-- The wrong type is reported exactly if the types differ. -/
theorem wrongProvider_iff : (∃ client configured, Client.build kind config = .error (.wrongProvider client configured)) ↔
    config.provider ≠ kind := by
  constructor
  · rintro ⟨client, configured, hfault⟩ hsame
    cases kind with
    | ollama =>
      rw [build_ollama hsame] at hfault
      cases hfault
    | openai =>
      rcases build_openai_cases hsame with ⟨-, h⟩ | ⟨k, -, -, -, h⟩ | ⟨k, -, -, -, h⟩ <;>
        · rw [h] at hfault
          cases hfault
  · intro hother
    exact ⟨kind, config.provider, build_of_other_kind hother⟩

/-- A client that is built reports what is configured, and the default of its kind where nothing is. -/
theorem reports_of_build (h : Client.build kind config = .ok client) :
    client.provider = kind ∧ client.model = config.model.getD kind.defaultModel ∧
      client.baseUrl = config.baseUrl.getD kind.defaultBase := by
  by_cases hsame : config.provider = kind
  · cases kind with
    | ollama =>
      rw [build_ollama hsame] at h
      cases h
      exact ⟨rfl, rfl, rfl⟩
    | openai =>
      rcases build_openai_cases hsame with ⟨-, hbuild⟩ | ⟨k, -, -, -, hbuild⟩ | ⟨k, -, -, -, hbuild⟩
      · rw [hbuild] at h
        cases h
      · rw [hbuild] at h
        cases h
      · rw [hbuild] at h
        cases h
        exact ⟨rfl, rfl, rfl⟩
  · rw [build_of_other_kind hsame] at h
    cases h

/-- What becomes of a configuration whose client needs a key depends on the key alone; that it is missing is reported
before its form. -/
theorem build_openai_iff (h : config.provider = .openai) :
    ((∃ c, Client.build .openai config = .ok c) ↔ ∃ k, config.apiKey = some k ∧ HasContent k ∧ HasNoControl k) ∧
      (Client.build .openai config = .error .keyRequired ↔ ∀ k, config.apiKey = some k → ¬ HasContent k) ∧
      (Client.build .openai config = .error .keyFormat ↔
        ∃ k, config.apiKey = some k ∧ HasContent k ∧ ¬ HasNoControl k) := by
  rcases build_openai_cases h with ⟨hblank, hbuild⟩ | ⟨k, hgiven, hcontent, hcontrol, hbuild⟩ |
    ⟨k, hgiven, hcontent, hcontrol, hbuild⟩
  · have hnone : ∀ {Q : String → Prop}, ¬ ∃ k, config.apiKey = some k ∧ HasContent k ∧ Q k := by
      rintro Q ⟨k, hgiven, hcontent, -⟩
      exact hblank k hgiven hcontent
    rw [hbuild]
    refine ⟨iff_of_false ?_ hnone, iff_of_true rfl hblank, iff_of_false ?_ hnone⟩
    · rintro ⟨c, hc⟩
      cases hc
    · intro hformat
      cases hformat
  · simp [hbuild, hgiven, hcontent, hcontrol]
  · simp [hbuild, hgiven, hcontent, hcontrol]

/-- A client never refuses the configuration that asks for it because of its kind. -/
theorem ofConfig_ne_wrongProvider (config : ClientConfig) (client configured : Provider) :
    Client.ofConfig config ≠ .error (.wrongProvider client configured) := by
  intro h
  have hother : config.provider ≠ config.provider := wrongProvider_iff.1 ⟨client, configured, h⟩
  exact hother rfl

/-- A configuration of another kind is refused for that, whatever its key.  A client of the kind that sends no key is always
built; one of the kind that authorizes its requests is built exactly if there is a key with content and without controls,
and a key without content is reported before a key with controls.  A configuration is never refused for its kind by the
client that it asks for.  A client that is built reports the configured model and address as they are, and the defaults of
its kind only where there are none. -/
theorem build_outcome (kind : Provider) (config : ClientConfig) :
    ((∃ client configured, Client.build kind config = .error (.wrongProvider client configured)) ↔
        config.provider ≠ kind)
      ∧
    (config.provider ≠ kind → ∀ key : Option String,
      Client.build kind { config with apiKey := key } = .error (.wrongProvider kind config.provider))
      ∧
    (config.provider = .ollama → ∀ key : Option String, ∃ c, Client.build .ollama { config with apiKey := key } = .ok c)
      ∧
    (config.provider = .openai →
      ((∃ c, Client.build .openai config = .ok c) ↔ ∃ k, config.apiKey = some k ∧ HasContent k ∧ HasNoControl k) ∧
      (Client.build .openai config = .error .keyRequired ↔ ∀ k, config.apiKey = some k → ¬ HasContent k) ∧
      (Client.build .openai config = .error .keyFormat ↔
        ∃ k, config.apiKey = some k ∧ HasContent k ∧ ¬ HasNoControl k))
      ∧
    (Client.ofConfig config = Client.build config.provider config ∧
      ∀ client configured, Client.ofConfig config ≠ .error (.wrongProvider client configured))
      ∧
    (∀ c, Client.build kind config = .ok c →
      c.provider = kind ∧
      (∀ model, config.model = some model → c.model = model) ∧
      (config.model = none → c.model = if kind = .ollama then "cogito:3b" else "gpt-4o") ∧
      (∀ address, config.baseUrl = some address → c.baseUrl = address) ∧
      (config.baseUrl = none →
        c.baseUrl = if kind = .ollama then "http://localhost:11434" else "https://api.openai.com")) := by
  refine ⟨wrongProvider_iff, ?other, ?keyless, build_openai_iff, ⟨rfl, ofConfig_ne_wrongProvider config⟩, ?reported⟩
  case other =>
    intro hother key
    exact build_of_other_kind hother
  case keyless =>
    intro hsame key
    exact ⟨_, build_ollama hsame⟩
  case reported =>
    intro c h
    obtain ⟨hkind, hmodel, hbase⟩ := reports_of_build h
    refine ⟨hkind, ?_, ?_, ?_, ?_⟩
    · intro model hgiven
      rw [hmodel, hgiven, Option.getD_some]
    · intro hnone
      rw [hmodel, hnone, Option.getD_none]
      cases kind <;> rfl
    · intro address hgiven
      rw [hbase, hgiven, Option.getD_some]
    · intro hnone
      rw [hbase, hnone, Option.getD_none]
      cases kind <;> rfl

/-- A line break alone is no key, and behind a key it is a fault of its form. -/
example : Client.build .openai ⟨.openai, some "\n", none, none⟩ = .error .keyRequired ∧
    Client.build .openai ⟨.openai, some "k\n", none, none⟩ = .error .keyFormat :=
  ⟨rfl, rfl⟩

end Builds

end ChatOpening
