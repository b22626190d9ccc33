import ChatOpening.Proofs.Dictionary
import ChatOpening.Proofs.Startup.CommandLine

/-!
# Where the value of a parameter comes from

The command line comes first, then the variable, then the default.  What is read from a row of option groups is found by
joining `finish_line_iff` with what `complete` does with the progress at the end.

**Input.**  Any words, and any environment, whose values are any bytes.

**Results.**
* `complete_eq_ok_iff`: what the arguments are once the command line has been read.
* `read_line_iff`: which rows of groups are accepted, and what is read from them.
* `read_sources`: each parameter has its own value, from the first of its three sources; neither the order of the groups nor
  their spelling makes a difference.
-/

namespace ChatOpening

namespace Arguments

/-- The value of a parameter. -/
def value? (args : Arguments) : Parameter → Option String
  | .chatLlmType => some args.chatLlmType
  | .chatBaseUrl => args.chatBaseUrl
  | .chatApiKey => some args.chatApiKey
  | .chatModel => args.chatModel
  | .promptsPath => args.promptsPath
  | .serverAddr => some args.serverAddr
  | .serverApiKey => args.serverApiKey

/-- Whether a switch is on. -/
def isOn (args : Arguments) : Flag → Bool
  | .enableLlm => args.enableLlm
  | .debug => args.debug

/-- The group with its value, if there is one, behind an equals sign. -/
def Group.joined : Group → Group
  | apart q value _ => attached q value
  | g => g

namespace Line

def flags (line : Line) : List Flag :=
  line.groups.filterMap Group.flag?

def values (line : Line) : List (Parameter × String) :=
  line.groups.filterMap Group.value?

/-- The value that a parameter has on the line. -/
def value? (line : Line) (q : Parameter) : Option String :=
  line.values.lookup q

/-- No option is given twice. -/
def IsSingle (line : Line) : Prop :=
  (line.groups.map Group.option).Nodup

/-- The same options with the same values, in any order and in either spelling. -/
def SaysAs (line line' : Line) : Prop :=
  (line.groups.map Group.joined).Perm (line'.groups.map Group.joined)

/-- What has been read at the end of the line. -/
def progress (line : Line) : Progress :=
  ⟨line.flags.reverse, line.values.reverse, none, line.closed⟩

/-- What a parameter is to be: its value on the line, else in its variable, else its default. -/
def source? (line : Line) (env : Environment) (q : Parameter) : Option Bytes :=
  ((line.value? q).map Text.bytes).or ((env q.envName).or (q.default?.map Text.bytes))

end Line

section Gifts

variable {line line' : Line} {p : Progress} {gs : List Group} {q : Parameter} {f : Flag}

/-- The parameters that are given are those of the options. -/
theorem keys_values (gs : List Group) : (gs.filterMap Group.value?).map Prod.fst =
    (gs.map Group.option).filterMap fun | .parameter q => some q | _ => none := by
  rw [List.map_filterMap, List.filterMap_map]
  congr 1
  funext g
  cases g <;> rfl

/-- On a line without repetitions each parameter has one value. -/
theorem Line.IsSingle.keys (h : line.IsSingle) : (line.values.map Prod.fst).Nodup := by
  rw [values, keys_values]
  refine h.filterMap ?_
  intro o o' q ho ho'
  cases o <;> cases o' <;> simp_all

/-- Groups are put in front of what has been read, the last one first. -/
theorem foldl_put (gs : List Group) (p : Progress) : gs.foldl Progress.put p =
    { p with flags := (gs.filterMap Group.flag?).reverse ++ p.flags
             values := (gs.filterMap Group.value?).reverse ++ p.values } := by
  induction gs generalizing p with
  | nil => rfl
  | cons g gs ih => cases g <;> simp [ih, Progress.put, Group.flag?, Group.value?, List.filterMap_cons]

/-- What has been read is what stands on the line. -/
theorem Line.IsSingle.value?_progress (h : line.IsSingle) (q : Parameter) : line.progress.value? q = line.value? q :=
  (lookup_eq_of_perm h.keys (List.reverse_perm _).symm q).symm

/-- What does not depend on the spelling is the same up to the order. -/
theorem Line.SaysAs.map {β : Type} (h : line.SaysAs line') {k : Group → β} (hk : ∀ g, k g.joined = k g) :
    (line.groups.map k).Perm (line'.groups.map k) := by
  have hperm := List.Perm.map k h
  rwa [List.map_map, List.map_map, show k ∘ Group.joined = k from funext hk] at hperm

theorem Line.SaysAs.filterMap {β : Type} (h : line.SaysAs line') {k : Group → Option β} (hk : ∀ g, k g.joined = k g) :
    (line.groups.filterMap k).Perm (line'.groups.filterMap k) := by
  have hperm := (h.map hk).filterMap id
  rwa [List.filterMap_map, List.filterMap_map] at hperm

theorem Line.SaysAs.flags (h : line.SaysAs line') : line.flags.Perm line'.flags :=
  h.filterMap fun g => by cases g <;> rfl

theorem Line.SaysAs.values (h : line.SaysAs line') : line.values.Perm line'.values :=
  h.filterMap fun g => by cases g <;> rfl

theorem Line.SaysAs.isSingle_iff (h : line.SaysAs line') : line.IsSingle ↔ line'.IsSingle :=
  (h.map (k := Group.option) fun g => by cases g <;> rfl).nodup_iff

/-- The values do not depend on order or spelling. -/
theorem Line.SaysAs.value?_eq (h : line.SaysAs line') (hsingle : line.IsSingle) (q : Parameter) :
    line.value? q = line'.value? q :=
  lookup_eq_of_perm hsingle.keys h.values q

end Gifts

section Reading

variable {env : Environment} {args : Arguments} {line line' : Line} {p p' : Progress} {q : Parameter}

theorem map_bytes_injective : Function.Injective (Option.map Text.bytes) :=
  Option.map_injective fun _ _ => Text.bytes_injective

/-- A parameter comes from the command line, else from its variable. -/
theorem valueFromEnvironment_eq_ok_iff {found : Option String} : p.valueFromEnvironment env q = .ok found ↔
    found.map Text.bytes = ((p.value? q).map Text.bytes).or (env q.envName) := by
  have hbytes : ∀ s, found.map Text.bytes = some (Text.bytes s) ↔ some s = found := fun s =>
    (map_bytes_injective.eq_iff (b := some s)).trans eq_comm
  simp only [Progress.valueFromEnvironment]
  cases p.value? q with
  | some s => simp [hbytes]
  | none =>
    cases env q.envName with
    | none => simp [eq_comm]
    | some raw =>
      cases htext : Text.ofBytes? raw with
      | some s =>
        obtain rfl := Text.ofBytes?_eq_some_iff.1 htext
        simp [Text.ofBytes?_bytes, hbytes]
      | none =>
        have hraw : ∀ s, Text.bytes s ≠ raw := fun s => (Text.ofBytes?_eq_none_iff.1 htext s).symm
        simp [htext, hraw]

/-- If it is in neither, it has its default. -/
theorem exists_valueFromEnvironment_iff {value default : Option String} :
    (∃ found, p.valueFromEnvironment env q = .ok found ∧ value = found.or default) ↔
      value.map Text.bytes = ((p.value? q).map Text.bytes).or ((env q.envName).or (default.map Text.bytes)) := by
  rw [← Option.or_assoc]
  simp only [valueFromEnvironment_eq_ok_iff]
  cases hgiven : ((p.value? q).map Text.bytes).or (env q.envName) with
  | none => simp [map_bytes_injective.eq_iff]
  | some raw =>
    constructor
    · rintro ⟨found, hfound, rfl⟩
      obtain ⟨s, rfl, rfl⟩ := Option.map_eq_some_iff.1 hfound
      rfl
    · intro hvalue
      obtain ⟨s, rfl, rfl⟩ := Option.map_eq_some_iff.1 hvalue
      exact ⟨some s, rfl, rfl⟩

/-- Arguments with the given switches, and with what has been found for the parameters. -/
def gathered (isOn : Flag → Bool) (found : Parameter → Option String) : Arguments where
  enableLlm := isOn .enableLlm
  chatLlmType := (found .chatLlmType).getD Parameter.defaultLlmType
  chatBaseUrl := found .chatBaseUrl
  chatApiKey := (found .chatApiKey).getD Parameter.defaultApiKey
  chatModel := found .chatModel
  debug := isOn .debug
  promptsPath := found .promptsPath
  serverAddr := (found .serverAddr).getD Parameter.defaultAddr
  serverApiKey := found .serverApiKey

/-- Arguments are made up of flags and values, with defaults for the values that are not found. -/
theorem gathered_eq_iff {isOn : Flag → Bool} {found : Parameter → Option String} : gathered isOn found = args ↔
    (∀ f, args.isOn f = isOn f) ∧ ∀ q, args.value? q = (found q).or q.default? := by
  constructor
  · rintro rfl
    refine ⟨fun f => by cases f <;> rfl, fun q => ?_⟩
    cases q with
    | chatLlmType | chatApiKey | serverAddr => exact Option.or_some.symm
    | chatBaseUrl | chatModel | promptsPath | serverApiKey => exact Option.or_none.symm
  · rintro ⟨hflags, hvalues⟩
    have hwith : ∀ {value default : String} {found : Option String}, some value = found.or (some default) →
        found.getD default = value := fun h => (Option.some.inj (h.trans Option.or_some)).symm
    have hwithout : ∀ {value found : Option String}, value = found.or none → found = value :=
      fun h => (h.trans Option.or_none).symm
    rw [gathered, ← hflags .enableLlm, ← hflags .debug, hwith (hvalues .chatLlmType), hwithout (hvalues .chatBaseUrl),
      hwith (hvalues .chatApiKey), hwithout (hvalues .chatModel), hwithout (hvalues .promptsPath),
      hwith (hvalues .serverAddr), hwithout (hvalues .serverApiKey)]
    rfl

/-- What the arguments are once the command line has been read. -/
theorem complete_eq_ok_iff : p.complete env = .ok args ↔
    (∀ f, p.flagFromEnvironment env f = .ok (args.isOn f)) ∧
      ∀ q, ∃ found, p.valueFromEnvironment env q = .ok found ∧ args.value? q = found.or q.default? := by
  constructor
  · intro h
    simp only [Progress.complete, bind_eq_ok_iff] at h
    obtain ⟨enableLlm, henableLlm, llmType, hllmType, baseUrl, hbaseUrl, apiKey, hapiKey, model, hmodel, debug, hdebug,
      prompts, hprompts, addr, haddr, serverKey, hserverKey, hargs⟩ := h
    let isOn : Flag → Bool
      | .enableLlm => enableLlm
      | .debug => debug
    let found : Parameter → Option String
      | .chatLlmType => llmType
      | .chatBaseUrl => baseUrl
      | .chatApiKey => apiKey
      | .chatModel => model
      | .promptsPath => prompts
      | .serverAddr => addr
      | .serverApiKey => serverKey
    obtain ⟨hflags, hvalues⟩ := gathered_eq_iff.1 (show gathered isOn found = args from Except.ok.inj hargs)
    refine ⟨fun f => ?_, fun q => ⟨found q, ?_, hvalues q⟩⟩
    · rw [hflags]
      cases f <;> assumption
    · cases q <;> assumption
  · rintro ⟨hflags, hvalues⟩
    choose found hfound hvalue using hvalues
    have hgathered : gathered args.isOn found = args := gathered_eq_iff.2 ⟨fun _ => rfl, hvalue⟩
    simp only [Progress.complete, hflags, hfound, bind, Except.bind]
    exact congrArg Except.ok hgathered

/-- Arguments are read in two steps: the words, and then the environment. -/
theorem read_eq_ok_iff {words : List Bytes} :
    read env words = .ok args ↔ ∃ z, Progress.start.finish words = .ok z ∧ z.complete env = .ok args := by
  rw [← bind_eq_ok_iff, Progress.finish, bind_assoc]
  rfl

/-- Which rows of groups are accepted, and what is read from them. -/
theorem read_line_iff : read env line.words = .ok args ↔
    line.IsSingle ∧ (∀ f, line.progress.flagFromEnvironment env f = .ok (args.isOn f)) ∧
      ∀ q, (args.value? q).map Text.bytes = line.source? env q := by
  have hstart : ∀ g ∈ line.groups, ¬ Progress.start.Has g.option := by
    intro g _
    cases g <;> simp [Progress.Has, Progress.start, Progress.value?, Group.option]
  have hprogress : { line.groups.foldl Progress.put Progress.start with separated := line.closed } = line.progress := by
    rw [foldl_put]
    simp [Line.progress, Line.flags, Line.values, Progress.start]
  have hvalues : ∀ q, (∃ found, line.progress.valueFromEnvironment env q = .ok found ∧
      args.value? q = found.or q.default?) ↔ (args.value? q).map Text.bytes =
        ((line.progress.value? q).map Text.bytes).or ((env q.envName).or (q.default?.map Text.bytes)) :=
    fun q => exists_valueFromEnvironment_iff
  have hfinish : ∀ z, Progress.start.finish line.words = .ok z ↔ line.IsSingle ∧ z = line.progress := by
    intro z
    rw [Line.words, bytes_closing, Progress.finish_line_iff Progress.isIdle_start, hprogress]
    exact and_congr_left fun _ => and_iff_left hstart
  simp only [read_eq_ok_iff, hfinish, and_assoc, exists_and_left, exists_eq_left, complete_eq_ok_iff, hvalues]
  refine and_congr_right fun hsingle => and_congr_right fun _ => forall_congr' fun q => ?_
  rw [hsingle.value?_progress, Line.source?]

/-- What the environment says of a flag depends on whether the flag is on the line. -/
theorem flagFromEnvironment_congr {f : Flag} (h : f ∈ p.flags ↔ f ∈ p'.flags) :
    p.flagFromEnvironment env f = p'.flagFromEnvironment env f := by
  have hcontains : p.flags.contains f = p'.flags.contains f := by
    rw [Bool.eq_iff_iff, List.contains_iff_mem, List.contains_iff_mem, h]
  simp only [Progress.flagFromEnvironment, hcontains]

/-- Neither the order of the groups nor their spelling makes a difference. -/
theorem read_of_saysAs (h : line'.SaysAs line) (hread : read env line.words = .ok args) :
    read env line'.words = .ok args := by
  obtain ⟨hsingle, hflags, hvalues⟩ := read_line_iff.1 hread
  have hsingle' := h.isSingle_iff.2 hsingle
  refine read_line_iff.2 ⟨hsingle', fun f => ?_, fun q => ?_⟩
  · rw [← hflags f]
    refine flagFromEnvironment_congr ?_
    simp only [Line.progress, List.mem_reverse, h.flags.mem_iff]
  · rw [hvalues, Line.source?, Line.source?, h.value?_eq hsingle']

/-- For words that are accepted, each parameter has the value of its own option if it is given, else that of its own
variable if it is set, else its default; nothing else has an influence, and neither the order of the groups nor their
spelling makes a difference. -/
theorem read_sources {words : List Bytes} (h : read env words = .ok args) :
    (∃ line : Line, words = line.words) ∧
      ∀ line : Line, words = line.words →
        (∀ q, (args.value? q).map Text.bytes =
          ((line.value? q).map Text.bytes).or ((env q.envName).or (q.default?.map Text.bytes))) ∧
        (∀ (q : Parameter) (env' : Environment) (line' : Line) (args' : Arguments),
          line'.value? q = line.value? q → (line.value? q = none → env' q.envName = env q.envName) →
            read env' line'.words = .ok args' → args'.value? q = args.value? q) ∧
        ∀ line' : Line, line'.SaysAs line → read env line'.words = .ok args := by
  obtain ⟨z, hfinish, -⟩ := read_eq_ok_iff.1 h
  refine ⟨Progress.exists_line Progress.isIdle_start hfinish, ?_⟩
  rintro line rfl
  obtain ⟨-, -, hvalues⟩ := read_line_iff.1 h
  refine ⟨hvalues, ?_, fun line' hsays => read_of_saysAs hsays h⟩
  intro q env' line' args' hline henv h'
  obtain ⟨-, -, hvalues'⟩ := read_line_iff.1 h'
  refine map_bytes_injective ?_
  rw [hvalues', hvalues, Line.source?, Line.source?, hline]
  cases hgiven : line.value? q with
  | some s => rfl
  | none => rw [henv hgiven]

end Reading

/-- A variable that is set to the empty text, and one whose option is given. -/
def emptyModel : Environment
  | "CHAT_MODEL" => some []
  | "CHAT_API_KEY" => some (Text.bytes "unused")
  | _ => none

/-- Options in both spellings. -/
def keyThenType : Line :=
  ⟨[.attached .chatApiKey "a=b", .flag .enableLlm, .apart .chatLlmType "openai" (.inl (by decide))], false⟩

/-- The same in another order and in one spelling. -/
def typeThenKey : Line :=
  ⟨[.attached .chatLlmType "openai", .attached .chatApiKey "a=b", .flag .enableLlm], true⟩

def typeAndKey : Arguments where
  enableLlm := true
  chatLlmType := "openai"
  chatBaseUrl := none
  chatApiKey := "a=b"
  chatModel := some ""
  debug := false
  promptsPath := none
  serverAddr := "127.0.0.1:8000"
  serverApiKey := none

theorem read_empty_model_and_either_line :
    read emptyModel keyThenType.words = .ok typeAndKey ∧
      (typeAndKey.value? .chatModel).map Text.bytes =
        ((keyThenType.value? .chatModel).map Text.bytes).or ((emptyModel "CHAT_MODEL").or none) ∧
      read emptyModel typeThenKey.words = .ok typeAndKey := by
  have hread : read emptyModel keyThenType.words = .ok typeAndKey := rfl
  have hsays : typeThenKey.SaysAs keyThenType :=
    @List.perm_append_comm Group [.attached .chatLlmType "openai"] [.attached .chatApiKey "a=b", .flag .enableLlm]
  obtain ⟨-, hline⟩ := read_sources hread
  obtain ⟨hvalues, -, hother⟩ := hline keyThenType rfl
  exact ⟨hread, hvalues .chatModel, hother typeThenKey hsays⟩

end Arguments

end ChatOpening
