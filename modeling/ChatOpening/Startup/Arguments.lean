import ChatOpening.Text.Bytes
import ChatOpening.Text.Visible

/-!
# Arguments of the program

Two flags and seven parameters configure the program. Each is looked for on the command line first, then in its
environment variable, and has a default otherwise. A variable that is set to the empty text counts as set.

The words of the command line are handled from left to right. The value of a parameter is the next word, or stands
behind an equals sign; a word that starts with a hyphen is no value unless it is just the hyphen. A value is put down
as `pending` and looked at when the next option begins or the words end. Hence a word that is no option of the
program is reported before a fault of the value in front of it.

The environment is looked at when the command line is in order, one option after the other as they are declared.
-/

namespace ChatOpening

/-- The environment variables that are set, by name. -/
abbrev Environment := String → Option Bytes

/-- The switches. -/
inductive Flag where
  | enableLlm
  | debug
  deriving DecidableEq, Repr

/-- The options with a value. -/
inductive Parameter where
  | chatLlmType
  | chatBaseUrl
  | chatApiKey
  | chatModel
  | promptsPath
  | serverAddr
  | serverApiKey
  deriving DecidableEq, Repr

namespace Flag

/-- The option on the command line, without the hyphens. -/
def option : Flag → String
  | enableLlm => "enable-llm"
  | debug => "debug"

/-- The environment variable. -/
def envName : Flag → String
  | enableLlm => "ENABLE_LLM"
  | debug => "DEBUG"

end Flag

namespace Parameter

/-- The option on the command line, without the hyphens. -/
def option : Parameter → String
  | chatLlmType => "chat-llm-type"
  | chatBaseUrl => "chat-base-url"
  | chatApiKey => "chat-api-key"
  | chatModel => "chat-model"
  | promptsPath => "prompts-path"
  | serverAddr => "server-addr"
  | serverApiKey => "server-api-key"

/-- The environment variable, which also names the value in diagnostics. -/
def envName : Parameter → String
  | chatLlmType => "CHAT_LLM_TYPE"
  | chatBaseUrl => "CHAT_BASE_URL"
  | chatApiKey => "CHAT_API_KEY"
  | chatModel => "CHAT_MODEL"
  | promptsPath => "PROMPTS_PATH"
  | serverAddr => "SERVER_ADDR"
  | serverApiKey => "SERVER_API_KEY"

def defaultLlmType : String := "ollama"

def defaultApiKey : String := ""

def defaultAddr : String := "127.0.0.1:8000"

/-- The value that a parameter has if it is not given; none if it may be absent. -/
def default? : Parameter → Option String
  | chatLlmType => some defaultLlmType
  | chatApiKey => some defaultApiKey
  | serverAddr => some defaultAddr
  | _ => none

end Parameter

/-- What can be asked for on the command line. -/
inductive CommandOption where
  | flag (f : Flag)
  | parameter (p : Parameter)
  | help
  | version
  deriving DecidableEq, Repr

namespace CommandOption

def name : CommandOption → String
  | flag f => f.option
  | parameter p => p.option
  | help => "help"
  | version => "version"

/-- The options in the order of their declaration. -/
def all : List CommandOption :=
  [flag .enableLlm, parameter .chatLlmType, parameter .chatBaseUrl, parameter .chatApiKey, parameter .chatModel,
    flag .debug, parameter .promptsPath, parameter .serverAddr, parameter .serverApiKey, help, version]

def ofName? (name : String) : Option CommandOption :=
  all.find? (·.name = name)

/-- The option with one hyphen and a letter. -/
def ofLetter? (c : Char) : Option CommandOption :=
  if c = 'h' then some help else if c = 'V' then some version else none

/-- How diagnostics show an option. -/
def shown : CommandOption → String
  | parameter p => s!"--{p.option} <{p.envName}>"
  | o => s!"--{o.name}"

end CommandOption

/-- What the program is told to do. -/
structure Arguments where
  enableLlm : Bool
  chatLlmType : String
  chatBaseUrl : Option String
  chatApiKey : String
  chatModel : Option String
  debug : Bool
  promptsPath : Option String
  serverAddr : String
  serverApiKey : Option String
  deriving DecidableEq, Repr

/-- What is wrong with the arguments. -/
inductive ArgumentsFault where
  | valueMissing (option : CommandOption)
  | valueInvalid (option : CommandOption) (value : String)
  | valueUnneeded (option : CommandOption) (value : String)
  | repeated (option : CommandOption)
  | unknown (word : String)
  | notUtf8
  deriving DecidableEq, Repr

/-- Why there are no arguments: a fault, or the user asked for something else. -/
inductive Stop where
  | help
  | version
  | fault (f : ArgumentsFault)
  deriving DecidableEq, Repr

/-- The words for a fault, in which `present` shows what the user has written. -/
def ArgumentsFault.messageWith (present : String → String) : ArgumentsFault → String
  | .valueMissing o => s!"error: a value is required for '{o.shown}' but none was supplied"
  | .valueInvalid o value => s!"error: invalid value '{present value}' for '{o.shown}'"
  | .valueUnneeded o value =>
    s!"error: unexpected value '{present value}' for '{o.shown}' found; no more were expected"
  | .repeated o => s!"error: the argument '{o.shown}' cannot be used multiple times"
  | .unknown word => s!"error: unexpected argument '{present word}' found"
  | .notUtf8 => "error: invalid UTF-8 was detected in one or more arguments"

/-- The words for a fault, without control sequences. -/
def ArgumentsFault.message (f : ArgumentsFault) : String :=
  f.messageWith Text.visible

/-- The words for a fault as a terminal gets them. -/
def ArgumentsFault.diagnostic (f : ArgumentsFault) : String :=
  f.messageWith Text.displayed

namespace Arguments

/-- A word of the command line. -/
inductive Word where
  /-- Two hyphens alone: all words behind them are no options. -/
  | separator
  /-- Two hyphens, a name, and possibly an equals sign with a value. -/
  | long (name : Bytes) (value : Option Bytes)
  /-- One hyphen and letters. -/
  | short (letters : Bytes)
  | other (word : Bytes)
  deriving DecidableEq, Repr

def hyphen : UInt8 := 0x2D

def equalsSign : UInt8 := 0x3D

/-- The name and the value of a long option. -/
def splitLong (b : Bytes) : Bytes × Option Bytes :=
  match b.dropWhile (· ≠ equalsSign) with
  | [] => (b, none)
  | _ :: value => (b.takeWhile (· ≠ equalsSign), some value)

def Word.ofBytes (word : Bytes) : Word :=
  match word with
  | [] => .other []
  | a :: rest =>
    if a ≠ hyphen then .other word
    else
      match rest with
      | [] => .other word
      | b :: more =>
        if b ≠ hyphen then .short rest
        else if more.isEmpty then .separator
        else let (name, value) := splitLong more; .long name value

/-- What has been read of the command line. -/
structure Progress where
  flags : List Flag
  values : List (Parameter × String)
  /-- A parameter whose value is not there yet, or has not been looked at. -/
  pending : Option (Parameter × Option Bytes)
  /-- Whether the words are behind a separator. -/
  separated : Bool
  deriving DecidableEq, Repr

namespace Progress

def start : Progress := ⟨[], [], none, false⟩

def value? (p : Progress) (q : Parameter) : Option String :=
  p.values.lookup q

/-- Gives a parameter its value. -/
def store (p : Progress) (q : Parameter) (raw : Bytes) : Except Stop Progress :=
  if (p.value? q).isSome then .error (.fault (.repeated (.parameter q)))
  else
    match Text.ofBytes? raw with
    | none => .error (.fault .notUtf8)
    | some s => .ok { p with values := (q, s) :: p.values }

/-- Looks at the pending value. -/
def settled (p : Progress) : Except Stop Progress :=
  match p.pending with
  | none => .ok p
  | some (q, none) => .error (.fault (.valueMissing (.parameter q)))
  | some (q, some raw) => ({ p with pending := none } : Progress).store q raw

/-- Handles an option and the value that is attached to it. -/
def option (p : Progress) (o : CommandOption) (attached : Option Bytes) : Except Stop Progress :=
  match o, attached with
  | .parameter q, none => do return { ← p.settled with pending := some (q, none) }
  | .parameter q, some raw => do (← p.settled).store q raw
  | o, some raw => .error (.fault (.valueUnneeded o (Text.lossy raw)))
  | .flag f, none => do
    let p ← p.settled
    if p.flags.contains f then .error (.fault (.repeated (.flag f))) else return { p with flags := f :: p.flags }
  | .help, none => do
    let _ ← p.settled
    .error .help
  | .version, none => do
    let _ ← p.settled
    .error .version

/-- The option of a name, if the name is a text. -/
def namedOption? (name : Bytes) : Option CommandOption :=
  Text.ofBytes? name >>= CommandOption.ofName?

/-- The first letter behind a hyphen, and how the word is shown if the letter is no option. -/
def firstLetter (letters : Bytes) : Option Char × String :=
  match letters with
  | [] => (none, "-")
  | first :: rest =>
    match Text.headOf first rest with
    | .broken _ => (none, "-" ++ Text.lossy letters)
    | .whole size =>
      let letter := Text.lossy (letters.take size)
      (letter.toList.head?, "-" ++ letter)

/-- Handles a word. -/
def word (p : Progress) (raw : Bytes) : Except Stop Progress :=
  let unknown (shown : String) : Except Stop Progress := .error (.fault (.unknown shown))
  if p.separated then unknown (Text.lossy raw)
  else
    match Word.ofBytes raw with
    | .separator => .ok { p with separated := true }
    | .long name attached =>
      match namedOption? name with
      | some o => p.option o attached
      | none => unknown ("--" ++ Text.lossy name)
    | .short letters =>
      match firstLetter letters with
      | (letter, shown) =>
        match letter >>= CommandOption.ofLetter? with
        | some o => p.option o none
        | none => unknown shown
    | .other raw =>
      match p.pending with
      | some (q, none) => .ok { p with pending := some (q, some raw) }
      | _ => unknown (Text.lossy raw)

/-- Takes a flag from its variable, unless it is on the command line. -/
def flagFromEnvironment (env : Environment) (p : Progress) (f : Flag) : Except Stop Bool :=
  if p.flags.contains f then .ok true
  else
    match env f.envName with
    | none => .ok false
    | some raw =>
      let value := Text.lossy raw
      if value = "true" then .ok true
      else if value = "false" then .ok false
      else if value = "" then .error (.fault (.valueMissing (.flag f)))
      else .error (.fault (.valueInvalid (.flag f) value))

/-- Takes a parameter from its variable, unless it is on the command line; none if it is in neither. -/
def valueFromEnvironment (env : Environment) (p : Progress) (q : Parameter) : Except Stop (Option String) :=
  match p.value? q with
  | some s => .ok (some s)
  | none =>
    match env q.envName with
    | none => .ok none
    | some raw =>
      match Text.ofBytes? raw with
      | none => .error (.fault .notUtf8)
      | some s => .ok (some s)

/-- The arguments, once the command line has been read to its end. -/
def complete (env : Environment) (p : Progress) : Except Stop Arguments := do
  let enableLlm ← p.flagFromEnvironment env .enableLlm
  let chatLlmType ← p.valueFromEnvironment env .chatLlmType
  let chatBaseUrl ← p.valueFromEnvironment env .chatBaseUrl
  let chatApiKey ← p.valueFromEnvironment env .chatApiKey
  let chatModel ← p.valueFromEnvironment env .chatModel
  let debug ← p.flagFromEnvironment env .debug
  let promptsPath ← p.valueFromEnvironment env .promptsPath
  let serverAddr ← p.valueFromEnvironment env .serverAddr
  let serverApiKey ← p.valueFromEnvironment env .serverApiKey
  return {
    enableLlm
    chatLlmType := chatLlmType.getD Parameter.defaultLlmType
    chatBaseUrl
    chatApiKey := chatApiKey.getD Parameter.defaultApiKey
    chatModel
    debug
    promptsPath
    serverAddr := serverAddr.getD Parameter.defaultAddr
    serverApiKey }

end Progress

/-- The arguments in the words of a command line, without the name of the program, and in an environment. -/
def read (env : Environment) (words : List Bytes) : Except Stop Arguments := do
  let p ← words.foldlM Progress.word Progress.start
  (← p.settled).complete env

end Arguments

end ChatOpening
