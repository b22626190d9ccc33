import ChatOpening.Json.Schema
import ChatOpening.Text.Blank
import ChatOpening.Text.Folding

/-!
# Providers of completions

A completion comes from one of two kinds of providers. This module holds the kinds, how they are named and read, the
configuration of a client and the clients that can be built from it. A client of the kind that authorizes its requests
needs a key that is not blank and that may stand in a header.
-/

namespace ChatOpening

/-- The kinds of providers. -/
inductive Provider where
  | ollama
  | openai
  deriving DecidableEq, Repr

namespace Provider

def name : Provider → String
  | ollama => "ollama"
  | openai => "openai"

/-- The name of the kind in diagnostics. -/
def title : Provider → String
  | ollama => "Ollama"
  | openai => "OpenAI"

/-- A text that names no kind. -/
structure UnknownName where
  given : String
  deriving DecidableEq, Repr

def UnknownName.message (e : UnknownName) : String :=
  s!"Invalid LLM type: '{e.given}'"

/-- Reads the name of a kind. Blanks around it do not matter, nor does the case of its letters. -/
def ofText (s : String) : Except UnknownName Provider :=
  let word := Text.lowered (Text.trimmed s.toList)
  if word = ollama.name.toList then .ok ollama
  else if word = openai.name.toList then .ok openai
  else .error ⟨s⟩

def schema : Json.Schema :=
  .variant [ollama.name, openai.name]

instance : Json.Described Provider where
  schema := schema
  toCarrier
    | ollama => ⟨0, by decide⟩
    | openai => ⟨1, by decide⟩
  ofCarrier i := if i.val = 0 then ollama else openai
  ofCarrier_toCarrier p := by cases p <;> rfl

def defaultModel : Provider → String
  | ollama => "cogito:3b"
  | openai => "gpt-4o"

def defaultBase : Provider → String
  | ollama => "http://localhost:11434"
  | openai => "https://api.openai.com"

end Provider

/-- What a client is built from. -/
structure ClientConfig where
  provider : Provider
  apiKey : Option String
  model : Option String
  baseUrl : Option String
  deriving DecidableEq, Repr

/-- Why a client cannot be built. -/
inductive ClientFault where
  | wrongProvider (client configured : Provider)
  | keyRequired
  | keyFormat
  deriving DecidableEq, Repr

/-- The name of the client of a kind. -/
def clientName : Provider → String
  | .ollama => "OllamaClient"
  | .openai => "OpenAIChatClient"

def ClientFault.message : ClientFault → String
  | .wrongProvider client configured => s!"{clientName client} cannot be built for '{configured.name}'"
  | .keyRequired => "OpenAI API key is required"
  | .keyFormat => "Invalid API key format: failed to parse header value"

/-- A client: the model it asks for, the address it asks, and the key that it sends, if it sends one. -/
structure Client where
  provider : Provider
  model : String
  baseUrl : String
  key : Option String
  deriving DecidableEq, Repr

namespace Client

/-- A byte that may stand in the value of a header. -/
def isHeaderByte (b : UInt8) : Bool :=
  (32 ≤ b && b ≠ 127) || b = 9

/-- A key that is there and has a character that is not blank. -/
def usableKey (key : Option String) : Option String :=
  key.filter fun k => !Text.isAllBlank k

/-- A client without key. -/
def ollama (config : ClientConfig) : Client :=
  { provider := .ollama
    model := config.model.getD Provider.ollama.defaultModel
    baseUrl := config.baseUrl.getD Provider.ollama.defaultBase
    key := none }

/-- A client with the given key. -/
def openai (config : ClientConfig) (key : String) : Client :=
  { provider := .openai
    model := config.model.getD Provider.openai.defaultModel
    baseUrl := config.baseUrl.getD Provider.openai.defaultBase
    key := some key }

/-- The client of the given kind, if the configuration is for that kind. -/
def build (kind : Provider) (config : ClientConfig) : Except ClientFault Client :=
  if config.provider ≠ kind then .error (.wrongProvider kind config.provider)
  else
    match kind with
    | .ollama => .ok (ollama config)
    | .openai =>
      match usableKey config.apiKey with
      | none => .error .keyRequired
      | some key => if (Text.bytes key).all isHeaderByte then .ok (openai config key) else .error .keyFormat

/-- The client that the configuration asks for. -/
def ofConfig (config : ClientConfig) : Except ClientFault Client :=
  build config.provider config

end Client

end ChatOpening
