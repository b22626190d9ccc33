import ChatOpening.Startup.Arguments

/-!
# The help text

The text that describes the options: for each one its name, what it is for, and its environment variable with the
value that it has, then its default.
-/

namespace ChatOpening

namespace Help

/-- The name of the program. -/
def program : String := "chat-init-service"

/-- The first line of the help text. -/
def usage : String := s!"Usage: {program} [OPTIONS]"

/-- What is written when the version is asked for. -/
def versionLine : String := program ++ " 0.1.0"

def flagPurpose : Flag → String
  | .enableLlm => "Attach a chat LLM client to the chat init service"
  | .debug => "Enable debug logging/output"

def purpose : Parameter → String
  | .chatLlmType => "Type of LLM provider for chat completion (ollama, openai)"
  | .chatBaseUrl => "Base URL for the Chat LLM provider API (e.g., http://localhost:11434 for Ollama)"
  | .chatApiKey => "API Key for the Chat LLM provider (e.g., OpenAI)"
  | .chatModel => "Model name for chat completion (e.g., gpt-4o, llama3)"
  | .promptsPath => "Optional JSON file overriding the intro message templates"
  | .serverAddr => "Host address and port for the server to listen on"
  | .serverApiKey =>
    "Optional API Key required for clients to call the HTTP API. If set, clients must send it in `x-api-key`"

/-- The blanks in front of what is said about an option. -/
def indentation : String := "          "

/-- A text whose further lines are set in. -/
def setIn (s : String) : String :=
  String.join (s.toList.map fun c => if c = '\n' then "\n" ++ indentation else c.toString)

/-- The variable of an option with its value, if it has one. -/
def source (env : Environment) (name : String) : String :=
  s!"[env: {name}={setIn (Text.lossy ((env name).getD []))}]"

/-- The default of a parameter; an empty one is shown by quotation marks. -/
def shownDefault (p : Parameter) : String :=
  match p.default? with
  | none => ""
  | some "" => " [default: \"\"]"
  | some value => s!" [default: {value}]"

/-- What is said about an option. -/
def description (env : Environment) : CommandOption → String
  | .flag f => s!"{flagPurpose f} {source env f.envName}"
  | .parameter p => s!"{purpose p} {source env p.envName}{shownDefault p}"
  | .help => "Print help"
  | .version => "Print version"

/-- The short form of an option, and what separates it from the long one. -/
def lead : CommandOption → String
  | .help => "-h, "
  | .version => "-V, "
  | _ => ""

/-- The blanks in front of an option. They leave room for a short form where there is none. -/
def gap (o : CommandOption) : String :=
  String.ofList (List.replicate (6 - (lead o).length) ' ')

/-- What stands between the names of two options. Control sequences in the description do not reach the second name,
which is emphasized on a terminal. -/
def between (env : Environment) (o : CommandOption) (next : Option CommandOption) : String :=
  Text.displayed (String.join ["\n", indentation, description env o, "\n", (next.map gap).getD ""])

/-- The options from the given ones on. -/
def optionsText (env : Environment) : List CommandOption → String
  | [] => ""
  | o :: others => lead o ++ o.shown ++ between env o others.head? ++ optionsText env others

/-- The help text. -/
def text (env : Environment) : String :=
  let options := CommandOption.all
  usage ++ "\n\nOptions:\n" ++ (options.head?.map gap).getD "" ++ optionsText env options

end Help

end ChatOpening
