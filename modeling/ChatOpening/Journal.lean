/-!
# Log records

A record has a level, the part of the service that made it, and a message. What a step of the service logs is part of
its result, so the order of records is the order of a list. Steps that may fail are joined by `Logged.andThen`: after a
step that fails nothing more is done and nothing more is logged.
-/

namespace ChatOpening

namespace Journal

/-- How much a record matters; the most urgent level comes first. -/
inductive Level where
  | error
  | warn
  | info
  | debug
  | trace
  deriving DecidableEq, Repr

namespace Level

def name : Level → String
  | error => "ERROR"
  | warn => "WARN"
  | info => "INFO"
  | debug => "DEBUG"
  | trace => "TRACE"

/-- One for the most urgent level, and one more for each following one. -/
def rank : Level → Nat
  | error => 1
  | warn => 2
  | info => 3
  | debug => 4
  | trace => 5

end Level

/-- The parts of the service that make records. -/
inductive Origin where
  | core
  | opening
  | templates
  | ollama
  | openai
  | server
  | api
  deriving DecidableEq, Repr

/-- The name of a part, by which records are selected. -/
def Origin.name : Origin → String
  | core => "chat_init_service"
  | opening => "chat_init_service::chat_init"
  | templates => "chat_init_service::config::prompt"
  | ollama => "chat_init_service::llm::chat::ollama"
  | openai => "chat_init_service::llm::chat::openai"
  | server => "chat_init_service::server"
  | api => "chat_init_service::server::api"

structure Record where
  level : Level
  origin : Origin
  message : String
  deriving DecidableEq, Repr

/-- The record on one line. -/
def Record.line (r : Record) : String :=
  r.level.name ++ " " ++ r.origin.name ++ " " ++ r.message

def info (origin : Origin) (message : String) : Record :=
  ⟨.info, origin, message⟩

def warn (origin : Origin) (message : String) : Record :=
  ⟨.warn, origin, message⟩

def error (origin : Origin) (message : String) : Record :=
  ⟨.error, origin, message⟩

def debug (origin : Origin) (message : String) : Record :=
  ⟨.debug, origin, message⟩

/-- What a step that may fail comes to, and what is logged on the way. -/
abbrev Logged (ε α : Type) := Except ε α × List Record

namespace Logged

variable {ε δ α β : Type}

/-- A step that cannot fail. -/
def ok (a : α) (logs : List Record) : Logged ε α :=
  (.ok a, logs)

/-- A step that logs nothing. -/
def quiet (result : Except ε α) : Logged ε α :=
  (result, [])

/-- One step and, if it succeeds, the next. -/
def andThen (first : Logged ε α) (next : α → Logged ε β) : Logged ε β :=
  match first with
  | (.error e, logs) => (.error e, logs)
  | (.ok a, logs) => ((next a).1, logs ++ (next a).2)

/-- The step with its faults seen from outside. -/
def mapFault (f : ε → δ) (step : Logged ε α) : Logged δ α :=
  (step.1.mapError f, step.2)

end Logged

end Journal

end ChatOpening
