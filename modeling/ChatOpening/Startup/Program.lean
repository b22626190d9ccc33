import ChatOpening.Startup.EnvFile
import ChatOpening.Startup.Help
import ChatOpening.Startup.Launch
import ChatOpening.Startup.LogFilter

/-!
# The program

From the command line to a server: the environment file is loaded, the arguments are read, and the server is launched.
What the program writes goes to two places. The help text and the version are its output; records, warnings and
faults are diagnostics. A record is shown if the filter in the environment lets it through, or, where the environment
has none, if it is not a debug record or the arguments ask for debugging.

The program ends with 0 after the help text or the version, with 1 if the launch fails, and with 2 if the arguments are
faulty. Otherwise it goes on as a server.
-/

namespace ChatOpening

/-- What the program finds when it starts. -/
structure Surroundings where
  words : List Bytes
  env : Environment
  files : Files
  /-- The number of directories around the working directory. -/
  depth : Nat
  sockets : Sockets

/-- How the program goes on after what it has written. -/
inductive Ending where
  | exit (code : Nat)
  | serving (listening : Listening)

structure Outcome where
  output : String
  diagnostics : String
  ending : Ending

namespace Program

/-- The names of the environment file, in the order in which they are tried: in the working directory and in those
around it, from inside to outside. -/
def envFileNames (depth : Nat) : List String :=
  (List.range (depth + 1)).map fun n => String.join (List.replicate n "../") ++ ".env"

/-- The content of the first name that is one of a file. -/
def envFile? (files : Files) (depth : Nat) : Option Bytes :=
  (envFileNames depth).findSome? fun name => (files name).toOption

/-- The environment with the variables of the environment file. -/
def environment (s : Surroundings) : Environment :=
  match envFile? s.files s.depth with
  | none => s.env
  | some content => EnvFile.load s.env content

/-- The variable with the filter for records. -/
def filterName : String := "RUST_LOG"

/-- The filter for records, and the warnings about it. -/
def filter (env : Environment) (args : Arguments) : LogFilter × List String :=
  LogFilter.ofText ((EnvFile.textOf? env filterName).getD (if args.debug then "debug" else "info"))

/-- The name of a level, as wide as the longest one. -/
def paddedName (level : Journal.Level) : String :=
  level.name ++ String.ofList (List.replicate (5 - level.name.length) ' ')

/-- A message with its further lines set in. -/
def setIn (message : String) : String :=
  String.join (message.toList.map fun c => if c = '\n' then "\n    " else c.toString)

/-- A record as it is shown. -/
def shown (r : Journal.Record) : String :=
  "[" ++ paddedName r.level ++ " " ++ r.origin.name ++ "] " ++ setIn r.message

def lines (parts : List String) : String :=
  String.join (parts.map (· ++ "\n"))

/-- What the program does once it has its arguments. -/
def launched (s : Surroundings) (env : Environment) (args : Arguments) : Outcome :=
  let (filter, warnings) := filter env args
  let (result, records) := args.launch s.files s.sockets
  let written := warnings ++ (records.filter filter.shows).map shown
  match result with
  | .error fault => ⟨"", lines (written ++ [s!"Error: {fault.diagnostic}"]), .exit 1⟩
  | .ok listening => ⟨"", lines written, .serving listening⟩

/-- What the program does. -/
def run (s : Surroundings) : Outcome :=
  let env := environment s
  match Arguments.read env s.words with
  | .error .help => ⟨Help.text env, "", .exit 0⟩
  | .error .version => ⟨lines [Help.versionLine], "", .exit 0⟩
  | .error (.fault fault) => ⟨"", lines [fault.diagnostic], .exit 2⟩
  | .ok args => launched s env args

end Program

end ChatOpening
