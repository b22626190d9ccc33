import ChatOpening.Startup.Program

/-!
# Running the program

The program meets the system here: the files and variables that it may need are looked up, `Program.run` says what is
to be written and how the program ends, and this is done. Connections are not accepted here; a program that would
listen has written what it has to write and ends.
-/

namespace ChatOpening

namespace Main

/-- The number of the system for a failure to read a file. -/
def systemNumber : IO.Error → Nat
  | .noFileOrDirectory _ code _ => code.toNat
  | .permissionDenied _ code _ => code.toNat
  | .inappropriateType _ code _ => code.toNat
  | .invalidArgument _ code _ => code.toNat
  | _ => 0

/-- Why a file could not be read. The system counts its numbers up or down. -/
def fileFault (e : IO.Error) : FileFault :=
  let n := systemNumber e
  match if Nat.pow 2 31 ≤ n then UInt32.size - n else n with
  | 13 => .denied
  | 20 => .notDirectory
  | 21 => .isDirectory
  | 22 => .nulInName
  | 36 => .nameTooLong
  | _ => .notFound

def readFile (path : String) : IO (Except FileFault Bytes) := do
  try
    let content ← IO.FS.readBinFile path
    return .ok content.toList
  catch e =>
    return .error (fileFault e)

/-- The files of the given paths, as they are now. -/
def readFiles (paths : List String) : IO Files := do
  let found ← paths.mapM fun path => do return (path, ← readFile path)
  return fun path => (found.lookup path).getD (.error .notFound)

/-- The names of variables that may matter: those of the options and of the filter, and the words of the environment
file, which may refer to any. -/
def variableNames (envFile : Option Bytes) : List String :=
  let options := CommandOption.all.filterMap fun o =>
    match o with
    | .flag f => some f.envName
    | .parameter p => some p.envName
    | _ => none
  let isGap (c : Char) : Bool := !(EnvFile.isWordChar c || EnvFile.isNameChar c)
  let words := (Text.lossy (envFile.getD [])).toList.splitOnP isGap
  Program.filterName :: options ++ words.map String.ofList

/-- The variables of the given names, as they are now. -/
def readEnvironment (names : List String) : IO Environment := do
  let found ← names.mapM fun name => do return (name, ← IO.getEnv name)
  return fun name => ((found.lookup name).join).map Text.bytes

/-- What the program finds. The file with the templates is only known when the arguments are. -/
def surroundings (words : List Bytes) : IO Surroundings := do
  let depth := (← IO.currentDir).components.length
  let envFiles := Program.envFileNames depth
  let files ← readFiles envFiles
  let env ← readEnvironment (variableNames (Program.envFile? files depth))
  let early : Surroundings := { words, env, files, depth, sockets := fun _ => .ok () }
  match Arguments.read (Program.environment early) words with
  | .ok args => return { early with files := ← readFiles (args.promptsPath.toList ++ envFiles) }
  | .error _ => return early

end Main

end ChatOpening

/-- Runs the program with the words of its command line. -/
def main (words : List String) : IO UInt32 := do
  let found ← ChatOpening.Main.surroundings (words.map ChatOpening.Text.bytes)
  let outcome := ChatOpening.Program.run found
  IO.print outcome.output
  IO.eprint outcome.diagnostics
  match outcome.ending with
  | .exit code => return UInt32.ofNat code
  | .serving _ => return 0
