import ChatOpening.Text.Bytes

/-!
# Files by path

What reading a file by its path gives: its bytes, or the reason why there are none. The reasons are those of a POSIX
system, and `FileTree` is such a system at rest: a tree of directories and files with a working directory. A path is
walked component by component; every component but the last has to be a directory, the dot stands for the directory
itself and two dots for the one above it.
-/

namespace ChatOpening

/-- Why a file cannot be read as a text. -/
inductive FileFault where
  | notFound
  | denied
  | isDirectory
  | notDirectory
  | nameTooLong
  | nulInName
  | notUtf8
  deriving DecidableEq, Repr

/-- The words for a reason. -/
def FileFault.message : FileFault → String
  | .notFound => "No such file or directory (os error 2)"
  | .denied => "Permission denied (os error 13)"
  | .isDirectory => "Is a directory (os error 21)"
  | .notDirectory => "Not a directory (os error 20)"
  | .nameTooLong => "File name too long (os error 36)"
  | .nulInName => "file name contained an unexpected NUL byte"
  | .notUtf8 => "stream did not contain valid UTF-8"

/-- The files that can be read: for each path the bytes, or the reason why there are none. -/
abbrev Files := String → Except FileFault Bytes

/-- The text in a file. -/
def Files.text (files : Files) (path : String) : Except FileFault String :=
  match files path with
  | .error fault => .error fault
  | .ok content =>
    match Text.ofBytes? content with
    | some s => .ok s
    | none => .error .notUtf8

/-- A file, or a directory with named entries. -/
inductive FileTree where
  | file (content : Bytes)
  | directory (entries : List (String × FileTree))

namespace FileTree

/-- The most bytes that a name may have. -/
def longestName : Nat := 255

/-- The most bytes that a path may have. -/
def longestPath : Nat := 4095

/-- The entries of a directory. -/
abbrev Entries := List (String × FileTree)

/-- Where a walk stands: the entries of the innermost directory and of those around it, the root last, or a file. -/
inductive Standing where
  | inside (innermost : Entries) (around : List Entries)
  | onFile (content : Bytes)

/-- One step of a walk. -/
def Standing.step (name : String) : Standing → Except FileFault Standing
  | .onFile _ => .error .notDirectory
  | .inside innermost around =>
    if name = "" || name = "." then .ok (.inside innermost around)
    else if name = ".." then
      match around with
      | [] => .ok (.inside innermost [])
      | outer :: others => .ok (.inside outer others)
    else if longestName < name.utf8ByteSize then .error .nameTooLong
    else
      match innermost.lookup name with
      | none => .error .notFound
      | some (.file content) => .ok (.onFile content)
      | some (.directory entries) => .ok (.inside entries (innermost :: around))

/-- The components of a path. -/
def components (path : String) : List String :=
  (path.toList.splitOn '/').map String.ofList

/-- A walk from the given place. -/
def walk (start : Standing) (path : String) : Except FileFault Standing :=
  (components path).foldlM (fun standing name => standing.step name) start

/-- The files of a tree. Paths that start with a slash are walked from the root, others from the working directory,
whose path from the root is given. -/
def files (root : Entries) (working : String) : Files := fun path =>
  if path.toList.contains '\x00' then .error .nulInName
  else if path = "" then .error .notFound
  else if longestPath < path.utf8ByteSize then .error .nameTooLong
  else do
    let home ← if path.startsWith "/" then .ok (.inside root []) else walk (.inside root []) working
    match ← walk home path with
    | .inside _ _ => .error .isDirectory
    | .onFile content => .ok content

/-- Puts a tree at a path below some entries; the directories on the way are made where they do not exist. -/
def place (node : FileTree) : (path : List String) → Entries → Entries
  | [], entries => entries
  | [name], entries => entries.filter (·.1 ≠ name) ++ [(name, node)]
  | name :: rest, entries =>
    let below :=
      match entries.lookup name with
      | some (.directory inner) => inner
      | _ => []
    entries.filter (·.1 ≠ name) ++ [(name, .directory (place node rest below))]

end FileTree

end ChatOpening
