import ChatOpening.Journal
import ChatOpening.Pattern
import ChatOpening.Text.Blank

/-!
# Which records are shown

A filter is written as directives with commas between them, possibly followed by a slash and a pattern that has to be
found in a message. A directive is a level, or the start of an origin's name, or such a start with an equals sign and a level.
A record is shown if the directive with the longest fitting start allows its level; a directive without a start fits
every record. Without directives only errors are shown.

A directive that cannot be read is left out, with a warning, and so is a pattern that is refused.
-/

namespace ChatOpening

open Journal (Level Record)

/-- How much of the records with a certain start is shown. -/
structure Directive where
  start : Option String
  /-- The rank of the least urgent level that is shown; zero shows none. -/
  threshold : Nat
  deriving DecidableEq, Repr

structure LogFilter where
  directives : List Directive
  /-- What the shown messages have in common. -/
  pattern : Option Pattern
  deriving DecidableEq, Repr

namespace LogFilter

def everything : Nat := Level.trace.rank

/-- The threshold of a level's name, in upper or lower case. -/
def threshold? (name : String) : Option Nat :=
  let levels := [("OFF", 0), ("ERROR", Level.error.rank), ("WARN", Level.warn.rank), ("INFO", Level.info.rank),
    ("DEBUG", Level.debug.rank), ("TRACE", Level.trace.rank)]
  levels.lookup name.toUpper

def trim (s : String) : String :=
  String.ofList (Text.trimmed s.toList)

/-- The parts of a text between the marks. -/
def parts (mark : Char) (s : String) : List String :=
  (s.toList.splitOn mark).map String.ofList

/-- A directive that cannot be read. -/
def unreadable (part : String) : String :=
  s!"warning: invalid logging spec '{part}', ignoring it"

/-- Reads a directive; the fault is the warning. -/
def directive (s : String) : Except String Directive :=
  match parts '=' s with
  | [name] =>
    match threshold? name with
    | some t => .ok ⟨none, t⟩
    | none => .ok ⟨some name, everything⟩
  | [name, level] =>
    let level := trim level
    if level = "" then .ok ⟨some name, everything⟩
    else
      match threshold? level with
      | some t => .ok ⟨some name, t⟩
      | none => .error (unreadable level)
  | _ => .error (unreadable s)

/-- Puts a directive among others; it replaces one with the same start. -/
def insert (d : Directive) : List Directive → List Directive
  | [] => [d]
  | e :: rest => if e.start = d.start then d :: rest else e :: insert d rest

/-- Reads directives; the list holds the warnings. -/
def directivesOf (spec : String) : List Directive × List String :=
  let pieces := ((parts ',' spec).map trim).filter (· ≠ "")
  pieces.foldl (fun (ds, warnings) piece =>
    match directive piece with
    | .ok d => (insert d ds, warnings)
    | .error warning => (ds, warnings ++ [warning])) ([], [])

/-- Reads the pattern behind a slash; the list holds the warnings. -/
def patternOf : Option String → Option Pattern × List String
  | none => (none, [])
  | some written =>
    match Pattern.ofText written with
    | .ok p => (some p, [])
    | .error refusal => (none, [s!"warning: invalid regex filter - {refusal.message}"])

/-- Reads a filter; the list holds the warnings. -/
def ofText (spec : String) : LogFilter × List String :=
  match parts '/' spec with
  | first :: others =>
    if 1 < others.length then
      (⟨[], none⟩, [s!"warning: invalid logging spec '{spec}', ignoring it (too many '/'s)"])
    else
      let (ds, warnings) := directivesOf first
      let (p, more) := patternOf others.head?
      (⟨ds, p⟩, warnings ++ more)
  | [] => (⟨[], none⟩, [])

/-- How long the start of a directive is. -/
def startSize (d : Directive) : Nat :=
  (d.start.map String.utf8ByteSize).getD 0

/-- Of two directives the one that decides; of two equally long ones the later one. -/
def stronger (best : Option Directive) (d : Directive) : Option Directive :=
  match best with
  | none => some d
  | some b => if startSize b ≤ startSize d then some d else some b

/-- The threshold for records of an origin. -/
def thresholdOf (filter : LogFilter) (origin : String) : Nat :=
  if filter.directives.isEmpty then Level.error.rank
  else
    let fitting := filter.directives.filter fun d => d.start.all fun s => s.toList.isPrefixOf origin.toList
    ((fitting.foldl stronger none).map (·.threshold)).getD 0

/-- Whether a record is shown. -/
def shows (filter : LogFilter) (r : Record) : Bool :=
  r.level.rank ≤ filter.thresholdOf r.origin.name
    && filter.pattern.all (·.isFoundIn r.message)

end LogFilter

end ChatOpening
