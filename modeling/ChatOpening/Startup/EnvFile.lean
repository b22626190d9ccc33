import ChatOpening.Startup.Arguments
import ChatOpening.Text.Blank
import ChatOpening.Text.Letters

/-!
# Environment files

A file of lines `NAME=value` that sets the variables which are not set yet. The word `export` may stand before the name,
blanks may stand around the equals sign, and lines that are empty or start with a hash are skipped.

In a value, single quotes keep everything, double quotes keep blanks and hashes, a backslash stands before a quote, a
backslash, a dollar sign, a blank or the letter n, and a dollar sign starts the name of a variable, possibly in braces,
whose value takes its place. Behind a blank outside of quotes nothing but blanks and a comment may follow.

The first line that is not of this form ends the file; the lines before it count.
-/

namespace ChatOpening

namespace EnvFile

/-- The characters of a name behind a dollar sign. -/
def isWordChar (c : Char) : Bool :=
  Text.isLetterOrNumber c

/-- Whether a place in a value is between double quotes. -/
inductive Quoting where
  | bare
  | double
  deriving DecidableEq, Repr

/-- Where in a value a character stands. Names are in reverse. -/
inductive Mode where
  | text (q : Quoting)
  | single
  | escaped (q : Quoting)
  | name (q : Quoting) (read : List Char)
  | braced (q : Quoting) (read : List Char)
  /-- Behind a blank outside of quotes. -/
  | ending
  deriving DecidableEq, Repr

section Values

variable (known : String → String)

/-- The value of the variable whose name has been read, in reverse. -/
def substituted (name : List Char) : List Char :=
  (known (String.ofList name.reverse)).toList.reverse

/-- What a character does outside of single quotes, escapes and names. -/
def plainStep (q : Quoting) (done : List Char) (c : Char) : Mode × List Char :=
  if c = '$' then (.name q [], done)
  else if c = '\\' then (.escaped q, done)
  else
    match q with
    | .double => if c = '"' then (.text .bare, done) else (.text .double, c :: done)
    | .bare =>
      if c = '\x27' then (.single, done)
      else if c = '"' then (.text .double, done)
      else if c = ' ' || c = '\t' then (.ending, done)
      else (.text .bare, c :: done)

/-- What a character does. The value up to it stands in `done` in reverse. There is no result for a character that
cannot stand there. -/
def step (mode : Mode) (done : List Char) (c : Char) : Option (Mode × List Char) :=
  match mode with
  | .text q => some (plainStep q done c)
  | .single => some (if c = '\x27' then (.text .bare, done) else (.single, c :: done))
  | .escaped q =>
    if c = '\\' || c = '\x27' || c = '"' || c = '$' || c = ' ' then some (.text q, c :: done)
    else if c = 'n' then some (.text q, '\n' :: done)
    else none
  | .name q read =>
    if isWordChar c then some (.name q (c :: read), done)
    else if c = '\x7b' && read.isEmpty then some (.braced q [], done)
    else if c = '$' then some (.name q [], substituted known read ++ done)
    else some (.text q, c :: (substituted known read ++ done))
  | .braced q read =>
    if c = '\x7d' then some (.text q, substituted known read ++ done) else some (.braced q (c :: read), done)
  | .ending => if c = ' ' || c = '\t' then some (.ending, done) else none

/-- The value at the end of a line, in reverse, unless something is still open. -/
def finish (mode : Mode) (done : List Char) : Option (List Char) :=
  match mode with
  | .text .bare | .escaped .bare | .ending => some done
  | .name .bare read => some (substituted known read ++ done)
  | _ => none

def valueFrom (mode : Mode) (done : List Char) : List Char → Option String
  | [] => (finish known mode done).map fun cs => String.ofList cs.reverse
  | c :: rest =>
    if mode = .ending && c = '#' then some (String.ofList done.reverse)
    else
      match step known mode done c with
      | none => none
      | some (mode, done) => valueFrom mode done rest

/-- The value that is written behind the equals sign. -/
def value (written : List Char) : Option String :=
  match written with
  | [] => some ""
  | c :: _ => if c = '#' then some "" else valueFrom known (.text .bare) [] written

end Values

/-- What a line says. -/
inductive Line where
  | nothing
  | entry (name value : String)
  | bad
  deriving DecidableEq, Repr

def isNameStart (c : Char) : Bool :=
  c.isAlpha || c = '_'

def isNameChar (c : Char) : Bool :=
  c.isAlphanum || c = '_' || c = '.'

/-- The name at the front, and what follows it and the blanks behind it. -/
def nameAt (cs : List Char) : Option (String × List Char) :=
  match cs with
  | [] => none
  | c :: _ =>
    if isNameStart c then
      some (String.ofList (cs.takeWhile isNameChar), (cs.dropWhile isNameChar).dropWhile Text.isBlank)
    else none

/-- What follows the equals sign at the front and the blanks behind it. -/
def afterEquals : List Char → Option (List Char)
  | '=' :: rest => some (rest.dropWhile Text.isBlank)
  | _ => none

/-- The name of a line and what is written for its value. -/
def nameAndValue (cs : List Char) : Option (String × List Char) := do
  let (name, rest) ← nameAt cs
  match afterEquals rest with
  | some written => return (name, written)
  | none =>
    if name = "export" then
      let (name, rest) ← nameAt rest
      return (name, ← afterEquals rest)
    else none

/-- What a line says when variables have the given values. -/
def Line.ofText (known : String → String) (line : String) : Line :=
  match Text.trimmed line.toList with
  | [] => .nothing
  | '#' :: _ => .nothing
  | cs =>
    match nameAndValue cs with
    | none => .bad
    | some (name, written) =>
      match value known written with
      | none => .bad
      | some v => .entry name v

/-- The text of a variable, if it is set to one. -/
def textOf? (env : Environment) (name : String) : Option String :=
  env name >>= Text.ofBytes?

/-- The environment with one more variable, unless it has a text already. -/
def define (env : Environment) (name value : String) : Environment :=
  if (textOf? env name).isSome then env
  else fun other => if other = name then some (Text.bytes value) else env other

def loadLines (env : Environment) : List Bytes → Environment
  | [] => env
  | raw :: rest =>
    match Text.ofBytes? raw with
    | none => env
    | some line =>
      match Line.ofText (fun name => (textOf? env name).getD "") line with
      | .nothing => loadLines env rest
      | .entry name v => loadLines (define env name v) rest
      | .bad => env

/-- The environment with the variables that a file defines. -/
def load (env : Environment) (content : Bytes) : Environment :=
  loadLines env (content.splitOn 10)

end EnvFile

end ChatOpening
