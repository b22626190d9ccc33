import ChatOpening.Dictionary
import ChatOpening.Number.Numeral

/-!
# JSON values and how they are written

A value of any shape, and its canonical text: no blanks, members in the order in which they stand, and in a text
only those characters escaped that have to be. Objects that have been read hold their members in ascending order of
the keys; `Value.InOrder` says so of an object and of everything in it.
-/

namespace ChatOpening

namespace Json

/-- A value of any shape. -/
inductive Value where
  | null
  | truth (b : Bool)
  | number (n : Number)
  | text (s : String)
  | array (items : List Value)
  | object (members : List (String × Value))
  deriving Repr

/-- A character between quotation marks. Quotation marks, backslashes and controls are escaped, those with a short
form by it and the others by number. -/
def escapedChar (c : Char) : List Char :=
  match c with
  | '"' => ['\\', '"']
  | '\\' => ['\\', '\\']
  | '\x08' => ['\\', 'b']
  | '\x0C' => ['\\', 'f']
  | '\n' => ['\\', 'n']
  | '\r' => ['\\', 'r']
  | '\t' => ['\\', 't']
  | c =>
    if c.toNat < 0x20 then
      ['\\', 'u', '0', '0', Nat.digitChar (c.toNat / 16), Nat.digitChar (c.toNat % 16)]
    else [c]

/-- A text in quotation marks. -/
def writtenText (s : String) : String :=
  "\"" ++ String.ofList (s.toList.flatMap escapedChar) ++ "\""

/-- Parts with commas between them. -/
def separated : List String → String
  | [] => ""
  | [part] => part
  | part :: others => part ++ "," ++ separated others

/-- A list of written values. -/
def writtenArray (items : List String) : String :=
  "[" ++ separated items ++ "]"

/-- An object of written values. -/
def writtenObject (members : List (String × String)) : String :=
  "\x7b" ++ separated (members.map fun m => writtenText m.1 ++ ":" ++ m.2) ++ "\x7d"

def writtenTruth (b : Bool) : String :=
  if b then "true" else "false"

namespace Value

mutual

/-- The canonical text of a value. -/
def written : Value → String
  | null => "null"
  | truth b => writtenTruth b
  | number n => n.written
  | text s => writtenText s
  | array items => writtenArray (writtenItems items)
  | object members => writtenObject (writtenMembers members)

def writtenItems : List Value → List String
  | [] => []
  | v :: rest => v.written :: writtenItems rest

def writtenMembers : List (String × Value) → List (String × String)
  | [] => []
  | (k, v) :: rest => (k, v.written) :: writtenMembers rest

end

mutual

/-- Every object in the value holds its members in strictly ascending order of the keys. -/
def InOrder : Value → Prop
  | array items => ItemsInOrder items
  | object members => Ordered members ∧ MembersInOrder members
  | _ => True

def ItemsInOrder : List Value → Prop
  | [] => True
  | v :: rest => v.InOrder ∧ ItemsInOrder rest

def MembersInOrder : List (String × Value) → Prop
  | [] => True
  | (_, v) :: rest => v.InOrder ∧ MembersInOrder rest

end

end Value

end Json

end ChatOpening
