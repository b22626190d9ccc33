/-!
# Tables of code points

A table says something about some code points. It is written as entries with blanks between them, ascending and
without overlaps. An entry is a hexadecimal number, or two with a hyphen between them for the numbers from the one to
the other; behind these, a slash and a decimal digit say how far apart the meant numbers are. Then values may follow,
with points between them: behind an equals sign the same for all numbers of the entry, behind a colon one that grows
with them.

Which entry a number belongs to is found by halving the table.
-/

namespace ChatOpening

namespace Text

structure CodePointEntry where
  first : Nat
  last : Nat
  /-- How far apart the numbers of the entry are. -/
  stride : Nat
  values : List Nat
  /-- Whether the values grow with the numbers. -/
  grows : Bool
  deriving DecidableEq, Repr

namespace CodePointEntry

/-- The value of a hexadecimal digit in upper case. -/
def digitValue (c : Char) : Nat :=
  if c ≤ '9' then c.toNat - '0'.toNat else c.toNat - 'A'.toNat + 10

def number (cs : List Char) : Nat :=
  cs.foldl (fun n c => n * 16 + digitValue c) 0

/-- The numbers between points. -/
def numbers (cs : List Char) : List Nat :=
  if cs.isEmpty then [] else (cs.splitOn '.').map number

def isValueMark (c : Char) : Bool :=
  c = ':' || c = '='

/-- Reads an entry. -/
def ofText (cs : List Char) : CodePointEntry :=
  let place := cs.takeWhile (!isValueMark ·)
  let values := cs.dropWhile (!isValueMark ·)
  let range := place.takeWhile (· ≠ '/')
  let stride := (place.dropWhile (· ≠ '/')).tail
  let first := range.takeWhile (· ≠ '-')
  let last := (range.dropWhile (· ≠ '-')).tail
  { first := number first
    last := if last.isEmpty then number first else number last
    stride := if stride.isEmpty then 1 else number stride
    values := numbers values.tail
    grows := values.head? = some ':' }

/-- Whether a number, not less than the first one, is one of the entry. -/
def meets (e : CodePointEntry) (n : Nat) : Bool :=
  n ≤ e.last && (n - e.first) % e.stride = 0

/-- The values for a number of the entry. -/
def valuesAt (e : CodePointEntry) (n : Nat) : List Nat :=
  if e.grows then e.values.map (· + (n - e.first)) else e.values

end CodePointEntry

structure CodePoints where
  entries : Array CodePointEntry

namespace CodePoints

/-- Reads a table, whose lines end between entries. -/
def ofLines (lines : List String) : CodePoints :=
  ⟨((lines.flatMap fun line => line.toList.splitOn ' ').map CodePointEntry.ofText).toArray⟩

/-- How many entries start at or before a number, if at least `low` and at most `high` do. -/
def countUpTo (t : CodePoints) (n low high : Nat) : Nat :=
  if low < high then
    let middle := (low + high) / 2
    if t.entries[middle]?.any (·.first ≤ n) then t.countUpTo n (middle + 1) high else t.countUpTo n low middle
  else low
termination_by high - low
decreasing_by all_goals omega

/-- The entry of a number. -/
def entry? (t : CodePoints) (n : Nat) : Option CodePointEntry :=
  match t.countUpTo n 0 t.entries.size with
  | 0 => none
  | count + 1 => t.entries[count]?.filter (·.meets n)

def contains (t : CodePoints) (c : Char) : Bool :=
  (t.entry? c.toNat).isSome

/-- The values of a number, if it has an entry. -/
def values? (t : CodePoints) (n : Nat) : Option (List Nat) :=
  (t.entry? n).map (·.valuesAt n)

end CodePoints

end Text

end ChatOpening
