import ChatOpening.Pattern.Bracket
import ChatOpening.Text.Letters

/-!
# Reading patterns

A pattern is read from left to right. The parts of the sequence that is being read, and for each open group those of the
sequence around it, are kept on a stack; a repetition takes the last part of its sequence.

Main function: `Node.ofPattern`, the tree of a pattern, or the first fault in it.
-/

namespace ChatOpening

namespace Pattern

/-- A sequence that is being read; the last node comes first. -/
structure Sequence where
  first : Place
  nodes : List Node

namespace Sequence

def start (p : Place) : Sequence := ⟨p, []⟩

def push (s : Sequence) (n : Node) : Sequence :=
  { s with nodes := n :: s.nodes }

/-- The node of a sequence that ends at a place. -/
def toNode (s : Sequence) (last : Place) : Node :=
  match s.nodes with
  | [] => .empty ⟨s.first, last⟩
  | [n] => n
  | nodes => .sequence ⟨s.first, last⟩ nodes.reverse

end Sequence

/-- What is still open around a sequence. -/
inductive Frame where
  /-- A group, the sequence in front of it, the span of its parenthesis, and whether the outside may be spaced. -/
  | group (outer : Sequence) (opening : Span) (grouping : Grouping) (spaced : Bool)
  /-- The sequences in front of a bar; the last one comes first. -/
  | alternatives (first : Place) (nodes : List Node)

/-- The node of what ends at a place, together with the alternatives in front of it. -/
def joined (s : Sequence) (last : Place) : List Frame → Node × List Frame
  | .alternatives first nodes :: frames =>
    (.alternatives ⟨first, last⟩ (s.toNode last :: nodes).reverse, frames)
  | frames => (s.toNode last, frames)

/-- A pattern of which a part has been read. -/
structure Progress where
  cursor : Cursor
  sequence : Sequence
  frames : List Frame
  /-- The names of groups and where they stand. -/
  names : List (List Char × Span)

namespace Progress

def start (pattern : List Char) : Progress :=
  ⟨.start pattern, .start .start, [], []⟩

/-- Goes on behind a node. -/
def after (p : Progress) (n : Node) (c : Cursor) : Progress :=
  { p with cursor := c, sequence := p.sequence.push n }

end Progress

section Groups

/-- What an opening parenthesis begins: a group, or flags for what follows. -/
inductive Opening where
  | group (grouping : Grouping) (name : Option (List Char × Span))
  | flags (items : List FlagItem)

def flag? (c : Char) : Option Flag :=
  [('i', .ignoreCase), ('m', .multiLine), ('s', .dotAll), ('U', .swapGreed), ('u', .unicode), ('R', .carriageReturn),
    ('x', .spaced)].lookup c

/-- The item of a letter. -/
def flagItem (c : Cursor) (letter : Char) : Except Fault FlagItem :=
  if letter = '-' then .ok ⟨none, c.char⟩
  else
    match flag? letter with
    | some f => .ok ⟨some f, c.char⟩
    | none => refuse .unknownFlag c.char

/-- Puts an item behind others, which stand in reverse and are all different. -/
def addFlag (done : List FlagItem) (item : FlagItem) : Except Fault (List FlagItem) :=
  match done.find? (·.flag = item.flag) with
  | none => .ok (item :: done)
  | some before => .error ⟨if item.flag.isNone then .repeatedNegation else .repeatedFlag, item.span, some before.span⟩

/-- Reads flags up to a colon or parenthesis, at most as many as given. -/
def flagsFrom : (most : Nat) → (done : List FlagItem) → Cursor → Except Fault (List FlagItem × Cursor)
  | 0, _, c => refuse .endInFlags c.point
  | most + 1, done, c =>
    match c.peek? with
    | none => refuse .endInFlags c.point
    | some letter =>
      if letter = ':' || letter = ')' then
        match done with
        | ⟨none, span⟩ :: _ => refuse .danglingNegation span
        | done => .ok (done.reverse, c)
      else do
        let done ← addFlag done (← flagItem c letter)
        flagsFrom most done c.next

/-- A character of the name of a group. -/
def isNameChar (isFirst : Bool) (c : Char) : Bool :=
  if isFirst then c = '_' || Text.isLetter c
  else c = '_' || c = '.' || c = '[' || c = ']' || Text.isLetterOrNumber c

/-- Reads a name up to the angle, of at most the given size. -/
def nameFrom : (most : Nat) → (isFirst : Bool) → Cursor → Except Fault (List Char × Cursor)
  | 0, _, c => refuse .endInName c.point
  | most + 1, isFirst, c =>
    match c.peek? with
    | none => refuse .endInName c.point
    | some '>' => .ok ([], c)
    | some x =>
      if isNameChar isFirst x then do
        let (others, c) ← nameFrom most false c.next
        return (x :: others, c)
      else refuse .badName c.char

/-- Reads the name of a group. -/
def groupName (names : List (List Char × Span)) (c : Cursor) : Except Fault (Opening × Cursor) := do
  let (name, behind) ← nameFrom (c.rest.length + 1) true c
  let span := behind.since c.place
  if name.isEmpty then refuse .emptyName span
  else
    match names.lookup name with
    | some before => .error ⟨.repeatedName, span, some before⟩
    | none => return (.group .captured (some (name, span)), behind.next)

/-- Reads flags, and the colon or parenthesis behind them; `sign` is the place of the question mark in front. -/
def groupFlags (opening : Span) (sign : Place) (c : Cursor) : Except Fault (Opening × Cursor) := do
  if c.isAtEnd then refuse .openGroup opening
  else
    let (items, behind) ← flagsFrom (c.rest.length + 1) [] c
    if behind.peek? = some ')' then
      if items.isEmpty then refuse .nothingToRepeat (.point sign) else return (.flags items, behind.next)
    else return (.group (.plain items) none, behind.next)

/-- The signs of what is asked for around a place. -/
def lookArounds : List (List Char) :=
  [['?', '='], ['?', '!'], ['?', '<', '='], ['?', '<', '!']]

/-- Reads what an opening parenthesis begins; the cursor stands in front of the parenthesis. -/
def opening (names : List (List Char × Span)) (c : Cursor) : Except Fault (Opening × Cursor) :=
  let first := c.char
  let c := c.step
  match lookArounds.findSome? c.after? with
  | some behind => refuse .lookAround (behind.since first.first)
  | none =>
    match (c.after? ['?', 'P', '<']).or (c.after? ['?', '<']) with
    | some behind => groupName names behind
    | none =>
      match c.after? ['?'] with
      | some behind => groupFlags first c.place behind
      | none => .ok (.group .captured none, c)

/-- Opens a group, or sets flags. -/
def openGroup (p : Progress) : Except Fault Progress := do
  let c := p.cursor
  match ← opening p.names c with
  | (.flags items, behind) =>
    let spaced := (stateOf .spaced true items).getD behind.spaced
    return p.after (.flags (behind.since c.place) items) { behind with spaced }
  | (.group grouping name, behind) =>
    let spaced :=
      match grouping with
      | .captured => behind.spaced
      | .plain items => (stateOf .spaced true items).getD behind.spaced
    return {
      cursor := { behind with spaced }
      sequence := .start behind.place
      frames := .group p.sequence c.char grouping c.spaced :: p.frames
      names := name.toList ++ p.names }

/-- Closes a group. -/
def closeGroup (p : Progress) : Except Fault Progress :=
  let c := p.cursor
  match joined p.sequence c.place p.frames with
  | (inner, .group outer opening grouping spaced :: below) =>
    let behind := c.next
    .ok {
      cursor := { behind with spaced }
      sequence := outer.push (.group (behind.since opening.first) grouping inner)
      frames := below
      names := p.names }
  | _ => refuse .unopenedGroup c.char

end Groups

/-- Ends a sequence at a bar. -/
def bar (p : Progress) : Progress :=
  let c := p.cursor
  let node := p.sequence.toNode c.place
  let frames :=
    match p.frames with
    | .alternatives first nodes :: below => .alternatives first (node :: nodes) :: below
    | frames => .alternatives p.sequence.first [node] :: frames
  { p with cursor := c.next, sequence := .start c.next.place, frames }

section Repetitions

/-- The largest number in a count. -/
def largestCount : Nat := 4294967295

/-- Reads a number. -/
def decimal (c : Cursor) : Except Fault Nat × Cursor :=
  let c := (c.run Text.isBlank).2
  let (digits, behind) := c.run Char.isDigit
  let n := digits.foldl (fun n d => n * 10 + (d.toNat - '0'.toNat)) 0
  let span := behind.since c.place
  let result :=
    if digits.isEmpty then refuse .emptyCount span
    else if largestCount < n then refuse .badDecimal span
    else .ok n
  (result, (behind.run Text.isBlank).2)

/-- Reads a count behind its brace, up to the closing one: how often at least, and how often at most. -/
def count (first : Place) (c : Cursor) : Except Fault ((Nat × Option Nat) × Cursor) := do
  if c.isAtEnd then refuse .openCount (c.since first)
  else
    let (least, c) := decimal c
    if c.isAtEnd then refuse .openCount (c.since first)
    else if c.peek? = some ',' then
      let c := c.step
      if c.isAtEnd then refuse .openCount (c.since first)
      else if c.peek? = some '\x7d' then
        let least ← least
        return ((least, none), c)
      else
        let least ← least
        let (most, c) := decimal c
        let most ← most
        return ((least, some most), c)
    else
      let least ← least
      return ((least, some least), c)

/-- The last node of the sequence, if it can be repeated, and the sequence without it. -/
def repeated (p : Progress) : Except Fault (Node × Sequence) :=
  match p.sequence.nodes with
  | [] => refuse .nothingToRepeat p.cursor.point
  | .empty _ :: _ => refuse .nothingToRepeat p.cursor.point
  | .flags _ _ :: _ => refuse .nothingToRepeat p.cursor.point
  | n :: nodes => .ok (n, { p.sequence with nodes })

/-- The cursor behind a question mark, if one follows. -/
def lazily (c : Cursor) : Cursor :=
  if c.peek? = some '?' then c.next else c

/-- Repeats the last node as often as a sign says. -/
def signRepetition (p : Progress) (least : Nat) (most : Option Nat) : Except Fault Progress := do
  let (n, sequence) ← repeated p
  let c := lazily p.cursor.next
  return { p with cursor := c, sequence := sequence.push (.repetition (c.since n.span.first) least most n) }

/-- Repeats the last node as often as a count in braces says. -/
def countedRepetition (p : Progress) : Except Fault Progress := do
  let first := p.cursor.place
  let (n, sequence) ← repeated p
  let ((least, most), c) ← count first p.cursor.step
  if c.peek? ≠ some '\x7d' then refuse .openCount (c.since first)
  else
    let c := lazily c.step
    if most.any (· < least) then refuse .reversedCount (c.since first)
    else return { p with cursor := c, sequence := sequence.push (.repetition (c.since n.span.first) least most n) }

end Repetitions

/-- Reads a part that means something by itself. -/
def single (c : Cursor) (x : Char) : Except Fault (Node × Cursor) :=
  if x = '\\' then escape c
  else if x = '[' then bracketed c
  else if x = '.' then .ok (.dot c.char, c.next)
  else if x = '^' then .ok (.anchor c.char .lineStart, c.next)
  else if x = '$' then .ok (.anchor c.char .lineEnd, c.next)
  else .ok (.literal ⟨x, c.char, false⟩, c.next)

/-- Reads the part that begins with a character. -/
def part (p : Progress) (x : Char) : Except Fault Progress :=
  if x = '(' then openGroup p
  else if x = ')' then closeGroup p
  else if x = '|' then .ok (bar p)
  else if x = '?' then signRepetition p 0 (some 1)
  else if x = '*' then signRepetition p 0 none
  else if x = '+' then signRepetition p 1 none
  else if x = '\x7b' then countedRepetition p
  else do
    let (n, c) ← single p.cursor x
    return p.after n c

/-- The tree of a pattern that has been read to its end. -/
def finished (p : Progress) : Except Fault Node :=
  match joined p.sequence p.cursor.place p.frames with
  | (n, []) => .ok n
  | (_, .group _ opening _ _ :: _) => refuse .openGroup opening
  | (n, .alternatives _ _ :: _) => .ok n

/-- Reads a pattern to its end, in at most the given number of steps. -/
def readFrom : (steps : Nat) → Progress → Except Fault Node
  | 0, p => finished p
  | steps + 1, p => do
    let p := { p with cursor := p.cursor.skipped }
    match p.cursor.peek? with
    | none => finished p
    | some x => readFrom steps (← part p x)

/-- The tree of a pattern. -/
def Node.ofPattern (pattern : List Char) : Except Fault Node := do
  let n ← readFrom (pattern.length + 1) (.start pattern)
  n.checkDepth 0
  return n

end Pattern

end ChatOpening
