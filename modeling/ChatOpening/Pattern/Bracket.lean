import ChatOpening.Pattern.Escape

/-!
# Classes in brackets

Between brackets stand characters, ranges of them, other classes, and classes that are cut with each other. A bracket
right behind the opening one means itself, as hyphens at the front do.

Classes inside of the one that is being read are kept on a stack, with what stands to the left of an operation.
-/

namespace ChatOpening

namespace Pattern

/-- The classes with a name. -/
def namedClasses : List (String × List (Char × Char)) :=
  [("alnum", [('0', '9'), ('A', 'Z'), ('a', 'z')]),
    ("alpha", [('A', 'Z'), ('a', 'z')]),
    ("ascii", [('\x00', '\x7F')]),
    ("blank", [('\t', '\t'), (' ', ' ')]),
    ("cntrl", [('\x00', '\x1F'), ('\x7F', '\x7F')]),
    ("digit", [('0', '9')]),
    ("graph", [('!', '~')]),
    ("lower", [('a', 'z')]),
    ("print", [(' ', '~')]),
    ("punct", [('!', '/'), (':', '@'), ('[', '\x60'), ('\x7b', '~')]),
    ("space", [('\t', '\r'), (' ', ' ')]),
    ("upper", [('A', 'Z')]),
    ("word", [('0', '9'), ('A', 'Z'), ('_', '_'), ('a', 'z')]),
    ("xdigit", [('0', '9'), ('A', 'F'), ('a', 'f')])]

/-- What stands side by side in a class; the last one first. -/
structure Union where
  span : Span
  items : List ClassSet

namespace Union

def start (p : Place) : Union := ⟨.point p, []⟩

def push (u : Union) (item : ClassSet) : Union :=
  { span := ⟨if u.items.isEmpty then item.span.first else u.span.first, item.span.last⟩
    items := item :: u.items }

def toSet (u : Union) : ClassSet :=
  match u.items with
  | [] => .nothing u.span
  | [item] => item
  | items => .union u.span items.reverse

end Union

/-- What is still open around a part of a class. -/
inductive ClassFrame where
  /-- A bracket, what stands in front of it in the class around it, and the span of its opening. -/
  | opened (outer : Union) (opening : Span) (negated : Bool)
  | operation (op : SetOperation) (left : ClassSet)

/-- The span of the innermost opening. -/
def innermost (place : Place) : List ClassFrame → Span
  | [] => .point place
  | .opened _ opening _ :: _ => opening
  | .operation _ _ :: frames => innermost place frames

/-- A part together with the operation that it is the right side of. -/
def operated (set : ClassSet) : List ClassFrame → ClassSet × List ClassFrame
  | .operation op left :: frames => (.combined ⟨left.span.first, set.span.last⟩ op left set, frames)
  | frames => (set, frames)

/-- The name between colons in brackets, if one of a class stands there. -/
def namedClass? (c : Cursor) : Option (ClassSet × Cursor) := do
  let inner ← c.after? ['[', ':']
  let negated := inner.peek? = some '^'
  let inside := if negated then inner.next else inner
  let name := inside.rest.takeWhile (· ≠ ':')
  let behind ← inside.after? (name ++ [':', ']'])
  let ranges ← namedClasses.lookup (String.ofList name)
  return (.named (behind.since c.place) ranges negated, behind)

/-- What an escape or a character means in a class. -/
def itemOfNode (n : Node) : Except Fault ClassSet :=
  match n with
  | .literal l => .ok (.literal l)
  | .shorthand span s negated => .ok (.shorthand span s negated)
  | .property span name => .ok (.property span name)
  | n => refuse .badClassEscape n.span

/-- A boundary of a range. -/
def boundaryOfNode (n : Node) : Except Fault Literal :=
  match n with
  | .literal l => .ok l
  | n => refuse .classRangeBoundary n.span

/-- Reads an escape or a character. -/
def classNode (c : Cursor) : Except Fault (Node × Cursor) :=
  match c.peek? with
  | some '\\' => escape c
  | some x => .ok (.literal ⟨x, c.char, false⟩, c.next)
  | none => .ok (.empty c.point, c)

/-- Reads an item, or a range between two; `opening` is the span to blame if the class does not end. -/
def classItem (opening : Span) (c : Cursor) : Except Fault (ClassSet × Cursor) := do
  let (first, behind) ← classNode c
  let c := behind.skipped
  if c.isAtEnd then refuse .openClass opening
  else if c.peek? ≠ some '-' || c.peekSecond? = some ']' || c.peekSecond? = some '-' then
    return (← itemOfNode first, c)
  else
    let c := c.step
    if c.isAtEnd then refuse .openClass opening
    else
      let (last, c) ← classNode c
      let span : Span := ⟨first.span.first, last.span.last⟩
      let lower ← boundaryOfNode first
      let upper ← boundaryOfNode last
      if lower.char ≤ upper.char then return (.range span lower upper, c) else refuse .reversedClassRange span

/-- Reads hyphens at the front of a class, at most as many as given. -/
def hyphens (first : Place) : (most : Nat) → Union → Cursor → Except Fault (Union × Cursor)
  | 0, u, c => .ok (u, c)
  | most + 1, u, c =>
    if c.peek? = some '-' then
      let behind := c.step
      if behind.isAtEnd then refuse .openClass (.point first)
      else hyphens first most (u.push (.literal ⟨'-', c.char, false⟩)) behind
    else .ok (u, c)

/-- Reads an opening bracket and what has a meaning of its own right behind it. -/
def classOpening (c : Cursor) : Except Fault ((Span × Bool × Union) × Cursor) := do
  let first := c.place
  let c := c.step
  if c.isAtEnd then refuse .openClass (c.since first)
  else
    let negated := c.peek? = some '^'
    let c := if negated then c.step else c
    if c.isAtEnd then refuse .openClass (c.since first)
    else
      let (u, c) ← hyphens first c.rest.length (.start c.place) c
      if u.items.isEmpty && c.peek? = some ']' then
        let u := u.push (.literal ⟨']', c.char, false⟩)
        let c := c.step
        if c.isAtEnd then refuse .openClass (c.since first) else return ((c.since first, negated, u), c)
      else return ((c.since first, negated, u), c)

/-- The operation that two equal characters mean. -/
def operation? (c : Cursor) : Option SetOperation :=
  match c.rest with
  | '&' :: '&' :: _ => some .intersection
  | '-' :: '-' :: _ => some .difference
  | '~' :: '~' :: _ => some .symmetricDifference
  | _ => none

/-- Reads a class to its end, in at most the given number of steps. -/
def classFrom : (steps : Nat) → List ClassFrame → Union → Cursor → Except Fault (Node × Cursor)
  | 0, frames, _, c => refuse .openClass (innermost c.place frames)
  | steps + 1, frames, u, c => do
    let c := c.skipped
    match c.peek? with
    | none => refuse .openClass (innermost c.place frames)
    | some '[' =>
      match if frames.isEmpty then none else namedClass? c with
      | some (item, c) => classFrom steps frames (u.push item) c
      | none =>
        let ((opening, negated, inner), c) ← classOpening c
        classFrom steps (.opened u opening negated :: frames) inner c
    | some ']' =>
      match operated u.toSet frames with
      | (set, .opened outer opening negated :: below) =>
        let c := c.next
        let span := c.since opening.first
        if below.isEmpty then return (.bracketed span negated set, c)
        else classFrom steps below (outer.push (.bracketed span negated set)) c
      | (_, frames) => refuse .openClass (innermost c.place frames)
    | some _ =>
      match operation? c with
      | some op =>
        let (left, frames) := operated u.toSet frames
        let c := c.next.next
        classFrom steps (.operation op left :: frames) (.start c.place) c
      | none =>
        let (item, c) ← classItem (innermost c.place frames) c
        classFrom steps frames (u.push item) c

/-- Reads a class; the cursor stands in front of its bracket. -/
def bracketed (c : Cursor) : Except Fault (Node × Cursor) :=
  classFrom (c.rest.length + 1) [] (.start c.place) c

end Pattern

end ChatOpening
