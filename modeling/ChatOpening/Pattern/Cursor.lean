import ChatOpening.Pattern.Fault
import ChatOpening.Text.Blank

/-!
# Cursors

A cursor stands in front of what is still to be read of a pattern. Where a pattern may be spaced, blanks and comments,
which begin with a hash and end with the line, are passed over between its parts.
-/

namespace ChatOpening

namespace Pattern

structure Cursor where
  rest : List Char
  place : Place
  /-- Whether the pattern may be spaced. -/
  spaced : Bool
  deriving DecidableEq, Repr

/-- A fault with one span. -/
def refuse {α : Type} (cause : Cause) (span : Span) : Except Fault α :=
  .error ⟨cause, span, none⟩

namespace Cursor

def start (pattern : List Char) : Cursor := ⟨pattern, .start, false⟩

def peek? (c : Cursor) : Option Char :=
  c.rest.head?

def isAtEnd (c : Cursor) : Bool :=
  c.rest.isEmpty

/-- The cursor behind the next character. -/
def next (c : Cursor) : Cursor :=
  match c.rest with
  | [] => c
  | x :: rest => { c with rest, place := c.place.behind x }

/-- The cursor behind a text, if that comes next. -/
def after? (c : Cursor) (text : List Char) : Option Cursor :=
  if text.isPrefixOf c.rest then some (text.foldl (fun c _ => c.next) c) else none

/-- Passes over blanks and comments; `inside` says whether a comment has begun. -/
def pass (inside : Bool) (place : Place) : List Char → List Char × Place
  | [] => ([], place)
  | x :: rest =>
    if inside then pass (x ≠ '\n') (place.behind x) rest
    else if Text.isBlank x then pass false (place.behind x) rest
    else if x = '#' then pass true (place.behind x) rest
    else (x :: rest, place)

/-- The cursor behind blanks and comments, where these count as nothing. -/
def skipped (c : Cursor) : Cursor :=
  if c.spaced then
    let (rest, place) := pass false c.place c.rest
    { c with rest, place }
  else c

/-- The cursor behind the next character, and what counts as nothing behind it. -/
def step (c : Cursor) : Cursor :=
  c.next.skipped

/-- The span from a place to the cursor. -/
def since (c : Cursor) (first : Place) : Span :=
  ⟨first, c.place⟩

/-- The place of the cursor as a span. -/
def point (c : Cursor) : Span :=
  Span.point c.place

/-- The span of the next character. -/
def char (c : Cursor) : Span :=
  c.next.since c.place

/-- Reads characters of a kind, at most as many as given. -/
def runOf (p : Char → Bool) : (most : Nat) → Cursor → List Char × Cursor
  | 0, c => ([], c)
  | most + 1, c =>
    match c.rest with
    | [] => ([], c)
    | x :: _ =>
      if p x then
        let (others, c) := runOf p most c.step
        (x :: others, c)
      else ([], c)

/-- Reads all characters of a kind that come next. -/
def run (p : Char → Bool) (c : Cursor) : List Char × Cursor :=
  runOf p c.rest.length c

/-- The character that is not blank behind the next one. A comment counts as blank only up to its hash. -/
def beyond? (inside : Bool) : List Char → Option Char
  | [] => none
  | x :: rest =>
    if Text.isBlank x then beyond? inside rest
    else if !inside && x = '#' then beyond? true rest
    else some x

/-- The character behind the next one; where the pattern may be spaced, one that is not blank goes first. -/
def peekSecond? (c : Cursor) : Option Char :=
  let others := c.rest.tail
  if c.spaced then (beyond? false others).or others.head? else others.head?

end Cursor

end Pattern

end ChatOpening
