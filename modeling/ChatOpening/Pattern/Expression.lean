import ChatOpening.Pattern.CharSet

/-!
# Expressions

What a pattern asks for: characters of a set, places, and these one after the other, in alternative, and repeated.
Repetitions of what only takes a place are at most one.
-/

namespace ChatOpening

namespace Pattern

/-- What is asked for on the two sides of a place between words and others. -/
inductive Boundary where
  | change
  | noChange
  | start
  | finish
  | startHalf
  | finishHalf
  deriving DecidableEq, Repr

/-- A place that is asked for. -/
inductive Look where
  | start
  | finish
  /-- Lines may end with a carriage return, too. -/
  | lineStart (carriageReturn : Bool)
  | lineFinish (carriageReturn : Bool)
  /-- Words hold letters and figures of ASCII only, or of all scripts. -/
  | word (ascii : Bool) (b : Boundary)
  deriving DecidableEq, Repr

inductive Expression where
  | empty
  | set (s : CharSet)
  | look (l : Look)
  | both (first second : Expression)
  | either (first second : Expression)
  | repetition (least : Nat) (most : Option Nat) (inner : Expression)
  | capture (inner : Expression)
  deriving DecidableEq, Repr

namespace Expression

/-- Whether only the empty text can be found. -/
def isPlace : Expression → Bool
  | empty | look _ => true
  | set _ => false
  | both a b => a.isPlace && b.isPlace
  | either a b => a.isPlace && b.isPlace
  | repetition _ most inner => most = some 0 || inner.isPlace
  | capture inner => inner.isPlace

/-- The repetition of an expression. -/
def repeated (least : Nat) (most : Option Nat) (e : Expression) : Expression :=
  let (least, most) := if e.isPlace then (min least 1, some (min (most.getD 1) 1)) else (least, most)
  if least = 0 && most = some 0 then empty
  else if least = 1 && most = some 1 then e
  else repetition least most e

/-- Whether words of all scripts are asked for. -/
def asksForWords : Expression → Bool
  | empty | set _ => false
  | look l =>
    match l with
    | .word ascii _ => !ascii
    | _ => false
  | both a b => a.asksForWords || b.asksForWords
  | either a b => a.asksForWords || b.asksForWords
  | repetition _ _ inner => inner.asksForWords
  | capture inner => inner.asksForWords

end Expression

end Pattern

end ChatOpening
