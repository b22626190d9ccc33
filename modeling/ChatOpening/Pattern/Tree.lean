import ChatOpening.Pattern.Fault

/-!
# Patterns as trees

What is written in a pattern, with the spans that faults are reported at: characters, anchors, classes of characters,
and how they are repeated, grouped and put together.
-/

namespace ChatOpening

namespace Pattern

/-- A character. -/
structure Literal where
  char : Char
  span : Span
  /-- Whether it is written with two hexadecimal digits, and so may mean a byte. -/
  isByte : Bool
  deriving DecidableEq, Repr

/-- A place that is asked for. -/
inductive Anchor where
  | lineStart
  | lineEnd
  | textStart
  | textEnd
  | boundary
  | noBoundary
  | wordStart
  | wordEnd
  | wordStartHalf
  | wordEndHalf
  deriving DecidableEq, Repr

/-- The classes with a letter of their own. -/
inductive Shorthand where
  | digit
  | space
  | word
  deriving DecidableEq, Repr

inductive Flag where
  | ignoreCase
  | multiLine
  | dotAll
  | swapGreed
  | unicode
  | carriageReturn
  | spaced
  deriving DecidableEq, Repr

/-- An item of a list of flags: a flag, or the sign that those behind it are taken away. -/
structure FlagItem where
  flag : Option Flag
  span : Span
  deriving DecidableEq, Repr

/-- What a list of flags says about one of them. -/
def stateOf (flag : Flag) : (given : Bool) → List FlagItem → Option Bool
  | _, [] => none
  | given, item :: others =>
    match item.flag with
    | none => stateOf flag false others
    | some f => if f = flag then some given else stateOf flag given others

inductive SetOperation where
  | intersection
  | difference
  | symmetricDifference
  deriving DecidableEq, Repr

/-- What stands between brackets. -/
inductive ClassSet where
  | nothing (span : Span)
  | literal (l : Literal)
  | range (span : Span) (first last : Literal)
  /-- A class with a name, as the ranges of its characters. -/
  | named (span : Span) (ranges : List (Char × Char)) (negated : Bool)
  | shorthand (span : Span) (s : Shorthand) (negated : Bool)
  | property (span : Span) (name : List Char)
  | bracketed (span : Span) (negated : Bool) (inner : ClassSet)
  | union (span : Span) (items : List ClassSet)
  | combined (span : Span) (op : SetOperation) (left right : ClassSet)

def ClassSet.span : ClassSet → Span
  | nothing s | range s _ _ | named s _ _ | shorthand s _ _ | property s _ | bracketed s _ _ | union s _
  | combined s _ _ _ => s
  | literal l => l.span

/-- What parentheses are for. -/
inductive Grouping where
  | captured
  /-- The flags hold inside only. -/
  | plain (flags : List FlagItem)

inductive Node where
  | empty (span : Span)
  | flags (span : Span) (items : List FlagItem)
  | literal (l : Literal)
  | dot (span : Span)
  | anchor (span : Span) (a : Anchor)
  | shorthand (span : Span) (s : Shorthand) (negated : Bool)
  | property (span : Span) (name : List Char)
  | bracketed (span : Span) (negated : Bool) (set : ClassSet)
  | repetition (span : Span) (least : Nat) (most : Option Nat) (inner : Node)
  | group (span : Span) (grouping : Grouping) (inner : Node)
  | alternatives (span : Span) (nodes : List Node)
  | sequence (span : Span) (nodes : List Node)

def Node.span : Node → Span
  | empty s | flags s _ | dot s | anchor s _ | shorthand s _ _ | property s _ | bracketed s _ _ | repetition s _ _ _
  | group s _ _ | alternatives s _ | sequence s _ => s
  | literal l => l.span

section Depth

/-- The depth inside a part. -/
def deeper (span : Span) (depth : Nat) : Except Fault Nat :=
  if depth < deepest then .ok (depth + 1) else .error ⟨.tooDeep, span, none⟩

mutual

/-- Checks that nothing in a set is nested too deep. -/
def ClassSet.checkDepth (depth : Nat) : ClassSet → Except Fault Unit
  | .bracketed span _ inner => do inner.checkDepth (← deeper span depth)
  | .union span items => do ClassSet.checkDepths (← deeper span depth) items
  | .combined span _ left right => do
    let depth ← deeper span depth
    left.checkDepth depth
    right.checkDepth depth
  | _ => .ok ()

def ClassSet.checkDepths (depth : Nat) : List ClassSet → Except Fault Unit
  | [] => .ok ()
  | s :: others => do
    s.checkDepth depth
    ClassSet.checkDepths depth others

end

mutual

/-- Checks that nothing in a node is nested too deep. -/
def Node.checkDepth (depth : Nat) : Node → Except Fault Unit
  | .bracketed span _ set => do set.checkDepth (← deeper span depth)
  | .repetition span _ _ inner => do inner.checkDepth (← deeper span depth)
  | .group span _ inner => do inner.checkDepth (← deeper span depth)
  | .alternatives span nodes => do Node.checkDepths (← deeper span depth) nodes
  | .sequence span nodes => do Node.checkDepths (← deeper span depth) nodes
  | _ => .ok ()

def Node.checkDepths (depth : Nat) : List Node → Except Fault Unit
  | [] => .ok ()
  | n :: others => do
    n.checkDepth depth
    Node.checkDepths depth others

end

end Depth

end Pattern

end ChatOpening
