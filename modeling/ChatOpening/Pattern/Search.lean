import ChatOpening.Pattern.Expression

/-!
# Finding patterns in texts

A text has gaps: one in front of each character and one at the end. An expression leads from some gaps to others, those
where what it asks for ends if it begins at one of the given gaps. Sets of gaps are lists of as many truth values. A
repetition follows the expression until no gap is new; more rounds than there are gaps change nothing.
-/

namespace ChatOpening

namespace Pattern

/-- Some of the gaps of a text. -/
abbrev Gaps := List Bool

namespace Gaps

def union (g h : Gaps) : Gaps :=
  List.zipWith (· || ·) g h

/-- Follows a step exactly the given number of times, or until it changes nothing. -/
def follow (step : Gaps → Gaps) : (times : Nat) → Gaps → Gaps
  | 0, g => g
  | times + 1, g =>
    let h := step g
    if h = g then g else follow step times h

/-- Follows a step at most the given number of times, as long as gaps are new. -/
def closure (step : Gaps → Gaps) : (times : Nat) → Gaps → Gaps
  | 0, g => g
  | times + 1, g =>
    let h := g.union (step g)
    if h = g then g else closure step times h

end Gaps

/-- The characters on both sides of each gap. -/
def sidesFrom (before : Option Char) : List Char → List (Option Char × Option Char)
  | [] => [(before, none)]
  | c :: rest => (before, some c) :: sidesFrom (some c) rest

/-- A character of a word. -/
def isWordChar (c : Char) : Bool :=
  c.isAlphanum || c = '_'

namespace Boundary

/-- Whether there is a boundary between words on the given sides. -/
def holds (before after : Bool) : Boundary → Bool
  | change => before != after
  | noChange => before == after
  | start => !before && after
  | finish => before && !after
  | startHalf => !before
  | finishHalf => !after

end Boundary

namespace Look

/-- Whether a gap between the given characters is one that is asked for. -/
def holds (before after : Option Char) : Look → Bool
  | start => before.isNone
  | finish => after.isNone
  | lineStart carriageReturn =>
    before.isNone || before = some '\n' || (carriageReturn && before = some '\r' && after ≠ some '\n')
  | lineFinish carriageReturn =>
    after.isNone || (after = some '\n' && !(carriageReturn && before = some '\r'))
      || (carriageReturn && after = some '\r')
  | word _ b => b.holds (before.any isWordChar) (after.any isWordChar)

end Look

namespace Expression

/-- The gaps where the expression ends if it begins at one of the given gaps. -/
def reach (text : List Char) : Expression → Gaps → Gaps
  | empty, g => g
  | set s, g => false :: List.zipWith (fun here c => here && s.contains c) g text
  | look l, g => List.zipWith (fun here sides => here && l.holds sides.1 sides.2) g (sidesFrom none text)
  | both a b, g => reach text b (reach text a g)
  | either a b, g => (reach text a g).union (reach text b g)
  | repetition least most inner, g =>
    let gaps := text.length + 1
    let done := Gaps.follow (reach text inner) (min least gaps) g
    let further := (most.map (· - least)).getD gaps
    Gaps.closure (reach text inner) (min further gaps) done
  | capture inner, g => reach text inner g

/-- Whether what the expression asks for is somewhere in a text. -/
def isFoundIn (e : Expression) (text : List Char) : Bool :=
  (e.reach text (List.replicate (text.length + 1) true)).any id

end Expression

end Pattern

end ChatOpening
