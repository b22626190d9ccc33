import ChatOpening.Pattern.Meaning
import ChatOpening.Pattern.Parser
import ChatOpening.Pattern.Search
import ChatOpening.Pattern.Size

/-!
# Patterns

A pattern is looked for in texts. It is refused if it is not well formed, if it would take too much memory, or if it asks
for words beyond ASCII.
-/

namespace ChatOpening

structure Pattern where
  expression : Pattern.Expression
  deriving DecidableEq, Repr

namespace Pattern

/-- Why a pattern is refused. -/
inductive Refusal where
  | faulty (pattern : List Char) (fault : Fault)
  | tooLarge
  | unknownWords
  deriving DecidableEq, Repr

def Refusal.message : Refusal → String
  | faulty pattern fault => fault.report pattern
  | tooLarge => s!"Compiled regex exceeds size limit of {Expression.largestSize} bytes."
  | unknownWords => "error building NFA"

/-- The expression of a pattern that is well formed. -/
def expressionOf (pattern : List Char) : Except Fault Expression := do
  Expression.ofNode (← Node.ofPattern pattern)

/-- The pattern that a text is. -/
def ofText (s : String) : Except Refusal Pattern :=
  match expressionOf s.toList with
  | .error fault => .error (.faulty s.toList fault)
  | .ok e =>
    if e.isTooLarge false then .error .tooLarge
    else if e.asksForWords then .error .unknownWords
    else if e.isTooLarge true then .error .tooLarge
    else .ok ⟨e⟩

/-- Whether the pattern is found somewhere in a text. -/
def isFoundIn (p : Pattern) (s : String) : Bool :=
  p.expression.isFoundIn s.toList

end Pattern

end ChatOpening
