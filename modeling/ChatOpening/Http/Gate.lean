import ChatOpening.Http.Message
import ChatOpening.Text.Blank

/-!
# The gate

A configured key closes the gate to requests that do not carry the same key in their header. A key that is made of
blanks only counts as none, and without a key the gate is open.
-/

namespace ChatOpening

namespace Http

/-- The key that requests have to carry, if there is one. -/
structure Gate where
  key : Option String
  deriving DecidableEq, Repr

namespace Gate

/-- The key that counts. -/
def effectiveKey (key : Option String) : Option String :=
  key.filter fun k => !Text.isAllBlank k

/-- The gate for a configured key. -/
def ofKey (key : Option String) : Gate :=
  ⟨effectiveKey key⟩

/-- The header that carries the key. -/
def header : String := "x-api-key"

/-- Whether a request may pass. -/
def isOpenTo (g : Gate) (r : Request) : Bool :=
  match g.key with
  | none => true
  | some key => r.header? header >>= visibleText? |>.any (· = key)

end Gate

end Http

end ChatOpening
