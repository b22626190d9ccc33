import ChatOpening.Address.NameMapping
import ChatOpening.Address.Punycode
import ChatOpening.Text.Composed
import ChatOpening.Text.Direction
import ChatOpening.Text.Joining

/-!
# Domain names

A domain name is a list of labels with dots between them. Its characters are evened out and composed before anything
else. A label with characters beyond ASCII is written as `xn--` and its Punycode; one that is given in this form has
to stand for a label that needs no evening out.

Some characters of ASCII may not stand in a name. No label begins with a mark, joiners stand only where they change
something, and if a label is written from right to left then all labels have to keep their appearance beside it.
-/

namespace ChatOpening

namespace DomainName

/-- The evened out and composed characters of a text, if all may stand in a name. -/
def evened? (cs : List Char) : Option (List Char) :=
  (NameMapping.text? cs).map fun points => (Text.composed points).map Char.ofNat

/-- A character of ASCII that may not stand in a name. -/
def isForbidden (c : Char) : Bool :=
  c ≤ ' ' || c = '\x7F' || ['%', '#', '/', ':', '<', '>', '?', '@', '[', '\\', ']', '^', '|'].contains c

structure Label where
  chars : List Char
  /-- The form in ASCII. -/
  written : List Char

/-- What the form in ASCII of a label with other characters starts with. -/
def mark : List Char := "xn--".toList

/-- The most digits of a label that are read. -/
def longestRead : Nat := 2000

/-- The most characters of a label that are written. -/
def longestWritten : Nat := 1000

/-- The characters that stand behind the mark in another form. -/
def coded? (code : List Char) : Option (List Char) :=
  if code.all Punycode.isAscii && code.getLast?.any (· ≠ '-') && code.length ≤ longestRead then
    (Punycode.decoded? code).filter fun chars => evened? chars = some chars
  else none

/-- The label with the given characters, which are evened out. -/
def label? (cs : List Char) : Option Label :=
  if mark.isPrefixOf cs then (coded? (cs.drop mark.length)).map fun chars => ⟨chars, cs⟩
  else if cs.all Punycode.isAscii then some ⟨cs, cs⟩
  else if cs.length ≤ longestWritten then some ⟨cs, mark ++ Punycode.encoded cs⟩
  else none

/-- Whether a label may stand in a name by itself. -/
def Label.isSound (l : Label) : Bool :=
  !l.chars.any isForbidden && !l.chars.head?.any Text.isMark && Text.joinersStand [] l.chars

/-- Whether labels keep their appearance beside each other. -/
def areSteady (labels : List Label) : Bool :=
  !labels.any (·.chars.any Text.Direction.isTurning) || labels.all (Text.Direction.keeps ·.chars)

/-- The labels of a name. -/
def labels? (name : List Char) : Option (List Label) :=
  ((evened? name).bind fun even => (even.splitOn '.').mapM label?).filter fun labels =>
    labels.all Label.isSound && areSteady labels

/-- The written form of a name, if it is one. -/
def written? (name : List Char) : Option (List Char) :=
  (labels? name).map fun labels => ['.'].intercalate (labels.map (·.written))

end DomainName

end ChatOpening
