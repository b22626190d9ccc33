import ChatOpening.Pattern.Expression
import ChatOpening.Pattern.Tree

/-!
# What patterns mean

The expression of a tree. Flags change what the nodes behind them mean, up to the end of the group: whether case
counts, where lines begin and end, and whether characters or bytes of ASCII are meant. As patterns are looked for in
texts, nothing may mean a byte that is no character of its own.

Of characters beyond ASCII neither cases nor properties are known, so whatever needs these is refused.
-/

namespace ChatOpening

namespace Pattern

/-- What flags have been given. -/
structure Mode where
  ignoreCase : Bool
  multiLine : Bool
  dotAll : Bool
  unicode : Bool
  carriageReturn : Bool
  deriving DecidableEq, Repr

namespace Mode

def start : Mode := ⟨false, false, false, true, false⟩

/-- The mode behind flags. -/
def updated (m : Mode) (items : List FlagItem) : Mode :=
  let state (flag : Flag) (now : Bool) : Bool := (stateOf flag true items).getD now
  { ignoreCase := state .ignoreCase m.ignoreCase
    multiLine := state .multiLine m.multiLine
    dotAll := state .dotAll m.dotAll
    unicode := state .unicode m.unicode
    carriageReturn := state .carriageReturn m.carriageReturn }

end Mode

/-- A class that is being put together, and whether it is known to have all letters in both cases. -/
structure ClassValue where
  set : CharSet
  folded : Bool

namespace ClassValue

def empty : ClassValue := ⟨.empty, true⟩

def push (v : ClassValue) (first last : Char) : ClassValue :=
  ⟨v.set.union (.ofRanges [(first, last)]), false⟩

def union (v w : ClassValue) : ClassValue :=
  if w.set.isEmpty || v.set = w.set then v else ⟨v.set.union w.set, v.folded && w.folded⟩

def intersection (v w : ClassValue) : ClassValue :=
  if v.set.isEmpty then v else if w.set.isEmpty then empty else ⟨v.set.intersection w.set, v.folded && w.folded⟩

def difference (v w : ClassValue) : ClassValue :=
  if v.set.isEmpty || w.set.isEmpty then v else ⟨v.set.difference w.set, v.folded && w.folded⟩

def combined (v w : ClassValue) : SetOperation → ClassValue
  | .intersection => v.intersection w
  | .difference => v.difference w
  | .symmetricDifference => (v.union w).difference (v.intersection w)

/-- What is outside of a class. -/
def negated (m : Mode) (v : ClassValue) : ClassValue :=
  let everything := if m.unicode then CharSet.all else CharSet.bytes
  if v.set.isEmpty then ⟨everything, true⟩ else ⟨everything.difference v.set, v.folded⟩

/-- Adds the letters in the other case where case does not count. -/
def fold (m : Mode) (span : Span) (v : ClassValue) : Except Fault ClassValue :=
  if !m.ignoreCase || v.folded then .ok v
  else if v.set.isEmpty then .ok ⟨v.set, true⟩
  else if m.unicode then .error ⟨.foldingUnavailable, span, none⟩
  else .ok ⟨v.set.union v.set.otherCase, true⟩

/-- A class without regard to case, negated if this is asked for. -/
def settle (m : Mode) (span : Span) (negated : Bool) (v : ClassValue) : Except Fault ClassValue := do
  let v ← v.fold m span
  let v := if negated then v.negated m else v
  if m.unicode || v.set.isAscii then return v else .error ⟨.brokenUtf8, span, none⟩

end ClassValue

/-- The classes with a letter, in ASCII. -/
def Shorthand.ranges : Shorthand → List (Char × Char)
  | digit => [('0', '9')]
  | space => [('\t', '\r'), (' ', ' ')]
  | word => [('0', '9'), ('A', 'Z'), ('_', '_'), ('a', 'z')]

/-- The class of a letter. -/
def shorthandValue (m : Mode) (span : Span) (s : Shorthand) (negated : Bool) : Except Fault ClassValue :=
  if m.unicode then .error ⟨.unknownShorthand, span, none⟩
  else if negated then .error ⟨.brokenUtf8, span, none⟩
  else .ok ⟨.ofRanges s.ranges, false⟩

section Properties

/-- The name of a property without blanks, hyphens, underscores, the word `is` at its front, and capital letters. -/
def plainName (name : List Char) : List Char :=
  let isWord := (name.take 2).map Char.toLower = ['i', 's']
  let kept := (if isWord then name.drop 2 else name).filter fun c => c < '\x80' && c ≠ ' ' && c ≠ '_' && c ≠ '-'
  kept.map Char.toLower

/-- The properties that are looked for among the categories only. -/
def categoryNames : List String := ["cf", "sc", "lc"]

/-- Why there is no class of a property. -/
def propertyCause (m : Mode) (name : List Char) : Cause :=
  if !m.unicode then .beyondAscii
  else if categoryNames.contains (String.ofList (plainName name)) then .unknownPropertyValue
  else .unknownProperty

end Properties

/-- The character that a literal means in a class. -/
def classChar (m : Mode) (l : Literal) : Except Fault Char :=
  if m.unicode || l.char < '\x80' then .ok l.char
  else if l.isByte then .error ⟨.brokenUtf8, l.span, none⟩
  else .error ⟨.beyondAscii, l.span, none⟩

mutual

/-- Adds what stands in a class to its value. -/
def addSet (m : Mode) (v : ClassValue) : ClassSet → Except Fault ClassValue
  | .nothing _ => .ok v
  | .literal l => do
    let c ← classChar m l
    return v.push c c
  | .range _ first last => do return v.push (← classChar m first) (← classChar m last)
  | .named span ranges negated => do return v.union (← ClassValue.settle m span negated ⟨.ofRanges ranges, false⟩)
  | .shorthand span s negated => do return v.union (← shorthandValue m span s negated)
  | .property span name => .error ⟨propertyCause m name, span, none⟩
  | .bracketed span negated inner => do
    return v.union (← ClassValue.settle m span negated (← addSet m .empty inner))
  | .union _ items => addSets m v items
  | .combined _ op left right => do
    let l ← addSet m .empty left
    let r ← addSet m .empty right
    let r ← r.fold m right.span
    let l ← l.fold m left.span
    return v.union (l.combined r op)

def addSets (m : Mode) (v : ClassValue) : List ClassSet → Except Fault ClassValue
  | [] => .ok v
  | s :: others => do addSets m (← addSet m v s) others

end

/-- What a literal means. -/
def literalMeaning (m : Mode) (l : Literal) : Except Fault Expression :=
  let alone := CharSet.ofRanges [(l.char, l.char)]
  if m.unicode then
    if m.ignoreCase then .error ⟨.foldingUnavailable, l.span, none⟩ else .ok (.set alone)
  else if l.isByte && '\x80' ≤ l.char then .error ⟨.brokenUtf8, l.span, none⟩
  else .ok (.set (if m.ignoreCase then alone.union alone.otherCase else alone))

/-- What a dot means. -/
def dotMeaning (m : Mode) (span : Span) : Except Fault Expression :=
  if !m.unicode then .error ⟨.brokenUtf8, span, none⟩
  else if m.dotAll then .ok (.set .all)
  else
    let ends := if m.carriageReturn then [('\n', '\n'), ('\r', '\r')] else [('\n', '\n')]
    .ok (.set (CharSet.all.difference (.ofRanges ends)))

/-- What an anchor means. -/
def anchorMeaning (m : Mode) : Anchor → Look
  | .lineStart => if m.multiLine then .lineStart m.carriageReturn else .start
  | .lineEnd => if m.multiLine then .lineFinish m.carriageReturn else .finish
  | .textStart => .start
  | .textEnd => .finish
  | .boundary => .word (!m.unicode) .change
  | .noBoundary => .word (!m.unicode) .noChange
  | .wordStart => .word (!m.unicode) .start
  | .wordEnd => .word (!m.unicode) .finish
  | .wordStartHalf => .word (!m.unicode) .startHalf
  | .wordEndHalf => .word (!m.unicode) .finishHalf

mutual

/-- What a node means, and the mode behind it. -/
def meaning (m : Mode) : Node → Except Fault (Expression × Mode)
  | .empty _ => .ok (.empty, m)
  | .flags _ items => .ok (.empty, m.updated items)
  | .literal l => do return (← literalMeaning m l, m)
  | .dot span => do return (← dotMeaning m span, m)
  | .anchor _ a => .ok (.look (anchorMeaning m a), m)
  | .shorthand span s negated => do return (.set (← shorthandValue m span s negated).set, m)
  | .property span name => .error ⟨propertyCause m name, span, none⟩
  | .bracketed span negated set => do
    return (.set (← ClassValue.settle m span negated (← addSet m .empty set)).set, m)
  | .repetition _ least most inner => do
    let (e, m) ← meaning m inner
    return (.repeated least most e, m)
  | .group _ grouping inner =>
    match grouping with
    | .captured => do return (.capture (← meaning m inner).1, m)
    | .plain items => do return ((← meaning (m.updated items) inner).1, m)
  | .sequence _ nodes => sequenceMeaning m nodes
  | .alternatives _ nodes => alternativesMeaning m nodes

def sequenceMeaning (m : Mode) : List Node → Except Fault (Expression × Mode)
  | [] => .ok (.empty, m)
  | n :: others => do
    let (e, m) ← meaning m n
    let (f, m) ← sequenceMeaning m others
    return (if e = .empty then f else if f = .empty then e else .both e f, m)

def alternativesMeaning (m : Mode) : List Node → Except Fault (Expression × Mode)
  | [] => .ok (.set .empty, m)
  | [n] => meaning m n
  | n :: others => do
    let (e, m) ← meaning m n
    let (f, m) ← alternativesMeaning m others
    return (.either e f, m)

end

/-- The expression of a tree. -/
def Expression.ofNode (n : Node) : Except Fault Expression := do
  return (← meaning .start n).1

end Pattern

end ChatOpening
