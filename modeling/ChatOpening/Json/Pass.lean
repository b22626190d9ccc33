import ChatOpening.Json.Text
import ChatOpening.Json.Numeral

/-!
# Passing over a value

A member that nobody asked for is passed over: its text has to be JSON, but numbers are not computed, escapes by
number need no partner, and nothing limits how deep lists and objects are nested. The lists and objects that are
open are kept on a stack, the innermost first, so that the depth of a text costs no depth of recursion.
-/

namespace ChatOpening

namespace Json

/-- An open list or object. -/
inductive Enclosure where
  | list
  | object
  deriving DecidableEq, Repr

namespace Enclosure

/-- The byte that closes it. -/
def closing : Enclosure → UInt8
  | list => 0x5D
  | object => 0x7D

/-- The cause for a text that ends inside it. -/
def ending : Enclosure → Cause
  | list => .endInList
  | object => .endInObject

/-- The cause for two parts without a comma between them. -/
def noComma : Enclosure → Cause
  | list => .expectedCommaOrBracket
  | object => .expectedCommaOrBrace

end Enclosure

/-- The comma. -/
def comma : UInt8 := 0x2C

/-- Passes over a value that is no list and no object, or over the bracket that opens one. -/
def passHead : Reader (Option Enclosure) :=
  afterBlanks .endInValue fun first rest =>
    if first = 0x6E then wordValue afterN none rest
    else if first = 0x74 then wordValue afterT none rest
    else if first = 0x66 then wordValue afterF none rest
    else if first = 0x2D then ((numeral .badNumeral true rest).map fun _ => none).afterFirst
    else if isDigit first then (numeral .badNumeral false (first :: rest)).map fun _ => none
    else if first = quoteMark then ((passText rest (length_le_self rest)).map fun _ => none).afterFirst
    else if first = 0x5B then .ok (.before (some .list) rest)
    else if first = 0x7B then .ok (.before (some .object) rest)
    else .error (.next .expectedValue (first :: rest))

/-- Passes over a key and the colon behind it. -/
def passKey : Reader Unit :=
  Reader.andThen
    (afterBlanks .endInObject fun first rest =>
      if first = quoteMark then (passText rest (length_le_self rest)).afterFirst
      else .error (.next .keyNotText (first :: rest)))
    fun _ => colon

/-- Passes over what stands before the value of the next part: nothing in a list, the key in an object. -/
def passToPart (enclosure : Enclosure) (input : Bytes) : Outcome (input.length + 1) Unit :=
  match enclosure with
  | .list => .ok (.before () input)
  | .object => (passKey input).afterFirst

theorem length_cons_succ_le {bound : Nat} {input rest : Bytes} {first : UInt8} (hb : skipBlanks input = first :: rest)
    (h : input.length < bound) : (first :: rest).length + 1 ≤ bound := by
  have := length_lt_of_skipBlanks hb
  simp only [List.length_cons]
  omega

theorem length_succ_le {bound : Nat} {input rest : Bytes} {first : UInt8} (hb : skipBlanks input = first :: rest)
    (h : input.length < bound) : rest.length + 1 ≤ bound :=
  Nat.succ_le_of_lt (Nat.lt_trans (length_lt_of_skipBlanks hb) h)

/-- Closes what ends here. The result is the stack in which the next value stands, or none if everything has been
closed. `fresh` says that the innermost list or object has just been opened. -/
def settle {bound : Nat} (fresh : Bool) (stack : List Enclosure) (input : Bytes) (h : input.length < bound) :
    Outcome bound (Option (List Enclosure)) :=
  match stack with
  | [] => .ok ⟨none, input, h⟩
  | enclosure :: outer =>
    match hb : skipBlanks input with
    | [] => .error (.next enclosure.ending [])
    | first :: rest =>
      if first = enclosure.closing then settle false outer rest (length_succ_le hb h)
      else if fresh then
        ((passToPart enclosure (first :: rest)).map fun _ => some (enclosure :: outer)).widen (length_cons_succ_le hb h)
      else if first = comma then
        ((passToPart enclosure rest).map fun _ => some (enclosure :: outer)).widen (length_succ_le hb h)
      else .error (.next enclosure.noComma (first :: rest))

/-- Passes over values until everything on the stack has been closed. -/
def passWithin {bound : Nat} (stack : List Enclosure) (input : Bytes) (h : input.length ≤ bound) :
    Outcome bound Unit :=
  match passHead input with
  | .error fault => .error fault
  | .ok head =>
    match settle head.value.isSome (head.value.toList ++ stack) head.rest head.shorter with
    | .error fault => .error fault
    | .ok p =>
      match p.value with
      | none => .ok ⟨(), p.rest, Nat.lt_of_lt_of_le p.shorter h⟩
      | some inner => passWithin inner p.rest (Nat.le_trans (Nat.le_of_lt p.shorter) h)
termination_by input.length
decreasing_by exact p.shorter

/-- Passes over one value. -/
def pass : Reader Unit :=
  fun input => passWithin [] input (length_le_self input)

end Json

end ChatOpening
