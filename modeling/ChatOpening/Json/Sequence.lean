import ChatOpening.Json.Text
import ChatOpening.Json.Pass
import ChatOpening.Json.Value

/-!
# Lists, objects and values of any shape

A list is read with a reader for its items, an object with a reader for what follows a key. The reader for objects
carries a state from member to member, so that the same loop fills a record, a dictionary and an object of any
shape; `finish` turns the last state into the result.

How deep lists and objects are nested is limited by a number that each of them lowers by one.
-/

namespace ChatOpening

namespace Json

variable {α σ : Type}

/-- How many lists, objects and variants may stand around a value. -/
def deepest : Nat := 127

/-- Looks for the next item of a list behind `input`. The result says whether there is one; its bytes are the rest. -/
def nextItem (first : Bool) (input : Bytes) : Outcome (input.length + 1) Bool :=
  match h : skipBlanks input with
  | [] => .error (.next .endInList [])
  | b :: rest =>
    if b = 0x5D then .ok ⟨false, rest, length_lt_succ_of_skipBlanks h⟩
    else if first then .ok ⟨true, b :: rest, length_cons_lt_of_skipBlanks h⟩
    else if b = comma then
      match skipBlanks rest with
      | [] => .error (.next .endInValue [])
      | c :: others =>
        if c = 0x5D then .error (.next .commaBeforeEnd (c :: others))
        else .ok ⟨true, rest, length_lt_succ_of_skipBlanks h⟩
    else .error (.next .expectedCommaOrBracket (b :: rest))

/-- Reads the items of a list whose bracket has been read; those before `input` stand in `done` in reverse. -/
def items {bound : Nat} (tracking : Tracking) (item : Reader α) (input : Bytes) (h : input.length ≤ bound)
    (done : List α) : Outcome (bound + 1) (List α) :=
  match (nextItem done.isEmpty input).within tracking (.index done.length) with
  | .error fault => .error fault
  | .ok more =>
    if more.value then
      match (item more.rest).within tracking (.index done.length) with
      | .error fault => .error fault
      | .ok p =>
        items tracking item p.rest (by have := p.shorter; have := more.shorter; omega) (p.value :: done)
    else .ok ⟨done.reverse, more.rest, Nat.lt_of_lt_of_le more.shorter (Nat.succ_le_succ h)⟩
termination_by input.length
decreasing_by
  have := p.shorter
  have := more.shorter
  omega

/-- Looks for the next key of an object behind `input`, and reads it; none if the object ends. -/
def nextKey (first : Bool) (input : Bytes) : Outcome input.length (Option String) :=
  afterBlanks .endInObject (fun b rest =>
    if b = 0x7D then .ok (.before none rest)
    else if first then key b rest
    else if b = comma then
      (afterBlanks .endInValue (fun c others =>
        if c = 0x7D then .error (.next .commaBeforeEnd (c :: others)) else key c others) rest).afterFirst
    else .error (.next .expectedCommaOrBrace (b :: rest))) input
where
  /-- Reads a key that starts with the byte. -/
  key (b : UInt8) (rest : Bytes) : Outcome (rest.length + 1) (Option String) :=
    if b = quoteMark then ((text rest).map some).afterFirst
    else .error (.next .keyNotText (b :: rest))

/-- Reads the members of an object whose brace has been read. -/
def members {bound : Nat} (tracking : Tracking) (member : σ → String → Reader σ) (finish : σ → Except Cause α)
    (first : Bool) (state : σ) (input : Bytes) (h : input.length ≤ bound) : Outcome bound α :=
  match (nextKey first input).within tracking .unread with
  | .error fault => .error fault
  | .ok key =>
    match key.value with
    | none =>
      match finish state with
      | .ok a => .ok ⟨a, key.rest, Nat.lt_of_lt_of_le key.shorter h⟩
      | .error cause => .error (.here cause key.rest)
    | some name =>
      match member state name key.rest with
      | .error fault => .error fault
      | .ok p =>
        members tracking member finish false p.value p.rest
          (by have := p.shorter; have := key.shorter; omega)
termination_by input.length
decreasing_by
  have := p.shorter
  have := key.shorter
  omega

/-- Reads the colon and the value of a member. -/
def memberValue (tracking : Tracking) (name : String) (value : Reader α) : Reader α :=
  (colon.andThen fun _ => value).within tracking (.key name)

/-- Reads the members of a map, whose values `value` reads, and puts one after the other into `start`. -/
def entries (tracking : Tracking) (put : σ → String → α → σ) (start : σ) (value : Reader α) (input : Bytes) :
    Outcome (input.length + 1) σ :=
  (members tracking (fun done name => (memberValue tracking name value).map fun v => put done name v) Except.ok true
    start input (length_le_self input)).afterFirst

/-- Puts a member among others; one of the same key is replaced. -/
def putMember (members : List (String × Value)) (key : String) (value : Value) : List (String × Value) :=
  putEntry key value members

/-- Reads a value of any shape, with a reader for the values inside a list or an object if there may be any. -/
def valueOver (tracking : Tracking) (inner : Option (Reader Value)) : Reader Value :=
  afterBlanks .endInValue fun first rest =>
    if first = 0x6E then wordValue afterN .null rest
    else if first = 0x74 then wordValue afterT (.truth true) rest
    else if first = 0x66 then wordValue afterF (.truth false) rest
    else if first = 0x2D then ((number true rest).map .number).afterFirst
    else if isDigit first then (number false (first :: rest)).map .number
    else if first = quoteMark then ((text rest).map .text).afterFirst
    else if first = 0x5B then
      match inner with
      | none => .error (.next .tooDeep (first :: rest))
      | some item => (items tracking item rest (length_le_self rest) []).map .array
    else if first = 0x7B then
      match inner with
      | none => .error (.next .tooDeep (first :: rest))
      | some value => (entries tracking putMember [] value rest).map .object
    else .error (.next .expectedValue (first :: rest))

/-- Reads a value of any shape in which at most `levels` lists and objects stand around each other. -/
def value (tracking : Tracking) : (levels : Nat) → Reader Value
  | 0 => valueOver tracking none
  | fewer + 1 => valueOver tracking (some (value tracking fewer))

end Json

end ChatOpening
