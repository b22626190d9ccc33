import ChatOpening.Json.Fault

/-!
# Readers

A reader takes a value from the front of the bytes and returns the rest, which is shorter than what it was given,
or a fault. That the rest is shorter is part of the result, so a loop over readers ends because the bytes do.

The module holds the type, the ways to put readers together, and the readers of the marks between values: blanks,
words and colons.
-/

namespace ChatOpening

namespace Json

/-- A value and the bytes that follow it, fewer than `bound`. -/
structure Parsed (bound : Nat) (α : Type) where
  value : α
  rest : Bytes
  shorter : rest.length < bound

namespace Parsed

variable {α β : Type} {bound larger : Nat}

def map (f : α → β) (p : Parsed bound α) : Parsed bound β :=
  ⟨f p.value, p.rest, p.shorter⟩

/-- A value whose own bytes, at least one, stand before `rest`. -/
def before (value : α) (rest : Bytes) : Parsed (rest.length + 1) α :=
  ⟨value, rest, Nat.lt_succ_self _⟩

/-- What is shorter than a part is shorter than the whole. -/
def widen (h : bound ≤ larger) (p : Parsed bound α) : Parsed larger α :=
  ⟨p.value, p.rest, Nat.lt_of_lt_of_le p.shorter h⟩

end Parsed

/-- The result of reading from bytes that are fewer than, or as many as, `bound`. -/
abbrev Outcome (bound : Nat) (α : Type) := Except Fault (Parsed bound α)

abbrev Reader (α : Type) := (input : Bytes) → Outcome input.length α

namespace Outcome

variable {α β : Type} {bound larger : Nat}

def map (f : α → β) : Outcome bound α → Outcome bound β
  | .ok p => .ok (p.map f)
  | .error fault => .error fault

def widen (h : bound ≤ larger) : Outcome bound α → Outcome larger α
  | .ok p => .ok (p.widen h)
  | .error fault => .error fault

/-- The outcome of reading what stands behind a first byte. -/
def afterFirst (r : Outcome bound α) : Outcome (bound + 1) α :=
  r.widen (Nat.le_succ bound)

/-- Marks the faults of a part with the step that leads to it, if the way is noted. -/
def within (tracking : Tracking) (step : Step) : Outcome bound α → Outcome bound α
  | .ok p => .ok p
  | .error fault => .error (fault.within tracking step)

/-- Goes on with a reader for the rest. -/
def andThen (r : Outcome bound α) (f : α → Reader β) : Outcome bound β :=
  match r with
  | .ok p => (f p.value p.rest).widen (Nat.le_of_lt p.shorter)
  | .error fault => .error fault

end Outcome

namespace Reader

variable {α β : Type}

def map (f : α → β) (r : Reader α) : Reader β :=
  fun input => (r input).map f

def within (tracking : Tracking) (step : Step) (r : Reader α) : Reader α :=
  fun input => (r input).within tracking step

def andThen (r : Reader α) (f : α → Reader β) : Reader β :=
  fun input => (r input).andThen f

end Reader

section Marks

/-- The four blanks between values. -/
def isBlankByte (b : UInt8) : Bool :=
  b = 0x20 || b = 0x0A || b = 0x09 || b = 0x0D

def skipBlanks (input : Bytes) : Bytes :=
  input.dropWhile isBlankByte

theorem length_skipBlanks_le (input : Bytes) : (skipBlanks input).length ≤ input.length :=
  (List.dropWhile_suffix _).length_le

theorem length_lt_of_skipBlanks {input rest : Bytes} {b : UInt8} (h : skipBlanks input = b :: rest) :
    rest.length < input.length := by
  have := length_skipBlanks_le input
  rw [h, List.length_cons] at this
  omega

theorem length_lt_succ_of_skipBlanks {input rest : Bytes} {b : UInt8} (h : skipBlanks input = b :: rest) :
    rest.length < input.length + 1 :=
  Nat.lt_succ_of_lt (length_lt_of_skipBlanks h)

theorem length_cons_lt_of_skipBlanks {input rest : Bytes} {b : UInt8} (h : skipBlanks input = b :: rest) :
    (b :: rest).length < input.length + 1 :=
  Nat.succ_lt_succ (length_lt_of_skipBlanks h)

/-- All bytes are as many as there are. -/
theorem length_le_self (input : Bytes) : input.length ≤ input.length :=
  Nat.le_refl _

/-- Reads what follows the blanks with a function of its first byte and the others; `ending` is the cause if nothing
follows. -/
def afterBlanks {α : Type} (ending : Cause)
    (read : (first : UInt8) → (rest : Bytes) → Outcome (rest.length + 1) α) : Reader α :=
  fun input =>
    match h : skipBlanks input with
    | [] => .error (.next ending [])
    | first :: rest => (read first rest).widen (length_lt_of_skipBlanks h)

/-- Reads the given bytes. -/
def word : (expected : Bytes) → (input : Bytes) → Except Fault Bytes
  | [], input => .ok input
  | _ :: _, [] => .error (.here .endInValue [])
  | e :: expected, b :: rest => if b = e then word expected rest else .error (.here .expectedWord rest)

theorem length_word {expected input rest : Bytes} (h : word expected input = .ok rest) :
    rest.length ≤ input.length := by
  induction expected generalizing input with
  | nil => simp only [word, Except.ok.injEq] at h; simp [h]
  | cons e expected ih =>
    cases input with
    | nil => simp [word] at h
    | cons b bs =>
      simp only [word] at h
      split at h
      · have := ih h
        simp only [List.length_cons]
        omega
      · simp at h

/-- The rest of a word whose first letter has been read, as the name of a value. -/
def wordValue {α : Type} (expected : Bytes) (value : α) (input : Bytes) : Outcome (input.length + 1) α :=
  match h : word expected input with
  | .ok rest => .ok ⟨value, rest, Nat.lt_succ_of_le (length_word h)⟩
  | .error fault => .error fault

def afterN : Bytes := [0x75, 0x6C, 0x6C]

def afterT : Bytes := [0x72, 0x75, 0x65]

def afterF : Bytes := [0x61, 0x6C, 0x73, 0x65]

/-- Reads the colon between a key and its value. -/
def colon : Reader Unit :=
  afterBlanks .endInObject fun first rest =>
    if first = 0x3A then .ok (.before () rest) else .error (.next .expectedColon (first :: rest))

end Marks

end Json

end ChatOpening
