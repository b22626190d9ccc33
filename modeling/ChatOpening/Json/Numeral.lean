import ChatOpening.Json.Reader

/-!
# Numerals in JSON

A whole part without leading zeros, then possibly a mark with the digits of a fraction, then possibly an exponent.
A minus sign before the whole part has been read by the caller. The cause for a text that ends inside a numeral is a
parameter: a numeral that is only passed over is bad, one that is read is cut short.
-/

namespace ChatOpening

namespace Json

def isDigit (b : UInt8) : Bool :=
  0x30 ≤ b && b ≤ 0x39

theorem length_span_rest (input : Bytes) : (input.dropWhile isDigit).length ≤ input.length :=
  (List.dropWhile_suffix _).length_le

/-- Reads the whole part: a single zero, or digits that start with another one. -/
def wholePart (ending : Cause) : Reader Bytes
  | [] => .error (.here ending [])
  | d :: rest =>
    if d = 0x30 then
      match rest with
      | next :: others =>
        if isDigit next then .error (.next .badNumeral (next :: others))
        else .ok (.before [d] (next :: others))
      | [] => .ok (.before [d] [])
    else if isDigit d then
      .ok ⟨d :: rest.takeWhile isDigit, rest.dropWhile isDigit, Nat.lt_succ_of_le (length_span_rest rest)⟩
    else .error (.here .badNumeral rest)

theorem length_span_lt (mark d : UInt8) (others : Bytes) :
    (others.dropWhile isDigit).length < (mark :: d :: others).length + 1 := by
  have := length_span_rest others
  simp only [List.length_cons]
  omega

/-- Reads the mark and the digits of a fraction, if the mark is there. -/
def fractionPart (ending : Cause) (input : Bytes) : Outcome (input.length + 1) (Option Bytes) :=
  match input with
  | [] => .ok (.before none [])
  | mark :: rest =>
    if mark ≠ 0x2E then .ok (.before none (mark :: rest))
    else
      match rest with
      | [] => .error (.next ending [])
      | d :: others =>
        if isDigit d then
          .ok ⟨some (d :: others.takeWhile isDigit), others.dropWhile isDigit, length_span_lt mark d others⟩
        else .error (.next .badNumeral (d :: others))

/-- The sign of an exponent, and what follows it. -/
def exponentSign : Bytes → Bool × Bytes
  | [] => (false, [])
  | b :: rest =>
    if b = 0x2B then (false, rest) else if b = 0x2D then (true, rest) else (false, b :: rest)

theorem length_exponentSign (input : Bytes) : (exponentSign input).2.length ≤ input.length := by
  unfold exponentSign
  split
  · simp
  · split
    · simp
    · split <;> simp

theorem length_exponent_lt {letter d : UInt8} {rest others : Bytes} (h : (exponentSign rest).2 = d :: others) :
    (others.dropWhile isDigit).length < (letter :: rest).length + 1 := by
  have h₁ := length_span_rest others
  have h₂ := length_exponentSign rest
  rw [h] at h₂
  simp only [List.length_cons] at h₂ ⊢
  omega

/-- Reads an exponent, if its letter is there. -/
def exponentPart (ending : Cause) (input : Bytes) : Outcome (input.length + 1) (Option (Bool × Bytes)) :=
  match input with
  | [] => .ok (.before none [])
  | letter :: rest =>
    if letter ≠ 0x65 && letter ≠ 0x45 then .ok (.before none (letter :: rest))
    else
      match h : (exponentSign rest).2 with
      | [] => .error (.here ending [])
      | d :: others =>
        if isDigit d then
          .ok ⟨some ((exponentSign rest).1, d :: others.takeWhile isDigit), others.dropWhile isDigit,
            length_exponent_lt h⟩
        else .error (.here .badNumeral others)

/-- Reads a numeral whose sign has been read. -/
def numeral (ending : Cause) (negative : Bool) : Reader Numeral :=
  fun input =>
    match wholePart ending input with
    | .error fault => .error fault
    | .ok whole =>
      match fractionPart ending whole.rest with
      | .error fault => .error fault
      | .ok fraction =>
        match exponentPart ending fraction.rest with
        | .error fault => .error fault
        | .ok exponent =>
          .ok ⟨⟨negative, whole.value, fraction.value, exponent.value⟩, exponent.rest, by
            have h₁ := whole.shorter
            have h₂ := fraction.shorter
            have h₃ := exponent.shorter
            omega⟩

/-- Reads a number whose sign has been read. -/
def number (negative : Bool) : Reader Number :=
  fun input =>
    match numeral .endInValue negative input with
    | .error fault => .error fault
    | .ok p =>
      match p.value.value with
      | .ok n => .ok ⟨n, p.rest, p.shorter⟩
      | .error beyond => .error ⟨.numberOutOfRange, p.rest.length + beyond.unread, []⟩

end Json

end ChatOpening
