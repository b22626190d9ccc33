import ChatOpening.Text.Printed

/-!
# Texts in quotation marks

How diagnostics show a text that they quote: between two quotation marks, on one line, and so that hidden
characters can be told apart. Quotation marks and backslashes have a backslash before them, five controls have
short forms, and the other hidden characters are shown by their number.
-/

namespace ChatOpening

namespace Text

/-- The lower case hexadecimal digits of a number, without leading zeros. -/
def hexadecimal (n : Nat) : String :=
  String.ofList (Nat.toDigits 16 n)

/-- How a quotation shows a character. -/
def quotedChar (c : Char) : String :=
  match c with
  | '\x00' => "\\0"
  | '\t' => "\\t"
  | '\n' => "\\n"
  | '\r' => "\\r"
  | '"' => "\\\""
  | '\\' => "\\\\"
  | c => if isPrinted c then c.toString else "\\u\x7b" ++ hexadecimal c.toNat ++ "\x7d"

/-- The text in quotation marks. -/
def quoted (s : String) : String :=
  "\"" ++ String.join (s.toList.map quotedChar) ++ "\""

/-- The text in quotation marks, or the word `None` where there is no text. -/
def quotedOption : Option String → String
  | none => "None"
  | some s => "Some(" ++ quoted s ++ ")"

end Text

end ChatOpening
