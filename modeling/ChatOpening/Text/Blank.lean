/-!
# Blank characters

The characters with the Unicode property White_Space, and what depends on them: texts made of blanks only,
and texts without the blanks around them.
-/

namespace ChatOpening

namespace Text

/-- The property White_Space: six controls, the spaces, and the line and paragraph separators. -/
def isBlank (c : Char) : Bool :=
  ('\t' ≤ c && c ≤ '\r') || c = ' ' || c = '\u0085' || c = '\u00A0' || c = '\u1680'
    || ('\u2000' ≤ c && c ≤ '\u200A') || c = '\u2028' || c = '\u2029' || c = '\u202F'
    || c = '\u205F' || c = '\u3000'

/-- A text without a character that is not blank; the empty text is one. -/
def isAllBlank (s : String) : Bool :=
  s.toList.all isBlank

/-- The characters without the blanks before the first and after the last that is not blank. -/
def trimmed (cs : List Char) : List Char :=
  ((cs.dropWhile isBlank).reverse.dropWhile isBlank).reverse

end Text

end ChatOpening
