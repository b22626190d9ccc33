/-!
# Templates

A template is a text with places of the form `{name}`. Filling it goes through the text once, from left to right: at an
opening brace the text up to the next closing brace is looked up among the given values. If it is the name of a
value, the value takes the place of the braces and of what is between them, and filling goes on behind them, so a
value is never searched for places. Otherwise the opening brace is kept and filling goes on right behind it.
-/

namespace ChatOpening

namespace Template

/-- Named values; of two with the same name the first one counts. -/
abbrev Values := List (String × String)

def isClosing (c : Char) : Bool :=
  c = '\x7d'

/-- The value for the place whose opening brace stands before `rest`, and what follows the place. -/
def place? (values : Values) (rest : List Char) : Option (String × List Char) :=
  match rest.dropWhile (!isClosing ·) with
  | [] => none
  | _ :: after =>
    match values.lookup (String.ofList (rest.takeWhile (!isClosing ·))) with
    | none => none
    | some value => some (value, after)

theorem length_place? {values : Values} {rest after : List Char} {value : String}
    (h : place? values rest = some (value, after)) : after.length < rest.length := by
  unfold place? at h
  split at h
  · simp at h
  · next c others heq =>
    split at h
    · simp at h
    · simp only [Option.some.injEq, Prod.mk.injEq] at h
      have := (List.dropWhile_suffix (l := rest) (!isClosing ·)).length_le
      rw [heq, List.length_cons] at this
      rw [← h.2]
      omega

/-- Puts the filled template behind the characters in `done`, which stand there in reverse. -/
def fillFrom (values : Values) (done : List Char) (template : List Char) : List Char :=
  match template with
  | [] => done.reverse
  | c :: rest =>
    if c = '\x7b' then
      match _h : place? values rest with
      | some (value, after) => fillFrom values (value.toList.reverse ++ done) after
      | none => fillFrom values (c :: done) rest
    else fillFrom values (c :: done) rest
termination_by template.length
decreasing_by
  · have := length_place? _h
    simp only [List.length_cons]
    omega
  · simp
  · simp

/-- The template with its places filled. -/
def fill (values : Values) (template : String) : String :=
  String.ofList (fillFrom values [] template.toList)

end Template

end ChatOpening
