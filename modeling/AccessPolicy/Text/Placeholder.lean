import AccessPolicy.Names

/-!
# Placeholders in text

A placeholder is written `%(path)s`, where the path is not empty and holds no parenthesis. A text
is read once from left to right into placeholders and the characters between them; extraction and
substitution both work on that one reading, so a substituted value is never scanned again.
-/

namespace AccessPolicy

namespace Text

/-- Whether a character may stand in the path of a placeholder. -/
def isPathCharacter (character : Char) : Bool := character != '(' && character != ')'

/-- One piece of a text that is read for placeholders. -/
inductive Segment where
  /-- A character outside every placeholder. -/
  | verbatim (character : Char)
  /-- A placeholder with the given path. -/
  | placeholder (path : List Char)
  deriving DecidableEq, Repr

/-- The written form of one placeholder. -/
def placeholderForm (path : List Char) : List Char := '%' :: '(' :: path ++ [')', 's']

/-- The path of a placeholder at the start of the text, with the text after it. -/
def placeholderAt? : List Char → Option (List Char × List Char)
  | '%' :: '(' :: rest =>
    match rest.takeWhile isPathCharacter, rest.dropWhile isPathCharacter with
    | first :: path, ')' :: 's' :: tail => some (first :: path, tail)
    | _, _ => none
  | _ => none

theorem length_of_placeholderAt? {text path tail : List Char}
    (found : placeholderAt? text = some (path, tail)) : tail.length < text.length := by
  unfold placeholderAt? at found
  split at found
  next rest =>
    split at found
    next dropped =>
      have bound := (List.dropWhile_suffix isPathCharacter (l := rest)).length_le
      rw [dropped] at bound
      simp only [List.length_cons, Option.some.injEq, Prod.mk.injEq] at bound found ⊢
      rw [found.2] at bound
      omega
    next => cases found
  next => cases found

/-- The reading of a text into placeholders and the characters between them. -/
def segments : List Char → List Segment
  | [] => []
  | character :: rest =>
    match _ : placeholderAt? (character :: rest) with
    | some (path, tail) => .placeholder path :: segments tail
    | none => .verbatim character :: segments rest
termination_by text => text.length
decreasing_by
  · exact length_of_placeholderAt? ‹_›
  · exact Nat.lt_add_one _

namespace Segment

/-- The text that a segment was read from. -/
def source : Segment → List Char
  | .verbatim character => [character]
  | .placeholder path => placeholderForm path

/-- The path of a placeholder. -/
def path? : Segment → Option String
  | .verbatim _ => none
  | .placeholder path => some (String.ofList path)

/-- The segment with the value of its path put in; a path without a value stays as written. -/
def fill (value? : String → Option String) : Segment → List Char
  | .verbatim character => [character]
  | .placeholder path =>
    match value? (String.ofList path) with
    | some value => value.toList
    | none => placeholderForm path

end Segment

/-- The paths of all placeholders in a text, each once, in order of first appearance. -/
def placeholders (text : String) : List String :=
  Names.extend [] ((segments text.toList).filterMap Segment.path?)

/-- The text with every placeholder whose path has a value replaced by that value. -/
def substitute (value? : String → Option String) (text : String) : String :=
  String.ofList ((segments text.toList).flatMap (Segment.fill value?))

/-- The text between a leading `%(` and a trailing `)s`; any other text as it is. -/
def stripPlaceholder (text : String) : String :=
  match text.toList with
  | '%' :: '(' :: rest =>
    if [')', 's'] <:+ rest then String.ofList (rest.take (rest.length - 2)) else text
  | _ => text

end Text

end AccessPolicy
