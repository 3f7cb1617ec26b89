import AccessPolicy.Json.Basic
import AccessPolicy.Rule.Lexeme
import AccessPolicy.Text.Blank

/-!
# Reading rule text into lexemes

Blanks separate lexemes and each parenthesis is a lexeme of its own. An operator word counts only
if the text ends after it, or a blank or a parenthesis follows. An expression runs to the next
blank or closing parenthesis outside its own quotes and parentheses. The two words `not null:` of
a presence test belong to one expression, however many blanks stand between them.
-/

namespace AccessPolicy

/-- The quotes and parentheses that are open at some place inside an expression. -/
structure Nesting where
  /-- The open quote, if there is one. -/
  quote : Option Char
  /-- The number of open parentheses. -/
  depth : Nat
  deriving DecidableEq, Repr

namespace Nesting

/-- Nothing is open. -/
def outside : Nesting := ⟨none, 0⟩

/-- Whether a character is a quote. -/
def isQuote (character : Char) : Bool := character == '\'' || character == '"'

/-- What is open after a further character of the expression, `none` if the expression ends before
that character. -/
def step? (nesting : Nesting) (character : Char) : Option Nesting :=
  match nesting.quote with
  | some quote =>
    some { nesting with quote := if character = quote then none else some quote }
  | none =>
    if isQuote character then some { nesting with quote := some character }
    else if character = '(' then some { nesting with depth := nesting.depth + 1 }
    else if character = ')' then
      if nesting.depth = 0 then none else some { nesting with depth := nesting.depth - 1 }
    else if Text.isBlank character ∧ nesting.depth = 0 then none
    else some nesting

/-- The characters that belong to the expression, and the text after it. -/
def span (nesting : Nesting) : List Char → List Char × List Char
  | [] => ([], [])
  | character :: rest =>
    match nesting.step? character with
    | none => ([], character :: rest)
    | some next => ((character :: (next.span rest).1), (next.span rest).2)

theorem span_append (nesting : Nesting) (text : List Char) :
    (nesting.span text).1 ++ (nesting.span text).2 = text := by
  induction text generalizing nesting with
  | nil => rfl
  | cons character rest induction =>
    simp only [span]
    split
    · rfl
    · simp [induction]

theorem length_span_le (nesting : Nesting) (text : List Char) :
    (nesting.span text).2.length ≤ text.length := by
  have whole := congrArg List.length (nesting.span_append text)
  simp only [List.length_append] at whole
  omega

theorem isSome_step?_outside {character : Char} (visible : Text.isBlank character = false)
    (notClosing : character ≠ ')') : (outside.step? character).isSome := by
  simp only [step?, outside, notClosing, visible]
  repeat' split <;> simp_all

theorem length_span_lt {nesting : Nesting} {character : Char} (rest : List Char)
    (belongs : (nesting.step? character).isSome) :
    (nesting.span (character :: rest)).2.length < (character :: rest).length := by
  obtain ⟨next, step⟩ := Option.isSome_iff_exists.1 belongs
  simp only [span, step, List.length_cons]
  have := next.length_span_le rest
  omega

end Nesting

namespace Lexeme

/-- The three words that are operators when they stand alone. -/
def reservedWords : List (List Char) := [['a', 'n', 'd'], ['o', 'r'], ['n', 'o', 't']]

/-- Whether an operator word may end before this text. -/
def endsWord : List Char → Bool
  | [] => true
  | next :: _ => Text.isBlank next || next == '(' || next == ')'

/-- The operator word at the start of a text, as it is written, with the text after it. -/
def reservedWord? (text : List Char) : Option (List Char × List Char) :=
  reservedWords.findSome? fun word =>
    let written := text.take word.length
    let rest := text.drop word.length
    if written.map Char.toLower = word ∧ endsWord rest then some (written, rest) else none

/-- The text from `null:` on, if the text starts with `not`, blanks and `null:`. -/
def presenceTest? : List Char → Option (List Char)
  | 'n' :: 'o' :: 't' :: gap :: rest =>
    let tail := rest.dropWhile Text.isBlank
    if Text.isBlank gap ∧ ['n', 'u', 'l', 'l', ':'] <+: tail then some tail else none
  | _ => none

theorem length_of_reservedWord? {text written rest : List Char}
    (found : reservedWord? text = some (written, rest)) : rest.length < text.length := by
  obtain ⟨word, member, found⟩ := List.exists_of_findSome?_eq_some found
  simp only at found
  split at found
  next condition =>
    simp only [Option.some.injEq, Prod.mk.injEq] at found
    have sameLength := congrArg List.length condition.1
    simp only [List.length_map, List.length_take] at sameLength
    have positive : 0 < word.length := by
      simp only [reservedWords, List.mem_cons, List.not_mem_nil, or_false] at member
      rcases member with rfl | rfl | rfl <;> simp
    rw [← found.2, List.length_drop]
    omega
  next => cases found

theorem length_of_presenceTest? {text tail : List Char}
    (found : presenceTest? text = some tail) : tail.length < text.length := by
  unfold presenceTest? at found
  split at found
  next gap rest =>
    simp only at found
    split at found
    next =>
      cases found
      have := (List.dropWhile_suffix Text.isBlank (l := rest)).length_le
      simp only [List.length_cons]
      omega
    next => cases found
  next => cases found

/-- The lexemes of a text. -/
def scan (text : List Char) : List Lexeme :=
  match text with
  | [] => []
  | first :: rest =>
    if Text.isBlank first then scan rest
    else if first = '(' ∨ first = ')' then operator (String.ofList [first]) :: scan rest
    else
      match _ : presenceTest? (first :: rest) with
      | some tail =>
        let parts := Nesting.outside.span tail
        expression (String.ofList ('n' :: 'o' :: 't' :: ' ' :: parts.1)) :: scan parts.2
      | none =>
        match _ : reservedWord? (first :: rest) with
        | some (written, tail) => operator (String.ofList written) :: scan tail
        | none =>
          let parts := Nesting.outside.span (first :: rest)
          expression (String.ofList parts.1) :: scan parts.2
termination_by text.length
decreasing_by
  · exact Nat.lt_add_one _
  · exact Nat.lt_add_one _
  · exact Nat.lt_of_le_of_lt (Nesting.outside.length_span_le tail) (length_of_presenceTest? ‹_›)
  · exact length_of_reservedWord? ‹_›
  · exact Nesting.length_span_lt _ (Nesting.isSome_step?_outside
      (eq_false_of_ne_true ‹¬_ = true›) fun closing => ‹¬(_ ∨ _)› (Or.inr closing))

/-- The lexemes of rule text. -/
def ofText (text : String) : List Lexeme := scan text.toList

/-- The lexemes of a value that may be rule text; any other value has none. -/
def ofJson : Json → List Lexeme
  | .string text => ofText text
  | _ => []

end Lexeme

end AccessPolicy
