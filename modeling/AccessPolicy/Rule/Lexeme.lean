import AccessPolicy.Text.Case

/-!
# Lexemes of rule text

Rule text is a sequence of atomic expressions, such as `role:admin`, and of operators: the words
`and`, `or` and `not` in any case, and the two parentheses.
-/

namespace AccessPolicy

/-- What a lexeme is. -/
inductive LexemeKind where
  /-- An atomic expression. -/
  | expression
  /-- An operator word or a parenthesis. -/
  | operator
  deriving DecidableEq, Repr

/-- What an operator lexeme stands for. -/
inductive OperatorWord where
  /-- The word `and`. -/
  | and
  /-- The word `or`. -/
  | or
  /-- The word `not`. -/
  | not
  /-- An opening parenthesis. -/
  | opening
  /-- A closing parenthesis. -/
  | closing
  deriving DecidableEq, Repr

/-- A piece of rule text with its kind. An operator keeps the case it was written in. -/
structure Lexeme where
  /-- Whether it is an expression or an operator. -/
  kind : LexemeKind
  /-- Its text. -/
  text : String
  deriving DecidableEq, Repr

namespace OperatorWord

/-- The word in lower case. -/
def text : OperatorWord → String
  | .and => "and"
  | .or => "or"
  | .not => "not"
  | .opening => "("
  | .closing => ")"

/-- Whether the word joins two operands. -/
def isBinary : OperatorWord → Bool
  | .and | .or => true
  | _ => false

/-- The operator that a text spells. -/
def ofText? (text : String) : Option OperatorWord :=
  if text = "(" then some .opening
  else if text = ")" then some .closing
  else if Text.sameLetters text "and" then some .and
  else if Text.sameLetters text "or" then some .or
  else if Text.sameLetters text "not" then some .not
  else none

end OperatorWord

namespace Lexeme

/-- An expression lexeme. -/
def expression (text : String) : Lexeme := ⟨.expression, text⟩

/-- An operator lexeme. -/
def operator (text : String) : Lexeme := ⟨.operator, text⟩

/-- Whether the lexeme is an expression. -/
def isExpression (lexeme : Lexeme) : Bool := lexeme.kind == .expression

/-- The operator that the lexeme stands for. An operator lexeme with any other text stands for
none. -/
def word? (lexeme : Lexeme) : Option OperatorWord :=
  match lexeme.kind with
  | .expression => none
  | .operator => OperatorWord.ofText? lexeme.text

/-- Whether the lexeme is `and` or `or`. -/
def isBinary (lexeme : Lexeme) : Bool := lexeme.word?.any OperatorWord.isBinary

@[simp] theorem word?_expression (text : String) : (expression text).word? = none := rfl

@[simp] theorem isBinary_expression (text : String) : (expression text).isBinary = false := rfl

end Lexeme

end AccessPolicy
