import AccessPolicy.Rule.Node
import AccessPolicy.Rule.Scan
import AccessPolicy.Rule.SyntaxError

/-!
# Parsing rules

The grammar has four levels: an operand is an expression or a rule in parentheses; `not` binds
tighter than `and`, and `and` tighter than `or`; both join to the right. Plain faults of the whole
list of lexemes are reported before the grammar is consulted.
-/

namespace AccessPolicy

/-- The levels of the grammar, the loosest binding first. -/
inductive GrammarLevel where
  /-- Operands joined by `or`. -/
  | disjunction
  /-- Operands joined by `and`. -/
  | conjunction
  /-- An operand under any number of `not`. -/
  | negation
  /-- An expression, or a rule in parentheses. -/
  | operand
  deriving DecidableEq, Repr

namespace GrammarLevel

/-- The height of a level above the operands. -/
def height : GrammarLevel → Nat
  | .disjunction => 3
  | .conjunction => 2
  | .negation => 1
  | .operand => 0

end GrammarLevel

namespace Lexeme

/-- What is left of a list of lexemes after something was read from it. -/
abbrev Rest (lexemes : List Lexeme) := { rest : List Lexeme // rest.length < lexemes.length }

/-- Whether the first lexeme stands for the given operator. -/
def startsWith (word : OperatorWord) (lexemes : List Lexeme) : Bool :=
  (lexemes.head?.bind word?) == some word

theorem length_tail_of_startsWith {word : OperatorWord} {lexemes : List Lexeme}
    (starts : startsWith word lexemes = true) : lexemes.tail.length < lexemes.length := by
  cases lexemes with
  | nil => cases starts
  | cons first rest => exact Nat.lt_add_one rest.length

/-- Two adjacent lexemes that no rule has. -/
def adjacentFault? (left right : Lexeme) : Option SyntaxError :=
  if left.isBinary ∧ right.isBinary then some .consecutiveOperators
  else if left.isExpression ∧ right.isExpression then some .consecutiveExpressions
  else none

/-- The first fault of two adjacent lexemes. -/
def adjacencyFault? : List Lexeme → Option SyntaxError
  | left :: right :: rest => (adjacentFault? left right).or (adjacencyFault? (right :: rest))
  | _ => none

/-- The number of open parentheses after the lexemes, `none` if one is closed that is not open. -/
def openParentheses? (depth : Nat) : List Lexeme → Option Nat
  | [] => some depth
  | lexeme :: rest =>
    match lexeme.word? with
    | some .opening => openParentheses? (depth + 1) rest
    | some .closing => if depth = 0 then none else openParentheses? (depth - 1) rest
    | _ => openParentheses? depth rest

/-- The first plain fault of a list of lexemes. -/
def fault? (lexemes : List Lexeme) : Option SyntaxError :=
  match lexemes.head?, lexemes.getLast? with
  | some first, some last =>
    if first.isBinary then some .leadingOperator
    else if last.isBinary ∨ last.word? = some .not then some .trailingOperator
    else
      match adjacencyFault? lexemes with
      | some fault => some fault
      | none => if openParentheses? 0 lexemes = some 0 then none else some .unbalancedParentheses
  | _, _ => some .empty

end Lexeme

namespace Node

open Lexeme (Rest startsWith length_tail_of_startsWith)

/-- The tree at the start of a list of lexemes, read on one level of the grammar. -/
def read (level : GrammarLevel) (lexemes : List Lexeme) :
    Except SyntaxError (Node × Rest lexemes) :=
  match level with
  | .disjunction =>
    match read .conjunction lexemes with
    | .error error => .error error
    | .ok (left, ⟨rest, shorter⟩) =>
      if joined : startsWith .or rest then
        have bound := Nat.lt_trans (length_tail_of_startsWith joined) shorter
        match read .disjunction rest.tail with
        | .error error => .error error
        | .ok (right, ⟨tail, next⟩) =>
          .ok (.disjunction left right, ⟨tail, Nat.lt_trans next bound⟩)
      else .ok (left, ⟨rest, shorter⟩)
  | .conjunction =>
    match read .negation lexemes with
    | .error error => .error error
    | .ok (left, ⟨rest, shorter⟩) =>
      if joined : startsWith .and rest then
        have bound := Nat.lt_trans (length_tail_of_startsWith joined) shorter
        match read .conjunction rest.tail with
        | .error error => .error error
        | .ok (right, ⟨tail, next⟩) =>
          .ok (.conjunction left right, ⟨tail, Nat.lt_trans next bound⟩)
      else .ok (left, ⟨rest, shorter⟩)
  | .negation =>
    if negated : startsWith .not lexemes then
      have bound := length_tail_of_startsWith negated
      match read .negation lexemes.tail with
      | .error error => .error error
      | .ok (operand, ⟨tail, next⟩) => .ok (.negation operand, ⟨tail, Nat.lt_trans next bound⟩)
    else read .operand lexemes
  | .operand =>
    match lexemes with
    | [] => .error (.operandExpected none)
    | first :: rest =>
      if first.isExpression then .ok (.expression first.text, ⟨rest, Nat.lt_add_one _⟩)
      else if first.word? = some .opening then
        match read .disjunction rest with
        | .error error => .error error
        | .ok (inner, ⟨tail, shorter⟩) =>
          if closed : startsWith .closing tail then
            .ok (inner, ⟨tail.tail,
              Nat.lt_succ_of_lt (Nat.lt_trans (length_tail_of_startsWith closed) shorter)⟩)
          else .error .unbalancedParentheses
      else .error (.operandExpected (some first.text))
termination_by (lexemes.length, level.height)
decreasing_by
  · exact Prod.Lex.right _ (Nat.lt_add_one 2)
  · exact Prod.Lex.left _ _ bound
  · exact Prod.Lex.right _ (Nat.lt_add_one 1)
  · exact Prod.Lex.left _ _ bound
  · exact Prod.Lex.left _ _ bound
  · exact Prod.Lex.right _ Nat.zero_lt_one
  · exact Prod.Lex.left _ _ (Nat.lt_add_one _)

/-- The tree of a list of lexemes of which nothing is left over. -/
def readWhole (lexemes : List Lexeme) : Except SyntaxError Node :=
  match read .disjunction lexemes with
  | .error error => .error error
  | .ok (tree, ⟨rest, _⟩) =>
    match rest with
    | [] => .ok tree
    | extra :: _ => .error (.trailingLexeme extra.text)

/-- The tree of a list of lexemes. An expression by itself is taken without the grammar. -/
def parse (lexemes : List Lexeme) : Except SyntaxError Node :=
  match Lexeme.fault? lexemes with
  | some fault => .error fault
  | none =>
    match lexemes with
    | [⟨.expression, text⟩] => .ok (.expression text)
    | _ => readWhole lexemes

end Node

end AccessPolicy
