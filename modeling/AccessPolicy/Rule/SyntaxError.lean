/-!
# Errors in rule text
-/

namespace AccessPolicy

/-- Why a list of lexemes is no rule. -/
inductive SyntaxError where
  /-- There are no lexemes. -/
  | empty
  /-- The first lexeme is `and` or `or`. -/
  | leadingOperator
  /-- The last lexeme is an operator word. -/
  | trailingOperator
  /-- Two words `and` or `or` stand side by side. -/
  | consecutiveOperators
  /-- Two expressions stand side by side. -/
  | consecutiveExpressions
  /-- The parentheses do not match. -/
  | unbalancedParentheses
  /-- A complete rule ends before the lexeme with this text. -/
  | trailingLexeme (text : String)
  /-- An operand is due at the lexeme with this text, or at the end. -/
  | operandExpected (found : Option String)
  deriving DecidableEq, Repr

namespace SyntaxError

/-- The message of an error. -/
def message : SyntaxError → String
  | empty => "PARSE ERROR: tokens must not be empty"
  | leadingOperator => "PARSE ERROR: tokens must not begin with 'and' or 'or'"
  | trailingOperator => "PARSE ERROR: tokens must not end with 'and', 'or' or 'not'"
  | consecutiveOperators =>
    "PARSE ERROR: tokens must not contain two 'and'/'or' operators in a row"
  | consecutiveExpressions => "PARSE ERROR: tokens must not contain two expressions in a row"
  | unbalancedParentheses => "PARSE ERROR: unbalanced parentheses"
  | trailingLexeme text => "PARSE ERROR: unexpected token '" ++ text ++ "' after end of expression"
  | operandExpected found =>
    let shown := match found with
      | some text => "'" ++ text ++ "'"
      | none => "end of input"
    "PARSE ERROR: expected an expression or '(' but found " ++ shown

end SyntaxError

end AccessPolicy
