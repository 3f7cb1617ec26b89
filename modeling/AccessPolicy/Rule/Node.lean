import AccessPolicy.Text.Placeholder

/-!
# Syntax trees of rules

A tree has atomic expressions as its leaves and `and`, `or` and `not` above them. Every node lists
the placeholder paths below it in order of first appearance. An operator node may lack operands;
such trees are only built by hand and cannot be decided.
-/

namespace AccessPolicy

/-- The operators of the rule language. -/
inductive Operator where
  /-- Both operands must hold. -/
  | and
  /-- One operand must hold. -/
  | or
  /-- The operand must not hold. -/
  | not
  deriving DecidableEq, Repr

namespace Operator

/-- The word of an operator. -/
def word : Operator → String
  | .and => "and"
  | .or => "or"
  | .not => "not"

end Operator

/-- A node of a syntax tree. -/
inductive Node where
  /-- An atomic expression. -/
  | leaf (text : String) (parameters : List String)
  /-- An operator with its operands; `not` has only the right one. -/
  | operator (joint : Operator) (left right : Option Node) (parameters : List String)
  deriving Repr

namespace Node

/-- Induction over trees: an operator node may use what is known of the operands that it has. -/
@[elab_as_elim, induction_eliminator]
theorem induction {motive : Node → Prop} (leaf : ∀ text parameters, motive (.leaf text parameters))
    (operator : ∀ joint left right parameters, (∀ node ∈ left, motive node) →
      (∀ node ∈ right, motive node) → motive (.operator joint left right parameters)) :
    ∀ tree, motive tree
  | .leaf text parameters => leaf text parameters
  | .operator joint left right parameters =>
    operator joint left right parameters
      (fun node member => match left, member with | some _, rfl => induction leaf operator node)
      (fun node member => match right, member with | some _, rfl => induction leaf operator node)

/-- The placeholder paths that a node lists. -/
def parameters : Node → List String
  | .leaf _ parameters => parameters
  | .operator _ _ _ parameters => parameters

/-- A leaf that lists the placeholders of its text. -/
def expression (text : String) : Node := .leaf text (Text.placeholders text)

/-- A node that joins two operands and lists the placeholders of both. -/
def binary (joint : Operator) (left right : Node) : Node :=
  .operator joint (some left) (some right) (Names.extend left.parameters right.parameters)

/-- The node that holds if both operands hold. -/
def conjunction (left right : Node) : Node := binary .and left right

/-- The node that holds if one operand holds. -/
def disjunction (left right : Node) : Node := binary .or left right

/-- The node that holds if the operand does not. -/
def negation (operand : Node) : Node := .operator .not none (some operand) operand.parameters

/-- The texts of the leaves, from left to right. -/
def leaves : Node → List String
  | .leaf text _ => [text]
  | .operator _ none none _ => []
  | .operator _ (some left) none _ => left.leaves
  | .operator _ none (some right) _ => right.leaves
  | .operator _ (some left) (some right) _ => left.leaves ++ right.leaves

/-- The tree with every operator in parentheses. -/
def infixText : Node → String
  | .leaf text _ => text
  | .operator .not _ (some right) _ => "(not " ++ right.infixText ++ ")"
  | .operator joint (some left) (some right) _ =>
    "(" ++ left.infixText ++ " " ++ joint.word ++ " " ++ right.infixText ++ ")"
  | .operator joint _ _ _ => "(" ++ joint.word ++ " <missing>)"

/-- Whether every `and` and `or` has both operands and every `not` just its right one. -/
def Complete : Node → Prop
  | .leaf _ _ => True
  | .operator .not none (some right) _ => right.Complete
  | .operator .and (some left) (some right) _ => left.Complete ∧ right.Complete
  | .operator .or (some left) (some right) _ => left.Complete ∧ right.Complete
  | _ => False

end Node

end AccessPolicy
