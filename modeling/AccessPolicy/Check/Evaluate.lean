import AccessPolicy.Check.Leaf
import AccessPolicy.Check.Run
import AccessPolicy.Json.PlainText

/-!
# Evaluation

A tree is decided from left to right, and a right operand only where the left one leaves the
decision open. Leaves are decided by the identity, the parameters, and two supplied checks: one
for rules and one for remote addresses.
-/

namespace AccessPolicy

/-- What leaves may consult. -/
structure Surroundings (Event : Type) where
  /-- How rules are decided by name. -/
  rule? : Option (String → Run Event) := none
  /-- Who asks. -/
  identity? : Option Identity := none
  /-- The parameters of the call. -/
  parameters : Json := .null
  /-- How remote addresses are decided; without it they are allowed. -/
  remote? : Option (String → Run Event) := none

/-- The text of the parameter at a path, if it is there and not null. -/
def Json.parameterText? (parameters : Json) (path : String) : Option String :=
  (parameters.present? path).map Json.plainText

/-- The text with the parameters put in for their placeholders. -/
def Json.fill (parameters : Json) (text : String) : String :=
  Text.substitute parameters.parameterText? text

namespace Leaf

/-- Whether a flag is as a value says: `true` and `false` in any case, and `1` for true where it
is accepted. -/
def flagMatches (flag : Bool) (value : String) (acceptOne : Bool) : Bool :=
  if Text.sameLetters value "true" ∨ (acceptOne ∧ value = "1") then flag
  else if Text.sameLetters value "false" then !flag
  else Json.boolText flag == value

/-- Whether an optional fact is the value; a missing fact is the text `null`. -/
def factMatches (fact : Option String) (value : String) : Bool :=
  match fact with
  | none => value == "null"
  | some actual => actual == value

/-- Whether a looked-up value is the given one; a missing value is the text `null`. -/
def valueMatches (actual : Option Json) (value : String) : Bool :=
  if value = "null" then Json.isMissing actual else Json.textEquals actual value

variable {Event : Type}

/-- The value at a path of the identity, or of the parameters if the identity has none there. -/
def lookup? (surroundings : Surroundings Event) (path : String) : Option Json :=
  match (surroundings.identity?.bind (·.lookup? path)).filter fun found => !found.isNull with
  | some found => some found
  | none => surroundings.parameters.lookup? path

/-- Decides a leaf. -/
def evaluate (surroundings : Surroundings Event) (leaf : Leaf) : Run Event :=
  let fill := surroundings.parameters.fill
  match leaf with
  | .constant value => .settled (.ok value)
  | .remote address =>
    match surroundings.remote? with
    | some check => check (fill address)
    | none => .settled (.ok true)
  | .literal text value => .settled (.ok (text == fill value))
  | .absent place => .settled (.ok (Json.isMissing (surroundings.parameters.lookup? place)))
  | .present place => .settled (.ok (!Json.isMissing (surroundings.parameters.lookup? place)))
  | .rule value =>
    match surroundings.rule? with
    | some check => check (fill value)
    | none => .failed (.evaluation (.noResolver (fill value)))
  | .role value => .settled (.ok (surroundings.identity?.any (·.hasRole (fill value))))
  | .admin value =>
    .settled (.ok (flagMatches (surroundings.identity?.any (·.isAdmin)) (fill value) true))
  | .adminProject value =>
    .settled (.ok (flagMatches (surroundings.identity?.any (·.isAdminProject)) (fill value) false))
  | .fact tested value =>
    .settled (.ok (factMatches (surroundings.identity?.bind (·.fact? tested)) (fill value)))
  | .path place value => .settled (.ok (valueMatches (lookup? surroundings place) (fill value)))
  | .malformed text => .failed (.evaluation (.malformedLeaf text))

/-- Decides the leaf with the given text. -/
def evaluateText (surroundings : Surroundings Event) (text : String) : Run Event :=
  (ofText text).evaluate surroundings

end Leaf

namespace Node

variable {Event : Type}

/-- Decides a tree, given how leaf texts are decided. -/
def evaluate (leaf : String → Run Event) : Node → Run Event
  | .leaf text _ => leaf text
  | .operator joint _ none _ => .failed (.evaluation (.noRightOperand joint))
  | .operator .not _ (some right) _ =>
    (right.evaluate leaf).andThen fun value => .settled (.ok !value)
  | .operator .and none (some _) _ => .failed (.evaluation (.noLeftOperand .and))
  | .operator .or none (some _) _ => .failed (.evaluation (.noLeftOperand .or))
  | .operator .and (some left) (some right) _ =>
    (left.evaluate leaf).andThen fun value =>
      if value then right.evaluate leaf else .settled (.ok false)
  | .operator .or (some left) (some right) _ =>
    (left.evaluate leaf).andThen fun value =>
      if value then .settled (.ok true) else right.evaluate leaf

/-- Decides a tree in the given surroundings. -/
def evaluateIn (surroundings : Surroundings Event) (tree : Node) : Run Event :=
  tree.evaluate (Leaf.evaluateText surroundings)

end Node

end AccessPolicy
