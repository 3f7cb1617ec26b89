import AccessPolicy.Engine.Basic

/-!
# Descriptions of rules
-/

namespace AccessPolicy

/-- The description of one rule. -/
structure RuleMetadata where
  /-- Name of the rule. -/
  name : String
  /-- The expression as it was given. -/
  expression : String
  /-- The placeholder paths of the rule, strictly sorted. -/
  parameters : List String
  /-- The rules that it refers to, in order of first appearance. -/
  references : List String
  /-- The fingerprint of name and expression. -/
  fingerprint : String
  deriving DecidableEq, Repr

/-- The description of a rule set. -/
structure RulesSummary where
  /-- The number of rules. -/
  count : Nat
  /-- Whether the default rule is configured. -/
  hasDefault : Bool
  /-- The fingerprint of the configuration. -/
  fingerprint : String
  /-- The descriptions of all rules, in the order of their names. -/
  rules : List RuleMetadata
  deriving DecidableEq, Repr

namespace Engine

/-- The description of a configured rule. -/
def metadata? (engine : Engine) (name : String) : Option RuleMetadata := do
  let rule ← engine.rule? name
  let expression ← engine.configuration.find? name
  return {
    name, expression
    parameters := rule.parameters
    references := rule.references
    fingerprint := Fingerprint.ofRule name expression }

/-- The description of all rules. -/
def summary (engine : Engine) : RulesSummary where
  count := engine.rules.length
  hasDefault := engine.hasRule defaultRule
  fingerprint := engine.fingerprint
  rules := engine.ruleNames.filterMap engine.metadata?

end Engine

end AccessPolicy
