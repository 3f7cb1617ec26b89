import AccessPolicy.Identity.TokenError
import AccessPolicy.Rule.Node
import AccessPolicy.Rule.SyntaxError

/-!
# Errors

Every failure of the library has one cause. The evaluation errors are those that leave a check
without a decision; they are neither an allowance nor a denial.
-/

namespace AccessPolicy

/-- Why a configuration or the options of an engine are refused. -/
inductive ConfigurationFault where
  /-- There is no rule. -/
  | noRules
  /-- A rule has the empty name. -/
  | unnamedRule
  /-- The default parameters are neither null nor an object. -/
  | defaultParameters
  /-- An untyped configuration is not an object. -/
  | notAnObject
  /-- The rule with this name is not a text. -/
  | notAnExpression (rule : String)
  deriving DecidableEq, Repr

/-- Why an expression has no truth value. -/
inductive EvaluationFault where
  /-- A leaf is no literal and has no colon. -/
  | malformedLeaf (text : String)
  /-- An operator lacks its right operand. -/
  | noRightOperand (operator : Operator)
  /-- An operator lacks its left operand. -/
  | noLeftOperand (operator : Operator)
  /-- A rule is referred to where no rules are known. -/
  | noResolver (rule : String)
  /-- A supplied check failed with this message. -/
  | reported (message : String)
  deriving DecidableEq, Repr

/-- Why a text is no rule document. -/
inductive DocumentFault where
  /-- The text does not follow the format. -/
  | malformed
  /-- The document is not a mapping. -/
  | notAMapping
  /-- The rule with this name has a value that is not a text. -/
  | notAnExpression (rule : String) (found : Json)
  deriving DecidableEq, Repr

/-- Why the library could not answer. -/
inductive PolicyError where
  /-- The configuration or the options are refused. -/
  | configuration (fault : ConfigurationFault)
  /-- The expression of a rule is malformed. -/
  | compilation (rule : String) (cause : SyntaxError)
  /-- Neither the rule nor the default rule is configured. -/
  | unknownRule (name : String)
  /-- An expression has no truth value. -/
  | evaluation (fault : EvaluationFault)
  /-- A rule refers back to itself; the names from the checked rule to the repeated one. -/
  | cyclicRule (chain : List String)
  /-- A rule needs parameters that the call does not give. -/
  | missingParameters (rule : String) (missing : List String)
  /-- The token is refused. -/
  | invalidToken (cause : TokenError)
  /-- There is no such rule file. -/
  | fileNotFound (path : String)
  /-- The content of a rule file is refused. -/
  | unreadableFile (path : String) (fault : DocumentFault)
  /-- The content of a rule file is not text. -/
  | fileNotText
  /-- A rule document is refused. -/
  | document (fault : DocumentFault)
  deriving DecidableEq, Repr

namespace ConfigurationFault

/-- The message of a fault. -/
def message : ConfigurationFault → String
  | noRules => "policy configuration must contain at least one rule"
  | unnamedRule => "rule names must not be empty"
  | defaultParameters => "default parameters must be an object"
  | notAnObject => "policy configuration must be an object"
  | notAnExpression rule => "rule '" ++ rule ++ "' must be a string expression"

end ConfigurationFault

namespace EvaluationFault

/-- The message of a fault. -/
def message : EvaluationFault → String
  | malformedLeaf text => "malformed expression '" ++ text ++ "': expected 'key:value'"
  | noRightOperand operator => "'" ++ operator.word ++ "' operator has no right operand"
  | noLeftOperand operator => "'" ++ operator.word ++ "' operator has no left operand"
  | noResolver rule => "cannot evaluate 'rule:" ++ rule ++ "': no rule resolver available"
  | reported message => message

end EvaluationFault

namespace DocumentFault

/-- The message of a fault. -/
def message : DocumentFault → String
  | malformed => "malformed document"
  | notAMapping => "expected a mapping of rule names to expressions"
  | notAnExpression rule found =>
    "rule '" ++ rule ++ "' must be a string expression, found " ++ found.compact

end DocumentFault

namespace PolicyError

/-- The message of an error. -/
def message : PolicyError → String
  | configuration fault => "Policy configuration error: " ++ fault.message
  | compilation rule cause => "Failed to compile rule '" ++ rule ++ "': " ++ cause.message
  | unknownRule name =>
    "Rule not found: '" ++ name ++ "' (and no '_default' rule is configured)"
  | evaluation fault => "Evaluation error: " ++ fault.message
  | cyclicRule chain => "Evaluation error: cyclic rule reference: " ++ " -> ".intercalate chain
  | missingParameters rule missing =>
    "Missing required parameters for rule '" ++ rule ++ "': " ++ ", ".intercalate missing
  | invalidToken cause => "Invalid token payload: " ++ cause.message
  | fileNotFound path => "Policy file not found: " ++ path
  | unreadableFile path fault =>
    "Failed to parse policy file '" ++ path ++ "': Serialization error: " ++ fault.message
  | fileNotText => "I/O error: the file is not valid text"
  | document fault => "Serialization error: " ++ fault.message

/-- Whether the error leaves a check without a decision. -/
def isEvaluationError : PolicyError → Bool
  | unknownRule _ | evaluation _ | cyclicRule _ | missingParameters _ _ => true
  | _ => false

end PolicyError

end AccessPolicy
