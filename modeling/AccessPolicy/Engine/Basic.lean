import AccessPolicy.Engine.Options
import AccessPolicy.Fingerprint
import AccessPolicy.Rule.Compiled

/-!
# Engines

An engine holds the compiled rules of a configuration. Every rule is compiled when the engine is
built, in the order of the names, and the first rule that fails refuses the whole configuration.
-/

namespace AccessPolicy

/-- The name of the rule that is consulted where a requested rule is not configured. -/
def defaultRule : String := "_default"

namespace Configuration

/-- The configuration of a value: an object whose fields are all texts. -/
def ofJson : Json → Except PolicyError Configuration
  | .object fields => do
    let entries ← fields.mapM fun (name, value) =>
      match value with
      | .string expression => .ok (name, expression)
      | _ => .error (.configuration (.notAnExpression name))
    return ofList entries
  | _ => .error (.configuration .notAnObject)

/-- The compiled form of one rule. -/
def compileRule (rule : String × String) : Except PolicyError (String × CompiledRule) :=
  match CompiledRule.ofText rule.2 with
  | .ok compiled => .ok (rule.1, compiled)
  | .error cause => .error (.compilation rule.1 cause)

/-- The compiled rules, or the error of the first rule that fails. -/
def compile (configuration : Configuration) : Except PolicyError (Entries CompiledRule) :=
  configuration.entries.mapM compileRule

end Configuration

/-- A compiled rule set. -/
structure Engine where
  /-- The rules as they were given. -/
  configuration : Configuration
  /-- The compiled rules, in the order of their names. -/
  rules : Entries CompiledRule
  /-- The compiled rules are those of the given ones. -/
  compiled : configuration.compile = .ok rules
  /-- The options. -/
  options : EngineOptions

namespace Engine

/-- The engine of a configuration. -/
def ofConfiguration (configuration : Configuration) (options : EngineOptions) :
    Except PolicyError Engine :=
  if configuration.entries.isEmpty then .error (.configuration .noRules)
  else if configuration.names.contains "" then .error (.configuration .unnamedRule)
  else
    match options.defaultParameters with
    | .null | .object _ =>
      match compiled : configuration.compile with
      | .ok rules => .ok { configuration, rules, compiled, options }
      | .error error => .error error
    | _ => .error (.configuration .defaultParameters)

/-- The engine of an untyped configuration. -/
def ofJson (value : Json) (options : EngineOptions) : Except PolicyError Engine := do
  let configuration ← Configuration.ofJson value
  ofConfiguration configuration options

/-- The fingerprint of the configuration. -/
def fingerprint (engine : Engine) : String := Fingerprint.ofConfiguration engine.configuration

/-- The names of the configured rules, strictly increasing. -/
def ruleNames (engine : Engine) : List String := engine.configuration.names

/-- The compiled form of a configured rule. -/
def rule? (engine : Engine) (name : String) : Option CompiledRule :=
  Entries.find? name engine.rules

/-- Whether a rule is configured. -/
def hasRule (engine : Engine) (name : String) : Bool := (engine.rule? name).isSome

/-- The rule that is used for a name, with its own name: the rule itself, or else the default
rule. -/
def resolve? (engine : Engine) (name : String) : Option (String × CompiledRule) :=
  match engine.rule? name with
  | some rule => some (name, rule)
  | none => (engine.rule? defaultRule).map fun rule => (defaultRule, rule)

/-- The parameters of a call above the default ones. -/
def mergedParameters (engine : Engine) (parameters : Json) : Json :=
  engine.options.defaultParameters.merge parameters

end Engine

end AccessPolicy
