import AccessPolicy.Engine.Basic
import AccessPolicy.Json.Path

/-!
# Required parameters

A rule requires the placeholder paths of its own leaves and of every rule that it refers to,
directly or through others, each name being resolved as in a check. Every name is followed once,
so references that run in a circle do no harm.
-/

namespace AccessPolicy

/-- The state of a walk over references. -/
structure Collection where
  /-- The names that were followed. -/
  visited : List String
  /-- The placeholder paths that were met. -/
  found : List String
  deriving DecidableEq, Repr

/-- What a rule requires and what a call gives of it. -/
structure ParameterReport where
  /-- Name of the rule. -/
  rule : String
  /-- The required paths, strictly sorted. -/
  required : List String
  /-- The required paths that have a value other than null. -/
  provided : List String
  /-- The other required paths. -/
  missing : List String
  deriving DecidableEq, Repr

namespace ParameterReport

/-- Whether nothing is missing. -/
def isComplete (report : ParameterReport) : Bool := report.missing.isEmpty

end ParameterReport

namespace Engine

/-- The number of references in all rules, and one more for the name that a walk starts with. No
walk meets more names. -/
def nameBound (engine : Engine) : Nat :=
  1 + (engine.rules.flatMap fun rule => rule.2.references).length

/-- Follows a name and then its references, depth first, each in a level of its own. There is no
result if the levels run out before the walk is over. -/
def collect? (engine : Engine) : Nat → String → Collection → Option Collection
  | 0, _, _ => none
  | levels + 1, name, collection =>
    if name ∈ collection.visited then some collection
    else
      let entered := { collection with visited := collection.visited ++ [name] }
      match engine.resolve? name with
      | none => some entered
      | some (_, rule) =>
        rule.references.foldlM (fun current reference => engine.collect? levels reference current)
          { entered with found := entered.found ++ rule.parameters }

/-- The required paths of a rule, leaving out what is only reached through names in `visited`, and
the names visited afterwards. Every level but the last enters a new name, so a level more than there
are names is enough for every walk. -/
def requiredExcluding (engine : Engine) (name : String) (visited : List String) :
    List String × List String :=
  match engine.collect? (engine.nameBound + 1) name ⟨visited, []⟩ with
  | some collection => (Names.sorted collection.found, collection.visited)
  | none => ([], visited)

/-- The required paths of a rule, strictly sorted. -/
def required (engine : Engine) (name : String) : List String :=
  (engine.requiredExcluding name []).1

/-- The report on a rule for parameters that already stand above the default ones. -/
def reportMerged (engine : Engine) (name : String) (merged : Json) : ParameterReport :=
  let required := engine.required name
  { rule := name
    required := required
    provided := required.filter fun path => !Json.isMissing (merged.lookup? path)
    missing := required.filter fun path => Json.isMissing (merged.lookup? path) }

/-- The report on a rule for the parameters of a call. -/
def report (engine : Engine) (name : String) (parameters : Json) : ParameterReport :=
  engine.reportMerged name (engine.mergedParameters parameters)

/-- The required paths that are missing from the parameters of a call, if there are any. -/
def missing? (engine : Engine) (name : String) (merged : Json) : Option (List String) :=
  let report := engine.reportMerged name merged
  if report.isComplete then none else some report.missing

/-- Fails if required parameters are missing. -/
def validate (engine : Engine) (name : String) (parameters : Json) : Except PolicyError Unit :=
  match engine.missing? name (engine.mergedParameters parameters) with
  | none => .ok ()
  | some missing => .error (.missingParameters name missing)

end Engine

end AccessPolicy
