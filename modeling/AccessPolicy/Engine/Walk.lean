import AccessPolicy.Check.Evaluate
import AccessPolicy.Engine.Parameters

/-!
# Deciding rules by name

To decide a name, the rule that it resolves to is evaluated, and the references in that rule are
decided in the same way. The names on the way from the checked rule to the current one are active;
a reference to an active name is a cycle and ends the run.
-/

namespace AccessPolicy

/-- What happens while a rule is decided. The depth of a name is the number of names that are
active above it. -/
inductive Happening where
  /-- A required parameter is missing and nothing is decided. -/
  | parametersMissing (rule : String) (missing : List String)
  /-- A name is about to be decided. -/
  | entered (rule : String) (depth : Nat)
  /-- The default rule is used for a name that is not configured. -/
  | fellBack (requested : String) (depth : Nat)
  /-- A leaf of the rule used for `parent` refers to a name. -/
  | nested (parent rule : String) (depth : Nat)
  /-- A name was decided, or failed. -/
  | exited (rule : String) (depth : Nat) (decision : Decision)
  /-- A name is active already; the active names and that name. -/
  | cycleMet (chain : List String)
  /-- A remote address is decided. -/
  | remoteAsked (address : String)
  deriving DecidableEq

/-- Who asks which engine with which parameters. The parameters stand above the default ones. -/
structure Inquiry where
  /-- The rules. -/
  engine : Engine
  /-- Who asks. -/
  identity : Identity
  /-- The parameters. -/
  parameters : Json

namespace Leaf

/-- Whether a leaf refers to a rule. -/
def isReference : Leaf → Bool
  | .rule _ => true
  | _ => false

end Leaf

namespace Engine

/-- The number of leaves that refer to a rule, and one more for the name that is checked. No more
names can be active together. -/
def activeBound (engine : Engine) : Nat :=
  1 + (engine.rules.flatMap fun rule => rule.2.tree.leaves).countP fun text =>
    (Leaf.ofText text).isReference

end Engine

namespace Inquiry

/-- What the leaves of a rule may consult, given how names are decided. -/
def surroundings (inquiry : Inquiry) (decide : String → Run Happening) :
    Surroundings Happening where
  rule? := some decide
  identity? := some inquiry.identity
  parameters := inquiry.parameters
  remote? := inquiry.engine.options.remoteCheck?.map fun check address =>
    ⟨[.remoteAsked address], check address inquiry.identity inquiry.parameters⟩

/-- The run that ends at a name which is active already. -/
def cycle (active : List String) (name : String) : Run Happening :=
  ⟨[.cycleMet (active ++ [name])], .error (.cyclicRule (active ++ [name]))⟩

/-- Evaluates the rule that a name resolves to, given how names are decided below it. -/
def evaluateResolved (inquiry : Inquiry) (depth : Nat) (name : String)
    (decide : String → Run Happening) : Run Happening :=
  match inquiry.engine.resolve? name with
  | none => .failed (.unknownRule name)
  | some (resolved, rule) =>
    let fallback := if resolved = name then [] else [.fellBack name depth]
    .enclosed fallback (rule.tree.evaluateIn (inquiry.surroundings decide)) fun _ => []

/-- Decides a name below the active ones. Every level enters a name that is not active, and a run
starts with as many levels as there are names to enter. So a name that is called without a level left
is active, and is met as a cycle like any other active name. -/
def decide (inquiry : Inquiry) : Nat → List String → String → Run Happening
  | 0, active, name => cycle active name
  | levels + 1, active, name =>
    if name ∈ active then cycle active name
    else
      let depth := active.length
      let nested (reference : String) : Run Happening :=
        .enclosed [.nested name reference (depth + 1)]
          (inquiry.decide levels (active ++ [name]) reference) fun _ => []
      .enclosed [.entered name depth] (inquiry.evaluateResolved depth name nested)
        fun decision => [.exited name depth decision]

/-- Decides a rule by name. -/
def run (inquiry : Inquiry) (name : String) : Run Happening :=
  inquiry.decide inquiry.engine.activeBound [] name

end Inquiry

end AccessPolicy
