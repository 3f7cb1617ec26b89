import AccessPolicy.Engine.Walk
import AccessPolicy.PolicyFile.Format

/-!
# Log events

Loading, building and checking leave log events with a level, a message and further fields.
-/

namespace AccessPolicy

/-- How important an event is. -/
inductive LogLevel where
  /-- Details of normal work. -/
  | debug
  /-- Normal work. -/
  | info
  /-- A failure. -/
  | warn
  deriving DecidableEq, Repr

/-- The part of the library that an event comes from. -/
inductive LogSource where
  /-- Building engines and checking rules. -/
  | engine
  /-- Reading rule files. -/
  | loader
  /-- The trace of a check. -/
  | trace
  deriving DecidableEq, Repr

/-- An event of the log. -/
inductive LogEvent where
  /-- The expression of a rule is malformed. -/
  | ruleRefused (rule : String) (cause : SyntaxError)
  /-- An engine was built from this number of rules. -/
  | engineBuilt (count : Nat) (fingerprint : String)
  /-- A check fails because parameters are missing. -/
  | parametersMissing (rule : String) (missing : List String)
  /-- The default rule is used for a name. -/
  | fellBack (requested : String)
  /-- A rule refers back to itself. -/
  | cycleMet (chain : List String)
  /-- A check came to a decision. -/
  | decided (rule : String) (allowed : Bool)
  /-- A line of a trace. -/
  | traced (line : String)
  /-- A file with this number of rules was read. -/
  | fileLoaded (path : String) (format : DocumentFormat) (count : Nat)
  deriving DecidableEq, Repr

namespace LogEvent

/-- How important the event is. -/
def level : LogEvent → LogLevel
  | ruleRefused .. | parametersMissing .. | cycleMet .. => .warn
  | engineBuilt .. => .info
  | fellBack .. | decided .. | traced .. | fileLoaded .. => .debug

/-- Where the event comes from. -/
def source : LogEvent → LogSource
  | traced .. => .trace
  | fileLoaded .. => .loader
  | _ => .engine

/-- The message of the event. -/
def message : LogEvent → String
  | ruleRefused .. => "rule compilation failed"
  | engineBuilt .. => "policy engine constructed"
  | parametersMissing .. => "required parameters missing"
  | fellBack .. => "rule not configured, using '_default'"
  | cycleMet .. => "cyclic rule reference"
  | decided .. => "policy check"
  | traced line => line
  | fileLoaded .. => "policy file loaded"

/-- The further fields of the event. -/
def fields : LogEvent → Entries Json
  | ruleRefused rule cause => [("error", .string cause.message), ("rule", .string rule)]
  | engineBuilt count fingerprint =>
    [("fingerprint", .string fingerprint), ("rule_count", .ofInt count)]
  | parametersMissing rule missing =>
    [("missing", .string (Text.quotedList missing)), ("rule", .string rule)]
  | fellBack requested => [("requested", .string requested)]
  | cycleMet chain => [("chain", .string (" -> ".intercalate chain))]
  | decided rule allowed => [("allowed", .bool allowed), ("rule", .string rule)]
  | traced _ => []
  | fileLoaded path format count =>
    [("format", .string format.name), ("path", .string path), ("rules", .ofInt count)]

end LogEvent

/-- The event that is logged when something happens in a run. -/
def Happening.logEvent? : Happening → Option LogEvent
  | .parametersMissing rule missing => some (.parametersMissing rule missing)
  | .fellBack requested _ => some (.fellBack requested)
  | .cycleMet chain => some (.cycleMet chain)
  | _ => none

namespace Engine

/-- The events that are logged when an engine is built or refused. -/
def buildingLog : Except PolicyError Engine → List LogEvent
  | .ok engine => [.engineBuilt engine.rules.length engine.fingerprint]
  | .error (.compilation rule cause) => [.ruleRefused rule cause]
  | .error _ => []

/-- The events that are logged when parameters are validated. -/
def validationLog : Except PolicyError Unit → List LogEvent
  | .error (.missingParameters rule missing) => [.parametersMissing rule missing]
  | _ => []

end Engine

end AccessPolicy
