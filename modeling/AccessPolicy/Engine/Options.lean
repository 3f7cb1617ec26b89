import AccessPolicy.Check.Run
import AccessPolicy.Identity.Facts

/-!
# Options

An engine has parameters that stand below those of every call, may insist on all parameters that a
rule needs, may trace every check, and may decide remote addresses. A session may override the
tracing.
-/

namespace AccessPolicy

/-- Decides a remote address for an identity and the parameters of a call. A remote check is a
function of these three: asked again for the same ones, it decides the same, and it does nothing that
a check could notice otherwise. -/
abbrev RemoteCheck := String → Identity → Json → Decision

/-- The options of an engine. -/
structure EngineOptions where
  /-- The parameters below those of every call. -/
  defaultParameters : Json := .null
  /-- Whether a check fails if a parameter is missing that its rule needs. -/
  strict : Bool := false
  /-- Whether every check is traced. -/
  debug : Bool := false
  /-- How remote addresses are decided; without it they are allowed. -/
  remoteCheck? : Option RemoteCheck := none

/-- The options of a session. -/
structure SessionOptions where
  /-- Whether checks are traced, if the session overrides its engine. -/
  debug : Option Bool := none
  deriving DecidableEq, Repr

/-- A truth value that stands for `default` where it is absent. -/
def Json.readBool? (default : Bool) : Option Json → Option Bool
  | none => some default
  | some (.bool value) => some value
  | some _ => none

namespace EngineOptions

/-- The options read from their three parts. -/
def ofParts? (parameters strict debug : Option Json) : Option EngineOptions := do
  let strict ← Json.readBool? false strict
  let debug ← Json.readBool? false debug
  return { defaultParameters := parameters.getD .null, strict, debug }

/-- The options of an object, or of a list of the three parts in order. -/
def ofJson? : Json → Option EngineOptions
  | .object fields =>
    ofParts? (Entries.find? "default_parameters" fields)
      (Entries.find? "strict_parameter_validation" fields) (Entries.find? "debug" fields)
  | .array items => if 3 < items.length then none else ofParts? items[0]? items[1]? items[2]?
  | _ => none

/-- The options as a value, the remote check apart. -/
def toJson (options : EngineOptions) : Json :=
  .object [("debug", .bool options.debug), ("default_parameters", options.defaultParameters),
    ("strict_parameter_validation", .bool options.strict)]

end EngineOptions

namespace SessionOptions

/-- The options with the given override. -/
def ofDebug? : Option Json → Option SessionOptions
  | none | some .null => some {}
  | some (.bool value) => some ⟨some value⟩
  | some _ => none

/-- The options of an object, or of a list with the override. -/
def ofJson? : Json → Option SessionOptions
  | .object fields => ofDebug? (Entries.find? "debug" fields)
  | .array items => if 1 < items.length then none else ofDebug? items[0]?
  | _ => none

end SessionOptions

end AccessPolicy
