import AccessPolicy.Json.Printer
import AccessPolicy.Text.Quoted

/-!
# Errors in tokens
-/

namespace AccessPolicy

/-- The structured parts of a token. -/
inductive TokenPart where
  /-- The list of roles. -/
  | roles
  /-- One role. -/
  | role
  /-- A domain. -/
  | domain
  /-- The user. -/
  | user
  /-- The project. -/
  | project
  /-- The system scope. -/
  | system
  deriving DecidableEq, Repr

namespace TokenPart

/-- What a part has to be, as it is named in messages. -/
def description : TokenPart → String
  | roles => "a sequence"
  | role => "struct RoleRef"
  | domain => "struct DomainRef"
  | user => "struct UserRef"
  | project => "struct ProjectRef"
  | system => "struct SystemScope"

end TokenPart

/-- Why a value is no token. -/
inductive TokenError where
  /-- The value is not an object. -/
  | notAnObject (found : Json)
  /-- An identifier or a name is a list or an object. -/
  | notAScalar (found : Json)
  /-- A flag is a list or an object. -/
  | notAFlag (found : Json)
  /-- A flag has this lower-case text, which means neither true nor false. -/
  | unknownFlag (text : String)
  /-- A part has the wrong shape. -/
  | wrongShape (found : Json) (wanted : TokenPart)
  /-- A part is given as a list of this many fields, more than it has. -/
  | tooManyFields (count : Nat)
  deriving DecidableEq, Repr

namespace TokenError

/-- A value as it is shown where another shape was wanted. -/
def showFound : Json → String
  | .null => "null"
  | .bool value => "boolean `" ++ (if value then "true" else "false") ++ "`"
  | .number (.integer value) => "integer `" ++ toString value ++ "`"
  | .number (.double value) => "floating point `" ++ value.documentText ++ "`"
  | .string text => "string " ++ Text.quoted text
  | .array _ => "sequence"
  | .object _ => "map"

/-- The message of an error. -/
def message : TokenError → String
  | notAnObject found => "expected an object, found " ++ found.kindName
  | notAScalar found => "expected a scalar, found " ++ found.kindName
  | notAFlag found => "expected a flag, found " ++ found.kindName
  | unknownFlag text => "invalid flag value '" ++ text ++ "'"
  | wrongShape found wanted =>
    "invalid type: " ++ showFound found ++ ", expected " ++ wanted.description
  | tooManyFields count =>
    "invalid length " ++ toString count ++ ", expected fewer elements in array"

end TokenError

end AccessPolicy
