import AccessPolicy.Text.Blank

/-!
# Formats of rule documents

A rule document is written in JSON or in YAML. The format is known from the extension of a file
name, or else guessed from the first character that is not blank.
-/

namespace AccessPolicy

/-- A format of rule documents. -/
inductive DocumentFormat where
  /-- A YAML mapping. -/
  | yaml
  /-- A JSON object. -/
  | json
  deriving DecidableEq, Repr

namespace DocumentFormat

/-- The format that a file name tells by its extension. -/
def ofFileName? (path : String) : Option DocumentFormat :=
  let endsWith (extension : String) : Bool := extension.toList <:+ path.toList
  if endsWith ".yaml" ∨ endsWith ".yml" then some .yaml
  else if endsWith ".json" then some .json
  else none

/-- The format that a text looks like. -/
def ofContent (content : String) : DocumentFormat :=
  match (Text.trimLeft content).toList with
  | '\x7b' :: _ => .json
  | _ => .yaml

/-- The name of a format. -/
def name : DocumentFormat → String
  | .yaml => "Yaml"
  | .json => "Json"

end DocumentFormat

end AccessPolicy
