import AccessPolicy.Configuration
import AccessPolicy.Engine.Log
import AccessPolicy.Json.Reader
import AccessPolicy.Yaml.Document

/-!
# Rule documents and files

A rule document is a mapping of rule names to expressions. An empty document has no rules. A file
is read in the format of its extension, or else in the one that its content looks like.
-/

namespace AccessPolicy

/-- What stands at the path of a file. -/
inductive FileContent where
  /-- Nothing, or something that is no file. -/
  | absent
  /-- A file with these bytes. -/
  | bytes (content : ByteArray)

namespace Configuration

/-- The configuration of a document's value. -/
def ofDocument : Json → Except DocumentFault Configuration
  | .null => .ok empty
  | .object fields => do
    let entries ← fields.mapM fun (name, value) =>
      match value with
      | .string expression => .ok (name, expression)
      | found => .error (.notAnExpression name found)
    return ofList entries
  | _ => .error .notAMapping

/-- The value of a document in a format; a blank YAML document is an empty mapping. -/
def documentValue? (format : DocumentFormat) (content : String) : Option Json :=
  match format with
  | .json => Json.parse? content
  | .yaml => if Text.allBlank content then some (.object []) else Yaml.parse? content

/-- The configuration that a text holds in a format. -/
def parse (format : DocumentFormat) (content : String) : Except DocumentFault Configuration :=
  match documentValue? format content with
  | some value => ofDocument value
  | none => .error .malformed

/-- The format that a file is read in. -/
def fileFormat (path content : String) : DocumentFormat :=
  (DocumentFormat.ofFileName? path).getD (DocumentFormat.ofContent content)

/-- The configuration of the file at a path, and the events that are logged while it is read. -/
def load (path : String) : FileContent → Except PolicyError Configuration × List LogEvent
  | .absent => (.error (.fileNotFound path), [])
  | .bytes bytes =>
    match String.fromUTF8? bytes with
    | none => (.error .fileNotText, [])
    | some content =>
      let format := fileFormat path content
      match parse format content with
      | .error fault => (.error (.unreadableFile path fault), [])
      | .ok configuration =>
        (.ok configuration, [.fileLoaded path format configuration.size])

end Configuration

end AccessPolicy
