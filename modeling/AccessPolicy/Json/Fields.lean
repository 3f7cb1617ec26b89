import AccessPolicy.Entries
import AccessPolicy.Json.Basic

/-!
# Objects

The fields of an object are sorted entries. Merging two objects inserts all fields of the second
into the first; a value that is no object counts as an object without fields.
-/

namespace AccessPolicy

namespace Json

/-- An object with the given fields, in any order and the last of several for one key. -/
def ofFields (fields : Entries Json) : Json := .object (Entries.ofList fields)

/-- The fields of an object; every other value has none. -/
def fields : Json → Entries Json
  | .object fields => fields
  | _ => []

/-- The object with the fields of both values, the second one winning. -/
def merge (defaults overrides : Json) : Json :=
  .object (Entries.insertAll (Entries.ofList defaults.fields) overrides.fields)

mutual

/-- Whether the fields of every object in the value are strictly sorted. -/
def WellFormed : Json → Prop
  | .null | .bool _ | .number _ | .string _ => True
  | .array items => WellFormedItems items
  | .object fields => Entries.Sorted fields ∧ WellFormedFields fields

/-- Whether every item is well formed. -/
def WellFormedItems : List Json → Prop
  | [] => True
  | item :: rest => item.WellFormed ∧ WellFormedItems rest

/-- Whether the value of every field is well formed. -/
def WellFormedFields : List (String × Json) → Prop
  | [] => True
  | (_, value) :: rest => value.WellFormed ∧ WellFormedFields rest

end

end Json

end AccessPolicy
