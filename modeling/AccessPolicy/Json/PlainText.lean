import AccessPolicy.Json.Basic
import AccessPolicy.Number.Notation

/-!
# Plain text of JSON values

Rules compare texts, so every value has a plain text: `true` for the truth value, all digits of an
integral number, the items of a list joined by commas.
-/

namespace AccessPolicy

namespace JsonNumber

/-- The text of a number in comparisons. -/
def plainText : JsonNumber → String
  | .integer value => toString value
  | .double value => value.comparisonText

end JsonNumber

namespace Json

/-- The text of a truth value. -/
def boolText (value : Bool) : String := if value then "true" else "false"

mutual

/-- The text of a value in comparisons. -/
def plainText : Json → String
  | .null => "null"
  | .bool value => boolText value
  | .number value => value.plainText
  | .string text => text
  | .array items => ",".intercalate (itemTexts items)
  | .object _ => "[object Object]"

/-- The texts of the items of a list, that of a null item being empty. -/
def itemTexts : List Json → List String
  | [] => []
  | .null :: rest => "" :: itemTexts rest
  | item :: rest => item.plainText :: itemTexts rest

end

/-- Whether a looked-up value is there and has the expected text. -/
def textEquals (actual : Option Json) (expected : String) : Bool :=
  match actual with
  | none | some .null => false
  | some value => value.plainText == expected

end Json

end AccessPolicy
