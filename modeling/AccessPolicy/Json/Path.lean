import AccessPolicy.Json.Fields

/-!
# Dotted paths

A path such as `target.user.domain_id` names a position in a value: the segments between its dots
are keys of objects or indices of arrays. The empty path names nothing.
-/

namespace AccessPolicy

namespace Json

/-- The parts of a text between its dots; there is one part more than there are dots. -/
def dotSegments : List Char → List (List Char)
  | [] => [[]]
  | character :: rest =>
    if character = '.' then [] :: dotSegments rest
    else (dotSegments rest).modifyHead (character :: ·)

/-- The greatest array index that a path can spell. -/
def greatestIndex : Nat := Nat.pow 2 64 - 1

/-- The index spelt by a path segment: ASCII digits after an optional plus sign. -/
def index? (segment : List Char) : Option Nat :=
  let digits := match segment with
    | '+' :: rest => rest
    | _ => segment
  if digits ≠ [] ∧ digits.all Char.isDigit then
    let index := digits.foldl (fun value digit => 10 * value + (digit.toNat - '0'.toNat)) 0
    if index ≤ greatestIndex then some index else none
  else none

/-- The value that one segment names inside a value. -/
def step? (value : Json) (segment : List Char) : Option Json :=
  match value with
  | .object fields => Entries.find? (String.ofList segment) fields
  | .array items => (index? segment).bind fun index => items[index]?
  | _ => none

/-- The value reached by following the segments one after the other. -/
def follow? : Json → List (List Char) → Option Json
  | value, [] => some value
  | value, segment :: rest => (value.step? segment).bind fun next => next.follow? rest

/-- The value that a path names. -/
def lookup? (value : Json) (path : String) : Option Json :=
  if path.isEmpty then none else value.follow? (dotSegments path.toList)

/-- Whether a looked-up value is absent or null. -/
def isMissing : Option Json → Bool
  | none | some .null => true
  | some _ => false

/-- The value that a path names, if there is one other than null. -/
def present? (value : Json) (path : String) : Option Json :=
  (value.lookup? path).filter fun found => !found.isNull

end Json

end AccessPolicy
