import AccessPolicy.Identity.Facts
import AccessPolicy.Text.Placeholder

/-!
# Leaves

The text of a leaf says what is tested. It is a literal, a remote address, a quoted text with a
value, or a key and a value separated by the first colon; the key decides the meaning of the
value.
-/

namespace AccessPolicy

/-- What a leaf tests. Values may hold placeholders. -/
inductive Leaf where
  /-- Always the same truth value. -/
  | constant (value : Bool)
  /-- A remote check at an address. -/
  | remote (address : String)
  /-- Whether the value is a given text. -/
  | literal (text value : String)
  /-- Whether the parameter at a path is missing. -/
  | absent (path : String)
  /-- Whether the parameter at a path is there. -/
  | present (path : String)
  /-- Whether the rule with the name that the value spells holds. -/
  | rule (value : String)
  /-- Whether the identity has the role that the value spells. -/
  | role (value : String)
  /-- Whether the administrator flag is as the value says. -/
  | admin (value : String)
  /-- Whether the flag of the administrator project is as the value says. -/
  | adminProject (value : String)
  /-- Whether a fact of the identity is the value. -/
  | fact (fact : Fact) (value : String)
  /-- Whether the identity, or else the parameters, have the value at a path. -/
  | path (path value : String)
  /-- The text has no meaning. -/
  | malformed (text : String)
  deriving DecidableEq, Repr

namespace Leaf

/-- The text before the first occurrence of a character and the text after it. -/
def splitAt? (mark : Char) (text : List Char) : Option (List Char × List Char) :=
  match text.dropWhile (· ≠ mark) with
  | [] => none
  | _ :: rest => some (text.takeWhile (· ≠ mark), rest)

/-- The quoted text at the start and the value after the quote and a colon. -/
def splitQuoted? : List Char → Option (List Char × List Char)
  | [] => none
  | first :: rest =>
    if first = '\'' ∨ first = '"' then
      match splitAt? first rest with
      | some (inner, ':' :: value) => some (inner, value)
      | _ => none
    else none

/-- The facts that a leaf tests by name. -/
def testedFacts : List Fact :=
  [.domainId, .domainName, .projectId, .projectDomainId, .userId, .userDomainId, .systemScope]

/-- The leaf with the given key and value. -/
def ofKey (key value : String) : Leaf :=
  if key = "None" then .absent (Text.stripPlaceholder value)
  else if key = "not null" then .present (Text.stripPlaceholder value)
  else if key = "rule" then .rule value
  else if key = "role" then .role value
  else if key = "is_admin" then .admin value
  else if key = "is_admin_project" then .adminProject value
  else
    match testedFacts.find? fun fact => fact.name == key with
    | some tested => .fact tested value
    | none => .path key value

/-- Whether a text is the address of a remote check. -/
def isAddress (text : String) : Bool := "http://".isPrefixOf text || "https://".isPrefixOf text

/-- What a leaf with the given text tests. -/
def ofText (text : String) : Leaf :=
  if text = "@" ∨ text = "true" then .constant true
  else if text = "!" ∨ text = "false" then .constant false
  else if isAddress text then .remote text
  else
    match splitQuoted? text.toList with
    | some (inner, value) => .literal (String.ofList inner) (String.ofList value)
    | none =>
      match splitAt? ':' text.toList with
      | some (key, value) => ofKey (String.ofList key) (String.ofList value)
      | none => .malformed text

end Leaf

end AccessPolicy
