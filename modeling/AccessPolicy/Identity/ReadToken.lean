import AccessPolicy.Identity.Token
import AccessPolicy.Identity.TokenError
import AccessPolicy.Json.PlainText
import AccessPolicy.Text.Case

/-!
# Reading tokens

Tokens are read leniently: identifiers and names may be numbers or truth values, flags may be
texts or numbers, and a structured part may be given as a list of its fields. The fields of an
object are read in the order of their names and those of a list in their own order, so that the
first unreadable one is reported.
-/

namespace AccessPolicy

namespace Token

/-- The text of an identifier or a name. -/
def readText? : Option Json → Except TokenError (Option String)
  | none | some .null => .ok none
  | some (.array items) => .error (.notAScalar (.array items))
  | some (.object fields) => .error (.notAScalar (.object fields))
  | some value => .ok (some value.plainText)

/-- The meaning of a flag that is given as text. -/
def flagOfText (text : String) : Except TokenError Bool :=
  let lowered := Text.lower text
  if lowered = "true" ∨ lowered = "1" then .ok true
  else if lowered = "false" ∨ lowered = "0" ∨ lowered = "" then .ok false
  else .error (.unknownFlag lowered)

/-- A flag; null is no flag. -/
def readFlag? : Option Json → Except TokenError (Option Bool)
  | none | some .null => .ok none
  | some (.bool value) => .ok (some value)
  | some (.array items) => .error (.notAFlag (.array items))
  | some (.object fields) => .error (.notAFlag (.object fields))
  | some value => (flagOfText value.plainText).map some

/-- Refuses a list with more items than a part has fields. -/
def checkLength (items : List Json) (limit : Nat) : Except TokenError Unit :=
  if limit < items.length then .error (.tooManyFields items.length) else .ok ()

/-- A part that may be absent or null. -/
def readOptional {α : Type} (read : Json → Except TokenError α) :
    Option Json → Except TokenError (Option α)
  | none | some .null => .ok none
  | some value => (read value).map some

/-- A role. -/
def readRole : Json → Except TokenError Role
  | .object fields => do
    let id ← readText? (Entries.find? "id" fields)
    let name ← readText? (Entries.find? "name" fields)
    return ⟨id, name⟩
  | .array items => do
    let id ← readText? items[0]?
    let name ← readText? items[1]?
    checkLength items 2
    return ⟨id, name⟩
  | found => .error (.wrongShape found .role)

/-- A domain. -/
def readDomain : Json → Except TokenError Domain
  | .object fields => do
    let id ← readText? (Entries.find? "id" fields)
    let name ← readText? (Entries.find? "name" fields)
    return ⟨id, name⟩
  | .array items => do
    let id ← readText? items[0]?
    let name ← readText? items[1]?
    checkLength items 2
    return ⟨id, name⟩
  | found => .error (.wrongShape found .domain)

/-- A user. -/
def readUser : Json → Except TokenError User
  | .object fields => do
    let domain ← readOptional readDomain (Entries.find? "domain" fields)
    let id ← readText? (Entries.find? "id" fields)
    let name ← readText? (Entries.find? "name" fields)
    return ⟨id, name, domain⟩
  | .array items => do
    let id ← readText? items[0]?
    let name ← readText? items[1]?
    let domain ← readOptional readDomain items[2]?
    checkLength items 3
    return ⟨id, name, domain⟩
  | found => .error (.wrongShape found .user)

/-- A project. -/
def readProject : Json → Except TokenError Project
  | .object fields => do
    let domain ← readOptional readDomain (Entries.find? "domain" fields)
    let id ← readText? (Entries.find? "id" fields)
    let name ← readText? (Entries.find? "name" fields)
    let parentId ← readText? (Entries.find? "parent_id" fields)
    return ⟨id, name, domain, parentId⟩
  | .array items => do
    let id ← readText? items[0]?
    let name ← readText? items[1]?
    let domain ← readOptional readDomain items[2]?
    let parentId ← readText? items[3]?
    checkLength items 4
    return ⟨id, name, domain, parentId⟩
  | found => .error (.wrongShape found .project)

/-- A system scope. -/
def readSystem : Json → Except TokenError SystemScope
  | .object fields => do
    let all ← readFlag? (Entries.find? "all" fields)
    return ⟨all.getD false⟩
  | .array items => do
    let all ← readFlag? items[0]?
    checkLength items 1
    return ⟨all.getD false⟩
  | found => .error (.wrongShape found .system)

/-- The roles; an absent or null list is empty. -/
def readRoles : Option Json → Except TokenError (List Role)
  | none | some .null => .ok []
  | some (.array items) => items.mapM readRole
  | some found => .error (.wrongShape found .roles)

/-- The token of an object with the given fields. -/
def readFields (fields : Entries Json) : Except TokenError Token := do
  let domain ← readOptional readDomain (Entries.find? "domain" fields)
  let isAdmin ← readFlag? (Entries.find? "is_admin" fields)
  let isAdminProject ← readFlag? (Entries.find? "is_admin_project" fields)
  let project ← readOptional readProject (Entries.find? "project" fields)
  let roles ← readRoles (Entries.find? "roles" fields)
  let system ← readOptional readSystem (Entries.find? "system" fields)
  let user ← readOptional readUser (Entries.find? "user" fields)
  return {
    roles, user, project, domain, system, isAdmin, isAdminProject
    extensions := fields.filter fun field => field.1 ∉ knownFields }

/-- The token of a value; null is the empty token. -/
def ofJson : Json → Except TokenError Token
  | .null => .ok {}
  | .object fields => readFields fields
  | found => .error (.notAnObject found)

end Token

end AccessPolicy
