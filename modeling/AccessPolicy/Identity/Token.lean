import AccessPolicy.Json.Fields

/-!
# Tokens

A token says who asks: the roles, the user, and the project, domain or system that the request is
scoped to. Fields that the library does not know are kept as they are.
-/

namespace AccessPolicy

/-- A role that the token carries. -/
structure Role where
  /-- Identifier of the role. -/
  id : Option String
  /-- Name of the role. -/
  name : Option String
  deriving DecidableEq, Repr, Inhabited

/-- A domain. -/
structure Domain where
  /-- Identifier of the domain. -/
  id : Option String
  /-- Name of the domain. -/
  name : Option String
  deriving DecidableEq, Repr, Inhabited

/-- The authenticated user. -/
structure User where
  /-- Identifier of the user. -/
  id : Option String
  /-- Name of the user. -/
  name : Option String
  /-- The domain that owns the user. -/
  domain : Option Domain
  deriving DecidableEq, Repr, Inhabited

/-- The project that the token is scoped to. -/
structure Project where
  /-- Identifier of the project. -/
  id : Option String
  /-- Name of the project. -/
  name : Option String
  /-- The domain that owns the project. -/
  domain : Option Domain
  /-- Identifier of the parent project. -/
  parentId : Option String
  deriving DecidableEq, Repr, Inhabited

/-- The system scope of the token. -/
structure SystemScope where
  /-- Whether the whole system is meant. -/
  all : Bool
  deriving DecidableEq, Repr, Inhabited

/-- Who asks, as told by the embedding program. -/
structure Token where
  /-- The roles, in the order given. -/
  roles : List Role := []
  /-- The user. -/
  user : Option User := none
  /-- The project in scope. -/
  project : Option Project := none
  /-- The domain in scope. -/
  domain : Option Domain := none
  /-- The system scope. -/
  system : Option SystemScope := none
  /-- The administrator flag, if it was given. -/
  isAdmin : Option Bool := none
  /-- The flag of the administrator project, if it was given. -/
  isAdminProject : Option Bool := none
  /-- The unknown fields. -/
  extensions : Entries Json := []
  deriving DecidableEq, Repr, Inhabited

namespace Role

/-- A role as a value. -/
def toJson (role : Role) : Json :=
  .object [("id", .ofText? role.id), ("name", .ofText? role.name)]

end Role

namespace Domain

/-- A domain as a value. -/
def toJson (domain : Domain) : Json :=
  .object [("id", .ofText? domain.id), ("name", .ofText? domain.name)]

/-- A domain as a value, null if there is none. -/
def toJson? (domain : Option Domain) : Json := (domain.map toJson).getD .null

end Domain

namespace User

/-- A user as a value. -/
def toJson (user : User) : Json :=
  .object [("domain", Domain.toJson? user.domain), ("id", .ofText? user.id),
    ("name", .ofText? user.name)]

end User

namespace Project

/-- A project as a value. -/
def toJson (project : Project) : Json :=
  .object [("domain", Domain.toJson? project.domain), ("id", .ofText? project.id),
    ("name", .ofText? project.name), ("parent_id", .ofText? project.parentId)]

end Project

namespace SystemScope

/-- A system scope as a value. -/
def toJson (scope : SystemScope) : Json := .object [("all", .bool scope.all)]

end SystemScope

namespace Token

/-- The fields that a token gives a meaning to, in the order of their names. -/
def knownFields : List String :=
  ["domain", "is_admin", "is_admin_project", "project", "roles", "system", "user"]

/-- An optional flag as a value. -/
def flagJson (flag : Option Bool) : Json := (flag.map Json.bool).getD .null

/-- The roles as a value. -/
def rolesJson (roles : List Role) : Json := .array (roles.map Role.toJson)

/-- The user as a value, null if there is none. -/
def userJson (user : Option User) : Json := (user.map User.toJson).getD .null

/-- The project as a value, null if there is none. -/
def projectJson (project : Option Project) : Json := (project.map Project.toJson).getD .null

/-- The known fields as they are written. -/
def knownEntries (token : Token) : Entries Json :=
  [("domain", Domain.toJson? token.domain), ("is_admin", flagJson token.isAdmin),
    ("is_admin_project", flagJson token.isAdminProject), ("project", projectJson token.project),
    ("roles", rolesJson token.roles),
    ("system", (token.system.map SystemScope.toJson).getD .null),
    ("user", userJson token.user)]

/-- The token as a value, with its unknown fields among the known ones. A field that was added to
the unknown ones under the name of a known one is written in its place. -/
def toJson (token : Token) : Json :=
  .object <| Entries.insertAll token.extensions <|
    token.knownEntries.filter fun entry => entry.1 ∉ token.extensions.keys

end Token

end AccessPolicy
