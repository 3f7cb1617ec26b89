import AccessPolicy.Identity.ReadToken
import AccessPolicy.Json.Path

/-!
# Identities

An identity is what rules can ask about a token: its role names, its flags, and twelve single
facts such as the identifier of the user. The same data can be reached by dotted paths over one
value, the view.
-/

namespace AccessPolicy

/-- The single facts of an identity. -/
inductive Fact where
  /-- Identifier of the user. -/
  | userId
  /-- Name of the user. -/
  | userName
  /-- Identifier of the user's domain. -/
  | userDomainId
  /-- Name of the user's domain. -/
  | userDomainName
  /-- Identifier of the project in scope. -/
  | projectId
  /-- Name of the project in scope. -/
  | projectName
  /-- Identifier of the project's domain. -/
  | projectDomainId
  /-- Name of the project's domain. -/
  | projectDomainName
  /-- Identifier of the project's parent. -/
  | projectParentId
  /-- Identifier of the domain in scope. -/
  | domainId
  /-- Name of the domain in scope. -/
  | domainName
  /-- The text `all` if the whole system is in scope. -/
  | systemScope
  deriving DecidableEq, Repr

namespace Fact

/-- Every fact. -/
def all : List Fact :=
  [.userId, .userName, .userDomainId, .userDomainName, .projectId, .projectName, .projectDomainId,
    .projectDomainName, .projectParentId, .domainId, .domainName, .systemScope]

/-- The name of a fact in rules. -/
def name : Fact → String
  | userId => "user_id"
  | userName => "user_name"
  | userDomainId => "user_domain_id"
  | userDomainName => "user_domain_name"
  | projectId => "project_id"
  | projectName => "project_name"
  | projectDomainId => "project_domain_id"
  | projectDomainName => "project_domain_name"
  | projectParentId => "project_parent_id"
  | domainId => "domain_id"
  | domainName => "domain_name"
  | systemScope => "system_scope"

/-- The fact with the given name. -/
def ofName? (name : String) : Option Fact := all.find? fun fact => fact.name == name

@[simp] theorem ofName?_name (fact : Fact) : ofName? fact.name = some fact := by
  cases fact <;> decide

end Fact

/-- What rules can ask about a token. -/
structure Identity where
  /-- The token that the identity was built from. -/
  token : Token
  deriving DecidableEq, Repr

namespace Identity

/-- The identity of a value that describes a token. -/
def ofJson (value : Json) : Except TokenError Identity := (Token.ofJson value).map Identity.mk

/-- The role names, in the order of the token. -/
def roleNames (identity : Identity) : List String := identity.token.roles.filterMap (·.name)

/-- Whether the token carries a role with exactly this name. -/
def hasRole (identity : Identity) (name : String) : Bool := identity.roleNames.contains name

/-- The administrator flag. If the token does not give it, a role named `admin` in any case
stands for it. -/
def isAdmin (identity : Identity) : Bool :=
  identity.token.isAdmin.getD (identity.roleNames.any (Text.sameLetters · "admin"))

/-- The flag of the administrator project, false if the token does not give it. -/
def isAdminProject (identity : Identity) : Bool := identity.token.isAdminProject.getD false

/-- A single fact. -/
def fact? (identity : Identity) : Fact → Option String
  | .userId => identity.token.user.bind (·.id)
  | .userName => identity.token.user.bind (·.name)
  | .userDomainId => identity.token.user.bind (·.domain) |>.bind (·.id)
  | .userDomainName => identity.token.user.bind (·.domain) |>.bind (·.name)
  | .projectId => identity.token.project.bind (·.id)
  | .projectName => identity.token.project.bind (·.name)
  | .projectDomainId => identity.token.project.bind (·.domain) |>.bind (·.id)
  | .projectDomainName => identity.token.project.bind (·.domain) |>.bind (·.name)
  | .projectParentId => identity.token.project.bind (·.parentId)
  | .domainId => identity.token.domain.bind (·.id)
  | .domainName => identity.token.domain.bind (·.name)
  | .systemScope => if identity.token.system.any (·.all) then some "all" else none

/-- The fact with the given name; other names have no fact. -/
def factNamed? (identity : Identity) (name : String) : Option String :=
  (Fact.ofName? name).bind identity.fact?

/-- The structured parts, the single facts and the flags as fields. -/
def publicFields (identity : Identity) : Entries Json :=
  Entries.ofList <|
    [("roles", Token.rolesJson identity.token.roles), ("user", Token.userJson identity.token.user),
      ("project", Token.projectJson identity.token.project),
      ("domain", Domain.toJson? identity.token.domain), ("is_admin", .bool identity.isAdmin),
      ("is_admin_project", .bool identity.isAdminProject)] ++
    Fact.all.map fun fact => (fact.name, .ofText? (identity.fact? fact))

/-- The identity as a value, with the unknown fields of the token under `extensions`. -/
def toJson (identity : Identity) : Json :=
  .object (Entries.insert "extensions" (.object identity.token.extensions) identity.publicFields)

/-- The value that dotted paths are looked up in, with the whole token under `token`. -/
def view (identity : Identity) : Json :=
  .object (Entries.insert "token" identity.token.toJson identity.publicFields)

/-- The value that a dotted path names in the view. -/
def lookup? (identity : Identity) (path : String) : Option Json := identity.view.lookup? path

end Identity

end AccessPolicy
