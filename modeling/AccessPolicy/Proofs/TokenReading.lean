import AccessPolicy.Proofs.FactForms
import AccessPolicy.Proofs.Traversals

/-!
# Reading written tokens

A token is read field by field, and the fields without a meaning are kept as they are. Reading is
lenient, but writing has one form for every part of a token, which is read as that part. So a token
that was read is written as a value that is read as the same token, and both lead to one identity.
-/

namespace AccessPolicy

namespace Token

/-! ## What reading takes from which field -/

section Reading

variable {Part : Type} {found : Option Json} {fields : Entries Json} {token : Token} {value : Json}

theorem bind_eq_ok_iff {First Second : Type} {first : Except TokenError First}
    {next : First → Except TokenError Second} {result : Second} :
    first >>= next = .ok result ↔ ∃ part, first = .ok part ∧ next part = .ok result := by
  cases first <;> simp [bind, Except.bind]

/-- What the fields of a token have to be read as. -/
structure Reads (fields : Entries Json) (token : Token) : Prop where
  /-- The domain in scope. -/
  domain : readOptional readDomain (Entries.find? "domain" fields) = .ok token.domain
  /-- The administrator flag. -/
  isAdmin : readFlag? (Entries.find? "is_admin" fields) = .ok token.isAdmin
  /-- The flag of the administrator project. -/
  isAdminProject : readFlag? (Entries.find? "is_admin_project" fields) = .ok token.isAdminProject
  /-- The project in scope. -/
  project : readOptional readProject (Entries.find? "project" fields) = .ok token.project
  /-- The roles. -/
  roles : readRoles (Entries.find? "roles" fields) = .ok token.roles
  /-- The system scope. -/
  system : readOptional readSystem (Entries.find? "system" fields) = .ok token.system
  /-- The user. -/
  user : readOptional readUser (Entries.find? "user" fields) = .ok token.user
  /-- The unknown fields. -/
  extensions : token.extensions = unknownFields fields

/-- Fields are accepted exactly as the token whose parts are read from them. -/
theorem readFields_eq_ok_iff : readFields fields = .ok token ↔ Reads fields token := by
  simp only [readFields, bind_eq_ok_iff]
  constructor
  · rintro ⟨domain, read_domain, isAdmin, read_isAdmin, isAdminProject, read_isAdminProject,
      project, read_project, roles, read_roles, system, read_system, user, read_user, ⟨⟩⟩
    exact ⟨read_domain, read_isAdmin, read_isAdminProject, read_project, read_roles, read_system,
      read_user, rfl⟩
  · intro reads
    obtain ⟨roles, user, project, domain, system, isAdmin, isAdminProject, extensions⟩ := token
    obtain rfl : extensions = unknownFields fields := reads.extensions
    exact ⟨_, reads.domain, _, reads.isAdmin, _, reads.isAdminProject, _, reads.project, _,
      reads.roles, _, reads.system, _, reads.user, rfl⟩

/-- An accepted value is read from its fields; null has none. -/
theorem reads_of_ofJson (accepted : ofJson value = .ok token) : Reads value.fields token := by
  cases value with
  | null =>
    cases accepted
    exact readFields_eq_ok_iff.1 rfl
  | object fields => exact readFields_eq_ok_iff.1 accepted
  | _ => cases accepted

theorem readOptional_of_isMissing {read : Json → Except TokenError Part}
    (missing : Json.isMissing found = true) : readOptional read found = .ok none := by
  cases found with
  | none => rfl
  | some value =>
    cases value with
    | null => rfl
    | _ => cases missing

theorem readFlag?_of_isMissing (missing : Json.isMissing found = true) :
    readFlag? found = .ok none := by
  cases found with
  | none => rfl
  | some value =>
    cases value with
    | null => rfl
    | _ => cases missing

theorem readRoles_of_isMissing (missing : Json.isMissing found = true) :
    readRoles found = .ok [] := by
  cases found with
  | none => rfl
  | some value =>
    cases value with
    | null => rfl
    | _ => cases missing

end Reading

/-! ## Reading what was written -/

section Writing

variable {Part : Type} {read : Json → Except TokenError Part} {render : Part → Json}

theorem readText?_ofText? (text? : Option String) :
    readText? (some (.ofText? text?)) = .ok text? := by
  cases text? <;> rfl

theorem readFlag?_flagJson (flag : Option Bool) : readFlag? (some (flagJson flag)) = .ok flag := by
  cases flag <;> rfl

/-- An optional part is read as it was written if the part is. -/
theorem readOptional_map_getD (reads : ∀ part, read (render part) = .ok part)
    (present : ∀ part, render part ≠ .null) (part? : Option Part) :
    readOptional read (some ((part?.map render).getD .null)) = .ok part? := by
  cases part? with
  | none => rfl
  | some part =>
    have present_value : ∀ value, value ≠ .null →
        readOptional read (some value) = (read value).map some := by
      intro value present
      cases value with
      | null => exact absurd rfl present
      | _ => rfl
    rw [Option.map_some, Option.getD_some, present_value _ (present part), reads]
    rfl

theorem readRole_toJson (role : Role) : readRole role.toJson = .ok role := by
  simp only [Role.toJson, readRole, bind_eq_ok_iff]
  exact ⟨_, readText?_ofText? role.id, _, readText?_ofText? role.name, rfl⟩

theorem readDomain_toJson (domain : Domain) : readDomain domain.toJson = .ok domain := by
  simp only [Domain.toJson, readDomain, bind_eq_ok_iff]
  exact ⟨_, readText?_ofText? domain.id, _, readText?_ofText? domain.name, rfl⟩

theorem readOptional_domain (domain? : Option Domain) :
    readOptional readDomain (some (Domain.toJson? domain?)) = .ok domain? :=
  readOptional_map_getD readDomain_toJson (fun _ => nofun) domain?

theorem readUser_toJson (user : User) : readUser user.toJson = .ok user := by
  simp only [User.toJson, readUser, bind_eq_ok_iff]
  exact ⟨_, readOptional_domain user.domain, _, readText?_ofText? user.id, _,
    readText?_ofText? user.name, rfl⟩

theorem readProject_toJson (project : Project) : readProject project.toJson = .ok project := by
  simp only [Project.toJson, readProject, bind_eq_ok_iff]
  exact ⟨_, readOptional_domain project.domain, _, readText?_ofText? project.id, _,
    readText?_ofText? project.name, _, readText?_ofText? project.parentId, rfl⟩

theorem readSystem_toJson (scope : SystemScope) : readSystem scope.toJson = .ok scope := rfl

theorem readRoles_rolesJson (roles : List Role) : readRoles (some (rolesJson roles)) = .ok roles := by
  show (roles.map Role.toJson).mapM readRole = .ok roles
  rw [Traversal.mapM_eq_ok_iff, List.forall₂_map_left_iff, List.forall₂_same]
  exact fun role _ => readRole_toJson role

theorem keys_knownEntries (token : Token) : token.knownEntries.keys = knownFields := rfl

theorem mem_knownFields_of_mem_knownEntries {token : Token} {field : String × Json}
    (member : field ∈ token.knownEntries) : field.1 ∈ knownFields := by
  rw [← token.keys_knownEntries]
  exact List.mem_map_of_mem member

theorem find?_knownEntries {token : Token} {name : String} (unknown : name ∉ knownFields) :
    Entries.find? name token.knownEntries = none := by
  rw [Entries.find?_eq_none_iff, keys_knownEntries]
  exact unknown

/-- The unknown fields of a written token are those that it keeps. -/
theorem unknownFields_fields_toJson {token : Token} (apart : token.NamesApart) :
    unknownFields token.toJson.fields = token.extensions := by
  have dropped : ∀ field ∈ token.knownEntries.filter fun entry => entry.1 ∉ token.extensions.keys,
      decide (field.1 ∉ knownFields) = false := by
    intro field member
    simpa using mem_knownFields_of_mem_knownEntries (List.mem_filter.1 member).1
  refine (Entries.filter_insertAll (fun name => decide (name ∉ knownFields)) token.extensions
    dropped).trans (List.filter_eq_self.2 ?_)
  intro field member
  simpa using apart field member

/-- A written token is read as itself. -/
theorem reads_toJson {token : Token} (apart : token.NamesApart) :
    Reads token.toJson.fields token where
  domain := by
    rw [find?_fields_toJson_of_known apart (by decide)]
    exact readOptional_domain token.domain
  isAdmin := by
    rw [find?_fields_toJson_of_known apart (by decide)]
    exact readFlag?_flagJson token.isAdmin
  isAdminProject := by
    rw [find?_fields_toJson_of_known apart (by decide)]
    exact readFlag?_flagJson token.isAdminProject
  project := by
    rw [find?_fields_toJson_of_known apart (by decide)]
    exact readOptional_map_getD readProject_toJson (fun _ => nofun) token.project
  roles := by
    rw [find?_fields_toJson_of_known apart (by decide)]
    exact readRoles_rolesJson token.roles
  system := by
    rw [find?_fields_toJson_of_known apart (by decide)]
    exact readOptional_map_getD readSystem_toJson (fun _ => nofun) token.system
  user := by
    rw [find?_fields_toJson_of_known apart (by decide)]
    exact readOptional_map_getD readUser_toJson (fun _ => nofun) token.user
  extensions := (unknownFields_fields_toJson apart).symm

end Writing

/-! ## Accepted tokens -/

section Accepted

variable {value : Json} {token : Token} {name : String}

/-- Unknown fields are kept as they are given. -/
theorem find?_extensions_of_ofJson (accepted : ofJson value = .ok token)
    (unknown : name ∉ knownFields) :
    Entries.find? name token.extensions = Entries.find? name value.fields := by
  rw [extensions_of_ofJson accepted]
  refine (Entries.find?_filter (fun name => decide (name ∉ knownFields)) name value.fields).trans ?_
  exact if_pos (decide_eq_true unknown)

/-- What a known field is written as if it is absent or null. -/
def absentForm (name : String) : Json := if name = "roles" then rolesJson [] else .null

/-- An unknown field is written as it was given. -/
theorem find?_fields_toJson_of_unknown (accepted : ofJson value = .ok token)
    (unknown : name ∉ knownFields) :
    Entries.find? name token.toJson.fields = Entries.find? name value.fields := by
  rw [find?_fields_toJson, find?_knownEntries unknown, Option.or_none,
    find?_extensions_of_ofJson accepted unknown]

theorem find?_toJson_of_isMissing (accepted : ofJson value = .ok token)
    (known : name ∈ knownFields)
    (missing : Json.isMissing (Entries.find? name value.fields) = true) :
    Entries.find? name token.toJson.fields = some (absentForm name) := by
  have reads := reads_of_ofJson accepted
  have written := find?_fields_toJson_of_known (namesApart_of_ofJson accepted) known
  simp only [knownFields, List.mem_cons, List.not_mem_nil, or_false] at known
  rcases known with rfl | rfl | rfl | rfl | rfl | rfl | rfl
  · have none := Except.ok.inj (reads.domain.symm.trans (readOptional_of_isMissing missing))
    exact written.trans (congrArg (fun domain => some (Domain.toJson? domain)) none)
  · have none := Except.ok.inj (reads.isAdmin.symm.trans (readFlag?_of_isMissing missing))
    exact written.trans (congrArg (fun flag => some (flagJson flag)) none)
  · have none := Except.ok.inj (reads.isAdminProject.symm.trans (readFlag?_of_isMissing missing))
    exact written.trans (congrArg (fun flag => some (flagJson flag)) none)
  · have none := Except.ok.inj (reads.project.symm.trans (readOptional_of_isMissing missing))
    exact written.trans (congrArg (fun project => some (projectJson project)) none)
  · have empty := Except.ok.inj (reads.roles.symm.trans (readRoles_of_isMissing missing))
    exact written.trans (congrArg (fun roles => some (rolesJson roles)) empty)
  · have none := Except.ok.inj (reads.system.symm.trans (readOptional_of_isMissing missing))
    exact written.trans
      (congrArg (fun scope => some ((Option.map SystemScope.toJson scope).getD .null)) none)
  · have none := Except.ok.inj (reads.user.symm.trans (readOptional_of_isMissing missing))
    exact written.trans (congrArg (fun user => some (userJson user)) none)

/-- An accepted token is written with its unknown fields as they were given and with every known
field, null where it was absent; absent roles are an empty list. What is written is accepted again
as the same token, so both values lead to one identity: to the same facts, roles, flags and unknown
fields, and to the same value at every path. -/
theorem ofJson_toJson_of_accepted (accepted : ofJson value = .ok token) :
    (∀ other, other ∉ knownFields →
      Entries.find? other token.toJson.fields = Entries.find? other value.fields) ∧
    (∀ known ∈ knownFields, Json.isMissing (Entries.find? known value.fields) = true →
      Entries.find? known token.toJson.fields = some (absentForm known)) ∧
    ofJson token.toJson = .ok token ∧
    ∃ identity : Identity, identity.token = token ∧ Identity.ofJson value = .ok identity ∧
      Identity.ofJson token.toJson = .ok identity := by
  have again : ofJson token.toJson = .ok token :=
    readFields_eq_ok_iff.2 (reads_toJson (namesApart_of_ofJson accepted))
  refine ⟨fun other => find?_fields_toJson_of_unknown accepted,
    fun known => find?_toJson_of_isMissing accepted, again, ⟨token⟩, rfl, ?_, ?_⟩
  · rw [Identity.ofJson, accepted]
    rfl
  · rw [Identity.ofJson, again]
    rfl

end Accepted

/-- A token with numbers and texts for identifiers and flags, null for roles, a list for its user,
and a field that is not known. -/
def looseToken : Json :=
  .object [("audit", .array [.null, .ofInt 1]), ("is_admin", .string "TRUE"),
    ("is_admin_project", .ofInt 0), ("project", .object [("id", .ofInt 7), ("parent_id", .null)]),
    ("roles", .null), ("system", .array [.ofInt 1]),
    ("user", .array [.ofInt 42, .bool true, .object [("id", .string "default")]])]

/-- The same token after reading. -/
def strictToken : Token where
  user := some ⟨some "42", some "true", some ⟨some "default", none⟩⟩
  project := some ⟨some "7", none, none, none⟩
  system := some ⟨true⟩
  isAdmin := some true
  isAdminProject := some false
  extensions := [("audit", .array [.null, .ofInt 1])]

theorem ofJson_toJson_of_accepted_loose :
    ofJson looseToken = .ok strictToken ∧ strictToken.toJson ≠ looseToken ∧
      ofJson strictToken.toJson = .ok strictToken ∧
      Entries.find? "audit" strictToken.toJson.fields = some (.array [.null, .ofInt 1]) ∧
      Entries.find? "domain" strictToken.toJson.fields = some .null := by
  have accepted : ofJson looseToken = .ok strictToken := by
    rfl
  obtain ⟨kept, absent, again, -⟩ := ofJson_toJson_of_accepted accepted
  exact ⟨accepted, by decide +kernel, again, kept "audit" (by decide),
    absent "domain" (by decide) rfl⟩

end Token

end AccessPolicy
