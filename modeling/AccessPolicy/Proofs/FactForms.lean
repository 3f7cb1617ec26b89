import AccessPolicy.Proofs.Entries
import AccessPolicy.Proofs.Leaves
import AccessPolicy.Proofs.Placeholders
import AccessPolicy.Proofs.UnknownFields

/-!
# Three forms of a fact

A fact of the identity can be asked for by its name, by the path to it in the identity, and by the
same path behind `token`. The two paths always decide alike. The name decides as they do, except
that a fact with the text `null` cannot be told from a missing one by its name.
-/

namespace AccessPolicy

/-! ## Paths by their first segment -/

namespace Json

variable {value : Json} {first rest : String} {segment : List Char}

/-- The segments of a path behind a segment without dots. -/
theorem dotSegments_append (text : List Char) (clear : '.' ∉ segment) :
    dotSegments (segment ++ '.' :: text) = segment :: dotSegments text := by
  induction segment with
  | nil => rfl
  | cons character segment induction =>
    obtain ⟨here, later⟩ := not_or.1 (mt List.mem_cons.2 clear)
    simp only [List.cons_append, dotSegments, if_neg (Ne.symm here), induction later,
      List.modifyHead_cons]

theorem dotSegments_of_clear (clear : '.' ∉ segment) : dotSegments segment = [segment] := by
  induction segment with
  | nil => rfl
  | cons character segment induction =>
    obtain ⟨here, later⟩ := not_or.1 (mt List.mem_cons.2 clear)
    simp only [dotSegments, if_neg (Ne.symm here), induction later, List.modifyHead_cons]

theorem lookup?_of_ne (nonempty : first ≠ "") :
    value.lookup? first = value.follow? (dotSegments first.toList) :=
  if_neg (by simpa using nonempty)

/-- A path with a dot is followed from what its first segment names, also if it ends with the
dot. -/
theorem lookup?_append_dot (clear : '.' ∉ first.toList) (rest : String) :
    value.lookup? (first ++ "." ++ rest) =
      (value.step? first.toList).bind (·.follow? (dotSegments rest.toList)) := by
  have listed : (first ++ "." ++ rest).toList = first.toList ++ '.' :: rest.toList := by simp
  have whole : first ++ "." ++ rest ≠ "" := by
    intro empty
    rw [empty] at listed
    simp at listed
  rw [lookup?_of_ne whole, listed, dotSegments_append _ clear]
  rfl

theorem lookup?_dot (clear : '.' ∉ first.toList) (nonempty : rest ≠ "") :
    value.lookup? (first ++ "." ++ rest) = (value.step? first.toList).bind (·.lookup? rest) := by
  simp only [lookup?_append_dot clear, lookup?_of_ne nonempty]

theorem lookup?_of_clear (clear : '.' ∉ first.toList) (nonempty : first ≠ "") :
    value.lookup? first = value.step? first.toList := by
  rw [lookup?_of_ne nonempty, dotSegments_of_clear clear]
  simp only [follow?, Option.bind_fun_some]

theorem present?_dot {inner : Json} (steps : value.step? first.toList = some inner)
    (clear : '.' ∉ first.toList) (nonempty : rest ≠ "") :
    value.present? (first ++ "." ++ rest) = inner.present? rest := by
  rw [present?, lookup?_dot clear nonempty, steps]
  rfl

theorem present?_null (path : String) : null.present? path = none := by
  simp only [present?, lookup?]
  split
  · rfl
  · cases segments : dotSegments path.toList with
    | nil => exact absurd segments (dotSegments_ne_nil _)
    | cons segment rest => rfl

theorem lookup?_absent {fields : Entries Json} (absent : Entries.find? first fields = none)
    (clear : '.' ∉ first.toList) (nonempty : rest ≠ "") :
    (object fields).lookup? (first ++ "." ++ rest) = none := by
  rw [lookup?_dot clear nonempty, step?, String.ofList_toList, absent]
  rfl

/-! ## Fields of optional parts -/

section Parts

variable {Part : Type} {render : Part → Json}

/-- A text of an optional part is reached by its key. -/
theorem present?_text {text? : Part → Option String} (part? : Option Part)
    (clear : '.' ∉ first.toList) (nonempty : first ≠ "")
    (field : ∀ part, (render part).step? first.toList = some (ofText? (text? part))) :
    ((part?.map render).getD .null).present? first = (part?.bind text?).map .string := by
  cases part? with
  | none => exact present?_null first
  | some part =>
    have found : (render part).lookup? first = some (ofText? (text? part)) := by
      rw [lookup?_of_clear clear nonempty, field]
    show (render part).present? first = (text? part).map .string
    rw [present?, found]
    cases text? part <;> rfl

/-- What is inside a part of an optional part is reached by a path through its key. -/
theorem present?_inner {inner : Part → Json} (part? : Option Part) (clear : '.' ∉ first.toList)
    (nonempty : rest ≠ "")
    (field : ∀ part, (render part).step? first.toList = some (inner part)) :
    ((part?.map render).getD .null).present? (first ++ "." ++ rest) =
      part?.bind fun part => (inner part).present? rest := by
  cases part? with
  | none => exact present?_null _
  | some part => exact present?_dot (field part) clear nonempty

end Parts

end Json

/-! ## Where facts are found -/

theorem Domain.present?_id (domain : Option Domain) :
    (toJson? domain).present? "id" = (domain.bind (·.id)).map .string :=
  Json.present?_text domain (by decide) (by decide) fun _ => rfl

theorem Domain.present?_name (domain : Option Domain) :
    (toJson? domain).present? "name" = (domain.bind (·.name)).map .string :=
  Json.present?_text domain (by decide) (by decide) fun _ => rfl

/-- A path through the domain of an optional part ends in that domain. -/
theorem Domain.present?_of_part {Part : Type} {render : Part → Json} {domain? : Part → Option Domain}
    (part? : Option Part) {rest : String} (nonempty : rest ≠ "")
    (field : ∀ part, (render part).step? "domain".toList = some (toJson? (domain? part))) :
    ((part?.map render).getD .null).present? ("domain" ++ "." ++ rest) =
      (toJson? (part?.bind domain?)).present? rest := by
  rw [Json.present?_inner part? (by decide) nonempty field]
  cases part? with
  | none => exact (Json.present?_null rest).symm
  | some part => rfl

/-- The path to a fact in the identity; the scope of the system has none. -/
def Fact.path? : Fact → Option String
  | .userId => some "user.id"
  | .userName => some "user.name"
  | .userDomainId => some "user.domain.id"
  | .userDomainName => some "user.domain.name"
  | .projectId => some "project.id"
  | .projectName => some "project.name"
  | .projectDomainId => some "project.domain.id"
  | .projectDomainName => some "project.domain.name"
  | .projectParentId => some "project.parent_id"
  | .domainId => some "domain.id"
  | .domainName => some "domain.name"
  | .systemScope => none

namespace Token

/-- The structured parts that facts are taken from, by the names of their fields. -/
def parts (token : Token) : Entries Json :=
  [("user", userJson token.user), ("project", projectJson token.project),
    ("domain", Domain.toJson? token.domain)]

/-- Every fact with a path is in the part of the token that the path starts with. -/
theorem exists_part_of_path? (token : Token) {fact : Fact} {path : String}
    (placed : fact.path? = some path) :
    ∃ part ∈ token.parts, ∃ rest, path = part.1 ++ "." ++ rest ∧ rest ≠ "" ∧
      part.2.present? rest = ((Identity.mk token).fact? fact).map .string := by
  have user : ("user", userJson token.user) ∈ token.parts := by simp [parts]
  have project : ("project", projectJson token.project) ∈ token.parts := by simp [parts]
  have domain : ("domain", Domain.toJson? token.domain) ∈ token.parts := by simp [parts]
  have domain_of_user (rest : String) (nonempty : rest ≠ "") :
      (userJson token.user).present? ("domain" ++ "." ++ rest) =
        (Domain.toJson? (token.user.bind (·.domain))).present? rest :=
    Domain.present?_of_part token.user nonempty fun _ => rfl
  have domain_of_project (rest : String) (nonempty : rest ≠ "") :
      (projectJson token.project).present? ("domain" ++ "." ++ rest) =
        (Domain.toJson? (token.project.bind (·.domain))).present? rest :=
    Domain.present?_of_part token.project nonempty fun _ => rfl
  cases fact <;> cases placed
  case userId =>
    exact ⟨_, user, "id", rfl, by decide,
      Json.present?_text token.user (by decide) (by decide) fun _ => rfl⟩
  case userName =>
    exact ⟨_, user, "name", rfl, by decide,
      Json.present?_text token.user (by decide) (by decide) fun _ => rfl⟩
  case userDomainId =>
    exact ⟨_, user, "domain.id", rfl, by decide,
      (domain_of_user "id" (by decide)).trans (Domain.present?_id _)⟩
  case userDomainName =>
    exact ⟨_, user, "domain.name", rfl, by decide,
      (domain_of_user "name" (by decide)).trans (Domain.present?_name _)⟩
  case projectId =>
    exact ⟨_, project, "id", rfl, by decide,
      Json.present?_text token.project (by decide) (by decide) fun _ => rfl⟩
  case projectName =>
    exact ⟨_, project, "name", rfl, by decide,
      Json.present?_text token.project (by decide) (by decide) fun _ => rfl⟩
  case projectDomainId =>
    exact ⟨_, project, "domain.id", rfl, by decide,
      (domain_of_project "id" (by decide)).trans (Domain.present?_id _)⟩
  case projectDomainName =>
    exact ⟨_, project, "domain.name", rfl, by decide,
      (domain_of_project "name" (by decide)).trans (Domain.present?_name _)⟩
  case projectParentId =>
    exact ⟨_, project, "parent_id", rfl, by decide,
      Json.present?_text token.project (by decide) (by decide) fun _ => rfl⟩
  case domainId => exact ⟨_, domain, "id", rfl, by decide, Domain.present?_id _⟩
  case domainName => exact ⟨_, domain, "name", rfl, by decide, Domain.present?_name _⟩

theorem clear_of_mem_parts {token : Token} {part : String × Json} (member : part ∈ token.parts) :
    '.' ∉ part.1.toList := by
  simp only [parts, List.mem_cons, List.not_mem_nil, or_false] at member
  rcases member with rfl | rfl | rfl
  all_goals simp

/-- A written token has an unknown field as it was kept, and any other field as it is written. -/
theorem find?_fields_toJson (token : Token) (name : String) :
    Entries.find? name token.toJson.fields =
      (Entries.find? name token.extensions).or (Entries.find? name token.knownEntries) := by
  have ordered : token.knownEntries.keys.Pairwise (· < ·) := by
    have names : knownFields.Pairwise (· < ·) := by decide +kernel
    exact names
  have sorted : Entries.Sorted token.knownEntries := List.pairwise_map.1 ordered
  exact Entries.find?_insertAll_missing name token.extensions sorted

theorem find?_fields_toJson_of_known {token : Token} (apart : token.NamesApart) {name : String}
    (known : name ∈ knownFields) :
    Entries.find? name token.toJson.fields = Entries.find? name token.knownEntries := by
  have absent : Entries.find? name token.extensions = none := by
    rw [Option.eq_none_iff_forall_ne_some]
    intro value found
    exact apart _ (Entries.mem_of_find? found) known
  rw [find?_fields_toJson, absent, Option.none_or]

theorem step?_toJson (token : Token) (name : String) :
    token.toJson.step? name.toList = Entries.find? name token.toJson.fields := by
  show Entries.find? (String.ofList name.toList) token.toJson.fields = _
  rw [String.ofList_toList]

theorem step?_toJson_of_mem_parts {token : Token} (apart : token.NamesApart) {part : String × Json}
    (member : part ∈ token.parts) : token.toJson.step? part.1.toList = some part.2 := by
  rw [step?_toJson]
  simp only [parts, List.mem_cons, List.not_mem_nil, or_false] at member
  rcases member with rfl | rfl | rfl
  all_goals exact (find?_fields_toJson_of_known apart (by simp [knownFields])).trans rfl

end Token

namespace Identity

variable (identity : Identity) {part : String × Json}

theorem step?_view (member : part ∈ identity.token.parts) :
    identity.view.step? part.1.toList = some part.2 := by
  simp only [view, Json.step?, String.ofList_toList, publicFields, Entries.ofList,
    Entries.find?_insert, Entries.find?_insertAll]
  simp only [Token.parts, List.mem_cons, List.not_mem_nil, or_false] at member
  rcases member with rfl | rfl | rfl
  all_goals rfl

theorem step?_view_token : identity.view.step? "token".toList = some identity.token.toJson := by
  simp only [view, Json.step?, String.ofList_toList, Entries.find?_insert, if_true]

/-- The path to a fact names the text of the fact, or nothing but null if the fact is missing. -/
theorem present?_view_of_path? {fact : Fact} {path : String} (placed : fact.path? = some path) :
    identity.view.present? path = (identity.fact? fact).map .string := by
  obtain ⟨part, member, rest, rfl, nonempty, found⟩ :=
    identity.token.exists_part_of_path? placed
  rw [Json.present?_dot (identity.step?_view member) (Token.clear_of_mem_parts member) nonempty]
  exact found

/-- So does the same path behind `token`, unless an unknown field stands in the way. -/
theorem present?_view_token_of_path? (apart : identity.token.NamesApart) {fact : Fact}
    {path : String} (placed : fact.path? = some path) :
    identity.view.present? ("token" ++ "." ++ path) = (identity.fact? fact).map .string := by
  obtain ⟨part, member, rest, rfl, nonempty, found⟩ :=
    identity.token.exists_part_of_path? placed
  have whole : part.1 ++ "." ++ rest ≠ "" := by simp
  rw [Json.present?_dot identity.step?_view_token (by decide) whole,
    Json.present?_dot (Token.step?_toJson_of_mem_parts apart member)
      (Token.clear_of_mem_parts member) nonempty]
  exact found

end Identity

/-! ## Leaves -/

namespace Leaf

theorem ofText_keyed {key : String} (value : String) (clear : ':' ∉ key.toList)
    (starts : ∀ first ∈ key.toList.head?, first ∉ ['\'', '"', 'h']) :
    ofText (key ++ ":" ++ value) = ofKey key value := by
  have listed : (key ++ ":" ++ value).toList = key.toList ++ ':' :: value.toList := by simp
  rw [ofText_of_key listed clear starts, String.ofList_toList, String.ofList_toList]

section Reading

variable {fact : Fact} {path : String}

theorem ofText_fact (tested : fact ∈ testedFacts) (value : String) :
    ofText (fact.name ++ ":" ++ value) = .fact fact value := by
  simp only [testedFacts, List.mem_cons, List.not_mem_nil, or_false] at tested
  rcases tested with rfl | rfl | rfl | rfl | rfl | rfl | rfl
  all_goals
    rw [ofText_keyed value (by decide) (by rintro first ⟨⟩; decide)]
    rfl

theorem ofText_path {key : String} (placed : fact.path? = some path)
    (form : key = path ∨ key = "token." ++ path) (value : String) :
    ofText (key ++ ":" ++ value) = .path key value := by
  cases fact <;> cases placed <;> rcases form with rfl | rfl
  all_goals
    rw [ofText_keyed value (by decide) (by rintro first ⟨⟩; decide)]
    rfl

end Reading

theorem factMatches_iff {fact : Option String} {value : String} :
    factMatches fact value = true ↔ fact = some value ∨ fact = none ∧ value = "null" := by
  cases fact <;> simp [factMatches]

/-- A looked-up fact is not matched by the text `null`. -/
theorem valueMatches_iff {fact : Option String} {value : String} :
    valueMatches (fact.map .string) value = true ↔
      fact = some value ∧ value ≠ "null" ∨ fact = none ∧ value = "null" := by
  by_cases null : value = "null"
  · cases fact <;> simp [valueMatches, null, Json.isMissing]
  · cases fact <;> simp [valueMatches, null, Json.textEquals, Json.plainText]

section Surroundings

variable {Event : Type} {surroundings : Surroundings Event} {identity : Identity} {place : String}

/-- Parameters without the first segment of a path have nothing to add to the identity. -/
theorem lookup?_of_present? {fact : Option String}
    (asks : surroundings.identity? = some identity)
    (present : identity.view.present? place = fact.map .string)
    (absent : surroundings.parameters.lookup? place = none) :
    lookup? surroundings place = fact.map .string := by
  have found : (surroundings.identity?.bind (·.lookup? place)).filter (fun value => !value.isNull) =
      fact.map .string := by
    rw [asks]
    exact present
  rw [lookup?, found, absent]
  cases fact <;> rfl

theorem evaluateText_path {text value : String} {fact : Option String}
    (read : ofText text = .path place value) (asks : surroundings.identity? = some identity)
    (present : identity.view.present? place = fact.map .string)
    (absent : surroundings.parameters.lookup? place = none) :
    evaluateText surroundings text =
      .settled (.ok (valueMatches (fact.map .string) (surroundings.parameters.fill value))) := by
  rw [evaluateText, read, evaluate, lookup?_of_present? asks present absent]

/-- The path to a fact decides as its name does unless that is compared with the text `null`. This
text means a missing fact, but the name takes a fact with the text `null` for a missing one. The same
path behind `token` always decides as the path does, if the identity was read. -/
theorem fact_forms {fact : Fact} {path : String} {fields : Entries Json}
    (tested : fact ∈ testedFacts) (placed : fact.path? = some path)
    (asks : surroundings.identity? = some identity)
    (given : surroundings.parameters = .object fields)
    (clear : ∀ key ∈ ["user", "project", "domain", "token"], Entries.find? key fields = none)
    (value : String) :
    ∃ named reached : Bool,
      evaluateText surroundings (fact.name ++ ":" ++ value) = .settled (.ok named) ∧
      evaluateText surroundings (path ++ ":" ++ value) = .settled (.ok reached) ∧
      ((∃ token, Identity.ofJson token = .ok identity) →
        evaluateText surroundings ("token." ++ path ++ ":" ++ value) = .settled (.ok reached)) ∧
      (surroundings.parameters.fill value ≠ "null" →
        (named = true ↔ identity.fact? fact = some (surroundings.parameters.fill value)) ∧
        reached = named) ∧
      (surroundings.parameters.fill value = "null" →
        (reached = true ↔ identity.fact? fact = none) ∧
        (named = true ↔ identity.fact? fact = none ∨ identity.fact? fact = some "null")) := by
  -- The parameters have nothing at either path, so the identity alone decides.
  have nowhere : surroundings.parameters.lookup? path = none ∧
      surroundings.parameters.lookup? ("token." ++ path) = none := by
    obtain ⟨part, member, rest, rfl, nonempty, -⟩ := identity.token.exists_part_of_path? placed
    have key : part.1 ∈ ["user", "project", "domain", "token"] := by
      simp only [Token.parts, List.mem_cons, List.not_mem_nil, or_false] at member
      rcases member with rfl | rfl | rfl <;> simp
    rw [given]
    constructor
    · exact Json.lookup?_absent (clear _ key) (Token.clear_of_mem_parts member) nonempty
    · exact Json.lookup?_absent (clear "token" (by simp)) (by decide) (by simp)
  obtain ⟨nowhere, nowhere_token⟩ := nowhere
  refine ⟨factMatches (identity.fact? fact) (surroundings.parameters.fill value),
    valueMatches ((identity.fact? fact).map .string) (surroundings.parameters.fill value), ?_,
    ?_, ?_, ?_, ?_⟩
  · rw [evaluateText, ofText_fact tested, evaluate, asks, Option.bind_some]
  · exact evaluateText_path (ofText_path placed (Or.inl rfl) value) asks
      (identity.present?_view_of_path? placed) nowhere
  · rintro ⟨token, accepted⟩
    have apart := Identity.namesApart_of_ofJson accepted
    exact evaluateText_path (ofText_path placed (Or.inr rfl) value) asks
      (identity.present?_view_token_of_path? apart placed) nowhere_token
  · intro other
    have named : factMatches (identity.fact? fact) (surroundings.parameters.fill value) = true ↔
        identity.fact? fact = some (surroundings.parameters.fill value) := by
      simp [factMatches_iff, other]
    refine ⟨named, Bool.eq_iff_iff.2 ?_⟩
    simp [named, valueMatches_iff, other]
  · intro null
    rw [factMatches_iff, valueMatches_iff]
    simp [null, or_comm]

end Surroundings

/-- The identity of a user with the given identifier. -/
def userIdentity (user : String) : Identity := ⟨{ user := some ⟨some user, none, none⟩ }⟩

/-- A call about something that the user with the given identifier owns. -/
def ownerParameters (owner : String) : Entries Json := [("owner", .string owner)]

/-- A user calls with something owned by a user. -/
def ownerSurroundings (user owner : String) : Surroundings Empty where
  identity? := some (userIdentity user)
  parameters := .object (ownerParameters owner)

theorem fact_forms_owner :
    Identity.ofJson (.object [("user", .object [("id", .string "u1")])]) = .ok (userIdentity "u1") ∧
    (∀ key ∈ ["user", "project", "domain", "token"],
      Entries.find? key (ownerParameters "u1") = none) ∧
    evaluateText (ownerSurroundings "u1" "u1") "user_id:%(owner)s" = .settled (.ok true) ∧
    evaluateText (ownerSurroundings "u1" "u1") "user.id:%(owner)s" = .settled (.ok true) ∧
    evaluateText (ownerSurroundings "u1" "u1") "token.user.id:%(owner)s" = .settled (.ok true) := by
  have accepted : Identity.ofJson (.object [("user", .object [("id", .string "u1")])]) =
      .ok (userIdentity "u1") := rfl
  have clear : ∀ key ∈ ["user", "project", "domain", "token"],
      Entries.find? key (ownerParameters "u1") = none := by decide
  have tested : Fact.userId ∈ testedFacts := by decide
  have placed : Fact.userId.path? = some "user.id" := rfl
  have asks : (ownerSurroundings "u1" "u1").identity? = some (userIdentity "u1") := rfl
  have given : (ownerSurroundings "u1" "u1").parameters = .object (ownerParameters "u1") := rfl
  have filled : (ownerSurroundings "u1" "u1").parameters.fill "%(owner)s" = "u1" := by
    decide +kernel
  obtain ⟨named, reached, by_name, by_path, by_token, other, -⟩ :=
    fact_forms tested placed asks given clear "%(owner)s"
  rw [filled] at other
  obtain ⟨holds, same⟩ := other (by decide)
  have named_eq : named = true := holds.2 rfl
  rw [same, named_eq] at by_path by_token
  rw [named_eq] at by_name
  exact ⟨accepted, clear, by_name, by_path, by_token ⟨_, accepted⟩⟩

/-- A user with the identifier `null` is taken for one without an identifier by the name of the
fact and by neither of the paths. -/
theorem fact_forms_null_text :
    Identity.ofJson (.object [("user", .object [("id", .string "null")])]) =
      .ok (userIdentity "null") ∧
    (evaluateText (ownerSurroundings "null" "u1") "user_id:null").decision = .ok true ∧
    (evaluateText (ownerSurroundings "null" "u1") "user.id:null").decision = .ok false ∧
    (evaluateText (ownerSurroundings "null" "u1") "token.user.id:null").decision = .ok false := by
  refine ⟨rfl, ?_, ?_, ?_⟩
  all_goals decide +kernel

end Leaf

end AccessPolicy
