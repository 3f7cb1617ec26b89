import AccessPolicy.Proofs.Comparison

/-!
# Unknown fields of a token

Tokens with the same known fields are accepted or refused together, and the identities of accepted
ones differ in the unknown fields only. These are reached by paths through `token` and by nothing
else, so rules without such paths decide alike for both identities.
-/

namespace AccessPolicy

/-! ## Paths by their first segment -/

namespace Json

variable {text segment : List Char}

theorem dotSegments_ne_nil (text : List Char) : dotSegments text ≠ [] := by
  induction text with
  | nil => exact List.cons_ne_nil _ _
  | cons character rest induction =>
    simp only [dotSegments]
    split
    · exact List.cons_ne_nil _ _
    · simpa using induction

/-- A text is its first segment, or has a dot behind it. -/
theorem eq_or_prefix_of_head?_dotSegments (starts : (dotSegments text).head? = some segment) :
    text = segment ∨ segment ++ ['.'] <+: text := by
  induction text generalizing segment with
  | nil =>
    cases starts
    exact Or.inl rfl
  | cons character rest induction =>
    simp only [dotSegments] at starts
    split at starts
    next dot =>
      cases starts
      exact Or.inr ⟨rest, by rw [dot]; rfl⟩
    next =>
      obtain ⟨inner, first, rfl⟩ : ∃ inner,
          (dotSegments rest).head? = some inner ∧ character :: inner = segment := by
        simpa using starts
      rcases induction first with whole | longer
      · exact Or.inl (congrArg (character :: ·) whole)
      · exact Or.inr (List.cons_prefix_cons.2 ⟨rfl, longer⟩)

end Json

/-! ## Reading tokens with the same known fields -/

/-- Fields agree if each known field has the same value in both, or is in neither. -/
def Token.KnownAgree (first second : Entries Json) : Prop :=
  ∀ name ∈ knownFields, Entries.find? name first = Entries.find? name second

/-- The fields that have no meaning in a token. -/
def Token.unknownFields (fields : Entries Json) : Entries Json :=
  fields.filter fun field => field.1 ∉ knownFields

theorem Token.readFields_congr {first second : Entries Json} (agree : KnownAgree first second) :
    readFields second =
      (fun token => { token with extensions := unknownFields second }) <$> readFields first := by
  have same (name : String) (known : name ∈ knownFields) :
      Entries.find? name second = Entries.find? name first := (agree name known).symm
  simp only [readFields, unknownFields, map_bind, map_pure]
  rw [same "domain" (by decide), same "is_admin" (by decide),
    same "is_admin_project" (by decide), same "project" (by decide), same "roles" (by decide),
    same "system" (by decide), same "user" (by decide)]

/-- Whether no unknown field of a token has the name of a known one. -/
def Token.NamesApart (token : Token) : Prop := ∀ field ∈ token.extensions, field.1 ∉ knownFields

theorem Token.extensions_of_ofJson {value : Json} {token : Token}
    (accepted : ofJson value = .ok token) : token.extensions = unknownFields value.fields := by
  cases value with
  | null =>
    cases accepted
    rfl
  | object fields =>
    have read : readFields fields = .ok token := accepted
    have agree : KnownAgree fields fields := fun _ _ => rfl
    have kept := readFields_congr agree
    rw [read] at kept
    exact congrArg Token.extensions (Except.ok.inj kept)
  | _ => cases accepted

/-- The names of unknown fields stand apart in a token that was read. -/
theorem Token.namesApart_of_ofJson {value : Json} {token : Token}
    (accepted : ofJson value = .ok token) : token.NamesApart := by
  intro field member
  rw [extensions_of_ofJson accepted] at member
  simpa using (List.mem_filter.1 member).2

/-! ## Identities that differ in unknown fields -/

namespace Identity

variable {identity : Identity} {extensions : Entries Json}

theorem token_of_ofJson {value : Json} (accepted : ofJson value = .ok identity) :
    Token.ofJson value = .ok identity.token := by
  rw [ofJson] at accepted
  cases read : Token.ofJson value with
  | error error =>
    rw [read] at accepted
    cases accepted
  | ok token =>
    rw [read] at accepted
    cases accepted
    rfl

theorem namesApart_of_ofJson {value : Json} (accepted : ofJson value = .ok identity) :
    identity.token.NamesApart :=
  Token.namesApart_of_ofJson (token_of_ofJson accepted)

/-- The identity with other unknown fields of its token. -/
def withExtensions (identity : Identity) (extensions : Entries Json) : Identity :=
  ⟨{ identity.token with extensions }⟩

@[simp] theorem fact?_withExtensions : (identity.withExtensions extensions).fact? = identity.fact? :=
  rfl

@[simp] theorem hasRole_withExtensions :
    (identity.withExtensions extensions).hasRole = identity.hasRole :=
  rfl

@[simp] theorem isAdmin_withExtensions :
    (identity.withExtensions extensions).isAdmin = identity.isAdmin :=
  rfl

@[simp] theorem isAdminProject_withExtensions :
    (identity.withExtensions extensions).isAdminProject = identity.isAdminProject :=
  rfl

@[simp] theorem publicFields_withExtensions :
    (identity.withExtensions extensions).publicFields = identity.publicFields :=
  rfl

/-- A path whose first segment is not `token` names something outside the unknown fields. -/
theorem lookup?_withExtensions {path : String}
    (outside : (Json.dotSegments path.toList).head? ≠ some "token".toList) :
    (identity.withExtensions extensions).lookup? path = identity.lookup? path := by
  simp only [lookup?, Json.lookup?]
  split
  next => rfl
  next =>
    cases segments : Json.dotSegments path.toList with
    | nil => exact absurd segments (Json.dotSegments_ne_nil _)
    | cons segment rest =>
      have other : String.ofList segment ≠ "token" := by
        rintro same
        rw [segments, ← same, String.toList_ofList] at outside
        exact outside rfl
      simp only [view, Json.follow?, Json.step?, Entries.find?_insert, if_neg other,
        publicFields_withExtensions]

theorem lookup?_token (identity : Identity) :
    identity.lookup? "token" = some identity.token.toJson := by
  have segments : Json.dotSegments "token".toList = ["token".toList] := by decide
  have nonempty : "token".isEmpty = false := by decide
  simp only [lookup?, Json.lookup?, nonempty, segments, view, Json.follow?, Json.step?,
    String.ofList_toList, Entries.find?_insert]
  rfl

/-- Identities are alike if rules can tell them apart only by paths through `token`. -/
structure Alike (first second : Identity) : Prop where
  /-- Every fact is the same. -/
  facts : ∀ name, first.factNamed? name = second.factNamed? name
  /-- Every role is with both or with neither. -/
  roles : ∀ name, first.hasRole name = second.hasRole name
  /-- The administrator flag is the same. -/
  admin : first.isAdmin = second.isAdmin
  /-- The flag of the administrator project is the same. -/
  adminProject : first.isAdminProject = second.isAdminProject
  /-- Every other path names the same value. -/
  paths : ∀ path, (Json.dotSegments path.toList).head? ≠ some "token".toList →
    first.lookup? path = second.lookup? path

theorem alike_withExtensions (identity : Identity) (extensions : Entries Json) :
    Alike identity (identity.withExtensions extensions) where
  facts _ := rfl
  roles _ := rfl
  admin := rfl
  adminProject := rfl
  paths _ outside := (lookup?_withExtensions outside).symm

end Identity

/-! ## Rules without paths through unknown fields -/

/-- No leaf of a rule looks up a path that starts with `token.`. -/
def Engine.AvoidsToken (engine : Engine) : Prop :=
  ∀ entry ∈ engine.rules, ∀ text ∈ entry.2.tree.leaves, ∀ key value,
    Leaf.ofText text = .path key value → ¬"token.".toList <+: key.toList

/-- Rules cannot tell two objects apart. -/
theorem Leaf.valueMatches_object (fields other : Entries Json) (value : String) :
    valueMatches (some (.object fields)) value = valueMatches (some (.object other)) value := by
  simp only [valueMatches, Json.isMissing, Json.textEquals, Json.plainText]

namespace Inquiry

variable {engine : Engine} {identity : Identity} {extensions : Entries Json} {parameters : Json}

theorem lookup?_ruleless_token : Leaf.lookup? (ruleless ⟨engine, identity, parameters⟩) "token" =
    some identity.token.toJson := by
  have present : (!identity.token.toJson.isNull) = true := rfl
  simp only [Leaf.lookup?, ruleless, surroundings, Option.bind_some, Identity.lookup?_token,
    Option.filter_some, if_pos present]

theorem valueMatches_lookup?_withExtensions {place : String} (value : String)
    (avoids : ¬"token.".toList <+: place.toList) :
    Leaf.valueMatches
        (Leaf.lookup? (ruleless ⟨engine, identity.withExtensions extensions, parameters⟩) place)
        value =
      Leaf.valueMatches (Leaf.lookup? (ruleless ⟨engine, identity, parameters⟩) place) value := by
  by_cases through : (Json.dotSegments place.toList).head? = some "token".toList
  · rcases Json.eq_or_prefix_of_head?_dotSegments through with whole | longer
    · obtain rfl : place = "token" := String.toList_inj.1 whole
      rw [lookup?_ruleless_token, lookup?_ruleless_token]
      exact Leaf.valueMatches_object _ _ value
    · exact absurd longer avoids
  · simp only [Leaf.lookup?, ruleless, surroundings, Option.bind_some,
      Identity.lookup?_withExtensions through]

/-- A leaf without a reference decides alike for identities that differ in unknown fields. -/
theorem decision_ruleless_withExtensions {text : String}
    (no_remote : engine.options.remoteCheck? = none)
    (avoids : ∀ key value, Leaf.ofText text = .path key value → ¬"token.".toList <+: key.toList)
    (plain : ∀ value, Leaf.ofText text ≠ .rule value) :
    ((Leaf.ofText text).evaluate (ruleless ⟨engine, identity, parameters⟩)).decision =
      ((Leaf.ofText text).evaluate
        (ruleless ⟨engine, identity.withExtensions extensions, parameters⟩)).decision := by
  cases read : Leaf.ofText text with
  | constant | malformed => simp only [Leaf.evaluate]
  | rule value => exact absurd read (plain value)
  | remote address => simp only [Leaf.evaluate, ruleless, surroundings, no_remote, Option.map_none]
  | literal | absent | present => simp only [Leaf.evaluate, ruleless, surroundings]
  | role value | admin value | adminProject value | fact _ value =>
    simp only [Leaf.evaluate, ruleless, surroundings, Option.any_some, Option.bind_some,
      Identity.hasRole_withExtensions, Identity.isAdmin_withExtensions,
      Identity.isAdminProject_withExtensions, Identity.fact?_withExtensions]
  | path place value =>
    apply congrArg Except.ok
    exact (valueMatches_lookup?_withExtensions _ (avoids place value read)).symm

theorem compares_withExtensions (identity : Identity) (extensions : Entries Json)
    (parameters : Json) (no_remote : engine.options.remoteCheck? = none)
    (avoids : engine.AvoidsToken) :
    Compares Eq ⟨engine, identity, parameters⟩
      ⟨engine, identity.withExtensions extensions, parameters⟩ where
  engine := rfl
  failures _ := rfl
  trees _ _ _ _ := Node.decision_congr_of_leaves
  references _ _ _ _ _ _ := rfl
  leaves entry configured text member :=
    decision_ruleless_withExtensions no_remote (avoids entry configured text member)

end Inquiry

namespace Identity

theorem ofJson_congr {first second : Entries Json} (agree : Token.KnownAgree first second) :
    ofJson (.object second) =
      (fun identity => identity.withExtensions (Token.unknownFields second)) <$>
        ofJson (.object first) := by
  rw [ofJson, ofJson, Token.ofJson, Token.ofJson, Token.readFields_congr agree]
  cases Token.readFields first <;> rfl

/-- Tokens with the same known fields are refused for the same reason, or have identities that are
alike, and every check without remote addresses and paths through `token` answers both the same. -/
theorem ofJson_of_knownAgree (first second : Entries Json)
    (agree : Token.KnownAgree first second) :
    (∃ error, ofJson (.object first) = .error error ∧ ofJson (.object second) = .error error) ∨
    ∃ left right, ofJson (.object first) = .ok left ∧ ofJson (.object second) = .ok right ∧
      Alike left right ∧
      ∀ engine : Engine, engine.options.remoteCheck? = none → engine.AvoidsToken →
        ∀ options rule parameters,
          ((engine.session left options).check rule parameters).answer =
            ((engine.session right options).check rule parameters).answer := by
  have reading := ofJson_congr agree
  cases read : ofJson (.object first) with
  | error error =>
    rw [read] at reading
    exact Or.inl ⟨error, rfl, reading⟩
  | ok identity =>
    rw [read] at reading
    refine Or.inr ⟨identity, identity.withExtensions (Token.unknownFields second), rfl, reading,
      alike_withExtensions _ _, ?_⟩
    intro engine no_remote avoids options rule parameters
    exact Session.relation_answer (Inquiry.compares_withExtensions _ _ _ no_remote avoids) rfl

/-- The fields of a token that names its user. -/
def plainFields : Entries Json := [("user", .object [("id", .string "u")])]

/-- The same fields with unknown ones that are named like facts and like parts of the view. -/
def strangeFields : Entries Json :=
  [("extensions", .string "x"), ("system_scope", .string "all"), ("token", .null),
    ("user", .object [("id", .string "u")]), ("user_id", .string "v")]

/-- An engine whose rules test a fact and look up a path. -/
def scopedEngine : Engine := {
  (Engine.ofConfiguration
    (.ofList [("a", "system_scope:all"), ("b", "user.id:u")]) {}).toOption.get
    (by decide +kernel) with
  options := {} }

theorem scopedEngine_avoidsToken : scopedEngine.AvoidsToken := by
  have leaves : (scopedEngine.rules.flatMap fun entry => entry.2.tree.leaves) =
      ["system_scope:all", "user.id:u"] := by
    decide +kernel
  have fact : Leaf.ofText "system_scope:all" = .fact .systemScope "all" := by decide +kernel
  have path : Leaf.ofText "user.id:u" = .path "user.id" "u" := by decide +kernel
  intro entry configured text member key value read
  have listed : text ∈ ["system_scope:all", "user.id:u"] := by
    rw [← leaves]
    exact List.mem_flatMap.2 ⟨entry, configured, member⟩
  rcases List.mem_pair.1 listed with rfl | rfl
  · rw [fact] at read
    cases read
  · rw [path] at read
    cases read
    decide

theorem ofJson_of_knownAgree_strange :
    Token.KnownAgree plainFields strangeFields ∧ scopedEngine.AvoidsToken ∧
      ∃ left right, ofJson (.object plainFields) = .ok left ∧
        ofJson (.object strangeFields) = .ok right ∧ Alike left right ∧
        ((scopedEngine.session left {}).check "a" .null).answer =
          ((scopedEngine.session right {}).check "a" .null).answer := by
  have agree : Token.KnownAgree plainFields strangeFields := by
    unfold Token.KnownAgree
    decide +kernel
  have avoids := scopedEngine_avoidsToken
  refine ⟨agree, avoids, ?_⟩
  rcases ofJson_of_knownAgree plainFields strangeFields agree with
    ⟨error, refused, -⟩ | ⟨left, right, first, second, alike, answers⟩
  · cases refused
  · exact ⟨left, right, first, second, alike, answers scopedEngine rfl avoids {} "a" .null⟩

end Identity

end AccessPolicy
