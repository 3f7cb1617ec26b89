import AccessPolicy.Proofs.FactForms
import AccessPolicy.Proofs.TokenReading

/-!
# Views of an identity

The facts of an identity are copied out of the parts of its token, and the value that paths are
looked up in has the facts by their names, the parts, and the whole token. All of them show the same
text for a fact. The unknown fields of the token are reached behind `token`.
-/

namespace AccessPolicy

namespace Json

/-- A looked-up value shows an optional text if it is that text, and absent or null where there is
none. -/
structure Shows (found : Option Json) (text? : Option String) : Prop where
  /-- A text is found as it is. -/
  eq_some_iff : ∀ text, text? = some text ↔ found = some (.string text)
  /-- Without a text nothing is found, or null. -/
  eq_none_iff : text? = none ↔ isMissing found = true

theorem shows_ofText? (text? : Option String) : Shows (some (ofText? text?)) text? := by
  cases text? with
  | none => exact ⟨fun text => ⟨nofun, nofun⟩, ⟨fun _ => rfl, fun _ => rfl⟩⟩
  | some text => exact ⟨fun other => by simp [ofText?], ⟨nofun, nofun⟩⟩

theorem shows_of_present? {value : Json} {path : String} {text? : Option String}
    (present : value.present? path = text?.map .string) : Shows (value.lookup? path) text? := by
  rw [present?] at present
  cases text? with
  | none =>
    have missing : isMissing (value.lookup? path) = true := by
      cases found : value.lookup? path with
      | none => rfl
      | some inner =>
        rw [found] at present
        cases inner with
        | null => rfl
        | _ => cases present
    refine ⟨fun text => ?_, ⟨fun _ => missing, fun _ => rfl⟩⟩
    constructor
    · intro given
      cases given
    · intro found
      rw [found] at missing
      cases missing
  | some text =>
    obtain ⟨found, -⟩ := Option.filter_eq_some_iff.1 present
    rw [found]
    exact shows_ofText? (some text)

end Json

namespace Identity

variable {identity : Identity} {value : Json}

/-- A fact stands in the view under its name. -/
theorem lookup?_name (identity : Identity) (fact : Fact) :
    identity.lookup? fact.name = some (.ofText? (identity.fact? fact)) := by
  have clear : '.' ∉ fact.name.toList := by cases fact <;> decide
  have nonempty : fact.name ≠ "" := by cases fact <;> decide
  rw [lookup?, Json.lookup?_of_clear clear nonempty]
  simp only [view, Json.step?, String.ofList_toList, publicFields, Entries.ofList,
    Entries.find?_insert, Entries.find?_insertAll]
  cases fact <;> rfl

/-- A path behind `token` is followed in the token as it is written. -/
theorem lookup?_behind_token (identity : Identity) (rest : String) :
    identity.lookup? ("token." ++ rest) =
      identity.token.toJson.follow? (Json.dotSegments rest.toList) := by
  have followed : identity.view.lookup? ("token" ++ "." ++ rest) =
      (identity.view.step? "token".toList).bind (·.follow? (Json.dotSegments rest.toList)) :=
    Json.lookup?_append_dot (by decide) rest
  rwa [identity.step?_view_token, Option.bind_some] at followed

/-- For every fact with a path, its name, its path and its path behind `token` show the fact. An
unknown field without dots in its name is reached behind `token`, and what is inside it by longer
paths. -/
theorem views_agree (accepted : ofJson value = .ok identity) :
    (∀ (fact : Fact) (path : String), fact.path? = some path →
      ∀ place ∈ [fact.name, path, "token." ++ path],
        Json.Shows (identity.lookup? place) (identity.factNamed? fact.name)) ∧
    ∀ (name : String) (field : Json), name ∉ Token.knownFields → '.' ∉ name.toList →
      Entries.find? name value.fields = some field →
        identity.lookup? ("token." ++ name) = some field ∧
        ∀ rest, rest ≠ "" →
          identity.lookup? ("token." ++ name ++ "." ++ rest) = field.lookup? rest := by
  constructor
  · intro fact path placed place listed
    rw [factNamed?, Fact.ofName?_name, Option.bind_some]
    simp only [List.mem_cons, List.not_mem_nil, or_false] at listed
    rcases listed with rfl | rfl | rfl
    · rw [lookup?_name]
      exact Json.shows_ofText? _
    · exact Json.shows_of_present? (identity.present?_view_of_path? placed)
    · have apart := namesApart_of_ofJson accepted
      exact Json.shows_of_present? (identity.present?_view_token_of_path? apart placed)
  · intro name field unknown clear given
    have step : identity.token.toJson.step? name.toList = some field := by
      rw [Token.step?_toJson,
        Token.find?_fields_toJson_of_unknown (token_of_ofJson accepted) unknown, given]
    constructor
    · rw [lookup?_behind_token, Json.dotSegments_of_clear clear, Json.follow?, step]
      rfl
    · intro rest nonempty
      have whole : "token." ++ name ++ "." ++ rest = "token." ++ (name ++ "." ++ rest) := by
        simp [← String.toList_inj]
      have listed : (name ++ "." ++ rest).toList = name.toList ++ '.' :: rest.toList := by simp
      rw [whole, lookup?_behind_token, listed, Json.dotSegments_append _ clear, Json.follow?, step,
        Option.bind_some, Json.lookup?_of_ne nonempty]

/-- A token with a project in a domain, and unknown fields with an empty name and with the name of
a part. -/
def nestedToken : Json :=
  .object [("", .ofInt 0), ("project", .object [("domain", .array [.ofInt 5]), ("name", .null)]),
    ("user_id", .object [("at", .array [.string "x"])])]

/-- The identity of that token. -/
def nestedIdentity : Identity := ⟨{
  project := some ⟨none, none, some ⟨some "5", none⟩, none⟩
  extensions := [("", .ofInt 0), ("user_id", .object [("at", .array [.string "x"])])] }⟩

theorem views_agree_nested :
    ofJson nestedToken = .ok nestedIdentity ∧
      nestedIdentity.factNamed? "project_domain_id" = some "5" ∧
      nestedIdentity.lookup? "token.project.domain.id" = some (.string "5") ∧
      Json.isMissing (nestedIdentity.lookup? "user_id") = true ∧
      nestedIdentity.lookup? "token." = some (.ofInt 0) ∧
      nestedIdentity.lookup? "token.user_id.at.0" = some (.string "x") := by
  have accepted : ofJson nestedToken = .ok nestedIdentity := rfl
  obtain ⟨facts, unknown⟩ := views_agree accepted
  have domain := facts .projectDomainId "project.domain.id" rfl "token.project.domain.id" (by simp)
  have user := facts .userId "user.id" rfl "user_id" (by decide)
  obtain ⟨unnamed, -⟩ := unknown "" (.ofInt 0) (by decide) (by decide) rfl
  obtain ⟨-, inside⟩ := unknown "user_id" (.object [("at", .array [.string "x"])]) (by decide)
    (by decide) rfl
  have found := inside "at.0" (by decide)
  exact ⟨accepted, rfl, (domain.eq_some_iff "5").1 rfl, user.eq_none_iff.1 rfl, unnamed,
    found.trans (by decide +kernel)⟩

end Identity

end AccessPolicy
