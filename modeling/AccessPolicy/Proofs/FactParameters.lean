import AccessPolicy.Proofs.FactForms

/-!
# Facts compared with parameters

A leaf such as `user_id:%(owner)s` compares a fact of the identity with a parameter of the call.
The parameter is put in for its placeholder before the value of the leaf is interpreted, so it is
compared as a text, but the text `null` is one that a missing fact has too.
-/

namespace AccessPolicy

namespace Text

variable {value? : String → Option String} {path : String}

theorem segments_placeholderForm_append {path tail : List Char} (valid : IsPath path) :
    segments (placeholderForm path ++ tail) = .placeholder path :: segments tail := by
  have found : placeholderAt? (placeholderForm path ++ tail) = some (path, tail) :=
    placeholderAt?_eq_some_iff.2 ⟨valid, rfl⟩
  rw [placeholderForm_append] at found ⊢
  rw [segments]
  split
  next other behind other_found =>
    rw [found] at other_found
    cases other_found
    rfl
  next unread =>
    rw [found] at unread
    cases unread

theorem toList_placeholder (path : String) :
    ("%(" ++ path ++ ")s").toList = placeholderForm path.toList := by
  simp [placeholderForm]

/-- A placeholder by itself is replaced by the value of its path, if there is one. -/
theorem substitute_placeholder_eq (value? : String → Option String) (valid : IsPath path.toList) :
    substitute value? ("%(" ++ path ++ ")s") = (value? path).getD ("%(" ++ path ++ ")s") := by
  have one : segments (placeholderForm path.toList) = [.placeholder path.toList] := by
    rw [← List.append_nil (placeholderForm path.toList), segments_placeholderForm_append valid,
      segments]
  rw [substitute, toList_placeholder, one, List.flatMap_singleton, Segment.fill,
    String.ofList_toList]
  cases value? path with
  | none => rw [Option.getD_none, ← toList_placeholder, String.ofList_toList]
  | some value => rw [Option.getD_some, String.ofList_toList]

theorem substitute_placeholder (valid : IsPath path.toList) {value : String}
    (found : value? path = some value) : substitute value? ("%(" ++ path ++ ")s") = value := by
  rw [substitute_placeholder_eq value? valid, found, Option.getD_some]

end Text

namespace Leaf

variable {Event : Type} {surroundings : Surroundings Event} {identity : Identity}

/-- A leaf that compares a fact with a parameter holds if the identity has the fact and it is the
text of the parameter. An identity without the fact satisfies it only by a parameter with the text
`null`. -/
theorem fact_parameter {fact : Fact} {path : String} {value : Json}
    (tested : fact ∈ testedFacts) (asks : surroundings.identity? = some identity)
    (valid : Text.IsPath path.toList)
    (given : surroundings.parameters.present? path = some value) :
    ∃ allowed,
      evaluateText surroundings (fact.name ++ ":%(" ++ path ++ ")s") = .settled (.ok allowed) ∧
      (allowed = true ↔ identity.fact? fact = some value.plainText ∨
        identity.fact? fact = none ∧ value.plainText = "null") := by
  have written : fact.name ++ ":%(" ++ path ++ ")s" =
      fact.name ++ ":" ++ ("%(" ++ path ++ ")s") := by
    simp [← String.toList_inj]
  have text : surroundings.parameters.parameterText? path = some value.plainText := by
    rw [Json.parameterText?, given, Option.map_some]
  have filled : surroundings.parameters.fill ("%(" ++ path ++ ")s") = value.plainText :=
    Text.substitute_placeholder valid text
  refine ⟨factMatches (identity.fact? fact) value.plainText, ?_, factMatches_iff⟩
  rw [written, evaluateText, ofText_fact tested, evaluate, asks, Option.bind_some, filled]

/-- The identity of a token for a domain. -/
def domainIdentity (domain : String) : Identity := ⟨{ domain := some ⟨some domain, none⟩ }⟩

/-- An identity calls with a parameter for the domain. -/
def domainSurroundings (identity : Identity) (domain : Json) : Surroundings Empty where
  identity? := some identity
  parameters := .object [("domain_id", domain)]

theorem fact_parameter_number :
    (domainSurroundings (domainIdentity "12345") (.ofInt 12345)).parameters.present? "domain_id" =
      some (.ofInt 12345) ∧
    (domainIdentity "12345").fact? .domainId = some (Json.ofInt 12345).plainText ∧
    evaluateText (domainSurroundings (domainIdentity "12345") (.ofInt 12345))
      "domain_id:%(domain_id)s" = .settled (.ok true) := by
  have tested : Fact.domainId ∈ testedFacts := by decide
  have valid : Text.IsPath "domain_id".toList :=
    ⟨by decide, List.all_eq_true.1 (by decide +kernel)⟩
  have given : (domainSurroundings (domainIdentity "12345") (.ofInt 12345)).parameters.present?
      "domain_id" = some (.ofInt 12345) := by decide +kernel
  have same : (domainIdentity "12345").fact? .domainId = some (Json.ofInt 12345).plainText := by
    decide +kernel
  obtain ⟨allowed, evaluated, holds⟩ := fact_parameter tested rfl valid given
  rw [holds.2 (Or.inl same)] at evaluated
  exact ⟨given, same, evaluated⟩

/-- A caller without a domain satisfies the check by naming the domain `null`, though no fact has
that text. -/
theorem fact_parameter_null_text :
    Identity.ofJson (.object []) = .ok ⟨{}⟩ ∧
    (domainSurroundings ⟨{}⟩ (.string "null")).parameters.present? "domain_id" =
      some (.string "null") ∧
    ¬((evaluateText (domainSurroundings ⟨{}⟩ (.string "null"))
        "domain_id:%(domain_id)s").decision = .ok true ↔
      (⟨{}⟩ : Identity).fact? .domainId = some (Json.string "null").plainText) := by
  have allowed : (evaluateText (domainSurroundings ⟨{}⟩ (.string "null"))
      "domain_id:%(domain_id)s").decision = .ok true := by decide +kernel
  refine ⟨rfl, by decide +kernel, fun same => ?_⟩
  cases same.1 allowed

end Leaf

end AccessPolicy
