import AccessPolicy.Proofs.Causes
import AccessPolicy.Proofs.FactParameters
import AccessPolicy.Proofs.StrictParameters
import AccessPolicy.Proofs.UnresolvedPlaceholders

/-!
# Parameter reports

A report divides the required paths into those with a value and those that are missing. The leaves
that test for a parameter, and the substitution of its placeholder, take the same paths for missing,
and so do the validation of a call and a check that insists on parameters.
-/

namespace AccessPolicy

/-! ## Readers of one parameter -/

/-- Stripping takes the path out of its placeholder. -/
theorem Text.stripPlaceholder_placeholder (path : String) :
    stripPlaceholder ("%(" ++ path ++ ")s") = path := by
  have ends : [')', 's'] <:+ path.toList ++ [')', 's'] := List.suffix_append _ _
  have listed : ("%(" ++ path ++ ")s").toList = '%' :: '(' :: (path.toList ++ [')', 's']) :=
    toList_placeholder path
  rw [stripPlaceholder, listed]
  simp only [if_pos ends, List.length_append, List.length_cons, List.length_nil,
    Nat.add_sub_cancel_right, List.take_left', String.ofList_toList]

namespace Leaf

variable {Event : Type} (surroundings : Surroundings Event) (path : String)

theorem evaluateText_absent :
    evaluateText surroundings ("None:%(" ++ path ++ ")s") =
      .settled (.ok (Json.isMissing (surroundings.parameters.lookup? path))) := by
  have written : "None:%(" ++ path ++ ")s" = "None" ++ ":" ++ ("%(" ++ path ++ ")s") := by
    simp [← String.toList_inj]
  have read : ofText ("None:%(" ++ path ++ ")s") = .absent path := by
    rw [written, ofText_keyed _ (by decide) (by rintro first ⟨⟩; decide), ofKey, if_pos rfl,
      Text.stripPlaceholder_placeholder]
  rw [evaluateText, read]
  rfl

theorem evaluateText_present :
    evaluateText surroundings ("not null:%(" ++ path ++ ")s") =
      .settled (.ok (!Json.isMissing (surroundings.parameters.lookup? path))) := by
  have written : "not null:%(" ++ path ++ ")s" = "not null" ++ ":" ++ ("%(" ++ path ++ ")s") := by
    simp [← String.toList_inj]
  have read : ofText ("not null:%(" ++ path ++ ")s") = .present path := by
    rw [written, ofText_keyed _ (by decide) (by rintro first ⟨⟩; decide), ofKey,
      if_neg (by decide), if_pos rfl, Text.stripPlaceholder_placeholder]
  rw [evaluateText, read]
  rfl

end Leaf

namespace Json

variable {parameters : Json} {path : String}

theorem fill_of_isMissing (valid : Text.IsPath path.toList)
    (missing : isMissing (parameters.lookup? path) = true) :
    parameters.fill ("%(" ++ path ++ ")s") = "%(" ++ path ++ ")s" := by
  rw [fill, Text.substitute_placeholder_eq _ valid, parameterText?_eq_none missing,
    Option.getD_none]

theorem fill_of_lookup? (valid : Text.IsPath path.toList) {value : Json}
    (found : parameters.lookup? path = some value) (given : value ≠ .null) :
    parameters.fill ("%(" ++ path ++ ")s") = value.plainText := by
  rw [fill, Text.substitute_placeholder_eq _ valid, parameterText?_eq_some found given,
    Option.getD_some]

end Json

/-! ## Reports -/

/-- A report divides the required paths: all lists are strictly sorted, no path is in both parts, and
the parts have the required paths and no others. -/
structure ParameterReport.Divides (report : ParameterReport) : Prop where
  /-- The required paths are sorted by their bytes. -/
  required_sorted : report.required.Pairwise fun first second =>
    Text.bytes first < Text.bytes second
  /-- So are the provided ones. -/
  provided_sorted : report.provided.Pairwise fun first second =>
    Text.bytes first < Text.bytes second
  /-- So are the missing ones. -/
  missing_sorted : report.missing.Pairwise fun first second =>
    Text.bytes first < Text.bytes second
  /-- No provided path is missing. -/
  disjoint : report.provided.Disjoint report.missing
  /-- The required paths are the provided and the missing ones. -/
  covers : ∀ path, path ∈ report.required ↔ path ∈ report.provided ∨ path ∈ report.missing

/-- The remote check of an engine never fails for missing parameters itself. -/
def Engine.RemoteNeverMissing (engine : Engine) : Prop :=
  ∀ check, engine.options.remoteCheck? = some check → ∀ address identity parameters name missing,
    check address identity parameters ≠ .error (.missingParameters name missing)

namespace Engine

variable {engine : Engine} {rule path : String} {merged parameters : Json}

theorem divides_reportMerged (engine : Engine) (rule : String) (merged : Json) :
    (engine.reportMerged rule merged).Divides where
  required_sorted := engine.pairwise_bytes_requiredExcluding rule []
  provided_sorted := (engine.pairwise_bytes_requiredExcluding rule []).filter _
  missing_sorted := (engine.pairwise_bytes_requiredExcluding rule []).filter _
  disjoint path provided missing := by
    rw [mem_provided_iff] at provided
    rw [mem_missing_iff, provided.2] at missing
    cases missing.2
  covers path := by
    rw [mem_provided_iff, mem_missing_iff, ← and_or_left]
    cases Json.isMissing (merged.lookup? path) <;> simp [reportMerged]

/-- A required path has a value unless the report lists it as missing. -/
theorem isMissing_eq_decide (member : path ∈ engine.required rule) :
    Json.isMissing (merged.lookup? path) =
      decide (path ∈ (engine.reportMerged rule merged).missing) := by
  rw [Bool.eq_iff_iff, decide_eq_true_iff, mem_missing_iff, and_iff_right member]

/-- Required paths can stand in placeholders, because they were found there. -/
theorem isPath_of_mem_required (member : path ∈ engine.required rule) :
    Text.IsPath path.toList := by
  obtain ⟨reached, resolved, compiled, -, resolves, listed⟩ := mem_required_iff.1 member
  obtain ⟨derivation, rfl⟩ := exists_derivation_of_mem_rules (mem_rules_of_resolve? resolves)
  obtain ⟨text, -, occurs⟩ := derivation.mem_parameters_tree.1 (Names.mem_sorted.1 listed)
  exact occurs.1

theorem validate_eq_error_iff {error : PolicyError} : engine.validate rule parameters = .error error ↔
    ∃ missing, engine.missing? rule (engine.mergedParameters parameters) = some missing ∧
      error = .missingParameters rule missing := by
  rw [validate]
  cases engine.missing? rule (engine.mergedParameters parameters) with
  | none => simp
  | some missing => simp [eq_comm]

theorem validate_eq_ite (engine : Engine) (rule : String) (parameters : Json) :
    engine.validate rule parameters =
      if (engine.report rule parameters).missing = [] then .ok ()
      else .error (.missingParameters rule (engine.report rule parameters).missing) := by
  rw [validate, missing?_eq_ite, report]
  by_cases complete : (engine.reportMerged rule (engine.mergedParameters parameters)).missing = []
  · rw [if_pos complete, if_pos complete]
  · rw [if_neg complete, if_neg complete]

end Engine

namespace Session

variable {session : Session} {rule : String} {parameters : Json}

/-- A check that insists on parameters fails for missing ones just as their validation does. -/
theorem answer_eq_missing_iff (strict : session.engine.options.strict = true)
    (never : session.engine.RemoteNeverMissing) {name : String} {missing : List String} :
    (session.check rule parameters).answer = .error (.missingParameters name missing) ↔
      session.engine.validate rule parameters = .error (.missingParameters name missing) := by
  rw [Engine.validate_eq_error_iff]
  constructor
  · intro fails
    rcases missing_or_cause fails with ⟨-, lacking, incomplete, same⟩ | cause
    · exact ⟨lacking, incomplete, same⟩
    · cases cause with
      | remote supplied _ fails => exact absurd fails (never _ supplied _ _ _ _ _)
  · rintro ⟨lacking, incomplete, ⟨⟩⟩
    simp [check, run, strict, incomplete]

end Session

/-- Whoever decides whether a required parameter is missing decides as the report does. The report
divides the required paths. A leaf that tests for a required parameter is decided by whether its path
is listed as missing; a placeholder stays in place if it is, and gives way to the plain text of the
value if not. Validation fails exactly if a path is missing, with all that are, and where parameters
are insisted on, a check fails for missing parameters exactly if validation does, and alike. -/
theorem Engine.report_agrees (engine : Engine) (rule : String) (parameters : Json) :
    let merged := engine.mergedParameters parameters
    let report := engine.report rule parameters
    report.required = engine.required rule ∧ report.Divides ∧
    (∀ path ∈ report.required, ∀ {Event : Type} (surroundings : Surroundings Event),
      surroundings.parameters = merged →
        Leaf.evaluateText surroundings ("None:%(" ++ path ++ ")s") =
          .settled (.ok (decide (path ∈ report.missing))) ∧
        Leaf.evaluateText surroundings ("not null:%(" ++ path ++ ")s") =
          .settled (.ok (decide (path ∉ report.missing)))) ∧
    (∀ path ∈ report.missing, merged.fill ("%(" ++ path ++ ")s") = "%(" ++ path ++ ")s") ∧
    (∀ path ∈ report.provided, ∃ value, merged.lookup? path = some value ∧ value ≠ .null ∧
      merged.fill ("%(" ++ path ++ ")s") = value.plainText) ∧
    (engine.validate rule parameters =
      if report.missing = [] then .ok () else .error (.missingParameters rule report.missing)) ∧
    (engine.options.strict = true → engine.RemoteNeverMissing →
      ∀ identity options name missing,
        ((engine.session identity options).check rule parameters).answer =
            .error (.missingParameters name missing) ↔
          engine.validate rule parameters = .error (.missingParameters name missing)) := by
  intro merged report
  refine ⟨rfl, divides_reportMerged engine rule merged, ?_, ?_, ?_,
    validate_eq_ite engine rule parameters, ?_⟩
  · rintro path member Event surroundings given
    have same : Json.isMissing (surroundings.parameters.lookup? path) =
        decide (path ∈ report.missing) := by
      rw [given]
      exact isMissing_eq_decide member
    rw [Leaf.evaluateText_absent, Leaf.evaluateText_present, same, decide_not]
    exact ⟨rfl, rfl⟩
  · intro path member
    obtain ⟨required, missing⟩ := mem_missing_iff.1 member
    exact Json.fill_of_isMissing (isPath_of_mem_required required) missing
  · intro path member
    obtain ⟨required, present⟩ := mem_provided_iff.1 member
    obtain ⟨value, found, given⟩ := Json.not_isMissing_iff.1 present
    exact ⟨value, found, given, Json.fill_of_lookup? (isPath_of_mem_required required) found given⟩
  · intro strict never identity options name missing
    exact Session.answer_eq_missing_iff strict never

/-- The derivation of a rule that asks for a role and a user which parameters name. -/
def parameterRule : Derivation .disjunction :=
  .lastDisjunct (.conjoined (.plain (.expression "role:%(r)s")) (.operator "and")
    (.lastConjunct (.plain (.expression "user_id:%(a.b)s"))) rfl)

/-- A strict engine with that rule, which refuses every remote address. -/
def parameterEngine : Engine where
  configuration := ⟨[("p", "role:%(r)s and user_id:%(a.b)s")], by decide +kernel⟩
  rules := [("p", .ofTree parameterRule.tree)]
  compiled := by
    have derived : parameterRule.lexemes = Lexeme.ofText "role:%(r)s and user_id:%(a.b)s" := by
      decide +kernel
    refine Configuration.compile_eq_ok_iff.2 (.cons ?_ .nil)
    exact Configuration.compileRule_eq_ok_iff.2 ⟨rfl, parameterRule, derived, rfl⟩
  options := { strict := true, remoteCheck? := some fun _ _ _ => .ok false }

/-- A call that gives one of the two parameters and has null on the way to the other. -/
def partialParameters : Json :=
  .object [("a", .null), ("r", .string "x")]

theorem Engine.report_agrees_partial :
    parameterEngine.report "p" partialParameters = ⟨"p", ["a.b", "r"], ["r"], ["a.b"]⟩ ∧
      (∀ surroundings : Surroundings Empty, surroundings.parameters = partialParameters →
        Leaf.evaluateText surroundings "None:%(a.b)s" = .settled (.ok true)) ∧
      partialParameters.fill "%(a.b)s" = "%(a.b)s" ∧
      partialParameters.fill "%(r)s" = "x" ∧
      parameterEngine.validate "p" partialParameters = .error (.missingParameters "p" ["a.b"]) ∧
      ∀ identity options,
        ((parameterEngine.session identity options).check "p" partialParameters).answer =
          .error (.missingParameters "p" ["a.b"]) := by
  have reported : parameterEngine.report "p" partialParameters =
      ⟨"p", ["a.b", "r"], ["r"], ["a.b"]⟩ := by
    decide +kernel
  have merged : parameterEngine.mergedParameters partialParameters = partialParameters := by
    decide +kernel
  have never : parameterEngine.RemoteNeverMissing := by
    rintro check ⟨⟩ address identity parameters name missing
    nofun
  obtain ⟨-, -, readers, kept, filled, validated, checked⟩ :=
    report_agrees parameterEngine "p" partialParameters
  rw [reported] at readers kept filled validated
  rw [merged] at readers kept filled
  have absent : ∀ surroundings : Surroundings Empty, surroundings.parameters = partialParameters →
      Leaf.evaluateText surroundings "None:%(a.b)s" = .settled (.ok true) := by
    intro surroundings given
    exact (readers "a.b" (by simp) surroundings given).1
  obtain ⟨value, found, -, put⟩ := filled "r" (by simp)
  cases found
  exact ⟨reported, absent, kept "a.b" (by simp), put, validated, fun identity options =>
    (checked rfl never identity options _ _).2 validated⟩

end AccessPolicy
