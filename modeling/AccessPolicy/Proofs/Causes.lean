import AccessPolicy.Engine.Session
import AccessPolicy.Proofs.Calls
import AccessPolicy.Proofs.Leaves
import AccessPolicy.Proofs.Rules

/-!
# Causes of errors

Deciding a rule fails for one of four causes: a called name that no rule is used for, a called name
that is active already, the remote check, or a visited leaf that has no meaning. Trees of an engine
lack no operand and names can always be decided, so no further fault arises. A check fails for the
same causes, or because parameters are missing that it insists on.
-/

namespace AccessPolicy

/-- The remote check of an engine fails only with errors that leave a check without a decision. -/
def Engine.RemoteFailsUndecided (engine : Engine) : Prop :=
  ∀ check, engine.options.remoteCheck? = some check → ∀ address identity parameters error,
    check address identity parameters = .error error → error.isEvaluationError = true

namespace Engine

variable {engine : Engine} {name : String}

/-- No rule is used for a name if neither the name nor the default rule is configured. -/
theorem hasRule_of_resolve?_eq_none (unresolved : engine.resolve? name = none) :
    engine.hasRule name = false ∧ engine.hasRule defaultRule = false := by
  unfold resolve? at unresolved
  split at unresolved
  next => cases unresolved
  next missing =>
    rw [Option.map_eq_none_iff] at unresolved
    simp [hasRule, missing, unresolved]

theorem ne_nil_of_missing?_eq_some {merged : Json} {missing : List String}
    (incomplete : engine.missing? name merged = some missing) : missing ≠ [] := by
  rw [missing?_eq_ite] at incomplete
  split at incomplete
  next => cases incomplete
  next lacks =>
    cases incomplete
    exact lacks

end Engine

namespace Inquiry

variable {inquiry : Inquiry} {rule name : String} {levels : Nat} {active : List String}
  {error : PolicyError}

/-- Why deciding a rule fails. -/
inductive Cause (inquiry : Inquiry) (rule : String) : PolicyError → Prop
  /-- A called name is not configured, and the default rule is not either. -/
  | unknown {levels : Nat} {active : List String} {name : String}
      (called : inquiry.Calls rule (levels + 1) active name) (fresh : name ∉ active)
      (missing : inquiry.engine.hasRule name = false)
      (no_default : inquiry.engine.hasRule defaultRule = false) :
      inquiry.Cause rule (.unknownRule name)
  /-- A called name is active already. -/
  | cyclic {levels : Nat} {active : List String} {name : String}
      (called : inquiry.Calls rule levels active name) (old : name ∈ active) :
      inquiry.Cause rule (.cyclicRule (active ++ [name]))
  /-- The remote check fails at an address that it is asked for. -/
  | remote {check : RemoteCheck} {address : String} {error : PolicyError}
      (supplied : inquiry.engine.options.remoteCheck? = some check)
      (asked : .remoteAsked address ∈ (inquiry.run rule).events)
      (fails : check address inquiry.identity inquiry.parameters = .error error) :
      inquiry.Cause rule error
  /-- A visited leaf of a called name has no colon and is no constant. -/
  | malformed {levels : Nat} {active : List String} {name resolved text : String}
      {compiled : CompiledRule} (called : inquiry.Calls rule (levels + 1) active name)
      (fresh : name ∉ active)
      (resolves : inquiry.engine.resolve? name = some (resolved, compiled))
      (visits : text ∈ compiled.tree.visited (inquiry.leafRun levels active name))
      (no_colon : ':' ∉ text.toList) (no_constant : text ∉ Leaf.constants) :
      inquiry.Cause rule (.evaluation (.malformedLeaf text))

/-- A call that fails has one of the causes. -/
theorem Calls.cause (called : inquiry.Calls rule levels active name)
    (fails : (inquiry.decide levels active name).decision = .error error) :
    inquiry.Cause rule error := by
  induction called using Calls.run_induction with
  | old levels active name called old =>
    rw [decide_of_mem _ old] at fails
    cases fails
    exact .cyclic called old
  | unresolved levels active name called fresh unresolved =>
    rw [decide_of_unresolved levels fresh unresolved] at fails
    cases fails
    obtain ⟨missing, no_default⟩ := Engine.hasRule_of_resolve?_eq_none unresolved
    exact .unknown called fresh missing no_default
  | resolved levels active name called fresh resolved compiled resolves induction =>
    rw [decision_of_resolved levels fresh resolves] at fails
    have complete : compiled.tree.Complete :=
      Engine.complete_tree_of_mem_rules (Engine.mem_rules_of_resolve? resolves)
    rcases Node.exists_visited_of_error fails with ⟨text, visits, inner⟩ | ⟨lacks, -⟩
    · by_cases refers : ∃ value, Leaf.ofText text = .rule value
      · obtain ⟨value, refers⟩ := refers
        rw [leafRun_of_rule _ _ _ refers] at inner
        exact induction text value visits refers inner
      · rcases leafRun_of_ruleless levels active name (not_exists.1 refers) with
          ⟨check, address, supplied, run⟩ | ⟨decision, run, settled⟩
        · rw [run] at inner
          refine .remote supplied (called.events_subset ?_) inner
          refine (mem_events_of_resolved levels fresh resolves).2 ?_
          exact Or.inr (Or.inr (Or.inl ⟨text, visits, run ▸ List.mem_cons_self⟩))
        · rw [run] at inner
          obtain ⟨other, read, rfl⟩ := settled error inner
          obtain ⟨rfl, no_colon, no_constant⟩ := Leaf.eq_of_ofText_eq_malformed read
          exact .malformed called fresh resolves visits no_colon no_constant
    · exact absurd complete lacks

/-- The causes leave a check without a decision, if the remote check fails in no other way. -/
theorem Cause.isEvaluationError (cause : inquiry.Cause rule error)
    (undecided : inquiry.engine.RemoteFailsUndecided) : error.isEvaluationError = true := by
  cases cause with
  | unknown | cyclic | malformed => rfl
  | remote supplied _ fails => exact undecided _ supplied _ _ _ _ fails

end Inquiry

namespace Session

variable {session : Session} {rule : String} {parameters : Json} {error : PolicyError}

/-- What a session asks of its engine: the parameters of the call stand above the default ones. -/
def inquiry (session : Session) (parameters : Json) : Inquiry where
  engine := session.engine
  identity := session.identity
  parameters := session.engine.mergedParameters parameters

/-- A check misses parameters that it insists on, or decides its rule. -/
theorem run_cases (session : Session) (rule : String) (parameters : Json) :
    (session.engine.options.strict = true ∧ ∃ missing,
      session.engine.missing? rule (session.engine.mergedParameters parameters) = some missing ∧
        session.run rule parameters =
          ⟨[.parametersMissing rule missing], .error (.missingParameters rule missing)⟩) ∨
    (¬(session.engine.options.strict = true ∧
        (session.engine.missing? rule (session.engine.mergedParameters parameters)).isSome) ∧
      session.run rule parameters = (session.inquiry parameters).run rule) := by
  by_cases strict : session.engine.options.strict = true
  · cases known : session.engine.missing? rule (session.engine.mergedParameters parameters) with
    | none => exact Or.inr ⟨by simp, by simp [run, strict, known, inquiry]⟩
    | some missing => exact Or.inl ⟨strict, missing, rfl, by simp [run, strict, known]⟩
  · exact Or.inr ⟨fun refuses => strict refuses.1, by simp [run, strict, inquiry]⟩

/-- A check that answers misses no parameter that it insists on, and decides its rule. -/
theorem run_of_answer_eq_ok {value : Bool}
    (answers : (session.check rule parameters).answer = .ok value) :
    ¬(session.engine.options.strict = true ∧
        (session.engine.missing? rule (session.engine.mergedParameters parameters)).isSome) ∧
      session.run rule parameters = (session.inquiry parameters).run rule := by
  rcases session.run_cases rule parameters with ⟨-, missing, -, refused⟩ | decides
  · have decided : (session.run rule parameters).decision = .ok value := answers
    rw [refused] at decided
    cases decided
  · exact decides

/-- A check that fails misses parameters that it insists on, or deciding its rule fails. -/
theorem missing_or_cause (fails : (session.check rule parameters).answer = .error error) :
    (session.engine.options.strict = true ∧ ∃ missing,
      session.engine.missing? rule (session.engine.mergedParameters parameters) = some missing ∧
        error = .missingParameters rule missing) ∨
    (session.inquiry parameters).Cause rule error := by
  have decided : (session.run rule parameters).decision = .error error := fails
  rcases session.run_cases rule parameters with
    ⟨strict, missing, incomplete, run_eq⟩ | ⟨-, run_eq⟩
  · rw [run_eq] at decided
    cases decided
    exact Or.inl ⟨strict, missing, incomplete, rfl⟩
  · rw [run_eq] at decided
    exact Or.inr (Inquiry.Calls.checked.cause decided)

/-- A check fails only with an error that leaves it without a decision: parameters are missing that
it insists on, or deciding its rule fails for one of the causes. An evaluation error other than that
of a leaf without meaning, such as a missing operand or no way to decide names, is the remote
check's own. -/
theorem check_error_has_cause (session : Session) (rule : String) (parameters : Json)
    (undecided : session.engine.RemoteFailsUndecided) {error : PolicyError}
    (fails : (session.check rule parameters).answer = .error error) :
    error.isEvaluationError = true ∧
    ((session.engine.options.strict = true ∧
        ∃ missing, missing ≠ [] ∧ error = .missingParameters rule missing) ∨
      (session.inquiry parameters).Cause rule error) ∧
    ∀ fault, error = .evaluation fault → (∀ text, fault ≠ .malformedLeaf text) →
      ∃ check address, session.engine.options.remoteCheck? = some check ∧
        check address session.identity (session.engine.mergedParameters parameters) =
          .error error := by
  rcases missing_or_cause fails with ⟨strict, missing, incomplete, rfl⟩ | cause
  · have lacking := Engine.ne_nil_of_missing?_eq_some incomplete
    exact ⟨rfl, Or.inl ⟨strict, missing, lacking, rfl⟩, nofun⟩
  · refine ⟨cause.isEvaluationError undecided, Or.inr cause, ?_⟩
    rintro fault rfl meaningless
    cases cause with
    | remote supplied _ fails => exact ⟨_, _, supplied, fails⟩
    | malformed => exact absurd rfl (meaningless _)

/-- A session whose rule `a` refers to a rule `b` that is decided remotely, which fails. -/
def failingSession : Session where
  engine := {
    (Engine.ofConfiguration (.ofList [("a", "rule:b"), ("b", "http://c")]) {}).toOption.get
      (by decide +kernel) with
    options := { remoteCheck? := some fun _ _ _ => .error (.evaluation (.reported "down")) } }
  identity := ⟨{}⟩
  debug := false

theorem check_error_has_cause_remote :
    failingSession.engine.RemoteFailsUndecided ∧
      (failingSession.check "a" .null).answer = .error (.evaluation (.reported "down")) ∧
      ∃ check address, failingSession.engine.options.remoteCheck? = some check ∧
        check address failingSession.identity (failingSession.engine.mergedParameters .null) =
          .error (.evaluation (.reported "down")) := by
  have undecided : failingSession.engine.RemoteFailsUndecided := by
    rintro check ⟨⟩ address identity parameters error ⟨⟩
    rfl
  have fails : (failingSession.check "a" .null).answer =
      .error (.evaluation (.reported "down")) := by
    decide +kernel
  obtain ⟨-, -, own⟩ := check_error_has_cause failingSession "a" .null undecided fails
  exact ⟨undecided, fails, own _ rfl nofun⟩

end Session

end AccessPolicy
