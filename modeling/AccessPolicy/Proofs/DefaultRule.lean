import AccessPolicy.Proofs.Causes
import AccessPolicy.Proofs.CycleGuard
import AccessPolicy.Proofs.StrictParameters
import Mathlib.Data.List.Sort

/-!
# Names that are not configured

The default rule is used for a name that is not configured. The guard against cycles and the walk
along references mark names and not the rules that are used for them, so both may go around the
default rule once more for such a name than for the default rule itself. Still the name is decided
like the default rule, and it requires the same parameters.
-/

namespace AccessPolicy

namespace Engine

variable {engine : Engine} {name other path : String}

/-- Whatever is not configured resolves as the default rule does. -/
theorem resolve?_eq_of_not_hasRule (missing : engine.hasRule name = false) :
    engine.resolve? name = engine.resolve? defaultRule := by
  have absent : engine.rule? name = none := by
    simpa [hasRule] using missing
  simp only [resolve?, absent]
  cases engine.rule? defaultRule <;> rfl

theorem isSome_resolve? (configured : engine.hasRule name = true) :
    (engine.resolve? name).isSome := by
  obtain ⟨rule, found⟩ := Option.isSome_iff_exists.1 configured
  simp only [resolve?, found, Option.isSome_some]

/-! ## Required parameters -/

theorem mem_required_of_resolve?_eq (same : engine.resolve? name = engine.resolve? other)
    (listed : path ∈ engine.required name) : path ∈ engine.required other := by
  obtain ⟨reached, resolved, rule, leads, resolves, brings⟩ := mem_required_iff.1 listed
  apply mem_required_iff.2
  rcases leads.cases_head with rfl | ⟨next, ⟨first, used, found, refers⟩, further⟩
  · exact ⟨other, resolved, rule, .refl, same ▸ resolves, brings⟩
  · have step : engine.Refers other next := ⟨first, used, same ▸ found, refers⟩
    exact ⟨reached, resolved, rule, further.head step, resolves, brings⟩

/-- Names that resolve to one rule require the same parameters. -/
theorem required_eq_of_resolve?_eq (same : engine.resolve? name = engine.resolve? other) :
    engine.required name = engine.required other := by
  apply (engine.pairwise_requiredExcluding name []).eq_of_mem_iff
    (engine.pairwise_requiredExcluding other [])
  exact fun path => ⟨mem_required_of_resolve?_eq same, mem_required_of_resolve?_eq same.symm⟩

/-- Names that resolve to one rule miss the same parameters. -/
theorem missing?_eq_of_resolve?_eq (same : engine.resolve? name = engine.resolve? other)
    (merged : Json) : engine.missing? name merged = engine.missing? other merged := by
  have same_missing : (engine.reportMerged name merged).missing =
      (engine.reportMerged other merged).missing := by
    simp only [reportMerged, required_eq_of_resolve?_eq same]
  rw [missing?_eq_ite, missing?_eq_ite, same_missing]

end Engine

/-! ## Decisions -/

/-- Two decisions that differ at most in the names that a cycle is told with, and in the rule that
parameters are missing for. -/
inductive EqualButNames : Decision → Decision → Prop
  /-- The decisions are the same. -/
  | same (decision : Decision) : EqualButNames decision decision
  /-- Both meet a cycle. -/
  | cyclic (chain other : List String) :
    EqualButNames (.error (.cyclicRule chain)) (.error (.cyclicRule other))
  /-- Both miss the same parameters. -/
  | missing (rule other : String) (paths : List String) :
    EqualButNames (.error (.missingParameters rule paths)) (.error (.missingParameters other paths))

namespace Inquiry

variable {inquiry : Inquiry} {name other : String} {decision : Decision}

/-- Names that resolve to one rule are evaluated alike without a guard. -/
theorem unguarded_eq_of_resolve?_eq
    (same : inquiry.engine.resolve? name = inquiry.engine.resolve? other)
    (resolves : (inquiry.engine.resolve? name).isSome) (fuel : Nat) :
    inquiry.unguarded fuel name = inquiry.unguarded fuel other := by
  obtain ⟨⟨resolved, rule⟩, found⟩ := Option.isSome_iff_exists.1 resolves
  cases fuel with
  | zero => rfl
  | succ fuel => simp only [unguarded, ← same, found]

/-- Names that resolve to one rule are decided alike, but for the names that a cycle is told with. -/
theorem equalButNames_run_of_resolve?_eq (acyclic : inquiry.engine.RemoteNeverCyclic)
    (same : inquiry.engine.resolve? name = inquiry.engine.resolve? other)
    (resolves : (inquiry.engine.resolve? name).isSome) :
    EqualButNames (inquiry.run name).decision (inquiry.run other).decision := by
  have mirrors : inquiry.Mirrors (inquiry.run name).decision name := Calls.checked.mirrors acyclic
  have other_mirrors : inquiry.Mirrors (inquiry.run other).decision other :=
    Calls.checked.mirrors acyclic
  have moved : inquiry.Mirrors (inquiry.run name).decision other := by
    simpa only [Mirrors, unguarded_eq_of_resolve?_eq same resolves] using mirrors
  obtain ⟨both, settled⟩ := moved.agree other_mirrors
  by_cases cyclic : IsCyclic (inquiry.run other).decision
  · obtain ⟨chain, first⟩ := both.2 cyclic
    obtain ⟨repeated, second⟩ := cyclic
    rw [first, second]
    exact .cyclic chain repeated
  · rw [settled cyclic]
    exact .same _

end Inquiry

namespace Session

/-- A name that is not configured is checked like the default rule and requires what that rule
requires. Only the names that a cycle is told with and the rule that parameters are missing for may
differ. -/
theorem check_unconfigured_like_default (session : Session) {name : String} (parameters : Json)
    (acyclic : session.engine.RemoteNeverCyclic)
    (configured : session.engine.hasRule defaultRule = true)
    (missing : session.engine.hasRule name = false) :
    EqualButNames (session.check name parameters).answer
        (session.check defaultRule parameters).answer ∧
      session.engine.required name = session.engine.required defaultRule := by
  have same := Engine.resolve?_eq_of_not_hasRule missing
  have resolves : (session.engine.resolve? name).isSome :=
    same ▸ Engine.isSome_resolve? configured
  refine ⟨?_, Engine.required_eq_of_resolve?_eq same⟩
  show EqualButNames (session.run name parameters).decision
    (session.run defaultRule parameters).decision
  have lacking := Engine.missing?_eq_of_resolve?_eq same
    (session.engine.mergedParameters parameters)
  simp only [run, lacking]
  generalize (if session.engine.options.strict then
    session.engine.missing? defaultRule (session.engine.mergedParameters parameters) else none) =
      refused
  cases refused with
  | none => exact Inquiry.equalButNames_run_of_resolve?_eq acyclic same resolves
  | some paths => exact .missing name defaultRule paths

/-- A strict session whose default rule refers to the name that a parameter gives. -/
def circlingSession : Session where
  engine := {
    (Engine.ofConfiguration (.ofList [("_default", "rule:%(r)s")]) {}).toOption.get
      (by decide +kernel) with
    options := { strict := true } }
  identity := ⟨{}⟩
  debug := false

/-- The default rule is entered once more for a name that is not configured than for itself. -/
theorem check_unconfigured_like_default_circling :
    circlingSession.engine.RemoteNeverCyclic ∧
      (circlingSession.check "a" (.object [("r", .string "b")])).answer =
        .error (.cyclicRule ["a", "b", "b"]) ∧
      (circlingSession.check defaultRule (.object [("r", .string "b")])).answer =
        .error (.cyclicRule ["_default", "b", "b"]) ∧
      EqualButNames (circlingSession.check "a" (.object [("r", .string "b")])).answer
        (circlingSession.check defaultRule (.object [("r", .string "b")])).answer ∧
      EqualButNames (circlingSession.check "a" (.object [])).answer
        (circlingSession.check defaultRule (.object [])).answer ∧
      circlingSession.engine.required "a" = ["r"] ∧
      circlingSession.engine.required "a" = circlingSession.engine.required defaultRule := by
  have acyclic : circlingSession.engine.RemoteNeverCyclic := by
    rintro check ⟨⟩
  have configured : circlingSession.engine.hasRule defaultRule = true := by decide +kernel
  have missing : circlingSession.engine.hasRule "a" = false := by decide +kernel
  obtain ⟨given, required⟩ := check_unconfigured_like_default circlingSession
    (.object [("r", .string "b")]) acyclic configured missing
  obtain ⟨lacking, -⟩ := check_unconfigured_like_default circlingSession
    (.object []) acyclic configured missing
  exact ⟨acyclic, by decide +kernel, by decide +kernel, given, lacking, by decide +kernel, required⟩

end Session

end AccessPolicy
