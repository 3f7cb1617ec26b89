import AccessPolicy.Proofs.Calls
import AccessPolicy.Proofs.PartialEvaluation
import AccessPolicy.Proofs.Rules
import Mathlib.Tactic.ByContra

/-!
# The cycle guard

Names can be decided without looking for cycles if the recursion is bounded by fuel instead. A run
that meets no cycle decides like that evaluation. A run that meets one does so at a name that needs
its own decision, and no fuel is enough for such a name. So the guard changes no decision.
-/

namespace AccessPolicy

/-- Whether a decision is that a rule refers back to itself. -/
def IsCyclic (decision : Decision) : Prop := ∃ chain, decision = .error (.cyclicRule chain)

/-- The remote check of an engine never reports a cycle itself. -/
def Engine.RemoteNeverCyclic (engine : Engine) : Prop :=
  ∀ check, engine.options.remoteCheck? = some check →
    ∀ address identity parameters, ¬IsCyclic (check address identity parameters)

namespace Inquiry

variable {inquiry : Inquiry} {rule name reference text : String} {levels fuel more : Nat}
  {active : List String} {answer? other? : String → Option Decision} {decision : Decision}

/-- What leaves may consult that refer to no rule. -/
def ruleless (inquiry : Inquiry) : Surroundings Happening :=
  { inquiry.surroundings inquiry.run with rule? := none }

/-- The answer to a leaf, given the answers to names. -/
def leafAnswer? (inquiry : Inquiry) (answer? : String → Option Decision) (text : String) :
    Option Decision :=
  match Leaf.ofText text with
  | .rule value => answer? (inquiry.parameters.fill value)
  | leaf => some (leaf.evaluate inquiry.ruleless).decision

/-- Decides a name without a guard against cycles. The fuel bounds the recursion; without enough of
it the name is left open. -/
def unguarded (inquiry : Inquiry) : Nat → String → Option Decision
  | 0, _ => none
  | fuel + 1, name =>
    match inquiry.engine.resolve? name with
    | none => some (.error (.unknownRule name))
    | some (_, rule) => rule.tree.evaluate? (inquiry.leafAnswer? (inquiry.unguarded fuel))

/-- A decision of a name is that of the evaluation without a guard, or is cyclic where that
evaluation never ends. -/
def Mirrors (inquiry : Inquiry) (decision : Decision) (name : String) : Prop :=
  (¬IsCyclic decision →
    ∃ enough, ∀ fuel, enough ≤ fuel → inquiry.unguarded fuel name = some decision) ∧
  (IsCyclic decision → ∀ fuel, inquiry.unguarded fuel name = none)

theorem isCyclic_cycle (active : List String) (name : String) :
    IsCyclic (cycle active name).decision := ⟨_, rfl⟩

/-! ## Answers to leaves -/

/-- A leaf that refers to no rule is decided without rules. -/
theorem leafRun_of_plain (levels : Nat) (active : List String) (name : String)
    (plain : ∀ value, Leaf.ofText text ≠ .rule value) :
    inquiry.leafRun levels active name text = (Leaf.ofText text).evaluate inquiry.ruleless := by
  rw [leafRun, Leaf.evaluateText]
  cases read : Leaf.ofText text with
  | rule value => exact absurd read (plain value)
  | _ => rfl

theorem leafAnswer?_of_rule {value : String} (refers : Leaf.ofText text = .rule value) :
    inquiry.leafAnswer? answer? text = answer? (inquiry.parameters.fill value) := by
  rw [leafAnswer?, refers]

/-- A leaf is answered as in a run if the name that it spells is. -/
theorem leafAnswer?_eq_decision (levels : Nat) (active : List String) (name : String)
    (agrees : ∀ value, Leaf.ofText text = .rule value →
      answer? (inquiry.parameters.fill value) = some
        (inquiry.decide levels (active ++ [name]) (inquiry.parameters.fill value)).decision) :
    inquiry.leafAnswer? answer? text = some (inquiry.leafRun levels active name text).decision := by
  cases read : Leaf.ofText text with
  | rule value =>
    rw [leafAnswer?_of_rule read, leafRun_of_rule _ _ _ read]
    exact agrees value read
  | _ => rw [leafAnswer?, leafRun, Leaf.evaluateText, read]; rfl

theorem leafAnswer?_mono
    (closes : ∀ name decision, answer? name = some decision → other? name = some decision)
    (answered : inquiry.leafAnswer? answer? text = some decision) :
    inquiry.leafAnswer? other? text = some decision := by
  unfold leafAnswer? at answered ⊢
  split at answered
  next value => exact closes _ _ answered
  next => exact answered

/-- A leaf that refers to no rule meets no cycle. -/
theorem not_isCyclic_of_ruleless (acyclic : inquiry.engine.RemoteNeverCyclic)
    (plain : ∀ value, Leaf.ofText text ≠ .rule value) :
    ¬IsCyclic (inquiry.leafRun levels active name text).decision := by
  rintro ⟨chain, cyclic⟩
  rcases leafRun_of_ruleless levels active name plain with
    ⟨check, address, supplied, run⟩ | ⟨decision, run, settled⟩
  · rw [run] at cyclic
    exact acyclic check supplied _ _ _ ⟨chain, cyclic⟩
  · rw [run] at cyclic
    obtain ⟨other, -, fault⟩ := settled _ cyclic
    cases fault

/-! ## Runs without a cycle -/

theorem unguarded_mono (decided : inquiry.unguarded fuel name = some decision)
    (enough : fuel ≤ more) : inquiry.unguarded more name = some decision := by
  induction fuel generalizing name decision more with
  | zero => cases decided
  | succ fuel induction =>
    obtain ⟨more, rfl⟩ := Nat.exists_eq_add_of_le' (Nat.lt_of_lt_of_le fuel.succ_pos enough)
    rw [unguarded] at decided ⊢
    split at decided
    next => exact decided
    next =>
      apply Node.evaluate?_mono _ decided
      intro text given answered
      refine leafAnswer?_mono ?_ answered
      intro other known reached
      exact induction reached (Nat.le_of_succ_le_succ enough)

/-- A run without a cycle decides as the evaluation without a guard does. -/
theorem unguarded_of_not_isCyclic (settled : ¬IsCyclic (inquiry.decide levels active name).decision)
    (enough : levels ≤ fuel) :
    inquiry.unguarded fuel name = some (inquiry.decide levels active name).decision := by
  induction levels generalizing active name fuel with
  | zero => exact absurd (isCyclic_cycle active name) settled
  | succ levels induction =>
    obtain ⟨fuel, rfl⟩ := Nat.exists_eq_add_of_le' (Nat.lt_of_lt_of_le levels.succ_pos enough)
    by_cases old : name ∈ active
    · rw [decide_of_mem _ old] at settled
      exact absurd (isCyclic_cycle active name) settled
    · cases resolves : inquiry.engine.resolve? name with
      | none =>
        rw [decide_of_unresolved levels old resolves]
        simp only [unguarded, resolves]
        rfl
      | some found =>
        rw [decision_of_resolved levels old resolves] at settled ⊢
        simp only [unguarded, resolves]
        apply Node.evaluate?_eq_decision
        intro text visits
        apply leafAnswer?_eq_decision
        intro value refers
        apply induction _ (Nat.le_of_succ_le_succ enough)
        -- A cycle below the leaf would be one of the whole tree.
        rintro ⟨chain, cyclic⟩
        refine settled ⟨chain, Node.decision_of_visited_error visits ?_⟩
        rw [leafRun_of_rule _ _ _ refers]
        exact cyclic

/-! ## Runs with a cycle -/

/-- A name demands another one if it stays open with one more unit of fuel than leaves the other
one open. -/
def Demands (inquiry : Inquiry) (name reference : String) : Prop :=
  ∀ fuel, inquiry.unguarded fuel reference = none → inquiry.unguarded (fuel + 1) name = none

theorem unguarded_eq_none_of_le (undecided : inquiry.unguarded more name = none)
    (le : fuel ≤ more) : inquiry.unguarded fuel name = none := by
  cases decided : inquiry.unguarded fuel name with
  | none => rfl
  | some decision =>
    rw [unguarded_mono decided le] at undecided
    cases undecided

theorem unguarded_eq_none_of_transGen
    (demands : Relation.TransGen inquiry.Demands name reference)
    (undecided : inquiry.unguarded fuel reference = none) :
    inquiry.unguarded (fuel + 1) name = none := by
  induction demands with
  | single step => exact step fuel undecided
  | tail _ step induction =>
    exact induction (unguarded_eq_none_of_le (step fuel undecided) (Nat.le_succ fuel))

/-- No fuel is enough for a name that demands itself. -/
theorem unguarded_eq_none_of_demands_self (demands : Relation.TransGen inquiry.Demands name name)
    (fuel : Nat) : inquiry.unguarded fuel name = none := by
  induction fuel with
  | zero => rfl
  | succ fuel induction => exact unguarded_eq_none_of_transGen demands induction

/-- A name demands the names that its visited leaves spell. -/
theorem demands_of_visited {resolved value : String} {compiled : CompiledRule}
    (resolves : inquiry.engine.resolve? name = some (resolved, compiled))
    (visits : text ∈ compiled.tree.visited (inquiry.leafRun levels active name))
    (refers : Leaf.ofText text = .rule value) :
    inquiry.Demands name (inquiry.parameters.fill value) := by
  intro fuel undecided
  simp only [unguarded, resolves]
  apply Node.evaluate?_eq_none visits
  · rw [leafAnswer?_of_rule refers, undecided]
  · intro other _ truth holds given answered
    -- With fuel for both evaluations the leaf has one answer.
    have kept := leafAnswer?_mono
      (fun _ _ known => unguarded_mono known (Nat.le_max_right levels fuel)) answered
    have reached : inquiry.leafAnswer? (inquiry.unguarded (max levels fuel)) other =
        some (inquiry.leafRun levels active name other).decision := by
      apply leafAnswer?_eq_decision
      intro value refers
      apply unguarded_of_not_isCyclic _ (Nat.le_max_left levels fuel)
      rintro ⟨chain, cyclic⟩
      rw [leafRun_of_rule _ _ _ refers, referenceRun, Run.decision_enclosed, cyclic] at holds
      cases holds
    rw [kept, holds] at reached
    exact Option.some.inj reached

/-- The names above a call demand the called name. -/
theorem Calls.demands (called : inquiry.Calls rule levels active name) :
    ∀ above ∈ active, Relation.TransGen inquiry.Demands above name := by
  induction called with
  | checked => exact fun _ member => absurd member List.not_mem_nil
  | nested caller fresh resolves visits refers induction =>
    have demands := demands_of_visited resolves visits refers
    intro above member
    rcases List.mem_append.1 member with old | last
    · exact (induction above old).tail demands
    · rw [List.mem_singleton.1 last]
      exact .single demands

/-- A fresh name meets a cycle only in a name that one of its visited leaves spells. -/
theorem exists_cyclic_reference (acyclic : inquiry.engine.RemoteNeverCyclic) (fresh : name ∉ active)
    {resolved : String} {compiled : CompiledRule}
    (resolves : inquiry.engine.resolve? name = some (resolved, compiled))
    (cyclic : IsCyclic (inquiry.decide (levels + 1) active name).decision) :
    ∃ text ∈ compiled.tree.visited (inquiry.leafRun levels active name), ∃ value,
      Leaf.ofText text = .rule value ∧
        IsCyclic
          (inquiry.decide levels (active ++ [name]) (inquiry.parameters.fill value)).decision := by
  obtain ⟨chain, cyclic⟩ := cyclic
  rw [decision_of_resolved levels fresh resolves] at cyclic
  rcases Node.exists_visited_of_error cyclic with ⟨text, visits, inner⟩ | ⟨-, joint, fault⟩
  · by_cases refers : ∃ value, Leaf.ofText text = .rule value
    · obtain ⟨value, refers⟩ := refers
      rw [leafRun_of_rule _ _ _ refers] at inner
      exact ⟨text, visits, value, refers, chain, inner⟩
    · exact absurd ⟨chain, inner⟩ (not_isCyclic_of_ruleless acyclic (not_exists.1 refers))
  · rcases fault with fault | fault
    · cases fault
    · cases fault

/-- No fuel is enough for a call that meets a cycle. -/
theorem Calls.unguarded_eq_none (acyclic : inquiry.engine.RemoteNeverCyclic)
    (called : inquiry.Calls rule levels active name)
    (cyclic : IsCyclic (inquiry.decide levels active name).decision) (fuel : Nat) :
    inquiry.unguarded fuel name = none := by
  induction levels generalizing active name fuel with
  | zero => exact unguarded_eq_none_of_demands_self (called.demands name called.mem_active) fuel
  | succ levels induction =>
    by_cases old : name ∈ active
    · exact unguarded_eq_none_of_demands_self (called.demands name old) fuel
    · cases resolves : inquiry.engine.resolve? name with
      | none =>
        rw [decide_of_unresolved levels old resolves] at cyclic
        obtain ⟨chain, unknown⟩ := cyclic
        cases unknown
      | some found =>
        obtain ⟨text, visits, value, refers, inner⟩ :=
          exists_cyclic_reference acyclic old resolves cyclic
        have undecided := induction (called.nested old resolves visits refers) inner
        cases fuel with
        | zero => rfl
        | succ fuel => exact demands_of_visited resolves visits refers fuel (undecided fuel)

theorem Calls.mirrors (acyclic : inquiry.engine.RemoteNeverCyclic)
    (called : inquiry.Calls rule levels active name) :
    inquiry.Mirrors (inquiry.decide levels active name).decision name :=
  ⟨fun settled => ⟨levels, fun _ enough => unguarded_of_not_isCyclic settled enough⟩,
    fun cyclic => called.unguarded_eq_none acyclic cyclic⟩

/-- Two decisions that mirror the evaluation without a guard are the same, but for the names that a
cycle is told with. -/
theorem Mirrors.agree {other : Decision} (mirrors : inquiry.Mirrors decision name)
    (other_mirrors : inquiry.Mirrors other name) :
    (IsCyclic decision ↔ IsCyclic other) ∧ (¬IsCyclic other → decision = other) := by
  by_cases cyclic : IsCyclic decision
  · have open_always := mirrors.2 cyclic
    have other_cyclic : IsCyclic other := by
      by_contra settled
      obtain ⟨enough, reached⟩ := other_mirrors.1 settled
      have decided := reached enough (Nat.le_refl enough)
      rw [open_always enough] at decided
      cases decided
    exact ⟨iff_of_true cyclic other_cyclic, fun settled => absurd other_cyclic settled⟩
  · obtain ⟨enough, reached⟩ := mirrors.1 cyclic
    have other_settled : ¬IsCyclic other := by
      intro other_cyclic
      have decided := reached enough (Nat.le_refl enough)
      rw [other_mirrors.2 other_cyclic enough] at decided
      cases decided
    refine ⟨iff_of_false cyclic other_settled, fun _ => ?_⟩
    obtain ⟨other_enough, other_reached⟩ := other_mirrors.1 other_settled
    have decided := reached _ (Nat.le_max_left enough other_enough)
    rw [other_reached _ (Nat.le_max_right enough other_enough)] at decided
    exact (Option.some.inj decided).symm

/-- The guard changes no decision: a rule, and every name that its run calls below any active names,
is decided as the evaluation without a guard decides it, and is cyclic exactly where that evaluation
never ends. So a called name is decided as if it were checked itself. -/
theorem guarded_decision_eq_unguarded (inquiry : Inquiry) (rule : String)
    (acyclic : inquiry.engine.RemoteNeverCyclic) :
    inquiry.Mirrors (inquiry.run rule).decision rule ∧
    ∀ levels active name, inquiry.Calls rule levels active name →
      inquiry.Mirrors (inquiry.decide levels active name).decision name ∧
      (IsCyclic (inquiry.decide levels active name).decision ↔
        IsCyclic (inquiry.run name).decision) ∧
      (¬IsCyclic (inquiry.run name).decision →
        (inquiry.decide levels active name).decision = (inquiry.run name).decision) := by
  have checked (name : String) : inquiry.Mirrors (inquiry.run name).decision name :=
    Calls.checked.mirrors acyclic
  refine ⟨checked rule, ?_⟩
  intro levels active name called
  have mirrors := called.mirrors acyclic
  exact ⟨mirrors, mirrors.agree (checked name)⟩

/-- The derivation of a rule that refers to a rule `b` and then to a rule `a`. -/
def loopingRule : Derivation .disjunction :=
  .disjoined (.lastConjunct (.plain (.expression "rule:b"))) (.operator "or")
    (.lastDisjunct (.lastConjunct (.plain (.expression "rule:a")))) rfl

/-- The derivation of a rule that is decided remotely. -/
def remoteRule : Derivation .disjunction :=
  .lastDisjunct (.lastConjunct (.plain (.expression "http://b")))

/-- A rule `a` that refers back to itself where the rule `b` denies. -/
def loopingInquiry : Inquiry where
  engine := {
    configuration := ⟨[("a", "rule:b or rule:a"), ("b", "http://b")], by decide +kernel⟩
    rules := [("a", .ofTree loopingRule.tree), ("b", .ofTree remoteRule.tree)]
    compiled := by
      have first : loopingRule.lexemes = Lexeme.ofText "rule:b or rule:a" := by decide +kernel
      have second : remoteRule.lexemes = Lexeme.ofText "http://b" := by decide +kernel
      refine Configuration.compile_eq_ok_iff.2 (.cons ?_ (.cons ?_ .nil))
      · exact Configuration.compileRule_eq_ok_iff.2 ⟨rfl, loopingRule, first, rfl⟩
      · exact Configuration.compileRule_eq_ok_iff.2 ⟨rfl, remoteRule, second, rfl⟩
    options := { remoteCheck? := some fun _ _ _ => .ok false } }
  identity := ⟨{}⟩
  parameters := .null

theorem guarded_decision_eq_unguarded_looping :
    loopingInquiry.engine.RemoteNeverCyclic ∧ loopingInquiry.Calls "a" 2 ["a"] "b" ∧
      (∀ fuel, loopingInquiry.unguarded fuel "a" = none) ∧
      ∃ enough, ∀ fuel, enough ≤ fuel → loopingInquiry.unguarded fuel "b" = some (.ok false) := by
  have acyclic : loopingInquiry.engine.RemoteNeverCyclic := by
    rintro check ⟨⟩ address identity parameters ⟨chain, ⟨⟩⟩
  have bound : loopingInquiry.engine.activeBound = 2 + 1 := by decide +kernel
  have filled : "b" = loopingInquiry.parameters.fill "b" := by decide +kernel
  have called : loopingInquiry.Calls "a" 2 ["a"] "b" := by
    have caller : loopingInquiry.Calls "a" (2 + 1) [] "a" := bound ▸ .checked
    have visits : "rule:b" ∈ (CompiledRule.ofTree loopingRule.tree).tree.visited
        (loopingInquiry.leafRun 2 [] "a") := by
      decide +kernel
    rw [filled]
    exact caller.nested List.not_mem_nil rfl visits (by decide +kernel)
  obtain ⟨mirrors, calls⟩ := guarded_decision_eq_unguarded loopingInquiry "a" acyclic
  obtain ⟨called_mirrors, -⟩ := calls 2 ["a"] "b" called
  have cyclic : (loopingInquiry.run "a").decision = .error (.cyclicRule ["a", "a"]) := by
    decide +kernel
  have denied : (loopingInquiry.decide 2 ["a"] "b").decision = .ok false := by decide +kernel
  rw [denied] at called_mirrors
  exact ⟨acyclic, called, mirrors.2 ⟨_, cyclic⟩, called_mirrors.1 nofun⟩

end Inquiry

end AccessPolicy
