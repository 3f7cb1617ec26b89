import AccessPolicy.Proofs.Causes
import AccessPolicy.Proofs.CycleGuard

/-!
# Comparing two runs

Two who ask one engine, or ask with different parameters, are compared leaf by leaf. If the leaves
of both relate their decisions, and the trees of the engine hand this on from their leaves, then
every name is decided to related decisions below the same active names. The runs themselves need
not visit the same leaves.
-/

namespace AccessPolicy

namespace Node

variable {Event : Type} {leaf given : String → Run Event}

/-- The decision of a tree depends only on the decisions of its own leaves. -/
theorem decision_congr_of_leaves {tree : Node}
    (agree : ∀ text ∈ tree.leaves, (leaf text).decision = (given text).decision) :
    (tree.evaluate leaf).decision = (tree.evaluate given).decision := by
  have first : tree.evaluate? (fun text => some (leaf text).decision) =
      some (tree.evaluate leaf).decision := evaluate?_eq_decision fun _ _ => rfl
  have second : tree.evaluate? (fun text => some (leaf text).decision) =
      some (tree.evaluate given).decision :=
    evaluate?_eq_decision fun text visits =>
      congrArg some (agree text (visited_subset_leaves tree visits))
  exact Option.some.inj (first.symm.trans second)

end Node

namespace Inquiry

variable {relation : Decision → Decision → Prop} {first second : Inquiry}

/-- Two inquiries of one engine that spell the same names and relate the decisions of the other
leaves. -/
structure Compares (relation : Decision → Decision → Prop) (first second : Inquiry) : Prop where
  /-- Both ask the same engine. -/
  engine : second.engine = first.engine
  /-- The same failure is related. -/
  failures : ∀ error, relation (.error error) (.error error)
  /-- A tree relates its decisions if its leaves do. -/
  trees : ∀ entry ∈ first.engine.rules, ∀ leaf given : String → Run Happening,
    (∀ text ∈ entry.2.tree.leaves, relation (leaf text).decision (given text).decision) →
      relation (entry.2.tree.evaluate leaf).decision (entry.2.tree.evaluate given).decision
  /-- References spell the same names. -/
  references : ∀ entry ∈ first.engine.rules, ∀ text ∈ entry.2.tree.leaves, ∀ value,
    Leaf.ofText text = .rule value → first.parameters.fill value = second.parameters.fill value
  /-- The other leaves relate their decisions. -/
  leaves : ∀ entry ∈ first.engine.rules, ∀ text ∈ entry.2.tree.leaves,
    (∀ value, Leaf.ofText text ≠ .rule value) →
      relation ((Leaf.ofText text).evaluate first.ruleless).decision
        ((Leaf.ofText text).evaluate second.ruleless).decision

namespace Compares

theorem decide (compares : Compares relation first second) (levels : Nat) (active : List String)
    (name : String) :
    relation (first.decide levels active name).decision
      (second.decide levels active name).decision := by
  -- Both runs use up a level for every name that they enter, so the levels bound them together.
  induction levels generalizing active name with
  | zero => exact compares.failures _
  | succ levels induction =>
    by_cases old : name ∈ active
    · rw [decide_of_mem _ old, decide_of_mem _ old]
      exact compares.failures _
    · have same : second.engine.resolve? name = first.engine.resolve? name := by
        rw [compares.engine]
      cases resolves : first.engine.resolve? name with
      | none =>
        rw [decide_of_unresolved levels old resolves,
          decide_of_unresolved levels old (same.trans resolves)]
        exact compares.failures _
      | some found =>
        have configured := Engine.mem_rules_of_resolve? resolves
        rw [decision_of_resolved levels old resolves,
          decision_of_resolved levels old (same.trans resolves)]
        apply compares.trees _ configured
        intro text member
        by_cases refers : ∃ value, Leaf.ofText text = .rule value
        · obtain ⟨value, refers⟩ := refers
          have spelt := compares.references _ configured text member value refers
          rw [leafRun_of_rule _ _ _ refers, leafRun_of_rule _ _ _ refers, spelt]
          exact induction _ _
        · have plain := not_exists.1 refers
          rw [leafRun_of_plain _ _ _ plain, leafRun_of_plain _ _ _ plain]
          exact compares.leaves _ configured text member plain

theorem run (compares : Compares relation first second) (rule : String) :
    relation (first.run rule).decision (second.run rule).decision := by
  rw [Inquiry.run, Inquiry.run, compares.engine]
  exact compares.decide _ _ _

end Compares

end Inquiry

namespace Session

/-- Two checks that miss the same parameters come to related answers. -/
theorem relation_answer {relation : Decision → Decision → Prop} {first second : Session}
    {rule : String} {given other : Json}
    (compares : Inquiry.Compares relation (first.inquiry given) (second.inquiry other))
    (same_missing : second.engine.missing? rule (second.engine.mergedParameters other) =
      first.engine.missing? rule (first.engine.mergedParameters given)) :
    relation (first.check rule given).answer (second.check rule other).answer := by
  have same_engine : second.engine = first.engine := compares.engine
  have insists : (if second.engine.options.strict then
        second.engine.missing? rule (second.engine.mergedParameters other) else none) =
      if first.engine.options.strict then
        first.engine.missing? rule (first.engine.mergedParameters given) else none := by
    rw [same_missing, same_engine]
  simp only [check, run, insists]
  split
  next missing _ => exact compares.failures (.missingParameters rule missing)
  next => exact compares.run rule

end Session

end AccessPolicy
