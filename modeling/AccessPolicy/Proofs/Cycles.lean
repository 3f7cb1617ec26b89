import AccessPolicy.Proofs.Causes
import AccessPolicy.Proofs.CycleGuard
import Mathlib.Data.List.Chain
import Mathlib.Data.List.Nodup

/-!
# Reported cycles

The active names above a call form a path of references from the checked rule to the called name,
and no name stands on it twice. So the names that a cycle is reported with are a path that comes
back to one of its own names, and without such a path no cycle is reported.
-/

namespace AccessPolicy

namespace Inquiry

variable {inquiry : Inquiry} {rule name : String} {levels : Nat} {active chain : List String}

/-- A leaf of the rule that is used for a name spells a reference, placeholders being replaced. -/
def Spells (inquiry : Inquiry) (name reference : String) : Prop :=
  ∃ resolved compiled value, inquiry.engine.resolve? name = some (resolved, compiled) ∧
    "rule:" ++ value ∈ compiled.tree.leaves ∧ inquiry.parameters.fill value = reference

/-- A path of references from a rule that visits no name twice, but for the last one, to which it
comes back. -/
structure CyclicPath (inquiry : Inquiry) (rule : String) (chain : List String) : Prop where
  /-- The path has a step. -/
  steps : 2 ≤ chain.length
  /-- The path starts with the rule. -/
  starts : chain.head? = some rule
  /-- The names before the last one differ from each other. -/
  nodup : chain.dropLast.Nodup
  /-- The last name is one of those before it. -/
  returns : ∃ last, chain.getLast? = some last ∧ last ∈ chain.dropLast
  /-- Every name spells the next one. -/
  linked : chain.IsChain inquiry.Spells

theorem spells_of_visited {resolved text value : String} {compiled : CompiledRule}
    (resolves : inquiry.engine.resolve? name = some (resolved, compiled))
    (visits : text ∈ compiled.tree.visited (inquiry.leafRun levels active name))
    (refers : Leaf.ofText text = .rule value) :
    inquiry.Spells name (inquiry.parameters.fill value) := by
  have member := Node.visited_subset_leaves _ visits
  rw [Leaf.eq_of_ofText_eq_rule refers] at member
  exact ⟨resolved, compiled, value, resolves, member, rfl⟩

/-! ## Active names -/

/-- The active names above a call differ from each other. -/
theorem Calls.nodup (called : inquiry.Calls rule levels active name) : active.Nodup := by
  induction called with
  | checked => exact List.nodup_nil
  | nested caller fresh resolves visits refers induction =>
    rw [← List.concat_eq_append]
    exact List.Nodup.concat fresh induction

/-- The active names above a call lead to the called name, each spelling the next one. -/
theorem Calls.isChain (called : inquiry.Calls rule levels active name) :
    (active ++ [name]).IsChain inquiry.Spells := by
  induction called with
  | checked => exact List.isChain_singleton rule
  | nested caller fresh resolves visits refers induction =>
    refine induction.append (List.isChain_singleton _) ?_
    intro last ends next starts
    rw [List.getLast?_concat, Option.mem_some_iff] at ends
    rw [List.head?_cons, Option.mem_some_iff] at starts
    rw [← ends, ← starts]
    exact spells_of_visited resolves visits refers

theorem Calls.head?_eq (called : inquiry.Calls rule levels active name) :
    (active ++ [name]).head? = some rule := by
  induction called with
  | checked => rfl
  | nested caller fresh resolves visits refers induction =>
    rw [List.head?_append, induction]
    rfl

/-- A call to an active name closes a path. -/
theorem Calls.cyclicPath (called : inquiry.Calls rule levels active name) (old : name ∈ active) :
    inquiry.CyclicPath rule (active ++ [name]) where
  steps := by
    have some_active := List.length_pos_of_mem old
    rw [List.length_append, List.length_singleton]
    omega
  starts := called.head?_eq
  nodup := by
    rw [List.dropLast_concat]
    exact called.nodup
  returns := ⟨name, List.getLast?_concat, by rwa [List.dropLast_concat]⟩
  linked := called.isChain

/-- A path that comes back to a name shows that the name leads to itself. -/
theorem CyclicPath.exists_cycle (path : inquiry.CyclicPath rule chain) :
    ∃ name, Relation.ReflTransGen inquiry.Spells rule name ∧
      Relation.TransGen inquiry.Spells name name := by
  obtain ⟨last, ends, member⟩ := path.returns
  have whole : chain.dropLast ++ [last] = chain := List.dropLast_append_getLast? last ends
  have ordered : chain.Pairwise (Relation.TransGen inquiry.Spells) :=
    List.isChain_iff_pairwise.1 (path.linked.imp fun _ _ => Relation.TransGen.single)
  rw [← whole, List.pairwise_append] at ordered
  obtain ⟨among, -, before_last⟩ := ordered
  refine ⟨last, ?_, before_last last member last List.mem_cons_self⟩
  have starts : chain.dropLast.head? = some rule := by
    have first := path.starts
    rw [← whole, List.head?_append_of_ne_nil _ (List.ne_nil_of_mem member)] at first
    exact first
  obtain ⟨further, split⟩ := List.head?_eq_some_iff.1 starts
  rw [split] at among member
  rcases List.mem_cons.1 member with rfl | later
  · exact .refl
  · exact (List.rel_of_pairwise_cons among later).to_reflTransGen

end Inquiry

namespace Session

variable {session : Session} {rule : String} {parameters : Json} {chain : List String}

/-- The names that a check reports a cycle with are a path that comes back to one of its names. -/
theorem cyclicPath_of_check (acyclic : session.engine.RemoteNeverCyclic)
    (fails : (session.check rule parameters).answer = .error (.cyclicRule chain)) :
    (session.inquiry parameters).CyclicPath rule chain := by
  rcases missing_or_cause fails with ⟨-, missing, -, ⟨⟩⟩ | cause
  cases cause with
  | cyclic called old => exact called.cyclicPath old
  | remote supplied _ cyclic => exact absurd ⟨chain, cyclic⟩ (acyclic _ supplied _ _ _)

/-- A reported cycle is one: the names that a check reports it with are a path of references from
the checked rule that comes back to one of its own names. So no cycle is reported where no name that
the rule leads to leads to itself. -/
theorem reported_cycle_is_cycle (session : Session) (rule : String) (parameters : Json)
    (acyclic : session.engine.RemoteNeverCyclic) :
    (∀ chain, (session.check rule parameters).answer = .error (.cyclicRule chain) →
      (session.inquiry parameters).CyclicPath rule chain) ∧
    ((∀ name, Relation.ReflTransGen (session.inquiry parameters).Spells rule name →
        ¬Relation.TransGen (session.inquiry parameters).Spells name name) →
      ∀ chain, (session.check rule parameters).answer ≠ .error (.cyclicRule chain)) := by
  refine ⟨fun chain => cyclicPath_of_check acyclic, ?_⟩
  intro no_cycle chain fails
  obtain ⟨name, reached, cycle⟩ := (cyclicPath_of_check acyclic fails).exists_cycle
  exact no_cycle name reached cycle

/-- A session whose default rule refers to the name that a parameter gives. -/
def redirectingSession : Session where
  engine := {
    (Engine.ofConfiguration (.ofList [("_default", "rule:%(x)s"), ("c", "@")]) {}).toOption.get
      (by decide +kernel) with
    options := {} }
  identity := ⟨{}⟩
  debug := false

theorem reported_cycle_is_cycle_by_default :
    redirectingSession.engine.RemoteNeverCyclic ∧
      (redirectingSession.check "a" (.object [("x", .string "b")])).answer =
        .error (.cyclicRule ["a", "b", "b"]) ∧
      (redirectingSession.inquiry (.object [("x", .string "b")])).CyclicPath "a" ["a", "b", "b"] ∧
      (∀ name, ¬(redirectingSession.inquiry (.object [("x", .string "b")])).Spells "c" name) ∧
      ∀ chain, (redirectingSession.check "c" (.object [("x", .string "b")])).answer ≠
        .error (.cyclicRule chain) := by
  have acyclic : redirectingSession.engine.RemoteNeverCyclic := by
    rintro check ⟨⟩
  have cyclic : (redirectingSession.check "a" (.object [("x", .string "b")])).answer =
      .error (.cyclicRule ["a", "b", "b"]) := by
    decide +kernel
  have constant : (redirectingSession.engine.resolve? "c").map
      (fun found => found.2.tree.leaves) = some ["@"] := by
    decide +kernel
  have spells_nothing (name : String) :
      ¬(redirectingSession.inquiry (.object [("x", .string "b")])).Spells "c" name := by
    rintro ⟨resolved, compiled, value, resolves, member, -⟩
    have resolves : redirectingSession.engine.resolve? "c" = some (resolved, compiled) := resolves
    rw [resolves] at constant
    have leaves : compiled.tree.leaves = ["@"] := Option.some.inj constant
    rw [leaves, List.mem_singleton] at member
    have spelt := congrArg String.toList member
    simp at spelt
  have path := (reported_cycle_is_cycle redirectingSession "a" (.object [("x", .string "b")])
    acyclic).1 _ cyclic
  refine ⟨acyclic, cyclic, path, spells_nothing, ?_⟩
  apply (reported_cycle_is_cycle redirectingSession "c" (.object [("x", .string "b")]) acyclic).2
  intro name reached
  obtain rfl | ⟨first, spelt, -⟩ := Relation.ReflTransGen.cases_head reached
  · intro cycle
    obtain ⟨first, spelt, -⟩ := Relation.TransGen.head'_iff.1 cycle
    exact spells_nothing first spelt
  · exact absurd spelt (spells_nothing first)

end Session

end AccessPolicy
