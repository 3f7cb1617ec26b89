import AccessPolicy.Proofs.PartialEvaluation

/-!
# Skipped operands

Evaluation skips operands, and it stops at the first leaf that fails. A tree that lacks no operand
can also be read as a Boolean formula over its leaves, all of which have a truth value then. Where
evaluation decides the tree, the formula has the same value whatever the skipped leaves are worth;
where it fails, it does so at the leaf that it visits last. Along the way the supplied checks are
called by the visited leaves and by nothing else.
-/

namespace AccessPolicy

namespace Node

variable {Event : Type} {leaf : String → Run Event} {tree : Node}

/-- Induction over trees that lack no operand. -/
@[elab_as_elim]
theorem Complete.induction {motive : (tree : Node) → tree.Complete → Prop}
    (leaf : ∀ text parameters, motive (.leaf text parameters) trivial)
    (negation : ∀ right parameters (complete : right.Complete), motive right complete →
      motive (.operator .not none (some right) parameters) complete)
    (binary : ∀ joint left right parameters, joint ≠ .not →
      ∀ (complete : (operator joint (some left) (some right) parameters).Complete)
        (left_complete : left.Complete) (right_complete : right.Complete),
        motive left left_complete → motive right right_complete →
          motive (.operator joint (some left) (some right) parameters) complete)
    (tree : Node) (complete : tree.Complete) : motive tree complete := by
  induction tree using evaluation_induction with
  | leaf text parameters => exact leaf text parameters
  | rightless joint left parameters =>
    exact absurd complete (not_complete_rightless joint left parameters)
  | negation left right parameters induction =>
    cases left with
    | none => exact negation right parameters complete (induction complete)
    | some left => exact complete.elim
  | leftless joint right parameters joins =>
    exact absurd complete (not_complete_leftless joins right parameters)
  | binary joint left right parameters joins left_induction right_induction =>
    obtain ⟨left_complete, right_complete⟩ := complete.of_binary joins
    exact binary joint left right parameters joins complete left_complete right_complete
      (left_induction left_complete) (right_induction right_complete)

/-! ## Visits -/

/-- The leaves that evaluation visits, in order, each with its place among all leaves. The places
are counted from the left, beginning with the given number. -/
def visits (leaf : String → Run Event) : Nat → Node → List (String × Nat)
  | start, .leaf text _ => [(text, start)]
  | _, .operator _ _ none _ => []
  | start, .operator .not _ (some right) _ => right.visits leaf start
  | _, .operator _ none (some _) _ => []
  | start, .operator joint (some left) (some right) _ =>
    left.visits leaf start ++
      match (left.evaluate leaf).decision with
      | .ok value =>
        if joint.leavesOpen value then right.visits leaf (start + left.leaves.length) else []
      | .error _ => []

theorem visits_binary (leaf : String → Run Event) {joint : Operator} (joins : joint ≠ .not)
    (left right : Node) (parameters : List String) (start : Nat) :
    (operator joint (some left) (some right) parameters).visits leaf start =
      left.visits leaf start ++
        match (left.evaluate leaf).decision with
        | .ok value =>
          if joint.leavesOpen value then right.visits leaf (start + left.leaves.length) else []
        | .error _ => [] := by
  cases joint with
  | and | or => rfl
  | not => exact absurd rfl joins

/-- The texts of the visited leaves stand at the places that they are visited at, from left to
right, and no place is visited twice. -/
theorem visits_sublist_leaves (complete : tree.Complete) (start : Nat) :
    (tree.visits leaf start).Sublist (tree.leaves.zipIdx start) := by
  induction tree, complete using Complete.induction generalizing start with
  | leaf text parameters => exact .refl _
  | negation right parameters complete induction => exact induction start
  | binary joint left right parameters joins _ _ _ left_induction right_induction =>
    rw [visits_binary leaf joins, leaves, List.zipIdx_append]
    refine (left_induction start).append ?_
    cases (left.evaluate leaf).decision with
    | error => exact List.nil_sublist _
    | ok value =>
      dsimp only
      split
      next => exact right_induction _
      next => exact List.nil_sublist _

theorem map_fst_visits (leaf : String → Run Event) (tree : Node) (start : Nat) :
    (tree.visits leaf start).map Prod.fst = tree.visited leaf := by
  induction tree using evaluation_induction generalizing start with
  | leaf | rightless => rfl
  | negation left right _ induction =>
    rw [visited_negation, ← induction start]
    cases left <;> rfl
  | leftless joint right _ joins =>
    rw [visited_leftless leaf joins]
    cases joint with
    | and | or => rfl
    | not => exact absurd rfl joins
  | binary joint left right _ joins left_induction right_induction =>
    rw [visits_binary leaf joins, visited_binary leaf joins, List.map_append, left_induction]
    cases (left.evaluate leaf).decision with
    | error => rfl
    | ok value =>
      dsimp only
      split
      next => rw [right_induction]
      next => rfl

theorem mem_visited_of_mem_visits {visit : String × Nat} {start : Nat}
    (visits : visit ∈ tree.visits leaf start) : visit.1 ∈ tree.visited leaf :=
  map_fst_visits leaf tree start ▸ List.mem_map_of_mem visits

/-! ## The Boolean reading -/

/-- The value of a tree as a Boolean formula, where the leaves have truth values by their places.
The places are counted as in `visits`. -/
def truth (assignment : Nat → Bool) : Nat → Node → Bool
  | start, .leaf _ _ => assignment start
  | _, .operator _ _ none _ => false
  | start, .operator .not _ (some right) _ => !right.truth assignment start
  | _, .operator _ none (some _) _ => false
  | start, .operator .and (some left) (some right) _ =>
    left.truth assignment start && right.truth assignment (start + left.leaves.length)
  | start, .operator .or (some left) (some right) _ =>
    left.truth assignment start || right.truth assignment (start + left.leaves.length)

/-- The left operand alone decides where it does not leave the decision open, and otherwise the
right one does. -/
theorem truth_binary (assignment : Nat → Bool) {joint : Operator} (joins : joint ≠ .not)
    (left right : Node) (parameters : List String) (start : Nat) :
    (operator joint (some left) (some right) parameters).truth assignment start =
      if joint.leavesOpen (left.truth assignment start) then
        right.truth assignment (start + left.leaves.length)
      else left.truth assignment start := by
  cases joint with
  | and | or =>
    rw [truth]
    cases left.truth assignment start <;> rfl
  | not => exact absurd rfl joins

/-- The formula has the value that evaluation decides if the visited leaves do. -/
theorem truth_eq_of_decision {assignment : Nat → Bool} {value : Bool} {start : Nat}
    (complete : tree.Complete) (decided : (tree.evaluate leaf).decision = .ok value)
    (agrees : ∀ visit ∈ tree.visits leaf start,
      (leaf visit.1).decision = .ok (assignment visit.2)) :
    tree.truth assignment start = value := by
  induction tree, complete using Complete.induction generalizing start value with
  | leaf text parameters =>
    have given := agrees (text, start) List.mem_cons_self
    exact Except.ok.inj (given.symm.trans decided)
  | negation right parameters complete induction =>
    rw [evaluate_negation] at decided
    cases reached : (right.evaluate leaf).decision with
    | error error =>
      rw [Run.andThen_of_error _ reached, reached] at decided
      cases decided
    | ok inner =>
      rw [Run.andThen_of_ok _ reached] at decided
      obtain rfl : (!inner) = value := Except.ok.inj decided
      rw [truth, induction reached agrees]
  | binary joint left right parameters joins _ _ _ left_induction right_induction =>
    rw [visits_binary leaf joins] at agrees
    rw [evaluate_binary leaf joins] at decided
    have agrees_left := fun visit member => agrees visit (List.mem_append_left _ member)
    cases reached : (left.evaluate leaf).decision with
    | error error =>
      rw [Run.andThen_of_error _ reached, reached] at decided
      cases decided
    | ok inner =>
      rw [Run.andThen_of_ok _ reached] at decided
      rw [truth_binary assignment joins, left_induction reached agrees_left]
      simp only [reached] at agrees
      dsimp only at decided
      split
      next is_open =>
        rw [if_pos is_open] at agrees decided
        exact right_induction decided fun visit member =>
          agrees visit (List.mem_append_right _ member)
      next is_settled =>
        rw [if_neg is_settled] at decided
        exact Except.ok.inj decided

/-! ## Failures -/

/-- Where evaluation fails, the leaf that it visits last fails like the tree, and every other
visited leaf has a truth value. -/
theorem exists_last_visit_of_error {error : PolicyError} (complete : tree.Complete) (start : Nat)
    (fails : (tree.evaluate leaf).decision = .error error) :
    ∃ front last, tree.visits leaf start = front ++ [last] ∧
      (leaf last.1).decision = .error error ∧
      ∀ visit ∈ front, ∃ found, (leaf visit.1).decision = .ok found := by
  have texts := map_fst_visits leaf tree start
  obtain ⟨text, member, failing⟩ :=
    (exists_visited_of_error fails).resolve_right fun partly => partly.1 complete
  rw [← texts] at member
  obtain ⟨last, listed, rfl⟩ := List.mem_map.1 member
  obtain ⟨front, back, split⟩ := List.append_of_mem listed
  rw [split, List.map_append, List.map_cons] at texts
  obtain rfl : back = [] := List.map_eq_nil_iff.1 (eq_nil_of_visited_error texts.symm failing)
  refine ⟨front, last, split, failing, ?_⟩
  intro visit earlier
  cases known : (leaf visit.1).decision with
  | ok found => exact ⟨found, rfl⟩
  | error other =>
    -- The last leaf would not be visited after this one.
    obtain ⟨ahead, behind, rfl⟩ := List.append_of_mem earlier
    rw [List.map_append, List.map_cons, List.append_assoc, List.cons_append] at texts
    have none_follow := eq_nil_of_visited_error texts.symm known
    simp at none_follow

end Node

/-! ## Calls -/

/-- What evaluation turns to. -/
inductive Access where
  /-- A leaf is decided. -/
  | leaf (text : String)
  /-- The supplied check for rules is called. -/
  | rule (name : String)
  /-- The supplied check for remote addresses is called. -/
  | remote (address : String)
  deriving DecidableEq, Repr

variable {Event : Type}

/-- The same surroundings with supplied checks that note each call. -/
def Surroundings.noting (surroundings : Surroundings Event) : Surroundings Access where
  rule? := surroundings.rule?.map fun check name => ⟨[.rule name], (check name).decision⟩
  identity? := surroundings.identity?
  parameters := surroundings.parameters
  remote? := surroundings.remote?.map fun check address =>
    ⟨[.remote address], (check address).decision⟩

namespace Leaf

/-- Decides the leaf with the given text and notes that, and the calls that are made for it. -/
def noted (surroundings : Surroundings Event) (text : String) : Run Access :=
  .enclosed [.leaf text] (evaluateText surroundings.noting text) fun _ => []

/-- The calls that are made for a leaf: only a reference calls the check for rules, only an address
calls the remote check, and a check that is not supplied is not called. -/
def calls (surroundings : Surroundings Event) : Leaf → List Access
  | .rule value =>
    if surroundings.rule?.isSome then [.rule (surroundings.parameters.fill value)] else []
  | .remote address =>
    if surroundings.remote?.isSome then [.remote (surroundings.parameters.fill address)] else []
  | _ => []

theorem evaluate_noting (surroundings : Surroundings Event) (leaf : Leaf) :
    leaf.evaluate surroundings.noting =
      ⟨leaf.calls surroundings, (leaf.evaluate surroundings).decision⟩ := by
  cases leaf with
  | rule value =>
    simp only [evaluate, Surroundings.noting, calls]
    cases surroundings.rule? <;> rfl
  | remote address =>
    simp only [evaluate, Surroundings.noting, calls]
    cases surroundings.remote? <;> rfl
  | _ => rfl

theorem events_noted (surroundings : Surroundings Event) (text : String) :
    (noted surroundings text).events = .leaf text :: (ofText text).calls surroundings := by
  simp only [noted, Run.enclosed, evaluateText, evaluate_noting, List.append_nil,
    List.singleton_append]

theorem decision_noted (surroundings : Surroundings Event) (text : String) :
    (noted surroundings text).decision = (evaluateText surroundings text).decision := by
  simp only [noted, Run.decision_enclosed, evaluateText, evaluate_noting]

end Leaf

namespace Node

/-- The leaves that evaluation visits in the given surroundings, in order, with their places. -/
def visitsIn (surroundings : Surroundings Event) (tree : Node) : List (String × Nat) :=
  tree.visits (Leaf.evaluateText surroundings) 0

/-- What evaluation turns to in the given surroundings, in order, and what it decides. -/
def notedIn (surroundings : Surroundings Event) (tree : Node) : Run Access :=
  tree.evaluate (Leaf.noted surroundings)

theorem decision_notedIn (surroundings : Surroundings Event) (tree : Node) :
    (tree.notedIn surroundings).decision = (tree.evaluateIn surroundings).decision :=
  decision_congr (Leaf.decision_noted surroundings) tree

/-- Evaluation turns to the visited leaves, and after each of them to what that leaf calls. -/
theorem events_notedIn (surroundings : Surroundings Event) (tree : Node) :
    (tree.notedIn surroundings).events = (tree.visitsIn surroundings).flatMap fun visit =>
      .leaf visit.1 :: (Leaf.ofText visit.1).calls surroundings := by
  rw [notedIn, events_evaluate, visited_congr (Leaf.decision_noted surroundings),
    ← map_fst_visits _ tree 0, List.flatMap_map]
  simp only [Leaf.events_noted, visitsIn]

/-- Evaluation visits leaves from left to right and none twice, and calls nothing but what they
call. Where it decides the tree, all of them have a truth value, and the tree as a formula has the
decided value whichever truth values the other leaves take. Where it fails, the last of them fails
like the tree, and those before it have a truth value. -/
theorem evaluateIn_skips_soundly (surroundings : Surroundings Event) (tree : Node)
    (complete : tree.Complete) :
    (tree.visitsIn surroundings).Sublist tree.leaves.zipIdx ∧
      (tree.notedIn surroundings).decision = (tree.evaluateIn surroundings).decision ∧
      ((tree.notedIn surroundings).events = (tree.visitsIn surroundings).flatMap fun visit =>
        .leaf visit.1 :: (Leaf.ofText visit.1).calls surroundings) ∧
      (∀ value, (tree.evaluateIn surroundings).decision = .ok value →
        (∀ visit ∈ tree.visitsIn surroundings, ∃ found,
          (Leaf.evaluateText surroundings visit.1).decision = .ok found) ∧
        ∀ assignment : Nat → Bool, (∀ visit ∈ tree.visitsIn surroundings,
          (Leaf.evaluateText surroundings visit.1).decision = .ok (assignment visit.2)) →
            tree.truth assignment 0 = value) ∧
      ∀ error, (tree.evaluateIn surroundings).decision = .error error →
        ∃ front last, tree.visitsIn surroundings = front ++ [last] ∧
          (Leaf.evaluateText surroundings last.1).decision = .error error ∧
          ∀ visit ∈ front, ∃ found,
            (Leaf.evaluateText surroundings visit.1).decision = .ok found := by
  refine ⟨visits_sublist_leaves complete 0, decision_notedIn surroundings tree,
    events_notedIn surroundings tree, ?_, ?_⟩
  · intro value decided
    refine ⟨?_, fun assignment agrees => truth_eq_of_decision complete decided agrees⟩
    exact fun visit member => exists_value_of_visited decided (mem_visited_of_mem_visits member)
  · exact fun error fails => exists_last_visit_of_error complete 0 fails

/-- The tree of `(@ or rule:a) and not rule:b`. -/
def skippingTree : Node :=
  conjunction (disjunction (expression "@") (expression "rule:a")) (negation (expression "rule:b"))

/-- Surroundings where the rule `b` is decided as given and no other rule is known. -/
def surroundingsOf (decision : Decision) : Surroundings Empty where
  rule? := some fun name =>
    .settled (if name = "b" then decision else .error (.unknownRule name))

theorem evaluateIn_skips_soundly_unasked :
    skippingTree.Complete ∧
      (skippingTree.evaluateIn (surroundingsOf (.ok false))).decision = .ok true ∧
      skippingTree.visitsIn (surroundingsOf (.ok false)) = [("@", 0), ("rule:b", 2)] ∧
      (skippingTree.notedIn (surroundingsOf (.ok false))).events =
        [.leaf "@", .leaf "rule:b", .rule "b"] ∧
      (∀ assignment : Nat → Bool, assignment 0 = true → assignment 2 = false →
        skippingTree.truth assignment 0 = true) ∧
      (skippingTree.evaluateIn (surroundingsOf (.error (.unknownRule "b")))).decision =
        .error (.unknownRule "b") ∧
      ∃ front last, skippingTree.visitsIn (surroundingsOf (.error (.unknownRule "b"))) =
          front ++ [last] ∧
        (Leaf.evaluateText (surroundingsOf (.error (.unknownRule "b"))) last.1).decision =
          .error (.unknownRule "b") := by
  have complete : skippingTree.Complete := ⟨⟨trivial, trivial⟩, trivial⟩
  have holds : (skippingTree.evaluateIn (surroundingsOf (.ok false))).decision = .ok true := by
    decide +kernel
  have visits : skippingTree.visitsIn (surroundingsOf (.ok false)) =
      [("@", 0), ("rule:b", 2)] := by
    decide +kernel
  have fails : (skippingTree.evaluateIn (surroundingsOf (.error (.unknownRule "b")))).decision =
      .error (.unknownRule "b") := by
    decide +kernel
  obtain ⟨-, -, events, settled, -⟩ :=
    evaluateIn_skips_soundly (surroundingsOf (.ok false)) skippingTree complete
  obtain ⟨-, -, -, -, failed⟩ :=
    evaluateIn_skips_soundly (surroundingsOf (.error (.unknownRule "b"))) skippingTree complete
  obtain ⟨front, last, whole, failing, -⟩ := failed _ fails
  refine ⟨complete, holds, visits, ?_, ?_, fails, front, last, whole, failing⟩
  · rw [events, visits]
    decide +kernel
  · intro assignment first third
    apply (settled true holds).2
    rw [visits]
    simp only [List.forall_mem_cons, List.not_mem_nil, false_implies, implies_true, and_true,
      first, third]
    exact ⟨by decide +kernel, by decide +kernel⟩

end Node

end AccessPolicy
