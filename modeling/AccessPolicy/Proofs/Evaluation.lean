import AccessPolicy.Check.Evaluate

/-!
# Visited leaves

Evaluating a tree visits some of its leaves, in order: a right operand only where the left one
leaves the decision open, and nothing after a leaf that fails. The visited leaves alone make the
decision and the events of the tree; a tree that lacks no operand fails only where one of them does.
-/

namespace AccessPolicy

/-- Whether a left operand with a truth value leaves the decision to the right operand. -/
def Operator.leavesOpen : Operator → Bool → Bool
  | .and, value => value
  | .or, value => !value
  | .not, _ => true

namespace Run

variable {Event : Type}

theorem andThen_of_error {run : Run Event} {error : PolicyError} (next : Bool → Run Event)
    (fails : run.decision = .error error) : run.andThen next = run := by
  unfold andThen
  rw [fails]

theorem andThen_of_ok {run : Run Event} {value : Bool} (next : Bool → Run Event)
    (settles : run.decision = .ok value) :
    run.andThen next = ⟨run.events ++ (next value).events, (next value).decision⟩ := by
  unfold andThen
  rw [settles]

end Run

namespace Node

variable {Event : Type} {leaf : String → Run Event}

/-- Induction along evaluation: the two operators with two operands are one case. -/
@[elab_as_elim]
theorem evaluation_induction {motive : Node → Prop}
    (leaf : ∀ text parameters, motive (.leaf text parameters))
    (rightless : ∀ joint left parameters, motive (.operator joint left none parameters))
    (negation : ∀ left right parameters, motive right →
      motive (.operator .not left (some right) parameters))
    (leftless : ∀ joint right parameters, joint ≠ .not →
      motive (.operator joint none (some right) parameters))
    (binary : ∀ joint left right parameters, joint ≠ .not → motive left → motive right →
      motive (.operator joint (some left) (some right) parameters)) (tree : Node) :
    motive tree := by
  induction tree with
  | leaf text parameters => exact leaf text parameters
  | operator joint left right parameters known_left known_right =>
    cases right with
    | none => exact rightless joint left parameters
    | some right =>
      by_cases negates : joint = .not
      · subst negates
        exact negation left right parameters (known_right right rfl)
      · cases left with
        | none => exact leftless joint right parameters negates
        | some left =>
          exact binary joint left right parameters negates (known_left left rfl)
            (known_right right rfl)

theorem evaluate_negation (leaf : String → Run Event) (left : Option Node) (right : Node)
    (parameters : List String) :
    (operator .not left (some right) parameters).evaluate leaf =
      (right.evaluate leaf).andThen fun value => .settled (.ok !value) := by
  cases left <;> rfl

theorem evaluate_leftless (leaf : String → Run Event) {joint : Operator} (joins : joint ≠ .not)
    (right : Node) (parameters : List String) :
    (operator joint none (some right) parameters).evaluate leaf =
      .failed (.evaluation (.noLeftOperand joint)) := by
  cases joint with
  | and | or => rfl
  | not => exact absurd rfl joins

theorem evaluate_binary (leaf : String → Run Event) {joint : Operator} (joins : joint ≠ .not)
    (left right : Node) (parameters : List String) :
    (operator joint (some left) (some right) parameters).evaluate leaf =
      (left.evaluate leaf).andThen fun value =>
        if joint.leavesOpen value then right.evaluate leaf else .settled (.ok value) := by
  cases joint with
  | and =>
    rw [evaluate]
    congr
    funext value
    cases value <;> rfl
  | or =>
    rw [evaluate]
    congr
    funext value
    cases value <;> rfl
  | not => exact absurd rfl joins

theorem not_complete_rightless (joint : Operator) (left : Option Node) (parameters : List String) :
    ¬(operator joint left none parameters).Complete := by
  cases joint <;> cases left <;> exact id

theorem not_complete_leftless {joint : Operator} (joins : joint ≠ .not) (right : Node)
    (parameters : List String) : ¬(operator joint none (some right) parameters).Complete := by
  cases joint with
  | and | or => exact id
  | not => exact absurd rfl joins

theorem Complete.of_negation {left : Option Node} {right : Node} {parameters : List String}
    (complete : (operator .not left (some right) parameters).Complete) : right.Complete := by
  cases left with
  | none => exact complete
  | some left => exact complete.elim

theorem Complete.of_binary {joint : Operator} (joins : joint ≠ .not) {left right : Node}
    {parameters : List String}
    (complete : (operator joint (some left) (some right) parameters).Complete) :
    left.Complete ∧ right.Complete := by
  cases joint with
  | and | or => exact complete
  | not => exact absurd rfl joins

/-- The texts of the leaves that evaluation visits, in order. -/
def visited (leaf : String → Run Event) : Node → List String
  | .leaf text _ => [text]
  | .operator _ _ none _ => []
  | .operator .not _ (some right) _ => right.visited leaf
  | .operator _ none (some _) _ => []
  | .operator joint (some left) (some right) _ =>
    left.visited leaf ++
      match (left.evaluate leaf).decision with
      | .ok value => if joint.leavesOpen value then right.visited leaf else []
      | .error _ => []

theorem visited_negation (leaf : String → Run Event) (left : Option Node) (right : Node)
    (parameters : List String) :
    (operator .not left (some right) parameters).visited leaf = right.visited leaf := by
  cases left <;> rfl

theorem visited_leftless (leaf : String → Run Event) {joint : Operator} (joins : joint ≠ .not)
    (right : Node) (parameters : List String) :
    (operator joint none (some right) parameters).visited leaf = [] := by
  cases joint with
  | and | or => rfl
  | not => exact absurd rfl joins

theorem visited_binary (leaf : String → Run Event) {joint : Operator} (joins : joint ≠ .not)
    (left right : Node) (parameters : List String) :
    (operator joint (some left) (some right) parameters).visited leaf =
      left.visited leaf ++
        match (left.evaluate leaf).decision with
        | .ok value => if joint.leavesOpen value then right.visited leaf else []
        | .error _ => [] := by
  cases joint with
  | and | or => rfl
  | not => exact absurd rfl joins

theorem mem_visited_binary {joint : Operator} (joins : joint ≠ .not) {left right : Node}
    {parameters : List String} {text : String} :
    text ∈ (operator joint (some left) (some right) parameters).visited leaf ↔
      text ∈ left.visited leaf ∨
        (∃ value, (left.evaluate leaf).decision = .ok value ∧ joint.leavesOpen value) ∧
          text ∈ right.visited leaf := by
  rw [visited_binary leaf joins, List.mem_append]
  cases (left.evaluate leaf).decision with
  | ok value => simp
  | error => simp

theorem visited_subset_leaves (tree : Node) : tree.visited leaf ⊆ tree.leaves := by
  induction tree using evaluation_induction with
  | leaf text parameters => exact List.Subset.refl _
  | rightless => exact List.nil_subset _
  | negation left right _ induction =>
    rw [visited_negation]
    cases left with
    | none => exact induction
    | some left => exact List.subset_append_of_subset_right _ induction
  | leftless joint right _ joins =>
    rw [visited_leftless leaf joins]
    exact List.nil_subset _
  | binary joint left right _ joins left_induction right_induction =>
    intro text member
    rcases (mem_visited_binary joins).1 member with first | ⟨-, second⟩
    · exact List.mem_append_left _ (left_induction first)
    · exact List.mem_append_right _ (right_induction second)

/-- The events of a tree are those of the visited leaves. -/
theorem events_evaluate (leaf : String → Run Event) (tree : Node) :
    (tree.evaluate leaf).events = (tree.visited leaf).flatMap fun text => (leaf text).events := by
  induction tree using evaluation_induction with
  | leaf text parameters => exact (List.flatMap_singleton _ _).symm
  | rightless => rfl
  | negation left right _ induction =>
    rw [evaluate_negation, visited_negation, ← induction]
    cases decided : (right.evaluate leaf).decision with
    | ok value => rw [Run.andThen_of_ok _ decided, Run.events_settled, List.append_nil]
    | error error => rw [Run.andThen_of_error _ decided]
  | leftless joint right _ joins =>
    rw [evaluate_leftless leaf joins, visited_leftless leaf joins]
    rfl
  | binary joint left right _ joins left_induction right_induction =>
    rw [evaluate_binary leaf joins, visited_binary leaf joins, List.flatMap_append,
      ← left_induction]
    cases decided : (left.evaluate leaf).decision with
    | ok value =>
      rw [Run.andThen_of_ok _ decided]
      dsimp only
      split
      next => rw [← right_induction]
      next => rfl
    | error error => rw [Run.andThen_of_error _ decided, List.flatMap_nil, List.append_nil]

/-- A visited leaf that fails makes the tree fail. -/
theorem decision_of_visited_error {tree : Node} {text : String} {error : PolicyError}
    (visits : text ∈ tree.visited leaf) (fails : (leaf text).decision = .error error) :
    (tree.evaluate leaf).decision = .error error := by
  induction tree using evaluation_induction with
  | leaf other parameters =>
    rw [List.mem_singleton.1 visits] at fails
    exact fails
  | rightless => cases visits
  | negation left right _ induction =>
    rw [visited_negation] at visits
    rw [evaluate_negation, Run.andThen_of_error _ (induction visits)]
    exact induction visits
  | leftless joint right _ joins =>
    rw [visited_leftless leaf joins] at visits
    cases visits
  | binary joint left right _ joins left_induction right_induction =>
    rw [evaluate_binary leaf joins]
    rcases (mem_visited_binary joins).1 visits with first | ⟨⟨value, decided, is_open⟩, second⟩
    · rw [Run.andThen_of_error _ (left_induction first)]
      exact left_induction first
    · rw [Run.andThen_of_ok _ decided, if_pos is_open]
      exact right_induction second

/-- Where evaluation decides a tree, every visited leaf has a truth value. -/
theorem exists_value_of_visited {tree : Node} {text : String} {value : Bool}
    (decided : (tree.evaluate leaf).decision = .ok value) (visits : text ∈ tree.visited leaf) :
    ∃ found, (leaf text).decision = .ok found := by
  cases known : (leaf text).decision with
  | ok found => exact ⟨found, rfl⟩
  | error error =>
    rw [decision_of_visited_error visits known] at decided
    cases decided

/-- A tree that fails lacks an operand, or it fails like a visited leaf. -/
theorem exists_visited_of_error {tree : Node} {error : PolicyError}
    (fails : (tree.evaluate leaf).decision = .error error) :
    (∃ text ∈ tree.visited leaf, (leaf text).decision = .error error) ∨
      ¬tree.Complete ∧ ∃ joint, error = .evaluation (.noRightOperand joint) ∨
        error = .evaluation (.noLeftOperand joint) := by
  induction tree using evaluation_induction with
  | leaf text parameters => exact Or.inl ⟨text, List.mem_cons_self, fails⟩
  | rightless joint left parameters =>
    cases fails
    exact Or.inr ⟨not_complete_rightless joint left parameters, joint, Or.inl rfl⟩
  | negation left right _ induction =>
    rw [visited_negation]
    rw [evaluate_negation] at fails
    cases decided : (right.evaluate leaf).decision with
    | ok value =>
      rw [Run.andThen_of_ok _ decided] at fails
      cases fails
    | error =>
      rw [Run.andThen_of_error _ decided] at fails
      exact (induction fails).imp_right (And.imp_left (mt Complete.of_negation))
  | leftless joint right parameters joins =>
    rw [evaluate_leftless leaf joins] at fails
    cases fails
    exact Or.inr ⟨not_complete_leftless joins right parameters, joint, Or.inr rfl⟩
  | binary joint left right _ joins left_induction right_induction =>
    rw [evaluate_binary leaf joins] at fails
    simp only [mem_visited_binary joins]
    cases decided : (left.evaluate leaf).decision with
    | ok value =>
      rw [Run.andThen_of_ok _ decided] at fails
      dsimp only at fails
      split at fails
      next is_open =>
        refine (right_induction fails).imp ?_
          (And.imp_left fun partly whole => partly (Complete.of_binary joins whole).2)
        rintro ⟨text, member, same⟩
        exact ⟨text, Or.inr ⟨⟨value, rfl, is_open⟩, member⟩, same⟩
      next => cases fails
    | error =>
      rw [Run.andThen_of_error _ decided] at fails
      refine (left_induction fails).imp ?_
        (And.imp_left fun partly whole => partly (Complete.of_binary joins whole).1)
      rintro ⟨text, member, same⟩
      exact ⟨text, Or.inl member, same⟩

/-- Nothing is visited after a leaf that fails. -/
theorem eq_nil_of_visited_error {tree : Node} {front back : List String} {text : String}
    {error : PolicyError} (visits : tree.visited leaf = front ++ text :: back)
    (fails : (leaf text).decision = .error error) : back = [] := by
  induction tree using evaluation_induction generalizing front with
  | leaf other parameters =>
    have single : front ++ text :: back = [other] := visits.symm
    exact (List.cons.inj (List.append_eq_singleton_iff.1 single |>.resolve_right nofun).2).2
  | rightless => simp [visited] at visits
  | negation left right _ induction =>
    rw [visited_negation] at visits
    exact induction visits
  | leftless joint right _ joins =>
    rw [visited_leftless leaf joins] at visits
    simp at visits
  | binary joint left right _ joins left_induction right_induction =>
    rw [visited_binary leaf joins] at visits
    cases decided : (left.evaluate leaf).decision with
    | error =>
      rw [decided, List.append_nil] at visits
      exact left_induction visits
    | ok value =>
      simp only [decided] at visits
      rcases List.append_eq_append_iff.1 visits with
        ⟨ahead, -, further⟩ | ⟨behind, visits_left, further⟩
      · split at further
        next => exact right_induction further
        next => simp at further
      · cases behind with
        | nil =>
          split at further
          next =>
            have whole : right.visited leaf = [] ++ text :: back := further.symm
            exact right_induction whole
          next => cases further
        | cons first behind =>
          -- A left operand that holds or does not hold visits no leaf that fails.
          obtain ⟨rfl, -⟩ := List.cons.inj further
          have member : text ∈ left.visited leaf :=
            visits_left ▸ List.mem_append_right _ List.mem_cons_self
          obtain ⟨found, known⟩ := exists_value_of_visited decided member
          rw [fails] at known
          cases known

end Node

end AccessPolicy
