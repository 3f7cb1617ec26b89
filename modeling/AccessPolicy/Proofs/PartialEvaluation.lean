import AccessPolicy.Proofs.Evaluation

/-!
# Partial evaluation

A tree can be evaluated while the decisions of some leaves are open. It is open itself if it needs
the decision of an open leaf, and otherwise it has the decision that closing the open leaves gives
it. So evaluation depends on the leaves only through their decisions.
-/

namespace AccessPolicy

namespace Node

variable {Event : Type} {leaf : String → Run Event} {answer? other? : String → Option Decision}

/-- Decides a tree where the decisions of leaves may be open. -/
def evaluate? (answer? : String → Option Decision) : Node → Option Decision
  | .leaf text _ => answer? text
  | .operator joint _ none _ => some (.error (.evaluation (.noRightOperand joint)))
  | .operator .not _ (some right) _ => (right.evaluate? answer?).map (·.map (!·))
  | .operator joint none (some _) _ => some (.error (.evaluation (.noLeftOperand joint)))
  | .operator .and (some left) (some right) _ =>
    match left.evaluate? answer? with
    | some (.ok true) => right.evaluate? answer?
    | settled => settled
  | .operator .or (some left) (some right) _ =>
    match left.evaluate? answer? with
    | some (.ok false) => right.evaluate? answer?
    | settled => settled

theorem evaluate?_negation (answer? : String → Option Decision) (left : Option Node) (right : Node)
    (parameters : List String) :
    (operator .not left (some right) parameters).evaluate? answer? =
      (right.evaluate? answer?).map (·.map (!·)) := by
  cases left <;> rfl

theorem evaluate?_leftless (answer? : String → Option Decision) {joint : Operator}
    (joins : joint ≠ .not) (right : Node) (parameters : List String) :
    (operator joint none (some right) parameters).evaluate? answer? =
      some (.error (.evaluation (.noLeftOperand joint))) := by
  cases joint with
  | and | or => rfl
  | not => exact absurd rfl joins

theorem evaluate?_binary_of_none {joint : Operator} (joins : joint ≠ .not) {left : Node}
    (right : Node) (parameters : List String) (undecided : left.evaluate? answer? = none) :
    (operator joint (some left) (some right) parameters).evaluate? answer? = none := by
  cases joint with
  | and | or => rw [evaluate?, undecided]
  | not => exact absurd rfl joins

theorem evaluate?_binary_of_error {joint : Operator} (joins : joint ≠ .not) {left : Node}
    (right : Node) (parameters : List String) {error : PolicyError}
    (decided : left.evaluate? answer? = some (.error error)) :
    (operator joint (some left) (some right) parameters).evaluate? answer? =
      some (.error error) := by
  cases joint with
  | and | or => rw [evaluate?, decided]
  | not => exact absurd rfl joins

theorem evaluate?_binary_of_ok {joint : Operator} (joins : joint ≠ .not) {left : Node}
    (right : Node) (parameters : List String) {value : Bool}
    (decided : left.evaluate? answer? = some (.ok value)) :
    (operator joint (some left) (some right) parameters).evaluate? answer? =
      if joint.leavesOpen value then right.evaluate? answer? else some (.ok value) := by
  cases joint with
  | and | or =>
    rw [evaluate?, decided]
    cases value <;> rfl
  | not => exact absurd rfl joins

/-- Closing open leaves changes no decision that was reached without them. -/
theorem evaluate?_mono
    (closes : ∀ text decision, answer? text = some decision → other? text = some decision)
    {tree : Node} {decision : Decision} (decided : tree.evaluate? answer? = some decision) :
    tree.evaluate? other? = some decision := by
  induction tree using evaluation_induction generalizing decision with
  | leaf text parameters => exact closes text decision decided
  | rightless => exact decided
  | negation left right _ induction =>
    rw [evaluate?_negation] at decided ⊢
    obtain ⟨inner, reached, rfl⟩ := Option.map_eq_some_iff.1 decided
    rw [induction reached, Option.map_some]
  | leftless joint right parameters joins =>
    rw [evaluate?_leftless _ joins] at decided ⊢
    exact decided
  | binary joint left right parameters joins left_induction right_induction =>
    cases reached : left.evaluate? answer? with
    | none =>
      rw [evaluate?_binary_of_none joins right parameters reached] at decided
      cases decided
    | some inner =>
      have kept := left_induction reached
      cases inner with
      | error =>
        rw [evaluate?_binary_of_error joins right parameters reached] at decided
        rw [evaluate?_binary_of_error joins right parameters kept, decided]
      | ok value =>
        rw [evaluate?_binary_of_ok joins right parameters reached] at decided
        rw [evaluate?_binary_of_ok joins right parameters kept]
        split at decided
        next is_open => rw [if_pos is_open, right_induction decided]
        next is_settled => rw [if_neg is_settled, decided]

/-- Answering the visited leaves as evaluation does gives the decision of evaluation. -/
theorem evaluate?_eq_decision {tree : Node}
    (agrees : ∀ text ∈ tree.visited leaf, answer? text = some (leaf text).decision) :
    tree.evaluate? answer? = some (tree.evaluate leaf).decision := by
  induction tree using evaluation_induction with
  | leaf text parameters => exact agrees text List.mem_cons_self
  | rightless => rfl
  | negation left right _ induction =>
    rw [visited_negation] at agrees
    rw [evaluate?_negation, induction agrees, evaluate_negation]
    cases decided : (right.evaluate leaf).decision with
    | ok value => rw [Run.andThen_of_ok _ decided]; rfl
    | error => rw [Run.andThen_of_error _ decided, decided]; rfl
  | leftless joint right parameters joins =>
    rw [evaluate?_leftless _ joins, evaluate_leftless leaf joins]
    rfl
  | binary joint left right parameters joins left_induction right_induction =>
    have reached := left_induction fun text member =>
      agrees text ((mem_visited_binary joins).2 (Or.inl member))
    rw [evaluate_binary leaf joins]
    cases decided : (left.evaluate leaf).decision with
    | error =>
      rw [decided] at reached
      rw [evaluate?_binary_of_error joins right parameters reached, Run.andThen_of_error _ decided,
        decided]
    | ok value =>
      rw [decided] at reached
      rw [evaluate?_binary_of_ok joins right parameters reached, Run.andThen_of_ok _ decided]
      dsimp only
      split
      next is_open =>
        apply right_induction
        intro text member
        apply agrees text
        exact (mem_visited_binary joins).2 (Or.inr ⟨⟨value, decided, is_open⟩, member⟩)
      next => rfl

/-- The decision of a tree depends on its leaves only through their decisions. -/
theorem decision_congr {Other : Type} {given : String → Run Other}
    (agree : ∀ text, (leaf text).decision = (given text).decision) (tree : Node) :
    (tree.evaluate leaf).decision = (tree.evaluate given).decision := by
  have first : tree.evaluate? (fun text => some (leaf text).decision) =
      some (tree.evaluate leaf).decision := evaluate?_eq_decision fun _ _ => rfl
  have second : tree.evaluate? (fun text => some (leaf text).decision) =
      some (tree.evaluate given).decision :=
    evaluate?_eq_decision fun text _ => congrArg some (agree text)
  exact Option.some.inj (first.symm.trans second)

/-- The leaves that evaluation visits depend on the leaves only through their decisions. -/
theorem visited_congr {Other : Type} {given : String → Run Other}
    (agree : ∀ text, (leaf text).decision = (given text).decision) (tree : Node) :
    tree.visited leaf = tree.visited given := by
  induction tree using evaluation_induction with
  | leaf | rightless => rfl
  | negation left right _ induction => rw [visited_negation, visited_negation, induction]
  | leftless joint right _ joins => rw [visited_leftless leaf joins, visited_leftless given joins]
  | binary joint left right _ joins left_induction right_induction =>
    rw [visited_binary leaf joins, visited_binary given joins, left_induction, right_induction,
      decision_congr agree]

/-- A decision that is reached with answers like those of evaluation is that of evaluation. -/
theorem eq_decision_of_evaluate? {tree : Node} {decision : Decision}
    (agrees : ∀ text ∈ tree.visited leaf, ∀ given, answer? text = some given →
      given = (leaf text).decision)
    (decided : tree.evaluate? answer? = some decision) :
    decision = (tree.evaluate leaf).decision := by
  -- Close the visited leaves that are open as evaluation decides them.
  let closed? (text : String) : Option Decision :=
    if text ∈ tree.visited leaf then some (leaf text).decision else answer? text
  have kept : tree.evaluate? closed? = some decision := by
    apply evaluate?_mono _ decided
    intro text given answered
    by_cases visits : text ∈ tree.visited leaf
    · rw [agrees text visits given answered]
      exact if_pos visits
    · exact (if_neg visits).trans answered
  have whole : tree.evaluate? closed? = some (tree.evaluate leaf).decision :=
    evaluate?_eq_decision fun text visits => if_pos visits
  exact Option.some.inj (kept.symm.trans whole)

/-- A tree with an open leaf is open if evaluation visits that leaf and the visited leaves which
hold or do not hold are answered in no other way. -/
theorem evaluate?_eq_none {tree : Node} {text : String} (visits : text ∈ tree.visited leaf)
    (undecided : answer? text = none)
    (agrees : ∀ other ∈ tree.visited leaf, ∀ value, (leaf other).decision = .ok value →
      ∀ given, answer? other = some given → given = .ok value) :
    tree.evaluate? answer? = none := by
  induction tree using evaluation_induction with
  | leaf other parameters =>
    rw [List.mem_singleton.1 visits] at undecided
    exact undecided
  | rightless => cases visits
  | negation left right _ induction =>
    rw [visited_negation] at visits agrees
    rw [evaluate?_negation, induction visits agrees, Option.map_none]
  | leftless joint right _ joins =>
    rw [visited_leftless leaf joins] at visits
    cases visits
  | binary joint left right parameters joins left_induction right_induction =>
    have agrees_left : ∀ other ∈ left.visited leaf, ∀ value, (leaf other).decision = .ok value →
        ∀ given, answer? other = some given → given = .ok value :=
      fun other member => agrees other ((mem_visited_binary joins).2 (Or.inl member))
    rcases (mem_visited_binary joins).1 visits with first | ⟨⟨value, decided, is_open⟩, second⟩
    · exact evaluate?_binary_of_none joins right parameters (left_induction first agrees_left)
    · have right_none := right_induction second fun other member =>
        agrees other ((mem_visited_binary joins).2 (Or.inr ⟨⟨value, decided, is_open⟩, member⟩))
      cases reached : left.evaluate? answer? with
      | none => exact evaluate?_binary_of_none joins right parameters reached
      | some inner =>
        -- The left operand holds or does not hold, so none of its visited leaves fails.
        have same : inner = .ok value := by
          rw [← decided]
          apply eq_decision_of_evaluate? _ reached
          intro other member given answered
          obtain ⟨found, known⟩ := exists_value_of_visited decided member
          rw [known]
          exact agrees_left other member found known given answered
        rw [same] at reached
        rw [evaluate?_binary_of_ok joins right parameters reached, if_pos is_open, right_none]

end Node

end AccessPolicy
