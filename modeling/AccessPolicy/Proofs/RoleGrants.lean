import AccessPolicy.Proofs.Comparison

/-!
# More roles

Where rules only ask for roles and never negate, more roles do not turn an allowed check into a
denied one. Two who ask with more and with fewer roles visit different leaves, as a role that the
other lacks ends a disjunction sooner and a conjunction later. So the run with more roles may fail,
but only in a call that the other run does not make, since a failing call makes every run fail that
makes it.
-/

namespace AccessPolicy

/-- Where the first decision allows, the second one does not deny. -/
def KeepsAllowance (first second : Decision) : Prop := first = .ok true → second ≠ .ok false

/-! ## Trees without negation -/

/-- The decision of two operands joined by an operator other than `not`. -/
def Operator.join (joint : Operator) (left right : Decision) : Decision :=
  match left with
  | .ok value => if joint.leavesOpen value then right else .ok value
  | .error error => .error error

theorem KeepsAllowance.join {joint : Operator} (joins : joint ≠ .not)
    {left right other_left other_right : Decision} (keeps_left : KeepsAllowance left other_left)
    (keeps_right : KeepsAllowance right other_right) :
    KeepsAllowance (joint.join left right) (joint.join other_left other_right) := by
  intro allowed denied
  cases joint with
  | not => exact joins rfl
  | and =>
    obtain ⟨rfl, right_allowed⟩ : left = .ok true ∧ right = .ok true := by
      rcases left with _ | _ | _ <;> simp_all [Operator.join, Operator.leavesOpen]
    have left_kept := keeps_left rfl
    have right_kept := keeps_right right_allowed
    rcases other_left with _ | _ | _ <;> simp_all [Operator.join, Operator.leavesOpen]
  | or =>
    -- Both operands of a denied disjunction are denied, so neither was allowed before.
    obtain ⟨rfl, right_denied⟩ : other_left = .ok false ∧ other_right = .ok false := by
      rcases other_left with _ | _ | _ <;> simp_all [Operator.join, Operator.leavesOpen]
    have left_refused := mt keeps_left (not_not_intro rfl)
    have right_refused := mt keeps_right (not_not_intro right_denied)
    rcases left with _ | _ | _ <;> simp_all [Operator.join, Operator.leavesOpen]

namespace Node

variable {Event : Type} {leaf given : String → Run Event}

/-- The operators in a tree. -/
def operators : Node → List Operator
  | .leaf _ _ => []
  | .operator joint none none _ => [joint]
  | .operator joint (some left) none _ => joint :: left.operators
  | .operator joint none (some right) _ => joint :: right.operators
  | .operator joint (some left) (some right) _ => joint :: (left.operators ++ right.operators)

theorem decision_binary (leaf : String → Run Event) {joint : Operator} (joins : joint ≠ .not)
    (left right : Node) (parameters : List String) :
    ((operator joint (some left) (some right) parameters).evaluate leaf).decision =
      joint.join (left.evaluate leaf).decision (right.evaluate leaf).decision := by
  rw [evaluate_binary leaf joins]
  cases decided : (left.evaluate leaf).decision with
  | error => rw [Run.andThen_of_error _ decided, decided, Operator.join]
  | ok value =>
    rw [Run.andThen_of_ok _ decided, Operator.join]
    dsimp only
    split <;> rfl

/-- A tree without `not` keeps allowing if its leaves do. -/
theorem keepsAllowance_evaluate {tree : Node} (positive : .not ∉ tree.operators)
    (keeps : ∀ text ∈ tree.leaves, KeepsAllowance (leaf text).decision (given text).decision) :
    KeepsAllowance (tree.evaluate leaf).decision (tree.evaluate given).decision := by
  induction tree using evaluation_induction with
  | leaf text parameters => exact keeps text List.mem_cons_self
  | rightless => exact nofun
  | negation left right parameters _ =>
    cases left <;> exact absurd List.mem_cons_self positive
  | leftless joint right parameters joins =>
    rw [evaluate_leftless leaf joins]
    exact nofun
  | binary joint left right parameters joins left_induction right_induction =>
    have operands := mt (List.mem_cons_of_mem joint) positive
    rw [List.mem_append, not_or] at operands
    rw [decision_binary leaf joins, decision_binary given joins]
    exact .join joins
      (left_induction operands.1 fun text member => keeps text (List.mem_append_left _ member))
      (right_induction operands.2 fun text member => keeps text (List.mem_append_right _ member))

end Node

/-! ## Engines that ask for roles -/

/-- No rule of an engine negates, and each leaf is a constant, asks for a role or refers to a
rule. -/
structure Engine.AsksRoles (engine : Engine) : Prop where
  /-- No operator is `not`. -/
  positive : ∀ entry ∈ engine.rules, .not ∉ entry.2.tree.operators
  /-- No leaf has another form. -/
  leaves : ∀ entry ∈ engine.rules, ∀ text ∈ entry.2.tree.leaves,
    text ∈ Leaf.constants ∨ ∃ value, text = "role:" ++ value ∨ text = "rule:" ++ value

theorem Engine.AsksRoles.leaf_cases {engine : Engine} (asks : engine.AsksRoles)
    {entry : String × CompiledRule} (configured : entry ∈ engine.rules) {text : String}
    (member : text ∈ entry.2.tree.leaves) :
    (∃ value, Leaf.ofText text = .constant value) ∨ (∃ value, Leaf.ofText text = .role value) ∨
      ∃ value, Leaf.ofText text = .rule value := by
  rcases asks.leaves entry configured text member with constant | ⟨value, rfl | rfl⟩
  · exact Or.inl (Leaf.exists_constant_of_mem_constants constant)
  · exact Or.inr (Or.inl ⟨value, Leaf.ofText_role value⟩)
  · exact Or.inr (Or.inr ⟨value, Leaf.ofText_rule value⟩)

namespace Inquiry

variable {engine : Engine} {first second : Identity} {inquiry : Inquiry} {rule name : String}
  {levels : Nat} {active : List String} {error : PolicyError}

theorem compares_of_more_roles (asks : engine.AsksRoles)
    (more : first.roleNames ⊆ second.roleNames) (parameters : Json) :
    Compares KeepsAllowance ⟨engine, first, parameters⟩ ⟨engine, second, parameters⟩ where
  engine := rfl
  failures _ := nofun
  trees entry configured _ _ := Node.keepsAllowance_evaluate (asks.positive entry configured)
  references _ _ _ _ _ _ := rfl
  leaves entry configured text member plain := by
    rcases asks.leaf_cases configured member with
      ⟨value, read⟩ | ⟨value, read⟩ | ⟨value, read⟩
    · rw [read]
      rintro ⟨⟩ ⟨⟩
    · rw [read]
      simp only [Leaf.evaluate, ruleless, surroundings, Option.any_some, Run.decision_settled,
        Identity.hasRole, List.contains_eq_mem]
      intro allowed denied
      simp only [Except.ok.injEq, decide_eq_true_eq, decide_eq_false_iff_not] at allowed denied
      exact denied (more allowed)
    · exact absurd read (plain value)

/-! ## Calls that fail -/

/-- Why a call ends before a rule is evaluated: its name is active, or no rule is used for it. -/
def EndsAt (inquiry : Inquiry) (active : List String) (name : String) (error : PolicyError) :
    Prop :=
  (name ∈ active ∧ error = .cyclicRule (active ++ [name])) ∨
    (name ∉ active ∧ inquiry.engine.resolve? name = none ∧ error = .unknownRule name)

theorem Calls.decision_of_endsAt (called : inquiry.Calls rule levels active name)
    (ends : inquiry.EndsAt active name error) :
    (inquiry.decide levels active name).decision = .error error := by
  rcases ends with ⟨old, rfl⟩ | ⟨fresh, unresolved, rfl⟩
  · rw [decide_of_mem _ old]
    rfl
  · cases levels with
    | zero => exact absurd called.mem_active fresh
    | succ levels =>
      rw [decide_of_unresolved levels fresh unresolved]
      rfl

/-- Where rules only ask for roles, a call fails because a call below it, or itself, ends early. -/
theorem Calls.exists_endsAt (asks : inquiry.engine.AsksRoles)
    (called : inquiry.Calls rule levels active name)
    (fails : (inquiry.decide levels active name).decision = .error error) :
    ∃ levels active name, inquiry.Calls rule levels active name ∧
      inquiry.EndsAt active name error := by
  induction called using Calls.run_induction with
  | old levels active name called old =>
    refine ⟨levels, active, name, called, Or.inl ⟨old, ?_⟩⟩
    rw [decide_of_mem _ old] at fails
    cases fails
    rfl
  | unresolved levels active name called fresh unresolved =>
    refine ⟨levels + 1, active, name, called, Or.inr ⟨fresh, unresolved, ?_⟩⟩
    rw [decide_of_unresolved levels fresh unresolved] at fails
    cases fails
    rfl
  | resolved levels active name called fresh resolved compiled resolves induction =>
    have configured := Engine.mem_rules_of_resolve? resolves
    rw [decision_of_resolved levels fresh resolves] at fails
    rcases Node.exists_visited_of_error fails with ⟨text, visits, inner⟩ | ⟨lacks, -⟩
    · have member := Node.visited_subset_leaves _ visits
      rcases asks.leaf_cases configured member with
        ⟨value, read⟩ | ⟨value, read⟩ | ⟨value, refers⟩
      · rw [leafRun, Leaf.evaluateText, read] at inner
        cases inner
      · rw [leafRun, Leaf.evaluateText, read] at inner
        cases inner
      · rw [leafRun_of_rule _ _ _ refers] at inner
        exact induction text value visits refers inner
    · exact absurd (Engine.complete_tree_of_mem_rules configured) lacks

/-- Where one who asks is answered and another is not, the other makes a call that ends early and
that the one does not make. -/
theorem exists_call_apart {first second : Inquiry} (same : second.engine = first.engine)
    (asks : second.engine.AsksRoles) {value : Bool}
    (decided : (first.run rule).decision = .ok value)
    (failed : (second.run rule).decision = .error error) :
    ∃ levels active name, second.Calls rule levels active name ∧
      ¬first.Calls rule levels active name ∧ second.EndsAt active name error := by
  obtain ⟨levels, active, name, called, ends⟩ := Calls.checked.exists_endsAt asks failed
  refine ⟨levels, active, name, called, ?_, ends⟩
  -- The call would end in the same way for the one, and the run would fail.
  intro reached
  have ends_too : first.EndsAt active name error := by
    rw [EndsAt, same] at ends
    exact ends
  have fails := reached.decision_run_of_error (reached.decision_of_endsAt ends_too)
  rw [decided] at fails
  cases fails

end Inquiry

namespace Session

/-- Where rules only ask for roles, who has all roles of another and perhaps more is not denied what
the other is allowed. The check allows too, or it fails in a call that the other did not make. -/
theorem ok_or_error_of_more_roles (engine : Engine) (asks : engine.AsksRoles)
    (first second : Identity) (more : first.roleNames ⊆ second.roleNames)
    (options : SessionOptions) (rule : String) (parameters : Json)
    (allowed : ((engine.session first options).check rule parameters).answer = .ok true) :
    ((engine.session second options).check rule parameters).answer = .ok true ∨
      ∃ error, ((engine.session second options).check rule parameters).answer = .error error ∧
        ∃ levels active name,
          ((engine.session second options).inquiry parameters).Calls rule levels active name ∧
          ¬((engine.session first options).inquiry parameters).Calls rule levels active name ∧
          ((engine.session second options).inquiry parameters).EndsAt active name error := by
  have kept : KeepsAllowance ((engine.session first options).check rule parameters).answer
      ((engine.session second options).check rule parameters).answer :=
    relation_answer (Inquiry.compares_of_more_roles asks more _) rfl
  cases answers : ((engine.session second options).check rule parameters).answer with
  | ok value =>
    cases value with
    | true => exact Or.inl rfl
    | false => exact absurd answers (kept allowed)
  | error error =>
    obtain ⟨complete, first_run⟩ := run_of_answer_eq_ok allowed
    have second_run : (engine.session second options).run rule parameters =
        ((engine.session second options).inquiry parameters).run rule := by
      rcases (engine.session second options).run_cases rule parameters with
        ⟨strict, missing, incomplete, -⟩ | ⟨-, decides⟩
      · exact absurd ⟨strict, Option.isSome_of_eq_some incomplete⟩ complete
      · exact decides
    have decided : ((engine.session first options).run rule parameters).decision = .ok true :=
      allowed
    have failed : ((engine.session second options).run rule parameters).decision = .error error :=
      answers
    rw [first_run] at decided
    rw [second_run] at failed
    exact Or.inr ⟨error, rfl, Inquiry.exists_call_apart rfl asks decided failed⟩

/-- The derivation of a rule that asks for two roles and refers to a rule in between. -/
def detourRule : Derivation .disjunction :=
  .disjoined
    (.conjoined (.plain (.expression "role:x")) (.operator "and")
      (.lastConjunct (.plain (.expression "rule:c"))) (by decide +kernel))
    (.operator "or") (.lastDisjunct (.lastConjunct (.plain (.expression "role:y"))))
    (by decide +kernel)

/-- An engine with this rule under the name `a`, and no rule `c`. -/
def detourEngine : Engine where
  configuration := ⟨[("a", "role:x and rule:c or role:y")], by decide +kernel⟩
  rules := [("a", .ofTree detourRule.tree)]
  compiled := by
    have derived : detourRule.lexemes = Lexeme.ofText "role:x and rule:c or role:y" := by
      decide +kernel
    refine Configuration.compile_eq_ok_iff.2 (.cons ?_ .nil)
    exact Configuration.compileRule_eq_ok_iff.2 ⟨rfl, detourRule, derived, rfl⟩
  options := {}

/-- An identity with the given role names. -/
def withRoles (names : List String) : Identity :=
  ⟨{ roles := names.map fun name => ⟨none, some name⟩ }⟩

theorem ok_or_error_of_more_roles_detour :
    detourEngine.AsksRoles ∧ (withRoles ["y"]).roleNames ⊆ (withRoles ["x", "y"]).roleNames ∧
      ((detourEngine.session (withRoles ["y"]) {}).check "a" .null).answer = .ok true ∧
      ((detourEngine.session (withRoles ["x", "y"]) {}).check "a" .null).answer =
        .error (.unknownRule "c") ∧
      ∃ levels active name,
        ((detourEngine.session (withRoles ["x", "y"]) {}).inquiry .null).Calls "a" levels active
          name ∧
        ¬((detourEngine.session (withRoles ["y"]) {}).inquiry .null).Calls "a" levels active name ∧
        ((detourEngine.session (withRoles ["x", "y"]) {}).inquiry .null).EndsAt active name
          (.unknownRule "c") := by
  have asks : detourEngine.AsksRoles := by
    constructor
    · decide
    · rintro entry member text listed
      obtain rfl := List.mem_singleton.1 member
      have spelt : text ∈ ["role:" ++ "x", "rule:" ++ "c", "role:" ++ "y"] := listed
      simp only [List.mem_cons, List.not_mem_nil, or_false] at spelt
      rcases spelt with rfl | rfl | rfl
      · exact Or.inr ⟨_, Or.inl rfl⟩
      · exact Or.inr ⟨_, Or.inr rfl⟩
      · exact Or.inr ⟨_, Or.inl rfl⟩
  have more : (withRoles ["y"]).roleNames ⊆ (withRoles ["x", "y"]).roleNames := by decide
  have allowed : ((detourEngine.session (withRoles ["y"]) {}).check "a" .null).answer =
      .ok true := by
    decide +kernel
  have fails : ((detourEngine.session (withRoles ["x", "y"]) {}).check "a" .null).answer =
      .error (.unknownRule "c") := by
    decide +kernel
  refine ⟨asks, more, allowed, fails, ?_⟩
  rcases ok_or_error_of_more_roles detourEngine asks _ _ more {} "a" .null allowed with
    denied | ⟨error, same, apart⟩
  · rw [fails] at denied
    cases denied
  · rw [fails] at same
    cases same
    exact apart

end Session

end AccessPolicy
