import AccessPolicy.Engine.Walk
import AccessPolicy.Proofs.Evaluation
import AccessPolicy.Proofs.Names
import AccessPolicy.Proofs.References

/-!
# Calls of a run

The run of a rule calls names: the rule itself, and then every name that a visited leaf of a called
name spells. Each call knows the names that are active above it. The names that a run can call are
as many as the levels that it starts with, so a call without a level left is to an active name.
-/

namespace AccessPolicy

namespace Run

variable {Event : Type}

theorem mem_events_enclosed {event : Event} {before : List Event} {run : Run Event}
    {after : Decision → List Event} :
    event ∈ (enclosed before run after).events ↔
      event ∈ before ∨ event ∈ run.events ∨ event ∈ after run.decision := by
  rw [enclosed, List.mem_append, List.mem_append, or_assoc]

end Run

namespace Inquiry

variable {inquiry : Inquiry} {rule name other resolved text value : String} {levels depth : Nat}
  {active : List String} {compiled : CompiledRule} {event : Happening} {error : PolicyError}

/-- The run of a reference in the rule that is used for `name`. -/
def referenceRun (inquiry : Inquiry) (levels : Nat) (active : List String)
    (name reference : String) : Run Happening :=
  .enclosed [.nested name reference (active.length + 1)]
    (inquiry.decide levels (active ++ [name]) reference) fun _ => []

/-- The run of a leaf in the rule that is used for `name`. -/
def leafRun (inquiry : Inquiry) (levels : Nat) (active : List String) (name : String) :
    String → Run Happening :=
  Leaf.evaluateText (inquiry.surroundings (inquiry.referenceRun levels active name))

/-! ## Deciding a name -/

theorem decide_of_mem (levels : Nat) (old : name ∈ active) :
    inquiry.decide levels active name = cycle active name := by
  cases levels with
  | zero => rfl
  | succ levels => rw [decide, if_pos old]

theorem decide_of_unresolved (levels : Nat) (fresh : name ∉ active)
    (unresolved : inquiry.engine.resolve? name = none) :
    inquiry.decide (levels + 1) active name =
      .enclosed [.entered name active.length] (.failed (.unknownRule name))
        fun decision => [.exited name active.length decision] := by
  rw [decide, if_neg fresh]
  simp only [evaluateResolved, unresolved]

theorem decide_of_resolved (levels : Nat) (fresh : name ∉ active)
    (resolves : inquiry.engine.resolve? name = some (resolved, compiled)) :
    inquiry.decide (levels + 1) active name =
      .enclosed [.entered name active.length]
        (.enclosed (if resolved = name then [] else [.fellBack name active.length])
          (compiled.tree.evaluate (inquiry.leafRun levels active name)) fun _ => [])
        fun decision => [.exited name active.length decision] := by
  rw [decide, if_neg fresh]
  simp only [evaluateResolved, resolves]
  rfl

theorem decision_of_resolved (levels : Nat) (fresh : name ∉ active)
    (resolves : inquiry.engine.resolve? name = some (resolved, compiled)) :
    (inquiry.decide (levels + 1) active name).decision =
      (compiled.tree.evaluate (inquiry.leafRun levels active name)).decision := by
  rw [decide_of_resolved levels fresh resolves, Run.decision_enclosed, Run.decision_enclosed]

/-- What happens while a fresh name is decided: it is entered and left, the default rule may be
used, and leaves are visited. -/
theorem mem_events_of_resolved (levels : Nat) (fresh : name ∉ active)
    (resolves : inquiry.engine.resolve? name = some (resolved, compiled)) :
    event ∈ (inquiry.decide (levels + 1) active name).events ↔
      event = .entered name active.length ∨
      (resolved ≠ name ∧ event = .fellBack name active.length) ∨
      (∃ text ∈ compiled.tree.visited (inquiry.leafRun levels active name),
        event ∈ (inquiry.leafRun levels active name text).events) ∨
      event = .exited name active.length (inquiry.decide (levels + 1) active name).decision := by
  rw [decide_of_resolved levels fresh resolves]
  simp only [Run.mem_events_enclosed, Run.decision_enclosed, List.mem_singleton, List.not_mem_nil,
    or_false, Node.events_evaluate, List.mem_flatMap, or_assoc]
  split
  next same => simp [same]
  next differ => simp [differ]

theorem entered_mem_events_of_fresh (levels : Nat) (fresh : name ∉ active) :
    .entered name active.length ∈ (inquiry.decide (levels + 1) active name).events := by
  cases resolves : inquiry.engine.resolve? name with
  | none =>
    rw [decide_of_unresolved levels fresh resolves, Run.mem_events_enclosed]
    exact Or.inl List.mem_cons_self
  | some found => exact (mem_events_of_resolved levels fresh resolves).2 (Or.inl rfl)

/-! ## Visiting a leaf -/

theorem leafRun_of_rule (levels : Nat) (active : List String) (name : String)
    (refers : Leaf.ofText text = .rule value) :
    inquiry.leafRun levels active name text =
      inquiry.referenceRun levels active name (inquiry.parameters.fill value) := by
  rw [leafRun, Leaf.evaluateText, refers]
  rfl

/-- A leaf that refers to no rule is decided by the remote check, or at once; then it fails only if
it has no meaning. -/
theorem leafRun_of_ruleless (levels : Nat) (active : List String) (name : String)
    (plain : ∀ value, Leaf.ofText text ≠ .rule value) :
    (∃ check address, inquiry.engine.options.remoteCheck? = some check ∧
      inquiry.leafRun levels active name text =
        ⟨[.remoteAsked address], check address inquiry.identity inquiry.parameters⟩) ∨
    ∃ decision, inquiry.leafRun levels active name text = .settled decision ∧
      ∀ error, decision = .error error →
        ∃ other, Leaf.ofText text = .malformed other ∧
          error = .evaluation (.malformedLeaf other) := by
  rw [leafRun, Leaf.evaluateText]
  cases read : Leaf.ofText text with
  | rule value => exact absurd read (plain value)
  | remote address =>
    rw [Leaf.evaluate]
    cases supplied : inquiry.engine.options.remoteCheck? with
    | none =>
      simp only [surroundings, supplied, Option.map_none]
      exact Or.inr ⟨_, rfl, nofun⟩
    | some check =>
      simp only [surroundings, supplied, Option.map_some]
      exact Or.inl ⟨check, _, rfl, rfl⟩
  | malformed other =>
    refine Or.inr ⟨_, rfl, ?_⟩
    rintro error ⟨⟩
    exact ⟨other, rfl, rfl⟩
  | _ => exact Or.inr ⟨_, rfl, nofun⟩

/-- What happens while a leaf is visited belongs to a reference or to a remote address. -/
theorem exists_rule_of_mem_events
    (member : event ∈ (inquiry.leafRun levels active name text).events)
    (not_remote : ∀ address, event ≠ .remoteAsked address) :
    ∃ value, Leaf.ofText text = .rule value ∧
      event ∈ (inquiry.referenceRun levels active name (inquiry.parameters.fill value)).events := by
  by_cases refers : ∃ value, Leaf.ofText text = .rule value
  · obtain ⟨value, refers⟩ := refers
    rw [leafRun_of_rule _ _ _ refers] at member
    exact ⟨value, refers, member⟩
  · rcases leafRun_of_ruleless levels active name (not_exists.1 refers) with
      ⟨check, address, -, run⟩ | ⟨decision, run, -⟩
    · rw [run] at member
      exact absurd (List.mem_singleton.1 member) (not_remote address)
    · rw [run] at member
      cases member

/-! ## Calls -/

/-- The calls that the run of a rule makes, with the levels that are left and the names that are
active above them. -/
inductive Calls (inquiry : Inquiry) (rule : String) : Nat → List String → String → Prop
  /-- The rule is called with all levels and below no name. -/
  | checked : inquiry.Calls rule inquiry.engine.activeBound [] rule
  /-- A called name that is not active calls the names that its visited leaves spell. -/
  | nested {levels : Nat} {active : List String} {name resolved text value : String}
      {compiled : CompiledRule} (caller : inquiry.Calls rule (levels + 1) active name)
      (fresh : name ∉ active)
      (resolves : inquiry.engine.resolve? name = some (resolved, compiled))
      (visits : text ∈ compiled.tree.visited (inquiry.leafRun levels active name))
      (refers : Leaf.ofText text = .rule value) :
      inquiry.Calls rule levels (active ++ [name]) (inquiry.parameters.fill value)

/-- Every event of a call is an event of the run. -/
theorem Calls.events_subset (called : inquiry.Calls rule levels active name) :
    (inquiry.decide levels active name).events ⊆ (inquiry.run rule).events := by
  induction called with
  | checked => exact List.Subset.refl _
  | nested caller fresh resolves visits refers induction =>
    intro event member
    apply induction
    refine (mem_events_of_resolved _ fresh resolves).2 (Or.inr (Or.inr (Or.inl ⟨_, visits, ?_⟩)))
    rw [leafRun_of_rule _ _ _ refers, referenceRun, Run.mem_events_enclosed]
    exact Or.inr (Or.inl member)

/-- A call that fails makes the run fail. -/
theorem Calls.decision_run_of_error (called : inquiry.Calls rule levels active name)
    (fails : (inquiry.decide levels active name).decision = .error error) :
    (inquiry.run rule).decision = .error error := by
  induction called with
  | checked => exact fails
  | nested caller fresh resolves visits refers induction =>
    apply induction
    rw [decision_of_resolved _ fresh resolves]
    apply Node.decision_of_visited_error visits
    rw [leafRun_of_rule _ _ _ refers]
    exact fails

theorem Calls.exists_of_entered (called : inquiry.Calls rule levels active name)
    (entered : .entered other depth ∈ (inquiry.decide levels active name).events) :
    ∃ left above, inquiry.Calls rule (left + 1) above other ∧ other ∉ above ∧
      above.length = depth := by
  induction levels generalizing active name with
  | zero => cases List.mem_singleton.1 entered
  | succ levels induction =>
    by_cases old : name ∈ active
    · rw [decide_of_mem _ old] at entered
      cases List.mem_singleton.1 entered
    · cases resolves : inquiry.engine.resolve? name with
      | none =>
        rw [decide_of_unresolved levels old resolves] at entered
        simp only [Run.mem_events_enclosed, List.mem_singleton, Run.failed, Run.events_settled,
          List.not_mem_nil, reduceCtorEq, or_false] at entered
        cases entered
        exact ⟨levels, active, called, old, rfl⟩
      | some found =>
        rcases (mem_events_of_resolved levels old resolves).1 entered with
          first | ⟨-, ⟨⟩⟩ | ⟨text, visits, inner⟩ | ⟨⟨⟩⟩
        · cases first
          exact ⟨levels, active, called, old, rfl⟩
        · obtain ⟨value, refers, within⟩ := exists_rule_of_mem_events inner nofun
          rw [referenceRun, Run.mem_events_enclosed] at within
          rcases within with ahead | within | ⟨⟨⟩⟩
          · cases List.mem_singleton.1 ahead
          · exact induction (called.nested old resolves visits refers) within

/-- The names that a run enters are those that it calls below other names. -/
theorem entered_mem_events_run_iff :
    .entered name depth ∈ (inquiry.run rule).events ↔
      ∃ levels active, inquiry.Calls rule (levels + 1) active name ∧ name ∉ active ∧
        active.length = depth := by
  constructor
  · exact Calls.checked.exists_of_entered
  · rintro ⟨levels, active, called, fresh, rfl⟩
    exact called.events_subset (entered_mem_events_of_fresh levels fresh)

/-! ## Levels -/

/-- The names that a run can call. -/
def callable (inquiry : Inquiry) (rule : String) : List String :=
  rule :: (inquiry.engine.rules.flatMap fun entry => entry.2.tree.leaves).filterMap fun text =>
    match Leaf.ofText text with
    | .rule value => some (inquiry.parameters.fill value)
    | _ => none

theorem length_callable (inquiry : Inquiry) (rule : String) :
    (inquiry.callable rule).length = inquiry.engine.activeBound := by
  rw [callable, List.length_cons, List.length_filterMap_eq_countP, Engine.activeBound,
    Nat.add_comm]
  congr
  funext text
  cases Leaf.ofText text <;> rfl

theorem mem_callable
    (resolves : inquiry.engine.resolve? name = some (resolved, compiled))
    (member : text ∈ compiled.tree.leaves) (refers : Leaf.ofText text = .rule value) :
    inquiry.parameters.fill value ∈ inquiry.callable rule := by
  apply List.mem_cons_of_mem
  refine List.mem_filterMap.2 ⟨text, ?_, by rw [refers]⟩
  exact List.mem_flatMap.2 ⟨_, Engine.mem_rules_of_resolve? resolves, member⟩

/-- A call has a level for every name that is not active above it. -/
theorem Calls.unseen_le (called : inquiry.Calls rule levels active name) :
    name ∈ inquiry.callable rule ∧ Names.unseen (inquiry.callable rule) active ≤ levels := by
  induction called with
  | checked =>
    refine ⟨List.mem_cons_self, ?_⟩
    rw [← inquiry.length_callable rule]
    exact Names.unseen_le_length _ _
  | nested caller fresh resolves visits refers induction =>
    obtain ⟨member, enough⟩ := induction
    refine ⟨mem_callable resolves (Node.visited_subset_leaves _ visits) refers, ?_⟩
    have fewer := Names.unseen_concat_lt member fresh
    omega

/-- A call without a level left is to an active name. -/
theorem Calls.mem_active (called : inquiry.Calls rule 0 active name) : name ∈ active := by
  obtain ⟨member, enough⟩ := called.unseen_le
  exact Names.mem_of_unseen_eq_zero (Nat.le_zero.1 enough) member

/-- Induction along a run: a called name is active, or no rule is used for it, or the names that its
visited leaves spell are called. -/
@[elab_as_elim]
theorem Calls.run_induction
    {motive : ∀ levels active name, inquiry.Calls rule levels active name → Prop}
    (old : ∀ levels active name (called : inquiry.Calls rule levels active name),
      name ∈ active → motive levels active name called)
    (unresolved : ∀ levels active name (called : inquiry.Calls rule (levels + 1) active name),
      name ∉ active → inquiry.engine.resolve? name = none → motive (levels + 1) active name called)
    (resolved : ∀ levels active name (called : inquiry.Calls rule (levels + 1) active name)
      (fresh : name ∉ active) (resolved : String) (compiled : CompiledRule)
      (resolves : inquiry.engine.resolve? name = some (resolved, compiled)),
      (∀ text value (visits : text ∈ compiled.tree.visited (inquiry.leafRun levels active name))
        (refers : Leaf.ofText text = .rule value),
        motive levels (active ++ [name]) (inquiry.parameters.fill value)
          (called.nested fresh resolves visits refers)) →
      motive (levels + 1) active name called)
    {levels : Nat} {active : List String} {name : String}
    (called : inquiry.Calls rule levels active name) : motive levels active name called := by
  induction levels generalizing active name with
  | zero => exact old 0 active name called called.mem_active
  | succ levels induction =>
    by_cases is_old : name ∈ active
    · exact old (levels + 1) active name called is_old
    · cases resolves : inquiry.engine.resolve? name with
      | none => exact unresolved levels active name called is_old resolves
      | some found =>
        obtain ⟨used, compiled⟩ := found
        exact resolved levels active name called is_old used compiled resolves
          fun text value visits refers => induction (called.nested is_old resolves visits refers)

end Inquiry

end AccessPolicy
