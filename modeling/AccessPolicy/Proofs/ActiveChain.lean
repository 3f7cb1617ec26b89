import AccessPolicy.Proofs.CycleGuard
import AccessPolicy.Proofs.Cycles
import Mathlib.Data.Finset.Card

/-!
# The chain of active names

A resolver decides names with one chain that it changes on the way: a name is put on the chain
before its rule is evaluated and taken off afterwards, also if the evaluation fails. The only bound
is on how deep its calls are nested. Every call leaves the chain as it found it, the names on the
chain always differ from each other, and all of them are names that the checked rule can lead to; so
calls are never nested deeper than there are such names, and the resolver does what a run does.
-/

namespace AccessPolicy

/-- How far a resolver has come. -/
structure Progress where
  /-- The active names, the checked one first. -/
  chain : List String := []
  /-- The values that the chain was given, in order. -/
  chains : List (List String) := []
  /-- What happened, in order. -/
  events : List Happening := []

namespace Progress

/-- More has happened. -/
def noted (progress : Progress) (events : List Happening) : Progress :=
  { progress with events := progress.events ++ events }

/-- The chain has another value. -/
def given (progress : Progress) (chain : List String) : Progress :=
  { progress with chain := chain, chains := progress.chains ++ [chain] }

@[simp] theorem chain_noted (progress : Progress) (events : List Happening) :
    (progress.noted events).chain = progress.chain := rfl

@[simp] theorem chain_given (progress : Progress) (chain : List String) :
    (progress.given chain).chain = chain := rfl

@[simp] theorem noted_nil (progress : Progress) : progress.noted [] = progress := by
  simp [noted]

end Progress

/-- Work of a resolver. It is cut off where calls are nested too deep. -/
abbrev Resolver (Answer : Type) := StateT Progress Option Answer

namespace Resolver

/-- Notes what happens. -/
def note (events : List Happening) : Resolver Unit := modify fun progress => progress.noted events

/-- Puts a name on the chain. -/
def push (name : String) : Resolver Unit :=
  modify fun progress => progress.given (progress.chain ++ [name])

/-- Takes the last name off the chain. -/
def pop : Resolver Unit := modify fun progress => progress.given progress.chain.dropLast

/-- Work with a name on the chain, which is taken off again however the work decides. -/
def under (name : String) (work : Resolver Decision) : Resolver Decision := do
  push name
  let decision ← work
  pop
  return decision

/-- The first work followed by the one that its truth value asks for. -/
def andThen (work : Resolver Decision) (next : Bool → Resolver Decision) : Resolver Decision := do
  match ← work with
  | .ok value => next value
  | .error error => return .error error

theorem run_under (name : String) (work : Resolver Decision) (before : Progress) :
    (under name work).run before =
      (work.run (before.given (before.chain ++ [name]))).bind fun done =>
        some (done.1, done.2.given done.2.chain.dropLast) := by
  simp [under, push, pop]

end Resolver

open Resolver (note under)

namespace Node

/-- Decides a tree, given how a resolver decides leaf texts. -/
def resolve (leaf : String → Resolver Decision) : Node → Resolver Decision
  | .leaf text _ => leaf text
  | .operator joint _ none _ => return .error (.evaluation (.noRightOperand joint))
  | .operator .not _ (some right) _ => (right.resolve leaf).andThen fun value => return .ok !value
  | .operator .and none (some _) _ => return .error (.evaluation (.noLeftOperand .and))
  | .operator .or none (some _) _ => return .error (.evaluation (.noLeftOperand .or))
  | .operator .and (some left) (some right) _ =>
    (left.resolve leaf).andThen fun value => if value then right.resolve leaf else return .ok false
  | .operator .or (some left) (some right) _ =>
    (left.resolve leaf).andThen fun value => if value then return .ok true else right.resolve leaf

theorem resolve_negation (leaf : String → Resolver Decision) (left : Option Node) (right : Node)
    (parameters : List String) :
    (operator .not left (some right) parameters).resolve leaf =
      (right.resolve leaf).andThen fun value => return .ok !value := by
  cases left <;> rfl

theorem resolve_leftless (leaf : String → Resolver Decision) {joint : Operator}
    (joins : joint ≠ .not) (right : Node) (parameters : List String) :
    (operator joint none (some right) parameters).resolve leaf =
      return .error (.evaluation (.noLeftOperand joint)) := by
  cases joint with
  | and | or => rfl
  | not => exact absurd rfl joins

theorem resolve_binary (leaf : String → Resolver Decision) {joint : Operator}
    (joins : joint ≠ .not) (left right : Node) (parameters : List String) :
    (operator joint (some left) (some right) parameters).resolve leaf =
      (left.resolve leaf).andThen fun value =>
        if joint.leavesOpen value then right.resolve leaf else return .ok value := by
  cases joint with
  | and | or =>
    rw [resolve]
    congr
    funext value
    cases value <;> rfl
  | not => exact absurd rfl joins

end Node

namespace Inquiry

/-- Decides a name for a leaf of the last active name. -/
def callName (call : String → Resolver Decision) (name : String) : Resolver Decision := do
  let active := (← get).chain
  note [.nested (active.getLast?.getD "") name active.length]
  call name

/-- Decides a leaf, given how names are decided. -/
def resolveLeaf (inquiry : Inquiry) (call : String → Resolver Decision) (text : String) :
    Resolver Decision :=
  match Leaf.ofText text with
  | .rule value => callName call (inquiry.parameters.fill value)
  | leaf => do
    let run := leaf.evaluate inquiry.ruleless
    note run.events
    return run.decision

/-- Evaluates the rule that is used for a name, with the name on the chain. -/
def resolveEntered (inquiry : Inquiry) (call : String → Resolver Decision) (name : String)
    (depth : Nat) : Resolver Decision :=
  match inquiry.engine.resolve? name with
  | none => return .error (.unknownRule name)
  | some (resolved, rule) => do
    unless resolved = name do note [.fellBack name depth]
    under name (rule.tree.resolve (inquiry.resolveLeaf call))

/-- Decides a name with calls that are nested at most as deep as the number says. -/
def resolveName (inquiry : Inquiry) : Nat → String → Resolver Decision
  | 0, _ => failure
  | calls + 1, name => do
    let active := (← get).chain
    if name ∈ active then
      note [.cycleMet (active ++ [name])]
      return .error (.cyclicRule (active ++ [name]))
    else
      note [.entered name active.length]
      let decision ← inquiry.resolveEntered (inquiry.resolveName calls) name active.length
      note [.exited name active.length decision]
      return decision

variable {inquiry : Inquiry} {name resolved : String} {compiled : CompiledRule} {before : Progress}

theorem run_callName (call : String → Resolver Decision) (name : String) (before : Progress) :
    (callName call name).run before = (call name).run
      (before.noted [.nested (before.chain.getLast?.getD "") name before.chain.length]) := by
  simp [callName, note]

theorem run_resolveEntered_of_unresolved (call : String → Resolver Decision) (depth : Nat)
    (before : Progress) (unresolved : inquiry.engine.resolve? name = none) :
    (inquiry.resolveEntered call name depth).run before =
      some (.error (.unknownRule name), before) := by
  simp [resolveEntered, unresolved]

theorem run_resolveEntered_of_resolved (call : String → Resolver Decision) (depth : Nat)
    (before : Progress) (resolves : inquiry.engine.resolve? name = some (resolved, compiled)) :
    (inquiry.resolveEntered call name depth).run before =
      (under name (compiled.tree.resolve (inquiry.resolveLeaf call))).run
        (before.noted (if resolved = name then [] else [.fellBack name depth])) := by
  by_cases configured : resolved = name
  · simp [resolveEntered, resolves, configured]
  · simp [resolveEntered, resolves, configured, note]

theorem run_resolveName_of_mem (calls : Nat) (old : name ∈ before.chain) :
    (inquiry.resolveName (calls + 1) name).run before =
      some (.error (.cyclicRule (before.chain ++ [name])),
        before.noted [.cycleMet (before.chain ++ [name])]) := by
  simp [resolveName, note, old]

theorem run_resolveName_of_not_mem (inquiry : Inquiry) (calls : Nat)
    (fresh : name ∉ before.chain) :
    (inquiry.resolveName (calls + 1) name).run before =
      ((inquiry.resolveEntered (inquiry.resolveName calls) name before.chain.length).run
        (before.noted [.entered name before.chain.length])).bind fun done =>
          some (done.1, done.2.noted [.exited name before.chain.length done.1]) := by
  simp [resolveName, note, fresh]

end Inquiry

/-! ## Restoring the chain -/

/-- Work restores the chain if it leaves it as it found it wherever it is not cut off. -/
def Restores (work : Resolver Decision) : Prop :=
  ∀ before decision after, work.run before = some (decision, after) → after.chain = before.chain

namespace Restores

variable {work : Resolver Decision}

theorem pure (decision : Decision) : Restores (pure decision) := by
  rintro before _ after ⟨⟩
  rfl

theorem andThen {next : Bool → Resolver Decision} (first : Restores work)
    (second : ∀ value, Restores (next value)) : Restores (work.andThen next) := by
  intro before decision after done
  rw [Resolver.andThen, StateT.run_bind] at done
  obtain ⟨⟨outcome, middle⟩, begun, finished⟩ := Option.bind_eq_some_iff.1 done
  rw [← first before outcome middle begun]
  cases outcome with
  | ok value => exact second value middle decision after finished
  | error error =>
    cases finished
    rfl

/-- A name that was put on the chain is taken off, whether the work succeeds or fails. -/
theorem under (name : String) (inner : Restores work) : Restores (under name work) := by
  intro before decision after done
  rw [Resolver.run_under] at done
  obtain ⟨⟨outcome, middle⟩, worked, finished⟩ := Option.bind_eq_some_iff.1 done
  cases finished
  rw [Progress.chain_given, inner _ _ _ worked, Progress.chain_given, List.dropLast_concat]

theorem resolve {leaf : String → Resolver Decision} (leaves : ∀ text, Restores (leaf text))
    (tree : Node) : Restores (tree.resolve leaf) := by
  induction tree using Node.evaluation_induction with
  | leaf text parameters => exact leaves text
  | rightless => exact .pure _
  | negation left right parameters induction =>
    rw [Node.resolve_negation]
    exact induction.andThen fun value => .pure _
  | leftless joint right parameters joins =>
    rw [Node.resolve_leftless _ joins]
    exact .pure _
  | binary joint left right parameters joins left_induction right_induction =>
    rw [Node.resolve_binary _ joins]
    refine left_induction.andThen fun value => ?_
    split
    · exact right_induction
    · exact .pure _

end Restores

namespace Inquiry

variable {inquiry : Inquiry} {call : String → Resolver Decision}

theorem restores_resolveLeaf (calls : ∀ name, Restores (call name)) (text : String) :
    Restores (inquiry.resolveLeaf call text) := by
  unfold resolveLeaf
  split
  next value _ =>
    intro before decision after done
    rw [run_callName] at done
    have kept := calls _ _ _ _ done
    exact kept
  next =>
    rintro before _ after ⟨⟩
    rfl

theorem restores_resolveEntered (calls : ∀ name, Restores (call name)) (name : String)
    (depth : Nat) : Restores (inquiry.resolveEntered call name depth) := by
  intro before decision after done
  cases resolves : inquiry.engine.resolve? name with
  | none =>
    rw [run_resolveEntered_of_unresolved _ _ _ resolves] at done
    cases done
    rfl
  | some found =>
    rw [run_resolveEntered_of_resolved _ _ _ resolves] at done
    have leaves : ∀ text, Restores (inquiry.resolveLeaf call text) := restores_resolveLeaf calls
    have kept := (Restores.resolve leaves found.2.tree).under name _ _ _ done
    exact kept

/-- Every call leaves the chain as it found it. -/
theorem restores_resolveName (inquiry : Inquiry) (calls : Nat) (name : String) :
    Restores (inquiry.resolveName calls name) := by
  induction calls generalizing name with
  | zero => rintro before decision after ⟨⟩
  | succ calls induction =>
    intro before decision after done
    by_cases old : name ∈ before.chain
    · rw [run_resolveName_of_mem calls old] at done
      cases done
      rfl
    · rw [inquiry.run_resolveName_of_not_mem calls old] at done
      obtain ⟨⟨outcome, middle⟩, entered, finished⟩ := Option.bind_eq_some_iff.1 done
      cases finished
      have kept := restores_resolveEntered induction name _ _ _ _ entered
      exact kept

end Inquiry

/-! ## Performing a run -/

/-- Work performs a run if it is not cut off, decides and notes what the run does, and leaves the
chain as it was after giving it only allowed values. -/
def Performs (allowed : List String → Prop) (work : Resolver Decision) (before : Progress)
    (run : Run Happening) : Prop :=
  ∃ chains, (∀ chain ∈ chains, allowed chain) ∧
    work.run before = some (run.decision,
      { before with chains := before.chains ++ chains, events := before.events ++ run.events })

namespace Performs

variable {allowed : List String → Prop} {work program : Resolver Decision} {before : Progress}
  {run : Run Happening}

theorem pure (allowed : List String → Prop) (before : Progress) (decision : Decision) :
    Performs allowed (pure decision) before (.settled decision) :=
  ⟨[], nofun, by simp⟩

theorem noted (allowed : List String → Prop) (before : Progress) (run : Run Happening) :
    Performs allowed (do note run.events; return run.decision) before run :=
  ⟨[], nofun, by simp [note, Progress.noted]⟩

theorem andThen {next : Bool → Resolver Decision} {follow : Bool → Run Happening}
    (first : Performs allowed work before run)
    (second : ∀ value, run.decision = .ok value → ∀ middle : Progress,
      middle.chain = before.chain → Performs allowed (next value) middle (follow value)) :
    Performs allowed (work.andThen next) before (run.andThen follow) := by
  obtain ⟨chains, within, done⟩ := first
  cases decided : run.decision with
  | error error =>
    rw [decided] at done
    rw [Run.andThen_of_error _ decided]
    exact ⟨chains, within, by simp [Resolver.andThen, done, decided]⟩
  | ok value =>
    rw [decided] at done
    rw [Run.andThen_of_ok _ decided]
    obtain ⟨further, within_further, done_further⟩ := second value decided
      { before with chains := before.chains ++ chains, events := before.events ++ run.events } rfl
    refine ⟨chains ++ further, ?_, ?_⟩
    · intro chain member
      exact (List.mem_append.1 member).elim (within chain) (within_further chain)
    · simp [Resolver.andThen, done, done_further]

/-- Work between events that are noted before and after it. -/
theorem enclosed {front : List Happening} {after : Decision → List Happening}
    (inner : Performs allowed work (before.noted front) run)
    (same : program.run before = (work.run (before.noted front)).bind fun done =>
      some (done.1, done.2.noted (after done.1))) :
    Performs allowed program before (.enclosed front run after) := by
  obtain ⟨chains, within, done⟩ := inner
  refine ⟨chains, within, ?_⟩
  rw [same, done]
  simp [Run.enclosed, Progress.noted]

/-- Work under a name. -/
theorem under {name : String} (allowed_before : allowed before.chain)
    (allowed_under : allowed (before.chain ++ [name]))
    (inner : Performs allowed work (before.given (before.chain ++ [name])) run) :
    Performs allowed (under name work) before run := by
  obtain ⟨chains, within, done⟩ := inner
  refine ⟨(before.chain ++ [name]) :: (chains ++ [before.chain]), ?_, ?_⟩
  · simp only [List.mem_cons, List.mem_append, List.not_mem_nil, or_false]
    rintro chain (rfl | member | rfl)
    · exact allowed_under
    · exact within chain member
    · exact allowed_before
  · rw [Resolver.run_under, done]
    simp [Progress.given]

/-- A tree is decided as in a run if its visited leaves are. -/
theorem resolve {leaf : String → Resolver Decision} {leafRun : String → Run Happening}
    {tree : Node}
    (leaves : ∀ text ∈ tree.visited leafRun, ∀ middle : Progress, middle.chain = before.chain →
      Performs allowed (leaf text) middle (leafRun text)) :
    Performs allowed (tree.resolve leaf) before (tree.evaluate leafRun) := by
  induction tree using Node.evaluation_induction generalizing before with
  | leaf text parameters => exact leaves text List.mem_cons_self before rfl
  | rightless => exact .pure allowed before _
  | negation left right _ induction =>
    rw [Node.visited_negation] at leaves
    rw [Node.resolve_negation, Node.evaluate_negation]
    exact (induction leaves).andThen fun value _ middle _ => .pure allowed middle _
  | leftless joint right _ joins =>
    rw [Node.resolve_leftless _ joins, Node.evaluate_leftless _ joins]
    exact .pure allowed before _
  | binary joint left right _ joins left_induction right_induction =>
    rw [Node.resolve_binary _ joins, Node.evaluate_binary _ joins]
    simp only [Node.mem_visited_binary joins] at leaves
    refine (left_induction fun text visits => leaves text (Or.inl visits)).andThen ?_
    intro value decided middle same
    split
    next is_open =>
      apply right_induction
      intro text visits later at_same
      exact leaves text (Or.inr ⟨⟨value, decided, is_open⟩, visits⟩) later (at_same.trans same)
    next => exact .pure allowed middle _

end Performs

namespace Inquiry

variable {inquiry : Inquiry} {rule name text : String} {levels calls : Nat} {active : List String}
  {before : Progress}

/-- The names that can become active: the checked rule and the names that leaves of the engine
spell, placeholders being replaced. -/
def names (inquiry : Inquiry) (rule : String) : Finset String :=
  (inquiry.callable rule).toFinset

theorem mem_names_iff : name ∈ inquiry.names rule ↔ name = rule ∨
    ∃ entry ∈ inquiry.engine.rules, ∃ value, "rule:" ++ value ∈ entry.2.tree.leaves ∧
      inquiry.parameters.fill value = name := by
  rw [names, List.mem_toFinset, callable, List.mem_cons]
  refine or_congr_right ?_
  simp only [List.mem_filterMap, List.mem_flatMap]
  constructor
  · rintro ⟨text, ⟨entry, configured, member⟩, spells⟩
    split at spells
    next value refers =>
      rw [Leaf.eq_of_ofText_eq_rule refers] at member
      exact ⟨entry, configured, value, member, Option.some.inj spells⟩
    next => cases spells
  · rintro ⟨entry, configured, value, member, rfl⟩
    exact ⟨_, ⟨entry, configured, member⟩, by rw [Leaf.ofText_rule]⟩

/-- What the chain may be: names that differ from each other and can become active. -/
def Allows (inquiry : Inquiry) (rule : String) (chain : List String) : Prop :=
  chain.Nodup ∧ ∀ name ∈ chain, name ∈ inquiry.names rule

theorem Allows.length_le {chain : List String} (allowed : inquiry.Allows rule chain) :
    chain.length ≤ (inquiry.names rule).card := by
  rw [← List.toFinset_card_of_nodup allowed.1]
  apply Finset.card_le_card
  intro name member
  exact allowed.2 name (List.mem_toFinset.1 member)

theorem Allows.concat {chain : List String} (allowed : inquiry.Allows rule chain)
    (member : name ∈ inquiry.names rule) (fresh : name ∉ chain) :
    inquiry.Allows rule (chain ++ [name]) := by
  constructor
  · rw [← List.concat_eq_append]
    exact List.Nodup.concat fresh allowed.1
  · intro other listed
    rcases List.mem_append.1 listed with old | last
    · exact allowed.2 other old
    · rwa [List.mem_singleton.1 last]

/-- The active names above a call are allowed on the chain. -/
theorem Calls.allows (called : inquiry.Calls rule levels active name) :
    inquiry.Allows rule active := by
  refine ⟨called.nodup, ?_⟩
  induction called with
  | checked => nofun
  | nested caller fresh resolves visits refers induction =>
    intro other listed
    rcases List.mem_append.1 listed with above | last
    · exact induction other above
    · rw [List.mem_singleton.1 last]
      exact List.mem_toFinset.2 caller.unseen_le.1

/-- A leaf is decided as in a run if the name that it spells is. -/
theorem performs_resolveLeaf {allowed : List String → Prop} {call : String → Resolver Decision}
    (at_name : before.chain = active ++ [name])
    (performs : ∀ value, Leaf.ofText text = .rule value → ∀ middle : Progress,
      middle.chain = active ++ [name] →
      Performs allowed (call (inquiry.parameters.fill value)) middle
        (inquiry.decide levels (active ++ [name]) (inquiry.parameters.fill value))) :
    Performs allowed (inquiry.resolveLeaf call text) before
      (inquiry.leafRun levels active name text) := by
  unfold resolveLeaf
  split
  next value refers =>
    rw [leafRun_of_rule _ _ _ refers]
    refine (performs value refers _ ?_).enclosed ?_
    · exact at_name
    · simp [run_callName, at_name]
  next plain =>
    rw [leafRun_of_plain _ _ _ plain]
    exact .noted allowed before _

/-- The rule of an entered name is evaluated as in a run if the names that it spells are decided
so. -/
theorem performs_resolveEntered {call : String → Resolver Decision} {resolved : String}
    {compiled : CompiledRule} (at_active : before.chain = active)
    (resolves : inquiry.engine.resolve? name = some (resolved, compiled))
    (allowed : inquiry.Allows rule active) (allowed_under : inquiry.Allows rule (active ++ [name]))
    (performs : ∀ reference ∈ inquiry.names rule, ∀ middle : Progress,
      middle.chain = active ++ [name] →
      Performs (inquiry.Allows rule) (call reference) middle
        (inquiry.decide levels (active ++ [name]) reference)) :
    Performs (inquiry.Allows rule) (inquiry.resolveEntered call name active.length) before
      (.enclosed (if resolved = name then [] else [.fellBack name active.length])
        (compiled.tree.evaluate (inquiry.leafRun levels active name)) fun _ => []) := by
  subst at_active
  have under_name : Performs (inquiry.Allows rule)
      (under name (compiled.tree.resolve (inquiry.resolveLeaf call)))
      (before.noted (if resolved = name then [] else [.fellBack name before.chain.length]))
      (compiled.tree.evaluate (inquiry.leafRun levels before.chain name)) := by
    refine .under allowed allowed_under (.resolve ?_)
    intro text visits middle at_name
    apply performs_resolveLeaf at_name
    intro value refers
    have spelt : inquiry.parameters.fill value ∈ inquiry.callable rule :=
      mem_callable resolves (Node.visited_subset_leaves _ visits) refers
    exact performs _ (List.mem_toFinset.2 spelt)
  exact under_name.enclosed (by simp [run_resolveEntered_of_resolved _ _ _ resolves])

/-- Deciding a name does what a run does, from every chain that is allowed: it is not cut off if it
has a call for every name that can still become active and one more. -/
theorem performs_resolveName (member : name ∈ inquiry.names rule)
    (allowed : inquiry.Allows rule before.chain)
    (calls_left : (inquiry.names rule).card < calls + before.chain.length)
    (levels_left : Names.unseen (inquiry.callable rule) before.chain ≤ levels) :
    Performs (inquiry.Allows rule) (inquiry.resolveName calls name) before
      (inquiry.decide levels before.chain name) := by
  induction calls generalizing name before levels with
  | zero =>
    have full := allowed.length_le
    omega
  | succ calls induction =>
    by_cases old : name ∈ before.chain
    · rw [decide_of_mem _ old]
      exact ⟨[], nofun, by simp [run_resolveName_of_mem calls old, cycle, Progress.noted]⟩
    · have fewer := Names.unseen_concat_lt (List.mem_toFinset.1 member) old
      obtain ⟨levels, rfl⟩ := Nat.exists_eq_add_of_le'
        (Nat.lt_of_lt_of_le (Nat.zero_lt_of_lt fewer) levels_left)
      have entered := inquiry.run_resolveName_of_not_mem calls old
      cases resolves : inquiry.engine.resolve? name with
      | none =>
        rw [decide_of_unresolved levels old resolves]
        refine (Performs.pure _ _ _).enclosed ?_
        rw [entered, run_resolveEntered_of_unresolved _ _ _ resolves]
        rfl
      | some found =>
        rw [decide_of_resolved levels old resolves]
        have allowed_under := allowed.concat member old
        refine (performs_resolveEntered (before.chain_noted _) resolves allowed allowed_under
          ?_).enclosed entered
        intro reference spelt middle at_name
        rw [← at_name] at allowed_under fewer ⊢
        refine induction spelt allowed_under ?_ (by omega)
        rw [at_name, List.length_append, List.length_singleton]
        omega

/-- Resolving a rule ends, with calls that are nested at most once deeper than there are names that
can become active: it decides and notes what the run of the rule does, at every moment the names on
the chain differ from each other and are such names, and the chain is empty again at the end. The
names are entered at depths below their number. Every call leaves the chain as it found it, whether
it decides or fails. -/
theorem resolveName_terminates (inquiry : Inquiry) (rule : String) :
    (∀ name, name ∈ inquiry.names rule ↔ name = rule ∨
      ∃ entry ∈ inquiry.engine.rules, ∃ value, "rule:" ++ value ∈ entry.2.tree.leaves ∧
        inquiry.parameters.fill value = name) ∧
    (∀ calls, (inquiry.names rule).card + 1 ≤ calls → ∃ chains,
      (inquiry.resolveName calls rule).run {} = some ((inquiry.run rule).decision,
        { chain := [], chains, events := (inquiry.run rule).events }) ∧
      ∀ chain ∈ chains, chain.Nodup ∧ ∀ name ∈ chain, name ∈ inquiry.names rule) ∧
    (∀ name depth, .entered name depth ∈ (inquiry.run rule).events →
      depth < (inquiry.names rule).card) ∧
    ∀ calls name before decision after,
      (inquiry.resolveName calls name).run before = some (decision, after) →
        after.chain = before.chain := by
  refine ⟨fun name => mem_names_iff, ?_, ?_, inquiry.restores_resolveName⟩
  · intro calls enough
    have checked : rule ∈ inquiry.names rule := mem_names_iff.2 (Or.inl rfl)
    have levels_left : Names.unseen (inquiry.callable rule) [] ≤ inquiry.engine.activeBound :=
      inquiry.length_callable rule ▸ Names.unseen_le_length _ _
    have performs : Performs (inquiry.Allows rule) (inquiry.resolveName calls rule) {}
        (inquiry.run rule) :=
      performs_resolveName checked ⟨List.nodup_nil, nofun⟩ enough levels_left
    obtain ⟨chains, within, done⟩ := performs
    exact ⟨chains, done, within⟩
  · intro name depth entered
    obtain ⟨levels, active, called, fresh, rfl⟩ := entered_mem_events_run_iff.1 entered
    have member : name ∈ inquiry.names rule := List.mem_toFinset.2 called.unseen_le.1
    have longer := (called.allows.concat member fresh).length_le
    rw [List.length_append, List.length_singleton] at longer
    exact longer

end Inquiry

end AccessPolicy
