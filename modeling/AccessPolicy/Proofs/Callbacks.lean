import AccessPolicy.Proofs.Causes
import AccessPolicy.Proofs.PartialEvaluation

/-!
# Callbacks

The callbacks of a check form brackets: a name is entered and left, and between the two stand the
references in its rule, each with the brackets of the name that it refers to. Only a reference to an
active name has no brackets. It is the last reference of the check, and like every failure it is
handed on, so nothing but failing exits follow it.
-/

namespace AccessPolicy

namespace Engine

variable {engine : Engine} {name resolved : String} {compiled : CompiledRule}

/-- The rule that is used for a name has another name exactly if the name is not configured, but the
default rule is. -/
theorem ne_iff_of_resolve? (resolves : engine.resolve? name = some (resolved, compiled)) :
    resolved ≠ name ↔ ¬engine.hasRule name ∧ engine.hasRule defaultRule := by
  unfold resolve? at resolves
  split at resolves
  next configured =>
    cases resolves
    simp [hasRule, configured]
  next missing =>
    obtain ⟨rule, default_rule, same⟩ := Option.map_eq_some_iff.1 resolves
    cases same
    have differ : defaultRule ≠ name := by
      rintro rfl
      rw [missing] at default_rule
      cases default_rule
    simp [hasRule, missing, default_rule, differ]

end Engine

namespace Inquiry

variable {inquiry : Inquiry} {rule name reference resolved text : String} {levels depth : Nat}
  {compiled : CompiledRule} {active : List String} {answers : List (String × Decision)}
  {outcome : Decision} {callbacks within : List Callback} {error : PolicyError}

/-! ## Brackets -/

/-- What an observer is told when something happens. -/
def told (inquiry : Inquiry) (events : List Happening) : List Callback :=
  events.filterMap (Happening.callback? inquiry.identity inquiry.parameters)

/-- The callback that the default rule is used, where it is used for a name. -/
def fallback (inquiry : Inquiry) (name : String) (depth : Nat) : List Callback :=
  if ¬inquiry.engine.hasRule name ∧ inquiry.engine.hasRule defaultRule then
    [.fellBack name defaultRule depth]
  else []

/-- The callbacks of a name around those of the references in its rule. -/
def span (inquiry : Inquiry) (name : String) (depth : Nat) (within : List Callback)
    (outcome : Decision) : List Callback :=
  .entered name depth inquiry.identity inquiry.parameters ::
    (inquiry.fallback name depth ++ (within ++ [.exited name depth outcome]))

/-- Decides a leaf if names are decided as given. -/
def leafGiven (inquiry : Inquiry) (given : String → Decision) : String → Run Happening :=
  Leaf.evaluateText (inquiry.surroundings fun name => .settled (given name))

/-- The name that a leaf refers to, with the decision that is given for it. -/
def answer? (inquiry : Inquiry) (given : String → Decision) (text : String) :
    Option (String × Decision) :=
  match Leaf.ofText text with
  | .rule value => some (inquiry.parameters.fill value, given (inquiry.parameters.fill value))
  | _ => none

/-- The answers to the references of a name lead to its outcome: if names are decided as given, the
rule that is used for the name visits references with these answers, in this order, and decides the
outcome. Without a rule there are no references. -/
def Yields (inquiry : Inquiry) (name : String) (answers : List (String × Decision))
    (outcome : Decision) : Prop :=
  match inquiry.engine.resolve? name with
  | none => answers = [] ∧ outcome = .error (.unknownRule name)
  | some (_, rule) => ∃ given,
    (rule.tree.visited (inquiry.leafGiven given)).filterMap (inquiry.answer? given) = answers ∧
      (rule.tree.evaluate (inquiry.leafGiven given)).decision = outcome

/-- The callbacks of the references in the rule of a name, with the answers that are handed to the
leaves. -/
inductive References (inquiry : Inquiry) :
    String → Nat → List String → List (String × Decision) → List Callback → Prop
  /-- No reference is visited. -/
  | nil (name : String) (depth : Nat) (active : List String) :
      inquiry.References name depth active [] []
  /-- A reference to a name that is not active is followed by the callbacks of that name. Its
  answer is the outcome that the name is left with. -/
  | decided {name reference : String} {depth : Nat} {active : List String}
      {answers inner : List (String × Decision)} {within further : List Callback}
      {outcome : Decision} (fresh : reference ∉ active ++ [name])
      (references : inquiry.References reference (depth + 1) (active ++ [name]) inner within)
      (yields : inquiry.Yields reference inner outcome)
      (rest : inquiry.References name depth active answers further) :
      inquiry.References name depth active ((reference, outcome) :: answers)
        (.nested name reference (depth + 1) ::
          (inquiry.span reference (depth + 1) within outcome ++ further))
  /-- A reference to an active name stands alone. -/
  | cyclic {name reference : String} {depth : Nat} {active : List String}
      {answers : List (String × Decision)} {further : List Callback}
      (old : reference ∈ active ++ [name])
      (rest : inquiry.References name depth active answers further) :
      inquiry.References name depth active
        ((reference, .error (.cyclicRule (active ++ [name] ++ [reference]))) :: answers)
        (.nested name reference (depth + 1) :: further)

/-- The callbacks of a name that is decided below active names. -/
def Bracketed (inquiry : Inquiry) (name : String) (depth : Nat) (active : List String)
    (outcome : Decision) (callbacks : List Callback) : Prop :=
  ∃ answers within, inquiry.References name depth active answers within ∧
    inquiry.Yields name answers outcome ∧ callbacks = inquiry.span name depth within outcome

/-! ## The callbacks of a call -/

theorem told_append (front back : List Happening) :
    inquiry.told (front ++ back) = inquiry.told front ++ inquiry.told back :=
  List.filterMap_append

theorem answer?_of_rule (given : String → Decision) {value : String}
    (refers : Leaf.ofText text = .rule value) :
    inquiry.answer? given text =
      some (inquiry.parameters.fill value, given (inquiry.parameters.fill value)) := by
  rw [answer?, refers]

theorem answer?_of_plain (given : String → Decision)
    (plain : ∀ value, Leaf.ofText text ≠ .rule value) : inquiry.answer? given text = none := by
  unfold answer?
  split
  next value refers => exact absurd refers (plain value)
  next => rfl

theorem decision_of_answer? {given : String → Decision}
    (answered : inquiry.answer? given text = some (reference, outcome)) :
    (inquiry.leafGiven given text).decision = outcome := by
  unfold answer? at answered
  split at answered
  next value refers =>
    obtain ⟨-, same⟩ := Prod.mk.inj (Option.some.inj answered)
    rw [leafGiven, Leaf.evaluateText, refers]
    exact same
  next => cases answered

/-- A leaf decides as in a run if names are decided as in it. -/
theorem decision_leafGiven (levels : Nat) (active : List String) (name text : String) :
    (inquiry.leafRun levels active name text).decision =
      (inquiry.leafGiven (fun reference =>
        (inquiry.decide levels (active ++ [name]) reference).decision) text).decision := by
  rw [leafRun, leafGiven, Leaf.evaluateText, Leaf.evaluateText]
  cases Leaf.ofText text <;> rfl

/-- Leaves tell what the names that they refer to do. -/
theorem references_of_leaves (levels : Nat) (active : List String) (name : String)
    (texts : List String)
    (bracketed : ∀ text ∈ texts, ∀ value, Leaf.ofText text = .rule value →
      inquiry.parameters.fill value ∉ active ++ [name] →
      inquiry.Bracketed (inquiry.parameters.fill value) (active.length + 1) (active ++ [name])
        (inquiry.decide levels (active ++ [name]) (inquiry.parameters.fill value)).decision
        (inquiry.told
          (inquiry.decide levels (active ++ [name]) (inquiry.parameters.fill value)).events)) :
    inquiry.References name active.length active
      (texts.filterMap (inquiry.answer? fun reference =>
        (inquiry.decide levels (active ++ [name]) reference).decision))
      (inquiry.told
        (texts.flatMap fun text => (inquiry.leafRun levels active name text).events)) := by
  induction texts with
  | nil => exact .nil name active.length active
  | cons text texts induction =>
    have rest := induction fun other member => bracketed other (List.mem_cons_of_mem text member)
    rw [List.flatMap_cons, told_append]
    by_cases refers : ∃ value, Leaf.ofText text = .rule value
    · obtain ⟨value, refers⟩ := refers
      rw [List.filterMap_cons_some (answer?_of_rule _ refers), leafRun_of_rule _ _ _ refers,
        referenceRun, Run.enclosed, List.append_nil, told_append]
      by_cases old : inquiry.parameters.fill value ∈ active ++ [name]
      · rw [decide_of_mem levels old]
        exact .cyclic old rest
      · obtain ⟨inner, within, references, yields, same⟩ :=
          bracketed text List.mem_cons_self value refers old
        rw [same]
        exact .decided old references yields rest
    · have plain := not_exists.1 refers
      rw [List.filterMap_cons_none (answer?_of_plain _ plain)]
      have silent : inquiry.told (inquiry.leafRun levels active name text).events = [] := by
        rcases leafRun_of_ruleless levels active name plain with
          ⟨check, address, -, run⟩ | ⟨decision, run, -⟩
        · rw [run]
          rfl
        · rw [run]
          rfl
      rw [silent]
      exact rest

theorem told_fellBack (depth : Nat)
    (resolves : inquiry.engine.resolve? name = some (resolved, compiled)) :
    inquiry.told (if resolved = name then [] else [.fellBack name depth]) =
      inquiry.fallback name depth := by
  have falls_back := Engine.ne_iff_of_resolve? resolves
  rw [fallback]
  split
  next same => rw [if_neg fun other => falls_back.2 other same, told, List.filterMap_nil]
  next differ => rw [if_pos (falls_back.1 differ)]; rfl

theorem told_of_resolved (levels : Nat) (fresh : name ∉ active)
    (resolves : inquiry.engine.resolve? name = some (resolved, compiled)) :
    inquiry.told (inquiry.decide (levels + 1) active name).events =
      inquiry.span name active.length
        (inquiry.told ((compiled.tree.visited (inquiry.leafRun levels active name)).flatMap
          fun text => (inquiry.leafRun levels active name text).events))
        (inquiry.decide (levels + 1) active name).decision := by
  rw [decide_of_resolved levels fresh resolves, ← Node.events_evaluate]
  simp only [Run.enclosed, told_append, told_fellBack _ resolves, List.append_nil, span,
    List.append_assoc]
  rfl

/-- The callbacks of a call to a name that is not active form brackets. -/
theorem Calls.bracketed (called : inquiry.Calls rule levels active name) (fresh : name ∉ active) :
    inquiry.Bracketed name active.length active (inquiry.decide levels active name).decision
      (inquiry.told (inquiry.decide levels active name).events) := by
  induction called using Calls.run_induction with
  | old levels active name called old => exact absurd old fresh
  | unresolved levels active name called _ unresolved =>
    obtain ⟨-, no_default⟩ := Engine.hasRule_of_resolve?_eq_none unresolved
    rw [decide_of_unresolved levels fresh unresolved]
    refine ⟨[], [], .nil name active.length active, ?_, ?_⟩
    · rw [Yields, unresolved]
      exact ⟨rfl, rfl⟩
    · rw [span, fallback, if_neg (by simp [no_default])]
      rfl
  | resolved levels active name called _ resolved compiled resolves induction =>
    have references := inquiry.references_of_leaves levels active name
      (compiled.tree.visited (inquiry.leafRun levels active name)) <| by
        intro text visits value refers unseen
        have inner := induction text value visits refers unseen
        rwa [List.length_append, List.length_singleton] at inner
    refine ⟨_, _, references, ?_, told_of_resolved levels fresh resolves⟩
    have agree := inquiry.decision_leafGiven levels active name
    rw [Yields, resolves, decision_of_resolved levels fresh resolves]
    refine ⟨_, ?_, (Node.decision_congr agree compiled.tree).symm⟩
    rw [Node.visited_congr agree]

/-! ## What follows a callback -/

/-- Exits of names that fail with one error. -/
def FailWith (error : PolicyError) (callbacks : List Callback) : Prop :=
  ∀ callback ∈ callbacks, ∃ name depth, callback = .exited name depth (.error error)

/-- A callback may be followed by others: its name is entered after a reference, unless it is active
and all names fail; and after a name that fails all others do. -/
def Precedes (inquiry : Inquiry) (callback : Callback) (further : List Callback) : Prop :=
  match callback with
  | .nested parent reference depth =>
    further.head? = some (.entered reference depth inquiry.identity inquiry.parameters) ∨
      ∃ active, reference ∈ active ++ [parent] ∧ further ≠ [] ∧
        FailWith (.cyclicRule (active ++ [parent] ++ [reference])) further
  | .exited _ _ (.error error) => FailWith error further
  | _ => True

/-- Every callback may be followed by the ones after it. -/
def Ordered (inquiry : Inquiry) : List Callback → Prop
  | [] => True
  | callback :: further => inquiry.Precedes callback further ∧ inquiry.Ordered further

theorem Ordered.precedes {front further : List Callback} {callback : Callback}
    (ordered : inquiry.Ordered (front ++ callback :: further)) :
    inquiry.Precedes callback further := by
  induction front with
  | nil => exact ordered.1
  | cons first front induction => exact induction ordered.2

theorem Ordered.span
    (remaining : inquiry.Ordered (within ++ .exited name depth outcome :: callbacks)) :
    inquiry.Ordered (inquiry.span name depth within outcome ++ callbacks) := by
  rw [Inquiry.span, fallback, List.cons_append, List.append_assoc, List.append_assoc]
  refine ⟨trivial, ?_⟩
  split
  · exact ⟨trivial, remaining⟩
  · exact remaining

/-- A reference that fails is the last one, and the name fails like it. -/
theorem Yields.of_error {front back : List (String × Decision)}
    (yields : inquiry.Yields name (front ++ (reference, .error error) :: back) outcome) :
    back = [] ∧ outcome = .error error := by
  unfold Yields at yields
  split at yields
  next => simp at yields
  next compiled _ =>
    obtain ⟨given, answered, decided⟩ := yields
    obtain ⟨before, after, visits, -, answered⟩ := List.filterMap_eq_append_iff.1 answered
    obtain ⟨silent, text, following, split_after, -, answered, behind⟩ :=
      List.filterMap_eq_cons_iff.1 answered
    rw [split_after, ← List.append_assoc] at visits
    have fails := decision_of_answer? answered
    have last := Node.eq_nil_of_visited_error visits fails
    rw [last] at behind
    refine ⟨behind.symm, ?_⟩
    rw [← decided]
    exact Node.decision_of_visited_error (visits ▸ by simp) fails

theorem References.eq_nil (references : inquiry.References name depth active [] callbacks) :
    callbacks = [] := by
  cases references
  rfl

/-- The callbacks of references are ordered before others if these all fail with the error of a
reference that fails. -/
theorem References.ordered (references : inquiry.References name depth active answers within)
    (after : inquiry.Ordered callbacks)
    (fails : ∀ front reference error back, answers = front ++ (reference, .error error) :: back →
      back = [] ∧ callbacks ≠ [] ∧ FailWith error callbacks) :
    inquiry.Ordered (within ++ callbacks) := by
  induction references generalizing callbacks with
  | nil => exact after
  | @decided name reference depth active answers inner within further outcome fresh references
      yields rest inner_ordered rest_ordered =>
    rw [List.cons_append, List.append_assoc]
    -- Behind the inner references the name is left, which hands their error on to what follows.
    refine ⟨Or.inl rfl, .span ?_⟩
    have exits : ∀ error, outcome = .error error → FailWith error (further ++ callbacks) := by
      rintro error rfl
      obtain ⟨rfl, -, failing⟩ := fails [] reference error answers rfl
      rwa [rest.eq_nil]
    have remaining : inquiry.Ordered (further ++ callbacks) := by
      apply rest_ordered after
      rintro front other error back rfl
      exact fails ((reference, outcome) :: front) other error back rfl
    apply inner_ordered
    · cases outcome with
      | ok => exact ⟨trivial, remaining⟩
      | error error => exact ⟨exits error rfl, remaining⟩
    · rintro front other error back rfl
      obtain ⟨rfl, rfl⟩ := yields.of_error
      refine ⟨rfl, List.cons_ne_nil _ _, ?_⟩
      exact List.forall_mem_cons.2 ⟨⟨reference, depth + 1, rfl⟩, exits error rfl⟩
  | @cyclic name reference depth active answers further old rest rest_ordered =>
    obtain ⟨rfl, remains, failing⟩ := fails [] reference _ answers rfl
    obtain rfl := rest.eq_nil
    exact ⟨Or.inr ⟨active, old, remains, failing⟩, after⟩

theorem Bracketed.ordered (bracketed : inquiry.Bracketed name depth active outcome callbacks) :
    inquiry.Ordered callbacks := by
  obtain ⟨answers, within, references, yields, rfl⟩ := bracketed
  rw [← List.append_nil (inquiry.span name depth within outcome)]
  refine .span (references.ordered ⟨?_, trivial⟩ ?_)
  · cases outcome with
    | ok => trivial
    | error error => exact List.forall_mem_nil _
  · rintro front reference error back rfl
    obtain ⟨rfl, rfl⟩ := yields.of_error
    exact ⟨rfl, List.cons_ne_nil _ _, by simp [FailWith]⟩

theorem exited_mem_span {at_depth : Nat} {other : String} {decision : Decision}
    (exited : .exited other at_depth decision ∈ inquiry.span name depth within outcome) :
    .exited other at_depth decision ∈ within ∨ at_depth = depth := by
  rw [span, fallback] at exited
  split at exited
  all_goals
    simp only [List.mem_cons, List.mem_append, List.not_mem_nil, or_false, reduceCtorEq,
      false_or] at exited
    exact exited.imp_right fun last => (Callback.exited.inj last).2.1

/-- Names that are referred to are left deeper than the name that refers to them. -/
theorem References.lt_of_exited {at_depth : Nat} {other : String} {decision : Decision}
    (references : inquiry.References name depth active answers within)
    (exited : .exited other at_depth decision ∈ within) : depth < at_depth := by
  induction references with
  | nil => cases exited
  | decided fresh references yields rest inner_deeper rest_deeper =>
    rcases List.mem_cons.1 exited with ⟨⟨⟩⟩ | exited
    rcases List.mem_append.1 exited with among | further
    · rcases exited_mem_span among with deeper | same
      · exact Nat.lt_of_succ_lt (inner_deeper deeper)
      · exact Nat.lt_of_succ_le (Nat.le_of_eq same.symm)
    · exact rest_deeper further
  | cyclic old rest rest_deeper =>
    rcases List.mem_cons.1 exited with ⟨⟨⟩⟩ | further
    exact rest_deeper further

/-- The last callback of a name is that it is left, and no other one tells that a name is left at
the same depth. -/
theorem Bracketed.exists_concat
    (bracketed : inquiry.Bracketed name depth active outcome callbacks) :
    ∃ front, callbacks = front ++ [.exited name depth outcome] ∧
      ∀ other decision, .exited other depth decision ∉ front := by
  obtain ⟨answers, within, references, -, rfl⟩ := bracketed
  refine ⟨.entered name depth inquiry.identity inquiry.parameters ::
    (inquiry.fallback name depth ++ within), by simp [span], ?_⟩
  intro other decision exited
  rcases List.mem_cons.1 exited with ⟨⟨⟩⟩ | exited
  rcases List.mem_append.1 exited with among | exited
  · rw [fallback] at among
    split at among
    · cases List.mem_singleton.1 among
    · cases among
  · exact Nat.lt_irrefl depth (references.lt_of_exited exited)

/-! ## The callbacks of a check -/

/-- After the front of the callbacks stands a reference whose name is not entered next. -/
def Unentered (inquiry : Inquiry) (callbacks front : List Callback) : Prop :=
  ∃ parent reference depth further,
    callbacks = front ++ .nested parent reference depth :: further ∧
      further.head? ≠ some (.entered reference depth inquiry.identity inquiry.parameters)

/-- The callbacks of a check that decides its rule. -/
structure WellBracketed (inquiry : Inquiry) (rule : String) (answer : Decision)
    (callbacks : List Callback) : Prop where
  /-- The callbacks are those of the rule, below no name. -/
  bracketed : inquiry.Bracketed rule 0 [] answer callbacks
  /-- A reference whose name is not entered next closes a cycle of active names, with which the
  check and all that are left after it fail. -/
  cyclic : ∀ front parent reference depth further,
    callbacks = front ++ .nested parent reference depth :: further →
      further.head? ≠ some (.entered reference depth inquiry.identity inquiry.parameters) →
        ∃ active, reference ∈ active ++ [parent] ∧
          answer = .error (.cyclicRule (active ++ [parent] ++ [reference])) ∧
          FailWith (.cyclicRule (active ++ [parent] ++ [reference])) further
  /-- There is at most one such reference. -/
  once : ∀ front other, inquiry.Unentered callbacks front → inquiry.Unentered callbacks other →
    front = other
  /-- After a name that fails, all that are left fail like it, and so does the check. -/
  failing : ∀ front name depth error further,
    callbacks = front ++ .exited name depth (.error error) :: further →
      answer = .error error ∧ FailWith error further
  /-- The rule is left last, with the answer of the check, and no other name at its depth. -/
  outermost : ∃ front, callbacks = front ++ [.exited rule 0 answer] ∧
    ∀ name outcome, .exited name 0 outcome ∉ front

theorem FailWith.eq_of_concat {front back further : List Callback} (fails : FailWith error further)
    (remains : further ≠ []) (ends : front ++ further = back ++ [.exited name depth outcome]) :
    outcome = .error error := by
  have last := congrArg List.getLast? ends
  rw [List.getLast?_append_of_ne_nil _ remains, List.getLast?_concat] at last
  obtain ⟨other, at_depth, same⟩ := fails _ (List.mem_of_getLast? last)
  cases same
  rfl

theorem Unentered.isPrefix {front : List Callback}
    (unentered : inquiry.Unentered callbacks front) : front <+: callbacks := by
  obtain ⟨parent, reference, depth, further, split_callbacks, -⟩ := unentered
  exact ⟨_, split_callbacks.symm⟩

/-- No reference stands behind one whose name is not entered next. -/
theorem Ordered.between_eq_nil {front between : List Callback} (ordered : inquiry.Ordered callbacks)
    (first : inquiry.Unentered callbacks front)
    (second : inquiry.Unentered callbacks (front ++ between)) : between = [] := by
  obtain ⟨parent, reference, depth, further, split_first, unentered⟩ := first
  obtain ⟨late_parent, late, late_depth, behind, split_second, -⟩ := second
  rw [split_first] at ordered split_second
  rw [List.append_assoc, List.append_cancel_left_eq] at split_second
  cases between with
  | nil => rfl
  | cons callback between =>
    obtain ⟨-, further_eq⟩ := List.cons.inj split_second
    obtain ⟨active, -, -, fails⟩ := ordered.precedes.resolve_left unentered
    have later : .nested late_parent late late_depth ∈ further := by simp [further_eq]
    obtain ⟨name, depth, same⟩ := fails _ later
    cases same

theorem Bracketed.wellBracketed (bracketed : inquiry.Bracketed rule 0 [] outcome callbacks) :
    inquiry.WellBracketed rule outcome callbacks where
  bracketed := bracketed
  cyclic := by
    rintro front parent reference depth further split_callbacks unentered
    have ordered := bracketed.ordered
    obtain ⟨back, ends, -⟩ := bracketed.exists_concat
    rw [split_callbacks] at ordered ends
    obtain ⟨active, old, remains, fails⟩ := ordered.precedes.resolve_left unentered
    rw [List.append_cons] at ends
    exact ⟨active, old, fails.eq_of_concat remains ends, fails⟩
  once := by
    intro front other first second
    rcases List.prefix_or_prefix_of_prefix first.isPrefix second.isPrefix with
      ⟨between, rfl⟩ | ⟨between, rfl⟩
    · rw [bracketed.ordered.between_eq_nil first second, List.append_nil]
    · rw [bracketed.ordered.between_eq_nil second first, List.append_nil]
  failing := by
    rintro front name depth error further split_callbacks
    have ordered := bracketed.ordered
    obtain ⟨back, ends, -⟩ := bracketed.exists_concat
    rw [split_callbacks] at ordered ends
    have fails : FailWith error (.exited name depth (.error error) :: further) :=
      List.forall_mem_cons.2 ⟨⟨name, depth, rfl⟩, ordered.precedes⟩
    exact ⟨fails.eq_of_concat (List.cons_ne_nil _ _) ends, ordered.precedes⟩
  outermost := bracketed.exists_concat

end Inquiry

namespace Session

/-- The observer that writes down what it is told. -/
def recorder : Observer (List Callback) := fun told callback => told ++ [callback]

theorem foldl_recorder (callbacks told : List Callback) :
    callbacks.foldl recorder told = told ++ callbacks := by
  induction callbacks generalizing told with
  | nil => exact (List.append_nil told).symm
  | cons callback callbacks induction =>
    rw [List.foldl_cons, induction, recorder, ← List.append_cons]

theorem checkObserved_recorder (session : Session) (rule : String) (parameters : Json) :
    (session.checkObserved recorder [] rule parameters).answer =
      ((session.check rule parameters).answer, session.callbacks rule parameters) :=
  Prod.ext rfl (foldl_recorder _ [])

/-- An observer of a check is told nothing if parameters are missing that the check insists on.
Otherwise the callbacks form brackets, and after a cycle or another failure only exits follow that
fail with it. -/
theorem callbacks_wellBracketed (session : Session) (rule : String) (parameters : Json) :
    ∃ callbacks, (session.checkObserved recorder [] rule parameters).answer =
      ((session.check rule parameters).answer, callbacks) ∧
    if session.engine.options.strict ∧
        (session.engine.missing? rule (session.engine.mergedParameters parameters)).isSome then
      callbacks = []
    else (session.inquiry parameters).WellBracketed rule (session.check rule parameters).answer
      callbacks := by
  refine ⟨_, session.checkObserved_recorder rule parameters, ?_⟩
  rcases session.run_cases rule parameters with
    ⟨strict, missing, incomplete, run_eq⟩ | ⟨complete, run_eq⟩
  · rw [if_pos ⟨strict, by rw [incomplete, Option.isSome_some]⟩, callbacks, run_eq]
    rfl
  · rw [if_neg complete, callbacks, check, run_eq]
    exact (Inquiry.Calls.checked.bracketed List.not_mem_nil).wellBracketed

end Session

end AccessPolicy
