import AccessPolicy.Proofs.Callbacks
import AccessPolicy.Proofs.CycleGuard

/-!
# Observation

A check can be attended by an observer: a machine of any kind that is fed with every callback at the
moment it happens, also on the way out of a failing rule. The trace of a check is written by such a
machine, and flushed when the check is over. Whoever attends a check, it decides the same and the
same is logged, and the observer ends as if the callbacks had been handed to it afterwards.
-/

namespace AccessPolicy

/-- A rule that is used for another name is the default rule. -/
theorem Engine.eq_defaultRule_of_resolve? {engine : Engine} {name resolved : String}
    {compiled : CompiledRule} (resolves : engine.resolve? name = some (resolved, compiled))
    (other : resolved ≠ name) : resolved = defaultRule := by
  unfold resolve? at resolves
  split at resolves
  next =>
    cases resolves
    exact absurd rfl other
  next =>
    obtain ⟨rule, -, same⟩ := Option.map_eq_some_iff.1 resolves
    cases same
    rfl

/-! ## Attended work -/

/-- What stands beside a check. -/
structure Attendance (State : Type) where
  /-- The state of the observer. -/
  observed : State
  /-- The logged events, in order. -/
  log : List LogEvent

/-- The attendance after the observer was fed with a callback. -/
def Attendance.told {State : Type} (attendance : Attendance State) (observer : Observer State)
    (callback : Callback) : Attendance State :=
  { attendance with observed := observer attendance.observed callback }

/-- Work that is attended by an observer. -/
abbrev Attended (State Answer : Type) := StateM (Attendance State) Answer

namespace Attended

variable {State : Type}

/-- Feeds the observer with a callback. -/
def tell (observer : Observer State) (callback : Callback) : Attended State Unit :=
  modify fun attendance => attendance.told observer callback

/-- Logs events. -/
def log (events : List LogEvent) : Attended State Unit :=
  modify fun attendance => { attendance with log := attendance.log ++ events }

/-- The first work followed by the one that its truth value asks for. -/
def andThen (work : Attended State Decision) (next : Bool → Attended State Decision) :
    Attended State Decision := do
  match ← work with
  | .ok value => next value
  | .error error => return .error error

theorem run_andThen_of_ok {work : Attended State Decision} {next : Bool → Attended State Decision}
    {before middle : Attendance State} {value : Bool} (done : work.run before = (.ok value, middle)) :
    (work.andThen next).run before = (next value).run middle := by
  rw [andThen, StateT.run_bind, done]
  rfl

theorem run_andThen_of_error {work : Attended State Decision}
    {next : Bool → Attended State Decision} {before middle : Attendance State}
    {error : PolicyError} (done : work.run before = (.error error, middle)) :
    (work.andThen next).run before = (.error error, middle) := by
  rw [andThen, StateT.run_bind, done]
  rfl

end Attended

open Attended (tell log)

namespace Node

variable {State : Type}

/-- Decides a tree, given how leaf texts are decided under an observer. -/
def attend (leaf : String → Attended State Decision) : Node → Attended State Decision
  | .leaf text _ => leaf text
  | .operator joint _ none _ => return .error (.evaluation (.noRightOperand joint))
  | .operator .not _ (some right) _ => (right.attend leaf).andThen fun value => return .ok !value
  | .operator .and none (some _) _ => return .error (.evaluation (.noLeftOperand .and))
  | .operator .or none (some _) _ => return .error (.evaluation (.noLeftOperand .or))
  | .operator .and (some left) (some right) _ =>
    (left.attend leaf).andThen fun value => if value then right.attend leaf else return .ok false
  | .operator .or (some left) (some right) _ =>
    (left.attend leaf).andThen fun value => if value then return .ok true else right.attend leaf

theorem attend_negation (leaf : String → Attended State Decision) (left : Option Node)
    (right : Node) (parameters : List String) :
    (operator .not left (some right) parameters).attend leaf =
      (right.attend leaf).andThen fun value => return .ok !value := by
  cases left <;> rfl

theorem attend_leftless (leaf : String → Attended State Decision) {joint : Operator}
    (joins : joint ≠ .not) (right : Node) (parameters : List String) :
    (operator joint none (some right) parameters).attend leaf =
      return .error (.evaluation (.noLeftOperand joint)) := by
  cases joint with
  | and | or => rfl
  | not => exact absurd rfl joins

theorem attend_binary (leaf : String → Attended State Decision) {joint : Operator}
    (joins : joint ≠ .not) (left right : Node) (parameters : List String) :
    (operator joint (some left) (some right) parameters).attend leaf =
      (left.attend leaf).andThen fun value =>
        if joint.leavesOpen value then right.attend leaf else return .ok value := by
  cases joint with
  | and | or =>
    rw [attend]
    congr
    funext value
    cases value <;> rfl
  | not => exact absurd rfl joins

end Node

namespace Inquiry

variable {State : Type}

/-- Logs a cycle of active names and fails. -/
def attendCycle (active : List String) (name : String) : Attended State Decision := do
  log [.cycleMet (active ++ [name])]
  return .error (.cyclicRule (active ++ [name]))

/-- Decides a leaf, given how names are decided. -/
def attendLeaf (inquiry : Inquiry) (call : String → Attended State Decision) (text : String) :
    Attended State Decision :=
  match Leaf.ofText text with
  | .rule value => call (inquiry.parameters.fill value)
  | leaf => return (leaf.evaluate inquiry.ruleless).decision

/-- Evaluates the rule that is used for a name. -/
def attendEntered (inquiry : Inquiry) (observer : Observer State)
    (call : String → Attended State Decision) (name : String) (depth : Nat) :
    Attended State Decision :=
  match inquiry.engine.resolve? name with
  | none => return .error (.unknownRule name)
  | some (resolved, rule) => do
    unless resolved = name do
      log [.fellBack name]
      tell observer (.fellBack name resolved depth)
    rule.tree.attend (inquiry.attendLeaf call)

/-- Decides a name below the active ones under an observer. -/
def attend (inquiry : Inquiry) (observer : Observer State) :
    Nat → List String → String → Attended State Decision
  | 0, active, name => attendCycle active name
  | levels + 1, active, name =>
    if name ∈ active then attendCycle active name
    else do
      let call (reference : String) : Attended State Decision := do
        tell observer (.nested name reference (active.length + 1))
        inquiry.attend observer levels (active ++ [name]) reference
      tell observer (.entered name active.length inquiry.identity inquiry.parameters)
      let decision ← inquiry.attendEntered observer call name active.length
      tell observer (.exited name active.length decision)
      return decision

end Inquiry

namespace Session

variable {State : Type}

/-- Checks a rule under an observer, which is not told of missing parameters. -/
def attend (session : Session) (observer : Observer State) (rule : String) (parameters : Json) :
    Attended State Decision := do
  let engine := session.engine
  let merged := engine.mergedParameters parameters
  match if engine.options.strict then engine.missing? rule merged else none with
  | some missing =>
    log [.parametersMissing rule missing]
    return .error (.missingParameters rule missing)
  | none => (session.inquiry parameters).attend observer engine.activeBound [] rule

/-- Checks a rule under the observer that writes the trace, and flushes what is written: a failure
is written at the end, and every line is logged. -/
def attendTraced (session : Session) (rule : String) (parameters : Json) :
    Attended (List String) Decision := do
  let decision ← session.attend Trace.observer rule parameters
  modify fun attendance =>
    { attendance with observed := attendance.observed ++ Trace.closing decision }
  log ((← get).observed.map LogEvent.traced)
  return decision

/-- The observer that heeds nothing. -/
def heedless : Observer Unit := fun _ _ => ()

/-- Decides a rule, under the observer that writes the trace if the session is to be traced. -/
def attendDecision (session : Session) (rule : String) (parameters : Json) :
    Decision × List LogEvent :=
  if session.debug then
    let (decision, attendance) := (session.attendTraced rule parameters).run ⟨[], []⟩
    (decision, attendance.log)
  else
    let (decision, attendance) := (session.attend heedless rule parameters).run ⟨(), []⟩
    (decision, attendance.log)

/-- Checks a rule and logs the decision. -/
def attendCheck (session : Session) (rule : String) (parameters : Json) : Logged Decision :=
  let (decision, logged) := session.attendDecision rule parameters
  let decided := match decision with
    | .ok allowed => [.decided rule allowed]
    | .error _ => []
  ⟨decision, logged ++ decided⟩

/-- Checks a rule and gives what the trace observer has written with the decision. -/
def attendCheckTraced (session : Session) (rule : String) (parameters : Json) :
    Logged (Except PolicyError TracedDecision) :=
  let (decision, attendance) := (session.attendTraced rule parameters).run ⟨[], []⟩
  ⟨decision.map fun allowed => ⟨allowed, rule, attendance.observed⟩, attendance.log⟩

end Session

/-! ## Attending a run -/

namespace Attendance

variable {State : Type}

/-- The attendance after something has happened. -/
def after (attendance : Attendance State) (inquiry : Inquiry) (observer : Observer State)
    (events : List Happening) : Attendance State where
  observed := (inquiry.told events).foldl observer attendance.observed
  log := attendance.log ++ events.filterMap Happening.logEvent?

@[simp] theorem after_nil (attendance : Attendance State) (inquiry : Inquiry)
    (observer : Observer State) : attendance.after inquiry observer [] = attendance := by
  simp [after, Inquiry.told]

theorem after_append (attendance : Attendance State) (inquiry : Inquiry) (observer : Observer State)
    (first second : List Happening) :
    attendance.after inquiry observer (first ++ second) =
      (attendance.after inquiry observer first).after inquiry observer second := by
  simp [after, Inquiry.told_append]

end Attendance

/-- Work attends a run if it decides as the run does, and observer and log end as after its
events. -/
def Attends {State : Type} (inquiry : Inquiry) (observer : Observer State)
    (work : Attended State Decision) (run : Run Happening) : Prop :=
  ∀ before, work.run before = (run.decision, before.after inquiry observer run.events)

namespace Attends

variable {State : Type} {inquiry : Inquiry} {observer : Observer State}
  {work : Attended State Decision} {run : Run Happening}

theorem pure (inquiry : Inquiry) (observer : Observer State) (decision : Decision) :
    Attends inquiry observer (pure decision) (.settled decision) := by
  intro before
  rw [Run.events_settled, Attendance.after_nil]
  rfl

theorem andThen {next : Bool → Attended State Decision} {follow : Bool → Run Happening}
    (first : Attends inquiry observer work run)
    (second : ∀ value, Attends inquiry observer (next value) (follow value)) :
    Attends inquiry observer (work.andThen next) (run.andThen follow) := by
  intro before
  have begun := first before
  cases decided : run.decision with
  | error error =>
    rw [decided] at begun
    rw [Attended.run_andThen_of_error begun, Run.andThen_of_error _ decided, decided]
  | ok value =>
    rw [decided] at begun
    rw [Attended.run_andThen_of_ok begun, Run.andThen_of_ok _ decided, Attendance.after_append]
    exact second value _

/-- A tree is attended if its leaves are. -/
theorem tree {leaf : String → Attended State Decision} {leafRun : String → Run Happening}
    (leaves : ∀ text, Attends inquiry observer (leaf text) (leafRun text)) (tree : Node) :
    Attends inquiry observer (tree.attend leaf) (tree.evaluate leafRun) := by
  induction tree using Node.evaluation_induction with
  | leaf text parameters => exact leaves text
  | rightless => exact .pure inquiry observer _
  | negation left right parameters induction =>
    rw [Node.attend_negation, Node.evaluate_negation]
    exact induction.andThen fun value => .pure inquiry observer _
  | leftless joint right parameters joins =>
    rw [Node.attend_leftless _ joins, Node.evaluate_leftless _ joins]
    exact .pure inquiry observer _
  | binary joint left right parameters joins left_induction right_induction =>
    rw [Node.attend_binary _ joins, Node.evaluate_binary _ joins]
    refine left_induction.andThen fun value => ?_
    split
    · exact right_induction
    · exact .pure inquiry observer _

/-- Work between events that are told before and after it. -/
theorem enclosed {program : Attended State Decision} {front : List Happening}
    {back : Decision → List Happening} (inner : Attends inquiry observer work run)
    (same : ∀ before, program.run before =
      ((work.run (before.after inquiry observer front)).1,
        (work.run (before.after inquiry observer front)).2.after inquiry observer
          (back (work.run (before.after inquiry observer front)).1))) :
    Attends inquiry observer program (.enclosed front run back) := by
  intro before
  rw [same before, inner (before.after inquiry observer front)]
  simp only [Run.enclosed, Attendance.after_append]

end Attends

namespace Attendance

variable {State : Type} {attendance : Attendance State} {inquiry : Inquiry}
  {observer : Observer State}

/-- What is not told and not logged leaves no trace. -/
theorem after_of_silent {events : List Happening} (untold : inquiry.told events = [])
    (unlogged : events.filterMap Happening.logEvent? = []) :
    attendance.after inquiry observer events = attendance := by
  rw [after, untold, unlogged, List.append_nil]
  rfl

/-- What is told and not logged changes the observer only. -/
theorem after_of_told {events : List Happening} {callback : Callback}
    (told_once : inquiry.told events = [callback])
    (unlogged : events.filterMap Happening.logEvent? = []) :
    attendance.after inquiry observer events = attendance.told observer callback := by
  rw [after, told_once, unlogged, List.append_nil]
  rfl

end Attendance

namespace Inquiry

variable {State : Type} {inquiry : Inquiry} {observer : Observer State} {name resolved : String}
  {levels : Nat} {active : List String} {call : String → Attended State Decision}

theorem attends_attendCycle (active : List String) (name : String) :
    Attends inquiry observer (attendCycle active name) (cycle active name) :=
  fun _ => rfl

theorem attends_attendLeaf
    (calls : ∀ reference, Attends inquiry observer (call reference)
      (inquiry.referenceRun levels active name reference)) (text : String) :
    Attends inquiry observer (inquiry.attendLeaf call text)
      (inquiry.leafRun levels active name text) := by
  by_cases refers : ∃ value, Leaf.ofText text = .rule value
  · obtain ⟨value, refers⟩ := refers
    rw [attendLeaf, leafRun_of_rule _ _ _ refers, refers]
    exact calls _
  · have plain := not_exists.1 refers
    have decided : inquiry.attendLeaf call text =
        pure (inquiry.leafRun levels active name text).decision := by
      rw [leafRun_of_plain _ _ _ plain, attendLeaf]
      split
      next value spelt => exact absurd spelt (plain value)
      next => rfl
    intro before
    rw [decided]
    rcases leafRun_of_ruleless levels active name plain with
      ⟨check, address, -, run⟩ | ⟨decision, run, -⟩
    · rw [run, Attendance.after_of_silent rfl rfl]
      rfl
    · rw [run, Run.events_settled, Attendance.after_nil]
      rfl

theorem attends_attendEntered
    (calls : ∀ reference, Attends inquiry observer (call reference)
      (inquiry.referenceRun levels active name reference)) :
    Attends inquiry observer (inquiry.attendEntered observer call name active.length)
      (inquiry.evaluateResolved active.length name (inquiry.referenceRun levels active name)) := by
  unfold attendEntered evaluateResolved
  cases resolves : inquiry.engine.resolve? name with
  | none => exact .pure inquiry observer _
  | some found =>
    obtain ⟨resolved, compiled⟩ := found
    have evaluated : Attends inquiry observer (compiled.tree.attend (inquiry.attendLeaf call))
        (compiled.tree.evaluate (inquiry.leafRun levels active name)) :=
      .tree (attends_attendLeaf calls) compiled.tree
    refine evaluated.enclosed fun before => ?_
    by_cases configured : resolved = name
    · simp only [if_pos configured, Attendance.after_nil]
      rfl
    · -- The observer is told the name of the used rule; a run notes only that it is the default.
      have used := Engine.eq_defaultRule_of_resolve? resolves configured
      simp only [if_neg configured, Attendance.after_nil]
      subst used
      rfl

/-- A name is decided under an observer as it is decided without one, and the observer is told what
happens. -/
theorem attends_attend (inquiry : Inquiry) (observer : Observer State) (levels : Nat)
    (active : List String) (name : String) :
    Attends inquiry observer (inquiry.attend observer levels active name)
      (inquiry.decide levels active name) := by
  -- Every call is attended from any state of the observer, so calls that follow one another are.
  induction levels generalizing active name with
  | zero => exact attends_attendCycle active name
  | succ levels induction =>
    by_cases old : name ∈ active
    · rw [attend, if_pos old, decide_of_mem _ old]
      exact attends_attendCycle active name
    · have calls : ∀ reference, Attends inquiry observer (do
            tell observer (.nested name reference (active.length + 1))
            inquiry.attend observer levels (active ++ [name]) reference)
          (inquiry.referenceRun levels active name reference) := by
        intro reference
        refine (induction (active ++ [name]) reference).enclosed fun before => ?_
        rw [Attendance.after_of_told rfl rfl, Attendance.after_nil]
        rfl
      rw [attend, if_neg old, decide, if_neg old]
      refine (attends_attendEntered calls).enclosed fun before => ?_
      rw [Attendance.after_of_told rfl rfl, Attendance.after_of_told rfl rfl]
      rfl

end Inquiry

/-! ## The trace -/

namespace Trace

/-- The depths of the lines that tell a callback. -/
def depths : Callback → List Nat
  | .entered _ 0 _ _ => [0, 1, 1]
  | .entered _ depth _ _ | .nested _ _ depth | .exited _ depth _ => [depth]
  | .fellBack _ _ depth => [depth + 1]

/-- Whether a text starts with a character that is not blank. -/
def Flush (text : String) : Prop :=
  ∃ first rest, text.toList = first :: rest ∧ Text.isBlank first = false

theorem Flush.append {front : String} (flush : Flush front) (back : String) :
    Flush (front ++ back) := by
  obtain ⟨first, rest, starts, visible⟩ := flush
  exact ⟨first, rest ++ back.toList, by rw [String.toList_append, starts, List.cons_append], visible⟩

/-- A line is a text behind two spaces for every level of its depth and no further blanks. -/
def StandsAt (depth : Nat) (line : String) : Prop :=
  ∃ text, line = String.ofList (List.replicate (2 * depth) ' ') ++ text ∧ Flush text

theorem standsAt_indented (depth : Nat) {text : String} (flush : Flush text) :
    StandsAt depth (indented depth text) := ⟨text, rfl, flush⟩

/-- Every line of a callback stands at its depth. -/
theorem lines_standAt (callback : Callback) :
    List.Forall₂ StandsAt (depths callback) (lines callback) := by
  have entering (rule : String) : Flush ("-> rule '" ++ rule ++ "'") :=
    .append (.append ⟨_, _, rfl, rfl⟩ rule) "'"
  have leaving (rule : String) : Flush ("<- rule '" ++ rule) := .append ⟨_, _, rfl, rfl⟩ rule
  cases callback with
  | entered rule depth identity parameters =>
    have summary : Flush ("context: " ++ showIdentity identity) := .append ⟨_, _, rfl, rfl⟩ _
    have given : Flush ("params: " ++ parameters.compact) := .append ⟨_, _, rfl, rfl⟩ _
    cases depth with
    | zero =>
      exact .cons (standsAt_indented 0 (entering rule))
        (.cons (standsAt_indented 1 summary) (.cons (standsAt_indented 1 given) .nil))
    | succ depth => exact .cons (standsAt_indented _ (entering rule)) .nil
  | fellBack requested resolved depth =>
    have used : Flush ("rule '" ++ requested) := .append ⟨_, _, rfl, rfl⟩ requested
    exact .cons (standsAt_indented _ (((used.append _).append resolved).append "'")) .nil
  | nested parent rule depth =>
    have referred : Flush ("rule:" ++ rule) := .append ⟨_, _, rfl, rfl⟩ rule
    exact .cons (standsAt_indented _ (((referred.append _).append parent).append "'")) .nil
  | exited rule depth decision =>
    cases decision with
    | ok allowed => exact .cons (standsAt_indented _ (((leaving rule).append _).append _)) .nil
    | error error => exact .cons (standsAt_indented _ (((leaving rule).append _).append _)) .nil

theorem length_lines (callback : Callback) :
    (lines callback).length = match callback with | .entered _ 0 _ _ => 3 | _ => 1 := by
  cases callback with
  | entered rule depth identity parameters => cases depth <;> rfl
  | fellBack | nested => rfl
  | exited rule depth decision => cases decision <;> rfl

theorem foldl_observer (callbacks : List Callback) (written : List String) :
    callbacks.foldl observer written = written ++ callbacks.flatMap lines := by
  induction callbacks generalizing written with
  | nil => exact (List.append_nil written).symm
  | cons callback callbacks induction =>
    rw [List.foldl_cons, induction, observer, List.flatMap_cons, List.append_assoc]

end Trace

namespace LogEvent

/-- The messages of the events that belong to a trace. -/
def traceMessages (log : List LogEvent) : List String :=
  (log.filter (·.source = .trace)).map message

theorem traceMessages_append (first second : List LogEvent) :
    traceMessages (first ++ second) = traceMessages first ++ traceMessages second := by
  simp [traceMessages]

theorem traceMessages_traced (lines : List String) : traceMessages (lines.map traced) = lines := by
  induction lines with
  | nil => rfl
  | cons line lines induction =>
    rw [List.map_cons, ← List.singleton_append, traceMessages_append, induction]
    rfl

/-- What happens in a run is not logged as a trace. -/
theorem traceMessages_of_run (events : List Happening) :
    traceMessages (events.filterMap Happening.logEvent?) = [] := by
  rw [traceMessages, List.map_eq_nil_iff, List.filter_eq_nil_iff]
  intro event member
  obtain ⟨happening, -, logged⟩ := List.mem_filterMap.1 member
  cases happening <;> cases logged <;> exact Bool.false_ne_true

end LogEvent

/-! ## Sessions -/

namespace Session

variable {State : Type} (session : Session) (rule : String) (parameters : Json)

theorem attends_attend (observer : Observer State) :
    Attends (session.inquiry parameters) observer (session.attend observer rule parameters)
      (session.run rule parameters) := by
  intro before
  rcases session.run_cases rule parameters with
    ⟨strict, missing, incomplete, run_eq⟩ | ⟨complete, run_eq⟩
  · rw [run_eq]
    simp only [attend, strict, if_true, incomplete]
    rfl
  · have allowed : (if session.engine.options.strict then
        session.engine.missing? rule (session.engine.mergedParameters parameters) else none) =
        none := by
      split
      next strict => simpa [strict] using complete
      next => rfl
    rw [run_eq, attend]
    simp only [allowed]
    exact Inquiry.attends_attend _ observer _ [] rule before

/-- A check under an observer decides as without one, and the observer ends as if the callbacks
had been handed to it afterwards. -/
theorem run_attend (observer : Observer State) (initial : State) :
    (session.attend observer rule parameters).run ⟨initial, []⟩ =
      ((session.check rule parameters).answer,
        ⟨(session.callbacks rule parameters).foldl observer initial,
          session.runLog rule parameters⟩) :=
  session.attends_attend rule parameters observer ⟨initial, []⟩

theorem traced_eq : session.traced rule parameters =
    ((session.check rule parameters).answer,
      (session.callbacks rule parameters).flatMap Trace.lines) := by
  rw [traced, observe, Trace.foldl_observer, List.nil_append]
  rfl

/-- The trace is written while the check is decided, and logged when it is over. -/
theorem run_attendTraced : (session.attendTraced rule parameters).run ⟨[], []⟩ =
    ((session.check rule parameters).answer,
      ⟨(session.callbacks rule parameters).flatMap Trace.lines ++
          Trace.closing (session.check rule parameters).answer,
        session.runLog rule parameters ++ session.traceLog rule parameters⟩) := by
  have begun := session.run_attend rule parameters Trace.observer []
  rw [Trace.foldl_observer, List.nil_append] at begun
  rw [attendTraced, StateT.run_bind, begun, traceLog, traced_eq]
  rfl

theorem attendDecision_eq : session.attendDecision rule parameters =
    ((session.check rule parameters).answer, session.runLog rule parameters ++
      if session.debug then session.traceLog rule parameters else []) := by
  rw [attendDecision]
  split
  · rw [run_attendTraced]
  · rw [run_attend, List.append_nil]

theorem attendCheck_eq : session.attendCheck rule parameters = session.check rule parameters := by
  rw [attendCheck, attendDecision_eq]
  rfl

theorem attendCheckTraced_eq :
    session.attendCheckTraced rule parameters = session.checkTraced rule parameters := by
  rw [attendCheckTraced, run_attendTraced, checkTraced, traced_eq]
  cases (session.check rule parameters).answer with
  | ok allowed => simp [Trace.closing]
  | error error => rfl

/-- A check that is traced logs the lines of its callbacks and then the line of its failure, if it
fails. -/
theorem traceMessages_check (traced : session.debug = true) :
    LogEvent.traceMessages (session.check rule parameters).log =
      (session.callbacks rule parameters).flatMap Trace.lines ++
        Trace.closing (session.check rule parameters).answer := by
  have logged : session.traceLog rule parameters =
      ((session.callbacks rule parameters).flatMap Trace.lines ++
        Trace.closing (session.check rule parameters).answer).map LogEvent.traced := by
    rw [traceLog, traced_eq]
  have silent : LogEvent.traceMessages (session.runLog rule parameters) = [] :=
    LogEvent.traceMessages_of_run _
  simp only [check] at logged ⊢
  rw [if_pos traced, LogEvent.traceMessages_append, LogEvent.traceMessages_append, silent, logged,
    LogEvent.traceMessages_traced, List.nil_append]
  cases (session.run rule parameters).decision <;> exact List.append_nil _

theorem traceMessages_check_of_untraced (untraced : session.debug = false) :
    LogEvent.traceMessages (session.check rule parameters).log = [] := by
  have silent : LogEvent.traceMessages (session.runLog rule parameters) = [] :=
    LogEvent.traceMessages_of_run _
  simp only [check, untraced, Bool.false_eq_true, if_false, List.append_nil]
  rw [LogEvent.traceMessages_append, silent, List.nil_append]
  cases (session.run rule parameters).decision <;> rfl

/-- Observing a check changes neither its answer nor what happens in it, and every trace tells just
its callbacks. -/
structure SideChannel (session : Session) (rule : String) (parameters : Json) : Prop where
  /-- An observer that is fed while the check is decided finds the answer of the check and ends as
  if the callbacks had been handed to it afterwards. -/
  attended : ∀ (State : Type) (observer : Observer State) (initial : State),
    (session.attend observer rule parameters).run ⟨initial, []⟩ =
        ((session.check rule parameters).answer,
          ⟨(session.callbacks rule parameters).foldl observer initial,
            session.runLog rule parameters⟩) ∧
      (session.checkObserved observer initial rule parameters).answer =
        ((session.check rule parameters).answer,
          (session.callbacks rule parameters).foldl observer initial)
  /-- Sessions that trace and sessions that do not give the same answer, also with the observer
  that writes the trace fed on the way. -/
  checked : ∀ debug, { session with debug }.attendCheck rule parameters =
      { session with debug }.check rule parameters ∧
    ({ session with debug }.check rule parameters).answer = (session.check rule parameters).answer
  /-- A check that gives its trace has the same answer, with the lines of the callbacks in order. -/
  traced : session.attendCheckTraced rule parameters = session.checkTraced rule parameters ∧
    (session.checkTraced rule parameters).answer =
      (session.check rule parameters).answer.map fun allowed =>
        ⟨allowed, rule, (session.callbacks rule parameters).flatMap Trace.lines⟩
  /-- A session that traces logs these lines, and one more if and only if the check fails. -/
  logged : LogEvent.traceMessages ({ session with debug := true }.check rule parameters).log =
    (session.callbacks rule parameters).flatMap Trace.lines ++
      match (session.check rule parameters).answer with
      | .ok _ => []
      | .error error => ["ERROR: " ++ error.message]
  /-- A session that does not trace logs no such lines. -/
  unlogged : LogEvent.traceMessages ({ session with debug := false }.check rule parameters).log = []
  /-- Entering the checked rule is told in three lines and everything else in one, each behind just
  two spaces for every level of its depth. -/
  rendered : ∀ callback ∈ session.callbacks rule parameters,
    (Trace.lines callback).length = (match callback with | .entered _ 0 _ _ => 3 | _ => 1) ∧
    List.Forall₂ Trace.StandsAt (Trace.depths callback) (Trace.lines callback)

theorem observation_sideChannel (session : Session) (rule : String) (parameters : Json) :
    session.SideChannel rule parameters where
  attended _ observer initial :=
    ⟨session.run_attend rule parameters observer initial, rfl⟩
  checked debug := ⟨attendCheck_eq _ rule parameters, rfl⟩
  traced := by
    refine ⟨session.attendCheckTraced_eq rule parameters, ?_⟩
    rw [checkTraced, traced_eq]
  logged := by
    have told := traceMessages_check { session with debug := true } rule parameters rfl
    have same : ({ session with debug := true }.check rule parameters).answer =
        (session.check rule parameters).answer := rfl
    rw [told, same]
    cases (session.check rule parameters).answer <;> rfl
  unlogged := traceMessages_check_of_untraced { session with debug := false } rule parameters rfl
  rendered callback _ := ⟨Trace.length_lines callback, Trace.lines_standAt callback⟩

/-- A session with a rule that refers to a name without a rule, for which the default rule refers
back. -/
def fallbackSession : Session where
  engine := (Engine.ofConfiguration (.ofList [("_default", "rule:a"), ("a", "rule:b")])
    {}).toOption.get (by decide +kernel)
  identity := ⟨{ roles := [⟨none, some "reader"⟩] }⟩
  debug := false

theorem observation_sideChannel_fallback :
    (fallbackSession.check "a" .null).answer = .error (.cyclicRule ["a", "b", "a"]) ∧
      LogEvent.traceMessages ({ fallbackSession with debug := true }.check "a" .null).log =
        ["-> rule 'a'",
          "  context: roles=[reader] user_id=- project_id=- domain_id=- is_admin=false " ++
            "is_admin_project=false system_scope=-",
          "  params: {}",
          "  rule:b referenced from 'a'",
          "  -> rule 'b'",
          "    rule 'b' not found, falling back to '_default'",
          "    rule:a referenced from 'b'",
          "  <- rule 'b' failed: Evaluation error: cyclic rule reference: a -> b -> a",
          "<- rule 'a' failed: Evaluation error: cyclic rule reference: a -> b -> a",
          "ERROR: Evaluation error: cyclic rule reference: a -> b -> a"] := by
  have answer : (fallbackSession.check "a" .null).answer =
      .error (.cyclicRule ["a", "b", "a"]) := by
    decide +kernel
  refine ⟨answer, ?_⟩
  rw [(observation_sideChannel fallbackSession "a" .null).logged, answer]
  decide +kernel

end Session

end AccessPolicy
