import AccessPolicy.Proofs.Callbacks
import AccessPolicy.Proofs.CycleGuard
import AccessPolicy.Proofs.ParameterReports

/-!
# Logged events

The log of a check can be told from its callbacks and its answer. While a rule is decided, an event
is logged for every callback that the default rule is used, and nothing else unless the run meets a
cycle: that is logged last, because the run fails with it. Then a decision is logged, if there is
one. A check that fails for missing parameters logs only that they are missing.
-/

namespace AccessPolicy

/-- What a log shows of an event. -/
structure LogRecord where
  /-- How important the event is. -/
  level : LogLevel
  /-- Where the event comes from. -/
  source : LogSource
  /-- The message. -/
  message : String
  /-- The further fields. -/
  fields : Entries Json
  deriving DecidableEq

namespace LogEvent

/-- The event as a log shows it. -/
def shown (event : LogEvent) : LogRecord where
  level := event.level
  source := event.source
  message := event.message
  fields := event.fields

/-- The warning that a decision is cyclic. -/
def cycleWarning : Decision → List LogEvent
  | .error (.cyclicRule chain) => [.cycleMet chain]
  | _ => []

/-- The event that a check of a rule came to a decision. -/
def verdict (rule : String) : Decision → List LogEvent
  | .ok allowed => [.decided rule allowed]
  | .error _ => []

theorem map_shown_cycleWarning (decision : Decision) :
    (cycleWarning decision).map shown = match decision with
      | .error (.cyclicRule chain) =>
        [⟨.warn, .engine, "cyclic rule reference", [("chain", .string (" -> ".intercalate chain))]⟩]
      | _ => [] := by
  unfold cycleWarning
  split <;> rfl

theorem map_shown_verdict (rule : String) (decision : Decision) :
    (verdict rule decision).map shown = match decision with
      | .ok allowed =>
        [⟨.debug, .engine, "policy check", [("allowed", .bool allowed), ("rule", .string rule)]⟩]
      | .error _ => [] := by
  cases decision <;> rfl

theorem cycleWarning_eq_nil {decision : Decision} (acyclic : ¬IsCyclic decision) :
    cycleWarning decision = [] := by
  unfold cycleWarning
  split
  next chain => exact absurd ⟨chain, rfl⟩ acyclic
  next => rfl

end LogEvent

/-- The name that the default rule is used for, if a callback tells of one. -/
def Callback.requested? : Callback → Option String
  | .fellBack requested _ _ => some requested
  | _ => none

/-! ## The log of a run -/

namespace Inquiry

variable {inquiry : Inquiry} {run : Run Happening} {name : String} {levels : Nat}
  {active : List String}

/-- The events that are logged beside the callbacks of what happens. -/
def fallbackLog (inquiry : Inquiry) (events : List Happening) : List LogEvent :=
  ((inquiry.told events).filterMap Callback.requested?).map .fellBack

theorem fallbackLog_append (front back : List Happening) :
    inquiry.fallbackLog (front ++ back) = inquiry.fallbackLog front ++ inquiry.fallbackLog back := by
  rw [fallbackLog, told_append, List.filterMap_append, List.map_append, fallbackLog, fallbackLog]

/-- A run logs the events beside its callbacks, and then a warning if it is cyclic. -/
def LogsTruly (inquiry : Inquiry) (run : Run Happening) : Prop :=
  run.events.filterMap Happening.logEvent? =
    inquiry.fallbackLog run.events ++ LogEvent.cycleWarning run.decision

namespace LogsTruly

theorem settled (inquiry : Inquiry) {decision : Decision} (acyclic : ¬IsCyclic decision) :
    inquiry.LogsTruly (.settled decision) := by
  rw [LogsTruly, Run.decision_settled, LogEvent.cycleWarning_eq_nil acyclic]
  rfl

/-- A run that is followed by another has no warning in its log, since it did not fail. -/
theorem andThen {next : Bool → Run Happening} (first : inquiry.LogsTruly run)
    (second : ∀ value, inquiry.LogsTruly (next value)) : inquiry.LogsTruly (run.andThen next) := by
  cases decided : run.decision with
  | error error => rwa [Run.andThen_of_error next decided]
  | ok value =>
    have unwarned : run.events.filterMap Happening.logEvent? = inquiry.fallbackLog run.events := by
      rw [first, decided]
      exact List.append_nil _
    rw [Run.andThen_of_ok next decided, LogsTruly, List.filterMap_append, unwarned, second value,
      fallbackLog_append, List.append_assoc]

/-- Events around a run change nothing if those before it are logged beside their callbacks and those
after it are not logged. -/
theorem enclosed {before : List Happening} {after : Decision → List Happening}
    (inner : inquiry.LogsTruly run)
    (front : before.filterMap Happening.logEvent? = inquiry.fallbackLog before)
    (back : ∀ decision, (after decision).filterMap Happening.logEvent? = [] ∧
      inquiry.fallbackLog (after decision) = []) :
    inquiry.LogsTruly (.enclosed before run after) := by
  obtain ⟨unlogged, untold⟩ := back run.decision
  simp only [LogsTruly, Run.enclosed, List.filterMap_append, fallbackLog_append, front, unlogged,
    untold, List.append_nil, List.append_assoc]
  rw [inner]

theorem tree {leaf : String → Run Happening} (leaves : ∀ text, inquiry.LogsTruly (leaf text))
    (tree : Node) : inquiry.LogsTruly (tree.evaluate leaf) := by
  induction tree using Node.evaluation_induction with
  | leaf text parameters => exact leaves text
  | rightless => exact .settled inquiry nofun
  | negation left right parameters induction =>
    rw [Node.evaluate_negation]
    exact induction.andThen fun value => .settled inquiry nofun
  | leftless joint right parameters joins =>
    rw [Node.evaluate_leftless leaf joins]
    exact .settled inquiry nofun
  | binary joint left right parameters joins left_induction right_induction =>
    rw [Node.evaluate_binary leaf joins]
    refine left_induction.andThen fun value => ?_
    split
    · exact right_induction
    · exact .settled inquiry nofun

end LogsTruly

theorem logsTruly_cycle (active : List String) (name : String) :
    inquiry.LogsTruly (cycle active name) := rfl

theorem logsTruly_leafRun (acyclic : inquiry.engine.RemoteNeverCyclic)
    (calls : ∀ reference, inquiry.LogsTruly (inquiry.decide levels (active ++ [name]) reference))
    (text : String) : inquiry.LogsTruly (inquiry.leafRun levels active name text) := by
  by_cases refers : ∃ value, Leaf.ofText text = .rule value
  · obtain ⟨value, refers⟩ := refers
    rw [leafRun_of_rule _ _ _ refers, referenceRun]
    exact (calls _).enclosed rfl fun _ => ⟨rfl, rfl⟩
  · -- Without a reference, only the remote check could fail with a cycle that nothing has logged.
    rcases leafRun_of_ruleless levels active name (not_exists.1 refers) with
      ⟨check, address, supplied, run_eq⟩ | ⟨decision, run_eq, causes⟩
    · rw [run_eq, LogsTruly, LogEvent.cycleWarning_eq_nil (acyclic check supplied _ _ _)]
      rfl
    · rw [run_eq]
      refine .settled inquiry ?_
      rintro ⟨chain, rfl⟩
      obtain ⟨other, -, same⟩ := causes _ rfl
      cases same

/-- A name is decided with a true log, at every depth and below any names. -/
theorem logsTruly_decide (acyclic : inquiry.engine.RemoteNeverCyclic) (levels : Nat)
    (active : List String) (name : String) :
    inquiry.LogsTruly (inquiry.decide levels active name) := by
  induction levels generalizing active name with
  | zero => exact logsTruly_cycle active name
  | succ levels induction =>
    by_cases old : name ∈ active
    · rw [decide_of_mem _ old]
      exact logsTruly_cycle active name
    · cases resolves : inquiry.engine.resolve? name with
      | none =>
        have unknown : inquiry.LogsTruly (.failed (.unknownRule name)) := .settled inquiry nofun
        rw [decide_of_unresolved levels old resolves]
        exact unknown.enclosed rfl fun _ => ⟨rfl, rfl⟩
      | some found =>
        obtain ⟨resolved, compiled⟩ := found
        rw [decide_of_resolved levels old resolves]
        have leaves : ∀ text, inquiry.LogsTruly (inquiry.leafRun levels active name text) :=
          logsTruly_leafRun acyclic fun reference => induction (active ++ [name]) reference
        have evaluated := LogsTruly.tree leaves compiled.tree
        refine (evaluated.enclosed ?_ fun _ => ⟨rfl, rfl⟩).enclosed rfl fun _ => ⟨rfl, rfl⟩
        split <;> rfl

end Inquiry

/-! ## The log of a check -/

namespace Session

variable {session : Session} {rule : String} {parameters : Json}

/-- A check that fails for missing parameters ends before its rule is decided. -/
theorem run_eq_missing_of_answer (never : session.engine.RemoteNeverMissing) {name : String}
    {missing : List String}
    (fails : (session.check rule parameters).answer = .error (.missingParameters name missing)) :
    session.run rule parameters =
      ⟨[.parametersMissing name missing], .error (.missingParameters name missing)⟩ := by
  have decided : (session.run rule parameters).decision =
      .error (.missingParameters name missing) := fails
  rcases session.run_cases rule parameters with ⟨-, lacking, -, run_eq⟩ | ⟨-, run_eq⟩
  · rw [run_eq] at decided
    cases decided
    exact run_eq
  · rw [run_eq] at decided
    cases Inquiry.Calls.checked.cause decided with
    | remote supplied _ fails => exact absurd fails (never _ supplied _ _ _ _ _)

theorem log_check_of_untraced (untraced : session.debug = false) :
    (session.check rule parameters).log = session.runLog rule parameters ++
      LogEvent.verdict rule (session.check rule parameters).answer := by
  simp only [check, untraced, Bool.false_eq_true, if_false, List.append_nil]
  rfl

/-- The log of a check that decides its rule. -/
theorem log_check_of_decides (untraced : session.debug = false)
    (acyclic : session.engine.RemoteNeverCyclic)
    (decides : session.run rule parameters = (session.inquiry parameters).run rule) :
    (session.check rule parameters).log =
      ((session.callbacks rule parameters).filterMap Callback.requested?).map .fellBack ++
        LogEvent.cycleWarning (session.check rule parameters).answer ++
        LogEvent.verdict rule (session.check rule parameters).answer := by
  have logged : session.runLog rule parameters =
      ((session.callbacks rule parameters).filterMap Callback.requested?).map .fellBack ++
        LogEvent.cycleWarning (session.check rule parameters).answer := by
    rw [runLog, callbacks, check, decides]
    exact Inquiry.logsTruly_decide acyclic _ [] rule
  rw [log_check_of_untraced untraced, logged]

/-- The log of a check tells how it went. -/
structure LogTells (session : Session) (rule : String) (parameters : Json) : Prop where
  /-- If parameters are missing, one warning shows which. -/
  missing : ∀ name missing,
    (session.check rule parameters).answer = .error (.missingParameters name missing) →
      (session.check rule parameters).log.map LogEvent.shown =
        [⟨.warn, .engine, "required parameters missing",
          [("missing", .string (Text.quotedList missing)), ("rule", .string name)]⟩]
  /-- Otherwise every callback that the default rule is used has its event, in order. Then a warning
  shows the cycle that the check fails with, if it does, and an event shows the decision, if there
  is one. -/
  decided :
    (∀ name missing,
      (session.check rule parameters).answer ≠ .error (.missingParameters name missing)) →
    (session.check rule parameters).log.map LogEvent.shown =
      (((session.callbacks rule parameters).filterMap Callback.requested?).map fun requested =>
        ⟨.debug, .engine, "rule not configured, using '_default'",
          [("requested", .string requested)]⟩) ++
      (match (session.check rule parameters).answer with
        | .error (.cyclicRule chain) => [⟨.warn, .engine, "cyclic rule reference",
            [("chain", .string (" -> ".intercalate chain))]⟩]
        | _ => []) ++
      match (session.check rule parameters).answer with
        | .ok allowed => [⟨.debug, .engine, "policy check",
            [("allowed", .bool allowed), ("rule", .string rule)]⟩]
        | .error _ => []

/-- Whatever the rules are, the log of a check that is not traced tells how the check went, if the
remote check fails neither with a cycle nor for missing parameters. -/
theorem log_tells_outcome (session : Session) (rule : String) (parameters : Json)
    (untraced : session.debug = false) (acyclic : session.engine.RemoteNeverCyclic)
    (never : session.engine.RemoteNeverMissing) : session.LogTells rule parameters where
  missing name missing fails := by
    have run_eq := run_eq_missing_of_answer never fails
    rw [log_check_of_untraced untraced, runLog, run_eq, fails]
    rfl
  decided complete := by
    -- A check that ends with its parameters has the answer that `complete` rules out.
    rcases session.run_cases rule parameters with ⟨-, missing, -, run_eq⟩ | ⟨-, decides⟩
    · refine absurd ?_ (complete rule missing)
      rw [check, run_eq]
    · rw [log_check_of_decides untraced acyclic decides, List.map_append, List.map_append,
        List.map_map, LogEvent.map_shown_cycleWarning, LogEvent.map_shown_verdict]
      rfl

/-- A session that insists on parameters, with a default rule that refers to the name which a
parameter gives, and with a remote check that denies. -/
def remoteSession : Session where
  engine := {
    (Engine.ofConfiguration (.ofList [("_default", "rule:%(x)s"), ("c", "http://h")])
      {}).toOption.get (by decide +kernel) with
    options := { strict := true, remoteCheck? := some fun _ _ _ => .ok false } }
  identity := ⟨{}⟩
  debug := false

theorem log_tells_outcome_remote :
    remoteSession.engine.RemoteNeverCyclic ∧ remoteSession.engine.RemoteNeverMissing ∧
      (remoteSession.check "a" .null).log.map LogEvent.shown =
        [⟨.warn, .engine, "required parameters missing",
          [("missing", .string "[\"x\"]"), ("rule", .string "a")]⟩] ∧
      (remoteSession.check "a" (.object [("x", .string "b")])).log.map LogEvent.shown =
        [⟨.debug, .engine, "rule not configured, using '_default'", [("requested", .string "a")]⟩,
          ⟨.debug, .engine, "rule not configured, using '_default'",
            [("requested", .string "b")]⟩,
          ⟨.warn, .engine, "cyclic rule reference", [("chain", .string "a -> b -> b")]⟩] ∧
      (remoteSession.check "a" (.object [("x", .string "c")])).log.map LogEvent.shown =
        [⟨.debug, .engine, "rule not configured, using '_default'", [("requested", .string "a")]⟩,
          ⟨.debug, .engine, "policy check", [("allowed", .bool false), ("rule", .string "a")]⟩] := by
  have acyclic : remoteSession.engine.RemoteNeverCyclic := by
    rintro check ⟨⟩ address identity parameters ⟨chain, ⟨⟩⟩
  have never : remoteSession.engine.RemoteNeverMissing := by
    rintro check ⟨⟩ address identity parameters name missing
    nofun
  have lacking : (remoteSession.check "a" .null).answer =
      .error (.missingParameters "a" ["x"]) := by
    decide +kernel
  have quoted : Text.quotedList ["x"] = "[\"x\"]" := by decide +kernel
  have cyclic : (remoteSession.check "a" (.object [("x", .string "b")])).answer =
      .error (.cyclicRule ["a", "b", "b"]) := by
    decide +kernel
  have twice : (remoteSession.callbacks "a" (.object [("x", .string "b")])).filterMap
      Callback.requested? = ["a", "b"] := by
    decide +kernel
  have denied : (remoteSession.check "a" (.object [("x", .string "c")])).answer = .ok false := by
    decide +kernel
  have once : (remoteSession.callbacks "a" (.object [("x", .string "c")])).filterMap
      Callback.requested? = ["a"] := by
    decide +kernel
  have warned := (log_tells_outcome remoteSession "a" .null rfl acyclic never).missing _ _ lacking
  have failed := (log_tells_outcome remoteSession "a" (.object [("x", .string "b")]) rfl acyclic
    never).decided (by rw [cyclic]; nofun)
  have settled := (log_tells_outcome remoteSession "a" (.object [("x", .string "c")]) rfl acyclic
    never).decided (by rw [denied]; nofun)
  rw [quoted] at warned
  rw [cyclic, twice] at failed
  rw [denied, once] at settled
  exact ⟨acyclic, never, warned, failed, settled⟩

end Session

end AccessPolicy
