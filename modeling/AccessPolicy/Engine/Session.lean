import AccessPolicy.Engine.Log

/-!
# Sessions

A session asks one engine for one identity. Observers are told what happens in a check and cannot
change its decision; the trace of a check is what an observer writes down.
-/

namespace AccessPolicy

/-- What an observer is told. -/
inductive Callback where
  /-- A rule is about to be decided. -/
  | entered (rule : String) (depth : Nat) (identity : Identity) (parameters : Json)
  /-- Another rule is used for a name that is not configured. -/
  | fellBack (requested resolved : String) (depth : Nat)
  /-- A leaf of the rule used for `parent` refers to a name. -/
  | nested (parent rule : String) (depth : Nat)
  /-- A rule was decided, or failed. -/
  | exited (rule : String) (depth : Nat) (decision : Decision)
  deriving DecidableEq

/-- A machine that is fed with callbacks. -/
abbrev Observer (State : Type) := State → Callback → State

/-- What an observer is told when something happens. -/
def Happening.callback? (identity : Identity) (parameters : Json) : Happening → Option Callback
  | .entered rule depth => some (.entered rule depth identity parameters)
  | .fellBack requested depth => some (.fellBack requested defaultRule depth)
  | .nested parent rule depth => some (.nested parent rule depth)
  | .exited rule depth decision => some (.exited rule depth decision)
  | .parametersMissing .. | .cycleMet .. | .remoteAsked .. => none

namespace Trace

/-- A line behind two spaces for every level of depth. -/
def indented (depth : Nat) (line : String) : String :=
  String.ofList (List.replicate (2 * depth) ' ') ++ line

/-- An optional fact as shown in a trace. -/
def showFact (fact : Option String) : String := fact.getD "-"

/-- The summary of an identity. -/
def showIdentity (identity : Identity) : String :=
  "roles=[" ++ ",".intercalate identity.roleNames ++
  "] user_id=" ++ showFact (identity.fact? .userId) ++
  " project_id=" ++ showFact (identity.fact? .projectId) ++
  " domain_id=" ++ showFact (identity.fact? .domainId) ++
  " is_admin=" ++ Json.boolText identity.isAdmin ++
  " is_admin_project=" ++ Json.boolText identity.isAdminProject ++
  " system_scope=" ++ showFact (identity.fact? .systemScope)

/-- The lines that tell a callback. -/
def lines : Callback → List String
  | .entered rule depth identity parameters =>
    indented depth ("-> rule '" ++ rule ++ "'") ::
      if depth = 0 then
        [indented 1 ("context: " ++ showIdentity identity),
          indented 1 ("params: " ++ parameters.compact)]
      else []
  | .fellBack requested resolved depth =>
    [indented (depth + 1)
      ("rule '" ++ requested ++ "' not found, falling back to '" ++ resolved ++ "'")]
  | .nested parent rule depth =>
    [indented depth ("rule:" ++ rule ++ " referenced from '" ++ parent ++ "'")]
  | .exited rule depth (.ok allowed) =>
    [indented depth ("<- rule '" ++ rule ++ "' = " ++ Json.boolText allowed)]
  | .exited rule depth (.error error) =>
    [indented depth ("<- rule '" ++ rule ++ "' failed: " ++ error.message)]

/-- The observer that writes down the lines of every callback. -/
def observer : Observer (List String) := fun written callback => written ++ lines callback

/-- The last line of the trace of a failed check. -/
def closing : Decision → List String
  | .ok _ => []
  | .error error => ["ERROR: " ++ error.message]

end Trace

/-- An engine with the identity that asks it. -/
structure Session where
  /-- The engine. -/
  engine : Engine
  /-- Who asks. -/
  identity : Identity
  /-- Whether checks are traced in the log. -/
  debug : Bool

/-- A decision with the trace of the run that led to it. -/
structure TracedDecision where
  /-- Whether the check allows. -/
  allowed : Bool
  /-- The rule that was checked. -/
  rule : String
  /-- The lines of the trace. -/
  trace : List String
  deriving DecidableEq, Repr

/-- An answer with the events that were logged on the way to it. -/
structure Logged (Answer : Type) where
  /-- The answer. -/
  answer : Answer
  /-- The logged events, in order. -/
  log : List LogEvent

namespace Engine

/-- A session for an identity. -/
def session (engine : Engine) (identity : Identity) (options : SessionOptions) : Session where
  engine := engine
  identity := identity
  debug := options.debug.getD engine.options.debug

/-- A session for the identity of a token. -/
def open? (engine : Engine) (token : Json) (options : SessionOptions) :
    Except PolicyError Session :=
  match Identity.ofJson token with
  | .ok identity => .ok (engine.session identity options)
  | .error cause => .error (.invalidToken cause)

end Engine

namespace Session

/-- The run of a check. Where parameters are insisted on, a missing one ends it at once. -/
def run (session : Session) (rule : String) (parameters : Json) : Run Happening :=
  let merged := session.engine.mergedParameters parameters
  let missing := if session.engine.options.strict then session.engine.missing? rule merged else none
  match missing with
  | some missing =>
    ⟨[.parametersMissing rule missing], .error (.missingParameters rule missing)⟩
  | none => Inquiry.run ⟨session.engine, session.identity, merged⟩ rule

/-- The callbacks of a check, in order. -/
def callbacks (session : Session) (rule : String) (parameters : Json) : List Callback :=
  (session.run rule parameters).events.filterMap
    (Happening.callback? session.identity (session.engine.mergedParameters parameters))

/-- The events that the run of a check logs. -/
def runLog (session : Session) (rule : String) (parameters : Json) : List LogEvent :=
  (session.run rule parameters).events.filterMap Happening.logEvent?

/-- The decision of a check, and the state of an observer after it. -/
def observe {State : Type} (session : Session) (observer : Observer State) (initial : State)
    (rule : String) (parameters : Json) : Decision × State :=
  ((session.run rule parameters).decision,
    (session.callbacks rule parameters).foldl observer initial)

/-- The lines of the trace of a check, and its decision. -/
def traced (session : Session) (rule : String) (parameters : Json) : Decision × List String :=
  session.observe Trace.observer [] rule parameters

/-- The trace of a check as it is logged; a failure is told at the end. -/
def traceLog (session : Session) (rule : String) (parameters : Json) : List LogEvent :=
  let (decision, lines) := session.traced rule parameters
  (lines ++ Trace.closing decision).map LogEvent.traced

/-- Checks a rule. A session with tracing logs the trace, and every decision is logged. -/
def check (session : Session) (rule : String) (parameters : Json) : Logged Decision :=
  let decision := (session.run rule parameters).decision
  let trace := if session.debug then session.traceLog rule parameters else []
  let decided := match decision with
    | .ok allowed => [.decided rule allowed]
    | .error _ => []
  ⟨decision, session.runLog rule parameters ++ trace ++ decided⟩

/-- Checks a rule and gives the trace with the decision. The trace is logged too. -/
def checkTraced (session : Session) (rule : String) (parameters : Json) :
    Logged (Except PolicyError TracedDecision) :=
  let (decision, lines) := session.traced rule parameters
  ⟨decision.map fun allowed => ⟨allowed, rule, lines⟩,
    session.runLog rule parameters ++ session.traceLog rule parameters⟩

/-- Checks a rule and gives the lines that the trace observer writes down. A failure is written at
the end, and only then are the lines logged. -/
def checkWritten (session : Session) (rule : String) (parameters : Json) :
    Logged (Decision × List String) :=
  let (decision, lines) := session.traced rule parameters
  let logged := match decision with
    | .ok _ => []
    | .error _ => session.traceLog rule parameters
  ⟨(decision, lines ++ Trace.closing decision), session.runLog rule parameters ++ logged⟩

/-- Checks a rule under an observer. -/
def checkObserved {State : Type} (session : Session) (observer : Observer State) (initial : State)
    (rule : String) (parameters : Json) : Logged (Decision × State) :=
  ⟨session.observe observer initial rule parameters, session.runLog rule parameters⟩

/-- The remote addresses that a check asks for, in order. -/
def remoteAddresses (session : Session) (rule : String) (parameters : Json) : List String :=
  (session.run rule parameters).events.filterMap fun
    | .remoteAsked address => some address
    | _ => none

end Session

end AccessPolicy
