import AccessPolicy.Error

/-!
# Runs

A run is the outcome of deciding something together with everything that happened on the way, in
order. Runs follow one another; a run that fails or settles the decision is not followed.
-/

namespace AccessPolicy

/-- A decision, or why there is none. -/
abbrev Decision := Except PolicyError Bool

instance : DecidableEq Decision := fun left right =>
  match left, right with
  | .ok left, .ok right => decidable_of_iff (left = right) (by simp)
  | .error left, .error right => decidable_of_iff (left = right) (by simp)
  | .ok _, .error _ | .error _, .ok _ => isFalse (by simp)

/-- A decision with the events on the way to it. -/
structure Run (Event : Type) where
  /-- What happened, in order. -/
  events : List Event
  /-- What was decided. -/
  decision : Decision

namespace Run

variable {Event : Type}

/-- A run without events. -/
def settled (decision : Decision) : Run Event := ⟨[], decision⟩

/-- A run without events that fails. -/
def failed (error : PolicyError) : Run Event := settled (.error error)

/-- The first run followed by the one that its truth value asks for. -/
def andThen (run : Run Event) (next : Bool → Run Event) : Run Event :=
  match run.decision with
  | .error _ => run
  | .ok value => ⟨run.events ++ (next value).events, (next value).decision⟩

/-- A run with events before and after its own; the last ones may tell the decision. -/
def enclosed (before : List Event) (run : Run Event) (after : Decision → List Event) : Run Event :=
  ⟨before ++ run.events ++ after run.decision, run.decision⟩

@[simp] theorem events_settled (decision : Decision) :
    (settled decision : Run Event).events = [] := rfl

@[simp] theorem decision_settled (decision : Decision) :
    (settled decision : Run Event).decision = decision := rfl

@[simp] theorem decision_enclosed (before : List Event) (run : Run Event)
    (after : Decision → List Event) : (enclosed before run after).decision = run.decision := rfl

end Run

end AccessPolicy
