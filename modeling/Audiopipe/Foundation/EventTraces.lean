import Audiopipe.Foundation.GuardedRuns

/-!
# What a run lets others see

`emit` says which events a step shows to the outside, read off the state
before the step and its action.  The trace of a run is what its steps emit,
in order.  The invariant rule for traces is the one for states with the
history in hand: what a step keeps of the history and the state, a run keeps.
-/

namespace Audiopipe.Foundation.EventTraces

open Audiopipe.Foundation.GuardedRuns

universe u v w

variable {State : Type u} {Action : Type v} {Event : Type w}

/-- The events that a list of actions emits, oldest first. -/
def trace
    (step : State → Action → Option State)
    (emit : State → Action → List Event) :
    State → List Action → List Event
  | _, [] => []
  | state, action :: rest =>
      emit state action ++
        (step state action).elim [] fun next => trace step emit next rest

variable {step : State → Action → Option State}
variable {guard : State → Action → Prop}
variable {emit : State → Action → List Event}

theorem trace_cons
    {state next : State} {action : Action}
    (enabled : step state action = some next) (rest : List Action) :
    trace step emit state (action :: rest) =
      emit state action ++ trace step emit next rest := by
  simp [trace, enabled]

/-- The trace of a run that goes on. -/
theorem trace_append
    {start middle : State} {actions : List Action}
    (run : GuardedRun step guard start actions middle)
    (later : List Action) :
    trace step emit start (actions ++ later) =
      trace step emit start actions ++ trace step emit middle later := by
  induction run with
  | done state => rfl
  | next allowed enabled rest induction =>
      rw [List.cons_append, trace_cons enabled, trace_cons enabled,
        List.append_assoc, induction]

/--
The invariant rule for traces: a property of the history and the state that
every allowed step keeps holds at the end of every guarded run.
-/
theorem trace_preserves
    {invariant : List Event → State → Prop}
    (stepPreserves :
      ∀ {events : List Event} {state next : State} {action : Action},
        guard state action →
        step state action = some next →
        invariant events state →
        invariant (events ++ emit state action) next)
    {start finish : State} {actions : List Action}
    (run : GuardedRun step guard start actions finish)
    {earlier : List Event} (initially : invariant earlier start) :
    invariant (earlier ++ trace step emit start actions) finish := by
  induction run generalizing earlier with
  | done state =>
      rw [trace, List.append_nil]
      exact initially
  | next allowed enabled rest induction =>
      rw [trace_cons enabled, ← List.append_assoc]
      exact induction (stepPreserves allowed enabled initially)

end Audiopipe.Foundation.EventTraces
