import Audiopipe.Foundation.EventTraces

/-!
# Simulations

One system simulates another up to a relation of their states if it can match
each step with steps of its own, none, one or several, that show the same to
an observer.  A simulation of steps is one of runs, and two simulations in
opposite directions make the runs of the two systems look the same.
-/

namespace Audiopipe.Foundation.Simulations

open Audiopipe.Foundation.GuardedRuns
open Audiopipe.Foundation.EventTraces

universe u v w

variable {State : Type u} {Action : Type v} {Event : Type w}
variable {State' : Type*} {Action' : Type*}

/-- From `start`, a run that shows `shown` leads to a state with `goal`. -/
def Matches
    (step : State → Action → Option State)
    (guard : State → Action → Prop) (emit : State → Action → List Event)
    (start : State) (shown : List Event) (goal : State → Prop) : Prop :=
  ∃ actions finish,
    GuardedRun step guard start actions finish ∧
      trace step emit start actions = shown ∧ goal finish

variable {step : State → Action → Option State}
variable {guard : State → Action → Prop}
variable {emit : State → Action → List Event}

/-- A state matches a step that shows nothing by staying where it is. -/
theorem Matches.stay {start : State} {goal : State → Prop}
    (there : goal start) :
    Matches step guard emit start [] goal :=
  ⟨[], start, .done start, rfl, there⟩

/-- A single step is matched by a single step that shows the same. -/
theorem Matches.single
    {start next : State} {action : Action} {shown : List Event}
    {goal : State → Prop} (allowed : guard start action)
    (enabled : step start action = some next)
    (same : emit start action = shown) (there : goal next) :
    Matches step guard emit start shown goal := by
  refine ⟨[action], next, .next allowed enabled (.done next), ?_, there⟩
  rw [trace_cons enabled, trace, List.append_nil, same]

/-- Any number of steps that show nothing match one that shows nothing. -/
theorem Matches.silent
    {start finish : State} {actions : List Action} {goal : State → Prop}
    (silent :
      ∀ action ∈ actions, ∀ state,
        guard state action ∧ emit state action = [])
    (run : Run step start actions finish) (there : goal finish) :
    Matches step guard emit start [] goal := by
  refine
    ⟨actions, finish,
      .ofRun (fun action member state => (silent action member state).1) run,
      ?_, there⟩
  induction run with
  | done state => rfl
  | @next state middle finish action rest _ enabled later induction =>
      rw [trace_cons enabled,
        (silent action (List.mem_cons_self ..) state).2, List.nil_append]
      exact
        induction
          (fun other member => silent other (List.mem_cons_of_mem _ member))
          there

variable {step' : State' → Action' → Option State'}
variable {guard' : State' → Action' → Prop}
variable {emit' : State' → Action' → List Event}

/--
The simulation rule: if each allowed step from related states can be matched,
then so can every guarded run.
-/
theorem simulates_run
    {related : State → State' → Prop}
    (simulates :
      ∀ {state next : State} {action : Action} {state' : State'},
        guard state action → step state action = some next →
          related state state' →
            Matches step' guard' emit' state' (emit state action)
              (related next))
    {start finish : State} {actions : List Action}
    (run : GuardedRun step guard start actions finish)
    {start' : State'} (initially : related start start') :
    Matches step' guard' emit' start' (trace step emit start actions)
      (related finish) := by
  induction run generalizing start' with
  | done state => exact .stay initially
  | next allowed enabled rest induction =>
      rcases simulates allowed enabled initially with
        ⟨first, middle', begun, shown, related⟩
      rcases induction related with
        ⟨later, finish', continued, shownLater, related⟩
      refine ⟨first ++ later, finish', begun.append continued, ?_, related⟩
      rw [trace_append begun, shown, shownLater, trace_cons enabled]

end Audiopipe.Foundation.Simulations
