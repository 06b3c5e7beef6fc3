import Mathlib.Order.Basic

/-!
# Runs of partial step functions

A system is a partial step function: an action either is disabled in a state
or leads to exactly one next state.  `execute` runs a list of actions and is
meant for evaluation; `GuardedRun` is the same thing as a relation, with a
condition that every step of the run meets.  Taking the condition to be
trivial gives the plain runs.

The two invariant rules say that what a step keeps, a run keeps.
`GuardedRun.strict_or_broken` is the rule for exact conditions: what broke for
good shows at the end.
-/

namespace Audiopipe.Foundation.GuardedRuns

universe u v

variable {State : Type u} {Action : Type v}

/-- Execute a list of actions, failing at the first disabled one. -/
def execute (step : State → Action → Option State) :
    State → List Action → Option State
  | state, [] => some state
  | state, action :: rest =>
      (step state action).bind fun next => execute step next rest

/--
`GuardedRun step guard start actions finish` holds when `actions` leads from
`start` to `finish` and each of its steps is taken from a state in which
`guard` allows it.
-/
inductive GuardedRun
    (step : State → Action → Option State)
    (guard : State → Action → Prop) :
    State → List Action → State → Prop where
  | done (state : State) : GuardedRun step guard state [] state
  | next {state middle finish : State} {action : Action}
      {actions : List Action}
      (allowed : guard state action)
      (enabled : step state action = some middle)
      (rest : GuardedRun step guard middle actions finish) :
      GuardedRun step guard state (action :: actions) finish

/-- A run without any condition on its steps. -/
abbrev Run (step : State → Action → Option State) :
    State → List Action → State → Prop :=
  GuardedRun step fun _ _ => True

/-- The states that some run reaches. -/
def Reachable (step : State → Action → Option State)
    (start state : State) : Prop :=
  ∃ actions, Run step start actions state

variable {step : State → Action → Option State}
variable {guard : State → Action → Prop}

/-- Executing a list of actions is the same as having a run with them. -/
theorem execute_eq_some_iff
    {start finish : State} {actions : List Action} :
    execute step start actions = some finish ↔
      Run step start actions finish := by
  induction actions generalizing start with
  | nil =>
      constructor
      · intro equal
        cases equal
        exact .done _
      · intro run
        cases run
        rfl
  | cons action rest induction =>
      constructor
      · intro equal
        rcases Option.bind_eq_some_iff.mp equal with
          ⟨middle, enabled, executed⟩
        exact .next trivial enabled (induction.mp executed)
      · intro run
        cases run with
        | next allowed enabled tail =>
            exact
              Option.bind_eq_some_iff.mpr
                ⟨_, enabled, induction.mpr tail⟩

/-- A run whose actions are allowed in every state is a guarded run. -/
theorem GuardedRun.ofRun
    {start finish : State} {actions : List Action}
    (allowed : ∀ action ∈ actions, ∀ state, guard state action)
    (run : Run step start actions finish) :
    GuardedRun step guard start actions finish := by
  induction run with
  | done state => exact .done state
  | @next state middle finish action actions _ enabled rest induction =>
      refine .next (allowed action (List.mem_cons_self ..) state) enabled ?_
      exact
        induction fun later member =>
          allowed later (List.mem_cons_of_mem _ member)

/-- A run is one under every weaker guard. -/
theorem GuardedRun.weaken
    {weaker : State → Action → Prop}
    (weakens :
      ∀ {state : State} {action : Action},
        guard state action → weaker state action)
    {start finish : State} {actions : List Action}
    (run : GuardedRun step guard start actions finish) :
    GuardedRun step weaker start actions finish := by
  induction run with
  | done state => exact .done state
  | next allowed enabled rest induction =>
      exact .next (weakens allowed) enabled induction

/-- The step function that a guard leaves over. -/
def allowing
    (step : State → Action → Option State)
    (guard : State → Action → Prop)
    [∀ state action, Decidable (guard state action)]
    (state : State) (action : Action) : Option State :=
  if guard state action then step state action else none

/-- Executing only steps that the guard allows gives a guarded run. -/
theorem GuardedRun.ofExecute
    [∀ state action, Decidable (guard state action)]
    {start finish : State} {actions : List Action}
    (executed : execute (allowing step guard) start actions = some finish) :
    GuardedRun step guard start actions finish := by
  induction actions generalizing start with
  | nil =>
      cases executed
      exact .done _
  | cons action rest induction =>
      rcases Option.bind_eq_some_iff.mp executed with
        ⟨middle, enabled, later⟩
      rw [allowing] at enabled
      split at enabled
      · next allowed => exact .next allowed enabled (induction later)
      · cases enabled

/-- Runs compose. -/
theorem GuardedRun.append
    {start middle finish : State} {actions later : List Action}
    (run : GuardedRun step guard start actions middle)
    (continued : GuardedRun step guard middle later finish) :
    GuardedRun step guard start (actions ++ later) finish := by
  induction run with
  | done state => exact continued
  | next allowed enabled rest induction =>
      exact .next allowed enabled (induction continued)

/--
The invariant rule: a property that every allowed step keeps holds at the end
of every guarded run that starts with it.
-/
theorem GuardedRun.preserves
    {invariant : State → Prop}
    (stepPreserves :
      ∀ {state next : State} {action : Action},
        guard state action →
        step state action = some next →
        invariant state → invariant next)
    {start finish : State} {actions : List Action}
    (run : GuardedRun step guard start actions finish)
    (initially : invariant start) :
    invariant finish := by
  induction run with
  | done state => exact initially
  | next allowed enabled rest induction =>
      exact induction (stepPreserves allowed enabled initially)

/-- The invariant rule for the reachable states of an unguarded system. -/
theorem Reachable.preserves
    {invariant : State → Prop}
    (stepPreserves :
      ∀ {state next : State} {action : Action},
        step state action = some next →
        invariant state → invariant next)
    {start state : State}
    (reachable : Reachable step start state)
    (initially : invariant start) :
    invariant state := by
  rcases reachable with ⟨actions, run⟩
  exact
    GuardedRun.preserves
      (fun _ enabled holds => stepPreserves enabled holds)
      run initially

/--
Where the steps that a stricter guard allows keep an invariant, and one that
it forbids breaks something for good, a run either meets the stricter guard
and has kept the invariant, or is broken at its end.
-/
theorem GuardedRun.strict_or_broken
    {strict : State → Action → Prop} {invariant broken : State → Prop}
    (keeps :
      ∀ {state next : State} {action : Action},
        strict state action →
        step state action = some next →
        invariant state → invariant next)
    (breaks :
      ∀ {state next : State} {action : Action},
        guard state action →
        step state action = some next →
        ¬ strict state action → invariant state → broken next)
    (stays :
      ∀ {state next : State} {action : Action},
        guard state action →
        step state action = some next →
        broken state → broken next)
    {start finish : State} {actions : List Action}
    (run : GuardedRun step guard start actions finish)
    (initially : invariant start) :
    (GuardedRun step strict start actions finish ∧ invariant finish) ∨
      broken finish := by
  induction run with
  | done state => exact .inl ⟨.done state, initially⟩
  | @next state middle finish action actions allowed enabled rest
      induction =>
      by_cases strictly : strict state action
      · rcases induction (keeps strictly enabled initially) with
          ⟨run, holds⟩ | broke
        · exact .inl ⟨.next strictly enabled run, holds⟩
        · exact .inr broke
      · have broke := breaks allowed enabled strictly initially
        exact .inr (rest.preserves stays broke)

/--
Where a step that a stricter guard forbids breaks something for good, a run
whose end is not broken meets the stricter guard.
-/
theorem GuardedRun.ofUnbroken
    {strict : State → Action → Prop} {broken : State → Prop}
    (breaks :
      ∀ {state next : State} {action : Action},
        guard state action →
        step state action = some next →
        ¬ strict state action → broken next)
    (stays :
      ∀ {state next : State} {action : Action},
        guard state action →
        step state action = some next →
        broken state → broken next)
    {start finish : State} {actions : List Action}
    (run : GuardedRun step guard start actions finish)
    (sound : ¬ broken finish) :
    GuardedRun step strict start actions finish := by
  have outcome :=
    run.strict_or_broken (fun _ _ _ => trivial)
      (fun allowed enabled forbidden _ =>
        breaks allowed enabled forbidden)
      stays trivial
  rcases outcome with ⟨strictly, _⟩ | broke
  · exact strictly
  · exact (sound broke).elim

/-! ## Runs of a part of a system -/

variable {State' : Type*} {Action' : Type*}

/--
Where each step of a system is a step of one of its parts or leaves the part
alone, the runs of the system are runs of the part.
-/
theorem GuardedRun.project
    {step' : State' → Action' → Option State'}
    (part : State → State') (ofAction : Action → Option Action')
    (takesPart :
      ∀ {state next : State} {action : Action} {action' : Action'},
        step state action = some next →
        ofAction action = some action' →
        step' (part state) action' = some (part next))
    (leavesAlone :
      ∀ {state next : State} {action : Action},
        step state action = some next →
        ofAction action = none → part next = part state)
    {start finish : State} {actions : List Action}
    (run : GuardedRun step guard start actions finish) :
    Run step' (part start) (actions.filterMap ofAction)
      (part finish) := by
  induction run with
  | done state => exact .done _
  | @next state middle finish action actions allowed enabled rest
      induction =>
      cases taken : ofAction action with
      | none =>
          rw [List.filterMap_cons_none taken,
            ← leavesAlone enabled taken]
          exact induction
      | some action' =>
          rw [List.filterMap_cons_some taken]
          exact .next trivial (takesPart enabled taken) induction

end Audiopipe.Foundation.GuardedRuns
