import Audiopipe.Foundation.GuardedRuns
import Mathlib.Algebra.BigOperators.Group.Finset.Basic

/-!
# Work that is used up

A table of which finitely many entries are taken, each of which stands for
some work, stands for a total amount of work; an update changes it by what the
entry had and has.  Where every step of a run uses up work, the run is no
longer than there was work at its start.
-/

namespace Audiopipe.Foundation.FiniteWork

open Audiopipe.Foundation.GuardedRuns

universe u v

variable {Key : Type u} {Value : Type v}

/-! ## Tables -/

/-- The work that an entry of a table stands for. -/
def workAt (work : Value → ℕ) : Option Value → ℕ
  | some value => work value
  | none => 0

/-- The entries of a table stand for `total` altogether. -/
def Totals (work : Value → ℕ) (table : Key → Option Value)
    (total : ℕ) : Prop :=
  ∃ keys : Finset Key,
    (∀ key, key ∉ keys → table key = none) ∧
      ∑ key ∈ keys, workAt work (table key) = total

theorem Totals.empty (work : Value → ℕ) :
    Totals work (fun _ : Key => none) 0 :=
  ⟨∅, fun _ _ => rfl, rfl⟩

/-- The total after an update. -/
theorem Totals.update [DecidableEq Key]
    {work : Value → ℕ} {table : Key → Option Value} {total : ℕ}
    (totals : Totals work table total) (key : Key) (value : Value) :
    ∃ later,
      Totals work (Function.update table key (some value)) later ∧
        later + workAt work (table key) = total + work value := by
  rcases totals with ⟨keys, outside, rfl⟩
  let next := Function.update table key (some value)
  have here : key ∈ insert key keys := Finset.mem_insert_self key keys
  have before :
      ∑ other ∈ insert key keys, workAt work (table other) =
        ∑ other ∈ keys, workAt work (table other) := by
    refine Finset.sum_insert_of_eq_zero_if_notMem fun absent => ?_
    rw [outside key absent]
    rfl
  have elsewhere :
      ∑ other ∈ (insert key keys).erase key, workAt work (next other) =
        ∑ other ∈ (insert key keys).erase key,
          workAt work (table other) := by
    refine Finset.sum_congr rfl fun other member => ?_
    exact
      congrArg (workAt work)
        (Function.update_of_ne (Finset.ne_of_mem_erase member) ..)
  have now : workAt work (next key) = work value := by
    simp [next, workAt]
  refine ⟨_, ⟨insert key keys, fun other absent => ?_, rfl⟩, ?_⟩
  · have different : other ≠ key := fun same => absent (same ▸ here)
    rw [Function.update_of_ne different]
    exact outside other fun member =>
      absent (Finset.mem_insert_of_mem member)
  · rw [← Finset.add_sum_erase _ (fun other => workAt work (next other)) here,
      elsewhere, now, ← before,
      ← Finset.add_sum_erase _ (fun other => workAt work (table other)) here]
    omega

/-! ## Runs -/

variable {State : Type u} {Action : Type v}
variable {step : State → Action → Option State}
variable {guard : State → Action → Prop}

/-- A run in which every step uses up work. -/
theorem run_uses_up
    {work : State → ℕ → Prop}
    (uses :
      ∀ {state next : State} {action : Action} {amount : ℕ},
        guard state action → step state action = some next →
          work state amount → ∃ left, work next left ∧ left < amount)
    {start finish : State} {actions : List Action}
    (run : GuardedRun step guard start actions finish)
    {amount : ℕ} (initially : work start amount) :
    ∃ left, work finish left ∧ actions.length + left ≤ amount := by
  induction run generalizing amount with
  | done state => exact ⟨amount, initially, by simp⟩
  | next allowed enabled rest induction =>
      rcases uses allowed enabled initially with ⟨middle, there, less⟩
      rcases induction there with ⟨left, holds, bound⟩
      exact ⟨left, holds, by simp only [List.length_cons]; omega⟩

/-- Where every step uses up work, some run goes as far as it can. -/
theorem exists_last
    {work : State → ℕ → Prop}
    (uses :
      ∀ {state next : State} {action : Action} {amount : ℕ},
        guard state action → step state action = some next →
          work state amount → ∃ left, work next left ∧ left < amount)
    {start : State} {amount : ℕ} (initially : work start amount) :
    ∃ actions finish,
      GuardedRun step guard start actions finish ∧
        ∀ action, guard finish action → step finish action = none := by
  induction amount using Nat.strong_induction_on generalizing start with
  | h amount induction =>
      by_cases last :
          ∀ action, guard start action → step start action = none
      · exact ⟨[], start, .done start, last⟩
      · push Not at last
        rcases last with ⟨action, allowed, goes⟩
        rcases Option.ne_none_iff_exists'.mp goes with ⟨next, enabled⟩
        rcases uses allowed enabled initially with ⟨left, there, less⟩
        rcases induction left less there with
          ⟨actions, finish, run, last⟩
        exact
          ⟨action :: actions, finish, .next allowed enabled run, last⟩

end Audiopipe.Foundation.FiniteWork
