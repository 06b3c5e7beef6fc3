import Mathlib.Data.Set.Basic
import Mathlib.Order.WellFounded

/-!
# Locks and deadlocks

A lock is sound if the task that holds it is the one that is in the protected
part of its code; the three rules say how steps keep that.  A deadlock is a
set of tasks that all wait for each other.  There is none if waiting only
ever goes down in some well-founded order, which is what an order of the
locks gives.
-/

namespace Audiopipe.Foundation.Locks

universe u v

variable {Owner : Type u}

/-! ## Ownership -/

/-- The lock is held by exactly the tasks that are inside. -/
def LockOwned (lock : Option Owner) (inside : Owner → Bool) : Prop :=
  ∀ owner, inside owner = true ↔ lock = some owner

variable {lock : Option Owner} {inside : Owner → Bool}

/-- A lock that nobody holds and nobody is inside. -/
theorem LockOwned.free (outside : ∀ owner, inside owner = false) :
    LockOwned none inside := by
  intro owner
  rw [outside owner]
  constructor
  · intro equal
    cases equal
  · intro equal
    cases equal

/-- At most one task is inside. -/
theorem LockOwned.exclusive
    (owned : LockOwned lock inside) {first second : Owner}
    (firstInside : inside first = true)
    (secondInside : inside second = true) :
    first = second := by
  have holds := (owned first).mp firstInside
  have holds' := (owned second).mp secondInside
  exact Option.some.inj (holds.symm.trans holds')

variable [DecidableEq Owner]

/-- A task takes the free lock and goes inside. -/
theorem LockOwned.acquired
    (owned : LockOwned lock inside) (free : lock = none) (owner : Owner) :
    LockOwned (some owner) (Function.update inside owner true) := by
  intro other
  by_cases here : other = owner
  · subst here
    simp
  · rw [Function.update_of_ne here, owned other, free]
    constructor
    · intro equal
      cases equal
    · intro equal
      exact (here (Option.some.inj equal).symm).elim

/-- The task that is inside goes out and gives the lock back. -/
theorem LockOwned.released
    (owned : LockOwned lock inside) {owner : Owner}
    (holding : inside owner = true) :
    LockOwned none (Function.update inside owner false) := by
  apply LockOwned.free
  intro other
  by_cases here : other = owner
  · subst here
    exact Function.update_self ..
  · rw [Function.update_of_ne here]
    by_contra otherInside
    exact
      here
        (owned.exclusive (Bool.eq_true_of_not_eq_false otherInside)
          holding)

/-! ## Deadlocks -/

variable {Task : Type u}

/-- Tasks that all wait for a task among them. -/
def Deadlocked (waits : Task → Task → Prop) (tasks : Set Task) : Prop :=
  tasks.Nonempty ∧ ∀ task ∈ tasks, ∃ other ∈ tasks, waits task other

/-- Where waiting goes down in a well-founded order, there is no deadlock. -/
theorem not_deadlocked_of_rank
    {Rank : Type v} [LT Rank] [WellFoundedLT Rank]
    {waits : Task → Task → Prop} (rank : Task → Rank)
    (descends :
      ∀ {task other}, waits task other → rank other < rank task)
    (tasks : Set Task) :
    ¬ Deadlocked waits tasks := by
  rintro ⟨someTask, allWait⟩
  rcases
      (InvImage.wf rank wellFounded_lt).has_min tasks someTask with
    ⟨task, member, lowest⟩
  rcases allWait task member with ⟨other, otherMember, waiting⟩
  exact lowest other otherMember (descends waiting)

end Audiopipe.Foundation.Locks
