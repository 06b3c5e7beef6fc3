import Mathlib.Data.List.Basic

/-!
# Bounded first-in first-out queues

A queue of a fixed capacity with the two partial operations of a
single-producer single-consumer ring: a push that fails exactly on a full
queue and a pop that fails exactly on an empty one.  The bound on the length
is a field, so a queue that holds too much cannot be built.

`offer` and `offerAll` are the producer that goes on when a push fails.  What
a run of offers leaves behind is the queue followed by the offered values,
cut to the capacity.
-/

namespace Audiopipe.Foundation.BoundedQueues

universe u

/-- A queue that holds at most `capacity` values, oldest first. -/
structure BoundedFifo (α : Type u) (capacity : ℕ) where
  contents : List α
  bounded : contents.length ≤ capacity

variable {α : Type u} {capacity : ℕ}

namespace BoundedFifo

@[ext]
theorem ext {left right : BoundedFifo α capacity}
    (equal : left.contents = right.contents) :
    left = right := by
  cases left
  cases right
  cases equal
  rfl

/-- The queue that holds nothing. -/
def empty (α : Type u) (capacity : ℕ) : BoundedFifo α capacity where
  contents := []
  bounded := Nat.zero_le capacity

/-- No further value fits. -/
def IsFull (queue : BoundedFifo α capacity) : Prop :=
  queue.contents.length = capacity

/-- There is nothing to take. -/
def IsEmpty (queue : BoundedFifo α capacity) : Prop :=
  queue.contents = []

instance (queue : BoundedFifo α capacity) : Decidable queue.IsFull :=
  inferInstanceAs (Decidable (queue.contents.length = capacity))

instance (queue : BoundedFifo α capacity) : Decidable queue.IsEmpty :=
  inferInstanceAs (Decidable (queue.contents = []))

/-- How many values still fit. -/
def room (queue : BoundedFifo α capacity) : ℕ :=
  capacity - queue.contents.length

/-- Append a value, unless the queue is full. -/
def tryPush (queue : BoundedFifo α capacity) (value : α) :
    Option (BoundedFifo α capacity) :=
  if fits : queue.contents.length < capacity then
    some
      { contents := queue.contents ++ [value]
        bounded := by
          simpa [Nat.succ_le_iff] using fits }
  else
    none

/-- Take the oldest value, unless the queue is empty. -/
def tryPop (queue : BoundedFifo α capacity) :
    Option (α × BoundedFifo α capacity) :=
  match queue with
  | ⟨[], _⟩ => none
  | ⟨value :: rest, bounded⟩ =>
      some (value, ⟨rest, Nat.le_of_succ_le bounded⟩)

/-- A push fails exactly on a full queue. -/
theorem tryPush_eq_none_iff
    (queue : BoundedFifo α capacity) (value : α) :
    queue.tryPush value = none ↔ queue.IsFull := by
  have bounded := queue.bounded
  unfold tryPush IsFull
  split
  · simp
    omega
  · simp
    omega

/-- A push that succeeds appends its value. -/
theorem tryPush_eq_some
    {queue next : BoundedFifo α capacity} {value : α}
    (pushed : queue.tryPush value = some next) :
    next.contents = queue.contents ++ [value] ∧
      queue.contents.length < capacity := by
  unfold tryPush at pushed
  split at pushed
  · next fits =>
      cases pushed
      exact ⟨rfl, fits⟩
  · cases pushed

/-- A pop fails exactly on an empty queue. -/
theorem tryPop_eq_none_iff
    (queue : BoundedFifo α capacity) :
    queue.tryPop = none ↔ queue.IsEmpty := by
  rcases queue with ⟨contents, bounded⟩
  cases contents with
  | nil => simp [tryPop, IsEmpty]
  | cons value rest => simp [tryPop, IsEmpty]

/-- A pop that succeeds takes the oldest value. -/
theorem tryPop_eq_some
    {queue next : BoundedFifo α capacity} {value : α}
    (popped : queue.tryPop = some (value, next)) :
    queue.contents = value :: next.contents := by
  rcases queue with ⟨contents, bounded⟩
  cases contents with
  | nil => simp [tryPop] at popped
  | cons head rest =>
      simp only [tryPop, Option.some.injEq, Prod.mk.injEq] at popped
      rcases popped with ⟨rfl, rfl⟩
      rfl

/-- A push and a pop that both succeed may change places. -/
theorem tryPush_tryPop
    {queue popped : BoundedFifo α capacity} {oldest : α}
    (pop : queue.tryPop = some (oldest, popped))
    (room : ¬ queue.IsFull) (value : α) :
    ∃ pushed both,
      queue.tryPush value = some pushed ∧
        pushed.tryPop = some (oldest, both) ∧
        popped.tryPush value = some both := by
  rcases queue with ⟨contents, bounded⟩
  cases contents with
  | nil => cases pop
  | cons head rest =>
      cases pop
      have fits : (oldest :: rest).length < capacity :=
        Nat.lt_of_le_of_ne bounded room
      have fitsLater : rest.length < capacity :=
        Nat.lt_of_succ_lt fits
      refine
        ⟨⟨(oldest :: rest) ++ [value], ?_⟩, ⟨rest ++ [value], ?_⟩, ?_, rfl, ?_⟩
      · simpa [Nat.succ_le_iff] using fits
      · simpa [Nat.succ_le_iff] using fitsLater
      · simp only [tryPush, fits, dif_pos]
      · simp only [tryPush, fitsLater, dif_pos]

/-- The queue without its oldest `count` values. -/
def skip (queue : BoundedFifo α capacity) (count : ℕ) :
    BoundedFifo α capacity where
  contents := queue.contents.drop count
  bounded :=
    Nat.le_trans (List.drop_sublist _ _).length_le queue.bounded

/-- A pop takes the first value that was not skipped, if there is one. -/
theorem tryPop_skip (queue : BoundedFifo α capacity) (count : ℕ) :
    (queue.skip count).tryPop =
      queue.contents[count]?.map fun value =>
        (value, queue.skip (count + 1)) := by
  have front :
      (queue.contents.drop count).head? = queue.contents[count]? :=
    List.head?_drop
  cases popped : (queue.skip count).tryPop with
  | none =>
      have empty : queue.contents.drop count = [] :=
        (tryPop_eq_none_iff _).mp popped
      rw [empty] at front
      rw [← front]
      rfl
  | some taken =>
      rcases taken with ⟨value, next⟩
      have contents : queue.contents.drop count = value :: next.contents :=
        tryPop_eq_some popped
      have sameQueue : queue.skip (count + 1) = next := by
        ext1
        show queue.contents.drop (count + 1) = next.contents
        rw [← List.tail_drop, contents, List.tail_cons]
      rw [contents] at front
      rw [← front, sameQueue]
      rfl

/-- A pop takes the first value, if there is one. -/
theorem tryPop_eq (queue : BoundedFifo α capacity) :
    queue.tryPop =
      queue.contents[0]?.map fun value => (value, queue.skip 1) :=
  queue.tryPop_skip 0

/-! ## Producers that go on when a push fails -/

/-- Push a value, or leave a full queue as it is. -/
def offer (queue : BoundedFifo α capacity) (value : α) :
    BoundedFifo α capacity :=
  (queue.tryPush value).getD queue

/-- Offer the values of a list one after another. -/
def offerAll (queue : BoundedFifo α capacity) (values : List α) :
    BoundedFifo α capacity :=
  values.foldl offer queue

theorem offer_of_some
    {queue next : BoundedFifo α capacity} {value : α}
    (pushed : queue.tryPush value = some next) :
    queue.offer value = next := by
  simp [offer, pushed]

theorem offer_of_none
    {queue : BoundedFifo α capacity} {value : α}
    (refused : queue.tryPush value = none) :
    queue.offer value = queue := by
  simp [offer, refused]

theorem offer_contents
    (queue : BoundedFifo α capacity) (value : α) :
    (queue.offer value).contents =
      (queue.contents ++ [value]).take capacity := by
  have bounded := queue.bounded
  unfold offer tryPush
  split
  · next fits =>
      have whole :
          (queue.contents ++ [value]).length ≤ capacity := by
        simpa [Nat.succ_le_iff] using fits
      exact (List.take_of_length_le whole).symm
  · next full =>
      have filled : capacity = queue.contents.length := by omega
      exact (List.take_left' filled.symm).symm

@[simp]
theorem offerAll_nil (queue : BoundedFifo α capacity) :
    queue.offerAll [] = queue :=
  rfl

@[simp]
theorem offerAll_cons
    (queue : BoundedFifo α capacity)
    (value : α) (values : List α) :
    queue.offerAll (value :: values) =
      (queue.offer value).offerAll values :=
  rfl

/-- Cutting before an append does not matter if the result is cut as well. -/
theorem take_append_take
    (bound : ℕ) (front back : List α) :
    (front.take bound ++ back).take bound =
      (front ++ back).take bound := by
  rw [List.take_append, List.take_append, List.take_take,
    Nat.min_self, List.length_take]
  congr 2
  omega

/-- Offering a list appends it and cuts the result to the capacity. -/
theorem offerAll_contents
    (queue : BoundedFifo α capacity) (values : List α) :
    (queue.offerAll values).contents =
      (queue.contents ++ values).take capacity := by
  induction values generalizing queue with
  | nil =>
      rw [offerAll_nil, List.append_nil,
        List.take_of_length_le queue.bounded]
  | cons value rest induction =>
      rw [offerAll_cons, induction, offer_contents,
        take_append_take, List.append_assoc,
        List.singleton_append]

end BoundedFifo

end Audiopipe.Foundation.BoundedQueues
