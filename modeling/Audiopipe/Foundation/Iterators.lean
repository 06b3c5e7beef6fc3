import Mathlib.Data.List.Basic

/-!
# Iterators

An iterator is its `next`, a partial function on states that returns a value
or `none`.  `Yields` is what a loop over the iterator gets to see, up to the
first `none`.  Nothing says that an iterator has ended for good when it
returns `none` for the first time; that it has is a property of its own.
-/

namespace Audiopipe.Foundation.Iterators

universe u v w

variable {σ : Type u} {β : Type v} {ε : Type w}
variable {next : σ → Except ε (Option β × σ)}

/-! ## What a loop sees -/

/--
From `state` the calls of `next` return `items` and then `none` for the first
time, which leaves the iterator in `last`.
-/
inductive Yields (next : σ → Except ε (Option β × σ)) :
    σ → List β → σ → Prop where
  | ended {state last : σ} (returned : next state = .ok (none, last)) :
      Yields next state [] last
  | item {state rest last : σ} {value : β} {items : List β}
      (returned : next state = .ok (some value, rest))
      (others : Yields next rest items last) :
      Yields next state (value :: items) last

/-- A loop over an iterator sees one list of items only. -/
theorem Yields.unique
    {state last last' : σ} {items items' : List β}
    (yields : Yields next state items last)
    (yields' : Yields next state items' last') :
    items = items' ∧ last = last' := by
  induction yields generalizing items' with
  | ended returned =>
      cases yields' with
      | ended returned' =>
          cases returned.symm.trans returned'
          exact ⟨rfl, rfl⟩
      | item returned' others' =>
          cases returned.symm.trans returned'
  | item returned others induction =>
      cases yields' with
      | ended returned' =>
          cases returned.symm.trans returned'
      | item returned' others' =>
          cases returned.symm.trans returned'
          rcases induction others' with ⟨sameItems, sameLast⟩
          exact ⟨congrArg _ sameItems, sameLast⟩

/--
The rule for iterators that count their calls: `place i` is the state before
item `i`.
-/
theorem Yields.of_places
    {items : List β} {place : ℕ → σ} {last : σ}
    (returned :
      ∀ i (inside : i < items.length),
        next (place i) = .ok (some items[i], place (i + 1)))
    (ended : next (place items.length) = .ok (none, last)) :
    Yields next (place 0) items last := by
  induction items generalizing place with
  | nil => exact .ended ended
  | cons value rest induction =>
      have first := returned 0 (Nat.succ_pos _)
      have others :
          Yields next (place (0 + 1)) rest last :=
        @induction (fun i => place (i + 1))
          (fun i inside => returned (i + 1) (Nat.succ_lt_succ inside)) ended
      exact .item first others

/-! ## The end -/

/-- What the first `count` calls of `next` return. -/
def calls (next : σ → Except ε (Option β × σ)) :
    ℕ → σ → Except ε (List (Option β) × σ)
  | 0, state => .ok ([], state)
  | count + 1, state => do
      let first ← next state
      let others ← calls next count first.2
      return (first.1 :: others.1, others.2)

/-- All calls of `next` from `state` return `none`. -/
def EndedForEver (next : σ → Except ε (Option β × σ)) (state : σ) : Prop :=
  ∀ count,
    ∃ last, calls next count state = .ok (List.replicate count none, last)

/-- An iterator that stays as it is when it returns `none` has ended. -/
theorem EndedForEver.of_fixed
    {state : σ} (fixed : next state = .ok (none, state)) :
    EndedForEver next state := by
  intro count
  refine ⟨state, ?_⟩
  induction count with
  | zero => rfl
  | succ count induction =>
      simp only [calls, fixed, induction, bind, Except.bind,
        List.replicate_succ]
      rfl

end Audiopipe.Foundation.Iterators
