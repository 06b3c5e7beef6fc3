import Audiopipe.Control.ServerTasks

/-!
# Stream ids

`Uuid::new_v4` is assumed to draw fresh ids.  An id is then pending on one
connection until that connection puts it into the table, nobody else has
opened it, and an id that left the table does not come back.  Both ownership
results rest on this invariant.
-/

namespace Audiopipe.Control.StreamIds

open Audiopipe.Foundation.GuardedRuns
open Audiopipe.Mixing.TrackSelector
open Audiopipe.Streamer.PacketFormat
open Audiopipe.Control.Messages
open Audiopipe.Control.ServerTasks

/-! ## The invariant -/

/-- The stream id that a request has drawn and not yet put into the table. -/
def pendingId : Phase → Option Uuid
  | .openLockMixer id _ => some id
  | .openCallback id _ => some id
  | .openLockHandles id _ _ => some id
  | _ => none

/-- The id that connection `k` is about to put into the table. -/
def pending (s : Server) (k : ℕ) : Option Uuid :=
  (s.connections k).bind fun c => pendingId c.phase

/-- The ids that connection `k` has put into the table. -/
def opened (s : Server) (k : ℕ) : List Uuid :=
  match s.connections k with
  | some c => c.opened
  | none => []

/-- Stream ids are drawn fresh and used once. -/
structure IdsFresh (s : Server) : Prop where
  pendingIssued : ∀ k id, pending s k = some id → id ∈ s.issued
  openedIssued : ∀ k, ∀ id ∈ opened s k, id ∈ s.issued
  tableIssued : ∀ id, s.handles id ≠ none → id ∈ s.issued
  pendingUnlisted : ∀ k id, pending s k = some id → s.handles id = none
  pendingUnopened :
    ∀ k id, pending s k = some id → ∀ other, id ∉ opened s other
  pendingUnique :
    ∀ k other id,
      pending s k = some id → pending s other = some id → k = other

/-- What a step does to the stream ids. -/
inductive IdEffect (s next : Server) : Prop where
  | quiet
      (pendingLess :
        ∀ k, pending next k = pending s k ∨ pending next k = none)
      (sameOpened : opened next = opened s)
      (tableLess :
        ∀ id, next.handles id = s.handles id ∨ next.handles id = none)
      (sameIssued : next.issued = s.issued)
  | drawn (k : ℕ) (id : Uuid) (fresh : id ∉ s.issued)
      (pendingHere :
        pending next = Function.update (pending s) k (some id))
      (sameOpened : opened next = opened s)
      (sameTable : next.handles = s.handles)
      (issuedNow : next.issued = id :: s.issued)
  | listed (k : ℕ) (id : Uuid) (h : ℕ)
      (pendingBefore : pending s k = some id)
      (pendingHere : pending next = Function.update (pending s) k none)
      (openedHere :
        opened next = Function.update (opened s) k (id :: opened s k))
      (tableHere : next.handles = Function.update s.handles id (some h))
      (sameIssued : next.issued = s.issued)

theorem IdsFresh.start (bufferSize sampleRate : ℕ) :
    IdsFresh (.start bufferSize sampleRate) where
  pendingIssued := fun _ _ found => nomatch found
  openedIssued := fun _ _ member => nomatch member
  tableIssued := fun _ found => (found rfl).elim
  pendingUnlisted := fun _ _ _ => rfl
  pendingUnopened := fun _ _ found => nomatch found
  pendingUnique := fun _ _ _ found => nomatch found

/-- Ids that are only forgotten stay fresh. -/
theorem IdsFresh.quiet
    {s next : Server} (fresh : IdsFresh s)
    (pendingLess :
      ∀ k, pending next k = pending s k ∨ pending next k = none)
    (sameOpened : opened next = opened s)
    (tableLess :
      ∀ id, next.handles id = s.handles id ∨ next.handles id = none)
    (sameIssued : next.issued = s.issued) :
    IdsFresh next := by
  have before :
      ∀ {k id}, pending next k = some id → pending s k = some id := by
    intro k id found
    rcases pendingLess k with same | gone
    · rwa [same] at found
    · rw [gone] at found
      cases found
  constructor
  · intro k id found
    rw [sameIssued]
    exact fresh.pendingIssued k id (before found)
  · intro k id member
    rw [sameOpened] at member
    rw [sameIssued]
    exact fresh.openedIssued k id member
  · intro id present
    rw [sameIssued]
    refine fresh.tableIssued id fun missing => ?_
    rcases tableLess id with same | gone
    · exact present (same.trans missing)
    · exact present gone
  · intro k id found
    rcases tableLess id with same | gone
    · exact same.trans (fresh.pendingUnlisted k id (before found))
    · exact gone
  · intro k id found other
    rw [sameOpened]
    exact fresh.pendingUnopened k id (before found) other
  · intro k other id found found'
    exact fresh.pendingUnique k other id (before found) (before found')

/-- A fresh id becomes pending. -/
theorem IdsFresh.drawn
    {s next : Server} (fresh : IdsFresh s)
    {k : ℕ} {id : Uuid} (freshId : id ∉ s.issued)
    (pendingHere : pending next = Function.update (pending s) k (some id))
    (sameOpened : opened next = opened s)
    (sameTable : next.handles = s.handles)
    (issuedNow : next.issued = id :: s.issued) :
    IdsFresh next := by
  have drawnOrOld :
      ∀ {other id'}, pending next other = some id' →
        (other = k ∧ id' = id) ∨
          (other ≠ k ∧ pending s other = some id') := by
    intro other id' found
    by_cases here : other = k
    · subst here
      rw [pendingHere, Function.update_self] at found
      exact Or.inl ⟨rfl, (Option.some.inj found).symm⟩
    · rw [pendingHere, Function.update_of_ne here] at found
      exact Or.inr ⟨here, found⟩
  constructor
  · intro other id' found
    rw [issuedNow]
    rcases drawnOrOld found with ⟨_, same⟩ | ⟨_, old⟩
    · rw [same]
      exact List.mem_cons_self ..
    · exact List.mem_cons_of_mem _ (fresh.pendingIssued other id' old)
  · intro other id' member
    rw [sameOpened] at member
    rw [issuedNow]
    exact List.mem_cons_of_mem _ (fresh.openedIssued other id' member)
  · intro id' present
    rw [sameTable] at present
    rw [issuedNow]
    exact List.mem_cons_of_mem _ (fresh.tableIssued id' present)
  · intro other id' found
    rw [sameTable]
    rcases drawnOrOld found with ⟨_, same⟩ | ⟨_, old⟩
    · rw [same]
      by_contra present
      exact freshId (fresh.tableIssued id present)
    · exact fresh.pendingUnlisted other id' old
  · intro other id' found third member
    rw [sameOpened] at member
    rcases drawnOrOld found with ⟨_, same⟩ | ⟨_, old⟩
    · rw [same] at member
      exact freshId (fresh.openedIssued third id member)
    · exact fresh.pendingUnopened other id' old third member
  · intro first second id' found found'
    rcases drawnOrOld found with ⟨here, same⟩ | ⟨_, old⟩
    · rcases drawnOrOld found' with ⟨here', _⟩ | ⟨_, old'⟩
      · rw [here, here']
      · rw [same] at old'
        exact (freshId (fresh.pendingIssued second id old')).elim
    · rcases drawnOrOld found' with ⟨_, same⟩ | ⟨_, old'⟩
      · rw [same] at old
        exact (freshId (fresh.pendingIssued first id old)).elim
      · exact fresh.pendingUnique first second id' old old'

/-- A pending id moves into the table. -/
theorem IdsFresh.listed
    {s next : Server} (fresh : IdsFresh s)
    {k : ℕ} {id : Uuid} {h : ℕ} (pendingBefore : pending s k = some id)
    (pendingHere : pending next = Function.update (pending s) k none)
    (openedHere :
      opened next = Function.update (opened s) k (id :: opened s k))
    (tableHere : next.handles = Function.update s.handles id (some h))
    (sameIssued : next.issued = s.issued) :
    IdsFresh next := by
  have elsewhere :
      ∀ {other id'}, pending next other = some id' →
        other ≠ k ∧ pending s other = some id' := by
    intro other id' found
    have different : other ≠ k := by
      rintro rfl
      rw [pendingHere, Function.update_self] at found
      cases found
    rw [pendingHere, Function.update_of_ne different] at found
    exact ⟨different, found⟩
  have distinct :
      ∀ {other id'}, pending next other = some id' → id' ≠ id := by
    rintro other id' found rfl
    rcases elsewhere found with ⟨different, old⟩
    exact different (fresh.pendingUnique other k id' old pendingBefore)
  have openedCases :
      ∀ {other id'}, id' ∈ opened next other →
        id' = id ∨ id' ∈ opened s other := by
    intro other id' member
    by_cases here : other = k
    · subst here
      rw [openedHere, Function.update_self] at member
      exact List.mem_cons.mp member
    · rw [openedHere, Function.update_of_ne here] at member
      exact Or.inr member
  constructor
  · intro other id' found
    rw [sameIssued]
    exact fresh.pendingIssued other id' (elsewhere found).2
  · intro other id' member
    rw [sameIssued]
    rcases openedCases member with same | old
    · rw [same]
      exact fresh.pendingIssued k id pendingBefore
    · exact fresh.openedIssued other id' old
  · intro id' present
    rw [sameIssued]
    by_cases here : id' = id
    · rw [here]
      exact fresh.pendingIssued k id pendingBefore
    · rw [tableHere, Function.update_of_ne here] at present
      exact fresh.tableIssued id' present
  · intro other id' found
    rw [tableHere, Function.update_of_ne (distinct found)]
    exact fresh.pendingUnlisted other id' (elsewhere found).2
  · intro other id' found third member
    rcases openedCases member with same | old
    · exact distinct found same
    · exact fresh.pendingUnopened other id' (elsewhere found).2 third old
  · intro first second id' found found'
    exact
      fresh.pendingUnique first second id' (elsewhere found).2
        (elsewhere found').2

/-- Every effect on the ids keeps them fresh. -/
theorem IdsFresh.preserved
    {s next : Server} (effect : IdEffect s next) (fresh : IdsFresh s) :
    IdsFresh next := by
  cases effect with
  | quiet pendingLess sameOpened tableLess sameIssued =>
      exact fresh.quiet pendingLess sameOpened tableLess sameIssued
  | drawn k id freshId pendingHere sameOpened sameTable issuedNow =>
      exact fresh.drawn freshId pendingHere sameOpened sameTable issuedNow
  | listed k id h pendingBefore pendingHere openedHere tableHere
      sameIssued =>
      exact
        fresh.listed pendingBefore pendingHere openedHere tableHere
          sameIssued

/-- A step of one connection changes what that connection has pending. -/
theorem pending_update
    {s next : Server} {k : ℕ} {c : Connection}
    (moved :
      next.connections = Function.update s.connections k (some c)) :
    pending next = Function.update (pending s) k (pendingId c.phase) :=
  phase_update pendingId moved

/-- A step of one connection changes what that connection has opened. -/
theorem opened_update
    {s next : Server} {k : ℕ} {c : Connection}
    (moved :
      next.connections = Function.update s.connections k (some c)) :
    opened next = Function.update (opened s) k c.opened := by
  funext other
  by_cases here : other = k
  · subst here
    simp [opened, moved]
  · simp [opened, moved, here]

/-- Taking a stream out of the table changes no other entry. -/
theorem takenOut_less (s : Server) (id other : Uuid) :
    (s.setHandle id none).handles other = s.handles other ∨
      (s.setHandle id none).handles other = none := by
  by_cases same : other = id
  · rw [same]
    exact Or.inr (s.setHandle_handles_self id none)
  · exact Or.inl (s.setHandle_handles_of_ne same none)

/-- A connection that draws no id and lists none. -/
theorem IdEffect.ofConnection
    {s next : Server} {k : ℕ} {c moved : Connection}
    (here : s.connections k = some c)
    (connections :
      next.connections = Function.update s.connections k (some moved))
    (pendingLess :
      pendingId moved.phase = pendingId c.phase ∨
        pendingId moved.phase = none)
    (sameOpened : moved.opened = c.opened)
    (tableLess :
      ∀ id, next.handles id = s.handles id ∨ next.handles id = none)
    (sameIssued : next.issued = s.issued) :
    IdEffect s next := by
  have openedHere : opened s k = c.opened := by
    simp [opened, here]
  have pendingHere : pending s k = pendingId c.phase := by
    simp [pending, here]
  refine .quiet ?_ ?_ tableLess sameIssued
  · intro other
    rw [pending_update connections]
    by_cases same : other = k
    · subst same
      rw [Function.update_self, pendingHere]
      exact pendingLess
    · exact Or.inl (Function.update_of_ne same _ _)
  · rw [opened_update connections, sameOpened, ← openedHere]
    exact Function.update_eq_self _ _

/-- A receiver touches no stream id. -/
theorem IdEffect.ofReceiver
    {s next : Server} (connections : next.connections = s.connections)
    (sameTable : next.handles = s.handles)
    (sameIssued : next.issued = s.issued) :
    IdEffect s next := by
  refine .quiet ?_ ?_ ?_ sameIssued
  · intro k
    exact Or.inl (by rw [pending, pending, connections])
  · funext k
    rw [opened, opened, connections]
  · intro id
    exact Or.inl (by rw [sameTable])

/-- The effect of every rule on the stream ids. -/
theorem IdEffect.ofMove
    {s next : Server} {action : Action} (move : Move s action next) :
    IdEffect s next := by
  have keep :
      ∀ id, s.handles id = s.handles id ∨ s.handles id = none :=
    fun _ => Or.inl rfl
  cases move with
  | @accept k unused =>
      have nothing : pending s k = none := by simp [pending, unused]
      have unopened : opened s k = [] := by simp [opened, unused]
      refine .quiet ?_ ?_ keep rfl
      · intro other
        rw [pending_update rfl]
        by_cases same : other = k
        · subst same
          exact Or.inr (Function.update_self _ _ _)
        · exact Or.inl (Function.update_of_ne same _ _)
      · rw [opened_update rfl]
        exact Function.update_eq_self_iff.mpr unopened.symm
  | @requestOpen k c sel id here reading fresh =>
      have moved :
          (s.setConnection k (c.goTo (.openLockMixer id sel))).connections =
            Function.update s.connections k
              (some (c.goTo (.openLockMixer id sel))) :=
        rfl
      refine .drawn k id fresh (pending_update moved) ?_ rfl rfl
      have openedHere : opened s k = c.opened := by simp [opened, here]
      rw [opened_update rfl]
      exact Function.update_eq_self_iff.mpr openedHere.symm
  | requestClose here reading =>
      exact .ofConnection here rfl (Or.inr rfl) rfl keep rfl
  | readErrorCurrent here reading current =>
      exact .ofConnection here rfl (Or.inr rfl) rfl keep rfl
  | readErrorNone here reading current =>
      exact .ofConnection here rfl (Or.inr rfl) rfl keep rfl
  | lockMixer here waiting free =>
      exact
        .ofConnection here rfl (Or.inl (by rw [waiting]; rfl)) rfl keep rfl
  | callbackOk here calling unused =>
      exact
        .ofConnection here rfl (Or.inl (by rw [calling]; rfl)) rfl keep rfl
  | callbackError here calling =>
      exact .ofConnection here rfl (Or.inr rfl) rfl keep rfl
  | @insert k h c id sel here waiting free =>
      have pendingBefore : pending s k = some id := by
        simp [pending, here, waiting, pendingId]
      have openedHere : opened s k = c.opened := by simp [opened, here]
      refine .listed k id h pendingBefore ?_ ?_ rfl rfl
      · exact
          pending_update (c := c.inserted id (.openRespond id sel _)) rfl
      · rw [openedHere]
        exact
          opened_update (c := c.inserted id (.openRespond id sel _)) rfl
  | @takeOut _ _ _ id here waiting free found =>
      exact
        .ofConnection here rfl (Or.inr rfl) rfl (takenOut_less s id) rfl
  | notFound here waiting free missing =>
      exact .ofConnection here rfl (Or.inr rfl) rfl keep rfl
  | @removeHandle _ _ id here waiting free =>
      exact
        .ofConnection here rfl (Or.inr rfl) rfl (takenOut_less s id) rfl
  | log here waiting free =>
      exact .ofConnection here rfl (Or.inr rfl) rfl keep rfl
  | stopSent here stopping there running room =>
      exact .ofConnection here rfl (Or.inr rfl) rfl keep rfl
  | stopPanic here stopping there gone =>
      exact .ofConnection here rfl (Or.inr rfl) rfl keep rfl
  | respondStream here responding =>
      exact .ofConnection here rfl (Or.inr rfl) rfl keep rfl
  | respondStreamFailed here responding =>
      exact .ofConnection here rfl (Or.inr rfl) rfl keep rfl
  | respondOk here responding =>
      exact .ofConnection here rfl (Or.inr rfl) rfl keep rfl
  | respondOkFailed here responding =>
      exact .ofConnection here rfl (Or.inr rfl) rfl keep rfl
  | respondNotFound here responding =>
      exact .ofConnection here rfl (Or.inr rfl) rfl keep rfl
  | respondNotFoundFailed here responding =>
      exact .ofConnection here rfl (Or.inr rfl) rfl keep rfl
  | datagram there receiving => exact .ofReceiver rfl rfl rfl
  | receiverLock there waiting free => exact .ofReceiver rfl rfl rfl
  | played there playing => exact .ofReceiver rfl rfl rfl
  | takeStop there running waiting => exact .ofReceiver rfl rfl rfl

/-- Every step keeps the stream ids fresh. -/
theorem IdsFresh.step
    {s next : Server} {action : Action}
    (enabled : s.step action = some next) (fresh : IdsFresh s) :
    IdsFresh next :=
  fresh.preserved (.ofMove (Server.step_move enabled))

end Audiopipe.Control.StreamIds
