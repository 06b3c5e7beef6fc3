import Audiopipe.Control.StreamClosing
import Audiopipe.Foundation.Locks

/-!
# The order of the locks

The tasks of the server take the lock of the global mixer before that of the
table, and a receiver takes the locks of the rings while it holds that of the
mixer.  A connection sends a `Stop` while it holds the lock of the table; the
place for it is always free, since the connection is the only one that has
the handle.  So waiting goes down along this order and the server does not
deadlock.
-/

namespace Audiopipe.Control.LockOrder

open Audiopipe.Foundation.GuardedRuns
open Audiopipe.Foundation.EventTraces
open Audiopipe.Foundation.LinearTokens
open Audiopipe.Foundation.Locks
open Audiopipe.Mixing.TrackSelector
open Audiopipe.Streamer.PacketFormat
open Audiopipe.Control.Messages
open Audiopipe.Control.ServerTasks
open Audiopipe.Control.HandleOwnership
open Audiopipe.Control.RequestLedger
open Audiopipe.Control.StreamClosing

/-! ## Who is inside -/

/-- From the callback of an `OpenStream` until its response. -/
def insideMixerAt : Phase → Bool
  | .openCallback _ _ => true
  | .openLockHandles _ _ _ => true
  | .openRespond _ _ _ => true
  | _ => false

/-- From the removal of a closed stream until its response. -/
def insideHandlesAt : Phase → Bool
  | .closeStop _ _ => true
  | .closeRespondOk _ => true
  | _ => false

/-- The tasks that are in the part protected by the mixer lock. -/
def insideMixer (s : Server) : MixerOwner → Bool
  | .connection k => (s.connections k).any fun c => insideMixerAt c.phase
  | .receiver h =>
      (s.receivers h).any fun receiver => receiver.phase = .playing

/-- The connections in the part protected by the lock of the table. -/
def insideHandles (s : Server) (k : ℕ) : Bool :=
  (s.connections k).any fun c => insideHandlesAt c.phase

theorem insideMixer_connection
    {s next : Server} {k : ℕ} {c : Connection}
    (connections :
      next.connections = Function.update s.connections k (some c))
    (samePlaying :
      ∀ h,
        insideMixer next (.receiver h) = insideMixer s (.receiver h)) :
    insideMixer next =
      Function.update (insideMixer s) (.connection k)
        (insideMixerAt c.phase) := by
  ext owner
  cases owner with
  | connection other =>
      by_cases here : other = k
      · subst here
        simp [insideMixer, connections]
      · have different :
            MixerOwner.connection other ≠ .connection k := fun equal =>
          here (MixerOwner.connection.inj equal)
        rw [Function.update_of_ne different]
        simp [insideMixer, connections, here]
  | receiver h =>
      have different : MixerOwner.receiver h ≠ .connection k :=
        fun equal => by cases equal
      rw [Function.update_of_ne different]
      exact samePlaying h

theorem insideMixer_receiver
    {s next : Server} {h : ℕ} {receiver : ReceiverTask}
    (connections : next.connections = s.connections)
    (receivers :
      next.receivers = Function.update s.receivers h (some receiver)) :
    insideMixer next =
      Function.update (insideMixer s) (.receiver h)
        (receiver.phase = .playing) := by
  ext owner
  cases owner with
  | connection k =>
      have different : MixerOwner.connection k ≠ .receiver h :=
        fun equal => by cases equal
      rw [Function.update_of_ne different]
      simp [insideMixer, connections]
  | receiver other =>
      by_cases here : other = h
      · subst here
        simp [insideMixer, receivers]
      · have different : MixerOwner.receiver other ≠ .receiver h :=
          fun equal => here (MixerOwner.receiver.inj equal)
        rw [Function.update_of_ne different]
        simp [insideMixer, receivers, here]

theorem insideHandles_connection
    {s next : Server} {k : ℕ} {c : Connection}
    (connections :
      next.connections = Function.update s.connections k (some c)) :
    insideHandles next =
      Function.update (insideHandles s) k (insideHandlesAt c.phase) := by
  ext other
  by_cases here : other = k
  · subst here
    simp [insideHandles, connections]
  · simp [insideHandles, connections, here]

/-- The two locks are held by who is inside. -/
structure LocksOwned (s : Server) : Prop where
  mixer : LockOwned s.mixerLock (insideMixer s)
  handles : LockOwned s.handlesLock (insideHandles s)

/-- A connection that stays where it is as to the locks. -/
theorem LocksOwned.stays
    {s next : Server} (owned : LocksOwned s) {k : ℕ} {c moved : Connection}
    (here : s.connections k = some c)
    (connections :
      next.connections = Function.update s.connections k (some moved))
    (samePlaying :
      ∀ h,
        insideMixer next (.receiver h) = insideMixer s (.receiver h))
    (sameMixer : next.mixerLock = s.mixerLock)
    (sameHandles : next.handlesLock = s.handlesLock)
    (mixerStays : insideMixerAt moved.phase = insideMixerAt c.phase)
    (handlesStays :
      insideHandlesAt moved.phase = insideHandlesAt c.phase) :
    LocksOwned next := by
  have mixerNow : insideMixer s (.connection k) = insideMixerAt c.phase := by
    simp [insideMixer, here]
  have handlesNow : insideHandles s k = insideHandlesAt c.phase := by
    simp [insideHandles, here]
  constructor
  · rw [sameMixer, insideMixer_connection connections samePlaying,
      mixerStays, ← mixerNow, Function.update_eq_self]
    exact owned.mixer
  · rw [sameHandles, insideHandles_connection connections, handlesStays,
      ← handlesNow, Function.update_eq_self]
    exact owned.handles

/-- A connection that takes the mixer lock, or gives it back. -/
theorem LocksOwned.ofMixer
    {s next : Server} (owned : LocksOwned s) {k : ℕ} {c moved : Connection}
    (here : s.connections k = some c)
    (connections :
      next.connections = Function.update s.connections k (some moved))
    (sameReceivers : next.receivers = s.receivers)
    (sameHandles : next.handlesLock = s.handlesLock)
    (handlesStays :
      insideHandlesAt moved.phase = insideHandlesAt c.phase)
    (mixer :
      LockOwned next.mixerLock
        (Function.update (insideMixer s) (.connection k)
          (insideMixerAt moved.phase))) :
    LocksOwned next := by
  have samePlaying :
      ∀ h,
        insideMixer next (.receiver h) = insideMixer s (.receiver h) := by
    intro h
    simp only [insideMixer, sameReceivers]
  have handlesNow : insideHandles s k = insideHandlesAt c.phase := by
    simp [insideHandles, here]
  constructor
  · rw [insideMixer_connection connections samePlaying]
    exact mixer
  · rw [sameHandles, insideHandles_connection connections, handlesStays,
      ← handlesNow, Function.update_eq_self]
    exact owned.handles

/-- A connection that takes the lock of the table, or gives it back. -/
theorem LocksOwned.ofHandles
    {s next : Server} (owned : LocksOwned s) {k : ℕ} {c moved : Connection}
    (here : s.connections k = some c)
    (connections :
      next.connections = Function.update s.connections k (some moved))
    (sameReceivers : next.receivers = s.receivers)
    (sameMixer : next.mixerLock = s.mixerLock)
    (mixerStays : insideMixerAt moved.phase = insideMixerAt c.phase)
    (handles :
      LockOwned next.handlesLock
        (Function.update (insideHandles s) k
          (insideHandlesAt moved.phase))) :
    LocksOwned next := by
  have samePlaying :
      ∀ h,
        insideMixer next (.receiver h) = insideMixer s (.receiver h) := by
    intro h
    simp only [insideMixer, sameReceivers]
  have mixerNow : insideMixer s (.connection k) = insideMixerAt c.phase := by
    simp [insideMixer, here]
  constructor
  · rw [sameMixer, insideMixer_connection connections samePlaying,
      mixerStays, ← mixerNow, Function.update_eq_self]
    exact owned.mixer
  · rw [insideHandles_connection connections]
    exact handles

/-- A receiver that moves, with what that does to the mixer lock. -/
theorem LocksOwned.ofReceiver
    {s next : Server} (owned : LocksOwned s) {h : ℕ}
    {receiver : ReceiverTask}
    (connections : next.connections = s.connections)
    (receivers :
      next.receivers = Function.update s.receivers h (some receiver))
    (sameHandles : next.handlesLock = s.handlesLock)
    (mixer :
      LockOwned next.mixerLock
        (Function.update (insideMixer s) (.receiver h)
          (receiver.phase = .playing))) :
    LocksOwned next := by
  constructor
  · rw [insideMixer_receiver connections receivers]
    exact mixer
  · have same : insideHandles next = insideHandles s := by
      ext k
      simp only [insideHandles, connections]
    rw [sameHandles, same]
    exact owned.handles

/-- A receiver whose phase does not change as to the mixer lock. -/
theorem insideMixer_receiver_same
    {s : Server} {h : ℕ} {receiver later : ReceiverTask}
    (there : s.receivers h = some receiver)
    (samePhase :
      (later.phase = .playing) = (receiver.phase = .playing)) :
    Function.update (insideMixer s) (.receiver h)
        (later.phase = .playing) =
      insideMixer s := by
  have before :
      insideMixer s (.receiver h) = (receiver.phase = .playing : Bool) := by
    simp [insideMixer, there]
  simp only [samePhase, ← before, Function.update_eq_self]

theorem LocksOwned.step
    {s next : Server} {action : Action} (move : Move s action next)
    (owned : LocksOwned s) :
    LocksOwned next := by
  have samePlaying :
      ∀ h, insideMixer s (.receiver h) = insideMixer s (.receiver h) :=
    fun _ => rfl
  cases move with
  | @accept k unused =>
      have mixerNow : insideMixer s (.connection k) = false := by
        simp [insideMixer, unused]
      have handlesNow : insideHandles s k = false := by
        simp [insideHandles, unused]
      have mixerSame :
          insideMixer (s.setConnection k .accepted) = insideMixer s := by
        rw [@insideMixer_connection s (s.setConnection k .accepted) k
          .accepted rfl samePlaying]
        exact Function.update_eq_self_iff.mpr mixerNow.symm
      have handlesSame :
          insideHandles (s.setConnection k .accepted) =
            insideHandles s := by
        rw [@insideHandles_connection s (s.setConnection k .accepted) k
          .accepted rfl]
        exact Function.update_eq_self_iff.mpr handlesNow.symm
      constructor
      · rw [mixerSame]
        exact owned.mixer
      · rw [handlesSame]
        exact owned.handles
  | requestOpen here reading fresh =>
      exact
        owned.stays here rfl samePlaying rfl rfl (by rw [reading]; rfl)
          (by rw [reading]; rfl)
  | requestClose here reading =>
      exact
        owned.stays here rfl samePlaying rfl rfl (by rw [reading]; rfl)
          (by rw [reading]; rfl)
  | readErrorCurrent here reading current =>
      exact
        owned.stays here rfl samePlaying rfl rfl (by rw [reading]; rfl)
          (by rw [reading]; rfl)
  | readErrorNone here reading current =>
      exact
        owned.stays here rfl samePlaying rfl rfl (by rw [reading]; rfl)
          (by rw [reading]; rfl)
  | @lockMixer k c id sel here waiting free =>
      refine owned.ofMixer here rfl rfl rfl (by rw [waiting]; rfl) ?_
      exact owned.mixer.acquired free (.connection k)
  | @callbackOk k h port c id sel here calling unused =>
      refine
        owned.stays here rfl ?_ rfl rfl (by rw [calling]; rfl)
          (by rw [calling]; rfl)
      intro other
      by_cases same : other = h
      · subst same
        simp [insideMixer, Server.setConnection, Server.setReceiver, unused,
          ReceiverTask.spawned]
      · simp [insideMixer, Server.setConnection, Server.setReceiver, same]
  | @callbackError k e c id sel here calling =>
      have inside : insideMixer s (.connection k) = true := by
        simp [insideMixer, here, calling, insideMixerAt]
      refine owned.ofMixer here rfl rfl rfl (by rw [calling]; rfl) ?_
      exact owned.mixer.released inside
  | insert here waiting free =>
      exact
        owned.stays here rfl samePlaying rfl rfl (by rw [waiting]; rfl)
          (by rw [waiting]; rfl)
  | @takeOut k h c id here waiting free found =>
      refine owned.ofHandles here rfl rfl rfl (by rw [waiting]; rfl) ?_
      exact owned.handles.acquired free k
  | notFound here waiting free missing =>
      exact
        owned.stays here rfl samePlaying rfl rfl (by rw [waiting]; rfl)
          (by rw [waiting]; rfl)
  | removeHandle here waiting free =>
      exact
        owned.stays here rfl samePlaying rfl rfl (by rw [waiting]; rfl)
          (by rw [waiting]; rfl)
  | log here waiting free =>
      exact
        owned.stays here rfl samePlaying rfl rfl (by rw [waiting]; rfl)
          (by rw [waiting]; rfl)
  | @stopSent k h c id receiver here stopping there running room =>
      refine
        owned.stays here rfl ?_ rfl rfl (by rw [stopping]; rfl)
          (by rw [stopping]; rfl)
      intro other
      by_cases same : other = h
      · subst same
        simp [insideMixer, Server.setConnection, Server.setReceiver, there]
      · simp [insideMixer, Server.setConnection, Server.setReceiver, same]
  | @stopPanic k h c id receiver here stopping there gone =>
      have inside : insideHandles s k = true := by
        simp [insideHandles, here, stopping, insideHandlesAt]
      refine owned.ofHandles here rfl rfl rfl (by rw [stopping]; rfl) ?_
      exact owned.handles.released inside
  | @respondStream k c id sel port here responding =>
      have inside : insideMixer s (.connection k) = true := by
        simp [insideMixer, here, responding, insideMixerAt]
      refine owned.ofMixer here rfl rfl rfl (by rw [responding]; rfl) ?_
      exact owned.mixer.released inside
  | @respondStreamFailed k c id sel port here responding =>
      have inside : insideMixer s (.connection k) = true := by
        simp [insideMixer, here, responding, insideMixerAt]
      refine owned.ofMixer here rfl rfl rfl (by rw [responding]; rfl) ?_
      exact owned.mixer.released inside
  | @respondOk k c id here responding =>
      have inside : insideHandles s k = true := by
        simp [insideHandles, here, responding, insideHandlesAt]
      refine owned.ofHandles here rfl rfl rfl (by rw [responding]; rfl) ?_
      exact owned.handles.released inside
  | @respondOkFailed k c id here responding =>
      have inside : insideHandles s k = true := by
        simp [insideHandles, here, responding, insideHandlesAt]
      refine owned.ofHandles here rfl rfl rfl (by rw [responding]; rfl) ?_
      exact owned.handles.released inside
  | respondNotFound here responding =>
      exact
        owned.stays here rfl samePlaying rfl rfl (by rw [responding]; rfl)
          (by rw [responding]; rfl)
  | respondNotFoundFailed here responding =>
      exact
        owned.stays here rfl samePlaying rfl rfl (by rw [responding]; rfl)
          (by rw [responding]; rfl)
  | @datagram h wellFormed receiver there receiving =>
      refine owned.ofReceiver rfl rfl rfl ?_
      rw [insideMixer_receiver_same there]
      · exact owned.mixer
      · rw [receiving]
        cases wellFormed with
        | true => simp [ReceiverTask.goTo]
        | false => simp [ReceiverTask.goTo]
  | @receiverLock h receiver there waiting free =>
      refine owned.ofReceiver rfl rfl rfl ?_
      exact owned.mixer.acquired free (.receiver h)
  | @played h accepted receiver there playing =>
      have inside : insideMixer s (.receiver h) = true := by
        simp [insideMixer, there, playing]
      have out :
          ((receiver.goTo
              (if accepted then .receiving else .ended)).phase =
                .playing : Bool) =
            false := by
        cases accepted with
        | true => rfl
        | false => rfl
      refine owned.ofReceiver rfl rfl rfl ?_
      rw [out]
      exact owned.mixer.released inside
  | @takeStop h receiver there running waiting =>
      refine owned.ofReceiver rfl rfl rfl ?_
      by_cases playing : receiver.phase = .playing
      · have inside : insideMixer s (.receiver h) = true := by
          simp [insideMixer, there, playing]
        have given :
            (if receiver.phase = .playing then none else s.mixerLock) =
              none :=
          if_pos playing
        change LockOwned
          (if receiver.phase = .playing then none else s.mixerLock) _
        rw [given]
        exact owned.mixer.released inside
      · have kept :
            (if receiver.phase = .playing then none else s.mixerLock) =
              s.mixerLock :=
          if_neg playing
        change LockOwned
          (if receiver.phase = .playing then none else s.mixerLock) _
        rw [kept, insideMixer_receiver_same there]
        · exact owned.mixer
        · simp [playing]

theorem LocksOwned.start (bufferSize sampleRate : ℕ) :
    LocksOwned (.start bufferSize sampleRate) where
  mixer := .free fun owner => by cases owner <;> rfl
  handles := .free fun _ => rfl

/-! ## The place for a `Stop` -/

/-- A `Stop` that waits for a receiver was sent to it. -/
def WaitingSent (trace : List Event) (s : Server) : Prop :=
  ∀ h receiver,
    s.receivers h = some receiver → receiver.stopWaiting = true →
      0 < spendings stopped trace h

/-- Where a waiting `Stop` comes from. -/
theorem waiting_from
    {s next : Server} {action : Action} (move : Move s action next)
    {h : ℕ} {receiver : ReceiverTask}
    (there : next.receivers h = some receiver)
    (waiting : receiver.stopWaiting = true) :
    (∃ before, s.receivers h = some before ∧ before.stopWaiting = true) ∨
      0 < spendings stopped (events s action) h := by
  have untouched (same : next.receivers = s.receivers) :
      ∃ before, s.receivers h = some before ∧
        before.stopWaiting = true := by
    rw [same] at there
    exact ⟨receiver, there, waiting⟩
  have movedOn :
      ∀ {other : ℕ} {before after : ReceiverTask},
        next.receivers = Function.update s.receivers other (some after) →
          s.receivers other = some before →
            (after.stopWaiting = true → before.stopWaiting = true) →
              ∃ before, s.receivers h = some before ∧
                before.stopWaiting = true := by
    intro other before after receivers known less
    by_cases here : h = other
    · subst here
      rw [receivers, Function.update_self] at there
      cases there
      exact ⟨before, known, less waiting⟩
    · rw [receivers, Function.update_of_ne here] at there
      exact ⟨receiver, there, waiting⟩
  cases move with
  | @callbackOk k other port c id sel here calling unused =>
      left
      by_cases same : h = other
      · subst same
        simp only [Server.setConnection, Server.setReceiver,
          Function.update_self, Option.some.injEq] at there
        subst there
        cases waiting
      · simp only [Server.setConnection, Server.setReceiver,
          Function.update_of_ne same] at there
        exact ⟨receiver, there, waiting⟩
  | @stopSent k other c id before here stopping known running room =>
      by_cases same : h = other
      · right
        subst same
        simp [events, phaseOf_eq here, stopping, stopAt, isRunning, known,
          running, spendings, stopped]
      · left
        simp only [Server.setConnection, Server.setReceiver,
          Function.update_of_ne same] at there
        exact ⟨receiver, there, waiting⟩
  | datagram known receiving =>
      exact Or.inl (movedOn rfl known fun still => still)
  | receiverLock known waits free =>
      exact Or.inl (movedOn rfl known fun still => still)
  | played known playing =>
      exact Or.inl (movedOn rfl known fun still => still)
  | takeStop known running waits =>
      refine Or.inl (movedOn rfl known ?_)
      intro still
      cases still
  | _ => exact Or.inl (untouched rfl)

theorem WaitingSent.step
    {trace : List Event} {s next : Server} {action : Action}
    (enabled : s.step action = some next) (sent : WaitingSent trace s) :
    WaitingSent (trace ++ events s action) next := by
  intro h receiver there waiting
  rw [spendings_append]
  rcases waiting_from (Server.step_move enabled) there waiting with
    ⟨before, known, waited⟩ | now
  · exact Nat.add_pos_left (sent h before known waited) _
  · exact Nat.add_pos_right _ now

/-- The place for the `Stop` of a handle in somebody's hand is free. -/
theorem stop_place_free
    {bufferSize sampleRate : ℕ} {actions : List Action} {s : Server}
    (run : Run Server.step (.start bufferSize sampleRate) actions s)
    {k h : ℕ} (holding : hand s k = some h) {receiver : ReceiverTask}
    (there : s.receivers h = some receiver) :
    receiver.stopWaiting = false := by
  have spendable :=
    Spendable.run
      (fun _ enabled => handleTransfer (Server.step_move enabled)) run
      (handleHolding_start bufferSize sampleRate)
  have stepKeeps :
      ∀ {trace : List Event} {state next : Server} {action : Action},
        True → state.step action = some next → WaitingSent trace state →
          WaitingSent (trace ++ events state action) next :=
    fun _ enabled sent => sent.step enabled
  have initially : WaitingSent [] (.start bufferSize sampleRate) :=
    fun h receiver there => nomatch there
  have sent := trace_preserves @stepKeeps run initially
  have unsent := spendable.heldUnspent (Sum.inr k) h holding
  by_contra waiting
  have positive :=
    sent h receiver there (Bool.eq_true_of_not_eq_false waiting)
  rw [List.nil_append, unsent] at positive
  exact Nat.lt_irrefl 0 positive

end Audiopipe.Control.LockOrder
