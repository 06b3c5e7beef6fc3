import Audiopipe.Control.DeadlockFreedom
import Audiopipe.Foundation.FiniteWork

/-!
# The server comes to rest

Between two things that happen to it from outside (a connection, a request, a
lost connection, a datagram) the server has only so much to do: every step of
its own takes work away, and as long as something is left to do, some task can
go on.  So it comes to rest whatever the scheduler does and however callbacks
and sends turn out.
-/

namespace Audiopipe.Control.ServerSettles

open Audiopipe.Foundation.GuardedRuns
open Audiopipe.Foundation.FiniteWork
open Audiopipe.Foundation.LinearTokens
open Audiopipe.Mixing.TrackSelector
open Audiopipe.Streamer.PacketFormat
open Audiopipe.Control.Messages
open Audiopipe.Control.ServerTasks
open Audiopipe.Control.HandleOwnership
open Audiopipe.Control.StreamClosing
open Audiopipe.Control.LockOrder
open Audiopipe.Control.DeadlockFreedom

variable {s next : Server} {action : Action}

/-! ## The work that is left -/

/-- A step of the server's own, which nothing from outside has to set off. -/
def Internal (_s : Server) : Action → Prop
  | .accept _ | .request _ _ _ | .readError _ | .datagram _ _ => False
  | _ => True

/-- How many steps a connection can at most take on its own. -/
def phaseWork : Phase → ℕ
  | .openLockMixer _ _ => 5
  | .openCallback _ _ => 4
  | .openLockHandles _ _ _ => 3
  | .openRespond _ _ _ => 2
  | .closeLockHandles _ => 4
  | .closeStop _ _ => 3
  | .closeRespondOk _ => 1
  | .closeRespondNotFound _ => 1
  | .removeLockHandles _ => 2
  | .logLockHandles => 1
  | .reading | .ended | .panicked => 0

def receiverPhaseWork : ReceiverPhase → ℕ
  | .lockingMixer => 2
  | .playing => 1
  | .receiving | .ended => 0

/-- A receiver works on its packet and takes the `Stop` that waits for it. -/
def receiverWork (receiver : ReceiverTask) : ℕ :=
  receiverPhaseWork receiver.phase + if receiver.stopWaiting then 1 else 0

/-- The work of all tasks. -/
def Work (s : Server) (amount : ℕ) : Prop :=
  ∃ served played,
    Totals (fun c : Connection => phaseWork c.phase) s.connections served ∧
      Totals receiverWork s.receivers played ∧ served + played = amount

theorem Work.start (bufferSize sampleRate : ℕ) :
    Work (.start bufferSize sampleRate) 0 :=
  ⟨0, 0, .empty _, .empty _, rfl⟩

/-- A connection goes on. -/
theorem Work.connection {amount : ℕ} (work : Work s amount) {k : ℕ}
    {c moved : Connection} (here : s.connections k = some c)
    (connections :
      next.connections = Function.update s.connections k (some moved))
    (receivers : next.receivers = s.receivers) :
    ∃ left,
      Work next left ∧
        left + phaseWork c.phase = amount + phaseWork moved.phase := by
  rcases work with ⟨served, played, ofConnections, ofReceivers, rfl⟩
  rcases ofConnections.update k moved with ⟨later, totals, changed⟩
  rw [here, workAt] at changed
  refine
    ⟨later + played,
      ⟨later, played, by rw [connections]; exact totals,
        by rw [receivers]; exact ofReceivers, rfl⟩, ?_⟩
  omega

/-- A receiver goes on. -/
theorem Work.receiver {amount : ℕ} (work : Work s amount) {h : ℕ}
    {receiver moved : ReceiverTask}
    (there : s.receivers h = some receiver)
    (connections : next.connections = s.connections)
    (receivers :
      next.receivers = Function.update s.receivers h (some moved)) :
    ∃ left,
      Work next left ∧
        left + receiverWork receiver = amount + receiverWork moved := by
  rcases work with ⟨served, played, ofConnections, ofReceivers, rfl⟩
  rcases ofReceivers.update h moved with ⟨later, totals, changed⟩
  rw [there, workAt] at changed
  refine
    ⟨served + later,
      ⟨served, later, by rw [connections]; exact ofConnections,
        by rw [receivers]; exact totals, rfl⟩, ?_⟩
  omega

/-- A connection goes on and has something to do with a receiver. -/
theorem Work.both {amount : ℕ} (work : Work s amount) {k h : ℕ}
    {c moved : Connection} {later : ReceiverTask}
    (here : s.connections k = some c)
    (connections :
      next.connections = Function.update s.connections k (some moved))
    (receivers :
      next.receivers = Function.update s.receivers h (some later)) :
    ∃ left,
      Work next left ∧
        left + phaseWork c.phase + workAt receiverWork (s.receivers h) =
          amount + phaseWork moved.phase + receiverWork later := by
  rcases work with ⟨served, played, ofConnections, ofReceivers, rfl⟩
  rcases ofConnections.update k moved with ⟨served', totals, changed⟩
  rcases ofReceivers.update h later with ⟨played', totals', changed'⟩
  rw [here, workAt] at changed
  refine
    ⟨served' + played',
      ⟨served', played', by rw [connections]; exact totals,
        by rw [receivers]; exact totals', rfl⟩, ?_⟩
  omega

@[simp]
theorem goTo_phase (c : Connection) (phase : Phase) :
    (c.goTo phase).phase = phase :=
  rfl

@[simp]
theorem answered_phase (c : Connection) (request : ControlRequest)
    (response : ControlResponse) :
    (c.answered request response).phase = .reading :=
  rfl

@[simp]
theorem inserted_phase (c : Connection) (id : Uuid) (phase : Phase) :
    (c.inserted id phase).phase = phase :=
  rfl

/-- What a step does to the work; the steps of the server use it up. -/
theorem Work.step (move : Move s action next) {amount : ℕ}
    (work : Work s amount) :
    ∃ left, Work next left ∧ (Internal s action → left < amount) := by
  -- A connection that moves alone, with less to do unless it was set off.
  have goesOn :
      ∀ {k : ℕ} {c moved : Connection} {later : Server},
        s.connections k = some c →
          later.connections =
              Function.update s.connections k (some moved) →
            later.receivers = s.receivers →
              (Internal s action →
                phaseWork moved.phase < phaseWork c.phase) →
                ∃ left,
                  Work later left ∧
                    (Internal s action → left < amount) := by
    intro k c moved later here connections receivers less
    rcases work.connection here connections receivers with
      ⟨left, holds, changed⟩
    refine ⟨left, holds, fun own => ?_⟩
    have fewer := less own
    omega
  have playsOn :
      ∀ {h : ℕ} {receiver moved : ReceiverTask} {later : Server},
        s.receivers h = some receiver →
          later.connections = s.connections →
            later.receivers =
                Function.update s.receivers h (some moved) →
              (Internal s action →
                receiverWork moved < receiverWork receiver) →
                ∃ left,
                  Work later left ∧
                    (Internal s action → left < amount) := by
    intro h receiver moved later there connections receivers less
    rcases work.receiver there connections receivers with
      ⟨left, holds, changed⟩
    refine ⟨left, holds, fun own => ?_⟩
    have fewer := less own
    omega
  cases move with
  | @accept k unused =>
      rcases work with ⟨served, played, ofConnections, ofReceivers, rfl⟩
      rcases ofConnections.update k .accepted with ⟨later, totals, _⟩
      exact
        ⟨_, ⟨later, played, totals, ofReceivers, rfl⟩, fun own => own.elim⟩
  | requestOpen here reading fresh =>
      exact goesOn here rfl rfl fun own => own.elim
  | requestClose here reading =>
      exact goesOn here rfl rfl fun own => own.elim
  | readErrorCurrent here reading current =>
      exact goesOn here rfl rfl fun own => own.elim
  | readErrorNone here reading current =>
      exact goesOn here rfl rfl fun own => own.elim
  | lockMixer here waiting free =>
      exact goesOn here rfl rfl fun _ => by simp [waiting, phaseWork]
  | @callbackOk k h port c id sel here calling unused =>
      rcases @Work.both _
          ((s.setReceiver h (.spawned sel port)).setConnection k
            (c.goTo (.openLockHandles id sel h)))
          _ work k h _ _ _ here rfl rfl with ⟨left, holds, changed⟩
      refine ⟨left, holds, fun _ => ?_⟩
      simp [calling, unused, workAt, phaseWork, receiverWork,
        receiverPhaseWork, ReceiverTask.spawned] at changed
      omega
  | callbackError here calling =>
      exact goesOn here rfl rfl fun _ => by simp [calling, phaseWork]
  | insert here waiting free =>
      exact goesOn here rfl rfl fun _ => by simp [waiting, phaseWork]
  | takeOut here waiting free found =>
      exact goesOn here rfl rfl fun _ => by simp [waiting, phaseWork]
  | notFound here waiting free missing =>
      exact goesOn here rfl rfl fun _ => by simp [waiting, phaseWork]
  | removeHandle here waiting free =>
      exact goesOn here rfl rfl fun _ => by simp [waiting, phaseWork]
  | log here waiting free =>
      exact goesOn here rfl rfl fun _ => by simp [waiting, phaseWork]
  | @stopSent k h c id receiver here stopping there running room =>
      rcases @Work.both _
          ((s.setReceiver h
              { receiver with stopWaiting := true }).setConnection k
            (c.goTo (.closeRespondOk id)))
          _ work k h _ _ _ here rfl rfl with ⟨left, holds, changed⟩
      refine ⟨left, holds, fun _ => ?_⟩
      simp [stopping, there, room, workAt, phaseWork, receiverWork]
        at changed
      omega
  | stopPanic here stopping there gone =>
      exact goesOn here rfl rfl fun _ => by simp [stopping, phaseWork]
  | respondStream here responding =>
      exact goesOn here rfl rfl fun _ => by simp [responding, phaseWork]
  | respondStreamFailed here responding =>
      exact goesOn here rfl rfl fun _ => by simp [responding, phaseWork]
  | respondOk here responding =>
      exact goesOn here rfl rfl fun _ => by simp [responding, phaseWork]
  | respondOkFailed here responding =>
      exact goesOn here rfl rfl fun _ => by simp [responding, phaseWork]
  | respondNotFound here responding =>
      exact goesOn here rfl rfl fun _ => by simp [responding, phaseWork]
  | respondNotFoundFailed here responding =>
      exact goesOn here rfl rfl fun _ => by simp [responding, phaseWork]
  | datagram there receiving =>
      exact playsOn there rfl rfl fun own => own.elim
  | receiverLock there waiting free =>
      refine playsOn there rfl rfl fun _ => ?_
      simp only [receiverWork, waiting]
      exact Nat.add_lt_add_right (Nat.lt_succ_self 1) _
  | @played h accepted receiver there playing =>
      refine playsOn there rfl rfl fun _ => ?_
      cases accepted with
      | true =>
          simp [receiverWork, ReceiverTask.goTo, playing,
            receiverPhaseWork]
      | false =>
          simp [receiverWork, ReceiverTask.goTo, playing,
            receiverPhaseWork]
  | takeStop there running waiting =>
      refine playsOn there rfl rfl fun _ => ?_
      simp [receiverWork, waiting, receiverPhaseWork]

/-! ## Rest -/

/-- A connection that waits for its peer, or is over. -/
def Resting : Phase → Prop
  | .reading | .ended | .panicked => True
  | _ => False

/-- A receiver that waits for a datagram, with no `Stop` to take, or is over. -/
def ReceiverResting (receiver : ReceiverTask) : Prop :=
  receiver.phase = .receiving ∧ receiver.stopWaiting = false ∨
    receiver.phase = .ended

/-- All tasks wait for something from outside, and no lock is held. -/
structure AtRest (s : Server) : Prop where
  connections : ∀ k c, s.connections k = some c → Resting c.phase
  receivers :
    ∀ h receiver, s.receivers h = some receiver → ReceiverResting receiver
  mixerFree : s.mixerLock = none
  handlesFree : s.handlesLock = none

/-- The server can take a step of its own. -/
def GoesOn (s : Server) : Prop :=
  ∃ action, Internal s action ∧ (s.step action).isSome

/-- No callback and no send fails, and no packet is turned away. -/
def Smooth : Action → Prop
  | .callbackError _ _ | .respond _ false | .played _ false => False
  | _ => True

/-- A step of the server's own in which nothing fails. -/
def SmoothOwn (s : Server) (action : Action) : Prop :=
  Internal s action ∧ Smooth action

/-- The server can take such a step. -/
def GoesSmoothly (s : Server) : Prop :=
  ∃ action, SmoothOwn s action ∧ (s.step action).isSome

/-- At rest there is nothing to do. -/
theorem AtRest.notGoesOn (rest : AtRest s) : ¬ GoesOn s := by
  rintro ⟨action, own, goes⟩
  rcases Option.isSome_iff_exists.mp goes with ⟨next, enabled⟩
  have connection :
      ∀ {k : ℕ} {c : Connection}, s.connections k = some c →
        ¬ Resting c.phase → False :=
    fun here busy => busy (rest.connections _ _ here)
  cases Server.step_move enabled with
  | accept | requestOpen | requestClose | readErrorCurrent
  | readErrorNone | datagram => exact own
  | lockMixer here waiting free =>
      exact connection here (by rw [waiting]; exact not_false)
  | callbackOk here calling unused =>
      exact connection here (by rw [calling]; exact not_false)
  | callbackError here calling =>
      exact connection here (by rw [calling]; exact not_false)
  | insert here waiting free =>
      exact connection here (by rw [waiting]; exact not_false)
  | takeOut here waiting free found =>
      exact connection here (by rw [waiting]; exact not_false)
  | notFound here waiting free missing =>
      exact connection here (by rw [waiting]; exact not_false)
  | removeHandle here waiting free =>
      exact connection here (by rw [waiting]; exact not_false)
  | log here waiting free =>
      exact connection here (by rw [waiting]; exact not_false)
  | stopSent here stopping there running room =>
      exact connection here (by rw [stopping]; exact not_false)
  | stopPanic here stopping there gone =>
      exact connection here (by rw [stopping]; exact not_false)
  | respondStream here responding =>
      exact connection here (by rw [responding]; exact not_false)
  | respondStreamFailed here responding =>
      exact connection here (by rw [responding]; exact not_false)
  | respondOk here responding =>
      exact connection here (by rw [responding]; exact not_false)
  | respondOkFailed here responding =>
      exact connection here (by rw [responding]; exact not_false)
  | respondNotFound here responding =>
      exact connection here (by rw [responding]; exact not_false)
  | respondNotFoundFailed here responding =>
      exact connection here (by rw [responding]; exact not_false)
  | receiverLock there waiting free =>
      rcases rest.receivers _ _ there with ⟨receiving, _⟩ | ended
      · cases receiving.symm.trans waiting
      · cases ended.symm.trans waiting
  | played there playing =>
      rcases rest.receivers _ _ there with ⟨receiving, _⟩ | ended
      · cases receiving.symm.trans playing
      · cases ended.symm.trans playing
  | takeStop there running waiting =>
      rcases rest.receivers _ _ there with ⟨_, empty⟩ | ended
      · cases empty.symm.trans waiting
      · exact running ended

/-! ## Something can go on -/

/-- A place where a connection waits neither for a lock nor for its peer. -/
def Unlocked : Phase → Prop
  | .openCallback _ _ | .openRespond _ _ _ | .closeStop _ _
  | .closeRespondOk _ | .closeRespondNotFound _ => True
  | _ => False

/--
The receiver of a handle in somebody's hand has room for a `Stop`, and another
receiver can be spawned.
-/
structure Ready (s : Server) : Prop where
  hands :
    ∀ k h,
      hand s k = some h →
        ∃ receiver,
          s.receivers h = some receiver ∧ receiver.stopWaiting = false
  unused : ∃ h, s.receivers h = none

/-- A connection that does not wait for a lock goes on. -/
theorem smooth_of_unlocked (ready : Ready s) {k : ℕ} {c : Connection}
    (here : s.connections k = some c) (unlocked : Unlocked c.phase) :
    GoesSmoothly s := by
  cases phase : c.phase with
  | openCallback id sel =>
      rcases ready.unused with ⟨h, unused⟩
      refine ⟨.callbackOk k h 0, ⟨trivial, trivial⟩, ?_⟩
      simp [Server.step, here, Server.stepCallbackOk, phase, unused]
  | openRespond id sel port =>
      refine ⟨.respond k true, ⟨trivial, trivial⟩, ?_⟩
      simp [Server.step, here, Server.stepRespond, phase]
  | closeStop id h =>
      have holding : hand s k = some h :=
        (hand_eq here).trans (congrArg inHand phase)
      rcases ready.hands k h holding with ⟨receiver, there, room⟩
      refine ⟨.stop k, ⟨trivial, trivial⟩, ?_⟩
      by_cases running : receiver.Running
      · simp [Server.step, here, Server.stepStop, phase, there, running,
          room]
      · simp [Server.step, here, Server.stepStop, phase, there, running]
  | closeRespondOk id =>
      refine ⟨.respond k true, ⟨trivial, trivial⟩, ?_⟩
      simp [Server.step, here, Server.stepRespond, phase]
  | closeRespondNotFound id =>
      refine ⟨.respond k true, ⟨trivial, trivial⟩, ?_⟩
      simp [Server.step, here, Server.stepRespond, phase]
  | _ =>
      rw [phase] at unlocked
      exact unlocked.elim

/-- Whoever holds the lock of the table goes on. -/
theorem smooth_of_handlesLocked (locks : LocksOwned s)
    (ready : Ready s) {k : ℕ} (held : s.handlesLock = some k) :
    GoesSmoothly s := by
  have inside := (locks.handles k).mpr held
  cases here : s.connections k with
  | none => simp [insideHandles, here] at inside
  | some c =>
      simp only [insideHandles, here, Option.any_some] at inside
      refine smooth_of_unlocked ready here ?_
      cases phase : c.phase with
      | closeStop id h => trivial
      | closeRespondOk id => trivial
      | _ => simp [phase, insideHandlesAt] at inside

/-- A connection takes the lock of the table when it is free. -/
theorem lockHandles_enabled {k : ℕ} {c : Connection}
    (here : s.connections k = some c)
    (wants : wantsHandles c.phase = true) (free : s.handlesLock = none) :
    (s.step (.lockHandles k)).isSome := by
  cases phase : c.phase with
  | openLockHandles id sel h =>
      simp [Server.step, here, Server.stepLockHandles, free, phase]
  | closeLockHandles id =>
      cases found : s.handles id with
      | some h =>
          simp [Server.step, here, Server.stepLockHandles, free, phase,
            found]
      | none =>
          simp [Server.step, here, Server.stepLockHandles, free, phase,
            found]
  | removeLockHandles id =>
      simp [Server.step, here, Server.stepLockHandles, free, phase]
  | logLockHandles =>
      simp [Server.step, here, Server.stepLockHandles, free, phase]
  | _ =>
      rw [phase] at wants
      cases wants

/-- A connection that wants the lock of the table goes on, or its owner. -/
theorem smooth_of_wantsHandles (locks : LocksOwned s)
    (ready : Ready s) {k : ℕ} {c : Connection}
    (here : s.connections k = some c)
    (wants : wantsHandles c.phase = true) :
    GoesSmoothly s := by
  cases held : s.handlesLock with
  | none =>
      exact
        ⟨.lockHandles k, ⟨trivial, trivial⟩,
          lockHandles_enabled here wants held⟩
  | some owner => exact smooth_of_handlesLocked locks ready held

/-- Whoever holds the lock of the mixer goes on, or lets another go on. -/
theorem smooth_of_mixerLocked (locks : LocksOwned s)
    (ready : Ready s) {owner : MixerOwner}
    (held : s.mixerLock = some owner) :
    GoesSmoothly s := by
  have inside := (locks.mixer owner).mpr held
  cases owner with
  | connection k =>
      cases here : s.connections k with
      | none => simp [insideMixer, here] at inside
      | some c =>
          simp only [insideMixer, here, Option.any_some] at inside
          cases phase : c.phase with
          | openCallback id sel =>
              exact
                smooth_of_unlocked ready here (by rw [phase]; trivial)
          | openRespond id sel port =>
              exact
                smooth_of_unlocked ready here (by rw [phase]; trivial)
          | openLockHandles id sel h =>
              exact
                smooth_of_wantsHandles locks ready here
                  (by rw [phase]; rfl)
          | _ => simp [phase, insideMixerAt] at inside
  | receiver h =>
      cases there : s.receivers h with
      | none => simp [insideMixer, there] at inside
      | some receiver =>
          have playing : receiver.phase = .playing := by
            simpa [insideMixer, there] using inside
          refine ⟨.played h true, ⟨trivial, trivial⟩, ?_⟩
          simp [Server.step, there, Server.stepPlayed, playing]

/-- A connection that is not at rest goes on, or another task does. -/
theorem smooth_of_busy (locks : LocksOwned s) (ready : Ready s)
    {k : ℕ} {c : Connection} (here : s.connections k = some c)
    (busy : ¬ Resting c.phase) :
    GoesSmoothly s := by
  cases phase : c.phase with
  | openLockMixer id sel =>
      cases held : s.mixerLock with
      | none =>
          refine ⟨.lockMixer k, ⟨trivial, trivial⟩, ?_⟩
          simp [Server.step, here, Server.stepLockMixer, phase, held]
      | some owner => exact smooth_of_mixerLocked locks ready held
  | openCallback | openRespond | closeStop | closeRespondOk
  | closeRespondNotFound =>
      exact smooth_of_unlocked ready here (by rw [phase]; trivial)
  | openLockHandles | closeLockHandles | removeLockHandles
  | logLockHandles =>
      exact smooth_of_wantsHandles locks ready here (by rw [phase]; rfl)
  | reading | ended | panicked =>
      rw [phase] at busy
      exact (busy trivial).elim

/-- A receiver that is not at rest goes on, or another task does. -/
theorem smooth_of_busyReceiver (locks : LocksOwned s)
    (ready : Ready s) {h : ℕ} {receiver : ReceiverTask}
    (there : s.receivers h = some receiver)
    (busy : ¬ ReceiverResting receiver) :
    GoesSmoothly s := by
  cases phase : receiver.phase with
  | ended => exact (busy (.inr phase)).elim
  | receiving =>
      have waiting : receiver.stopWaiting = true := by
        by_contra empty
        exact busy (.inl ⟨phase, Bool.eq_false_of_not_eq_true empty⟩)
      refine ⟨.takeStop h, ⟨trivial, trivial⟩, ?_⟩
      simp [Server.step, there, Server.stepTakeStop, ReceiverTask.Running,
        phase, waiting]
  | lockingMixer =>
      cases held : s.mixerLock with
      | none =>
          refine ⟨.receiverLock h, ⟨trivial, trivial⟩, ?_⟩
          simp [Server.step, there, Server.stepReceiverLock, phase, held]
      | some owner => exact smooth_of_mixerLocked locks ready held
  | playing =>
      refine ⟨.played h true, ⟨trivial, trivial⟩, ?_⟩
      simp [Server.step, there, Server.stepPlayed, phase]

/-- Where no task can go on smoothly, all of them are at rest. -/
theorem atRest_of_last (locks : LocksOwned s) (ready : Ready s)
    (last : ¬ GoesSmoothly s) :
    AtRest s := by
  refine ⟨?_, ?_, ?_, ?_⟩
  · intro k c here
    by_contra busy
    exact last (smooth_of_busy locks ready here busy)
  · intro h receiver there
    by_contra busy
    exact last (smooth_of_busyReceiver locks ready there busy)
  · by_contra held
    rcases Option.ne_none_iff_exists'.mp held with ⟨owner, held⟩
    exact last (smooth_of_mixerLocked locks ready held)
  · by_contra held
    rcases Option.ne_none_iff_exists'.mp held with ⟨owner, held⟩
    exact last (smooth_of_handlesLocked locks ready held)

/-- The server is at rest exactly when it cannot go on. -/
theorem atRest_iff (locks : LocksOwned s) (ready : Ready s) :
    AtRest s ↔ ¬ GoesOn s := by
  refine ⟨AtRest.notGoesOn, fun stuck => atRest_of_last locks ready ?_⟩
  rintro ⟨action, own, goes⟩
  exact stuck ⟨action, own.1, goes⟩

/-! ## Coming to rest -/

theorem locksOwned_of_run
    {bufferSize sampleRate : ℕ} {actions : List Action}
    (run : Run Server.step (.start bufferSize sampleRate) actions s) :
    LocksOwned s :=
  Reachable.preserves
    (fun enabled owned => owned.step (Server.step_move enabled))
    ⟨actions, run⟩ (LocksOwned.start bufferSize sampleRate)

/-- Only finitely much is to be done. -/
theorem work_of_run
    {bufferSize sampleRate : ℕ} {actions : List Action}
    (run : Run Server.step (.start bufferSize sampleRate) actions s) :
    ∃ amount, Work s amount := by
  refine
    @Reachable.preserves _ _ _ (fun s => ∃ amount, Work s amount) ?_ _ _
      ⟨actions, run⟩ ⟨0, .start bufferSize sampleRate⟩
  rintro state next action enabled ⟨amount, work⟩
  rcases work.step (Server.step_move enabled) with ⟨left, holds, _⟩
  exact ⟨left, holds⟩

/-- A handle in somebody's hand is that of a receiver with room for a `Stop`. -/
theorem ready_of_run
    {bufferSize sampleRate : ℕ} {actions : List Action}
    (run : Run Server.step (.start bufferSize sampleRate) actions s) :
    Ready s := by
  have spendable :=
    Spendable.run
      (fun _ enabled => handleTransfer (Server.step_move enabled)) run
      (handleHolding_start bufferSize sampleRate)
  constructor
  · intro k h holding
    have known : s.receivers h ≠ none :=
      spendable.known (Sum.inr k) h holding
    rcases Option.ne_none_iff_exists'.mp known with ⟨receiver, there⟩
    exact ⟨receiver, there, stop_place_free run holding there⟩
  · rcases work_of_run run with ⟨_, _, _, _, ⟨keys, outside, _⟩, _⟩
    rcases Infinite.exists_notMem_finset keys with ⟨h, absent⟩
    exact ⟨h, outside h absent⟩

/-- Its own steps use up the work of the server. -/
theorem Work.used {amount : ℕ} (own : Internal s action)
    (enabled : s.step action = some next) (work : Work s amount) :
    ∃ left, Work next left ∧ left < amount := by
  rcases work.step (Server.step_move enabled) with ⟨left, holds, less⟩
  exact ⟨left, holds, less own⟩

/-- The server comes to rest without a failure. -/
theorem rests_smoothly
    {bufferSize sampleRate : ℕ} {actions : List Action}
    (run : Run Server.step (.start bufferSize sampleRate) actions s) :
    ∃ own later,
      GuardedRun Server.step SmoothOwn s own later ∧ AtRest later := by
  rcases work_of_run run with ⟨amount, work⟩
  have uses :
      ∀ {state next : Server} {action : Action} {amount : ℕ},
        SmoothOwn state action → state.step action = some next →
          Work state amount → ∃ left, Work next left ∧ left < amount :=
    fun own enabled work => work.used own.1 enabled
  rcases exists_last uses work with ⟨own, later, ownRun, last⟩
  have whole :
      Run Server.step (.start bufferSize sampleRate) (actions ++ own)
        later :=
    run.append (ownRun.weaken fun _ => trivial)
  refine
    ⟨own, later, ownRun,
      atRest_of_last (locksOwned_of_run whole) (ready_of_run whole) ?_⟩
  rintro ⟨action, smooth, goes⟩
  rw [last action smooth] at goes
  cases goes

/--
From every state that it can reach, the server has only so many steps of its
own to take and comes to rest; and it has none left to take exactly when all
its tasks wait for their peers or are over and both locks are free.
-/
theorem server_settles
    {bufferSize sampleRate : ℕ} {actions : List Action}
    (run : Run Server.step (.start bufferSize sampleRate) actions s) :
    (∃ bound, ∀ own later,
        GuardedRun Server.step Internal s own later →
          own.length ≤ bound) ∧
      (∃ own later,
        GuardedRun Server.step Internal s own later ∧ AtRest later) ∧
      ∀ own later,
        GuardedRun Server.step Internal s own later →
          (AtRest later ↔ ¬ GoesOn later) := by
  rcases work_of_run run with ⟨bound, work⟩
  have rests :
      ∀ own later,
        GuardedRun Server.step Internal s own later →
          (AtRest later ↔ ¬ GoesOn later) := by
    intro own later ownRun
    have whole :
        Run Server.step (.start bufferSize sampleRate) (actions ++ own)
          later :=
      run.append (ownRun.weaken fun _ => trivial)
    exact atRest_iff (locksOwned_of_run whole) (ready_of_run whole)
  refine ⟨⟨bound, fun own later ownRun => ?_⟩, ?_, rests⟩
  · rcases run_uses_up Work.used ownRun work with ⟨left, _, bounded⟩
    exact (Nat.le_add_right _ _).trans bounded
  · rcases rests_smoothly run with ⟨own, later, ownRun, rest⟩
    exact ⟨own, later, ownRun.weaken fun own => own.1, rest⟩

/-- A stream has been asked for. -/
def opening : List Action :=
  [.accept 0, .request 0 (.openStream (.mono 0)) .nil]

theorem server_settles_opening :
    ∃ s,
      execute Server.step (.start 256 48000) opening = some s ∧
        ∃ own later,
          GuardedRun Server.step Internal s own later ∧ AtRest later :=
  ⟨_, rfl,
    (@server_settles _ 256 48000 opening
      (execute_eq_some_iff.mp rfl)).2.1⟩

end Audiopipe.Control.ServerSettles
