import Audiopipe.Control.StreamIds

/-!
# Who owns a running receiver

A running receiver is owned: its handle is in the table or in the hands of a
request handler, or a `Stop` is waiting for it.  The handlers of `OpenStream`
and `CloseStream` keep this.  The clean-up after a lost connection does not:
`remove_handle` drops the handle, and the call that would stop the receiver is
commented out.  The theorem holds for the runs in which that clean-up only
meets receivers that have ended or are about to.
-/

namespace Audiopipe.Control.HandleOwnership

open Audiopipe.Foundation.GuardedRuns
open Audiopipe.Mixing.TrackSelector
open Audiopipe.Streamer.PacketFormat
open Audiopipe.Control.Messages
open Audiopipe.Control.ServerTasks
open Audiopipe.Control.StreamIds

/-! ## Owners -/

/-- The handle that a request handler is about to insert or to stop. -/
def inHand : Phase → Option ℕ
  | .openLockHandles _ _ h => some h
  | .closeStop _ h => some h
  | _ => none

/-- The handle in the hands of connection `k`. -/
def hand (s : Server) (k : ℕ) : Option ℕ :=
  (s.connections k).bind fun c => inHand c.phase

/-- The handle of a receiver is in the table or in somebody's hands. -/
def Owned (s : Server) (h : ℕ) : Prop :=
  (∃ id, s.handles id = some h) ∨ ∃ k, hand s k = some h

/-- Every running receiver is owned, or a `Stop` is waiting for it. -/
def NoOrphan (s : Server) : Prop :=
  ∀ h receiver,
    s.receivers h = some receiver →
      receiver.Running → Owned s h ∨ receiver.stopWaiting = true

/--
A clean-up that takes a stream out of the table finds its receiver ended, or
a `Stop` waiting for it.
-/
def SparesRunning (s : Server) (action : Action) : Prop :=
  match action with
  | .lockHandles k =>
      match s.connections k with
      | some c =>
          match c.phase with
          | .removeLockHandles id =>
              ∀ h receiver,
                s.handles id = some h →
                  s.receivers h = some receiver →
                    receiver.Running → receiver.stopWaiting = true
          | _ => True
      | none => True
  | _ => True

/-! ## Transfer of ownership -/

theorem hand_eq
    {s : Server} {k : ℕ} {c : Connection}
    (here : s.connections k = some c) :
    hand s k = inHand c.phase := by
  simp [hand, here]

/-- A step of one connection changes what that connection holds. -/
theorem hand_update
    {s next : Server} {k : ℕ} {c : Connection}
    (moved :
      next.connections = Function.update s.connections k (some c)) :
    hand next = Function.update (hand s) k (inHand c.phase) :=
  phase_update inHand moved

/--
When one connection moves, only its own hands and the table entries that it
touches need care.
-/
theorem Owned.moved
    {s next : Server} {k h : ℕ} {c : Connection}
    (owned : Owned s h)
    (connections :
      next.connections = Function.update s.connections k (some c))
    (fromTable : ∀ id, s.handles id = some h → Owned next h)
    (fromHand : hand s k = some h → Owned next h) :
    Owned next h := by
  rcases owned with ⟨id, listed⟩ | ⟨other, held⟩
  · exact fromTable id listed
  · by_cases here : other = k
    · rw [here] at held
      exact fromHand held
    · refine Or.inr ⟨other, ?_⟩
      rw [hand_update connections, Function.update_of_ne here]
      exact held

/-- Nothing is lost when empty hands move and the table stays. -/
theorem Owned.kept
    {s next : Server} {k h : ℕ} {c : Connection}
    (owned : Owned s h)
    (connections :
      next.connections = Function.update s.connections k (some c))
    (sameTable : next.handles = s.handles)
    (emptyHands : hand s k = none) :
    Owned next h := by
  refine owned.moved connections ?_ ?_
  · intro id listed
    exact Or.inl ⟨id, by rw [sameTable]; exact listed⟩
  · intro held
    rw [emptyHands] at held
    cases held

/-- A handle goes from a connection's hands into a free entry of the table. -/
theorem Owned.inserted
    {s next : Server} {k h other : ℕ} {id : Uuid} {c : Connection}
    (owned : Owned s other)
    (connections :
      next.connections = Function.update s.connections k (some c))
    (table : next.handles = Function.update s.handles id (some h))
    (unlisted : s.handles id = none) (holding : hand s k = some h) :
    Owned next other := by
  refine owned.moved connections ?_ ?_
  · intro id' listed
    have different : id' ≠ id := by
      rintro rfl
      rw [unlisted] at listed
      cases listed
    refine Or.inl ⟨id', ?_⟩
    rw [table, Function.update_of_ne different]
    exact listed
  · intro held
    rw [holding] at held
    cases held
    refine Or.inl ⟨id, ?_⟩
    rw [table, Function.update_self]

/-- A connection with empty hands takes an entry out of the table. -/
theorem Owned.takenOut
    {s next : Server} {k other : ℕ} {id : Uuid} {c : Connection}
    (owned : Owned s other)
    (connections :
      next.connections = Function.update s.connections k (some c))
    (table : next.handles = Function.update s.handles id none)
    (emptyHands : hand s k = none)
    (taken : s.handles id = some other → Owned next other) :
    Owned next other := by
  refine owned.moved connections ?_ ?_
  · intro id' listed
    by_cases same : id' = id
    · rw [same] at listed
      exact taken listed
    · refine Or.inl ⟨id', ?_⟩
      rw [table, Function.update_of_ne same]
      exact listed
  · intro held
    rw [emptyHands] at held
    cases held

/-- No receiver changes, and no owner is lost. -/
theorem NoOrphan.ofOwned
    {s next : Server} (noOrphan : NoOrphan s)
    (sameReceivers : next.receivers = s.receivers)
    (keeps : ∀ h, Owned s h → Owned next h) :
    NoOrphan next := by
  intro h receiver there running
  rw [sameReceivers] at there
  exact (noOrphan h receiver there running).imp_left (keeps h)

/-- A connection with empty hands moves and leaves the table alone. -/
theorem NoOrphan.ofConnection
    {s next : Server} {k : ℕ} {c moved : Connection}
    (noOrphan : NoOrphan s)
    (here : s.connections k = some c) (emptyHands : inHand c.phase = none)
    (connections :
      next.connections = Function.update s.connections k (some moved))
    (sameTable : next.handles = s.handles)
    (sameReceivers : next.receivers = s.receivers) :
    NoOrphan next := by
  refine noOrphan.ofOwned sameReceivers fun h owned => ?_
  exact owned.kept connections sameTable ((hand_eq here).trans emptyHands)

/-- One receiver changes, and the owners of the others stay. -/
theorem NoOrphan.ofReceiver
    {s next : Server} {h : ℕ} {receiver : ReceiverTask}
    (noOrphan : NoOrphan s)
    (receivers :
      next.receivers = Function.update s.receivers h (some receiver))
    (here :
      receiver.Running → Owned next h ∨ receiver.stopWaiting = true)
    (keeps : ∀ other, other ≠ h → Owned s other → Owned next other) :
    NoOrphan next := by
  intro other found there running
  rw [receivers] at there
  by_cases same : other = h
  · subst same
    rw [Function.update_self] at there
    cases there
    exact here running
  · rw [Function.update_of_ne same] at there
    exact (noOrphan other found there running).imp_left (keeps other same)

/-- A receiver moves on with its command channel untouched. -/
theorem NoOrphan.ofProgress
    {s next : Server} {h : ℕ} {receiver moved : ReceiverTask}
    (noOrphan : NoOrphan s)
    (there : s.receivers h = some receiver)
    (connections : next.connections = s.connections)
    (sameTable : next.handles = s.handles)
    (receivers :
      next.receivers = Function.update s.receivers h (some moved))
    (ran : receiver.Running)
    (sameChannel : moved.stopWaiting = receiver.stopWaiting) :
    NoOrphan next := by
  have keeps : ∀ other, Owned s other → Owned next other := by
    intro other owned
    unfold Owned hand at owned ⊢
    rw [connections, sameTable]
    exact owned
  refine noOrphan.ofReceiver receivers ?_ fun other _ => keeps other
  intro _
  rw [sameChannel]
  exact (noOrphan h receiver there ran).imp_left (keeps h)

/-! ## What a step preserves -/

/-- Every allowed step keeps every running receiver owned. -/
theorem NoOrphan.step
    {s next : Server} {action : Action}
    (spares : SparesRunning s action)
    (enabled : s.step action = some next)
    (fresh : IdsFresh s) (noOrphan : NoOrphan s) :
    NoOrphan next := by
  cases Server.step_move enabled with
  | @accept k unused =>
      have emptyHands : hand s k = none := by
        rw [hand, unused]
        rfl
      exact noOrphan.ofOwned rfl fun h owned => owned.kept rfl rfl emptyHands
  | requestOpen here reading _ =>
      exact noOrphan.ofConnection here (by rw [reading]; rfl) rfl rfl rfl
  | requestClose here reading =>
      exact noOrphan.ofConnection here (by rw [reading]; rfl) rfl rfl rfl
  | readErrorCurrent here reading current =>
      exact noOrphan.ofConnection here (by rw [reading]; rfl) rfl rfl rfl
  | readErrorNone here reading current =>
      exact noOrphan.ofConnection here (by rw [reading]; rfl) rfl rfl rfl
  | lockMixer here waiting free =>
      exact noOrphan.ofConnection here (by rw [waiting]; rfl) rfl rfl rfl
  | @callbackOk k h port c id sel here calling unused =>
      have emptyHands := hand_eq here
      rw [calling] at emptyHands
      refine
        noOrphan.ofReceiver rfl ?_ fun other _ owned =>
          owned.kept rfl rfl emptyHands
      intro _
      refine Or.inl (Or.inr ⟨k, ?_⟩)
      exact hand_eq (Server.setConnection_connections_self _ _ _)
  | callbackError here calling =>
      exact noOrphan.ofConnection here (by rw [calling]; rfl) rfl rfl rfl
  | @insert k h c id sel here waiting free =>
      have unlisted : s.handles id = none :=
        fresh.pendingUnlisted k id (by simp [pending, here, waiting, pendingId])
      have holding := hand_eq here
      rw [waiting] at holding
      exact
        noOrphan.ofOwned rfl fun other owned =>
          owned.inserted rfl rfl unlisted holding
  | @takeOut k h c id here waiting free found =>
      have emptyHands := hand_eq here
      rw [waiting] at emptyHands
      refine noOrphan.ofOwned rfl fun other owned => ?_
      refine owned.takenOut rfl rfl emptyHands fun listed => ?_
      rw [found] at listed
      cases listed
      exact
        Or.inr ⟨k, hand_eq (Server.setConnection_connections_self _ _ _)⟩
  | notFound here waiting free missing =>
      exact noOrphan.ofConnection here (by rw [waiting]; rfl) rfl rfl rfl
  | @removeHandle k c id here waiting free =>
      have emptyHands := hand_eq here
      rw [waiting] at emptyHands
      simp only [SparesRunning, here, waiting] at spares
      intro h receiver there running
      rcases noOrphan h receiver there running with owned | stopping
      · by_cases listed : s.handles id = some h
        · exact Or.inr (spares h receiver listed there running)
        · refine Or.inl (owned.takenOut rfl rfl emptyHands ?_)
          exact fun found => (listed found).elim
      · exact Or.inr stopping
  | log here waiting free =>
      exact noOrphan.ofConnection here (by rw [waiting]; rfl) rfl rfl rfl
  | @stopSent k h c id receiver here stopping there running room =>
      have holding := hand_eq here
      rw [stopping] at holding
      refine noOrphan.ofReceiver rfl (fun _ => Or.inr rfl) ?_
      intro other different owned
      refine owned.moved rfl ?_ ?_
      · exact fun id' listed => Or.inl ⟨id', listed⟩
      · intro held
        rw [holding] at held
        cases held
        exact (different rfl).elim
  | @stopPanic k h c id receiver here stopping there gone =>
      have holding := hand_eq here
      rw [stopping] at holding
      intro other found foundThere running
      refine (noOrphan other found foundThere running).imp_left ?_
      intro owned
      refine owned.moved rfl ?_ ?_
      · exact fun id' listed => Or.inl ⟨id', listed⟩
      · intro held
        rw [holding] at held
        cases held
        have same : receiver = found :=
          Option.some.inj (there.symm.trans foundThere)
        rw [same] at gone
        exact (gone running).elim
  | respondStream here responding =>
      exact noOrphan.ofConnection here (by rw [responding]; rfl) rfl rfl rfl
  | respondStreamFailed here responding =>
      exact noOrphan.ofConnection here (by rw [responding]; rfl) rfl rfl rfl
  | respondOk here responding =>
      exact noOrphan.ofConnection here (by rw [responding]; rfl) rfl rfl rfl
  | respondOkFailed here responding =>
      exact noOrphan.ofConnection here (by rw [responding]; rfl) rfl rfl rfl
  | respondNotFound here responding =>
      exact noOrphan.ofConnection here (by rw [responding]; rfl) rfl rfl rfl
  | respondNotFoundFailed here responding =>
      exact noOrphan.ofConnection here (by rw [responding]; rfl) rfl rfl rfl
  | datagram there receiving =>
      refine noOrphan.ofProgress there rfl rfl rfl ?_ rfl
      intro ended
      rw [receiving] at ended
      cases ended
  | receiverLock there waiting free =>
      refine noOrphan.ofProgress there rfl rfl rfl ?_ rfl
      intro ended
      rw [waiting] at ended
      cases ended
  | played there playing =>
      refine noOrphan.ofProgress there rfl rfl rfl ?_ rfl
      intro ended
      rw [playing] at ended
      cases ended
  | takeStop there running waiting =>
      refine noOrphan.ofReceiver rfl ?_ fun other _ owned => owned
      intro ended
      exact (ended rfl).elim

theorem NoOrphan.start (bufferSize sampleRate : ℕ) :
    NoOrphan (.start bufferSize sampleRate) :=
  fun _ _ there => nomatch there

/-! ## Runs -/

/--
In every run in which no clean-up drops the handle of a receiver that goes
on, every running receiver is owned or about to be stopped.
-/
theorem running_receivers_owned
    {bufferSize sampleRate : ℕ} {actions : List Action} {finish : Server}
    (run :
      GuardedRun Server.step SparesRunning (.start bufferSize sampleRate)
        actions finish) :
    NoOrphan finish := by
  have stepPreserves :
      ∀ {s next : Server} {action : Action},
        SparesRunning s action → s.step action = some next →
          IdsFresh s ∧ NoOrphan s → IdsFresh next ∧ NoOrphan next := by
    intro s next action spares enabled ⟨fresh, noOrphan⟩
    exact ⟨fresh.step enabled, .step spares enabled fresh noOrphan⟩
  have both : IdsFresh finish ∧ NoOrphan finish :=
    run.preserves stepPreserves
      ⟨.start bufferSize sampleRate, .start bufferSize sampleRate⟩
  exact both.2

/-- A stream that is opened, and whose connection is then lost. -/
def lostConnectionActions (id : Uuid) : List Action :=
  [.accept 0, .request 0 (.openStream (.mono 0)) id, .lockMixer 0,
    .callbackOk 0 0 40000, .lockHandles 0, .respond 0 true,
    .readError 0, .lockHandles 0]

/-- The receiver goes on, and nobody has its handle. -/
theorem lost_connection_orphans :
    ∃ finish,
      execute Server.step (.start 256 48000)
          (lostConnectionActions ⟨List.replicate 16 7, rfl⟩) =
        some finish ∧
      ¬ NoOrphan finish := by
  refine ⟨_, rfl, fun noOrphan => ?_⟩
  have there := noOrphan 0 (.spawned (.mono 0) 40000) rfl (by decide)
  rcases there with (⟨id, listed⟩ | ⟨k, held⟩) | waiting
  · by_cases same : id = ⟨List.replicate 16 7, rfl⟩
    · rw [same] at listed
      exact absurd listed (by decide)
    · exact
        absurd listed
          (by
            simp [Server.setConnection, Server.setReceiver,
              Server.setHandle, Server.start])
  · by_cases same : k = 0
    · rw [same] at held
      exact absurd held (by decide)
    · exact
        absurd held
          (by
            simp [same, hand, Server.setConnection, Server.setReceiver,
              Server.setHandle, Server.start])
  · cases waiting

/-- The same, but the stream is closed before the connection is lost. -/
def closedStreamActions (id : Uuid) : List Action :=
  [.accept 0, .request 0 (.openStream (.mono 0)) id, .lockMixer 0,
    .callbackOk 0 0 40000, .lockHandles 0, .respond 0 true,
    .request 0 (.closeStream id) id, .lockHandles 0, .stop 0,
    .respond 0 true, .readError 0, .lockHandles 0]

theorem running_receivers_owned_closed :
    ∃ finish,
      execute Server.step (.start 256 48000)
          (closedStreamActions ⟨List.replicate 16 7, rfl⟩) =
        some finish ∧
      NoOrphan finish := by
  refine ⟨_, rfl, ?_⟩
  apply
    @running_receivers_owned 256 48000
      (closedStreamActions ⟨List.replicate 16 7, rfl⟩)
  unfold closedStreamActions
  apply GuardedRun.next trivial rfl
  apply GuardedRun.next trivial rfl
  apply GuardedRun.next trivial rfl
  apply GuardedRun.next trivial rfl
  apply GuardedRun.next trivial rfl
  apply GuardedRun.next trivial rfl
  apply GuardedRun.next trivial rfl
  apply GuardedRun.next trivial rfl
  apply GuardedRun.next trivial rfl
  apply GuardedRun.next trivial rfl
  apply GuardedRun.next trivial rfl
  apply GuardedRun.next (fun _ _ listed => nomatch listed) rfl
  exact .done _

end Audiopipe.Control.HandleOwnership
