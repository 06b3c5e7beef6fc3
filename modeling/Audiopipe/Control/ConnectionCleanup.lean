import Audiopipe.Control.StreamIds

/-!
# What a finished connection leaves behind

A connection leaves `handle_connection` through a read error, a failed send, a
failed callback or a panic.  Only the read error takes a stream out of the
table, and only the one in `current_id`.  A finished connection therefore
leaves nothing behind in the runs in which each of these exits finds the
streams that it does not take out already closed.
-/

namespace Audiopipe.Control.ConnectionCleanup

open Audiopipe.Foundation.GuardedRuns
open Audiopipe.Mixing.TrackSelector
open Audiopipe.Streamer.PacketFormat
open Audiopipe.Control.Messages
open Audiopipe.Control.ServerTasks
open Audiopipe.Control.StreamIds

/-! ## Exits -/

/-- The task of the connection is over. -/
def Finished (c : Connection) : Prop :=
  c.phase = .ended ∨ c.phase = .panicked

/-- A finished connection has none of its streams in the table. -/
def NothingLeft (s : Server) : Prop :=
  ∀ k c,
    s.connections k = some c →
      Finished c → ∀ id ∈ c.opened, s.handles id = none

/--
The connection is on its way out, it has opened stream `id`, and it is not
going to take it out of the table.
-/
def Abandoned (c : Connection) (id : Uuid) : Prop :=
  match c.phase with
  | .removeLockHandles current => id ∈ c.opened ∧ id ≠ current
  | .logLockHandles => id ∈ c.opened
  | .ended => id ∈ c.opened
  | .panicked => id ∈ c.opened
  | _ => False

/-- No abandoned stream is in the table. -/
def NoneAbandoned (s : Server) : Prop :=
  ∀ k c id,
    s.connections k = some c → Abandoned c id → s.handles id = none

/-- All streams of connection `k` are closed. -/
def AllClosed (s : Server) (k : ℕ) : Prop :=
  ∀ id ∈ opened s k, s.handles id = none

/--
An exit through a read error finds all streams but the current one closed,
and an exit through a failed callback, a failed send or the stop of a receiver
that has ended finds all streams closed.
-/
def LeavesClean (s : Server) (action : Action) : Prop :=
  match action with
  | .readError k =>
      ∀ c,
        s.connections k = some c →
          ∀ id ∈ c.opened, c.currentId ≠ some id → s.handles id = none
  | .callbackError k _ => AllClosed s k
  | .respond k false => AllClosed s k
  | .stop k =>
      ∀ c id h receiver,
        s.connections k = some c →
          c.phase = .closeStop id h →
            s.receivers h = some receiver →
              ¬ receiver.Running → AllClosed s k
  | _ => True

/-! ## What a step preserves -/

theorem Abandoned.member
    {c : Connection} {id : Uuid} (abandoned : Abandoned c id) :
    id ∈ c.opened := by
  unfold Abandoned at abandoned
  split at abandoned
  · exact abandoned.1
  · exact abandoned
  · exact abandoned
  · exact abandoned
  · exact abandoned.elim

/-- One connection moves, and the table only gets smaller. -/
theorem NoneAbandoned.ofConnection
    {s next : Server} {k : ℕ} {moved : Connection}
    (noneAbandoned : NoneAbandoned s)
    (connections :
      next.connections = Function.update s.connections k (some moved))
    (tableLess :
      ∀ id, next.handles id = s.handles id ∨ next.handles id = none)
    (here : ∀ id, Abandoned moved id → next.handles id = none) :
    NoneAbandoned next := by
  intro other c id there abandoned
  rw [connections] at there
  by_cases same : other = k
  · rw [same, Function.update_self] at there
    cases there
    exact here id abandoned
  · rw [Function.update_of_ne same] at there
    rcases tableLess id with kept | gone
    · exact kept.trans (noneAbandoned other c id there abandoned)
    · exact gone

/-- One connection moves to a place that is no exit. -/
theorem NoneAbandoned.ofStay
    {s next : Server} {k : ℕ} {moved : Connection}
    (noneAbandoned : NoneAbandoned s)
    (connections :
      next.connections = Function.update s.connections k (some moved))
    (tableLess :
      ∀ id, next.handles id = s.handles id ∨ next.handles id = none)
    (stays : ∀ id, ¬ Abandoned moved id) :
    NoneAbandoned next :=
  noneAbandoned.ofConnection connections tableLess fun id abandoned =>
    (stays id abandoned).elim

/-- One connection leaves with all its streams closed. -/
theorem NoneAbandoned.ofExit
    {s next : Server} {k : ℕ} {c moved : Connection}
    (noneAbandoned : NoneAbandoned s)
    (there : s.connections k = some c) (closed : AllClosed s k)
    (connections :
      next.connections = Function.update s.connections k (some moved))
    (sameTable : next.handles = s.handles)
    (member : ∀ id, Abandoned moved id → id ∈ c.opened) :
    NoneAbandoned next := by
  refine noneAbandoned.ofConnection connections ?_ ?_
  · intro id
    exact Or.inl (by rw [sameTable])
  · intro id abandoned
    rw [sameTable]
    refine closed id ?_
    rw [opened, there]
    exact member id abandoned

/-- A stream that nobody has opened before is put into the table. -/
theorem NoneAbandoned.ofInsert
    {s next : Server} {k h : ℕ} {id : Uuid} {moved : Connection}
    (noneAbandoned : NoneAbandoned s)
    (unopened : ∀ other, id ∉ opened s other)
    (connections :
      next.connections = Function.update s.connections k (some moved))
    (table : next.handles = Function.update s.handles id (some h))
    (stays : ∀ id, ¬ Abandoned moved id) :
    NoneAbandoned next := by
  intro other c id' there abandoned
  rw [connections] at there
  by_cases same : other = k
  · rw [same, Function.update_self] at there
    cases there
    exact (stays id' abandoned).elim
  · rw [Function.update_of_ne same] at there
    have member : id' ∈ opened s other := by
      rw [opened, there]
      exact abandoned.member
    have different : id' ≠ id := by
      rintro rfl
      exact unopened other member
    rw [table, Function.update_of_ne different]
    exact noneAbandoned other c id' there abandoned

/-- Every allowed step keeps the abandoned streams out of the table. -/
theorem NoneAbandoned.step
    {s next : Server} {action : Action}
    (clean : LeavesClean s action)
    (enabled : s.step action = some next)
    (fresh : IdsFresh s) (noneAbandoned : NoneAbandoned s) :
    NoneAbandoned next := by
  have keep :
      ∀ id, s.handles id = s.handles id ∨ s.handles id = none :=
    fun _ => Or.inl rfl
  cases Server.step_move enabled with
  | accept unused =>
      exact noneAbandoned.ofStay rfl keep fun _ => id
  | requestOpen here reading unused =>
      exact noneAbandoned.ofStay rfl keep fun _ => id
  | requestClose here reading =>
      exact noneAbandoned.ofStay rfl keep fun _ => id
  | @readErrorCurrent k c current here reading isCurrent =>
      refine noneAbandoned.ofConnection rfl keep ?_
      rintro id ⟨member, different⟩
      refine clean c here id member fun same => different ?_
      rw [isCurrent] at same
      exact (Option.some.inj same).symm
  | @readErrorNone k c here reading noCurrent =>
      refine noneAbandoned.ofConnection rfl keep ?_
      intro id member
      refine clean c here id member fun same => ?_
      rw [noCurrent] at same
      cases same
  | lockMixer here waiting free =>
      exact noneAbandoned.ofStay rfl keep fun _ => id
  | callbackOk here calling unused =>
      exact noneAbandoned.ofStay rfl keep fun _ => id
  | callbackError here calling =>
      exact noneAbandoned.ofExit here clean rfl rfl fun _ => id
  | @insert k h c newId sel here waiting free =>
      have unopened :=
        fresh.pendingUnopened k newId
          (by simp [pending, here, waiting, pendingId])
      exact noneAbandoned.ofInsert unopened rfl rfl fun _ => id
  | @takeOut k h c closing here waiting free found =>
      exact noneAbandoned.ofStay rfl (takenOut_less s closing) fun _ => id
  | notFound here waiting free missing =>
      exact noneAbandoned.ofStay rfl keep fun _ => id
  | @removeHandle k c current here waiting free =>
      refine noneAbandoned.ofConnection rfl (takenOut_less s current) ?_
      intro id member
      by_cases same : id = current
      · rw [same]
        exact s.setHandle_handles_self current none
      · have abandoned : Abandoned c id := by
          rw [Abandoned, waiting]
          exact ⟨member, same⟩
        exact
          (s.setHandle_handles_of_ne same none).trans
            (noneAbandoned k c id here abandoned)
  | @log k c here waiting free =>
      refine noneAbandoned.ofConnection rfl keep ?_
      intro id member
      have abandoned : Abandoned c id := by
        rw [Abandoned, waiting]
        exact member
      exact noneAbandoned k c id here abandoned
  | stopSent here stopping there running room =>
      exact noneAbandoned.ofStay rfl keep fun _ => id
  | stopPanic here stopping there gone =>
      have closed := clean _ _ _ _ here stopping there gone
      exact noneAbandoned.ofExit here closed rfl rfl fun _ => id
  | respondStream here responding =>
      exact noneAbandoned.ofStay rfl keep fun _ => id
  | respondStreamFailed here responding =>
      exact noneAbandoned.ofExit here clean rfl rfl fun _ => id
  | respondOk here responding =>
      exact noneAbandoned.ofStay rfl keep fun _ => id
  | respondOkFailed here responding =>
      exact noneAbandoned.ofExit here clean rfl rfl fun _ => id
  | respondNotFound here responding =>
      exact noneAbandoned.ofStay rfl keep fun _ => id
  | respondNotFoundFailed here responding =>
      exact noneAbandoned.ofExit here clean rfl rfl fun _ => id
  | datagram there receiving =>
      exact fun k c id => noneAbandoned k c id
  | receiverLock there waiting free =>
      exact fun k c id => noneAbandoned k c id
  | played there playing =>
      exact fun k c id => noneAbandoned k c id
  | takeStop there running waiting =>
      exact fun k c id => noneAbandoned k c id

theorem NoneAbandoned.start (bufferSize sampleRate : ℕ) :
    NoneAbandoned (.start bufferSize sampleRate) :=
  fun _ _ _ there => nomatch there

theorem NoneAbandoned.nothingLeft
    {s : Server} (noneAbandoned : NoneAbandoned s) : NothingLeft s := by
  intro k c there finished id member
  refine noneAbandoned k c id there ?_
  rcases finished with ended | panicked
  · rw [Abandoned, ended]
    exact member
  · rw [Abandoned, panicked]
    exact member

/-! ## Runs -/

/--
In every run in which each exit finds the streams that it does not take out
closed, a finished connection has none of its streams in the table.
-/
theorem finished_leaves_nothing
    {bufferSize sampleRate : ℕ} {actions : List Action} {finish : Server}
    (run :
      GuardedRun Server.step LeavesClean (.start bufferSize sampleRate)
        actions finish) :
    NothingLeft finish := by
  have stepPreserves :
      ∀ {s next : Server} {action : Action},
        LeavesClean s action → s.step action = some next →
          IdsFresh s ∧ NoneAbandoned s →
            IdsFresh next ∧ NoneAbandoned next := by
    intro s next action clean enabled ⟨fresh, noneAbandoned⟩
    exact ⟨fresh.step enabled, .step clean enabled fresh noneAbandoned⟩
  have both : IdsFresh finish ∧ NoneAbandoned finish :=
    run.preserves stepPreserves
      ⟨.start bufferSize sampleRate, .start bufferSize sampleRate⟩
  exact both.2.nothingLeft

/-- A connection that opens two streams before it is lost. -/
def twoStreamsActions (first second : Uuid) : List Action :=
  [.accept 0, .request 0 (.openStream (.mono 0)) first, .lockMixer 0,
    .callbackOk 0 0 40000, .lockHandles 0, .respond 0 true,
    .request 0 (.openStream (.mono 1)) second, .lockMixer 0,
    .callbackOk 0 1 40001, .lockHandles 0, .respond 0 true,
    .readError 0, .lockHandles 0, .lockHandles 0]

/-- The connection has ended, and its first stream is still in the table. -/
theorem first_stream_left :
    ∃ finish,
      execute Server.step (.start 256 48000)
          (twoStreamsActions ⟨List.replicate 16 7, rfl⟩
            ⟨List.replicate 16 8, rfl⟩) =
        some finish ∧
      ¬ NothingLeft finish := by
  refine ⟨_, rfl, fun nothingLeft => ?_⟩
  have gone :=
    nothingLeft 0 _ rfl (Or.inl rfl) ⟨List.replicate 16 7, rfl⟩ (by decide)
  cases gone

/-- The same, but the first stream is closed before the connection is lost. -/
def firstClosedActions (first second : Uuid) : List Action :=
  [.accept 0, .request 0 (.openStream (.mono 0)) first, .lockMixer 0,
    .callbackOk 0 0 40000, .lockHandles 0, .respond 0 true,
    .request 0 (.openStream (.mono 1)) second, .lockMixer 0,
    .callbackOk 0 1 40001, .lockHandles 0, .respond 0 true,
    .request 0 (.closeStream first) first, .lockHandles 0, .stop 0,
    .respond 0 true, .readError 0, .lockHandles 0, .lockHandles 0]

theorem finished_leaves_nothing_closed :
    ∃ finish,
      execute Server.step (.start 256 48000)
          (firstClosedActions ⟨List.replicate 16 7, rfl⟩
            ⟨List.replicate 16 8, rfl⟩) =
        some finish ∧
      NothingLeft finish := by
  refine ⟨_, rfl, ?_⟩
  apply
    @finished_leaves_nothing 256 48000
      (firstClosedActions ⟨List.replicate 16 7, rfl⟩
        ⟨List.replicate 16 8, rfl⟩)
  unfold firstClosedActions
  apply GuardedRun.next trivial rfl
  apply GuardedRun.next trivial rfl
  apply GuardedRun.next trivial rfl
  apply GuardedRun.next trivial rfl
  apply GuardedRun.next trivial rfl
  apply GuardedRun.next trivial rfl
  apply GuardedRun.next trivial rfl
  apply GuardedRun.next trivial rfl
  apply GuardedRun.next trivial rfl
  apply GuardedRun.next trivial rfl
  apply GuardedRun.next trivial rfl
  apply GuardedRun.next trivial rfl
  apply GuardedRun.next trivial rfl
  refine GuardedRun.next ?stop rfl ?_
  case stop =>
    intro c id h receiver here stopping there gone
    cases here
    cases stopping
    cases there
    exact absurd (by decide) gone
  apply GuardedRun.next trivial rfl
  refine GuardedRun.next ?readError rfl ?_
  case readError =>
    intro c here id member notCurrent
    cases here
    rcases List.mem_pair.mp member with rfl | rfl
    · exact absurd rfl notCurrent
    · rfl
  apply GuardedRun.next trivial rfl
  apply GuardedRun.next trivial rfl
  exact .done _

end Audiopipe.Control.ConnectionCleanup
