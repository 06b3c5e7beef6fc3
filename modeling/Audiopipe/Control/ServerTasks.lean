import Audiopipe.Control.Messages
import Audiopipe.Foundation.GuardedRuns

/-!
# The tasks of the server

`server_event_loop` spawns a task for every connection, and every stream that
is opened spawns a receiver task.  The tasks share the global mixer's lock and
the table of stream handles with its lock.  A step is what one task does
between two awaits; the outcome of a socket operation or of the callback, and
the fresh stream id, come with the action.

`handle_connection` holds the mixer lock from before the callback until the
response has been sent, and the lock of the table from the removal of a closed
stream until the response has been sent.  A receiver takes a `Stop` at any of
its awaits.  Dropping a handle does not end its receiver: the task is detached
and the branch that waits for commands is disabled.
-/

namespace Audiopipe.Control.ServerTasks

open Audiopipe.Mixing.TrackSelector
open Audiopipe.Streamer.PacketFormat
open Audiopipe.Streamer.ReceiveLoop
open Audiopipe.Control.Messages

/-! ## Connections -/

/--
Where a connection task stands: in one of the arms of `handle_connection`, in
the clean-up of `server_event_loop` after it, or at its end.
-/
inductive Phase where
  | reading
  | openLockMixer (id : Uuid) (sel : MixerTrackSelector)
  | openCallback (id : Uuid) (sel : MixerTrackSelector)
  | openLockHandles (id : Uuid) (sel : MixerTrackSelector) (h : ℕ)
  | openRespond (id : Uuid) (sel : MixerTrackSelector) (port : UInt16)
  | closeLockHandles (id : Uuid)
  | closeStop (id : Uuid) (h : ℕ)
  | closeRespondOk (id : Uuid)
  | closeRespondNotFound (id : Uuid)
  | removeLockHandles (id : Uuid)
  | logLockHandles
  | ended
  | panicked
deriving DecidableEq

/--
A connection.  `opened` and `exchanges` are its history: the ids of the
streams it put into the table, and the answered requests.
-/
structure Connection where
  phase : Phase
  currentId : Option Uuid
  opened : List Uuid
  exchanges : List (ControlRequest × ControlResponse)
deriving DecidableEq

namespace Connection

/-- A connection that was just accepted. -/
def accepted : Connection where
  phase := .reading
  currentId := none
  opened := []
  exchanges := []

/-- The connection at another place of its code. -/
def goTo (c : Connection) (phase : Phase) : Connection :=
  { c with phase := phase }

/-- The connection after the answer to a request has been sent. -/
def answered (c : Connection) (request : ControlRequest)
    (response : ControlResponse) : Connection :=
  { c with
    phase := .reading
    exchanges := c.exchanges ++ [(request, response)] }

/-- The connection that has put a stream into the table. -/
def inserted (c : Connection) (id : Uuid) (phase : Phase) : Connection :=
  { c with
    phase := phase
    currentId := some id
    opened := id :: c.opened }

end Connection

/-! ## Receivers -/

/-- Where a receiver task stands. -/
inductive ReceiverPhase where
  | receiving
  | lockingMixer
  | playing
  | ended
deriving DecidableEq

/-- A receiver task with its one-place command channel. -/
structure ReceiverTask where
  sel : MixerTrackSelector
  port : UInt16
  phase : ReceiverPhase
  stopWaiting : Bool
deriving DecidableEq

namespace ReceiverTask

/-- The task that `AudioReceiverHandle::new` spawns. -/
def spawned (sel : MixerTrackSelector) (port : UInt16) : ReceiverTask where
  sel := sel
  port := port
  phase := .receiving
  stopWaiting := false

def goTo (receiver : ReceiverTask) (phase : ReceiverPhase) :
    ReceiverTask :=
  { receiver with phase := phase }

/-- The receive loop is still going. -/
def Running (receiver : ReceiverTask) : Prop :=
  receiver.phase ≠ .ended

instance (receiver : ReceiverTask) : Decidable receiver.Running :=
  inferInstanceAs (Decidable (receiver.phase ≠ .ended))

end ReceiverTask

/-! ## The server -/

/-- Who holds the lock of the global mixer. -/
inductive MixerOwner where
  | connection (k : ℕ)
  | receiver (h : ℕ)
deriving DecidableEq

/--
The tasks and what they share.  A handle is the number of its receiver task.
`bufferSize` and `sampleRate` are those of the global mixer, `issued` the
stream ids that have been drawn so far.
-/
structure Server where
  bufferSize : ℕ
  sampleRate : ℕ
  connections : ℕ → Option Connection
  receivers : ℕ → Option ReceiverTask
  handles : Uuid → Option ℕ
  mixerLock : Option MixerOwner
  handlesLock : Option ℕ
  issued : List Uuid

namespace Server

/-- The server before the first connection. -/
def start (bufferSize sampleRate : ℕ) : Server where
  bufferSize := bufferSize
  sampleRate := sampleRate
  connections := fun _ => none
  receivers := fun _ => none
  handles := fun _ => none
  mixerLock := none
  handlesLock := none
  issued := []

def setConnection (s : Server) (k : ℕ) (c : Connection) : Server :=
  { s with connections := Function.update s.connections k (some c) }

def setReceiver (s : Server) (h : ℕ) (receiver : ReceiverTask) : Server :=
  { s with receivers := Function.update s.receivers h (some receiver) }

def setHandle (s : Server) (id : Uuid) (entry : Option ℕ) : Server :=
  { s with handles := Function.update s.handles id entry }

theorem setConnection_connections_self
    (s : Server) (k : ℕ) (c : Connection) :
    (s.setConnection k c).connections k = some c := by
  simp [setConnection]

theorem setHandle_handles_self
    (s : Server) (id : Uuid) (entry : Option ℕ) :
    (s.setHandle id entry).handles id = entry := by
  simp [setHandle]

theorem setHandle_handles_of_ne
    (s : Server) {id other : Uuid} (different : other ≠ id)
    (entry : Option ℕ) :
    (s.setHandle id entry).handles other = s.handles other := by
  simp [setHandle, different]

end Server

/-! ## Steps -/

/-- A scheduling decision with the outcome of what the task waited for. -/
inductive Action where
  | accept (k : ℕ)
  | request (k : ℕ) (request : ControlRequest) (newId : Uuid)
  | readError (k : ℕ)
  | lockMixer (k : ℕ)
  | callbackOk (k h : ℕ) (port : UInt16)
  | callbackError (k : ℕ) (e : UdpServerHandleError)
  | lockHandles (k : ℕ)
  | stop (k : ℕ)
  | respond (k : ℕ) (sent : Bool)
  | datagram (h : ℕ) (wellFormed : Bool)
  | receiverLock (h : ℕ)
  | played (h : ℕ) (accepted : Bool)
  | takeStop (h : ℕ)
deriving DecidableEq

namespace Server

/-- `read_packet` returned a request. -/
def stepRequest (s : Server) (k : ℕ) (c : Connection)
    (request : ControlRequest) (newId : Uuid) : Option Server :=
  match c.phase, request with
  | .reading, .openStream sel =>
      if newId ∈ s.issued then
        none
      else
        some
          { s.setConnection k (c.goTo (.openLockMixer newId sel)) with
            issued := newId :: s.issued }
  | .reading, .closeStream uuid =>
      some (s.setConnection k (c.goTo (.closeLockHandles uuid)))
  | _, _ => none

/--
`read_packet` failed.  The error carries `current_id`, and the clean-up takes
that stream out of the table.
-/
def stepReadError (s : Server) (k : ℕ) (c : Connection) : Option Server :=
  match c.phase, c.currentId with
  | .reading, some id =>
      some (s.setConnection k (c.goTo (.removeLockHandles id)))
  | .reading, none => some (s.setConnection k (c.goTo .ended))
  | _, _ => none

/-- The connection acquires the mixer lock. -/
def stepLockMixer (s : Server) (k : ℕ) (c : Connection) : Option Server :=
  match c.phase, s.mixerLock with
  | .openLockMixer id sel, none =>
      some
        { s.setConnection k (c.goTo (.openCallback id sel)) with
          mixerLock := some (.connection k) }
  | _, _ => none

/-- The callback has bound a socket and spawned a receiver. -/
def stepCallbackOk (s : Server) (k : ℕ) (c : Connection) (h : ℕ)
    (port : UInt16) : Option Server :=
  match c.phase, s.receivers h with
  | .openCallback id sel, none =>
      some
        ((s.setReceiver h (.spawned sel port)).setConnection k
          (c.goTo (.openLockHandles id sel h)))
  | _, _ => none

/-- The callback failed: the error ends in a `todo!()`. -/
def stepCallbackError (s : Server) (k : ℕ) (c : Connection) :
    Option Server :=
  match c.phase with
  | .openCallback _ _ =>
      some { s.setConnection k (c.goTo .panicked) with mixerLock := none }
  | _ => none

/-- The port of a receiver. -/
def portOf (s : Server) (h : ℕ) : UInt16 :=
  match s.receivers h with
  | some receiver => receiver.port
  | none => 0

/--
The connection acquires the lock of the table and does what it wants it for:
to insert the new stream, to take out a closed one and keep the lock, to take
out the stream of a lost connection, or to log the number of streams.
-/
def stepLockHandles (s : Server) (k : ℕ) (c : Connection) :
    Option Server :=
  match s.handlesLock, c.phase with
  | none, .openLockHandles id sel h =>
      some
        ((s.setHandle id (some h)).setConnection k
          (c.inserted id (.openRespond id sel (s.portOf h))))
  | none, .closeLockHandles id =>
      match s.handles id with
      | some h =>
          some
            { (s.setHandle id none).setConnection k
                (c.goTo (.closeStop id h)) with
              handlesLock := some k }
      | none =>
          some (s.setConnection k (c.goTo (.closeRespondNotFound id)))
  | none, .removeLockHandles id =>
      some
        ((s.setHandle id none).setConnection k (c.goTo .logLockHandles))
  | none, .logLockHandles => some (s.setConnection k (c.goTo .ended))
  | _, _ => none

/--
`h.stop().await.unwrap()`: sends a `Stop`, waits while one is waiting already,
and panics if the receiver has ended.
-/
def stepStop (s : Server) (k : ℕ) (c : Connection) : Option Server :=
  match c.phase with
  | .closeStop id h =>
      match s.receivers h with
      | some receiver =>
          if receiver.Running then
            if receiver.stopWaiting then
              none
            else
              some
                ((s.setReceiver h
                    { receiver with stopWaiting := true }).setConnection k
                  (c.goTo (.closeRespondOk id)))
          else
            some
              { s.setConnection k (c.goTo .panicked) with
                handlesLock := none }
      | none => none
  | _ => none

/--
The response was sent, or could not be.  A failed send is an error in the
arm of `OpenStream` and a panic in that of `CloseStream`.
-/
def stepRespond (s : Server) (k : ℕ) (c : Connection) (sent : Bool) :
    Option Server :=
  match c.phase, sent with
  | .openRespond id sel port, true =>
      some
        { s.setConnection k
            (c.answered (.openStream sel)
              (.stream id port s.bufferSize s.sampleRate)) with
          mixerLock := none }
  | .openRespond _ _ _, false =>
      some
        { s.setConnection k (c.goTo .logLockHandles) with
          mixerLock := none }
  | .closeRespondOk id, true =>
      some
        { s.setConnection k (c.answered (.closeStream id) .ok) with
          handlesLock := none }
  | .closeRespondOk _, false =>
      some
        { s.setConnection k (c.goTo .panicked) with handlesLock := none }
  | .closeRespondNotFound id, true =>
      some
        (s.setConnection k
          (c.answered (.closeStream id) (.error .streamIdNotFound)))
  | .closeRespondNotFound _, false =>
      some (s.setConnection k (c.goTo .panicked))
  | _, _ => none

/-- A datagram arrived; a malformed one ends the receiver. -/
def stepDatagram (s : Server) (h : ℕ) (receiver : ReceiverTask)
    (wellFormed : Bool) : Option Server :=
  match receiver.phase, wellFormed with
  | .receiving, true =>
      some (s.setReceiver h (receiver.goTo .lockingMixer))
  | .receiving, false => some (s.setReceiver h (receiver.goTo .ended))
  | _, _ => none

/-- The receiver acquires the mixer lock. -/
def stepReceiverLock (s : Server) (h : ℕ) (receiver : ReceiverTask) :
    Option Server :=
  match receiver.phase, s.mixerLock with
  | .lockingMixer, none =>
      some
        { s.setReceiver h (receiver.goTo .playing) with
          mixerLock := some (.receiver h) }
  | _, _ => none

/-- The packet was written; a failed assertion ends the receiver. -/
def stepPlayed (s : Server) (h : ℕ) (receiver : ReceiverTask)
    (accepted : Bool) : Option Server :=
  match receiver.phase with
  | .playing =>
      some
        { s.setReceiver h
            (receiver.goTo (if accepted then .receiving else .ended)) with
          mixerLock := none }
  | _ => none

/-- The receiver takes a waiting `Stop`, whatever it was waiting for. -/
def stepTakeStop (s : Server) (h : ℕ) (receiver : ReceiverTask) :
    Option Server :=
  if receiver.Running ∧ receiver.stopWaiting then
    some
      { s.setReceiver h
          { receiver with phase := .ended, stopWaiting := false } with
        mixerLock :=
          if receiver.phase = .playing then none else s.mixerLock }
  else
    none

/-- A step of the server. -/
def step (s : Server) : Action → Option Server
  | .accept k =>
      match s.connections k with
      | none => some (s.setConnection k .accepted)
      | some _ => none
  | .request k request newId => do
      s.stepRequest k (← s.connections k) request newId
  | .readError k => do s.stepReadError k (← s.connections k)
  | .lockMixer k => do s.stepLockMixer k (← s.connections k)
  | .callbackOk k h port => do
      s.stepCallbackOk k (← s.connections k) h port
  | .callbackError k _ => do s.stepCallbackError k (← s.connections k)
  | .lockHandles k => do s.stepLockHandles k (← s.connections k)
  | .stop k => do s.stepStop k (← s.connections k)
  | .respond k sent => do s.stepRespond k (← s.connections k) sent
  | .datagram h wellFormed => do
      s.stepDatagram h (← s.receivers h) wellFormed
  | .receiverLock h => do s.stepReceiverLock h (← s.receivers h)
  | .played h accepted => do s.stepPlayed h (← s.receivers h) accepted
  | .takeStop h => do s.stepTakeStop h (← s.receivers h)

end Server

/-! ## What a step can do -/

/-- The steps of the server, one rule for each branch of the code. -/
inductive Move (s : Server) : Action → Server → Prop where
  | accept {k : ℕ} (unused : s.connections k = none) :
      Move s (.accept k) (s.setConnection k .accepted)
  | requestOpen {k : ℕ} {c : Connection} {sel : MixerTrackSelector}
      {id : Uuid}
      (here : s.connections k = some c) (reading : c.phase = .reading)
      (fresh : id ∉ s.issued) :
      Move s (.request k (.openStream sel) id)
        { s.setConnection k (c.goTo (.openLockMixer id sel)) with
          issued := id :: s.issued }
  | requestClose {k : ℕ} {c : Connection} {id unused : Uuid}
      (here : s.connections k = some c) (reading : c.phase = .reading) :
      Move s (.request k (.closeStream id) unused)
        (s.setConnection k (c.goTo (.closeLockHandles id)))
  | readErrorCurrent {k : ℕ} {c : Connection} {id : Uuid}
      (here : s.connections k = some c) (reading : c.phase = .reading)
      (current : c.currentId = some id) :
      Move s (.readError k)
        (s.setConnection k (c.goTo (.removeLockHandles id)))
  | readErrorNone {k : ℕ} {c : Connection}
      (here : s.connections k = some c) (reading : c.phase = .reading)
      (current : c.currentId = none) :
      Move s (.readError k) (s.setConnection k (c.goTo .ended))
  | lockMixer {k : ℕ} {c : Connection} {id : Uuid}
      {sel : MixerTrackSelector}
      (here : s.connections k = some c)
      (waiting : c.phase = .openLockMixer id sel)
      (free : s.mixerLock = none) :
      Move s (.lockMixer k)
        { s.setConnection k (c.goTo (.openCallback id sel)) with
          mixerLock := some (.connection k) }
  | callbackOk {k h : ℕ} {port : UInt16} {c : Connection} {id : Uuid}
      {sel : MixerTrackSelector}
      (here : s.connections k = some c)
      (calling : c.phase = .openCallback id sel)
      (unused : s.receivers h = none) :
      Move s (.callbackOk k h port)
        ((s.setReceiver h (.spawned sel port)).setConnection k
          (c.goTo (.openLockHandles id sel h)))
  | callbackError {k : ℕ} {e : UdpServerHandleError} {c : Connection}
      {id : Uuid} {sel : MixerTrackSelector}
      (here : s.connections k = some c)
      (calling : c.phase = .openCallback id sel) :
      Move s (.callbackError k e)
        { s.setConnection k (c.goTo .panicked) with mixerLock := none }
  | insert {k h : ℕ} {c : Connection} {id : Uuid}
      {sel : MixerTrackSelector}
      (here : s.connections k = some c)
      (waiting : c.phase = .openLockHandles id sel h)
      (free : s.handlesLock = none) :
      Move s (.lockHandles k)
        ((s.setHandle id (some h)).setConnection k
          (c.inserted id (.openRespond id sel (s.portOf h))))
  | takeOut {k h : ℕ} {c : Connection} {id : Uuid}
      (here : s.connections k = some c)
      (waiting : c.phase = .closeLockHandles id)
      (free : s.handlesLock = none) (found : s.handles id = some h) :
      Move s (.lockHandles k)
        { (s.setHandle id none).setConnection k
            (c.goTo (.closeStop id h)) with
          handlesLock := some k }
  | notFound {k : ℕ} {c : Connection} {id : Uuid}
      (here : s.connections k = some c)
      (waiting : c.phase = .closeLockHandles id)
      (free : s.handlesLock = none) (missing : s.handles id = none) :
      Move s (.lockHandles k)
        (s.setConnection k (c.goTo (.closeRespondNotFound id)))
  | removeHandle {k : ℕ} {c : Connection} {id : Uuid}
      (here : s.connections k = some c)
      (waiting : c.phase = .removeLockHandles id)
      (free : s.handlesLock = none) :
      Move s (.lockHandles k)
        ((s.setHandle id none).setConnection k (c.goTo .logLockHandles))
  | log {k : ℕ} {c : Connection}
      (here : s.connections k = some c)
      (waiting : c.phase = .logLockHandles)
      (free : s.handlesLock = none) :
      Move s (.lockHandles k) (s.setConnection k (c.goTo .ended))
  | stopSent {k h : ℕ} {c : Connection} {id : Uuid}
      {receiver : ReceiverTask}
      (here : s.connections k = some c)
      (stopping : c.phase = .closeStop id h)
      (there : s.receivers h = some receiver)
      (running : receiver.Running) (room : receiver.stopWaiting = false) :
      Move s (.stop k)
        ((s.setReceiver h
            { receiver with stopWaiting := true }).setConnection k
          (c.goTo (.closeRespondOk id)))
  | stopPanic {k h : ℕ} {c : Connection} {id : Uuid}
      {receiver : ReceiverTask}
      (here : s.connections k = some c)
      (stopping : c.phase = .closeStop id h)
      (there : s.receivers h = some receiver)
      (gone : ¬ receiver.Running) :
      Move s (.stop k)
        { s.setConnection k (c.goTo .panicked) with handlesLock := none }
  | respondStream {k : ℕ} {c : Connection} {id : Uuid}
      {sel : MixerTrackSelector} {port : UInt16}
      (here : s.connections k = some c)
      (responding : c.phase = .openRespond id sel port) :
      Move s (.respond k true)
        { s.setConnection k
            (c.answered (.openStream sel)
              (.stream id port s.bufferSize s.sampleRate)) with
          mixerLock := none }
  | respondStreamFailed {k : ℕ} {c : Connection} {id : Uuid}
      {sel : MixerTrackSelector} {port : UInt16}
      (here : s.connections k = some c)
      (responding : c.phase = .openRespond id sel port) :
      Move s (.respond k false)
        { s.setConnection k (c.goTo .logLockHandles) with
          mixerLock := none }
  | respondOk {k : ℕ} {c : Connection} {id : Uuid}
      (here : s.connections k = some c)
      (responding : c.phase = .closeRespondOk id) :
      Move s (.respond k true)
        { s.setConnection k (c.answered (.closeStream id) .ok) with
          handlesLock := none }
  | respondOkFailed {k : ℕ} {c : Connection} {id : Uuid}
      (here : s.connections k = some c)
      (responding : c.phase = .closeRespondOk id) :
      Move s (.respond k false)
        { s.setConnection k (c.goTo .panicked) with handlesLock := none }
  | respondNotFound {k : ℕ} {c : Connection} {id : Uuid}
      (here : s.connections k = some c)
      (responding : c.phase = .closeRespondNotFound id) :
      Move s (.respond k true)
        (s.setConnection k
          (c.answered (.closeStream id) (.error .streamIdNotFound)))
  | respondNotFoundFailed {k : ℕ} {c : Connection} {id : Uuid}
      (here : s.connections k = some c)
      (responding : c.phase = .closeRespondNotFound id) :
      Move s (.respond k false) (s.setConnection k (c.goTo .panicked))
  | datagram {h : ℕ} {wellFormed : Bool} {receiver : ReceiverTask}
      (there : s.receivers h = some receiver)
      (receiving : receiver.phase = .receiving) :
      Move s (.datagram h wellFormed)
        (s.setReceiver h
          (receiver.goTo (if wellFormed then .lockingMixer else .ended)))
  | receiverLock {h : ℕ} {receiver : ReceiverTask}
      (there : s.receivers h = some receiver)
      (waiting : receiver.phase = .lockingMixer)
      (free : s.mixerLock = none) :
      Move s (.receiverLock h)
        { s.setReceiver h (receiver.goTo .playing) with
          mixerLock := some (.receiver h) }
  | played {h : ℕ} {accepted : Bool} {receiver : ReceiverTask}
      (there : s.receivers h = some receiver)
      (playing : receiver.phase = .playing) :
      Move s (.played h accepted)
        { s.setReceiver h
            (receiver.goTo (if accepted then .receiving else .ended)) with
          mixerLock := none }
  | takeStop {h : ℕ} {receiver : ReceiverTask}
      (there : s.receivers h = some receiver)
      (running : receiver.Running) (waiting : receiver.stopWaiting = true) :
      Move s (.takeStop h)
        { s.setReceiver h
            { receiver with phase := .ended, stopWaiting := false } with
          mixerLock :=
            if receiver.phase = .playing then none else s.mixerLock }

/-- Every step is one of the rules. -/
theorem Server.step_move
    {s next : Server} {action : Action}
    (enabled : s.step action = some next) :
    Move s action next := by
  cases action with
  | accept k =>
      simp only [step] at enabled
      split at enabled
      · next unused =>
          cases enabled
          exact .accept unused
      · cases enabled
  | request k request newId =>
      rcases Option.bind_eq_some_iff.mp enabled with ⟨c, here, enabled⟩
      simp only [stepRequest] at enabled
      split at enabled
      · next reading _ =>
          split at enabled
          · cases enabled
          · next fresh =>
              cases enabled
              exact .requestOpen here reading fresh
      · next reading _ =>
          cases enabled
          exact .requestClose here reading
      · cases enabled
  | readError k =>
      rcases Option.bind_eq_some_iff.mp enabled with ⟨c, here, enabled⟩
      simp only [stepReadError] at enabled
      split at enabled
      · next reading current =>
          cases enabled
          exact .readErrorCurrent here reading current
      · next reading current =>
          cases enabled
          exact .readErrorNone here reading current
      · cases enabled
  | lockMixer k =>
      rcases Option.bind_eq_some_iff.mp enabled with ⟨c, here, enabled⟩
      simp only [stepLockMixer] at enabled
      split at enabled
      · next waiting free =>
          cases enabled
          exact .lockMixer here waiting free
      · cases enabled
  | callbackOk k h port =>
      rcases Option.bind_eq_some_iff.mp enabled with ⟨c, here, enabled⟩
      simp only [stepCallbackOk] at enabled
      split at enabled
      · next calling unused =>
          cases enabled
          exact .callbackOk here calling unused
      · cases enabled
  | callbackError k e =>
      rcases Option.bind_eq_some_iff.mp enabled with ⟨c, here, enabled⟩
      simp only [stepCallbackError] at enabled
      split at enabled
      · next calling =>
          cases enabled
          exact .callbackError here calling
      · cases enabled
  | lockHandles k =>
      rcases Option.bind_eq_some_iff.mp enabled with ⟨c, here, enabled⟩
      simp only [stepLockHandles] at enabled
      split at enabled
      · next free waiting =>
          cases enabled
          exact .insert here waiting free
      · next free waiting =>
          split at enabled
          · next found =>
              cases enabled
              exact .takeOut here waiting free found
          · next missing =>
              cases enabled
              exact .notFound here waiting free missing
      · next free waiting =>
          cases enabled
          exact .removeHandle here waiting free
      · next free waiting =>
          cases enabled
          exact .log here waiting free
      · cases enabled
  | stop k =>
      rcases Option.bind_eq_some_iff.mp enabled with ⟨c, here, enabled⟩
      simp only [stepStop] at enabled
      split at enabled
      · next stopping =>
          split at enabled
          · next there =>
              split at enabled
              · next running =>
                  split at enabled
                  · cases enabled
                  · next room =>
                      cases enabled
                      exact
                        .stopSent here stopping there running
                          (Bool.eq_false_of_not_eq_true room)
              · next gone =>
                  cases enabled
                  exact .stopPanic here stopping there gone
          · cases enabled
      · cases enabled
  | respond k sent =>
      rcases Option.bind_eq_some_iff.mp enabled with ⟨c, here, enabled⟩
      simp only [stepRespond] at enabled
      split at enabled
      · next responding _ =>
          cases enabled
          exact .respondStream here responding
      · next responding _ =>
          cases enabled
          exact .respondStreamFailed here responding
      · next responding _ =>
          cases enabled
          exact .respondOk here responding
      · next responding _ =>
          cases enabled
          exact .respondOkFailed here responding
      · next responding _ =>
          cases enabled
          exact .respondNotFound here responding
      · next responding _ =>
          cases enabled
          exact .respondNotFoundFailed here responding
      · cases enabled
  | datagram h wellFormed =>
      rcases Option.bind_eq_some_iff.mp enabled with
        ⟨receiver, there, enabled⟩
      simp only [stepDatagram] at enabled
      split at enabled
      · next receiving _ =>
          cases enabled
          exact .datagram there receiving
      · next receiving _ =>
          cases enabled
          exact .datagram there receiving
      · cases enabled
  | receiverLock h =>
      rcases Option.bind_eq_some_iff.mp enabled with
        ⟨receiver, there, enabled⟩
      simp only [stepReceiverLock] at enabled
      split at enabled
      · next waiting free =>
          cases enabled
          exact .receiverLock there waiting free
      · cases enabled
  | played h accepted =>
      rcases Option.bind_eq_some_iff.mp enabled with
        ⟨receiver, there, enabled⟩
      simp only [stepPlayed] at enabled
      split at enabled
      · next playing =>
          cases enabled
          exact .played there playing
      · cases enabled
  | takeStop h =>
      rcases Option.bind_eq_some_iff.mp enabled with
        ⟨receiver, there, enabled⟩
      simp only [stepTakeStop] at enabled
      split at enabled
      · next ready =>
          cases enabled
          exact .takeStop there ready.1 ready.2
      · cases enabled

/-- A step of one connection changes what that connection stands for. -/
theorem phase_update
    {Value : Type} (valueAt : Phase → Option Value)
    {s next : Server} {k : ℕ} {c : Connection}
    (moved :
      next.connections = Function.update s.connections k (some c)) :
    (fun other =>
        (next.connections other).bind fun c => valueAt c.phase) =
      Function.update
        (fun other => (s.connections other).bind fun c => valueAt c.phase)
        k (valueAt c.phase) := by
  ext other
  by_cases here : other = k
  · subst here
    simp [moved]
  · simp [moved, here]

end Audiopipe.Control.ServerTasks
