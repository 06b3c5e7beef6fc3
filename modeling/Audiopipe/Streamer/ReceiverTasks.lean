import Audiopipe.Foundation.GuardedRuns
import Audiopipe.Streamer.ReceiveLoop

/-!
# Receiver tasks on one global mixer

`AudioReceiverHandle::new` spawns a task that selects between a stop command
and the receive loop of its stream.  All the loops write to one global mixer
behind one lock.  A loop takes the lock for a packet and keeps its guard to
the end of the match arm, and within it `write_to_mixer_async` locks a ring
for each sample.

The steps are what a task does from one await to the next.  A task may be
suspended at each of them, and a stop command that is selected there drops
the loop with its guard.  The global mixer has been set up, so `expect` does
not fail.
-/

namespace Audiopipe.Streamer.ReceiverTasks

open Audiopipe.Foundation.GuardedRuns
open Audiopipe.Foundation.BoundedQueues
open Audiopipe.Mixing.TrackSelector
open Audiopipe.Mixing.RingTransfer
open Audiopipe.Streamer.PacketFormat
open Audiopipe.Streamer.ReceiveLoop

variable {channelCount bufferSize : ℕ} {Task : Type}

/-! ## One task -/

/-- How the task of a stream ends. -/
inductive TaskEnd where
  | stopped
  | returned (e : UdpServerHandleError)
  | panicked
deriving DecidableEq, Repr

/-- The locals of the write of a packet between two of its iterations. -/
structure Writing (channelCount : ℕ) where
  cursor : TrackCursor channelCount
  rest : List F32
  length : ℕ

/-- The await at which a task is, or how it has ended. -/
inductive TaskPhase (channelCount : ℕ) where
  | receiving
  | lockingMixer (packet : AudioPacket)
  | writing (locals : Writing channelCount)
  | ended (result : TaskEnd)

/-- `handle_datagram(len, buf).await?` on what `recv_from` has put out. -/
def received (wire : WireFormat) (bytes : List UInt8) :
    TaskPhase channelCount :=
  match handleDatagram wire (recvFrom bytes).1 (recvFrom bytes).2 with
  | .ok packet => .lockingMixer packet
  | .error e => .ended (.returned e)

/-- The two assertions after the write. -/
def assertCounts (consumed dropped length : ℕ) : TaskPhase channelCount :=
  if consumed = length ∧ dropped = 0 then
    .receiving
  else
    .ended .panicked

/-- From the lock of the mixer to the first await of the write. -/
def mixerLocked
    (wire : WireFormat) (outputChannelSelector : MixerTrackSelector)
    (packet : AudioPacket) : TaskPhase channelCount :=
  match wire.tryCastSlice packet.payload with
  | none => .ended .panicked
  | some data =>
      match getChannel channelCount outputChannelSelector with
      | .ok track =>
          .writing
            { cursor := .start track outputChannelSelector.channelCount
              rest := data
              length := data.length }
      | .error _ => assertCounts 0 0 data.length

namespace TaskPhase

/-- The guard of the global mixer lives as long as the write. -/
def holdsMixer : TaskPhase channelCount → Bool
  | .writing _ => true
  | _ => false

/-- A stop is selected where the loop waits; its last sample ends a write. -/
def suspended : TaskPhase channelCount → Bool
  | .receiving => true
  | .lockingMixer _ => true
  | .writing locals => !locals.rest.isEmpty
  | .ended _ => false

end TaskPhase

theorem received_frameOf (left right : F32) :
    received bincodeWire (serialize (frameOf left right)) =
      (.lockingMixer (frameOf left right) : TaskPhase channelCount) := by
  have fits :
      (serialize (frameOf left right)).length ≤ receiveBufferSize := by
    rw [length_serialize]
    simp [frameOf, receiveBufferSize]
  rw [received, handleDatagram_serialize fits]

/-! ## All tasks -/

/-- Who holds the lock of the global mixer: a receiver task or others. -/
inductive LockHolder (Task : Type) where
  | task (h : Task)
  | other
deriving DecidableEq

/-- The receiver tasks and the global mixer with its lock. -/
structure Pool (Task : Type) (channelCount bufferSize : ℕ) where
  phases : Task → TaskPhase channelCount
  lock : Option (LockHolder Task)
  mixer : Mixer F32 channelCount bufferSize

inductive PoolAction (Task : Type) (channelCount : ℕ) where
  | datagram (h : Task) (bytes : List UInt8)
  | recvError (h : Task)
  | lockMixer (h : Task)
  | push (h : Task)
  | finish (h : Task)
  | stop (h : Task)
  | otherLock
  | otherUnlock
  | playout (c : Fin channelCount)

/-- The task that takes the step. -/
def taskOf : PoolAction Task channelCount → Option Task
  | .datagram h _ => some h
  | .recvError h => some h
  | .lockMixer h => some h
  | .push h => some h
  | .finish h => some h
  | .stop h => some h
  | .otherLock => none
  | .otherUnlock => none
  | .playout _ => none

/-- One iteration of a playout loop on the ring of channel `c`. -/
def playSample (mixer : Mixer F32 channelCount bufferSize)
    (c : Fin channelCount) : Mixer F32 channelCount bufferSize :=
  match (mixer.rings c).tryPop with
  | some (_, ring) => mixer.setRing c ring
  | none => mixer

namespace Pool

/-- Every loop waits for its first datagram. -/
def start (Task : Type) (mixer : Mixer F32 channelCount bufferSize) :
    Pool Task channelCount bufferSize where
  phases := fun _ => .receiving
  lock := none
  mixer := mixer

variable [DecidableEq Task]

/-- Task `h` comes to its next await. -/
def moveTo (s : Pool Task channelCount bufferSize) (h : Task)
    (phase : TaskPhase channelCount) : Pool Task channelCount bufferSize :=
  { s with phases := Function.update s.phases h phase }

@[simp]
theorem moveTo_phases_self (s : Pool Task channelCount bufferSize)
    (h : Task) (phase : TaskPhase channelCount) :
    (s.moveTo h phase).phases h = phase :=
  Function.update_self ..

theorem moveTo_phases_of_ne (s : Pool Task channelCount bufferSize)
    {h other : Task} (different : other ≠ h)
    (phase : TaskPhase channelCount) :
    (s.moveTo h phase).phases other = s.phases other :=
  Function.update_of_ne different ..

/-- Task `h` comes to its next await; where it ends the write, it unlocks. -/
def leaveTo (s : Pool Task channelCount bufferSize) (h : Task)
    (phase : TaskPhase channelCount) : Pool Task channelCount bufferSize :=
  { s.moveTo h phase with
    lock := if (s.phases h).holdsMixer then none else s.lock }

/-- The step of the tasks with the selectors `sels`. -/
def step
    (wire : WireFormat) (sels : Task → MixerTrackSelector)
    (s : Pool Task channelCount bufferSize) :
    PoolAction Task channelCount →
      Option (Pool Task channelCount bufferSize)
  | .datagram h bytes =>
      match s.phases h with
      | .receiving => some (s.moveTo h (received wire bytes))
      | _ => none
  | .recvError h =>
      match s.phases h with
      | .receiving => some s
      | _ => none
  | .lockMixer h =>
      match s.phases h, s.lock with
      | .lockingMixer packet, none =>
          let phase := mixerLocked wire (sels h) packet
          some
            { s.moveTo h phase with
              lock := if phase.holdsMixer then some (.task h) else none }
      | _, _ => none
  | .push h =>
      match s.phases h with
      | .writing ⟨cursor, o :: rest, length⟩ =>
          let next := writeSample cursor s.mixer o
          some
            { s.moveTo h (.writing ⟨next.1, rest, length⟩) with
              mixer := next.2 }
      | _ => none
  | .finish h =>
      match s.phases h with
      | .writing ⟨cursor, [], length⟩ =>
          some
            (s.leaveTo h
              (assertCounts cursor.consumed cursor.dropped length))
      | _ => none
  | .stop h =>
      if (s.phases h).suspended then
        some (s.leaveTo h (.ended .stopped))
      else
        none
  | .otherLock =>
      match s.lock with
      | none => some { s with lock := some .other }
      | some _ => none
  | .otherUnlock =>
      match s.lock with
      | some .other => some { s with lock := none }
      | _ => none
  | .playout c => some { s with mixer := playSample s.mixer c }

/-! ## What a step can do -/

/-- The steps of the tasks, one rule for each way in which one goes. -/
inductive Move
    (wire : WireFormat) (sels : Task → MixerTrackSelector)
    (s : Pool Task channelCount bufferSize) :
    PoolAction Task channelCount →
      Pool Task channelCount bufferSize → Prop where
  | received (h : Task) (bytes : List UInt8)
      (waiting : s.phases h = .receiving) :
      Move wire sels s (.datagram h bytes)
        (s.moveTo h (received wire bytes))
  | recvError (h : Task) (waiting : s.phases h = .receiving) :
      Move wire sels s (.recvError h) s
  | opened (h : Task) (packet : AudioPacket) (data : List F32)
      (track : MixerTrack (Fin channelCount))
      (waiting : s.phases h = .lockingMixer packet) (free : s.lock = none)
      (cast : wire.tryCastSlice packet.payload = some data)
      (resolved : getChannel channelCount (sels h) = .ok track) :
      Move wire sels s (.lockMixer h)
        { s.moveTo h
            (.writing
              { cursor := .start track (sels h).channelCount
                rest := data
                length := data.length }) with
          lock := some (.task h) }
  | unresolved (h : Task) (packet : AudioPacket) (data : List F32)
      (e : MixerError)
      (waiting : s.phases h = .lockingMixer packet) (free : s.lock = none)
      (cast : wire.tryCastSlice packet.payload = some data)
      (resolved : getChannel channelCount (sels h) = .error e) :
      Move wire sels s (.lockMixer h)
        (s.moveTo h (assertCounts 0 0 data.length))
  | uncast (h : Task) (packet : AudioPacket)
      (waiting : s.phases h = .lockingMixer packet) (free : s.lock = none)
      (cast : wire.tryCastSlice packet.payload = none) :
      Move wire sels s (.lockMixer h) (s.moveTo h (.ended .panicked))
  | pushed (h : Task) (cursor : TrackCursor channelCount)
      (o : F32) (rest : List F32) (length : ℕ)
      (writing : s.phases h = .writing ⟨cursor, o :: rest, length⟩) :
      Move wire sels s (.push h)
        { s.moveTo h
            (.writing ⟨(writeSample cursor s.mixer o).1, rest, length⟩) with
          mixer := (writeSample cursor s.mixer o).2 }
  | finished (h : Task) (cursor : TrackCursor channelCount) (length : ℕ)
      (writing : s.phases h = .writing ⟨cursor, [], length⟩) :
      Move wire sels s (.finish h)
        { s.moveTo h
            (assertCounts cursor.consumed cursor.dropped length) with
          lock := none }
  | stopped (h : Task) (waiting : (s.phases h).suspended = true)
      (outside : (s.phases h).holdsMixer = false) :
      Move wire sels s (.stop h) (s.moveTo h (.ended .stopped))
  | cancelled (h : Task) (cursor : TrackCursor channelCount)
      (o : F32) (rest : List F32) (length : ℕ)
      (writing : s.phases h = .writing ⟨cursor, o :: rest, length⟩) :
      Move wire sels s (.stop h)
        { s.moveTo h (.ended .stopped) with lock := none }
  | otherLocked (free : s.lock = none) :
      Move wire sels s .otherLock { s with lock := some .other }
  | otherUnlocked (held : s.lock = some .other) :
      Move wire sels s .otherUnlock { s with lock := none }
  | played (c : Fin channelCount) :
      Move wire sels s (.playout c)
        { s with mixer := playSample s.mixer c }

variable {wire : WireFormat} {sels : Task → MixerTrackSelector}
variable {s next : Pool Task channelCount bufferSize}

@[simp]
theorem assertCounts_holdsMixer (consumed dropped length : ℕ) :
    (assertCounts consumed dropped length :
      TaskPhase channelCount).holdsMixer = false := by
  unfold assertCounts
  split
  · rfl
  · rfl

theorem received_holdsMixer (wire : WireFormat) (bytes : List UInt8) :
    (ReceiverTasks.received wire bytes :
      TaskPhase channelCount).holdsMixer = false := by
  unfold ReceiverTasks.received
  split
  · rfl
  · rfl

/-- Every enabled step is one of the moves. -/
theorem step_move {action : PoolAction Task channelCount}
    (enabled : step wire sels s action = some next) :
    Move wire sels s action next := by
  cases action with
  | datagram h bytes =>
      simp only [step] at enabled
      split at enabled
      · next waiting =>
          cases enabled
          exact .received h bytes waiting
      · cases enabled
  | recvError h =>
      simp only [step] at enabled
      split at enabled
      · next waiting =>
          cases enabled
          exact .recvError h waiting
      · cases enabled
  | lockMixer h =>
      simp only [step] at enabled
      split at enabled
      · next packet waiting free =>
          cases cast : wire.tryCastSlice packet.payload with
          | none =>
              simp only [mixerLocked, cast] at enabled
              cases enabled
              rw [← free]
              exact .uncast h packet waiting free cast
          | some data =>
              cases resolved : getChannel channelCount (sels h) with
              | ok track =>
                  simp only [mixerLocked, cast, resolved] at enabled
                  cases enabled
                  exact .opened h packet data track waiting free cast resolved
              | error e =>
                  simp only [mixerLocked, cast, resolved,
                    assertCounts_holdsMixer] at enabled
                  cases enabled
                  have lockKept :
                      { s.moveTo h (assertCounts 0 0 data.length) with
                          lock := if false = true then some (.task h)
                            else none } =
                        s.moveTo h (assertCounts 0 0 data.length) := by
                    rw [if_neg Bool.false_ne_true, ← free]
                    rfl
                  rw [lockKept]
                  exact .unresolved h packet data e waiting free cast resolved
      · cases enabled
  | push h =>
      simp only [step] at enabled
      split at enabled
      · next cursor o rest length writing =>
          cases enabled
          exact .pushed h cursor o rest length writing
      · cases enabled
  | finish h =>
      simp only [step] at enabled
      split at enabled
      · next cursor length writing =>
          simp only [leaveTo, writing] at enabled
          cases enabled
          exact .finished h cursor length writing
      · cases enabled
  | stop h =>
      simp only [step] at enabled
      split at enabled
      · next waiting =>
          cases inside : (s.phases h).holdsMixer with
          | false =>
              simp only [leaveTo, inside] at enabled
              cases enabled
              exact .stopped h waiting inside
          | true =>
              simp only [leaveTo, inside] at enabled
              cases enabled
              cases writing : s.phases h with
              | writing locals =>
                  rcases locals with ⟨cursor, rest, length⟩
                  cases rest with
                  | nil => simp [writing, TaskPhase.suspended] at waiting
                  | cons o rest =>
                      exact .cancelled h cursor o rest length writing
              | receiving =>
                  simp [writing, TaskPhase.holdsMixer] at inside
              | lockingMixer packet =>
                  simp [writing, TaskPhase.holdsMixer] at inside
              | ended result =>
                  simp [writing, TaskPhase.holdsMixer] at inside
      · cases enabled
  | otherLock =>
      simp only [step] at enabled
      split at enabled
      · next free =>
          cases enabled
          exact .otherLocked free
      · cases enabled
  | otherUnlock =>
      simp only [step] at enabled
      split at enabled
      · next held =>
          cases enabled
          exact .otherUnlocked held
      · cases enabled
  | playout c =>
      simp only [step] at enabled
      cases enabled
      exact .played c

/-- An ended task takes no further step. -/
theorem taskOf_ne_of_ended
    {action : PoolAction Task channelCount}
    (move : Move wire sels s action next)
    {h : Task} {result : TaskEnd} (ended : s.phases h = .ended result) :
    taskOf action ≠ some h := by
  intro own
  cases move with
  | received h' bytes waiting =>
      cases own
      cases ended.symm.trans waiting
  | recvError h' waiting =>
      cases own
      cases ended.symm.trans waiting
  | opened h' packet data track waiting free cast resolved =>
      cases own
      cases ended.symm.trans waiting
  | unresolved h' packet data e waiting free cast resolved =>
      cases own
      cases ended.symm.trans waiting
  | uncast h' packet waiting free cast =>
      cases own
      cases ended.symm.trans waiting
  | pushed h' cursor o rest length writing =>
      cases own
      cases ended.symm.trans writing
  | finished h' cursor length writing =>
      cases own
      cases ended.symm.trans writing
  | stopped h' waiting outside =>
      cases own
      rw [ended] at waiting
      cases waiting
  | cancelled h' cursor o rest length writing =>
      cases own
      cases ended.symm.trans writing
  | otherLocked free => cases own
  | otherUnlocked held => cases own
  | played c => cases own

/-! ## A packet that nobody disturbs -/

/-- How a task goes on after a packet, by the status of the loop. -/
def phaseAfter : LoopStatus → TaskPhase channelCount
  | .running => .receiving
  | .returned e => .ended (.returned e)
  | .panicked => .ended .panicked

/-- A task that is left alone writes as the loop of the mixer does. -/
theorem pushes_writeSamples
    (s : Pool Task channelCount bufferSize) (h : Task)
    (cursor : TrackCursor channelCount) (rest : List F32) (length : ℕ)
    (writing : s.phases h = .writing ⟨cursor, rest, length⟩) :
    Run (step wire sels) s (List.replicate rest.length (.push h))
      { s.moveTo h
          (.writing ⟨(writeSamples cursor s.mixer rest).1, [], length⟩) with
        mixer := (writeSamples cursor s.mixer rest).2 } := by
  induction rest generalizing s cursor with
  | nil =>
      have unmoved :
          { s.moveTo h (.writing ⟨cursor, [], length⟩) with
              mixer := s.mixer } = s := by
        simp only [moveTo]
        rw [← writing, Function.update_eq_self]
      rw [writeSamples, unmoved]
      exact .done s
  | cons o rest induction =>
      let pushed : Pool Task channelCount bufferSize :=
        { s.moveTo h
            (.writing ⟨(writeSample cursor s.mixer o).1, rest, length⟩) with
          mixer := (writeSample cursor s.mixer o).2 }
      have stepped : step wire sels s (.push h) = some pushed := by
        simp only [step, writing]
        rfl
      have there :
          pushed.phases h =
            .writing ⟨(writeSample cursor s.mixer o).1, rest, length⟩ :=
        s.moveTo_phases_self h _
      have later :=
        induction pushed (writeSample cursor s.mixer o).1 there
      have overwritten :
          pushed.moveTo h
              (.writing
                ⟨(writeSamples (writeSample cursor s.mixer o).1
                    pushed.mixer rest).1, [], length⟩) =
            { s.moveTo h
                (.writing
                  ⟨(writeSamples cursor s.mixer (o :: rest)).1, [],
                    length⟩) with
              mixer := pushed.mixer } := by
        simp only [pushed, moveTo, Function.update_idem, writeSamples]
      rw [overwritten] at later
      exact .next trivial stepped later

/--
A task that is left alone with its packet does to the mixer, and goes on, as
the loop with whole packets does.
-/
theorem undisturbed_playPacket
    (s : Pool Task channelCount bufferSize) (h : Task)
    {packet : AudioPacket} {data : List F32}
    (waiting : s.phases h = .lockingMixer packet) (free : s.lock = none)
    (cast : wire.tryCastSlice packet.payload = some data)
    (inRange : (sels h).InRange channelCount) :
    Run (step wire sels) s
      (.lockMixer h ::
        (List.replicate data.length (.push h) ++ [.finish h]))
      { s.moveTo h
          (phaseAfter (playPacket wire (sels h) s.mixer packet).1) with
        mixer := (playPacket wire (sels h) s.mixer packet).2 } := by
  rcases (getChannel_isOk_iff (sels h)).mpr inRange with
    ⟨track, resolved⟩
  let cursor := TrackCursor.start track (sels h).channelCount
  let opened : Pool Task channelCount bufferSize :=
    { s.moveTo h (.writing ⟨cursor, data, data.length⟩) with
      lock := some (.task h) }
  have locked : step wire sels s (.lockMixer h) = some opened := by
    simp only [step, waiting, free, mixerLocked, cast, resolved]
    rfl
  have written :=
    @pushes_writeSamples _ _ _ _ wire sels opened h cursor data data.length
      (s.moveTo_phases_self h _)
  let final := writeSamples cursor s.mixer data
  have finished :
      step wire sels
          { opened.moveTo h (.writing ⟨final.1, [], data.length⟩) with
            mixer := final.2 } (.finish h) =
        some
          { s.moveTo h
              (assertCounts final.1.consumed final.1.dropped
                data.length) with
            mixer := final.2 } := by
    simp only [step, moveTo, leaveTo, opened, Function.update_self,
      Function.update_idem, TaskPhase.holdsMixer, if_true, ← free]
  have agreed :
      (assertCounts final.1.consumed final.1.dropped data.length :
          TaskPhase channelCount) =
        phaseAfter (playPacket wire (sels h) s.mixer packet).1 ∧
      final.2 = (playPacket wire (sels h) s.mixer packet).2 := by
    simp only [playPacket, cast, writeToMixerAsync, resolved]
    unfold assertCounts
    by_cases accepted :
        final.1.consumed = data.length ∧ final.1.dropped = 0
    · rw [if_pos accepted, if_pos accepted]
      exact ⟨rfl, rfl⟩
    · rw [if_neg accepted, if_neg accepted]
      exact ⟨rfl, rfl⟩
  rw [← agreed.1, ← agreed.2]
  exact
    .next trivial locked
      (written.append (.next trivial finished (.done _)))

end Pool

end Audiopipe.Streamer.ReceiverTasks
