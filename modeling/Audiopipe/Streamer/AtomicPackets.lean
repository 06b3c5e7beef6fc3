import Audiopipe.Foundation.Simulations
import Audiopipe.Streamer.ReceiverTasks

/-!
# Packets as single steps

The receive loop with whole packets, for any number of streams: a loop that
gets the lock writes its packet in one step.  The tasks with their awaits do
the same as these loops, and sound the same, unless a task is stopped in the
middle of a write or a sample is played from a ring that is empty, or too
full for what is left of a write to it.
-/

namespace Audiopipe.Streamer.AtomicPackets

open Audiopipe.Foundation.BoundedQueues
open Audiopipe.Foundation.GuardedRuns
open Audiopipe.Foundation.EventTraces
open Audiopipe.Foundation.Simulations
open Audiopipe.Mixing.TrackSelector
open Audiopipe.Mixing.RingTransfer
open Audiopipe.Mixing.TransferLaws
open Audiopipe.Streamer.PacketFormat
open Audiopipe.Streamer.ReceiveLoop
open Audiopipe.Streamer.ReceiverTasks

variable {channelCount bufferSize : ℕ} {Task : Type}

/-! ## Loops with whole packets -/

/-- Where the loops stand, and the mixer between two packets. -/
structure Loops (Task : Type) (channelCount bufferSize : ℕ) where
  phases : Task → TaskPhase channelCount
  mixer : Mixer F32 channelCount bufferSize

inductive LoopAction (Task : Type) (channelCount : ℕ) where
  | datagram (h : Task) (bytes : List UInt8)
  | recvError (h : Task)
  | play (h : Task)
  | stop (h : Task)
  | playout (c : Fin channelCount)

/-- What comes in at the sockets, what is stopped and what is heard. -/
inductive Event (Task : Type) (channelCount : ℕ) where
  | datagram (h : Task) (bytes : List UInt8)
  | recvError (h : Task)
  | stopped (h : Task)
  | heard (c : Fin channelCount) (v : F32)

/-- The locks, the samples of a write and its assertions show nothing. -/
def events (s : Pool Task channelCount bufferSize) :
    PoolAction Task channelCount → List (Event Task channelCount)
  | .datagram h bytes => [.datagram h bytes]
  | .recvError h => [.recvError h]
  | .stop h => [.stopped h]
  | .playout c => [.heard c (popOrSilence (s.mixer.rings c))]
  | _ => []

/-- What is left of a write for ring `c`. -/
def leftFor (c : Fin channelCount) (cursor : TrackCursor channelCount)
    (rest : List F32) : List F32 :=
  addressed cursor.track cursor.cycle cursor.ch c rest

/--
A sample may be played from ring `c` in the middle of the write: nothing is
left of the write for this ring, or it is not empty and has room for all that
is left.
-/
def Harmless (c : Fin channelCount) (cursor : TrackCursor channelCount)
    (mixer : Mixer F32 channelCount bufferSize) (rest : List F32) : Prop :=
  leftFor c cursor rest ≠ [] →
    ¬ (mixer.rings c).IsEmpty ∧
      (mixer.rings c).contents.length + (leftFor c cursor rest).length ≤
        bufferSize

/-- No step gets in the way of a write that is under way. -/
def Undisturbed (s : Pool Task channelCount bufferSize) :
    PoolAction Task channelCount → Prop
  | .playout c =>
      ∀ h locals, s.phases h = .writing locals →
        Harmless c locals.cursor s.mixer locals.rest
  | .stop h => (s.phases h).holdsMixer = false
  | _ => True

/-- The steps of a packet show nothing, and they are allowed anywhere. -/
theorem packet_unseen
    (s : Pool Task channelCount bufferSize) (h : Task) (length : ℕ)
    {action : PoolAction Task channelCount}
    (member :
      action ∈
        .lockMixer h ::
          (List.replicate length (.push h) ++ [.finish h])) :
    Undisturbed s action ∧ events s action = [] := by
  rcases List.mem_cons.mp member with rfl | member
  · exact ⟨trivial, rfl⟩
  · rcases List.mem_append.mp member with pushed | finished
    · cases List.eq_of_mem_replicate pushed
      exact ⟨trivial, rfl⟩
    · cases List.mem_singleton.mp finished
      exact ⟨trivial, rfl⟩

namespace Loops

/-- A packet that is played shows nothing either. -/
def events (loops : Loops Task channelCount bufferSize) :
    LoopAction Task channelCount → List (Event Task channelCount)
  | .datagram h bytes => [.datagram h bytes]
  | .recvError h => [.recvError h]
  | .play _ => []
  | .stop h => [.stopped h]
  | .playout c => [.heard c (popOrSilence (loops.mixer.rings c))]

def start (Task : Type) (mixer : Mixer F32 channelCount bufferSize) :
    Loops Task channelCount bufferSize where
  phases := fun _ => .receiving
  mixer := mixer

/-- The loops between two packets of a pool. -/
def ofPool (s : Pool Task channelCount bufferSize) :
    Loops Task channelCount bufferSize where
  phases := s.phases
  mixer := s.mixer

/-- The tasks in between, with nobody in the lock. -/
def toPool (loops : Loops Task channelCount bufferSize) :
    Pool Task channelCount bufferSize where
  phases := loops.phases
  lock := none
  mixer := loops.mixer

variable [DecidableEq Task]

/-- The tasks, with the write of task `h` done to its end. -/
def afterWrite (s : Pool Task channelCount bufferSize) (h : Task)
    (locals : Writing channelCount) :
    Loops Task channelCount bufferSize :=
  let final := writeSamples locals.cursor s.mixer locals.rest
  { phases :=
      Function.update s.phases h
        (assertCounts final.1.consumed final.1.dropped locals.length)
    mixer := final.2 }

def moveTo (loops : Loops Task channelCount bufferSize) (h : Task)
    (phase : TaskPhase channelCount) :
    Loops Task channelCount bufferSize :=
  { loops with phases := Function.update loops.phases h phase }

/-- The step of the loops with the selectors `sels`. -/
def step
    (wire : WireFormat) (sels : Task → MixerTrackSelector)
    (loops : Loops Task channelCount bufferSize) :
    LoopAction Task channelCount →
      Option (Loops Task channelCount bufferSize)
  | .datagram h bytes =>
      match loops.phases h with
      | .receiving => some (loops.moveTo h (received wire bytes))
      | _ => none
  | .recvError h =>
      match loops.phases h with
      | .receiving => some loops
      | _ => none
  | .stop h =>
      if (loops.phases h).suspended then
        some (loops.moveTo h (.ended .stopped))
      else
        none
  | .playout c =>
      some { loops with mixer := playSample loops.mixer c }
  | .play h =>
      match loops.phases h with
      | .lockingMixer packet =>
          let played := playPacket wire (sels h) loops.mixer packet
          some
            { loops.moveTo h (Pool.phaseAfter played.1) with
              mixer := played.2 }
      | _ => none

end Loops

variable [DecidableEq Task]
variable {wire : WireFormat} {sels : Task → MixerTrackSelector}
variable {s next : Pool Task channelCount bufferSize}
variable {loops : Loops Task channelCount bufferSize}

/-! ## Playing in the middle of a write -/

theorem leftFor_cons
    (c : Fin channelCount) (cursor : TrackCursor channelCount)
    (mixer : Mixer F32 channelCount bufferSize) (o : F32)
    (rest : List F32) :
    leftFor c cursor (o :: rest) =
      if cursor.channel = c then
        o :: leftFor c (writeSample cursor mixer o).1 rest
      else
        leftFor c (writeSample cursor mixer o).1 rest := by
  rcases writeSample_cursor cursor mixer o with
    ⟨sameTrack, sameCycle, nextCounter⟩
  simp only [leftFor, sameTrack, sameCycle, nextCounter]
  rfl

theorem playSample_of_some
    {c : Fin channelCount} {mixer : Mixer F32 channelCount bufferSize}
    {v : F32} {ring : BoundedFifo F32 bufferSize}
    (popped : (mixer.rings c).tryPop = some (v, ring)) :
    playSample mixer c = mixer.setRing c ring := by
  simp only [playSample, popped]

/-- Samples for other rings do not care what is played. -/
theorem writeSample_elsewhere
    {c : Fin channelCount} {cursor : TrackCursor channelCount}
    (elsewhere : cursor.channel ≠ c)
    (mixer : Mixer F32 channelCount bufferSize) (o : F32) :
    writeSample cursor (playSample mixer c) o =
      ((writeSample cursor mixer o).1,
        playSample (writeSample cursor mixer o).2 c) := by
  have sameRing :
      (writeSample cursor mixer o).2.rings c = mixer.rings c := by
    rw [writeSample_rings, if_neg elsewhere]
  cases popped : (mixer.rings c).tryPop with
  | none => simp only [playSample, sameRing, popped]
  | some taken =>
      rcases taken with ⟨v, played⟩
      rw [playSample_of_some popped,
        playSample_of_some (sameRing.symm ▸ popped)]
      simp only [writeSample, mixer.setRing_rings_of_ne elsewhere]
      cases (mixer.rings cursor.channel).tryPush o with
      | none => rfl
      | some ring =>
          simp only [Mixer.setRing, Function.update_comm elsewhere]

/-- A sample for the ring itself goes behind the one that is played. -/
theorem writeSample_behind
    (cursor : TrackCursor channelCount)
    {mixer : Mixer F32 channelCount bufferSize}
    (nonempty : ¬ (mixer.rings cursor.channel).IsEmpty)
    (room : ¬ (mixer.rings cursor.channel).IsFull) (o : F32) :
    writeSample cursor (playSample mixer cursor.channel) o =
      ((writeSample cursor mixer o).1,
        playSample (writeSample cursor mixer o).2 cursor.channel) := by
  cases popped : (mixer.rings cursor.channel).tryPop with
  | none =>
      exact
        (nonempty ((BoundedFifo.tryPop_eq_none_iff _).mp popped)).elim
  | some taken =>
      rcases taken with ⟨oldest, ring⟩
      rcases BoundedFifo.tryPush_tryPop popped room o with
        ⟨pushed, both, pushes, popsThen, pushesThen⟩
      rw [playSample_of_some popped]
      simp only [writeSample, playSample, pushes,
        Mixer.setRing_rings_self, pushesThen, popsThen]
      simp only [Mixer.setRing, Function.update_idem]

/-- Where the next sample is for the ring, it has its room there. -/
theorem Harmless.head
    {cursor : TrackCursor channelCount}
    {mixer : Mixer F32 channelCount bufferSize} {o : F32}
    {rest : List F32}
    (harmless : Harmless cursor.channel cursor mixer (o :: rest)) :
    ¬ (mixer.rings cursor.channel).IsEmpty ∧
      ¬ (mixer.rings cursor.channel).IsFull ∧
      (mixer.rings cursor.channel).contents.length + 1 +
          (leftFor cursor.channel (writeSample cursor mixer o).1
            rest).length ≤
        bufferSize := by
  have left :
      leftFor cursor.channel cursor (o :: rest) =
        o :: leftFor cursor.channel (writeSample cursor mixer o).1
          rest := by
    rw [leftFor_cons _ cursor mixer, if_pos rfl]
  rcases harmless (by rw [left]; exact List.cons_ne_nil _ _) with
    ⟨nonempty, fits⟩
  rw [left, List.length_cons] at fits
  refine ⟨nonempty, ?_, by omega⟩
  intro full
  unfold BoundedFifo.IsFull at full
  omega

/-- What is harmless before a sample of the write is so after it. -/
theorem Harmless.pushed
    {c : Fin channelCount} {cursor : TrackCursor channelCount}
    {mixer : Mixer F32 channelCount bufferSize} {o : F32}
    {rest : List F32}
    (harmless : Harmless c cursor mixer (o :: rest)) :
    Harmless c (writeSample cursor mixer o).1
      (writeSample cursor mixer o).2 rest := by
  intro left
  by_cases here : cursor.channel = c
  · subst here
    rcases harmless.head with ⟨nonempty, room, fits⟩
    rw [writeSample_rings, if_pos rfl]
    cases pushed : (mixer.rings cursor.channel).tryPush o with
    | none =>
        exact
          (room ((BoundedFifo.tryPush_eq_none_iff _ o).mp pushed)).elim
    | some ring =>
        have longer := (BoundedFifo.tryPush_eq_some pushed).1
        rw [BoundedFifo.offer_of_some pushed]
        refine ⟨?_, ?_⟩
        · simp [BoundedFifo.IsEmpty, longer]
        · rw [longer, List.length_append, List.length_singleton]
          exact fits
  · rw [writeSample_rings, if_neg here]
    unfold Harmless at harmless
    rw [leftFor_cons c cursor mixer, if_neg here] at harmless
    exact harmless left

/-- A harmless playout may as well wait for the end of the write. -/
theorem Harmless.writeSamples_playSample
    {c : Fin channelCount} {cursor : TrackCursor channelCount}
    {mixer : Mixer F32 channelCount bufferSize} {rest : List F32}
    (harmless : Harmless c cursor mixer rest) :
    writeSamples cursor (playSample mixer c) rest =
      ((writeSamples cursor mixer rest).1,
        playSample (writeSamples cursor mixer rest).2 c) := by
  induction rest generalizing cursor mixer with
  | nil => rfl
  | cons o rest induction =>
      have swapped :
          writeSample cursor (playSample mixer c) o =
            ((writeSample cursor mixer o).1,
              playSample (writeSample cursor mixer o).2 c) := by
        by_cases here : cursor.channel = c
        · subst here
          rcases harmless.head with ⟨nonempty, room, _⟩
          exact writeSample_behind cursor nonempty room o
        · exact writeSample_elsewhere here mixer o
      rw [writeSamples, swapped]
      exact induction harmless.pushed

/-- What is heard is what would be heard after the write. -/
theorem Harmless.heard
    {c : Fin channelCount} {cursor : TrackCursor channelCount}
    {mixer : Mixer F32 channelCount bufferSize} {rest : List F32}
    (harmless : Harmless c cursor mixer rest) :
    popOrSilence ((writeSamples cursor mixer rest).2.rings c) =
      popOrSilence (mixer.rings c) := by
  rw [writeSamples_rings, popOrSilence_eq, popOrSilence_eq]
  by_cases done : leftFor c cursor rest = []
  · rw [leftFor] at done
    rw [done, BoundedFifo.offerAll_nil]
  · rcases harmless done with ⟨nonempty, fits⟩
    have inside : 0 < (mixer.rings c).contents.length :=
      List.length_pos_iff.mpr nonempty
    have whole :
        ((mixer.rings c).contents ++ leftFor c cursor rest).length ≤
          bufferSize := by
      rwa [List.length_append]
    rw [leftFor] at whole
    rw [BoundedFifo.offerAll_contents, List.take_of_length_le whole,
      List.getElem?_append_left inside]

/-- A playout takes the first sample of its ring, if there is one. -/
theorem playSample_contents
    (mixer : Mixer F32 channelCount bufferSize) (c : Fin channelCount) :
    ((playSample mixer c).rings c).contents =
      (mixer.rings c).contents.tail := by
  cases popped : (mixer.rings c).tryPop with
  | none =>
      have empty : (mixer.rings c).contents = [] :=
        (BoundedFifo.tryPop_eq_none_iff _).mp popped
      simp only [playSample, popped, empty, List.tail_nil]
  | some taken =>
      rcases taken with ⟨v, ring⟩
      rw [playSample_of_some popped, Mixer.setRing_rings_self,
        BoundedFifo.tryPop_eq_some popped, List.tail_cons]

/--
Exactly a harmless playout may wait: one from an empty ring would find a
sample of the write, and one from a ring that is too full makes room for one.
-/
theorem harmless_iff
    (positive : 0 < bufferSize) (c : Fin channelCount)
    (cursor : TrackCursor channelCount)
    (mixer : Mixer F32 channelCount bufferSize) (rest : List F32) :
    Harmless c cursor mixer rest ↔
      writeSamples cursor (playSample mixer c) rest =
        ((writeSamples cursor mixer rest).1,
          playSample (writeSamples cursor mixer rest).2 c) := by
  refine ⟨Harmless.writeSamples_playSample, fun same => ?_⟩
  have sameRing :
      ((mixer.rings c).contents.tail ++ leftFor c cursor rest).take
          bufferSize =
        (((mixer.rings c).contents ++ leftFor c cursor rest).take
          bufferSize).tail := by
    have finished := congrArg (fun final => (final.2.rings c).contents) same
    simp only [writeSamples_rings, BoundedFifo.offerAll_contents,
      playSample_contents] at finished
    exact finished
  have sameLength := congrArg List.length sameRing
  intro left
  have someLeft := List.length_pos_iff.mpr left
  simp only [List.length_take, List.length_append, List.length_tail]
    at sameLength
  have nonempty : (mixer.rings c).contents ≠ [] := by
    intro empty
    rw [empty, List.length_nil] at sameLength
    omega
  have inside := List.length_pos_iff.mpr nonempty
  exact ⟨nonempty, by omega⟩

/-- From an empty ring, the first sample of the write would be played. -/
theorem harmless_iff_emptyRing :
    let cursor := TrackCursor.start (.stereo (0 : Fin 2) 1) 2
    let mixer := emptyMixer F32 2 2 44100
    writeSamples cursor (playSample mixer 0) [⟨1⟩, ⟨2⟩] ≠
      ((writeSamples cursor mixer [⟨1⟩, ⟨2⟩]).1,
        playSample (writeSamples cursor mixer [⟨1⟩, ⟨2⟩]).2 0) := by
  intro cursor mixer same
  have harmless : Harmless 0 cursor mixer [⟨1⟩, ⟨2⟩] :=
    (harmless_iff (by decide) 0 cursor mixer _).mpr same
  have left : leftFor 0 cursor [⟨1⟩, ⟨2⟩] ≠ [] := by decide
  exact (harmless left).1 rfl

/-! ## From the tasks to the loops -/

/--
The loops stand where the tasks will once nobody is in a write: for a task
in a write, the rest of it has been done already.
-/
inductive Covers (s : Pool Task channelCount bufferSize) :
    Loops Task channelCount bufferSize → Prop where
  | between (outside : ∀ h, (s.phases h).holdsMixer = false) :
      Covers s (.ofPool s)
  | within (h : Task) (locals : Writing channelCount)
      (writing : s.phases h = .writing locals)
      (held : s.lock = some (.task h))
      (alone : ∀ other, (s.phases other).holdsMixer = true → other = h) :
      Covers s (.afterWrite s h locals)

/-- After a packet the loop is in no write. -/
theorem phaseAfter_holdsMixer (status : LoopStatus) :
    (Pool.phaseAfter status : TaskPhase channelCount).holdsMixer =
      false := by
  cases status with
  | running => rfl
  | returned e => rfl
  | panicked => rfl

/-- The counts of a write decide how the loop goes on. -/
theorem phaseAfter_accepted (consumed dropped length : ℕ) :
    (Pool.phaseAfter
        (if consumed = length ∧ dropped = 0 then .running else .panicked) :
      TaskPhase channelCount) =
      assertCounts consumed dropped length := by
  unfold assertCounts
  split
  · rfl
  · rfl

theorem playPacket_resolved
    {sel : MixerTrackSelector} {packet : AudioPacket} {data : List F32}
    {track : MixerTrack (Fin channelCount)}
    (cast : wire.tryCastSlice packet.payload = some data)
    (resolved : getChannel channelCount sel = .ok track)
    (mixer : Mixer F32 channelCount bufferSize) :
    let final := writeSamples (.start track sel.channelCount) mixer data
    Pool.phaseAfter (playPacket wire sel mixer packet).1 =
        (assertCounts final.1.consumed final.1.dropped data.length :
          TaskPhase channelCount) ∧
      (playPacket wire sel mixer packet).2 = final.2 := by
  intro final
  rw [← phaseAfter_accepted]
  simp only [playPacket, cast, writeToMixerAsync, resolved]
  by_cases accepted :
      final.1.consumed = data.length ∧ final.1.dropped = 0
  · rw [if_pos accepted, if_pos accepted]
    exact ⟨rfl, rfl⟩
  · rw [if_neg accepted, if_neg accepted]
    exact ⟨rfl, rfl⟩

theorem playPacket_unresolved
    {sel : MixerTrackSelector} {packet : AudioPacket} {data : List F32}
    {e : MixerError}
    (cast : wire.tryCastSlice packet.payload = some data)
    (resolved : getChannel channelCount sel = .error e)
    (mixer : Mixer F32 channelCount bufferSize) :
    Pool.phaseAfter (playPacket wire sel mixer packet).1 =
        (assertCounts 0 0 data.length : TaskPhase channelCount) ∧
      (playPacket wire sel mixer packet).2 = mixer := by
  rw [← phaseAfter_accepted]
  simp only [playPacket, cast, writeToMixerAsync, resolved]
  by_cases empty : 0 = data.length
  · simp only [if_pos, empty, and_self]
  · simp only [if_neg, empty, false_and, not_false_eq_true, and_self]

theorem playPacket_uncast
    {packet : AudioPacket}
    (cast : wire.tryCastSlice packet.payload = none)
    (sel : MixerTrackSelector)
    (mixer : Mixer F32 channelCount bufferSize) :
    playPacket wire sel mixer packet = (.panicked, mixer) := by
  simp only [playPacket, cast]

/-- Outside of all writes, a task that leaves its await stays outside. -/
theorem outside_moved
    (outside : ∀ h, (s.phases h).holdsMixer = false) (h : Task)
    {phase : TaskPhase channelCount}
    (stillOutside : phase.holdsMixer = false) (other : Task) :
    ((s.moveTo h phase).phases other).holdsMixer = false := by
  by_cases same : other = h
  · rw [same, s.moveTo_phases_self]
    exact stillOutside
  · rw [s.moveTo_phases_of_ne same]
    exact outside other

/-- The only task in a write stays the only one where it goes on. -/
theorem alone_moved {h : Task}
    (alone : ∀ other, (s.phases other).holdsMixer = true → other = h)
    (phase : TaskPhase channelCount) (other : Task)
    (inside : ((s.moveTo h phase).phases other).holdsMixer = true) :
    other = h := by
  by_contra different
  rw [s.moveTo_phases_of_ne different] at inside
  exact different (alone other inside)

/-- A task outside of its writes is where its loop is. -/
theorem Covers.phases_eq
    (covers : Covers s loops) {h : Task}
    (outside : (s.phases h).holdsMixer = false) :
    loops.phases h = s.phases h := by
  cases covers with
  | between _ => rfl
  | within writer locals writing held alone =>
      refine Function.update_of_ne ?_ ..
      rintro rfl
      rw [writing] at outside
      cases outside

/-- A step outside of all writes is one of the loop as well. -/
theorem Covers.moved {h : Task} {phase : TaskPhase channelCount}
    (covers : Covers s loops)
    (outside : (s.phases h).holdsMixer = false)
    (stillOutside : phase.holdsMixer = false) :
    Covers (s.moveTo h phase) (loops.moveTo h phase) := by
  cases covers with
  | between allOutside =>
      exact .between (outside_moved allOutside h stillOutside)
  | within writer locals writing held alone =>
      have different : writer ≠ h := by
        rintro rfl
        rw [writing] at outside
        cases outside
      have commuted :
          (Loops.afterWrite s writer locals).moveTo h phase =
            .afterWrite (s.moveTo h phase) writer locals := by
        simp only [Loops.afterWrite, Loops.moveTo, Pool.moveTo,
          Function.update_comm different]
      rw [commuted]
      refine
        .within writer locals
          ((s.moveTo_phases_of_ne different phase).trans writing) held ?_
      intro other inside
      by_cases same : other = h
      · subst same
        rw [s.moveTo_phases_self, stillOutside] at inside
        cases inside
      · rw [s.moveTo_phases_of_ne same] at inside
        exact alone other inside

/-- Where no task has the lock, no task is in a write. -/
theorem Covers.of_unheld
    (covers : Covers s loops)
    (unheld : ∀ h, s.lock ≠ some (.task h)) :
    loops = .ofPool s ∧ ∀ h, (s.phases h).holdsMixer = false := by
  cases covers with
  | between outside => exact ⟨rfl, outside⟩
  | within h locals writing held alone =>
      exact (unheld h held).elim

/-- The loop of the task that writes has written. -/
theorem Covers.of_writing
    (covers : Covers s loops) {h : Task} {locals : Writing channelCount}
    (writing : s.phases h = .writing locals) :
    loops = .afterWrite s h locals ∧ s.lock = some (.task h) ∧
      ∀ other, (s.phases other).holdsMixer = true → other = h := by
  have inside : (s.phases h).holdsMixer = true := by
    rw [writing]
    rfl
  cases covers with
  | between outside =>
      rw [outside h] at inside
      cases inside
  | within writer locals' writing' held alone =>
      cases alone h inside
      rw [writing] at writing'
      cases writing'
      exact ⟨rfl, held, alone⟩

/-- With nobody in a write, the loops stand exactly where the tasks do. -/
theorem Covers.of_outside
    (covers : Covers s loops)
    (outside : ∀ h, (s.phases h).holdsMixer = false) :
    loops = .ofPool s := by
  cases covers with
  | between _ => rfl
  | within h locals writing held alone =>
      have free := outside h
      rw [writing] at free
      cases free

/-- The loop does at once what the task does between two awaits. -/
theorem Covers.taken
    (covers : Covers s loops) {h : Task}
    (outside : (s.phases h).holdsMixer = false)
    {phase : TaskPhase channelCount}
    (stillOutside : phase.holdsMixer = false)
    {action : LoopAction Task channelCount}
    (takes :
      loops.phases h = s.phases h →
        Loops.step wire sels loops action = some (loops.moveTo h phase)) :
    Matches (Loops.step wire sels) (fun _ _ => True) Loops.events loops
      (loops.events action) (Covers (s.moveTo h phase)) :=
  .single trivial (takes (covers.phases_eq outside)) rfl
    (covers.moved outside stillOutside)

/-- Where nobody is in a write, a loop plays its packet at once. -/
theorem plays_between
    {h : Task} {packet : AudioPacket}
    (waiting : s.phases h = .lockingMixer packet)
    {phase : TaskPhase channelCount}
    {mixer : Mixer F32 channelCount bufferSize}
    (played :
      Pool.phaseAfter (playPacket wire (sels h) s.mixer packet).1 = phase ∧
        (playPacket wire (sels h) s.mixer packet).2 = mixer)
    (covered :
      Covers next ⟨Function.update s.phases h phase, mixer⟩) :
    Matches (Loops.step wire sels) (fun _ _ => True) Loops.events
      (.ofPool s) [] (Covers next) := by
  have stepped :
      Loops.step wire sels (.ofPool s) (.play h) =
        some ⟨Function.update s.phases h phase, mixer⟩ := by
    simp only [Loops.step, Loops.ofPool, waiting, played]
    rfl
  exact .single trivial stepped rfl covered

/-- When a task takes the lock, its loop plays the packet as a whole. -/
theorem Covers.opened
    (outside : ∀ h, (s.phases h).holdsMixer = false) (h : Task)
    (track : MixerTrack (Fin channelCount)) (cycle : ℕ)
    (data : List F32) :
    let final := writeSamples (.start track cycle) s.mixer data
    Covers
      { s.moveTo h
          (.writing ⟨.start track cycle, data, data.length⟩) with
        lock := some (.task h) }
      ⟨Function.update s.phases h
          (assertCounts final.1.consumed final.1.dropped data.length),
        final.2⟩ := by
  intro final
  let locals : Writing channelCount :=
    ⟨.start track cycle, data, data.length⟩
  let opened : Pool Task channelCount bufferSize :=
    { s.moveTo h (.writing locals) with lock := some (.task h) }
  have written :
      Loops.afterWrite opened h locals =
        ⟨Function.update s.phases h
            (assertCounts final.1.consumed final.1.dropped data.length),
          final.2⟩ := by
    simp only [Loops.afterWrite, opened, Pool.moveTo, Function.update_idem]
    rfl
  rw [← written]
  refine .within h locals (s.moveTo_phases_self h _) rfl ?_
  refine alone_moved (fun other inside => ?_) (.writing locals)
  rw [outside other] at inside
  cases inside

/-- What the loop has written does not change with the samples. -/
theorem Covers.pushed
    (covers : Covers s loops) {h : Task}
    {cursor : TrackCursor channelCount} {o : F32} {rest : List F32}
    {length : ℕ}
    (writing : s.phases h = .writing ⟨cursor, o :: rest, length⟩) :
    Covers
      { s.moveTo h
          (.writing ⟨(writeSample cursor s.mixer o).1, rest, length⟩) with
        mixer := (writeSample cursor s.mixer o).2 }
      loops := by
  rcases covers.of_writing writing with ⟨rfl, held, alone⟩
  let locals : Writing channelCount :=
    ⟨(writeSample cursor s.mixer o).1, rest, length⟩
  let pushed : Pool Task channelCount bufferSize :=
    { s.moveTo h (.writing locals) with
      mixer := (writeSample cursor s.mixer o).2 }
  have same :
      Loops.afterWrite s h ⟨cursor, o :: rest, length⟩ =
        .afterWrite pushed h locals := by
    simp only [Loops.afterWrite, pushed, Pool.moveTo, Function.update_idem]
    rfl
  rw [same]
  exact
    .within h locals (s.moveTo_phases_self h _) held
      (alone_moved alone (.writing locals))

/-- At the end of its write, the task is where its loop has been. -/
theorem Covers.finished
    (covers : Covers s loops) {h : Task}
    {cursor : TrackCursor channelCount} {length : ℕ}
    (writing : s.phases h = .writing ⟨cursor, [], length⟩) :
    Covers
      { s.moveTo h
          (assertCounts cursor.consumed cursor.dropped length) with
        lock := none }
      loops := by
  rcases covers.of_writing writing with ⟨rfl, held, alone⟩
  let finished : Pool Task channelCount bufferSize :=
    { s.moveTo h (assertCounts cursor.consumed cursor.dropped length) with
      lock := none }
  have same :
      Loops.afterWrite s h ⟨cursor, [], length⟩ = .ofPool finished :=
    rfl
  rw [same]
  refine .between fun other => ?_
  by_cases own : other = h
  · subst own
    exact
      (congrArg TaskPhase.holdsMixer (s.moveTo_phases_self other _)).trans
        (Pool.assertCounts_holdsMixer ..)
  · have elsewhere := s.moveTo_phases_of_ne own
      (assertCounts cursor.consumed cursor.dropped length)
    cases inside : (s.phases other).holdsMixer with
    | false =>
        exact (congrArg TaskPhase.holdsMixer elsewhere).trans inside
    | true => exact absurd (alone other inside) own

/-- What is harmless for the tasks sounds the same from the loops. -/
theorem Covers.played
    (covers : Covers s loops) {c : Fin channelCount}
    (undisturbed : Undisturbed s (.playout c)) :
    popOrSilence (loops.mixer.rings c) = popOrSilence (s.mixer.rings c) ∧
      Covers { s with mixer := playSample s.mixer c }
        { loops with mixer := playSample loops.mixer c } := by
  cases covers with
  | between outside => exact ⟨rfl, .between outside⟩
  | within h locals writing held alone =>
      have harmless := undisturbed h locals writing
      have same :
          { Loops.afterWrite s h locals with
              mixer :=
                playSample (Loops.afterWrite s h locals).mixer c } =
            Loops.afterWrite { s with mixer := playSample s.mixer c } h
              locals := by
        simp only [Loops.afterWrite, harmless.writeSamples_playSample]
      rw [same]
      exact ⟨harmless.heard, .within h locals writing held alone⟩

/-- Each undisturbed step of the tasks is matched by the loops. -/
theorem Covers.step {action : PoolAction Task channelCount}
    (covers : Covers s loops)
    (undisturbed : Undisturbed s action)
    (enabled : Pool.step wire sels s action = some next) :
    Matches (Loops.step wire sels) (fun _ _ => True) Loops.events loops
      (events s action) (Covers next) := by
  cases Pool.step_move enabled with
  | received h bytes waiting =>
      have takes :
          loops.phases h = s.phases h →
            Loops.step wire sels loops (.datagram h bytes) =
              some (loops.moveTo h (received wire bytes)) := by
        intro same
        simp only [Loops.step, same, waiting]
      exact
        covers.taken (by rw [waiting]; rfl)
          (Pool.received_holdsMixer wire bytes) takes
  | recvError h waiting =>
      have same := covers.phases_eq (h := h) (by rw [waiting]; rfl)
      have unchanged :
          Loops.step wire sels loops (.recvError h) =
            some loops := by
        simp only [Loops.step, same, waiting]
      exact .single trivial unchanged rfl covers
  | opened h packet data track waiting free cast resolved =>
      rcases covers.of_unheld (by simp [free]) with ⟨rfl, outside⟩
      exact
        plays_between waiting (playPacket_resolved cast resolved s.mixer)
          (.opened outside h track _ data)
  | unresolved h packet data e waiting free cast resolved =>
      rcases covers.of_unheld (by simp [free]) with ⟨rfl, outside⟩
      refine
        plays_between waiting (playPacket_unresolved cast resolved s.mixer)
          (.between (outside_moved outside h ?_))
      exact Pool.assertCounts_holdsMixer ..
  | uncast h packet waiting free cast =>
      rcases covers.of_unheld (by simp [free]) with ⟨rfl, outside⟩
      have played := playPacket_uncast cast (sels h) s.mixer
      refine
        plays_between waiting ⟨?_, ?_⟩
          (.between (outside_moved outside h rfl))
      · rw [played]
        rfl
      · rw [played]
        rfl
  | pushed h cursor o rest length writing =>
      exact .stay (covers.pushed writing)
  | finished h cursor length writing =>
      exact .stay (covers.finished writing)
  | stopped h waiting outside =>
      have takes :
          loops.phases h = s.phases h →
            Loops.step wire sels loops (.stop h) =
              some (loops.moveTo h (.ended .stopped)) := by
        intro same
        simp only [Loops.step, same, waiting, if_true]
      exact covers.taken outside rfl takes
  | cancelled h cursor o rest length writing =>
      have outside : (s.phases h).holdsMixer = false := undisturbed
      rw [writing] at outside
      cases outside
  | otherLocked free =>
      rcases covers.of_unheld (by simp [free]) with ⟨rfl, outside⟩
      exact .stay (.between outside)
  | otherUnlocked held =>
      rcases covers.of_unheld (by simp [held]) with ⟨rfl, outside⟩
      exact .stay (.between outside)
  | played c =>
      have played :
          Loops.step wire sels loops (.playout c) =
            some { loops with mixer := playSample loops.mixer c } :=
        rfl
      rcases covers.played undisturbed with ⟨same, covered⟩
      refine .single trivial played ?_ covered
      simp only [Loops.events, events, same]

/-! ## From the loops to the tasks -/

/-- The tasks stand where the loops do, with nobody in a write. -/
def Between (loops : Loops Task channelCount bufferSize)
    (s : Pool Task channelCount bufferSize) : Prop :=
  s = loops.toPool ∧ ∀ h, (s.phases h).holdsMixer = false

/-- Without a write to the rings, a packet takes no more than the lock. -/
theorem plays_unwritten
    {h : Task} {packet : AudioPacket}
    (waiting : s.phases h = .lockingMixer packet) (free : s.lock = none)
    (goesOn :
      mixerLocked wire (sels h) packet =
        (Pool.phaseAfter (playPacket wire (sels h) s.mixer packet).1 :
          TaskPhase channelCount))
    (unwritten : (playPacket wire (sels h) s.mixer packet).2 = s.mixer) :
    Matches (Pool.step wire sels) Undisturbed events s []
      (· =
        { s.moveTo h
            (Pool.phaseAfter
              (playPacket wire (sels h) s.mixer packet).1) with
          mixer := (playPacket wire (sels h) s.mixer packet).2 }) := by
  have allowed : Undisturbed s (.lockMixer h) := trivial
  refine .single allowed ?_ rfl rfl
  simp only [Pool.step, waiting, free, goesOn, phaseAfter_holdsMixer,
    unwritten]
  simp only [Pool.moveTo, Bool.false_eq_true, if_false, free]

/-- A task that has the lock to itself plays its packet as the loop does. -/
theorem plays_alone
    {h : Task} {packet : AudioPacket}
    (waiting : s.phases h = .lockingMixer packet) (free : s.lock = none) :
    Matches (Pool.step wire sels) Undisturbed events s []
      (· =
        { s.moveTo h
            (Pool.phaseAfter
              (playPacket wire (sels h) s.mixer packet).1) with
          mixer := (playPacket wire (sels h) s.mixer packet).2 }) := by
  cases cast : wire.tryCastSlice packet.payload with
  | none =>
      have played := playPacket_uncast cast (sels h) s.mixer
      refine plays_unwritten waiting free ?_ (by rw [played])
      simp only [mixerLocked, cast, played]
      rfl
  | some data =>
      cases resolved : getChannel channelCount (sels h) with
      | error e =>
          have played := playPacket_unresolved cast resolved s.mixer
          refine plays_unwritten waiting free ?_ played.2
          rw [played.1]
          simp only [mixerLocked, cast, resolved]
      | ok track =>
          have inRange : (sels h).InRange channelCount :=
            (getChannel_isOk_iff (sels h)).mp ⟨track, resolved⟩
          have run :=
            Pool.undisturbed_playPacket s h waiting free cast inRange
          have silent :
              ∀ action ∈
                  .lockMixer h ::
                    (List.replicate data.length (.push h) ++ [.finish h]),
                ∀ state : Pool Task channelCount bufferSize,
                  Undisturbed state action ∧ events state action = [] :=
            fun _ member state => packet_unseen state h data.length member
          exact .silent silent run rfl

/-- Each step of the loops is matched by undisturbed tasks. -/
theorem Between.step
    {after : Loops Task channelCount bufferSize}
    {action : LoopAction Task channelCount}
    (between : Between loops s)
    (enabled : Loops.step wire sels loops action = some after) :
    Matches (Pool.step wire sels) Undisturbed events s
      (loops.events action) (Between after) := by
  rcases between with ⟨rfl, outside⟩
  cases action with
  | datagram h bytes =>
      have allowed : Undisturbed loops.toPool (.datagram h bytes) := trivial
      simp only [Loops.step] at enabled
      split at enabled
      · next waiting =>
          cases enabled
          refine
            .single allowed ?_ rfl
              ⟨rfl,
                outside_moved outside h
                  (Pool.received_holdsMixer wire bytes)⟩
          simp only [Pool.step, Loops.toPool, waiting]
          rfl
      · cases enabled
  | recvError h =>
      have allowed : Undisturbed loops.toPool (.recvError h) := trivial
      simp only [Loops.step] at enabled
      split at enabled
      · next waiting =>
          cases enabled
          refine .single allowed ?_ rfl ⟨rfl, outside⟩
          simp only [Pool.step, Loops.toPool, waiting]
      · cases enabled
  | play h =>
      simp only [Loops.step] at enabled
      split at enabled
      · next packet waiting =>
          cases enabled
          rcases @plays_alone _ _ _ _ wire sels loops.toPool h packet waiting
              rfl with ⟨actions, finish, run, unseen, rfl⟩
          refine ⟨actions, _, run, unseen, rfl, ?_⟩
          exact outside_moved outside h (phaseAfter_holdsMixer _)
      · cases enabled
  | stop h =>
      have unlocked : (loops.phases h).holdsMixer = false := outside h
      have allowed : Undisturbed loops.toPool (.stop h) := unlocked
      simp only [Loops.step] at enabled
      split at enabled
      · next waiting =>
          cases enabled
          refine .single allowed ?_ rfl ⟨rfl, outside_moved outside h rfl⟩
          simp only [Pool.step, Loops.toPool, waiting, if_true,
            Pool.leaveTo, unlocked]
          rfl
      · cases enabled
  | playout c =>
      have allowed : Undisturbed loops.toPool (.playout c) := by
        intro h locals writing
        have free := outside h
        rw [writing] at free
        cases free
      cases enabled
      exact .single allowed rfl rfl ⟨rfl, outside⟩

/-! ## The two agree -/

/--
The tasks with their awaits and the loops with whole packets cannot be told
apart by what comes in, what is heard and where they stand between the
packets, as long as no step gets in the way of a write.
-/
theorem packets_atomic
    (wire : WireFormat) (sels : Task → MixerTrackSelector)
    (mixer : Mixer F32 channelCount bufferSize)
    (shown : List (Event Task channelCount))
    (finish : Loops Task channelCount bufferSize) :
    Matches (Pool.step wire sels) Undisturbed events (.start Task mixer)
        shown
        (fun s =>
          (∀ h, (s.phases h).holdsMixer = false) ∧ .ofPool s = finish) ↔
      Matches (Loops.step wire sels) (fun _ _ => True) Loops.events
        (.start Task mixer) shown (· = finish) := by
  constructor
  · rintro ⟨actions, s, run, rfl, outside, rfl⟩
    have initially : Covers (.start Task mixer) (.start Task mixer) :=
      .between fun _ => rfl
    have simulated :=
      simulates_run
        (fun allowed enabled covers => Covers.step covers allowed enabled)
        run initially
    rcases simulated with ⟨loopActions, loops, loopRun, same, covers⟩
    exact ⟨loopActions, loops, loopRun, same, covers.of_outside outside⟩
  · rintro ⟨actions, loops, run, rfl, rfl⟩
    have initially :
        Between (.start Task mixer) (Pool.start Task mixer) :=
      ⟨rfl, fun _ => rfl⟩
    have simulated :=
      simulates_run (fun _ enabled between => Between.step between enabled)
        run initially
    rcases simulated with ⟨poolActions, s, poolRun, same, rfl, outside⟩
    exact ⟨poolActions, _, poolRun, same, outside, rfl⟩

end Audiopipe.Streamer.AtomicPackets
