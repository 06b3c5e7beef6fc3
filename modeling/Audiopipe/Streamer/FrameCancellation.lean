import Audiopipe.Streamer.ReceiverTasks
import Mathlib.Algebra.Group.Even
import Mathlib.Algebra.Group.Nat.Even

/-!
# Stopping a stereo stream

A stop command drops the receive loop where it waits, and within a packet it
waits before every sample.  A stop that is selected after the left and before
the right sample of a frame leaves the left ring one sample ahead, for good.
It does not where the right ring is full, since the left sample was then
refused as well.  No other end of the loop splits a frame.
-/

namespace Audiopipe.Streamer.FrameCancellation

open Audiopipe.Foundation.GuardedRuns
open Audiopipe.Foundation.BoundedQueues
open Audiopipe.Mixing.TrackSelector
open Audiopipe.Mixing.RingTransfer
open Audiopipe.Mixing.TransferLaws
open Audiopipe.Streamer.PacketFormat
open Audiopipe.Streamer.ReceiveLoop
open Audiopipe.Streamer.ReceiverTasks

variable {channelCount bufferSize : ℕ} {Task : Type}

/-! ## The condition -/

/-- The packets of task `h` are whole frames, and nothing is played. -/
def WholeFrames (wire : WireFormat) (h : Task)
    (_ : Pool Task channelCount bufferSize) :
    PoolAction Task channelCount → Prop
  | .datagram h' bytes =>
      h' = h → ∀ data, Carries wire bytes data → Even data.length
  | .playout _ => False
  | _ => True

/--
A stop of task `h` is not selected where the loop waits for the ring of the
second sample of a frame, unless that ring is full.
-/
def SparesFrames (h : Task) (s : Pool Task channelCount bufferSize) :
    PoolAction Task channelCount → Prop
  | .stop h' =>
      h' = h →
        ∀ locals,
          s.phases h = .writing locals → locals.cursor.ch = 1 →
            (s.mixer.rings locals.cursor.channel).IsFull
  | _ => True

/-! ## Where a stereo loop stands -/

section Frames

variable (wire : WireFormat) (l r : Fin channelCount)
variable (left right : BoundedFifo F32 bufferSize)

/-- Where the loop on `l` and `r` stands, and how full the two rings are. -/
inductive Frames : TaskPhase channelCount → Prop where
  | receiving
      (level : left.contents.length = right.contents.length) :
      Frames .receiving
  | lockingMixer (packet : AudioPacket)
      (whole :
        ∀ data,
          wire.tryCastSlice packet.payload = some data →
            Even data.length)
      (level : left.contents.length = right.contents.length) :
      Frames (.lockingMixer packet)
  | between (cursor : TrackCursor channelCount)
      (rest : List F32) (length : ℕ)
      (track : cursor.track = .stereo l r) (cycle : cursor.cycle = 2)
      (even : cursor.ch = 0) (whole : Even rest.length)
      (level : left.contents.length = right.contents.length) :
      Frames (.writing ⟨cursor, rest, length⟩)
  | within (cursor : TrackCursor channelCount)
      (o : F32) (rest : List F32) (length : ℕ)
      (track : cursor.track = .stereo l r) (cycle : cursor.cycle = 2)
      (odd : cursor.ch = 1) (whole : Even rest.length)
      (begun :
        left.contents.length = right.contents.length + 1 ∨
          left.IsFull ∧ right.IsFull) :
      Frames (.writing ⟨cursor, o :: rest, length⟩)
  | ended (result : TaskEnd)
      (level : left.contents.length = right.contents.length) :
      Frames (.ended result)

end Frames

variable {wire : WireFormat} {l r : Fin channelCount}

/-- The second sample of a frame goes to the right ring. -/
theorem channel_odd
    {cursor : TrackCursor channelCount}
    (track : cursor.track = .stereo l r) (odd : cursor.ch = 1) :
    cursor.channel = r := by
  rw [TrackCursor.channel, track, odd, MixerTrack.pick_stereo_one]

/-- An offer adds a sample if there is room. -/
theorem length_offer
    (ring : BoundedFifo F32 bufferSize) (o : F32) :
    (ring.offer o).contents.length =
      min bufferSize (ring.contents.length + 1) := by
  rw [BoundedFifo.offer_contents, List.length_take, List.length_append,
    List.length_singleton]

/-- The next sample of a packet of whole frames. -/
theorem Frames.pushed
    (sides : l ≠ r) {mixer : Mixer F32 channelCount bufferSize}
    {cursor : TrackCursor channelCount}
    {o : F32} {rest : List F32} {length : ℕ}
    (frames :
      Frames wire l r (mixer.rings l) (mixer.rings r)
        (.writing ⟨cursor, o :: rest, length⟩)) :
    Frames wire l r ((writeSample cursor mixer o).2.rings l)
      ((writeSample cursor mixer o).2.rings r)
      (.writing ⟨(writeSample cursor mixer o).1, rest, length⟩) := by
  rcases writeSample_cursor cursor mixer o with
    ⟨sameTrack, sameCycle, nextCounter⟩
  have leftBound := (mixer.rings l).bounded
  have rightBound := (mixer.rings r).bounded
  cases frames with
  | between _ _ _ track cycle even whole level =>
      have here : cursor.channel = l := by
        rw [TrackCursor.channel, track, even, MixerTrack.pick_stereo_zero]
      have counter : cursor.nextCh = 1 := by
        rw [TrackCursor.nextCh, track, cycle, even]
        rfl
      rw [writeSample_rings, writeSample_rings, if_pos here,
        if_neg (here.trans_ne sides)]
      cases rest with
      | nil => simp at whole
      | cons o' rest =>
          have wholeRest : Even rest.length := by
            simpa [Nat.even_add_one] using whole
          apply Frames.within _ _ _ _ (sameTrack.trans track)
            (sameCycle.trans cycle) (nextCounter.trans counter) wholeRest
          have offered := length_offer (mixer.rings l) o
          unfold BoundedFifo.IsFull
          omega
  | within _ _ _ _ track cycle odd whole begun =>
      have here := channel_odd track odd
      have counter : cursor.nextCh = 0 := by
        rw [TrackCursor.nextCh, track, cycle, odd]
        rfl
      rw [writeSample_rings, writeSample_rings, if_pos here,
        if_neg (here.trans_ne sides.symm)]
      apply Frames.between _ _ _ (sameTrack.trans track)
        (sameCycle.trans cycle) (nextCounter.trans counter) whole
      have offered := length_offer (mixer.rings r) o
      unfold BoundedFifo.IsFull at begun
      omega

section Phases

variable {left right : BoundedFifo F32 bufferSize}

/-- Outside of the write of a packet the rings are level. -/
theorem Frames.level_of_outside
    {phase : TaskPhase channelCount}
    (frames : Frames wire l r left right phase)
    (outside : phase.holdsMixer = false) :
    left.contents.length = right.contents.length := by
  cases frames with
  | receiving level => exact level
  | lockingMixer packet whole level => exact level
  | between => cases outside
  | within => cases outside
  | ended result level => exact level

/-- A datagram of whole frames has arrived. -/
theorem Frames.received
    (level : left.contents.length = right.contents.length)
    {bytes : List UInt8}
    (whole : ∀ data, Carries wire bytes data → Even data.length) :
    Frames wire l r left right (received wire bytes) := by
  unfold ReceiverTasks.received
  split
  · next packet decoded =>
      apply Frames.lockingMixer packet _ level
      intro data cast
      exact whole data ⟨packet, decoded, cast⟩
  · next e decoded => exact .ended _ level

/-- A packet has been written. -/
theorem Frames.asserted
    (level : left.contents.length = right.contents.length)
    (consumed dropped length : ℕ) :
    Frames wire l r left right (assertCounts consumed dropped length) := by
  unfold assertCounts
  split
  · exact .receiving level
  · exact .ended _ level

end Phases

/-! ## The other tasks -/

variable {h : Task} {s next : Pool Task channelCount bufferSize}

/-- The other tasks write to neither of the two rings. -/
def OthersAside (h : Task) (l r : Fin channelCount)
    (s : Pool Task channelCount bufferSize) : Prop :=
  ∀ other, other ≠ h →
    ∀ locals, s.phases other = .writing locals →
      ∀ ch,
        locals.cursor.track.pick ch ≠ l ∧
          locals.cursor.track.pick ch ≠ r

section Others

variable [DecidableEq Task] {sels : Task → MixerTrackSelector}

/-- A task that comes to an await outside of a write stays aside. -/
theorem OthersAside.moved
    (aside : OthersAside h l r s) {h' : Task}
    {phase : TaskPhase channelCount} (outside : phase.holdsMixer = false) :
    OthersAside h l r (s.moveTo h' phase) := by
  intro other different locals writing
  by_cases same : other = h'
  · subst same
    rw [s.moveTo_phases_self] at writing
    rw [writing] at outside
    cases outside
  · rw [s.moveTo_phases_of_ne same] at writing
    exact aside other different locals writing

/-- A task that comes to its next sample on its track. -/
theorem OthersAside.movedTo
    (aside : OthersAside h l r s) {h' : Task}
    {locals : Writing channelCount}
    (track :
      h' ≠ h →
        ∀ ch,
          locals.cursor.track.pick ch ≠ l ∧
            locals.cursor.track.pick ch ≠ r) :
    OthersAside h l r (s.moveTo h' (.writing locals)) := by
  intro other different locals' writing
  by_cases same : other = h'
  · subst same
    rw [s.moveTo_phases_self] at writing
    cases writing
    exact track different
  · rw [s.moveTo_phases_of_ne same] at writing
    exact aside other different locals' writing

/-- Selectors that do not name the two channels keep their tasks aside. -/
theorem OthersAside.step
    (others :
      ∀ other, other ≠ h →
        (sels other).contains l = false ∧
          (sels other).contains r = false)
    (aside : OthersAside h l r s)
    {action : PoolAction Task channelCount}
    (move : Pool.Move wire sels s action next) :
    OthersAside h l r next := by
  cases move with
  | received h' bytes waiting =>
      exact aside.moved (Pool.received_holdsMixer wire bytes)
  | recvError h' waiting => exact aside
  | opened h' packet data track waiting free cast resolved =>
      apply aside.movedTo
      intro different ch
      rcases others h' different with ⟨notLeft, notRight⟩
      exact
        ⟨pick_ne_of_unnamed resolved notLeft ch,
          pick_ne_of_unnamed resolved notRight ch⟩
  | unresolved h' packet data e waiting free cast resolved =>
      exact aside.moved (Pool.assertCounts_holdsMixer ..)
  | uncast h' packet waiting free cast => exact aside.moved rfl
  | pushed h' cursor o rest length writing =>
      apply aside.movedTo
      intro different ch
      rw [(writeSample_cursor cursor s.mixer o).1]
      exact aside h' different _ writing ch
  | finished h' cursor length writing =>
      exact aside.moved (Pool.assertCounts_holdsMixer ..)
  | stopped h' waiting outside => exact aside.moved rfl
  | cancelled h' cursor o rest length writing => exact aside.moved rfl
  | otherLocked free => exact aside
  | otherUnlocked held => exact aside
  | played c => exact aside

/-- Without playout, the steps of others change nothing for task `h`. -/
theorem OthersAside.foreign
    (aside : OthersAside h l r s)
    {action : PoolAction Task channelCount}
    (move : Pool.Move wire sels s action next)
    (silent : ∀ c, action ≠ .playout c)
    (foreign : taskOf action ≠ some h) :
    next.phases h = s.phases h ∧
      next.mixer.rings l = s.mixer.rings l ∧
      next.mixer.rings r = s.mixer.rings r := by
  have unmoved :
      ∀ {h' : Task} {phase : TaskPhase channelCount},
        some h' ≠ some h → (s.moveTo h' phase).phases h = s.phases h := by
    intro h' phase different
    apply s.moveTo_phases_of_ne
    rintro rfl
    exact different rfl
  cases move with
  | received h' bytes waiting => exact ⟨unmoved foreign, rfl, rfl⟩
  | recvError h' waiting => exact ⟨rfl, rfl, rfl⟩
  | opened h' packet data track waiting free cast resolved =>
      exact ⟨unmoved foreign, rfl, rfl⟩
  | unresolved h' packet data e waiting free cast resolved =>
      exact ⟨unmoved foreign, rfl, rfl⟩
  | uncast h' packet waiting free cast =>
      exact ⟨unmoved foreign, rfl, rfl⟩
  | pushed h' cursor o rest length writing =>
      have different : h' ≠ h := fun same =>
        foreign (congrArg some same)
      rcases aside h' different _ writing cursor.ch with
        ⟨notLeft, notRight⟩
      refine ⟨unmoved foreign, ?_, ?_⟩
      · exact
          (writeSample_rings cursor s.mixer o l).trans (if_neg notLeft)
      · exact
          (writeSample_rings cursor s.mixer o r).trans (if_neg notRight)
  | finished h' cursor length writing =>
      exact ⟨unmoved foreign, rfl, rfl⟩
  | stopped h' waiting outside => exact ⟨unmoved foreign, rfl, rfl⟩
  | cancelled h' cursor o rest length writing =>
      exact ⟨unmoved foreign, rfl, rfl⟩
  | otherLocked free => exact ⟨rfl, rfl, rfl⟩
  | otherUnlocked held => exact ⟨rfl, rfl, rfl⟩
  | played c => exact (silent c rfl).elim

end Others

/-! ## The invariant and how it breaks -/

/-- No frame is split except the one that is being written. -/
structure Balanced (wire : WireFormat) (h : Task)
    (l r : Fin channelCount)
    (s : Pool Task channelCount bufferSize) : Prop where
  frames :
    Frames wire l r (s.mixer.rings l) (s.mixer.rings r) (s.phases h)
  aside : OthersAside h l r s

/-- The task has ended with the left ring one sample ahead. -/
structure Split (h : Task) (l r : Fin channelCount)
    (s : Pool Task channelCount bufferSize) : Prop where
  ended : ∃ result, s.phases h = .ended result
  ahead :
    (s.mixer.rings l).contents.length =
      (s.mixer.rings r).contents.length + 1
  aside : OthersAside h l r s

/-- Before its first datagram the loop has split no frame. -/
theorem Balanced.initially
    {mixer : Mixer F32 channelCount bufferSize}
    (level :
      (mixer.rings l).contents.length = (mixer.rings r).contents.length) :
    Balanced wire h l r (Pool.start Task mixer) where
  frames := .receiving level
  aside := by
    intro other _ locals writing
    cases writing

theorem silent_of_wholeFrames
    {action : PoolAction Task channelCount}
    (allowed : WholeFrames wire h s action) (c : Fin channelCount) :
    action ≠ .playout c := by
  rintro rfl
  exact allowed

variable [DecidableEq Task] {sels : Task → MixerTrackSelector}

/-- One step of the task itself that splits no frame. -/
theorem Frames.own_step
    (selected : sels h = .stereo l r) (sides : l ≠ r)
    {action : PoolAction Task channelCount}
    (move : Pool.Move wire sels s action next)
    (own : taskOf action = some h)
    (allowed : WholeFrames wire h s action)
    (spared : SparesFrames h s action)
    (frames :
      Frames wire l r (s.mixer.rings l) (s.mixer.rings r)
        (s.phases h)) :
    Frames wire l r (next.mixer.rings l) (next.mixer.rings r)
      (next.phases h) := by
  have here := s.moveTo_phases_self h
  cases move with
  | received h' bytes waiting =>
      cases own
      rw [waiting] at frames
      rw [here]
      exact .received (frames.level_of_outside rfl) (allowed rfl)
  | recvError h' waiting => exact frames
  | opened h' packet data track waiting free cast resolved =>
      cases own
      rw [waiting] at frames
      have level := frames.level_of_outside rfl
      have there : track = .stereo l r := by
        rw [selected, getChannel_stereo l.isLt r.isLt] at resolved
        cases resolved
        rfl
      cases frames with
      | lockingMixer _ whole _ =>
          rw [here, selected]
          exact .between _ _ _ there rfl rfl (whole data cast) level
  | unresolved h' packet data e waiting free cast resolved =>
      cases own
      rw [waiting] at frames
      rw [here]
      exact .asserted (frames.level_of_outside rfl) _ _ _
  | uncast h' packet waiting free cast =>
      cases own
      rw [waiting] at frames
      rw [here]
      exact .ended _ (frames.level_of_outside rfl)
  | pushed h' cursor o rest length writing =>
      cases own
      rw [writing] at frames
      rw [here]
      exact frames.pushed sides
  | finished h' cursor length writing =>
      cases own
      rw [writing] at frames
      rw [here]
      cases frames with
      | between _ _ _ track cycle even whole level =>
          exact .asserted level _ _ _
  | stopped h' waiting outside =>
      cases own
      rw [here]
      exact .ended _ (frames.level_of_outside outside)
  | cancelled h' cursor o rest length writing =>
      cases own
      have fullAt := spared rfl _ writing
      rw [writing] at frames
      rw [here]
      cases frames with
      | between _ _ _ track cycle even whole level =>
          exact .ended _ level
      | within _ _ _ _ track cycle odd whole begun =>
          have right := channel_odd track odd
          have full := fullAt odd
          simp only [right] at full
          have bound := (s.mixer.rings l).bounded
          unfold BoundedFifo.IsFull at begun full
          have level :
              (s.mixer.rings l).contents.length =
                (s.mixer.rings r).contents.length := by
            omega
          exact .ended _ level
  | otherLocked free => cases own
  | otherUnlocked held => cases own
  | played c => cases own

/-- One step that splits no frame. -/
theorem Balanced.step
    (selected : sels h = .stereo l r) (sides : l ≠ r)
    (others :
      ∀ other, other ≠ h →
        (sels other).contains l = false ∧
          (sels other).contains r = false)
    {action : PoolAction Task channelCount}
    (allowed : WholeFrames wire h s action)
    (spared : SparesFrames h s action)
    (move : Pool.Move wire sels s action next)
    (balanced : Balanced wire h l r s) :
    Balanced wire h l r next := by
  refine ⟨?_, balanced.aside.step others move⟩
  by_cases own : taskOf action = some h
  · exact balanced.frames.own_step selected sides move own allowed spared
  · rcases
        balanced.aside.foreign move (silent_of_wholeFrames allowed) own with
      ⟨samePhase, sameLeft, sameRight⟩
    rw [samePhase, sameLeft, sameRight]
    exact balanced.frames

/-- A stop within a frame splits it. -/
theorem Balanced.split
    (balanced : Balanced wire h l r s)
    {action : PoolAction Task channelCount}
    (move : Pool.Move wire sels s action next)
    (unspared : ¬ SparesFrames h s action) :
    Split h l r next := by
  have aside := balanced.aside
  have frames := balanced.frames
  have here := s.moveTo_phases_self h (.ended .stopped)
  cases move with
  | cancelled h' cursor o rest length writing =>
      simp only [SparesFrames, not_forall] at unspared
      rcases unspared with ⟨rfl, locals, writing', odd, room⟩
      cases writing.symm.trans writing'
      rw [writing] at frames
      cases frames with
      | between _ _ _ track cycle even whole level =>
          rw [even] at odd
          cases odd
      | within _ _ _ _ track cycle odd whole begun =>
          have right := channel_odd track odd
          simp only [right] at room
          refine ⟨⟨_, here⟩, ?_, aside.moved rfl⟩
          rcases begun with ahead | ⟨_, full⟩
          · exact ahead
          · exact (room full).elim
  | stopped h' waiting outside =>
      simp only [SparesFrames, not_forall] at unspared
      rcases unspared with ⟨rfl, locals, writing, odd, room⟩
      rw [writing] at outside
      cases outside
  | received => exact (unspared trivial).elim
  | recvError => exact (unspared trivial).elim
  | opened => exact (unspared trivial).elim
  | unresolved => exact (unspared trivial).elim
  | uncast => exact (unspared trivial).elim
  | pushed => exact (unspared trivial).elim
  | finished => exact (unspared trivial).elim
  | otherLocked => exact (unspared trivial).elim
  | otherUnlocked => exact (unspared trivial).elim
  | played => exact (unspared trivial).elim

/-- What is split stays split. -/
theorem Split.step
    (others :
      ∀ other, other ≠ h →
        (sels other).contains l = false ∧
          (sels other).contains r = false)
    {action : PoolAction Task channelCount}
    (allowed : WholeFrames wire h s action)
    (move : Pool.Move wire sels s action next)
    (split : Split h l r s) :
    Split h l r next := by
  rcases split.ended with ⟨result, ended⟩
  have foreign := Pool.taskOf_ne_of_ended move ended
  rcases
      split.aside.foreign move (silent_of_wholeFrames allowed)
        foreign with
    ⟨samePhase, sameLeft, sameRight⟩
  constructor
  · rw [samePhase]
    exact split.ended
  · rw [sameLeft, sameRight]
    exact split.ahead
  · exact split.aside.step others move

/-! ## Whole runs -/

/--
A receiver on two sides that no other task writes to, with rings equally full
at its start, packets of whole frames and no playout in between: once its task
has ended, the rings are equally full again exactly when no stop has been
selected between the two samples of a frame while the ring of the second one
had room.
-/
theorem rings_level_after_end_iff
    (wire : WireFormat) {sels : Task → MixerTrackSelector} {h : Task}
    {l r : Fin channelCount}
    (selected : sels h = .stereo l r) (sides : l ≠ r)
    (others :
      ∀ other, other ≠ h →
        (sels other).contains l = false ∧
          (sels other).contains r = false)
    {mixer : Mixer F32 channelCount bufferSize}
    (level :
      (mixer.rings l).contents.length = (mixer.rings r).contents.length)
    {actions : List (PoolAction Task channelCount)}
    {s : Pool Task channelCount bufferSize}
    (run :
      GuardedRun (Pool.step wire sels) (WholeFrames wire h)
        (Pool.start Task mixer) actions s)
    {result : TaskEnd} (ended : s.phases h = .ended result) :
    (s.mixer.rings l).contents.length =
        (s.mixer.rings r).contents.length ↔
      GuardedRun (Pool.step wire sels)
        (fun state action =>
          WholeFrames wire h state action ∧ SparesFrames h state action)
        (Pool.start Task mixer) actions s := by
  have keeps :
      ∀ {state next : Pool Task channelCount bufferSize}
        {action : PoolAction Task channelCount},
        WholeFrames wire h state action ∧ SparesFrames h state action →
          Pool.step wire sels state action = some next →
            Balanced wire h l r state → Balanced wire h l r next := by
    intro state next action spared enabled balanced
    exact
      balanced.step selected sides others spared.1 spared.2
        (Pool.step_move enabled)
  constructor
  · intro levelAgain
    have outcome :=
      @GuardedRun.strict_or_broken _ _ _ _ _ _ (Split h l r) keeps
        (fun allowed enabled forbidden balanced =>
          balanced.split (Pool.step_move enabled)
            fun spared => forbidden ⟨allowed, spared⟩)
        (fun allowed enabled split =>
          split.step others allowed (Pool.step_move enabled))
        _ _ _ run (Balanced.initially level)
    rcases outcome with ⟨spared, _⟩ | split
    · exact spared
    · have ahead := split.ahead
      omega
  · intro spared
    have balanced :=
      GuardedRun.preserves @keeps spared (Balanced.initially level)
    have frames := balanced.frames
    rw [ended] at frames
    exact frames.level_of_outside rfl

/-- The packet of one frame on an empty mixer, up to `rest`. -/
def oneFrame (rest : List (PoolAction Unit 2)) :
    List (PoolAction Unit 2) :=
  .datagram () (serialize (frameOf ⟨1⟩ ⟨2⟩)) :: .lockMixer () ::
    .push () :: rest

/-- The start of the only task, on the left and the right channel. -/
def stereoStart : Pool Unit 2 4 :=
  .start Unit (emptyMixer F32 2 4 44100)

theorem stereoStart_received :
    Pool.step bincodeWire (fun _ => .stereo 0 1) stereoStart
        (.datagram () (serialize (frameOf ⟨1⟩ ⟨2⟩))) =
      some (stereoStart.moveTo () (.lockingMixer (frameOf ⟨1⟩ ⟨2⟩))) := by
  simp only [Pool.step, stereoStart, Pool.start, received_frameOf]

theorem wholeFrames_frameOf (left right : F32)
    (s : Pool Unit channelCount bufferSize) :
    WholeFrames bincodeWire () s
      (.datagram () (serialize (frameOf left right))) := by
  rintro - data ⟨packet, decoded, cast⟩
  rcases carries_frameOf left right with ⟨packet', decoded', cast'⟩
  cases decoded.symm.trans decoded'
  cases cast.symm.trans cast'
  exact even_two

/-- A stop after a whole packet. -/
theorem rings_level_after_end_iff_afterPacket :
    ∃ s,
      GuardedRun (Pool.step bincodeWire fun _ => .stereo 0 1)
        (fun state action =>
          WholeFrames bincodeWire () state action ∧
            SparesFrames () state action)
        stereoStart (oneFrame [.push (), .finish (), .stop ()]) s := by
  have executed :
      ∃ s,
        execute (Pool.step bincodeWire fun _ => .stereo 0 1)
            (stereoStart.moveTo () (.lockingMixer (frameOf ⟨1⟩ ⟨2⟩)))
            [.lockMixer (), .push (), .push (), .finish (), .stop ()] =
          some s ∧
        s.phases () = .ended .stopped ∧
        (s.mixer.rings 0).contents.length =
          (s.mixer.rings 1).contents.length :=
    ⟨_, rfl, rfl, rfl⟩
  rcases executed with ⟨s, executed, ended, level⟩
  have run :
      GuardedRun (Pool.step bincodeWire fun _ => .stereo 0 1)
        (WholeFrames bincodeWire ()) stereoStart
        (oneFrame [.push (), .finish (), .stop ()]) s := by
    apply GuardedRun.next (wholeFrames_frameOf _ _ _) stereoStart_received
    apply GuardedRun.ofRun _ (execute_eq_some_iff.mp executed)
    simp [WholeFrames]
  let sels : Unit → MixerTrackSelector := fun _ => .stereo 0 1
  have selected :
      sels () = .stereo ((0 : Fin 2) : ℕ) ((1 : Fin 2) : ℕ) :=
    rfl
  have sides : (0 : Fin 2) ≠ 1 := by decide
  exact
    ⟨s,
      (rings_level_after_end_iff bincodeWire selected sides
        (fun other different => (different rfl).elim) rfl run ended).mp
        level⟩

/-- A stop between the samples of the only frame of a packet. -/
theorem stop_splits_frame :
    ∃ s : Pool Unit 2 4,
      (stereoStart.mixer.rings 0).contents.length =
          (stereoStart.mixer.rings 1).contents.length ∧
        GuardedRun (Pool.step bincodeWire fun _ => .stereo 0 1)
          (WholeFrames bincodeWire ()) stereoStart (oneFrame [.stop ()])
          s ∧
        s.phases () = .ended .stopped ∧
        (s.mixer.rings 0).contents.length ≠
          (s.mixer.rings 1).contents.length := by
  have executed :
      ∃ s,
        execute (Pool.step bincodeWire fun _ => .stereo 0 1)
            (stereoStart.moveTo () (.lockingMixer (frameOf ⟨1⟩ ⟨2⟩)))
            [.lockMixer (), .push (), .stop ()] =
          some s ∧
        s.phases () = .ended .stopped ∧
        (s.mixer.rings 0).contents.length = 1 ∧
        (s.mixer.rings 1).contents.length = 0 :=
    ⟨_, rfl, rfl, rfl, rfl⟩
  rcases executed with ⟨s, executed, ended, one, none⟩
  refine ⟨s, rfl, ?_, ended, ?_⟩
  · apply GuardedRun.next (wholeFrames_frameOf _ _ _) stereoStart_received
    apply GuardedRun.ofRun _ (execute_eq_some_iff.mp executed)
    simp [WholeFrames]
  · rw [one, none]
    exact Nat.one_ne_zero

end Audiopipe.Streamer.FrameCancellation
