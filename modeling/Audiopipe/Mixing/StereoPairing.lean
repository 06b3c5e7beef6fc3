import Audiopipe.Mixing.StereoPhases

/-!
# Stereo frames under concurrent reading

A single step that splits a frame shifts one side against the other for the
rest of the run.  The theorem says that nothing else does: as long as no frame
is split, every output frame is one written frame or silence on both sides.
The invariant behind it joins the phases of the two calls with the
conservation laws of their two rings.
-/

namespace Audiopipe.Mixing.StereoPairing

open Audiopipe.Foundation.BoundedQueues
open Audiopipe.Foundation.GuardedRuns
open Audiopipe.Mixing.TrackSelector
open Audiopipe.Mixing.RingTransfer
open Audiopipe.Mixing.TransferLaws
open Audiopipe.Mixing.ConcurrentCalls
open Audiopipe.Mixing.StereoSessions
open Audiopipe.Mixing.StereoPhases

variable {α : Type} {channelCount bufferSize : ℕ}

/-! ## The invariant of a session -/

/-- What holds between two steps of a session that splits no frame. -/
structure PairInvariant [Sample α]
    (session : Session channelCount)
    (pool : Pool α channelCount bufferSize) : Prop where
  alone :
    ∀ id, id ≠ session.writer → id ≠ session.reader →
      pool.tasks id = none
  conserved : SidesConserved session pool.mixer pool.history
  pairs : PushesPaired session pool.history
  writer :
    WriterPhase session pool.history (pool.tasks session.writer)
  reader :
    ReaderPhase session pool.history (pool.tasks session.reader)

section Steps

variable [Sample α]
variable {session : Session channelCount}
variable {pool next : Pool α channelCount bufferSize}

theorem PairInvariant.idle
    (session : Session channelCount) (sampleRate : ℕ) :
    PairInvariant session
      (.idle (emptyMixer α channelCount bufferSize sampleRate)) where
  alone := fun _ _ _ => rfl
  conserved := ⟨rfl, rfl⟩
  pairs := fun _ member => by simp [Pool.idle, accepted] at member
  writer := .absent rfl
  reader := .absent rfl

/-- A step of the pool keeps the conservation laws of both rings. -/
theorem PairInvariant.conserved_step
    {action : Action α}
    (invariant : PairInvariant session pool)
    (enabled : pool.step action = some next) :
    SidesConserved session next.mixer next.history :=
  ⟨Conserved.step enabled invariant.conserved.1,
    Conserved.step enabled invariant.conserved.2⟩

/-- Starting a call records an event that concerns no ring. -/
theorem PairInvariant.start
    {id : ℕ} {call : Call α}
    (calls : session.Calls (.start id call))
    (invariant : PairInvariant session pool)
    (enabled : pool.step (.start id call) = some next) :
    PairInvariant session next := by
  have conserved := invariant.conserved_step enabled
  simp only [Pool.step] at enabled
  split at enabled
  case isFalse => cases enabled
  case isTrue free =>
    have finished :
        ∀ task, pool.tasks id = some task → task.finished = true := by
      intro task running
      simpa [Pool.free, running] using free
    have same := fun c => histories_started c pool.history id call
    have grown :
        ∀ pair ∈ writtenFrames pool.history,
          pair ∈ writtenFrames (pool.history ++ [.started id call]) := by
      intro pair member
      rw [writtenFrames_append]
      exact List.mem_append_left _ member
    have pairs :
        PushesPaired session (pool.history ++ [.started id call]) := by
      intro pair member
      rw [(same _).1, (same _).1] at member
      exact grown _ (invariant.pairs pair member)
    have writer :=
      invariant.writer.transport (same _).1 (same _).1
        (same _).2.2.1 grown
    have reader :=
      invariant.reader.transport (same _).2.1 (same _).2.1
        (same _).2.2.2 grown
    cases enabled
    rcases calls with
      ⟨isWriter, inputBuffer, whole, written⟩ | ⟨isReader, frames, read⟩
    · subst isWriter
      rcases session.enter_write session.writer written with
        ⟨entered, frames⟩
      have known :
          ∀ frame ∈ stereoFrames inputBuffer,
            frame ∈
              writtenFrames
                (pool.history ++ [.started session.writer call]) := by
        intro frame member
        rw [writtenFrames_append, frames]
        exact List.mem_append_right _ member
      refine ⟨?_, conserved, pairs, ?_, ?_⟩
      · intro other notWriter notReader
        simpa [notWriter] using invariant.alone other notWriter notReader
      · simp only [Function.update_self, entered]
        exact
          .between _ inputBuffer rfl rfl rfl whole known
            (writer.level_of_finished finished)
      · simpa [session.apart.symm] using reader
    · subst isReader
      subst read
      refine ⟨?_, conserved, pairs, ?_, ?_⟩
      · intro other notWriter notReader
        simpa [notReader] using invariant.alone other notWriter notReader
      · simpa [session.apart] using writer
      · simp only [Function.update_self, Call.enter]
        exact
          .reading .start [] (frames * channelCount) 0 0 frames
            (by simp [MixerCursor.start]) (by simp)
            (Nat.lt_of_le_of_lt (Nat.zero_le _) session.l.isLt)
            (by simp) (by simp)
            (.before (Nat.zero_le _)
              (reader.level_of_finished finished))

/-- An iteration of the writer. -/
theorem PairInvariant.advance_writer
    (unsplit : Unsplit session pool (.advance session.writer))
    (invariant : PairInvariant session pool)
    (enabled : pool.step (.advance session.writer) = some next) :
    PairInvariant session next := by
  have conserved := invariant.conserved_step enabled
  rcases Option.bind_eq_some_iff.mp enabled with ⟨task, running, iterated⟩
  obtain ⟨cursor, o, rest, isWriting⟩ :
      ∃ cursor o rest, task = .writing cursor (o :: rest) := by
    have phase := invariant.writer
    rw [running] at phase
    cases phase with
    | between cursor rest =>
        cases rest with
        | nil => cases iterated
        | cons o rest => exact ⟨cursor, o, rest, rfl⟩
    | refusedLeft cursor o rest => exact ⟨cursor, o, rest, rfl⟩
    | acceptedLeft cursor x o rest => exact ⟨cursor, o, rest, rfl⟩
  subst isWriting
  cases iterated
  have written :
      PushesPaired session
          (pool.history ++ [pushEvent pool.mixer cursor.channel o]) ∧
        WriterPhase session
          (pool.history ++ [pushEvent pool.mixer cursor.channel o])
          (some
            (.writing (writeSample cursor pool.mixer o).1 rest)) := by
    simp only [Unsplit, running] at unsplit
    have phase := invariant.writer
    rw [running] at phase
    cases phase with
    | between _ _ track cycle even whole known level =>
        exact
          WriterPhase.write_left pool.mixer track cycle even whole known
            level invariant.pairs
    | refusedLeft _ _ _ track cycle odd whole known refused level =>
        have atRight : cursor.channel = session.r := by
          simp [TrackCursor.channel, track, odd]
        exact
          WriterPhase.write_right_refused pool.mixer track cycle odd
            whole known level ((unsplit atRight).mpr refused)
            invariant.pairs
    | acceptedLeft _ x _ _ front track cycle odd whole known taken
        ahead behind frame =>
        have atRight : cursor.channel = session.r := by
          simp [TrackCursor.channel, track, odd]
        exact
          WriterPhase.write_right_accepted pool.mixer track cycle odd
            whole known ahead behind frame
            (fun full => taken ((unsplit atRight).mp full))
            invariant.pairs
  refine ⟨?_, conserved, written.1, ?_, ?_⟩
  · intro other notWriter notReader
    simpa [Pool.moved, notWriter] using
      invariant.alone other notWriter notReader
  · simpa [Pool.moved] using written.2
  · simp only [Pool.moved, Function.update_of_ne session.apart.symm]
    exact
      invariant.reader.transport
        (by simp [delivered_append]) (by simp [delivered_append])
        (by simp [popOutcomes_append])
        (fun pair member => by
          simpa [writtenFrames_append] using member)

/-- An iteration of the reader. -/
theorem PairInvariant.advance_reader
    (unsplit : Unsplit session pool (.advance session.reader))
    (invariant : PairInvariant session pool)
    (enabled : pool.step (.advance session.reader) = some next) :
    PairInvariant session next := by
  have conserved := invariant.conserved_step enabled
  have positive : 0 < channelCount :=
    Nat.lt_of_le_of_lt (Nat.zero_le _) session.l.isLt
  rcases Option.bind_eq_some_iff.mp enabled with ⟨task, running, iterated⟩
  have phase := invariant.reader
  rw [running] at phase
  cases phase with
  | reading cursor output remaining frame pos total counter filled
      inside whole paired place =>
      cases remaining with
      | zero => cases iterated
      | succ remaining =>
          rcases readMixerSample_ok positive cursor pool.mixer with
            ⟨read, readOnce, moved, _, value, _⟩
          have visited : cursor.ch % channelCount = pos := by
            rw [counter, Nat.mul_add_mod_of_lt inside]
          have here :
              channelAt positive cursor.ch = ⟨pos, inside⟩ :=
            Fin.ext visited
          simp only [Unsplit, running] at unsplit
          rw [Pool.advance_readingMixer positive running readOnce]
            at enabled
          cases enabled
          have advanced :=
            ReaderPhase.advance (c := ⟨pos, inside⟩)
              invariant.conserved invariant.pairs
              (fun isSecond =>
                unsplit (visited.trans (congrArg Fin.val isSecond)))
              counter filled whole paired place moved
          rw [here] at conserved value ⊢
          refine ⟨?_, conserved, ?_, ?_, ?_⟩
          · intro other notWriter notReader
            simpa [Pool.moved, notReader] using
              invariant.alone other notWriter notReader
          · intro pair member
            simp only [Pool.moved, accepted_append, accepted_popEvent,
              List.append_nil] at member
            simpa [Pool.moved, writtenFrames_append] using
              invariant.pairs pair member
          · simp only [Pool.moved, Function.update_of_ne session.apart]
            exact
              invariant.writer.transport
                (by simp [accepted_append]) (by simp [accepted_append])
                (by simp [pushOutcomes_append])
                (fun pair member => by
                  simpa [writtenFrames_append] using member)
          · simpa [Pool.moved, value] using advanced

/-- Every step of a session that splits no frame keeps the invariant. -/
theorem PairInvariant.step
    {action : Action α}
    (allowed : session.Calls action ∧ Unsplit session pool action)
    (enabled : pool.step action = some next)
    (invariant : PairInvariant session pool) :
    PairInvariant session next := by
  rcases allowed with ⟨calls, unsplit⟩
  cases action with
  | start id call => exact invariant.start calls enabled
  | advance id =>
      by_cases isWriter : id = session.writer
      · subst isWriter
        exact invariant.advance_writer unsplit enabled
      · by_cases isReader : id = session.reader
        · subst isReader
          exact invariant.advance_reader unsplit enabled
        · have absent := invariant.alone id isWriter isReader
          simp [Pool.step, absent] at enabled

/-- The invariant speaks about every frame that the reader completed. -/
theorem PairInvariant.framesPaired
    (invariant : PairInvariant session pool) :
    FramesPaired session pool := by
  intro cursor output remaining running frame complete
  have phase := invariant.reader
  rw [running] at phase
  cases phase with
  | reading _ _ _ current pos total counter filled inside whole paired
      place =>
      refine paired frame ?_
      by_contra later
      have atLeast : (current + 1) * channelCount ≤
          (frame + 1) * channelCount :=
        Nat.mul_le_mul_right _ (by omega)
      rw [Nat.succ_mul current] at atLeast
      omega

end Steps

/--
Stereo frames stay paired in every run whose steps split no frame: at the
channels of the pair, every frame of the output holds the two samples of one
written frame or silence on both sides.
-/
theorem stereo_frames_paired [Sample α]
    (session : Session channelCount) (sampleRate : ℕ)
    {actions : List (Action α)}
    {pool : Pool α channelCount bufferSize}
    (run :
      GuardedRun Pool.step
        (fun pool action =>
          session.Calls action ∧ Unsplit session pool action)
        (.idle (emptyMixer α channelCount bufferSize sampleRate))
        actions pool) :
    FramesPaired session pool :=
  (run.preserves
    (fun allowed enabled invariant => invariant.step allowed enabled)
    (PairInvariant.idle session sampleRate)).framesPaired

/-! ## A split frame -/

/-- The channels of a stereo device. -/
def stereoSession : Session 2 where
  writer := 0
  reader := 1
  apart := by decide
  l := 0
  r := 1
  sides := by decide

/-- The reader takes a whole frame between the two pushes of a frame. -/
def splittingActions : List (Action ℤ) :=
  [.start 0 (.writeToMixerSync [1, 2] (.stereo 0 1)),
    .start 1 (.readFromMixerSync 2),
    .advance 0, .advance 1, .advance 1]

/--
The output frame holds the left sample of a written frame next to a silence
that stands for no sample of that frame.
-/
theorem split_frame_unpaired :
    ∃ pool : Pool ℤ 2 2,
      GuardedRun Pool.step
          (fun _ action => stereoSession.Calls action)
          (.idle (emptyMixer ℤ 2 2 44100)) splittingActions pool ∧
        ¬ FramesPaired stereoSession pool := by
  have calls :
      ∀ action ∈ splittingActions,
        ∀ _ : Pool ℤ 2 2, stereoSession.Calls action := by
    intro action member _
    simp only [splittingActions, List.mem_cons, List.not_mem_nil,
      or_false] at member
    rcases member with rfl | rfl | rfl | rfl | rfl
    · exact Or.inl ⟨rfl, [1, 2], by decide, Or.inr rfl⟩
    · exact Or.inr ⟨rfl, 1, rfl⟩
    · trivial
    · trivial
    · trivial
  refine ⟨_, .ofRun calls (execute_eq_some_iff.mp rfl), ?_⟩
  intro paired
  rcases paired _ [1, 0] 0 rfl 0 (by decide) with
    ⟨left, right, leftAt, rightAt, known⟩
  cases leftAt
  cases rightAt
  exact absurd known (by unfold Paired; decide)

/-- The same two calls without the overtaking. -/
def inTurnActions : List (Action ℤ) :=
  [.start 0 (.writeToMixerSync [1, 2] (.stereo 0 1)),
    .start 1 (.readFromMixerSync 2),
    .advance 0, .advance 0, .advance 1, .advance 1]

theorem stereo_frames_paired_in_turn :
    ∃ pool : Pool ℤ 2 2,
      execute Pool.step (.idle (emptyMixer ℤ 2 2 44100))
          inTurnActions = some pool ∧
        pool.history.length = 6 ∧ FramesPaired stereoSession pool := by
  refine ⟨_, rfl, rfl, ?_⟩
  apply
    @stereo_frames_paired _ _ _ _ stereoSession 44100 inTurnActions
  unfold inTurnActions
  apply
    GuardedRun.next ⟨Or.inl ⟨rfl, [1, 2], by decide, Or.inr rfl⟩, trivial⟩
      rfl
  apply GuardedRun.next ⟨Or.inr ⟨rfl, 1, rfl⟩, trivial⟩ rfl
  apply GuardedRun.next ⟨trivial, fun here => absurd here (by decide)⟩ rfl
  apply GuardedRun.next ⟨trivial, fun _ => by decide⟩ rfl
  apply GuardedRun.next ⟨trivial, fun here => absurd here (by decide)⟩ rfl
  apply GuardedRun.next ⟨trivial, fun _ => by decide⟩ rfl
  exact .done _

end Audiopipe.Mixing.StereoPairing
