import Audiopipe.Mixing.TransferLaws
import Mathlib.Algebra.Group.Prod

/-!
# Transfers that are cut at frame boundaries

Every call of a transfer loop starts its channel counter at zero and its
counts at zero.  The counter of a write is back at zero after a whole number
of frames, and that of a read does not matter up to a whole number of frames.
So a call for a long buffer and the calls for its pieces lock the same rings
in the same order, wherever between two frames the buffer is cut.
-/

namespace Audiopipe.Mixing.WholeFrames

open Audiopipe.Mixing.TrackSelector
open Audiopipe.Mixing.RingTransfer
open Audiopipe.Mixing.TransferLaws

variable {α : Type} {channelCount bufferSize : ℕ}

/-! ## The write loop -/

/-- The locals of a write loop on top of what was counted before. -/
def countedFrom (counts : ℕ × ℕ) (cursor : TrackCursor channelCount) :
    TrackCursor channelCount :=
  { cursor with
    consumed := counts.1 + cursor.consumed
    dropped := counts.2 + cursor.dropped }

/-- What was counted before has no influence on an iteration. -/
theorem writeSample_countedFrom
    (counts : ℕ × ℕ) (cursor : TrackCursor channelCount)
    (mixer : Mixer α channelCount bufferSize) (o : α) :
    writeSample (countedFrom counts cursor) mixer o =
      (countedFrom counts (writeSample cursor mixer o).1,
        (writeSample cursor mixer o).2) := by
  have sameChannel :
      (countedFrom counts cursor).channel = cursor.channel :=
    rfl
  unfold writeSample
  rw [sameChannel]
  cases (mixer.rings cursor.channel).tryPush o with
  | none => rfl
  | some ring => rfl

theorem writeSamples_countedFrom
    (counts : ℕ × ℕ) (cursor : TrackCursor channelCount)
    (mixer : Mixer α channelCount bufferSize) (input : List α) :
    writeSamples (countedFrom counts cursor) mixer input =
      (countedFrom counts (writeSamples cursor mixer input).1,
        (writeSamples cursor mixer input).2) := by
  induction input generalizing cursor mixer with
  | nil => rfl
  | cons o rest induction =>
      rw [writeSamples, writeSample_countedFrom, induction]
      rfl

/-- A loop goes on where it stands. -/
theorem writeSamples_append
    (cursor : TrackCursor channelCount)
    (mixer : Mixer α channelCount bufferSize) (input later : List α) :
    writeSamples cursor mixer (input ++ later) =
      writeSamples (writeSamples cursor mixer input).1
        (writeSamples cursor mixer input).2 later := by
  induction input generalizing cursor mixer with
  | nil => rfl
  | cons o rest induction =>
      rw [List.cons_append, writeSamples, induction]
      rfl

/-- The loop moves the channel counter once for each sample. -/
theorem writeSamples_cursor
    (cursor : TrackCursor channelCount)
    (mixer : Mixer α channelCount bufferSize) (input : List α) :
    (writeSamples cursor mixer input).1.track = cursor.track ∧
      (writeSamples cursor mixer input).1.cycle = cursor.cycle ∧
      (writeSamples cursor mixer input).1.ch =
        (cursor.track.advance cursor.cycle)^[input.length] cursor.ch := by
  induction input generalizing cursor mixer with
  | nil => exact ⟨rfl, rfl, rfl⟩
  | cons o rest induction =>
      rcases writeSample_cursor cursor mixer o with
        ⟨sameTrack, sameCycle, moved⟩
      rcases induction (writeSample cursor mixer o).1
          (writeSample cursor mixer o).2 with
        ⟨sameTrack', sameCycle', movedOn⟩
      rw [sameTrack, sameCycle, moved] at movedOn
      exact
        ⟨sameTrack'.trans sameTrack, sameCycle'.trans sameCycle, movedOn⟩

/-- After whole frames the channel counter is back at zero. -/
theorem advance_frames
    {sel : MixerTrackSelector} {track : MixerTrack (Fin channelCount)}
    (resolved : getChannel channelCount sel = .ok track)
    {length : ℕ} (whole : sel.channelCount ∣ length) :
    (track.advance sel.channelCount)^[length] 0 = 0 := by
  have inRange : sel.InRange channelCount :=
    (getChannel_isOk_iff sel).mp ⟨track, resolved⟩
  cases sel with
  | mono c =>
      rw [getChannel_mono inRange] at resolved
      cases resolved
      exact Function.iterate_fixed rfl length
  | stereo l r =>
      rw [getChannel_stereo inRange.1 inRange.2] at resolved
      cases resolved
      rcases whole with ⟨frames, rfl⟩
      have oneFrame :
          ((MixerTrack.stereo (⟨l, inRange.1⟩ : Fin channelCount)
            ⟨r, inRange.2⟩).advance 2)^[2] 0 = 0 := by
        show ((0 + 1) % 2 + 1) % 2 = 0
        rfl
      rw [Function.iterate_mul]
      exact Function.iterate_fixed oneFrame frames

/-- After whole frames the locals differ from the first ones in the counts. -/
theorem writeSamples_frames
    {sel : MixerTrackSelector} {track : MixerTrack (Fin channelCount)}
    (resolved : getChannel channelCount sel = .ok track)
    (mixer : Mixer α channelCount bufferSize)
    {input : List α} (whole : sel.channelCount ∣ input.length) :
    (writeSamples (.start track sel.channelCount) mixer input).1 =
      countedFrom
        ((writeSamples (.start track sel.channelCount) mixer
            input).1.consumed,
          (writeSamples (.start track sel.channelCount) mixer
            input).1.dropped)
        (.start track sel.channelCount) := by
  rcases writeSamples_cursor (.start track sel.channelCount) mixer input with
    ⟨sameTrack, sameCycle, moved⟩
  have returned :
      (writeSamples (.start track sel.channelCount) mixer input).1.ch = 0 :=
    moved.trans (advance_frames resolved whole)
  cases final :
      (writeSamples (.start track sel.channelCount) mixer input).1 with
  | mk track' cycle' ch' consumed dropped =>
      rw [final] at sameTrack sameCycle returned
      cases sameTrack
      cases sameCycle
      cases returned
      rfl

/-! ## Writing a list of buffers -/

/-- Writes one buffer after another and lists what the calls return. -/
def writeBuffers
    (mixer : Mixer α channelCount bufferSize) (sel : MixerTrackSelector) :
    List (List α) →
      Except MixerError
        (List (ℕ × ℕ) × Mixer α channelCount bufferSize)
  | [] => .ok ([], mixer)
  | buffer :: rest => do
      let first ← writeToMixerSync mixer buffer sel
      let others ← writeBuffers first.2 sel rest
      return (first.1 :: others.1, others.2)

/-- A buffer that begins with whole frames can be cut behind them. -/
theorem writeToMixerSync_append
    {sel : MixerTrackSelector} (inRange : sel.InRange channelCount)
    (mixer : Mixer α channelCount bufferSize)
    {input : List α} (whole : sel.channelCount ∣ input.length)
    (later : List α) :
    ∃ first second written final,
      writeToMixerSync mixer input sel = .ok (first, written) ∧
        writeToMixerSync written later sel = .ok (second, final) ∧
        writeToMixerSync mixer (input ++ later) sel =
          .ok (first + second, final) := by
  rcases (getChannel_isOk_iff sel).mpr inRange with ⟨track, resolved⟩
  refine
    ⟨_, _, _, _, writeToMixerSync_of_resolved resolved mixer input,
      writeToMixerSync_of_resolved resolved _ later, ?_⟩
  rw [writeToMixerSync_of_resolved resolved, writeSamples_append,
    writeSamples_frames resolved mixer whole, writeSamples_countedFrom]
  rfl

/-- Buffers of whole frames are written like their concatenation. -/
theorem writeBuffers_flatten
    {sel : MixerTrackSelector} (inRange : sel.InRange channelCount)
    (mixer : Mixer α channelCount bufferSize) (buffers : List (List α))
    (whole : ∀ buffer ∈ buffers, sel.channelCount ∣ buffer.length) :
    ∃ counts written,
      writeBuffers mixer sel buffers = .ok (counts, written) ∧
        writeToMixerSync mixer buffers.flatten sel =
          .ok (counts.sum, written) := by
  induction buffers generalizing mixer with
  | nil =>
      rcases (getChannel_isOk_iff sel).mpr inRange with ⟨track, resolved⟩
      exact
        ⟨[], mixer, rfl, writeToMixerSync_of_resolved resolved mixer []⟩
  | cons buffer rest induction =>
      rcases writeToMixerSync_append inRange mixer
          (whole buffer List.mem_cons_self) rest.flatten with
        ⟨first, second, written, final, wroteFirst, wroteRest, wroteAll⟩
      rcases induction written fun later member =>
          whole later (List.mem_cons_of_mem _ member) with
        ⟨counts, final', wroteEach, wroteRest'⟩
      cases wroteRest.symm.trans wroteRest'
      refine ⟨first :: counts, final, ?_, ?_⟩
      · simp only [writeBuffers, wroteFirst, wroteEach, bind, Except.bind]
        rfl
      · rw [List.flatten_cons, wroteAll, List.sum_cons]

/-! ## The read loop over the whole mixer -/

/-- The locals of a read on top of what calls before it have done. -/
def behind (before cursor : MixerCursor) : MixerCursor where
  ch := before.ch + cursor.ch
  consumed := before.consumed + cursor.consumed
  dropped := before.dropped + cursor.dropped

/-- Whole frames read before have no influence on an iteration. -/
theorem readMixerSample_behind [Sample α]
    (positive : 0 < channelCount)
    {before : MixerCursor} (whole : channelCount ∣ before.ch)
    (cursor : MixerCursor) (mixer : Mixer α channelCount bufferSize) :
    readMixerSample (behind before cursor) mixer =
      (readMixerSample cursor mixer).map fun next =>
        (behind before next.1, next.2) := by
  have sameChannel :
      channelAt positive (behind before cursor).ch =
        channelAt positive cursor.ch := by
    rcases whole with ⟨frames, counter⟩
    apply Fin.ext
    show (before.ch + cursor.ch) % channelCount = cursor.ch % channelCount
    rw [counter, Nat.mul_add_mod]
  rw [readMixerSample_eq positive, readMixerSample_eq positive, sameChannel]
  simp [Except.map, met, behind, Nat.add_assoc]

theorem readMixerSamples_behind [Sample α]
    (positive : 0 < channelCount)
    {before : MixerCursor} (whole : channelCount ∣ before.ch)
    (cursor : MixerCursor) (mixer : Mixer α channelCount bufferSize)
    (length : ℕ) :
    readMixerSamples (behind before cursor) mixer length =
      (readMixerSamples cursor mixer length).map fun final =>
        (behind before final.1, final.2) := by
  induction length generalizing cursor mixer with
  | zero => rfl
  | succ length induction =>
      simp only [readMixerSamples, readMixerSample_behind positive whole,
        bind, Except.bind]
      cases readMixerSample cursor mixer with
      | error e => rfl
      | ok next =>
          simp only [Except.map, induction]
          cases readMixerSamples next.1 next.2.2 length with
          | error e => rfl
          | ok final => rfl

/-- A read goes on where it stands, and its outputs stand in a row. -/
theorem readMixerSamples_append [Sample α]
    {cursor : MixerCursor} {mixer : Mixer α channelCount bufferSize}
    {length later : ℕ}
    {first second : MixerCursor × List α × Mixer α channelCount bufferSize}
    (readFirst : readMixerSamples cursor mixer length = .ok first)
    (readSecond :
      readMixerSamples first.1 first.2.2 later = .ok second) :
    readMixerSamples cursor mixer (length + later) =
      .ok (second.1, first.2.1 ++ second.2.1, second.2.2) := by
  induction length generalizing cursor mixer first with
  | zero =>
      cases readFirst
      rw [Nat.zero_add]
      exact readSecond
  | succ length induction =>
      rcases readMixerSamples_succ_cases readFirst with
        ⟨next, others, read, readOthers, rfl⟩
      rw [Nat.succ_add]
      exact readMixerSamples_succ read (induction readOthers readSecond)

/-- The loop moves the channel counter once for each position. -/
theorem readMixerSamples_ch [Sample α]
    (positive : 0 < channelCount) {cursor : MixerCursor}
    {mixer : Mixer α channelCount bufferSize} {length : ℕ}
    {final : MixerCursor × List α × Mixer α channelCount bufferSize}
    (read : readMixerSamples cursor mixer length = .ok final) :
    final.1.ch = cursor.ch + length := by
  induction length generalizing cursor mixer final with
  | zero =>
      cases read
      rfl
  | succ length induction =>
      rcases readMixerSamples_succ_cases read with
        ⟨next, others, readHere, readOthers, rfl⟩
      rw [readMixerSample_eq positive] at readHere
      cases readHere
      show others.1.ch = cursor.ch + (length + 1)
      rw [induction readOthers]
      show cursor.ch + 1 + length = cursor.ch + (length + 1)
      omega

/-! ## Reading a list of buffers -/

/--
Reads one buffer after another, for each length one, and lists what the calls
return and put out.
-/
def readBuffers [Sample α] (mixer : Mixer α channelCount bufferSize) :
    List ℕ →
      Except (Abort MixerError)
        (List (ℕ × ℕ) × List (List α) × Mixer α channelCount bufferSize)
  | [] => .ok ([], [], mixer)
  | length :: rest => do
      let first ← readFromMixerSync mixer length
      let others ← readBuffers first.2.2 rest
      return (first.1 :: others.1, first.2.1 :: others.2.1, others.2.2)

/-- A read that begins with whole frames can be cut behind them. -/
theorem readFromMixerSync_append [Sample α]
    (positive : 0 < channelCount)
    (mixer : Mixer α channelCount bufferSize)
    {length : ℕ} (whole : channelCount ∣ length) (later : ℕ) :
    ∃ first second output output' rest final,
      readFromMixerSync mixer length = .ok (first, output, rest) ∧
        readFromMixerSync rest later = .ok (second, output', final) ∧
        readFromMixerSync mixer (length + later) =
          .ok (first + second, output ++ output', final) := by
  rcases readMixerSamples_ok positive .start mixer length with
    ⟨front, readFront, _⟩
  rcases readMixerSamples_ok positive .start front.2.2 later with
    ⟨back, readBack, _⟩
  have aligned : channelCount ∣ front.1.ch := by
    rw [readMixerSamples_ch positive readFront]
    show channelCount ∣ 0 + length
    rwa [Nat.zero_add]
  have resumed :
      readMixerSamples front.1 front.2.2 later =
        .ok (behind front.1 back.1, back.2) := by
    have fromStart :=
      readMixerSamples_behind positive aligned .start front.2.2 later
    rw [readBack] at fromStart
    exact fromStart
  have joined := readMixerSamples_append readFront resumed
  exact
    ⟨_, _, _, _, _, _, readFromMixerSync_of_ok readFront,
      readFromMixerSync_of_ok readBack, readFromMixerSync_of_ok joined⟩

/-- Buffers of whole frames are read like one buffer of their total length. -/
theorem readBuffers_sum [Sample α]
    (positive : 0 < channelCount)
    (mixer : Mixer α channelCount bufferSize) (lengths : List ℕ)
    (whole : ∀ length ∈ lengths, channelCount ∣ length) :
    ∃ counts outputs rest,
      readBuffers mixer lengths = .ok (counts, outputs, rest) ∧
        readFromMixerSync mixer lengths.sum =
          .ok (counts.sum, outputs.flatten, rest) := by
  induction lengths generalizing mixer with
  | nil => exact ⟨[], [], mixer, rfl, rfl⟩
  | cons length rest induction =>
      rcases readFromMixerSync_append positive mixer
          (whole length List.mem_cons_self) rest.sum with
        ⟨first, second, output, output', read, final, readFirst, readRest,
          readAll⟩
      rcases induction read fun later member =>
          whole later (List.mem_cons_of_mem _ member) with
        ⟨counts, outputs, final', readEach, readRest'⟩
      cases readRest.symm.trans readRest'
      refine ⟨first :: counts, output :: outputs, final, ?_, ?_⟩
      · simp only [readBuffers, readFirst, readEach, bind, Except.bind]
        rfl
      · rw [List.sum_cons, readAll, List.sum_cons, List.flatten_cons]

/-! ## Both directions -/

/--
It makes no difference where a stream of whole frames is cut into buffers,
neither for what a list of writes leaves in the rings and counts, nor for
what a list of reads puts out, leaves in the rings and counts.
-/
theorem buffer_boundaries_irrelevant [Sample α]
    (mixer : Mixer α channelCount bufferSize) :
    (∀ sel : MixerTrackSelector,
        sel.InRange channelCount →
          ∀ buffers : List (List α),
            (∀ buffer ∈ buffers, sel.channelCount ∣ buffer.length) →
              ∃ counts written,
                writeBuffers mixer sel buffers = .ok (counts, written) ∧
                  writeToMixerSync mixer buffers.flatten sel =
                    .ok (counts.sum, written)) ∧
      (0 < channelCount →
        ∀ lengths : List ℕ,
          (∀ length ∈ lengths, channelCount ∣ length) →
            ∃ counts outputs rest,
              readBuffers mixer lengths = .ok (counts, outputs, rest) ∧
                readFromMixerSync mixer lengths.sum =
                  .ok (counts.sum, outputs.flatten, rest)) := by
  constructor
  · intro sel inRange buffers whole
    exact writeBuffers_flatten inRange mixer buffers whole
  · intro positive lengths whole
    exact readBuffers_sum positive mixer lengths whole

/-- Two frames for rings of capacity one, and two silent frames back. -/
theorem buffer_boundaries_irrelevant_small :
    (∃ counts written,
        writeBuffers (emptyMixer ℤ 2 1 44100) (.stereo 0 1)
            [[1, 2], [3, 4]] =
          .ok (counts, written) ∧
          writeToMixerSync (emptyMixer ℤ 2 1 44100) [1, 2, 3, 4]
              (.stereo 0 1) =
            .ok (counts.sum, written)) ∧
      ∃ counts outputs rest,
        readBuffers (emptyMixer ℤ 2 1 44100) [2, 2] =
            .ok (counts, outputs, rest) ∧
          readFromMixerSync (emptyMixer ℤ 2 1 44100) 4 =
            .ok (counts.sum, outputs.flatten, rest) := by
  rcases buffer_boundaries_irrelevant (emptyMixer ℤ 2 1 44100) with
    ⟨written, read⟩
  exact
    ⟨written (.stereo 0 1) (by decide) [[1, 2], [3, 4]] (by decide),
      read (by decide) [2, 2] (by decide)⟩

end Audiopipe.Mixing.WholeFrames
