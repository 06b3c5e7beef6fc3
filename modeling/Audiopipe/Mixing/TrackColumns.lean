import Audiopipe.Mixing.WriteThenRead
import Mathlib.Algebra.Group.Prod
import Mathlib.Data.List.Nodup

/-!
# Reading a track and reading the mixer

The loop over a track alternates between the channels of the track, the loop
over the mixer goes round all its channels.  Both take from a ring once per
frame, so frame `i` of either gets sample `i` of each ring it visits, or
silence.  A track read is therefore the read of the whole mixer with the
other columns left out, and it leaves the other rings alone.
-/

namespace Audiopipe.Mixing.TrackColumns

open Audiopipe.Foundation.BoundedQueues
open Audiopipe.Foundation.StridedLists
open Audiopipe.Mixing.TrackSelector
open Audiopipe.Mixing.RingTransfer
open Audiopipe.Mixing.TransferLaws
open Audiopipe.Mixing.WriteThenRead

variable {α : Type} {channelCount bufferSize : ℕ}

/-! ## The law of the track loop -/

/-- The rings of a list of channels that are popped one after another. -/
theorem foldl_popRing_contents
    (channels : List (Fin channelCount)) (distinct : channels.Nodup)
    (mixer : Mixer α channelCount bufferSize) (c : Fin channelCount) :
    ((channels.foldl popRing mixer).rings c).contents =
      if c ∈ channels then
        (mixer.rings c).contents.drop 1
      else
        (mixer.rings c).contents := by
  induction channels generalizing mixer with
  | nil => simp
  | cons first rest induction =>
      rcases List.nodup_cons.mp distinct with ⟨fresh, distinctRest⟩
      rw [List.foldl_cons, induction distinctRest, popRing_contents]
      by_cases here : c = first
      · subst here
        simp [fresh]
      · simp [here]

/-- The locals of the track loop at the start of a frame. -/
def frameStart
    (track : MixerTrack (Fin channelCount)) (counts : ℕ × ℕ) :
    TrackCursor channelCount where
  track := track
  cycle := track.channelCount
  ch := 0
  consumed := counts.1
  dropped := counts.2

/-- The first frame takes the front of the ring of each channel. -/
theorem readTrackSamples_frame [Sample α]
    {track : MixerTrack (Fin channelCount)}
    (distinct : track.channels.Nodup) (counts : ℕ × ℕ)
    (mixer : Mixer α channelCount bufferSize) (length : ℕ) :
    readTrackSamples (frameStart track counts) mixer
        (length + track.channelCount) =
      let final :=
        readTrackSamples
          (frameStart track
            (counts +
              (track.channels.map fun c =>
                tally (mixer.rings c).contents[0]?).sum))
          (track.channels.foldl popRing mixer) length
      (final.1,
        (track.channels.map fun c =>
          (mixer.rings c).contents[0]?.getD Sample.EQUILIBRIUM) ++
          final.2.1,
        final.2.2) := by
  cases track with
  | mono c =>
      show readTrackSamples (frameStart (.mono c) counts) mixer
          (length + 1) = _
      rw [readTrackSamples, readTrackSample_eq]
      simp [frameStart, attempted, TrackCursor.channel, TrackCursor.nextCh,
        MixerTrack.advance, MixerTrack.channels, MixerTrack.channelCount]
  | stereo l r =>
      have different : r ≠ l := by
        have inOrder : l ≠ r := by
          simpa [MixerTrack.channels] using distinct
        exact inOrder.symm
      have untouched :
          ((popRing mixer l).rings r).contents =
            (mixer.rings r).contents := by
        rw [popRing_contents, if_neg different]
      show readTrackSamples (frameStart (.stereo l r) counts) mixer
          (length + 1 + 1) = _
      rw [readTrackSamples, readTrackSample_eq, readTrackSamples,
        readTrackSample_eq]
      simp [frameStart, attempted, TrackCursor.channel, TrackCursor.nextCh,
        MixerTrack.advance, MixerTrack.channels, MixerTrack.channelCount,
        untouched, Nat.add_assoc]

/-- Frame by frame, the track loop takes one sample from each ring. -/
theorem readTrackSamples_frames [Sample α]
    {track : MixerTrack (Fin channelCount)}
    (distinct : track.channels.Nodup) (counts : ℕ × ℕ)
    (mixer : Mixer α channelCount bufferSize) (frames : ℕ) :
    ∃ rest,
      readTrackSamples (frameStart track counts) mixer
          (frames * track.channelCount) =
        (frameStart track
            (counts +
              (byRows frames track.channels fun frame c =>
                tally (mixer.rings c).contents[frame]?).sum),
          byRows frames track.channels (fun frame c =>
            (mixer.rings c).contents[frame]?.getD Sample.EQUILIBRIUM),
          rest) ∧
        ∀ c,
          (rest.rings c).contents =
            if c ∈ track.channels then
              (mixer.rings c).contents.drop frames
            else
              (mixer.rings c).contents := by
  induction frames generalizing counts mixer with
  | zero =>
      refine ⟨mixer, ?_, fun c => by simp⟩
      simp [byRows, readTrackSamples]
  | succ frames induction =>
      have popped :=
        foldl_popRing_contents track.channels distinct mixer
      have later :
          ∀ frame,
            ∀ c ∈ track.channels,
              ((track.channels.foldl popRing mixer).rings c).contents[
                  frame]? =
                (mixer.rings c).contents[frame + 1]? := by
        intro frame c member
        rw [popped c, if_pos member, List.getElem?_drop, Nat.add_comm]
      rcases induction
          (counts +
            (track.channels.map fun c =>
              tally (mixer.rings c).contents[0]?).sum)
          (track.channels.foldl popRing mixer) with
        ⟨rest, read, remaining⟩
      have sameTallies :=
        byRows_congr
          (fun frame c member => congrArg tally (later frame c member))
          frames
      have sameSamples :=
        byRows_congr
          (fun frame c member =>
            congrArg (·.getD Sample.EQUILIBRIUM) (later frame c member))
          frames
      refine ⟨rest, ?_, ?_⟩
      · rw [Nat.succ_mul, readTrackSamples_frame distinct, read, byRows_succ,
          byRows_succ, List.sum_append, add_assoc, sameTallies, sameSamples]
      · intro c
        rw [remaining c, popped c]
        by_cases member : c ∈ track.channels
        · simp [member]
        · simp [member]

/-- The law of `read_from_mixer_track_async` for whole frames. -/
theorem readFromMixerTrackAsync_frames [Sample α]
    {track : MixerTrack (Fin channelCount)}
    (distinct : track.channels.Nodup)
    (mixer : Mixer α channelCount bufferSize) (frames : ℕ) :
    ∃ rest,
      readFromMixerTrackAsync mixer track (frames * track.channelCount) =
        ((byRows frames track.channels fun frame c =>
            tally (mixer.rings c).contents[frame]?).sum,
          byRows frames track.channels (fun frame c =>
            (mixer.rings c).contents[frame]?.getD Sample.EQUILIBRIUM),
          rest) ∧
        ∀ c,
          (rest.rings c).contents =
            if c ∈ track.channels then
              (mixer.rings c).contents.drop frames
            else
              (mixer.rings c).contents := by
  rcases readTrackSamples_frames distinct (0, 0) mixer frames with
    ⟨rest, read, remaining⟩
  refine ⟨rest, ?_, remaining⟩
  have unfolded :
      readFromMixerTrackAsync mixer track (frames * track.channelCount) =
        let final :=
          readTrackSamples (frameStart track (0, 0)) mixer
            (frames * track.channelCount)
        ((final.1.consumed, final.1.dropped), final.2.1, final.2.2) :=
    rfl
  rw [unfolded, read]
  simp [frameStart]

/-! ## The counts of the whole read, position by position -/

/-- What each iteration of a read over the whole mixer adds to its counts. -/
def readMixerCounts [Sample α]
    (cursor : MixerCursor) (mixer : Mixer α channelCount bufferSize) :
    ℕ → Except (Abort MixerError) (List (ℕ × ℕ))
  | 0 => .ok []
  | length + 1 => do
      let next ← readMixerSample cursor mixer
      let counts ← readMixerCounts next.1 next.2.2 length
      return (next.1.consumed - cursor.consumed,
        next.1.dropped - cursor.dropped) :: counts

/-- The log lists what every position found, and adds up to the counts. -/
theorem readMixerCounts_found [Sample α]
    (positive : 0 < channelCount) (cursor : MixerCursor)
    (mixer : Mixer α channelCount bufferSize) (length : ℕ) :
    ∃ counts final,
      readMixerCounts cursor mixer length = .ok counts ∧
        readMixerSamples cursor mixer length = .ok final ∧
        (final.1.consumed, final.1.dropped) =
          (cursor.consumed, cursor.dropped) + counts.sum ∧
        ∀ i < length,
          counts[i]? = some (tally (found positive mixer cursor.ch i)) := by
  induction length generalizing cursor mixer with
  | zero =>
      refine ⟨[], (cursor, [], mixer), rfl, rfl, by simp, ?_⟩
      intro i early
      exact absurd early (Nat.not_lt_zero i)
  | succ length induction =>
      rcases readMixerSample_ok positive cursor mixer with
        ⟨next, read, counter, _, _, taken⟩
      have counted := readMixerSample_tally positive read
      have shift := found_succ positive taken
      rw [← counter] at shift
      rcases induction next.1 next.2.2 with
        ⟨counts, final, logged, readRest, total, entries⟩
      have added :
          (next.1.consumed - cursor.consumed,
              next.1.dropped - cursor.dropped) =
            tally (found positive mixer cursor.ch 0) := by
        rw [Prod.ext_iff] at counted ⊢
        simp only [Prod.fst_add, Prod.snd_add] at counted ⊢
        omega
      refine
        ⟨tally (found positive mixer cursor.ch 0) :: counts,
          (final.1, next.2.1 :: final.2.1, final.2.2), ?_, ?_, ?_, ?_⟩
      · simp only [readMixerCounts, read, logged, bind, Except.bind, added]
        rfl
      · exact readMixerSamples_succ read readRest
      · rw [List.sum_cons, total, counted, add_assoc]
      · intro i early
        cases i with
        | zero => rfl
        | succ i =>
            rw [List.getElem?_cons_succ,
              entries i (Nat.lt_of_succ_lt_succ early), shift]

/-! ## The columns of a read -/

/-- In frame `frame`, a whole read finds the sample of that frame. -/
theorem found_frame
    (positive : 0 < channelCount)
    (mixer : Mixer α channelCount bufferSize) (frame : ℕ)
    (c : Fin channelCount) :
    found positive mixer MixerCursor.start.ch (frame * channelCount + c) =
      (mixer.rings c).contents[frame]? := by
  have sameFrame : (frame * channelCount + c) / channelCount = frame := by
    rw [Nat.mul_comm, Nat.mul_add_div positive, Nat.div_eq_of_lt c.isLt,
      Nat.add_zero]
  have sameChannel :
      channelAt positive (frame * channelCount + c) = c := by
    apply Fin.ext
    show (frame * channelCount + c) % channelCount = c
    rw [Nat.mul_comm, Nat.mul_add_mod, Nat.mod_eq_of_lt c.isLt]
  rw [found_start, sameFrame, sameChannel]

/-- A position in a frame of a buffer of whole frames is in the buffer. -/
theorem position_lt
    {frame frames : ℕ} (early : frame < frames) (c : Fin channelCount) :
    frame * channelCount + c < frames * channelCount := by
  have inFrame : (frame + 1) * channelCount ≤ frames * channelCount :=
    Nat.mul_le_mul_right _ early
  rw [Nat.succ_mul] at inFrame
  omega

/--
The law of `read_from_mixer_async` for whole frames, with its counts position
by position, as seen through the columns of some channels.
-/
theorem readFromMixerAsync_columns [Sample α]
    (positive : 0 < channelCount)
    (mixer : Mixer α channelCount bufferSize)
    (channels : List (Fin channelCount)) (frames : ℕ) :
    ∃ total whole rest counts,
      readFromMixerAsync mixer (frames * channelCount) =
          .ok (total, whole, rest) ∧
        readMixerCounts .start mixer (frames * channelCount) = .ok counts ∧
        counts.sum = total ∧
        keepColumns channelCount frames (channels.map Fin.val) counts =
          (byRows frames channels fun frame c =>
            tally (mixer.rings c).contents[frame]?) ∧
        keepColumns channelCount frames (channels.map Fin.val) whole =
          (byRows frames channels fun frame c =>
            (mixer.rings c).contents[frame]?.getD Sample.EQUILIBRIUM) ∧
        ∀ c,
          (rest.rings c).contents =
            (mixer.rings c).contents.drop frames := by
  rcases readMixerCounts_found positive .start mixer
      (frames * channelCount) with
    ⟨counts, final, logged, read, total, entries⟩
  rcases readMixerSamples_found positive .start mixer
      (frames * channelCount) with
    ⟨same, readSame, output, _⟩
  cases read.symm.trans readSame
  rcases readFromMixerSync_frames positive mixer frames with
    ⟨_, _, _, returned, _, taken⟩
  cases (readFromMixerSync_of_ok read).symm.trans returned
  refine
    ⟨_, _, _, counts, readFromMixerSync_of_ok read, logged, ?_, ?_, ?_,
      taken⟩
  · rw [total]
    exact (zero_add _).symm
  · apply keepColumns_map
    intro frame early c _
    rw [entries _ (position_lt early c), found_frame]
  · apply keepColumns_map
    intro frame early c _
    rw [output _ (position_lt early c), found_frame]

/-- The channels of the track are those the selector names, in its order. -/
theorem getChannel_channels
    {sel : MixerTrackSelector} {track : MixerTrack (Fin channelCount)}
    (resolved : getChannel channelCount sel = .ok track) :
    track.channels.map Fin.val = sel.channels ∧
      track.channelCount = sel.channelCount := by
  have inRange : sel.InRange channelCount :=
    (getChannel_isOk_iff sel).mp ⟨track, resolved⟩
  cases sel with
  | mono c =>
      rw [getChannel_mono inRange] at resolved
      cases resolved
      exact ⟨rfl, rfl⟩
  | stereo l r =>
      rw [getChannel_stereo inRange.1 inRange.2] at resolved
      cases resolved
      exact ⟨rfl, rfl⟩

/-- A track has a channel exactly when its selector names it. -/
theorem mem_track_channels
    {sel : MixerTrackSelector} {track : MixerTrack (Fin channelCount)}
    (resolved : getChannel channelCount sel = .ok track)
    (c : Fin channelCount) :
    c ∈ track.channels ↔ sel.contains c = true := by
  rw [← sel.mem_channels, ← (getChannel_channels resolved).1,
    List.mem_map_of_injective Fin.val_injective]

/--
A read of whole frames from a track puts out the selected columns of what a
read of the whole mixer puts out, and counts what that read counts at the
selected positions.  Both leave the selected rings alike, and the track read
leaves the other rings as they were.
-/
theorem track_read_keeps_columns [Sample α]
    (mixer : Mixer α channelCount bufferSize) {sel : MixerTrackSelector}
    (inRange : sel.InRange channelCount) (distinct : sel.channels.Nodup)
    (frames : ℕ) :
    ∃ track total whole wholeRest counts rest,
      getChannel channelCount sel = .ok track ∧
        readFromMixerAsync mixer (frames * channelCount) =
          .ok (total, whole, wholeRest) ∧
        readMixerCounts .start mixer (frames * channelCount) = .ok counts ∧
        counts.sum = total ∧
        readFromMixerTrackAsync mixer track (frames * sel.channelCount) =
          ((keepColumns channelCount frames sel.channels counts).sum,
            keepColumns channelCount frames sel.channels whole, rest) ∧
        (∀ c : Fin channelCount,
          sel.contains c = true → rest.rings c = wholeRest.rings c) ∧
        ∀ c : Fin channelCount,
          sel.contains c = false → rest.rings c = mixer.rings c := by
  rcases (getChannel_isOk_iff sel).mpr inRange with ⟨track, resolved⟩
  rcases getChannel_channels resolved with ⟨names, sameWidth⟩
  have positive : 0 < channelCount :=
    (track.pick 0).pos
  have distinctTrack : track.channels.Nodup := by
    rw [← names] at distinct
    exact distinct.of_map
  rcases readFromMixerTrackAsync_frames distinctTrack mixer frames with
    ⟨rest, readTrack, restRings⟩
  rcases
      readFromMixerAsync_columns positive mixer track.channels frames with
    ⟨total, whole, wholeRest, counts, readWhole, logged, summed, keptCounts,
      keptSamples, wholeRings⟩
  rw [names] at keptCounts keptSamples
  rw [sameWidth] at readTrack
  refine
    ⟨track, total, whole, wholeRest, counts, rest, resolved, readWhole,
      logged, summed, ?_, ?_, ?_⟩
  · rw [readTrack, keptCounts, keptSamples]
  · intro c named
    apply BoundedFifo.ext
    rw [restRings c, if_pos ((mem_track_channels resolved c).mpr named),
      wholeRings c]
  · intro c unnamed
    have absent : c ∉ track.channels := by
      rw [mem_track_channels resolved c, unnamed]
      exact Bool.false_ne_true
    apply BoundedFifo.ext
    rw [restRings c, if_neg absent]

/-- A frame read with the sides exchanged, from a mixer with one sample. -/
theorem track_read_keeps_columns_exchanged :
    ∃ track total whole wholeRest counts rest,
      getChannel 2 (.stereo 1 0) = .ok track ∧
        readFromMixerAsync fullLeft 2 = .ok (total, whole, wholeRest) ∧
        readMixerCounts .start fullLeft 2 = .ok counts ∧
        readFromMixerTrackAsync fullLeft track 2 =
          ((keepColumns 2 1 [1, 0] counts).sum, keepColumns 2 1 [1, 0] whole,
            rest) := by
  have inRange : (MixerTrackSelector.stereo 1 0).InRange 2 := by decide
  rcases track_read_keeps_columns fullLeft inRange (by decide) 1 with
    ⟨track, total, whole, wholeRest, counts, rest, resolved, readWhole,
      logged, _, readTrack, _⟩
  exact
    ⟨track, total, whole, wholeRest, counts, rest, resolved, readWhole,
      logged, readTrack⟩

end Audiopipe.Mixing.TrackColumns
