import Audiopipe.Mixing.WriteThenRead
import Audiopipe.Splitter.SampleLabels

/-!
# The input callback of the sound card

The device delivers interleaved buffers with as many channels as the mixer
has tracks; the callback writes them with the master selector.  The write
loop takes its period from the selector, not from the device, so a ring gets
another column of the buffer than the one of its channel unless the two agree
or the ring is nearly full.
-/

namespace Audiopipe.Audio.CaptureCallback

open Audiopipe.Foundation.BoundedQueues
open Audiopipe.Foundation.StridedLists
open Audiopipe.Mixing.TrackSelector
open Audiopipe.Mixing.RingTransfer
open Audiopipe.Mixing.TransferLaws
open Audiopipe.Mixing.WriteThenRead
open Audiopipe.Splitter.SampleLabels

variable {α : Type} {channelCount bufferSize : ℕ}

/--
The callback that `setup_master_input` installs.  The result of the write is
unwrapped and its counts are ignored.
-/
def inputCallback
    (masterSel : MixerTrackSelector)
    (mixer : Mixer α channelCount bufferSize) (data : List α) :
    Except (Abort Empty) (Mixer α channelCount bufferSize) :=
  match writeToMixerSync mixer data masterSel with
  | .ok (_, written) => .ok written
  | .error _ => .error .panic

/-! ## The columns that the write loop takes -/

/-- How far apart the samples lie that the write loop sends to one channel. -/
def writePeriod : MixerTrackSelector → ℕ
  | .mono _ => 1
  | .stereo l r => if l = r then 1 else 2

/-- Where the first sample lies that the write loop sends to `c`. -/
def writeOffset (sel : MixerTrackSelector) (c : ℕ) : ℕ :=
  match sel with
  | .mono _ => 0
  | .stereo l _ => if l = c then 0 else 1

theorem writePeriod_pos (sel : MixerTrackSelector) :
    0 < writePeriod sel := by
  cases sel with
  | mono c => exact Nat.one_pos
  | stereo l r =>
      by_cases same : l = r
      · simp [writePeriod, same]
      · simp [writePeriod, same]

/-- What the write loop sends to the channels of a selector. -/
theorem addressed_selected
    {sel : MixerTrackSelector} {track : MixerTrack (Fin channelCount)}
    (resolved : getChannel channelCount sel = .ok track)
    (c : Fin channelCount) (data : List α) :
    addressed track sel.channelCount 0 c data =
      if sel.contains c then
        everyNth (writePeriod sel) (writeOffset sel c) data
      else
        [] := by
  rw [addressed_eq_share resolved]
  cases sel with
  | mono m =>
      by_cases here : m = c
      · simp [share, MixerTrackSelector.contains, writePeriod, writeOffset,
          here]
      · simp [share, MixerTrackSelector.contains, here]
  | stereo l r =>
      by_cases isLeft : l = c
      · by_cases isRight : r = c
        · simp [share, MixerTrackSelector.contains, writePeriod,
            writeOffset, isLeft, isRight]
        · simp [share, MixerTrackSelector.contains, writePeriod,
            writeOffset, isLeft, Ne.symm isRight]
      · by_cases isRight : r = c
        · simp [share, MixerTrackSelector.contains, writePeriod,
            writeOffset, isLeft, isRight]
        · simp [share, MixerTrackSelector.contains, isLeft, isRight]

/-- The effect of the callback on every ring. -/
theorem inputCallback_rings
    {masterSel : MixerTrackSelector}
    (inRange : masterSel.InRange channelCount)
    (mixer : Mixer α channelCount bufferSize) (data : List α) :
    ∃ next,
      inputCallback masterSel mixer data = .ok next ∧
        ∀ c,
          next.rings c =
            if masterSel.contains c then
              (mixer.rings c).offerAll
                (everyNth (writePeriod masterSel)
                  (writeOffset masterSel c) data)
            else
              mixer.rings c := by
  rcases (getChannel_isOk_iff masterSel).mpr inRange with ⟨track, resolved⟩
  refine
    ⟨(writeSamples (.start track masterSel.channelCount) mixer data).2,
      ?_, ?_⟩
  · simp only [inputCallback, writeToMixerSync_of_resolved resolved]
  · intro c
    rw [writeSamples_rings]
    change (mixer.rings c).offerAll
        (addressed track masterSel.channelCount 0 c data) = _
    rw [addressed_selected resolved c data]
    split
    · rfl
    · rfl

/-! ## When every channel gets its own column -/

/--
The callback puts the column of each selected channel on its ring, until the
ring is full, and touches no other ring.
-/
def CapturesOwnColumns
    (masterSel : MixerTrackSelector)
    (mixer : Mixer α channelCount bufferSize) (data : List α) : Prop :=
  ∃ next,
    inputCallback masterSel mixer data = .ok next ∧
      ∀ c,
        (next.rings c).contents =
          if masterSel.contains c then
            ((mixer.rings c).contents ++
              everyNth channelCount c data).take bufferSize
          else
            (mixer.rings c).contents

/--
The write loop reads the column of each selected channel as far as its ring
has room: no further than its first sample if the period is the wrong one.
-/
def ColumnsAgree
    (masterSel : MixerTrackSelector)
    (mixer : Mixer α channelCount bufferSize) : Prop :=
  ∀ c : Fin channelCount,
    masterSel.contains c →
      (mixer.rings c).room = 0 ∨
        (writeOffset masterSel c = c ∧
          ((mixer.rings c).room = 1 ∨
            writePeriod masterSel = channelCount))

/-- Only as much of an appended list counts as there is room for. -/
theorem contents_append_take_eq_iff
    (ring : BoundedFifo α bufferSize) (first second : List α) :
    (ring.contents ++ first).take bufferSize =
        (ring.contents ++ second).take bufferSize ↔
      first.take ring.room = second.take ring.room := by
  rw [List.take_append, List.take_append,
    List.take_of_length_le ring.bounded, List.append_right_inj]
  rfl

/-- Two arithmetic progressions that start alike. -/
theorem progressions_agree_iff
    (offset offset' period period' bound : ℕ) :
    (∀ index < bound, offset + index * period = offset' + index * period') ↔
      bound = 0 ∨
        (offset = offset' ∧ (bound = 1 ∨ period = period')) := by
  constructor
  · intro agree
    by_cases noRoom : bound = 0
    · exact Or.inl noRoom
    · have atZero := agree 0 (by omega)
      by_cases one : bound = 1
      · exact Or.inr ⟨by omega, Or.inl one⟩
      · have atOne := agree 1 (by omega)
        exact Or.inr ⟨by omega, Or.inr (by omega)⟩
  · intro alike index early
    rcases alike with noRoom | ⟨sameOffset, one | samePeriod⟩
    · omega
    · have first : index = 0 := by omega
      rw [first, sameOffset, Nat.zero_mul, Nat.zero_mul]
    · rw [sameOffset, samePeriod]

/--
On a device with as many channels as the mixer has tracks, the callback
captures every buffer of whole frames right exactly when the columns of the
selector are those of the device, as far as there is room.  The column of a
channel is what the splitter labels with it.
-/
theorem captures_own_columns_iff
    {channelCount bufferSize : ℕ} {masterSel : MixerTrackSelector}
    (inRange : masterSel.InRange channelCount)
    (mixer : Mixer F32 channelCount bufferSize) :
    ((∀ data : List F32, channelCount ∣ data.length →
        CapturesOwnColumns masterSel mixer data) ↔
      ColumnsAgree masterSel mixer) ∧
    ∀ (data : List F32) (selected : List ℕ) (c : Fin channelCount),
      ∃ samples,
        ChannelSplitter.collect ⟨data, selected, channelCount, 0⟩ =
            .ok samples ∧
          onChannel c samples = everyNth channelCount c data := by
  have pointwise :
      ∀ data : List F32,
        CapturesOwnColumns masterSel mixer data ↔
          ∀ c : Fin channelCount,
            masterSel.contains c →
              (everyNth (writePeriod masterSel)
                  (writeOffset masterSel c) data).take
                  (mixer.rings c).room =
                (everyNth channelCount c data).take
                  (mixer.rings c).room := by
    intro data
    rcases inputCallback_rings inRange mixer data with
      ⟨next, written, rings⟩
    constructor
    · rintro ⟨next', written', captured⟩ c selected
      have same : next' = next :=
        Except.ok.inj (written'.symm.trans written)
      have column := captured c
      rw [same, rings c, if_pos selected, if_pos selected,
        BoundedFifo.offerAll_contents] at column
      exact (contents_append_take_eq_iff _ _ _).mp column
    · intro agree
      refine ⟨next, written, fun c => ?_⟩
      rw [rings c]
      by_cases selected : masterSel.contains c = true
      · rw [if_pos selected, if_pos selected,
          BoundedFifo.offerAll_contents]
        exact (contents_append_take_eq_iff _ _ _).mpr (agree c selected)
      · rw [if_neg selected, if_neg selected]
  constructor
  · have different : Nontrivial F32 :=
      ⟨⟨0⟩, ⟨1⟩, by decide⟩
    constructor
    · intro captured c selected
      have positive : 0 < channelCount :=
        Nat.lt_of_le_of_lt (Nat.zero_le _) c.isLt
      rw [← progressions_agree_iff,
        ← take_everyNth_eq_iff (α := F32) (writePeriod_pos masterSel)
          positive positive]
      intro data whole
      exact (pointwise data).mp (captured data whole) c selected
    · intro agree data whole
      refine (pointwise data).mpr fun c selected => ?_
      have positive : 0 < channelCount :=
        Nat.lt_of_le_of_lt (Nat.zero_le _) c.isLt
      have positions :=
        (progressions_agree_iff _ _ _ _ _).mpr (agree c selected)
      exact
        (take_everyNth_eq_iff (α := F32) (writePeriod_pos masterSel)
          positive positive _ _ _).mpr positions data whole
  · intro data selected c
    exact
      @onChannel_collect _ ⟨data, selected, channelCount, 0⟩ c c.isLt rfl

/-- A stereo device captured as its two channels. -/
theorem captures_own_columns_iff_stereo :
    MixerTrackSelector.InRange (.stereo 0 1) 2 ∧
      ∀ data : List F32, 2 ∣ data.length →
        CapturesOwnColumns (.stereo 0 1) (emptyMixer F32 2 64 44100)
          data := by
  refine ⟨by decide, ?_⟩
  refine
    (@captures_own_columns_iff _ _ (.stereo 0 1) (by decide)
      (emptyMixer F32 2 64 44100)).1.mpr ?_
  exact fun c _ => Or.inr ⟨by revert c; decide, Or.inr rfl⟩

/-- The right channel of a stereo device captured alone gets the left too. -/
theorem mono_capture_mixes_columns :
    ∃ data : List F32,
      2 ∣ data.length ∧
        ¬ CapturesOwnColumns (.mono 1) (emptyMixer F32 2 64 44100)
          data := by
  refine ⟨[⟨1⟩, ⟨2⟩], by decide, ?_⟩
  rintro ⟨next, written, captured⟩
  cases written
  exact absurd (captured 1) (by decide)

end Audiopipe.Audio.CaptureCallback
