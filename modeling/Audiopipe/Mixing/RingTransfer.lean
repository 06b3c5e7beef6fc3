import Audiopipe.Foundation.BoundedQueues
import Audiopipe.Mixing.TrackSelector
import Mathlib.Logic.Function.Basic

/-!
# The mixer and its transfer loops

A mixer is one bounded ring per channel.  Its two ends share the rings, so
one value models both.  The channel count and the capacity are fixed when
`customMixer` builds it and are part of the type.

The five transfer loops of the source are three loop bodies.
`write_to_mixer_sync` and `write_to_mixer_async` run `writeSample`,
`read_from_mixer_track_async` runs `readTrackSample`, and
`read_from_mixer_sync` and `read_from_mixer_async` run `readMixerSample`.  A
loop body locks one ring, makes one attempt on it and unlocks it, which is
also the granularity at which concurrent calls interleave.
-/

namespace Audiopipe.Mixing.RingTransfer

open Audiopipe.Foundation.BoundedQueues
open Audiopipe.Mixing.TrackSelector

/-- The rings of a mixer with what its ends know about them. -/
structure Mixer (α : Type) (channelCount bufferSize : ℕ) where
  sampleRate : ℕ
  rings : Fin channelCount → BoundedFifo α bufferSize

/-- How a call ends that does not return `Ok`. -/
inductive Abort (ε : Type) where
  | error (e : ε)
  | panic
deriving DecidableEq, Repr

/-- The mixer that `custom_mixer` puts together: every ring is empty. -/
def emptyMixer
    (α : Type) (chcount bufsizePerChannel sampleRate : ℕ) :
    Mixer α chcount bufsizePerChannel where
  sampleRate := sampleRate
  rings := fun _ => BoundedFifo.empty α bufsizePerChannel

/-- `custom_mixer`; a ring without places cannot be made. -/
def customMixer
    (α : Type) (chcount bufsizePerChannel sampleRate : ℕ) :
    Except (Abort Empty) (Mixer α chcount bufsizePerChannel) :=
  if 0 < chcount ∧ bufsizePerChannel = 0 then
    .error .panic
  else
    .ok (emptyMixer α chcount bufsizePerChannel sampleRate)

/-- A mixer that was made is empty, and its rings have places. -/
theorem customMixer_eq_ok_iff
    {α : Type} {chcount bufsizePerChannel sampleRate : ℕ}
    {mixer : Mixer α chcount bufsizePerChannel} :
    customMixer α chcount bufsizePerChannel sampleRate = .ok mixer ↔
      (0 < chcount → 0 < bufsizePerChannel) ∧
        mixer = emptyMixer α chcount bufsizePerChannel sampleRate := by
  unfold customMixer
  split
  · next impossible =>
      constructor
      · intro made
        cases made
      · rintro ⟨places, _⟩
        have positive := places impossible.1
        omega
  · next possible =>
      constructor
      · intro made
        cases made
        exact ⟨by omega, rfl⟩
      · rintro ⟨_, rfl⟩
        rfl

variable {α : Type} {channelCount bufferSize : ℕ}

/-- The mixer after one operation on the ring of a channel. -/
def Mixer.setRing
    (mixer : Mixer α channelCount bufferSize)
    (c : Fin channelCount) (ring : BoundedFifo α bufferSize) :
    Mixer α channelCount bufferSize :=
  { mixer with rings := Function.update mixer.rings c ring }

@[simp]
theorem Mixer.setRing_rings_self
    (mixer : Mixer α channelCount bufferSize)
    (c : Fin channelCount) (ring : BoundedFifo α bufferSize) :
    (mixer.setRing c ring).rings c = ring := by
  simp [setRing]

theorem Mixer.setRing_rings_of_ne
    (mixer : Mixer α channelCount bufferSize)
    {c other : Fin channelCount} (different : other ≠ c)
    (ring : BoundedFifo α bufferSize) :
    (mixer.setRing c ring).rings other = mixer.rings other := by
  simp [setRing, different]

/-! ## Looking channels up -/

/-- `get_raw_channel`: a ring is referred to by its channel index. -/
def getRawChannel (channelCount channel : ℕ) :
    Except MixerError (Fin channelCount) :=
  if inside : channel < channelCount then
    .ok ⟨channel, inside⟩
  else
    .error .inputChannelNotFound

/-- `get_channel`. -/
def getChannel (channelCount : ℕ) :
    MixerTrackSelector →
      Except MixerError (MixerTrack (Fin channelCount))
  | .stereo l r => do
      let left ← getRawChannel channelCount l
      let right ← getRawChannel channelCount r
      return .stereo left right
  | .mono c => do
      let raw ← getRawChannel channelCount c
      return .mono raw

theorem getRawChannel_of_lt
    {channel : ℕ} (inside : channel < channelCount) :
    getRawChannel channelCount channel = .ok ⟨channel, inside⟩ := by
  simp [getRawChannel, inside]

theorem getRawChannel_of_not_lt
    {channel : ℕ} (outside : ¬ channel < channelCount) :
    getRawChannel channelCount channel =
      .error .inputChannelNotFound := by
  simp [getRawChannel, outside]

@[simp]
theorem getChannel_mono
    {c : ℕ} (inside : c < channelCount) :
    getChannel channelCount (.mono c) = .ok (.mono ⟨c, inside⟩) := by
  simp only [getChannel, getRawChannel_of_lt inside]
  rfl

@[simp]
theorem getChannel_stereo
    {l r : ℕ} (leftInside : l < channelCount)
    (rightInside : r < channelCount) :
    getChannel channelCount (.stereo l r) =
      .ok (.stereo ⟨l, leftInside⟩ ⟨r, rightInside⟩) := by
  simp only [getChannel, getRawChannel_of_lt leftInside,
    getRawChannel_of_lt rightInside]
  rfl

/-- A selector resolves exactly when all its channels exist. -/
theorem getChannel_isOk_iff (sel : MixerTrackSelector) :
    (∃ track, getChannel channelCount sel = .ok track) ↔
      sel.InRange channelCount := by
  cases sel with
  | mono c =>
      by_cases inside : c < channelCount
      · simp [inside, MixerTrackSelector.InRange]
      · simp only [getChannel, getRawChannel_of_not_lt inside]
        simp [inside, MixerTrackSelector.InRange, bind, Except.bind]
  | stereo l r =>
      by_cases leftInside : l < channelCount
      · by_cases rightInside : r < channelCount
        · simp [leftInside, rightInside, MixerTrackSelector.InRange]
        · simp only [getChannel, getRawChannel_of_lt leftInside,
            getRawChannel_of_not_lt rightInside]
          simp [rightInside, MixerTrackSelector.InRange, bind,
            Except.bind]
      · simp only [getChannel, getRawChannel_of_not_lt leftInside]
        simp [leftInside, MixerTrackSelector.InRange, bind, Except.bind]

/-! ## Transfers along a track -/

/--
The local variables of a loop that transfers samples along a track.  `cycle`
is the modulus of the channel counter: `sel.channel_count()` in the write
loops and `mt.channel_count()` in the read loop.
-/
structure TrackCursor (channelCount : ℕ) where
  track : MixerTrack (Fin channelCount)
  cycle : ℕ
  ch : ℕ
  consumed : ℕ
  dropped : ℕ

namespace TrackCursor

/-- The locals before the first iteration. -/
def start (track : MixerTrack (Fin channelCount)) (cycle : ℕ) :
    TrackCursor channelCount where
  track := track
  cycle := cycle
  ch := 0
  consumed := 0
  dropped := 0

/-- The channel that the next iteration locks. -/
def channel (cursor : TrackCursor channelCount) : Fin channelCount :=
  cursor.track.pick cursor.ch

/-- The channel counter after the next iteration. -/
def nextCh (cursor : TrackCursor channelCount) : ℕ :=
  cursor.track.advance cursor.cycle cursor.ch

/-- An iteration that reached its ring. -/
def hit (cursor : TrackCursor channelCount) :
    TrackCursor channelCount :=
  { cursor with
    ch := cursor.nextCh
    consumed := cursor.consumed + 1 }

/-- An iteration that found its ring full, or empty. -/
def miss (cursor : TrackCursor channelCount) :
    TrackCursor channelCount :=
  { cursor with
    ch := cursor.nextCh
    dropped := cursor.dropped + 1 }

end TrackCursor

/-- The body of the write loops. -/
def writeSample
    (cursor : TrackCursor channelCount)
    (mixer : Mixer α channelCount bufferSize) (o : α) :
    TrackCursor channelCount × Mixer α channelCount bufferSize :=
  match (mixer.rings cursor.channel).tryPush o with
  | some ring => (cursor.hit, mixer.setRing cursor.channel ring)
  | none => (cursor.miss, mixer)

/-- A write loop over the rest of its input buffer. -/
def writeSamples
    (cursor : TrackCursor channelCount)
    (mixer : Mixer α channelCount bufferSize) :
    List α → TrackCursor channelCount × Mixer α channelCount bufferSize
  | [] => (cursor, mixer)
  | o :: rest =>
      let next := writeSample cursor mixer o
      writeSamples next.1 next.2 rest

/-- `write_to_mixer_async`; a failed lookup is not reported. -/
def writeToMixerAsync
    (mixer : Mixer α channelCount bufferSize)
    (inputBuffer : List α) (sel : MixerTrackSelector) :
    (ℕ × ℕ) × Mixer α channelCount bufferSize :=
  match getChannel channelCount sel with
  | .ok track =>
      let final :=
        writeSamples (.start track sel.channelCount) mixer inputBuffer
      ((final.1.consumed, final.1.dropped), final.2)
  | .error _ => ((0, 0), mixer)

/-- `write_to_mixer_sync`. -/
def writeToMixerSync
    (mixer : Mixer α channelCount bufferSize)
    (inputBuffer : List α) (sel : MixerTrackSelector) :
    Except MixerError
      ((ℕ × ℕ) × Mixer α channelCount bufferSize) := do
  let track ← getChannel channelCount sel
  let final :=
    writeSamples (.start track sel.channelCount) mixer inputBuffer
  return ((final.1.consumed, final.1.dropped), final.2)

/-- What a pop puts out: the popped sample, or silence. -/
def popOrSilence [Sample α] (ring : BoundedFifo α bufferSize) : α :=
  match ring.tryPop with
  | some (v, _) => v
  | none => Sample.EQUILIBRIUM

/-- The body of the loop of `read_from_mixer_track_async`. -/
def readTrackSample [Sample α]
    (cursor : TrackCursor channelCount)
    (mixer : Mixer α channelCount bufferSize) :
    TrackCursor channelCount × α × Mixer α channelCount bufferSize :=
  match (mixer.rings cursor.channel).tryPop with
  | some (v, ring) =>
      (cursor.hit, v, mixer.setRing cursor.channel ring)
  | none => (cursor.miss, Sample.EQUILIBRIUM, mixer)

/-- The loop of `read_from_mixer_track_async` over the rest of its buffer. -/
def readTrackSamples [Sample α]
    (cursor : TrackCursor channelCount)
    (mixer : Mixer α channelCount bufferSize) :
    ℕ → TrackCursor channelCount × List α ×
      Mixer α channelCount bufferSize
  | 0 => (cursor, [], mixer)
  | length + 1 =>
      let next := readTrackSample cursor mixer
      let final := readTrackSamples next.1 next.2.2 length
      (final.1, next.2.1 :: final.2.1, final.2.2)

/-- `read_from_mixer_track_async` into a buffer of `length` samples. -/
def readFromMixerTrackAsync [Sample α]
    (mixer : Mixer α channelCount bufferSize)
    (mt : MixerTrack (Fin channelCount)) (length : ℕ) :
    (ℕ × ℕ) × List α × Mixer α channelCount bufferSize :=
  let final :=
    readTrackSamples (.start mt mt.channelCount) mixer length
  ((final.1.consumed, final.1.dropped), final.2.1, final.2.2)

/-! ## Transfers out of the whole mixer -/

/-- The local variables of a loop that reads the whole mixer. -/
structure MixerCursor where
  ch : ℕ
  consumed : ℕ
  dropped : ℕ
deriving DecidableEq, Repr

namespace MixerCursor

def start : MixerCursor where
  ch := 0
  consumed := 0
  dropped := 0

/-- An iteration that popped a sample. -/
def hit (cursor : MixerCursor) : MixerCursor :=
  { cursor with ch := cursor.ch + 1, consumed := cursor.consumed + 1 }

/-- An iteration that found its ring empty. -/
def miss (cursor : MixerCursor) : MixerCursor :=
  { cursor with ch := cursor.ch + 1, dropped := cursor.dropped + 1 }

end MixerCursor

/--
The body of the loops of `read_from_mixer_sync` and `read_from_mixer_async`.
The remainder by the channel count panics on a mixer without channels.
-/
def readMixerSample [Sample α]
    (cursor : MixerCursor)
    (mixer : Mixer α channelCount bufferSize) :
    Except (Abort MixerError)
      (MixerCursor × α × Mixer α channelCount bufferSize) :=
  if channelCount = 0 then
    .error .panic
  else
    match getRawChannel channelCount (cursor.ch % channelCount) with
    | .error e => .error (.error e)
    | .ok c =>
        match (mixer.rings c).tryPop with
        | some (v, ring) => .ok (cursor.hit, v, mixer.setRing c ring)
        | none => .ok (cursor.miss, Sample.EQUILIBRIUM, mixer)

/-- The loop over the whole mixer for the rest of its output buffer. -/
def readMixerSamples [Sample α]
    (cursor : MixerCursor)
    (mixer : Mixer α channelCount bufferSize) :
    ℕ → Except (Abort MixerError)
      (MixerCursor × List α × Mixer α channelCount bufferSize)
  | 0 => .ok (cursor, [], mixer)
  | length + 1 => do
      let next ← readMixerSample cursor mixer
      let final ← readMixerSamples next.1 next.2.2 length
      return (final.1, next.2.1 :: final.2.1, final.2.2)

/-- `read_from_mixer_sync` into a buffer of `length` samples. -/
def readFromMixerSync [Sample α]
    (mixer : Mixer α channelCount bufferSize) (length : ℕ) :
    Except (Abort MixerError)
      ((ℕ × ℕ) × List α × Mixer α channelCount bufferSize) := do
  let final ← readMixerSamples .start mixer length
  return ((final.1.consumed, final.1.dropped), final.2.1, final.2.2)

/-- `read_from_mixer_async` has the loop of the synchronous read. -/
def readFromMixerAsync [Sample α]
    (mixer : Mixer α channelCount bufferSize) (length : ℕ) :
    Except (Abort MixerError)
      ((ℕ × ℕ) × List α × Mixer α channelCount bufferSize) := do
  let final ← readMixerSamples .start mixer length
  return ((final.1.consumed, final.1.dropped), final.2.1, final.2.2)

end Audiopipe.Mixing.RingTransfer
