import Audiopipe.Foundation.StridedLists
import Audiopipe.Mixing.RingTransfer
import Mathlib.Data.Nat.Count
import Mathlib.Data.Int.CardIntervalMod

/-!
# What the transfer loops compute

One law for each loop.  A write loop offers to every ring the samples that
the selector addresses to it, in order, and loses a sample exactly when some
ring has no room left for its share.  A read loop over the whole mixer visits
the channels cyclically and takes one sample from a ring for each visit.
-/

namespace Audiopipe.Mixing.TransferLaws

open Audiopipe.Foundation.BoundedQueues
open Audiopipe.Foundation.StridedLists
open Audiopipe.Mixing.TrackSelector
open Audiopipe.Mixing.RingTransfer

variable {α : Type} {channelCount bufferSize : ℕ}

/-! ## Addressing -/

/--
The samples of an input buffer that a write loop sends to channel `c`, in
order, when it starts with channel counter `ch`.
-/
def addressed
    (track : MixerTrack (Fin channelCount)) (cycle ch : ℕ)
    (c : Fin channelCount) : List α → List α
  | [] => []
  | o :: rest =>
      if track.pick ch = c then
        o :: addressed track cycle (track.advance cycle ch) c rest
      else
        addressed track cycle (track.advance cycle ch) c rest

/-- A mono track sends everything to its channel. -/
theorem addressed_mono
    (c : Fin channelCount) (cycle ch : ℕ) (input : List α) :
    addressed (.mono c) cycle ch c input = input := by
  induction input with
  | nil => rfl
  | cons o rest induction =>
      simpa [addressed, MixerTrack.advance] using induction

/-- A stereo track with one channel on both sides is like a mono track. -/
theorem addressed_stereo_same
    (c : Fin channelCount) (cycle ch : ℕ) (input : List α) :
    addressed (.stereo c c) cycle ch c input = input := by
  induction input generalizing ch with
  | nil => rfl
  | cons o rest induction =>
      simp only [addressed, MixerTrack.pick, ite_self, if_true]
      rw [induction]

/-- The sides of a stereo track take turns. -/
theorem addressed_stereo_sides
    {l r : Fin channelCount} (different : l ≠ r) (input : List α) :
    (addressed (.stereo l r) 2 0 l input = everyNth 2 0 input ∧
        addressed (.stereo l r) 2 0 r input = everyNth 2 1 input) ∧
      (addressed (.stereo l r) 2 1 l input = everyNth 2 1 input ∧
        addressed (.stereo l r) 2 1 r input = everyNth 2 0 input) := by
  induction input with
  | nil => simp [addressed]
  | cons o rest induction =>
      rcases induction with
        ⟨⟨leftEven, rightEven⟩, leftOdd, rightOdd⟩
      simp [addressed, MixerTrack.advance, different, different.symm,
        leftEven, rightEven, leftOdd, rightOdd]

/-- The left channel gets the samples at even positions. -/
theorem addressed_stereo_left
    {l r : Fin channelCount} (different : l ≠ r) (input : List α) :
    addressed (.stereo l r) 2 0 l input = everyNth 2 0 input :=
  (addressed_stereo_sides different input).1.1

/-- The right channel gets the samples at odd positions. -/
theorem addressed_stereo_right
    {l r : Fin channelCount} (different : l ≠ r) (input : List α) :
    addressed (.stereo l r) 2 0 r input = everyNth 2 1 input :=
  (addressed_stereo_sides different input).1.2

/-- A track never picks a channel that its selector does not name. -/
theorem pick_ne_of_unnamed
    {sel : MixerTrackSelector} {track : MixerTrack (Fin channelCount)}
    (resolved : getChannel channelCount sel = .ok track)
    {c : Fin channelCount} (unnamed : sel.contains c = false) (ch : ℕ) :
    track.pick ch ≠ c := by
  have inRange : sel.InRange channelCount :=
    (getChannel_isOk_iff sel).mp ⟨track, resolved⟩
  cases sel with
  | mono m =>
      rw [getChannel_mono inRange] at resolved
      cases resolved
      intro equal
      have different : m ≠ c := by
        simpa [MixerTrackSelector.contains] using unnamed
      exact different (congrArg Fin.val equal)
  | stereo l r =>
      rw [getChannel_stereo inRange.1 inRange.2] at resolved
      cases resolved
      intro equal
      have different : l ≠ c ∧ r ≠ c := by
        simpa [MixerTrackSelector.contains] using unnamed
      by_cases even : ch &&& 1 = 0
      · simp only [MixerTrack.pick, even, if_true] at equal
        exact different.1 (congrArg Fin.val equal)
      · simp only [MixerTrack.pick, even, if_false] at equal
        exact different.2 (congrArg Fin.val equal)

/-- A channel that the track does not name gets nothing. -/
theorem addressed_other
    {track : MixerTrack (Fin channelCount)} {c : Fin channelCount}
    (unnamed : ∀ ch, track.pick ch ≠ c)
    (cycle ch : ℕ) (input : List α) :
    addressed track cycle ch c input = [] := by
  induction input generalizing ch with
  | nil => rfl
  | cons o rest induction =>
      simp only [addressed, unnamed ch, if_false]
      exact induction _

/-- A channel gets no more samples than there are. -/
theorem length_addressed_le
    (track : MixerTrack (Fin channelCount)) (cycle ch : ℕ)
    (c : Fin channelCount) (input : List α) :
    (addressed track cycle ch c input).length ≤ input.length := by
  induction input generalizing ch with
  | nil => exact Nat.le_refl _
  | cons o rest induction =>
      have later := induction (track.advance cycle ch)
      simp only [addressed, List.length_cons]
      split
      · exact Nat.succ_le_succ later
      · exact Nat.le_succ_of_le later

/-- A later part of the input is addressed from where the loop stands. -/
theorem addressed_append
    (track : MixerTrack (Fin channelCount)) (cycle ch : ℕ)
    (c : Fin channelCount) (input later : List α) :
    addressed track cycle ch c (input ++ later) =
      addressed track cycle ch c input ++
        addressed track cycle ((track.advance cycle)^[input.length] ch) c
          later := by
  induction input generalizing ch with
  | nil => rfl
  | cons o rest induction =>
      simp only [List.cons_append, addressed, induction, List.length_cons,
        Function.iterate_succ_apply]
      by_cases here : track.pick ch = c
      · simp only [here, if_true, List.cons_append]
      · simp only [here, if_false]

/-! ## The write loop -/

/-- One iteration offers its sample to the ring it locks. -/
theorem writeSample_rings
    (cursor : TrackCursor channelCount)
    (mixer : Mixer α channelCount bufferSize) (o : α)
    (c : Fin channelCount) :
    (writeSample cursor mixer o).2.rings c =
      if cursor.channel = c then
        (mixer.rings c).offer o
      else
        mixer.rings c := by
  unfold writeSample BoundedFifo.offer
  by_cases addressedHere : cursor.channel = c
  · subst addressedHere
    cases pushed : (mixer.rings cursor.channel).tryPush o with
    | none => simp
    | some ring => simp
  · have other : c ≠ cursor.channel := fun equal =>
      addressedHere equal.symm
    cases pushed : (mixer.rings cursor.channel).tryPush o with
    | none => simp [addressedHere]
    | some ring =>
        simp [addressedHere, mixer.setRing_rings_of_ne other]

/-- An iteration moves the channel counter and leaves the track alone. -/
theorem writeSample_cursor
    (cursor : TrackCursor channelCount)
    (mixer : Mixer α channelCount bufferSize) (o : α) :
    (writeSample cursor mixer o).1.track = cursor.track ∧
      (writeSample cursor mixer o).1.cycle = cursor.cycle ∧
      (writeSample cursor mixer o).1.ch = cursor.nextCh := by
  unfold writeSample
  cases (mixer.rings cursor.channel).tryPush o with
  | none => exact ⟨rfl, rfl, rfl⟩
  | some ring => exact ⟨rfl, rfl, rfl⟩

/-- The ring law of the write loop. -/
theorem writeSamples_rings
    (cursor : TrackCursor channelCount)
    (mixer : Mixer α channelCount bufferSize)
    (input : List α) (c : Fin channelCount) :
    (writeSamples cursor mixer input).2.rings c =
      (mixer.rings c).offerAll
        (addressed cursor.track cursor.cycle cursor.ch c input) := by
  induction input generalizing cursor mixer with
  | nil => rfl
  | cons o rest induction =>
      rcases writeSample_cursor cursor mixer o with
        ⟨sameTrack, sameCycle, nextCounter⟩
      rw [writeSamples, induction, sameTrack, sameCycle, nextCounter,
        writeSample_rings]
      by_cases here : cursor.channel = c
      · have picked : cursor.track.pick cursor.ch = c := here
        simp [addressed, here, picked, TrackCursor.nextCh]
      · have notPicked : cursor.track.pick cursor.ch ≠ c := here
        simp [addressed, here, notPicked, TrackCursor.nextCh]

/-- Every iteration counts its sample exactly once. -/
theorem writeSamples_total
    (cursor : TrackCursor channelCount)
    (mixer : Mixer α channelCount bufferSize) (input : List α) :
    (writeSamples cursor mixer input).1.consumed +
        (writeSamples cursor mixer input).1.dropped =
      cursor.consumed + cursor.dropped + input.length := by
  induction input generalizing cursor mixer with
  | nil => rfl
  | cons o rest induction =>
      rw [writeSamples, induction]
      unfold writeSample
      cases (mixer.rings cursor.channel).tryPush o with
      | none =>
          simp only [TrackCursor.miss, List.length_cons]
          omega
      | some ring =>
          simp only [TrackCursor.hit, List.length_cons]
          omega

/-- The dropped count never goes down. -/
theorem writeSamples_dropped_le
    (cursor : TrackCursor channelCount)
    (mixer : Mixer α channelCount bufferSize) (input : List α) :
    cursor.dropped ≤ (writeSamples cursor mixer input).1.dropped := by
  induction input generalizing cursor mixer with
  | nil => exact Nat.le_refl _
  | cons o rest induction =>
      refine Nat.le_trans ?_ (induction _ _)
      unfold writeSample
      cases (mixer.rings cursor.channel).tryPush o with
      | none => exact Nat.le_succ _
      | some ring => exact Nat.le_refl _

/--
The write loop drops nothing exactly when every ring has room for the
samples addressed to it.
-/
theorem writeSamples_lossless_iff
    (cursor : TrackCursor channelCount)
    (mixer : Mixer α channelCount bufferSize) (input : List α) :
    (writeSamples cursor mixer input).1.dropped = cursor.dropped ↔
      ∀ c,
        (mixer.rings c).contents.length +
            (addressed cursor.track cursor.cycle cursor.ch c
              input).length ≤
          bufferSize := by
  induction input generalizing cursor mixer with
  | nil => simpa [writeSamples, addressed] using fun c => (mixer.rings c).bounded
  | cons o rest induction =>
      rw [writeSamples]
      cases pushed : (mixer.rings cursor.channel).tryPush o with
      | none =>
          have full : (mixer.rings cursor.channel).IsFull :=
            (BoundedFifo.tryPush_eq_none_iff _ _).mp pushed
          have missed : writeSample cursor mixer o = (cursor.miss, mixer) := by
            simp [writeSample, pushed]
          have counted :=
            writeSamples_dropped_le cursor.miss mixer rest
          rw [missed]
          constructor
          · intro equal
            simp only [TrackCursor.miss] at counted equal
            omega
          · intro fits
            have overflow := fits cursor.channel
            have picked :
                cursor.track.pick cursor.ch = cursor.channel := rfl
            unfold BoundedFifo.IsFull at full
            simp only [addressed, picked, if_true,
              List.length_cons] at overflow
            omega
      | some ring =>
          have appended :=
            (BoundedFifo.tryPush_eq_some pushed).1
          have wrote :
              writeSample cursor mixer o =
                (cursor.hit, mixer.setRing cursor.channel ring) := by
            simp [writeSample, pushed]
          rw [wrote]
          refine (induction cursor.hit _).trans ?_
          apply forall_congr'
          intro c
          by_cases here : cursor.channel = c
          · subst here
            have picked :
                cursor.track.pick cursor.ch = cursor.channel := rfl
            simp only [Mixer.setRing_rings_self, appended, addressed,
              picked, if_true, List.length_append, List.length_cons,
              List.length_nil, TrackCursor.hit, TrackCursor.nextCh]
            omega
          · have other : c ≠ cursor.channel := fun equal =>
              here equal.symm
            have notPicked : cursor.track.pick cursor.ch ≠ c := here
            simp [mixer.setRing_rings_of_ne other, addressed, notPicked,
              TrackCursor.hit, TrackCursor.nextCh]

/-- A synchronous write is its loop on the track that was looked up. -/
theorem writeToMixerSync_of_resolved
    {sel : MixerTrackSelector} {track : MixerTrack (Fin channelCount)}
    (resolved : getChannel channelCount sel = .ok track)
    (mixer : Mixer α channelCount bufferSize) (input : List α) :
    writeToMixerSync mixer input sel =
      .ok
        (((writeSamples (.start track sel.channelCount) mixer
              input).1.consumed,
            (writeSamples (.start track sel.channelCount) mixer
              input).1.dropped),
          (writeSamples (.start track sel.channelCount) mixer input).2) := by
  simp only [writeToMixerSync, resolved, bind, Except.bind]
  rfl

/-! ## One attempt to pop -/

/-- What an attempt adds to `(consumed, dropped)`. -/
def tally (found : Option α) : ℕ × ℕ :=
  if found.isSome then (1, 0) else (0, 1)

/-- An attempt is counted once. -/
theorem tally_total (found : Option α) :
    (tally found).1 + (tally found).2 = 1 := by
  cases found with
  | none => rfl
  | some v => rfl

/-- The mixer after an attempt to pop the ring of a channel. -/
def popRing
    (mixer : Mixer α channelCount bufferSize) (c : Fin channelCount) :
    Mixer α channelCount bufferSize :=
  mixer.setRing c ((mixer.rings c).skip 1)

theorem popRing_contents
    (mixer : Mixer α channelCount bufferSize) (c other : Fin channelCount) :
    ((popRing mixer c).rings other).contents =
      if other = c then
        (mixer.rings other).contents.drop 1
      else
        (mixer.rings other).contents := by
  unfold popRing
  by_cases here : other = c
  · subst here
    rw [Mixer.setRing_rings_self, if_pos rfl]
    rfl
  · rw [mixer.setRing_rings_of_ne here, if_neg here]

/-- An attempt on an empty ring changes nothing. -/
theorem popRing_of_empty
    {mixer : Mixer α channelCount bufferSize} {c : Fin channelCount}
    (empty : (mixer.rings c).contents[0]? = none) :
    popRing mixer c = mixer := by
  have sameRing : (mixer.rings c).skip 1 = mixer.rings c := by
    ext1
    rw [List.getElem?_eq_none_iff] at empty
    have nothing : (mixer.rings c).contents = [] :=
      List.eq_nil_of_length_eq_zero (Nat.le_zero.mp empty)
    show (mixer.rings c).contents.drop 1 = (mixer.rings c).contents
    rw [nothing]
    rfl
  rw [popRing, sameRing, Mixer.setRing, Function.update_eq_self]

theorem popOrSilence_eq [Sample α] (ring : BoundedFifo α bufferSize) :
    popOrSilence ring = ring.contents[0]?.getD Sample.EQUILIBRIUM := by
  rw [popOrSilence, ring.tryPop_eq]
  cases ring.contents[0]? with
  | none => rfl
  | some v => rfl

/-- The locals of a track loop after an attempt that found `found`. -/
def attempted
    (cursor : TrackCursor channelCount) (found : Option α) :
    TrackCursor channelCount :=
  { cursor with
    ch := cursor.nextCh
    consumed := cursor.consumed + (tally found).1
    dropped := cursor.dropped + (tally found).2 }

/-- An iteration of the track loop in terms of what its ring holds. -/
theorem readTrackSample_eq [Sample α]
    (cursor : TrackCursor channelCount)
    (mixer : Mixer α channelCount bufferSize) :
    readTrackSample cursor mixer =
      (attempted cursor (mixer.rings cursor.channel).contents[0]?,
        (mixer.rings cursor.channel).contents[0]?.getD Sample.EQUILIBRIUM,
        popRing mixer cursor.channel) := by
  rw [readTrackSample, BoundedFifo.tryPop_eq]
  cases front : (mixer.rings cursor.channel).contents[0]? with
  | none =>
      rw [popRing_of_empty front]
      rfl
  | some v => rfl

/-! ## The read loop over the whole mixer -/

/-- The locals of a whole-mixer loop after an attempt that found `found`. -/
def met (cursor : MixerCursor) (found : Option α) : MixerCursor where
  ch := cursor.ch + 1
  consumed := cursor.consumed + (tally found).1
  dropped := cursor.dropped + (tally found).2

/-- The channel that the whole-mixer loops visit at counter `ch`. -/
def channelAt (positive : 0 < channelCount) (ch : ℕ) : Fin channelCount :=
  ⟨ch % channelCount, Nat.mod_lt ch positive⟩

/-- How often a loop of `length` iterations from counter `ch` visits `c`. -/
def visits (channelCount ch length c : ℕ) : ℕ :=
  Nat.count (fun i => (ch + i) % channelCount = c) length

theorem visits_succ (channelCount ch length c : ℕ) :
    visits channelCount ch (length + 1) c =
      (if ch % channelCount = c then 1 else 0) +
        visits channelCount (ch + 1) length c := by
  unfold visits
  rw [Nat.count_succ']
  simp only [Nat.add_zero, Nat.add_comm, Nat.add_left_comm]

/-- Whole frames visit every channel equally often. -/
theorem visits_frames
    {c : ℕ} (inside : c < channelCount) (frames : ℕ) :
    visits channelCount 0 (frames * channelCount) c = frames := by
  have positive : 0 < channelCount :=
    Nat.lt_of_le_of_lt (Nat.zero_le c) inside
  have sameCondition :
      ∀ i, (0 + i) % channelCount = c ↔ i ≡ c [MOD channelCount] := by
    intro i
    rw [Nat.zero_add, Nat.ModEq, Nat.mod_eq_of_lt inside]
  unfold visits
  simp only [sameCondition]
  rw [Nat.count_modEq_card _ positive, Nat.mul_div_cancel _ positive,
    Nat.mul_mod_left]
  simp

/-- An iteration of the whole-mixer loops when there are channels. -/
theorem readMixerSample_eq [Sample α]
    (positive : 0 < channelCount) (cursor : MixerCursor)
    (mixer : Mixer α channelCount bufferSize) :
    readMixerSample cursor mixer =
      .ok
        (met cursor
            (mixer.rings (channelAt positive cursor.ch)).contents[0]?,
          (mixer.rings (channelAt positive cursor.ch)).contents[0]?.getD
            Sample.EQUILIBRIUM,
          popRing mixer (channelAt positive cursor.ch)) := by
  have position :
      getRawChannel channelCount (cursor.ch % channelCount) =
        .ok (channelAt positive cursor.ch) :=
    getRawChannel_of_lt (Nat.mod_lt _ positive)
  rw [readMixerSample, if_neg (Nat.ne_of_gt positive), position]
  dsimp only
  rw [BoundedFifo.tryPop_eq]
  cases front :
      (mixer.rings (channelAt positive cursor.ch)).contents[0]? with
  | none =>
      rw [popRing_of_empty front]
      rfl
  | some v => rfl

/-- What an iteration of the whole-mixer loops does when there are channels. -/
theorem readMixerSample_ok [Sample α]
    (positive : 0 < channelCount) (cursor : MixerCursor)
    (mixer : Mixer α channelCount bufferSize) :
    ∃ next : MixerCursor × α × Mixer α channelCount bufferSize,
      readMixerSample cursor mixer = .ok next ∧
        next.1.ch = cursor.ch + 1 ∧
        next.1.consumed + next.1.dropped =
          cursor.consumed + cursor.dropped + 1 ∧
        next.2.1 =
          popOrSilence (mixer.rings (channelAt positive cursor.ch)) ∧
        ∀ c,
          (next.2.2.rings c).contents =
            (mixer.rings c).contents.drop
              (if cursor.ch % channelCount = c then 1 else 0) := by
  refine
    ⟨_, readMixerSample_eq positive cursor mixer, rfl, ?_,
      (popOrSilence_eq _).symm, ?_⟩
  · have once :=
      tally_total
        (mixer.rings (channelAt positive cursor.ch)).contents[0]?
    simp only [met]
    omega
  · intro c
    have visited :
        c = channelAt positive cursor.ch ↔
          cursor.ch % channelCount = c := by
      rw [Fin.ext_iff, eq_comm]
      rfl
    rw [popRing_contents]
    by_cases here : c = channelAt positive cursor.ch
    · rw [if_pos here, if_pos (visited.mp here)]
    · rw [if_neg here, if_neg (visited.not.mp here), List.drop_zero]

/-- A read is its first iteration and the read of the other positions. -/
theorem readMixerSamples_succ [Sample α]
    {cursor : MixerCursor} {mixer : Mixer α channelCount bufferSize}
    {length : ℕ}
    {next : MixerCursor × α × Mixer α channelCount bufferSize}
    {final : MixerCursor × List α × Mixer α channelCount bufferSize}
    (read : readMixerSample cursor mixer = .ok next)
    (others : readMixerSamples next.1 next.2.2 length = .ok final) :
    readMixerSamples cursor mixer (length + 1) =
      .ok (final.1, next.2.1 :: final.2.1, final.2.2) := by
  simp only [readMixerSamples, read, others, bind, Except.bind]
  rfl

/-- What a read that returned consists of. -/
theorem readMixerSamples_succ_cases [Sample α]
    {cursor : MixerCursor} {mixer : Mixer α channelCount bufferSize}
    {length : ℕ}
    {final : MixerCursor × List α × Mixer α channelCount bufferSize}
    (read : readMixerSamples cursor mixer (length + 1) = .ok final) :
    ∃ next others,
      readMixerSample cursor mixer = .ok next ∧
        readMixerSamples next.1 next.2.2 length = .ok others ∧
        final = (others.1, next.2.1 :: others.2.1, others.2.2) := by
  simp only [readMixerSamples, bind, Except.bind] at read
  cases first : readMixerSample cursor mixer with
  | error e =>
      rw [first] at read
      cases read
  | ok next =>
      simp only [first] at read
      cases rest : readMixerSamples next.1 next.2.2 length with
      | error e =>
          rw [rest] at read
          cases read
      | ok others =>
          rw [rest] at read
          cases read
          exact ⟨next, others, rfl, rest, rfl⟩

/-- A synchronous read returns the counts of its loop. -/
theorem readFromMixerSync_of_ok [Sample α]
    {mixer : Mixer α channelCount bufferSize} {length : ℕ}
    {final : MixerCursor × List α × Mixer α channelCount bufferSize}
    (read : readMixerSamples .start mixer length = .ok final) :
    readFromMixerSync mixer length =
      .ok
        ((final.1.consumed, final.1.dropped), final.2.1, final.2.2) := by
  simp only [readFromMixerSync, read, bind, Except.bind]
  rfl

/--
The ring law of the whole-mixer read: it never fails on a mixer with
channels, it counts every position of the buffer once, and it takes one
sample from a ring for each visit, as long as there are any.
-/
theorem readMixerSamples_ok [Sample α]
    (positive : 0 < channelCount) (cursor : MixerCursor)
    (mixer : Mixer α channelCount bufferSize) (length : ℕ) :
    ∃ final : MixerCursor × List α × Mixer α channelCount bufferSize,
      readMixerSamples cursor mixer length = .ok final ∧
        final.2.1.length = length ∧
        final.1.consumed + final.1.dropped =
          cursor.consumed + cursor.dropped + length ∧
        ∀ c,
          (final.2.2.rings c).contents =
            (mixer.rings c).contents.drop
              (visits channelCount cursor.ch length c) := by
  induction length generalizing cursor mixer with
  | zero =>
      exact
        ⟨(cursor, [], mixer), rfl, rfl, rfl, fun c => by
          simp [visits]⟩
  | succ length induction =>
      rcases readMixerSample_ok positive cursor mixer with
        ⟨next, read, counter, counted, _, taken⟩
      rcases induction next.1 next.2.2 with
        ⟨final, readRest, filled, total, takenRest⟩
      refine
        ⟨(final.1, next.2.1 :: final.2.1, final.2.2), ?_, ?_, ?_, ?_⟩
      · exact readMixerSamples_succ read readRest
      · simp [filled]
      · simp only [total, counted]
        omega
      · intro c
        rw [takenRest c, taken c, List.drop_drop, counter, visits_succ]

/-- A read of whole frames takes one sample per frame from every ring. -/
theorem readFromMixerSync_frames [Sample α]
    (positive : 0 < channelCount)
    (mixer : Mixer α channelCount bufferSize) (frames : ℕ) :
    ∃ counts output next,
      readFromMixerSync mixer (frames * channelCount) =
          .ok (counts, output, next) ∧
        output.length = frames * channelCount ∧
        ∀ c,
          (next.rings c).contents =
            (mixer.rings c).contents.drop frames := by
  rcases readMixerSamples_ok positive .start mixer (frames * channelCount) with
    ⟨final, read, filled, _, taken⟩
  refine ⟨_, _, _, readFromMixerSync_of_ok read, filled, ?_⟩
  intro c
  have visited :
      visits channelCount MixerCursor.start.ch
          (frames * channelCount) c = frames :=
    visits_frames c.isLt frames
  rw [taken c, visited]

end Audiopipe.Mixing.TransferLaws
