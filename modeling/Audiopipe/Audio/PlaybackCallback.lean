import Audiopipe.Mixing.WriteThenRead

/-!
# The output callback of the sound card

`setup_master_output` takes a master selector like its counterpart for the
input, but its callback reads the whole mixer.  So the callback plays the
selected tracks only if the other tracks that it visits happen to be empty.
-/

namespace Audiopipe.Audio.PlaybackCallback

open Audiopipe.Foundation.BoundedQueues
open Audiopipe.Mixing.TrackSelector
open Audiopipe.Mixing.RingTransfer
open Audiopipe.Mixing.TransferLaws
open Audiopipe.Mixing.WriteThenRead

variable {α : Type} {channelCount bufferSize : ℕ}

/--
The callback that `setup_master_output` installs, for a buffer of `length`
samples.  It does not use the master selector.  The result of the read is
unwrapped and its counts are ignored.
-/
def outputCallback [Sample α]
    (_masterSel : MixerTrackSelector)
    (mixer : Mixer α channelCount bufferSize) (length : ℕ) :
    Except (Abort Empty) (List α × Mixer α channelCount bufferSize) :=
  match readFromMixerSync mixer length with
  | .ok (_, output, rest) => .ok (output, rest)
  | .error _ => .error .panic

/-- How many positions of a buffer belong to channel `c`. -/
def positionsOf (channelCount length c : ℕ) : ℕ :=
  Nat.count (fun i => i % channelCount = c) length

/-- A buffer has a position of channel `c` exactly when it reaches `c`. -/
theorem positionsOf_eq_zero_iff
    {c : ℕ} (inside : c < channelCount) (length : ℕ) :
    positionsOf channelCount length c = 0 ↔ length ≤ c := by
  unfold positionsOf
  rw [Nat.count_eq_card_filter_range, Finset.card_eq_zero,
    Finset.filter_eq_empty_iff]
  constructor
  · intro unvisited
    by_contra reached
    have first := unvisited (Finset.mem_range.mpr (Nat.lt_of_not_le reached))
    exact first (Nat.mod_eq_of_lt inside)
  · intro short i member visited
    have early := Finset.mem_range.mp member
    have small := Nat.mod_le i channelCount
    rw [Nat.mod_eq_of_lt (by omega)] at visited
    omega

/-- What the callback does, whatever the selector. -/
theorem outputCallback_law [Sample α]
    (positive : 0 < channelCount) (masterSel : MixerTrackSelector)
    (mixer : Mixer α channelCount bufferSize) (length : ℕ) :
    ∃ output rest,
      outputCallback masterSel mixer length = .ok (output, rest) ∧
        output.length = length ∧
        (∀ i < length,
          output[i]? =
            some
              ((mixer.rings (channelAt positive i)).contents[
                i / channelCount]?.getD Sample.EQUILIBRIUM)) ∧
        ∀ c : Fin channelCount,
          (rest.rings c).contents =
            (mixer.rings c).contents.drop
              (positionsOf channelCount length c) := by
  rcases readFromMixerSync_law positive mixer length with
    ⟨consumed, dropped, output, rest, read, filled, positions, taken, _⟩
  refine ⟨output, rest, ?_, filled, positions, taken⟩
  rw [outputCallback, read]

/--
The callback plays the selected channels and no other: a position of a
selected channel gets the next sample of its ring, or silence, and a position
of another channel gets silence and takes nothing from its ring.
-/
def PlaysSelected [Sample α]
    (positive : 0 < channelCount) (masterSel : MixerTrackSelector)
    (mixer : Mixer α channelCount bufferSize) (length : ℕ) : Prop :=
  ∃ output rest,
    outputCallback masterSel mixer length = .ok (output, rest) ∧
      output.length = length ∧
      (∀ i < length,
        output[i]? =
          some
            (if masterSel.contains (i % channelCount) then
              (mixer.rings (channelAt positive i)).contents[
                i / channelCount]?.getD Sample.EQUILIBRIUM
            else
              Sample.EQUILIBRIUM)) ∧
      ∀ c : Fin channelCount,
        (rest.rings c).contents =
          if masterSel.contains c then
            (mixer.rings c).contents.drop
              (positionsOf channelCount length c)
          else
            (mixer.rings c).contents

/--
The callback plays the selected channels and no other exactly when nothing
waits on the other channels that the buffer reaches.
-/
theorem outputCallback_playsSelected_iff [Sample α]
    (positive : 0 < channelCount) (masterSel : MixerTrackSelector)
    (mixer : Mixer α channelCount bufferSize) (length : ℕ) :
    PlaysSelected positive masterSel mixer length ↔
      ∀ c : Fin channelCount,
        ¬ masterSel.contains c → c < length →
          (mixer.rings c).IsEmpty := by
  rcases outputCallback_law positive masterSel mixer length with
    ⟨output, rest, played, filled, positions, taken⟩
  constructor
  · rintro ⟨output', rest', played', _, _, kept⟩ c unselected reached
    cases played.symm.trans played'
    have untouched := kept c
    rw [if_neg unselected, taken c] at untouched
    have visited :
        positionsOf channelCount length c ≠ 0 := by
      rw [Ne, positionsOf_eq_zero_iff c.isLt]
      exact Nat.not_le_of_lt reached
    have sameLength := congrArg List.length untouched
    rw [List.length_drop] at sameLength
    exact List.eq_nil_of_length_eq_zero (by omega)
  · intro nothingWaits
    refine ⟨output, rest, played, filled, ?_, ?_⟩
    · intro i early
      rw [positions i early]
      split
      · rfl
      · next unselected =>
          have reached :
              (channelAt positive i).val < length :=
            Nat.lt_of_le_of_lt (Nat.mod_le i channelCount) early
          have empty :=
            nothingWaits (channelAt positive i) unselected reached
          rw [BoundedFifo.IsEmpty] at empty
          rw [empty]
          rfl
    · intro c
      rw [taken c]
      split
      · rfl
      · next unselected =>
          by_cases reached : c.val < length
          · have empty := nothingWaits c unselected reached
            rw [BoundedFifo.IsEmpty] at empty
            rw [empty, List.drop_nil]
          · have unvisited :
                positionsOf channelCount length c = 0 :=
              (positionsOf_eq_zero_iff c.isLt length).mpr
                (Nat.le_of_not_lt reached)
            rw [unvisited, List.drop_zero]

/-- A device with two channels of which the second one has a sample. -/
def rightWaiting : Mixer ℤ 2 1 where
  sampleRate := 48000
  rings := fun c =>
    if c.val = 1 then ⟨[5], by decide⟩ else .empty ℤ 1

theorem outputCallback_playsSelected_iff_rightWaiting :
    PlaysSelected (by decide) (.mono 1) rightWaiting 2 := by
  rw [outputCallback_playsSelected_iff]
  decide

/-- A receiver on the left track plays the right one as well. -/
theorem outputCallback_plays_unselected :
    (MixerTrackSelector.mono 0).InRange 2 ∧
      ¬ PlaysSelected (by decide) (.mono 0) rightWaiting 2 := by
  refine ⟨by decide, ?_⟩
  rintro ⟨output, rest, played, _, _, kept⟩
  cases played
  exact absurd (kept 1) (by decide)

end Audiopipe.Audio.PlaybackCallback
