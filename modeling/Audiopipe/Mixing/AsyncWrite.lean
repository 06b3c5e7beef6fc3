import Audiopipe.Mixing.TransferLaws

/-!
# The asynchronous write against the synchronous one

Both writes run the same loop on the track that their selector resolves to.
They differ when it resolves to none: the synchronous write returns the
error, the asynchronous one returns that it moved and lost nothing, whatever
it was given.
-/

namespace Audiopipe.Mixing.AsyncWrite

open Audiopipe.Mixing.TrackSelector
open Audiopipe.Mixing.RingTransfer
open Audiopipe.Mixing.TransferLaws

variable {α : Type} {channelCount bufferSize : ℕ}

/--
The mixer that `write_to_mixer_sync` leaves behind.  Its only error comes from
the lookup, before it touches a ring.
-/
def leftBySync
    (mixer : Mixer α channelCount bufferSize)
    (input : List α) (sel : MixerTrackSelector) :
    Mixer α channelCount bufferSize :=
  match writeToMixerSync mixer input sel with
  | .ok written => written.2
  | .error _ => mixer

/--
The asynchronous write leaves the rings of the synchronous one, returns what
that returns with `Ok`, and accounts for every sample of its input.
-/
structure AgreesWithSync
    (mixer : Mixer α channelCount bufferSize)
    (input : List α) (sel : MixerTrackSelector) : Prop where
  sameRings :
    (writeToMixerAsync mixer input sel).2.rings =
      (leftBySync mixer input sel).rings
  sameCounts :
    ∀ counts written,
      writeToMixerSync mixer input sel = .ok (counts, written) →
        (writeToMixerAsync mixer input sel).1 = counts
  accounted :
    (writeToMixerAsync mixer input sel).1.1 +
        (writeToMixerAsync mixer input sel).1.2 =
      input.length

/-- The lookup of a selector with a channel that does not exist fails. -/
theorem getChannel_error
    {sel : MixerTrackSelector} (outside : ¬ sel.InRange channelCount) :
    ∃ e, getChannel channelCount sel = .error e := by
  cases resolved : getChannel channelCount sel with
  | error e => exact ⟨e, rfl⟩
  | ok track =>
      exact absurd ((getChannel_isOk_iff sel).mp ⟨track, resolved⟩) outside

/-- Where the selector resolves, the two writes are one. -/
theorem writeToMixerAsync_eq_sync
    {sel : MixerTrackSelector} (inRange : sel.InRange channelCount)
    (mixer : Mixer α channelCount bufferSize) (input : List α) :
    writeToMixerSync mixer input sel =
        .ok (writeToMixerAsync mixer input sel) ∧
      (writeToMixerAsync mixer input sel).1.1 +
          (writeToMixerAsync mixer input sel).1.2 =
        input.length := by
  rcases (getChannel_isOk_iff sel).mpr inRange with ⟨track, resolved⟩
  have total :=
    writeSamples_total (.start track sel.channelCount) mixer input
  constructor
  · rw [writeToMixerSync_of_resolved resolved, writeToMixerAsync, resolved]
  · simpa [writeToMixerAsync, resolved, TrackCursor.start] using total

/-- Where it does not, one reports the error and the other nothing at all. -/
theorem writeToMixerAsync_unresolved
    {sel : MixerTrackSelector} (outside : ¬ sel.InRange channelCount)
    (mixer : Mixer α channelCount bufferSize) (input : List α) :
    (∃ e, writeToMixerSync mixer input sel = .error e) ∧
      writeToMixerAsync mixer input sel = ((0, 0), mixer) := by
  rcases getChannel_error outside with ⟨e, missing⟩
  constructor
  · refine ⟨e, ?_⟩
    simp only [writeToMixerSync, missing, bind, Except.bind]
  · simp only [writeToMixerAsync, missing]

/--
The asynchronous write agrees with the synchronous one and accounts for its
input exactly when its selector resolves or there is nothing to write.
-/
theorem writeToMixerAsync_agrees_iff
    (mixer : Mixer α channelCount bufferSize)
    (input : List α) (sel : MixerTrackSelector) :
    AgreesWithSync mixer input sel ↔
      sel.InRange channelCount ∨ input = [] := by
  constructor
  · intro agrees
    by_cases inRange : sel.InRange channelCount
    · exact Or.inl inRange
    · right
      have accounted := agrees.accounted
      rw [(writeToMixerAsync_unresolved inRange mixer input).2] at accounted
      exact List.eq_nil_of_length_eq_zero accounted.symm
  · intro harmless
    by_cases inRange : sel.InRange channelCount
    · rcases writeToMixerAsync_eq_sync inRange mixer input with
        ⟨same, accounted⟩
      constructor
      · rw [leftBySync, same]
      · intro counts written returned
        exact congrArg Prod.fst (Except.ok.inj (same.symm.trans returned))
      · exact accounted
    · rcases writeToMixerAsync_unresolved inRange mixer input with
        ⟨⟨e, refused⟩, silent⟩
      constructor
      · rw [leftBySync, refused, silent]
      · intro counts written returned
        cases refused.symm.trans returned
      · rw [silent, harmless.resolve_left inRange]
        rfl

/-- One sample for the third channel of a mixer with two. -/
theorem async_write_loses_silently :
    ¬ AgreesWithSync (emptyMixer ℤ 2 4 44100) [1] (.mono 2) := by
  intro agrees
  have accounted := agrees.accounted
  have silent :
      writeToMixerAsync (emptyMixer ℤ 2 4 44100) [1] (.mono 2) =
        ((0, 0), emptyMixer ℤ 2 4 44100) :=
    rfl
  rw [silent] at accounted
  cases accounted

end Audiopipe.Mixing.AsyncWrite
