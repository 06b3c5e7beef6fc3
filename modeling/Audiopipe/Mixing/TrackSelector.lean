import Mathlib.Data.Nat.Basic

/-!
# Samples, track selectors and tracks

The data model of the mixer: the sample type with its silence, the selector
that names one or two channels, and the track a selector resolves to.
-/

namespace Audiopipe.Mixing.TrackSelector

universe u

/-! ## Samples -/

/-- The part of `cpal::Sample` that the program uses: the silent value. -/
class Sample (α : Type u) where
  EQUILIBRIUM : α

/-- An `f32` as its bit pattern; samples are moved, never computed with. -/
structure F32 where
  bits : UInt32
deriving DecidableEq, Repr

/-- `0.0f32` has the all-zero bit pattern. -/
instance : Sample F32 where
  EQUILIBRIUM := ⟨0⟩

instance : Sample ℤ where
  EQUILIBRIUM := 0

/-! ## Selectors -/

/-- Input enum which selects one or two channels together. -/
inductive MixerTrackSelector where
  | mono (c : ℕ)
  | stereo (l r : ℕ)
deriving DecidableEq, Repr

namespace MixerTrackSelector

def channelCount : MixerTrackSelector → ℕ
  | .mono _ => 1
  | .stereo _ _ => 2

def contains (sel : MixerTrackSelector) (ch : ℕ) : Bool :=
  match sel with
  | .mono c => c == ch
  | .stereo l r => l == ch || r == ch

/-- The channels in the order in which the selector names them. -/
def channels : MixerTrackSelector → List ℕ
  | .mono c => [c]
  | .stereo l r => [l, r]

/-- Every channel the selector names exists on a mixer with `count` channels. -/
def InRange (sel : MixerTrackSelector) (count : ℕ) : Prop :=
  match sel with
  | .mono c => c < count
  | .stereo l r => l < count ∧ r < count

instance (sel : MixerTrackSelector) (count : ℕ) :
    Decidable (sel.InRange count) :=
  match sel with
  | .mono c => inferInstanceAs (Decidable (c < count))
  | .stereo l r => inferInstanceAs (Decidable (l < count ∧ r < count))

theorem channelCount_pos (sel : MixerTrackSelector) :
    0 < sel.channelCount := by
  cases sel <;> simp [channelCount]

theorem mem_channels (sel : MixerTrackSelector) (ch : ℕ) :
    ch ∈ sel.channels ↔ sel.contains ch = true := by
  cases sel with
  | mono c =>
      rw [channels, List.mem_singleton, contains, beq_iff_eq]
      exact eq_comm
  | stereo l r =>
      rw [channels, List.mem_cons, List.mem_singleton, contains,
        Bool.or_eq_true, beq_iff_eq, beq_iff_eq, @eq_comm ℕ ch l,
        @eq_comm ℕ ch r]

/-- In range means that every channel that is named exists. -/
theorem inRange_iff (sel : MixerTrackSelector) (count : ℕ) :
    sel.InRange count ↔ ∀ c ∈ sel.channels, c < count := by
  cases sel with
  | mono c => simp [channels, InRange]
  | stereo l r => simp [channels, InRange]

end MixerTrackSelector

/-! ## Tracks -/

inductive MixerError where
  | inputChannelNotFound
  | outputChannelNotFound
deriving DecidableEq, Repr

/-- A selector whose channels have been looked up. -/
inductive MixerTrack (τ : Type u) where
  | mono (c : τ)
  | stereo (l r : τ)
deriving DecidableEq, Repr

namespace MixerTrack

variable {τ : Type u}

def channelCount : MixerTrack τ → ℕ
  | .mono _ => 1
  | .stereo _ _ => 2

/-- The channels of a track in the order in which a loop visits them. -/
def channels : MixerTrack τ → List τ
  | .mono c => [c]
  | .stereo l r => [l, r]

/--
The channel a transfer loop takes at channel counter `ch`: the only one of a
mono track, else the left one at an even and the right one at an odd counter.
-/
def pick (track : MixerTrack τ) (ch : ℕ) : τ :=
  match track with
  | .mono c => c
  | .stereo l r => if ch &&& 1 = 0 then l else r

/-- The channel counter after an iteration; the mono loops have none. -/
def advance (track : MixerTrack τ) (cycle ch : ℕ) : ℕ :=
  match track with
  | .mono _ => ch
  | .stereo _ _ => (ch + 1) % cycle

@[simp]
theorem pick_mono (c : τ) (ch : ℕ) :
    (MixerTrack.mono c).pick ch = c :=
  rfl

@[simp]
theorem pick_stereo_zero (l r : τ) :
    (MixerTrack.stereo l r).pick 0 = l :=
  rfl

@[simp]
theorem pick_stereo_one (l r : τ) :
    (MixerTrack.stereo l r).pick 1 = r :=
  rfl

end MixerTrack

end Audiopipe.Mixing.TrackSelector
