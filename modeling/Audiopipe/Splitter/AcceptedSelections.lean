import Audiopipe.Splitter.MergedSamples

/-!
# Which selections are accepted

Both constructors compare numbers: the splitter the number of listed channels
after removing neighbouring repetitions, the merger the number of channels of
its selector, each with the channel count of the device.  Neither looks at
the channels themselves.  This module settles for which selections that is
the same as asking whether the selected channels exist.
-/

namespace Audiopipe.Splitter.AcceptedSelections

open Audiopipe.Foundation.BoundedQueues
open Audiopipe.Foundation.Iterators
open Audiopipe.Mixing.TrackSelector
open Audiopipe.Splitter.SampleLabels
open Audiopipe.Splitter.MergedSamples

universe u

variable {α : Type u}

/-! ## Selections -/

/-- The device has channels, and every selected channel is one of them. -/
def OnDevice (selected : List ℕ) (channelCount : ℕ) : Prop :=
  0 < channelCount ∧ ∀ c ∈ selected, c < channelCount

/-- How many runs of equal neighbours a list consists of. -/
def runs : List ℕ → ℕ
  | [] => 0
  | first :: rest =>
      (if rest.head? = some first then 0 else 1) + runs rest

/-- Removing neighbouring repetitions leaves one entry of each run. -/
theorem length_dedup (selected : List ℕ) :
    (dedup selected).length = runs selected := by
  induction selected using dedup.induct with
  | case1 first rest induction => simp [dedup, runs, induction]
  | case2 first second rest different induction =>
      have newRun :
          ((second :: rest).head? = some first) ↔ second = first := by
        rw [List.head?_cons, Option.some.injEq]
      have firstRun :
          runs (first :: second :: rest) = 1 + runs (second :: rest) := by
        rw [runs, if_neg (newRun.not.mpr (Ne.symm different))]
      rw [dedup, if_neg different, List.length_cons, induction, firstRun,
        Nat.add_comm]
  | case3 short notLonger =>
      cases short with
      | nil => rfl
      | cons first rest =>
          cases rest with
          | nil => rfl
          | cons second rest => exact absurd rfl (notLonger first second rest)

/-- A selector names existing channels when it is in range. -/
theorem onDevice_channels_iff
    (sel : MixerTrackSelector) (channelCount : ℕ) :
    OnDevice sel.channels channelCount ↔ sel.InRange channelCount := by
  rw [sel.inRange_iff]
  constructor
  · exact And.right
  · intro inside
    refine ⟨?_, inside⟩
    cases sel with
    | mono c => exact Nat.zero_lt_of_lt (inside c List.mem_cons_self)
    | stereo l r => exact Nat.zero_lt_of_lt (inside l List.mem_cons_self)

/-! ## What is expected of the constructors -/

/--
`ChannelSplitter::new` accepts the list exactly when its channels exist, else
returns the error; and a loop over an accepted splitter ends, and meets every
selected channel in the first full frame.
-/
structure SplitterSound
    (α : Type u) (selected : List ℕ) (channelCount : ℕ) : Prop where
  accepts_iff :
    ∀ data : List α,
      (∃ splitter,
          ChannelSplitter.new data selected channelCount = .ok splitter) ↔
        OnDevice selected channelCount
  refuses :
    ∀ data : List α,
      ¬ OnDevice selected channelCount →
        ChannelSplitter.new data selected channelCount =
          .error .selectedChannelsOverChannelCount
  iterates :
    ∀ (data : List α) (splitter : ChannelSplitter α),
      ChannelSplitter.new data selected channelCount = .ok splitter →
        ∃ samples last,
          Yields ChannelSplitter.next splitter samples last ∧
            (channelCount ≤ data.length →
              ∀ c ∈ selected,
                ∃ labelled ∈ samples.take channelCount,
                  labelled.currentChannel = c)

/--
`ChannelMerger::new` accepts the selector exactly when its channels exist,
else returns the error; and a loop over an accepted merger ends, and every
selected channel is that of a position in a full frame.
-/
structure MergerSound
    (α : Type u) [Sample α] (sel : MixerTrackSelector)
    (channelCount : ℕ) : Prop where
  accepts_iff :
    ∀ (capacity : ℕ) (data : BoundedFifo α capacity) (outputLength : ℕ),
      (∃ merger,
          ChannelMerger.new data sel channelCount outputLength =
            .ok merger) ↔
        OnDevice sel.channels channelCount
  refuses :
    ∀ (capacity : ℕ) (data : BoundedFifo α capacity) (outputLength : ℕ),
      ¬ OnDevice sel.channels channelCount →
        ChannelMerger.new data sel channelCount outputLength =
          .error .selectedChannelsOverChannelCount
  iterates :
    ∀ (capacity : ℕ) (data : BoundedFifo α capacity) (outputLength : ℕ)
      (merger : ChannelMerger α capacity),
      ChannelMerger.new data sel channelCount outputLength = .ok merger →
        (∃ items last, Yields ChannelMerger.next merger items last) ∧
          ∀ c ∈ sel.channels, ∃ i < channelCount, i % channelCount = c

/-! ## The splitter -/

/-- The splitter accepts a list with at most as many runs as channels. -/
theorem splitter_accepts_iff
    (data : List α) (selected : List ℕ) (channelCount : ℕ) :
    (∃ splitter,
        ChannelSplitter.new data selected channelCount = .ok splitter) ↔
      runs selected ≤ channelCount := by
  rw [← length_dedup]
  exact exists_checked_iff

/-- What it does not accept it refuses with its only error. -/
theorem splitter_refuses
    {data : List α} {selected : List ℕ} {channelCount : ℕ}
    (tooMany : ¬ runs selected ≤ channelCount) :
    ChannelSplitter.new data selected channelCount =
      .error .selectedChannelsOverChannelCount := by
  rw [← length_dedup] at tooMany
  exact checked_eq_error tooMany

/-- A loop over a full frame meets every channel of the device. -/
theorem splitter_meets
    {data : List α} {selected : List ℕ} {channelCount c : ℕ}
    (inside : c < channelCount) (full : channelCount ≤ data.length) :
    ∃ labelled ∈
        (data.zipIdx.map
          (ChannelSplitter.mark
            ⟨data, selected, channelCount, 0⟩)).take channelCount,
      labelled.currentChannel = c := by
  have within : c < data.length := Nat.lt_of_lt_of_le inside full
  refine
    ⟨ChannelSplitter.mark ⟨data, selected, channelCount, 0⟩ (data[c], c),
      ?_, Nat.mod_eq_of_lt inside⟩
  rw [List.mem_iff_getElem?]
  refine ⟨c, ?_⟩
  rw [List.getElem?_take_of_lt inside, List.getElem?_map,
    List.getElem?_zipIdx, List.getElem?_eq_getElem within]
  simp

/-- A list that is too long and not on the device has a missing channel. -/
theorem exists_missing
    {selected : List ℕ} {channelCount : ℕ}
    (absent : ¬ OnDevice selected channelCount)
    (tooMany : channelCount < runs selected) :
    ∃ c ∈ selected, channelCount ≤ c := by
  by_contra allInside
  have inside : ∀ c ∈ selected, c < channelCount := by
    intro c member
    by_contra outside
    exact allInside ⟨c, member, Nat.le_of_not_lt outside⟩
  cases selected with
  | nil => exact absurd tooMany (Nat.not_lt_zero channelCount)
  | cons first rest =>
      have positive := Nat.zero_lt_of_lt (inside first List.mem_cons_self)
      exact absent ⟨positive, inside⟩

/-- A splitter that judges by the right answer does all that is expected. -/
theorem splitterSound_of_judged
    {selected : List ℕ} {channelCount : ℕ}
    (judged :
      runs selected ≤ channelCount ↔ OnDevice selected channelCount) :
    SplitterSound α selected channelCount := by
  constructor
  · intro data
    exact (splitter_accepts_iff data selected channelCount).trans judged
  · intro data absent
    exact splitter_refuses (judged.not.mpr absent)
  · intro data splitter constructed
    have few := (splitter_accepts_iff data _ _).mp ⟨splitter, constructed⟩
    rcases judged.mp few with ⟨positive, inside⟩
    rcases ChannelSplitter.new_eq_ok_iff.mp constructed with ⟨_, rfl⟩
    refine ⟨_, _, ChannelSplitter.yields_marked positive rfl, ?_⟩
    intro full c member
    exact splitter_meets (inside c member) full

/--
The splitter judges a list rightly exactly when its channels exist and make
no more runs than there are channels, or when one of them does not exist and
there are more runs.
-/
theorem splitterSound_iff (selected : List ℕ) (channelCount : ℕ) :
    SplitterSound α selected channelCount ↔
      (OnDevice selected channelCount ∧ runs selected ≤ channelCount) ∨
        ((∃ c ∈ selected, channelCount ≤ c) ∧
          channelCount < runs selected) := by
  constructor
  · intro sound
    have judged :
        runs selected ≤ channelCount ↔ OnDevice selected channelCount :=
      (splitter_accepts_iff [] _ _).symm.trans (sound.accepts_iff [])
    by_cases few : runs selected ≤ channelCount
    · exact Or.inl ⟨judged.mp few, few⟩
    · have tooMany := Nat.lt_of_not_le few
      exact Or.inr ⟨exists_missing (judged.not.mp few) tooMany, tooMany⟩
  · rintro (⟨present, few⟩ | ⟨⟨c, member, outside⟩, tooMany⟩)
    · exact splitterSound_of_judged ⟨fun _ => present, fun _ => few⟩
    · have absent : ¬ OnDevice selected channelCount := by
        rintro ⟨_, inside⟩
        exact absurd (inside c member) (Nat.not_lt_of_le outside)
      apply splitterSound_of_judged
      exact
        ⟨fun few => absurd few (Nat.not_le_of_lt tooMany),
          fun present => absurd present absent⟩

/-! ## The merger -/

/-- The merger accepts a selector with at most as many channels as there are. -/
theorem merger_accepts_iff
    {capacity : ℕ} (data : BoundedFifo α capacity)
    (sel : MixerTrackSelector) (channelCount outputLength : ℕ) :
    (∃ merger,
        ChannelMerger.new data sel channelCount outputLength =
          .ok merger) ↔
      sel.channelCount ≤ channelCount :=
  exists_checked_iff

/-- A loop over a merger with channels ends, whatever its ring holds. -/
theorem merger_ends [Sample α]
    {capacity : ℕ} {merger : ChannelMerger α capacity}
    (positive : 0 < merger.channelCount) (atStart : merger.index = 0) :
    ∃ items last, Yields ChannelMerger.next merger items last := by
  by_cases enough :
      merger.demand merger.outputLength ≤ merger.data.contents.length
  · exact ⟨_, _, ChannelMerger.yields_all positive atStart enough⟩
  · rcases
        ChannelMerger.yields_short positive atStart
          (Nat.lt_of_not_le enough) with
      ⟨stop, _, ending⟩
    exact ⟨_, _, ending⟩

/-- A merger that judges by the right answer does all that is expected. -/
theorem mergerSound_of_judged [Sample α]
    {sel : MixerTrackSelector} {channelCount : ℕ}
    (judged :
      sel.channelCount ≤ channelCount ↔
        OnDevice sel.channels channelCount) :
    MergerSound α sel channelCount := by
  constructor
  · intro capacity data outputLength
    exact (merger_accepts_iff data _ _ _).trans judged
  · intro capacity data outputLength absent
    exact checked_eq_error (judged.not.mpr absent)
  · intro capacity data outputLength merger constructed
    have few := (merger_accepts_iff data _ _ _).mp ⟨merger, constructed⟩
    rcases judged.mp few with ⟨positive, inside⟩
    rcases ChannelMerger.new_eq_ok_iff.mp constructed with ⟨_, rfl⟩
    refine ⟨merger_ends positive rfl, ?_⟩
    intro c member
    exact ⟨c, inside c member, Nat.mod_eq_of_lt (inside c member)⟩

/--
The selectors that the merger judges rightly by their number of channels: a
mono selector whose channel exists, or none does; a stereo selector whose
channels exist on a device with two or more channels, and on a smaller one
every selector but the one that names its only channel twice.
-/
def RightByNumber : MixerTrackSelector → ℕ → Prop
  | .mono c, channelCount => c < channelCount ∨ channelCount = 0
  | .stereo l r, channelCount =>
      (2 ≤ channelCount ∧ l < channelCount ∧ r < channelCount) ∨
        (channelCount < 2 ∧ ¬ (channelCount = 1 ∧ l = 0 ∧ r = 0))

/-- The number of channels is the right answer for these selectors only. -/
theorem judged_iff_rightByNumber
    (sel : MixerTrackSelector) (channelCount : ℕ) :
    (sel.channelCount ≤ channelCount ↔
        OnDevice sel.channels channelCount) ↔
      RightByNumber sel channelCount := by
  rw [onDevice_channels_iff]
  cases sel with
  | mono c =>
      simp only [MixerTrackSelector.channelCount,
        MixerTrackSelector.InRange, RightByNumber]
      omega
  | stereo l r =>
      simp only [MixerTrackSelector.channelCount,
        MixerTrackSelector.InRange, RightByNumber]
      omega

theorem mergerSound_iff [Sample α]
    (sel : MixerTrackSelector) (channelCount : ℕ) :
    MergerSound α sel channelCount ↔ RightByNumber sel channelCount := by
  rw [← judged_iff_rightByNumber]
  constructor
  · intro sound
    exact
      (merger_accepts_iff (.empty α 0) _ _ 0).symm.trans
        (sound.accepts_iff 0 (.empty α 0) 0)
  · exact mergerSound_of_judged

/-! ## Both constructors -/

/-- For which selections each constructor does what is expected of it. -/
theorem constructors_sound_iff [Sample α] :
    (∀ (selected : List ℕ) (channelCount : ℕ),
        SplitterSound α selected channelCount ↔
          (OnDevice selected channelCount ∧
              runs selected ≤ channelCount) ∨
            ((∃ c ∈ selected, channelCount ≤ c) ∧
              channelCount < runs selected)) ∧
      ∀ (sel : MixerTrackSelector) (channelCount : ℕ),
        MergerSound α sel channelCount ↔ RightByNumber sel channelCount :=
  ⟨splitterSound_iff, mergerSound_iff⟩

/--
A channel that does not exist, a device without channels and a list with a
scattered repetition for the splitter; a channel that does not exist and the
only channel named twice for the merger.
-/
theorem selections_misjudged :
    ¬ SplitterSound ℤ [5] 2 ∧
      ¬ SplitterSound ℤ [] 0 ∧
      ¬ SplitterSound ℤ [0, 1, 0] 2 ∧
      ¬ MergerSound ℤ (.mono 5) 2 ∧ ¬ MergerSound ℤ (.stereo 0 0) 1 := by
  refine ⟨?_, ?_, ?_, ?_, ?_⟩
  · intro sound
    rcases (sound.accepts_iff []).mp ⟨_, rfl⟩ with ⟨_, inside⟩
    exact absurd (inside 5 List.mem_cons_self) (by decide)
  · intro sound
    rcases (sound.accepts_iff []).mp ⟨_, rfl⟩ with ⟨positive, _⟩
    exact absurd positive (by decide)
  · intro sound
    rcases (sound.accepts_iff []).mpr ⟨by decide, by decide⟩ with
      ⟨splitter, constructed⟩
    cases constructed
  · intro sound
    rcases (sound.accepts_iff 0 (.empty ℤ 0) 0).mp ⟨_, rfl⟩ with ⟨_, inside⟩
    exact absurd (inside 5 List.mem_cons_self) (by decide)
  · intro sound
    rcases
        (sound.accepts_iff 0 (.empty ℤ 0) 0).mpr
          ⟨by decide, by decide⟩ with
      ⟨merger, constructed⟩
    cases constructed

end Audiopipe.Splitter.AcceptedSelections
