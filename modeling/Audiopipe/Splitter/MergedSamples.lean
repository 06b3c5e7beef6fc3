import Audiopipe.Foundation.Iterators
import Audiopipe.Splitter.SampleLabels
import Mathlib.Data.Nat.Count

/-!
# The channel merger

An iterator that fills a device buffer from a ring: the positions of the
selected channels take the samples of the ring, the other positions are
silent.  A selected position that finds the ring empty ends the iteration
there, although the index has moved on already.
-/

namespace Audiopipe.Splitter.MergedSamples

open Audiopipe.Foundation.BoundedQueues
open Audiopipe.Foundation.Iterators
open Audiopipe.Mixing.TrackSelector
open Audiopipe.Mixing.RingTransfer
open Audiopipe.Splitter.SampleLabels

universe u

/-- Special iterator that transforms a ring to the format of the device. -/
structure ChannelMerger (α : Type u) (capacity : ℕ) where
  data : BoundedFifo α capacity
  selectedChannels : MixerTrackSelector
  channelCount : ℕ
  index : ℕ
  outputLength : ℕ

variable {α : Type u} {capacity : ℕ}

namespace ChannelMerger

/-- Constructs a merger at the start of its output. -/
def new
    (data : BoundedFifo α capacity) (selectedChannels : MixerTrackSelector)
    (channelCount outputLength : ℕ) :
    Except SplitterMergerError (ChannelMerger α capacity) :=
  if selectedChannels.channelCount > channelCount then
    .error .selectedChannelsOverChannelCount
  else
    .ok
      { data := data
        selectedChannels := selectedChannels
        channelCount := channelCount
        index := 0
        outputLength := outputLength }

/-- `next`; the index moves on before the ring is popped. -/
def next [Sample α] (merger : ChannelMerger α capacity) :
    Except (Abort Empty) (Option α × ChannelMerger α capacity) :=
  if merger.channelCount = 0 then
    .error .panic
  else if merger.index < merger.outputLength then
    let advanced := { merger with index := merger.index + 1 }
    if
      merger.selectedChannels.contains
        (merger.index % merger.channelCount)
    then
      match merger.data.tryPop with
      | some (v, ring) => .ok (some v, { advanced with data := ring })
      | none => .ok (none, advanced)
    else
      .ok (some Sample.EQUILIBRIUM, advanced)
  else
    .ok (none, merger)

/-- What `new` accepts, and the merger it constructs. -/
theorem new_eq_ok_iff
    {data : BoundedFifo α capacity} {selectedChannels : MixerTrackSelector}
    {channelCount outputLength : ℕ} {merger : ChannelMerger α capacity} :
    new data selectedChannels channelCount outputLength = .ok merger ↔
      selectedChannels.channelCount ≤ channelCount ∧
        merger =
          ⟨data, selectedChannels, channelCount, 0, outputLength⟩ :=
  checked_eq_ok_iff

/-- A merger that `new` accepts has channels. -/
theorem channelCount_pos_of_new
    {data : BoundedFifo α capacity} {selectedChannels : MixerTrackSelector}
    {channelCount outputLength : ℕ} {merger : ChannelMerger α capacity}
    (constructed :
      new data selectedChannels channelCount outputLength = .ok merger) :
    0 < channelCount :=
  Nat.lt_of_lt_of_le selectedChannels.channelCount_pos
    (new_eq_ok_iff.mp constructed).1

/-! ## What a position takes -/

/-- Whether the channel of a position is selected. -/
def selects (merger : ChannelMerger α capacity) (i : ℕ) : Bool :=
  merger.selectedChannels.contains (i % merger.channelCount)

/-- How many of the first `i` positions are on selected channels. -/
def demand (merger : ChannelMerger α capacity) (i : ℕ) : ℕ :=
  Nat.count (fun j => merger.selects j = true) i

/-- The sample for a position: the next one of the ring, or silence. -/
def output [Sample α] (merger : ChannelMerger α capacity) (i : ℕ) : α :=
  if merger.selects i then
    merger.data.contents[merger.demand i]?.getD Sample.EQUILIBRIUM
  else
    Sample.EQUILIBRIUM

/-- The merger before position `i`, when no pop has failed so far. -/
def place (merger : ChannelMerger α capacity) (i : ℕ) :
    ChannelMerger α capacity :=
  { merger with
    data := merger.data.skip (merger.demand i)
    index := i }

theorem place_zero
    {merger : ChannelMerger α capacity} (atStart : merger.index = 0) :
    merger.place 0 = merger := by
  cases merger
  cases atStart
  rfl

theorem demand_succ_selected
    {merger : ChannelMerger α capacity} {i : ℕ}
    (selected : merger.selects i = true) :
    merger.demand (i + 1) = merger.demand i + 1 := by
  rw [demand, Nat.count_succ, if_pos selected]
  rfl

theorem demand_succ_unselected
    {merger : ChannelMerger α capacity} {i : ℕ}
    (unselected : merger.selects i = false) :
    merger.demand (i + 1) = merger.demand i := by
  rw [demand, Nat.count_succ, if_neg (Bool.eq_false_iff.mp unselected)]
  rfl

theorem demand_mono
    (merger : ChannelMerger α capacity) {i j : ℕ} (before : i ≤ j) :
    merger.demand i ≤ merger.demand j :=
  Nat.count_monotone _ before

/-- A position gets its sample unless it is selected and the ring is empty. -/
theorem next_place [Sample α]
    {merger : ChannelMerger α capacity}
    (positive : 0 < merger.channelCount)
    {i : ℕ} (inside : i < merger.outputLength)
    (supplied : merger.demand (i + 1) ≤ merger.data.contents.length) :
    (merger.place i).next =
      .ok (some (merger.output i), merger.place (i + 1)) := by
  cases selected : merger.selects i with
  | false =>
      have notSelected :
          merger.selectedChannels.contains (i % merger.channelCount) =
            false :=
        selected
      simp [next, place, output, selected, notSelected, inside,
        Nat.ne_of_gt positive, demand_succ_unselected selected]
  | true =>
      have isSelected :
          merger.selectedChannels.contains (i % merger.channelCount) =
            true :=
        selected
      have nonempty : merger.demand i < merger.data.contents.length := by
        rw [demand_succ_selected selected] at supplied
        exact supplied
      simp [next, place, output, selected, isSelected, inside,
        Nat.ne_of_gt positive, demand_succ_selected selected,
        BoundedFifo.tryPop_skip, nonempty]

/-- The first selected position that finds the ring empty returns `none`. -/
theorem next_place_starved [Sample α]
    {merger : ChannelMerger α capacity}
    (positive : 0 < merger.channelCount)
    {i : ℕ} (inside : i < merger.outputLength)
    (selected : merger.selects i = true)
    (exhausted : merger.data.contents.length ≤ merger.demand i) :
    (merger.place i).next =
      .ok (none, { merger.place i with index := i + 1 }) := by
  have isSelected :
      merger.selectedChannels.contains (i % merger.channelCount) = true :=
    selected
  simp [next, place, isSelected, inside, Nat.ne_of_gt positive,
    BoundedFifo.tryPop_skip, exhausted]

/-- At its end the merger returns `none` and stays as it is. -/
theorem next_end [Sample α]
    {merger : ChannelMerger α capacity}
    (positive : 0 < merger.channelCount)
    (finished : merger.outputLength ≤ merger.index) :
    merger.next = .ok (none, merger) := by
  simp [next, Nat.ne_of_gt positive, Nat.not_lt_of_le finished]

/-! ## Whole iterations -/

/-- As long as the ring lasts, every position gets its sample. -/
theorem yields_until [Sample α]
    {merger last : ChannelMerger α capacity} {stop : ℕ}
    (positive : 0 < merger.channelCount) (atStart : merger.index = 0)
    (inside : stop ≤ merger.outputLength)
    (supplied : merger.demand stop ≤ merger.data.contents.length)
    (ended : (merger.place stop).next = .ok (none, last)) :
    Yields next merger ((List.range stop).map merger.output) last := by
  have yields :
      Yields next (merger.place 0) ((List.range stop).map merger.output)
        last := by
    apply Yields.of_places
    · intro i early
      rw [List.length_map, List.length_range] at early
      rw [List.getElem_map, List.getElem_range]
      exact
        next_place positive (Nat.lt_of_lt_of_le early inside)
          (Nat.le_trans (merger.demand_mono early) supplied)
    · rw [List.length_map, List.length_range]
      exact ended
  rwa [place_zero atStart] at yields

/-- With enough samples in the ring the merger fills the whole buffer. -/
theorem yields_all [Sample α]
    {merger : ChannelMerger α capacity}
    (positive : 0 < merger.channelCount) (atStart : merger.index = 0)
    (enough :
      merger.demand merger.outputLength ≤ merger.data.contents.length) :
    Yields next merger ((List.range merger.outputLength).map merger.output)
      (merger.place merger.outputLength) := by
  have ended :
      (merger.place merger.outputLength).next =
        .ok (none, merger.place merger.outputLength) :=
    next_end positive (Nat.le_refl _)
  exact yields_until positive atStart (Nat.le_refl _) enough ended

/-- With too few samples some selected position finds the ring empty. -/
theorem exists_starved
    {merger : ChannelMerger α capacity}
    (scarce :
      merger.data.contents.length < merger.demand merger.outputLength) :
    ∃ stop < merger.outputLength,
      merger.selects stop = true ∧
        merger.demand stop = merger.data.contents.length := by
  have crossing : ∃ i, merger.data.contents.length < merger.demand i :=
    ⟨merger.outputLength, scarce⟩
  have beyond := Nat.find_spec crossing
  have early := Nat.find_min' crossing scarce
  cases first : Nat.find crossing with
  | zero =>
      rw [first] at beyond
      exact absurd beyond (Nat.not_lt_zero _)
  | succ stop =>
      rw [first] at beyond early
      have within :
          ¬ merger.data.contents.length < merger.demand stop :=
        Nat.find_min crossing (by omega)
      refine ⟨stop, early, ?_⟩
      cases selected : merger.selects stop with
      | false =>
          rw [demand_succ_unselected selected] at beyond
          exact absurd beyond within
      | true =>
          rw [demand_succ_selected selected] at beyond
          exact ⟨rfl, by omega⟩

/-- With too few samples the merger ends before its buffer is full. -/
theorem yields_short [Sample α]
    {merger : ChannelMerger α capacity}
    (positive : 0 < merger.channelCount) (atStart : merger.index = 0)
    (scarce :
      merger.data.contents.length < merger.demand merger.outputLength) :
    ∃ stop < merger.outputLength,
      Yields next merger ((List.range stop).map merger.output)
        { merger.place stop with index := stop + 1 } := by
  rcases exists_starved scarce with ⟨stop, early, selected, exhausted⟩
  have ended := next_place_starved positive early selected exhausted.ge
  exact
    ⟨stop, early,
      yields_until positive atStart early.le exhausted.le ended⟩

/-- The merger of the source's own test, and the call after its end. -/
example :
    (calls next 13
        ⟨(BoundedFifo.empty ℤ 6).offerAll [1, 2, 1, 2, 1, 2], .stereo 1 3,
          4, 0, 12⟩).toOption.map Prod.fst =
      some
        ([0, 1, 0, 2, 0, 1, 0, 2, 0, 1, 0, 2].map some ++ [none]) := by
  decide

/-! ## Filling the device buffer -/

/--
The merger puts out exactly `outputLength` samples, for every position the
one that belongs there, and has then ended for ever.
-/
def FillsDevice [Sample α] (merger : ChannelMerger α capacity) : Prop :=
  ∃ items last,
    Yields next merger items last ∧
      items.length = merger.outputLength ∧
      (∀ i < merger.outputLength, items[i]? = some (merger.output i)) ∧
      EndedForEver next last

/--
The merger fills the device buffer exactly when the ring holds a sample for
every position on a selected channel.
-/
theorem fillsDevice_iff [Sample α]
    {data : BoundedFifo α capacity} {sel : MixerTrackSelector}
    {channelCount outputLength : ℕ} {merger : ChannelMerger α capacity}
    (constructed : new data sel channelCount outputLength = .ok merger) :
    FillsDevice merger ↔
      Nat.count (fun i => sel.contains (i % channelCount) = true)
          outputLength ≤
        data.contents.length := by
  have positive := channelCount_pos_of_new constructed
  rcases new_eq_ok_iff.mp constructed with ⟨_, rfl⟩
  constructor
  · rintro ⟨items, last, yields, filled, _⟩
    by_contra short
    have scarce := Nat.lt_of_not_le short
    rcases
        @yields_short _ _ _ ⟨data, sel, channelCount, 0, outputLength⟩
          positive rfl scarce with
      ⟨stop, early, ending⟩
    rcases yields.unique ending with ⟨rfl, _⟩
    rw [List.length_map, List.length_range] at filled
    exact absurd filled (Nat.ne_of_lt early)
  · intro enough
    refine ⟨_, _, yields_all positive rfl enough, by simp, ?_, ?_⟩
    · intro i inside
      simp [inside]
    · exact EndedForEver.of_fixed (next_end positive (Nat.le_refl _))

/-- The ring of the source's own test, with a sample for every position. -/
def testRing : BoundedFifo ℤ 6 where
  contents := [1, 2, 1, 2, 1, 2]
  bounded := Nat.le_refl 6

theorem fillsDevice_iff_testRing :
    FillsDevice ⟨testRing, .stereo 1 3, 4, 0, 12⟩ :=
  (@fillsDevice_iff _ _ _ testRing (.stereo 1 3) 4 12 _ rfl).mpr
    (by decide)

/--
A merger with an empty ring: the loop sees nothing at all, and the call after
the first `none` returns a sample again.
-/
theorem starved_merger_resumes :
    ¬ FillsDevice ⟨.empty ℤ 1, .mono 0, 2, 0, 2⟩ ∧
      calls next 2 ⟨.empty ℤ 1, .mono 0, 2, 0, 2⟩ =
        .ok ([none, some 0], ⟨.empty ℤ 1, .mono 0, 2, 2, 2⟩) := by
  constructor
  · rintro ⟨items, last, yields, filled, _⟩
    have nothing :
        Yields next ⟨.empty ℤ 1, .mono 0, 2, 0, 2⟩ []
          ⟨.empty ℤ 1, .mono 0, 2, 1, 2⟩ :=
      .ended rfl
    rcases yields.unique nothing with ⟨rfl, _⟩
    cases filled
  · rfl

end ChannelMerger

end Audiopipe.Splitter.MergedSamples
