import Audiopipe.Splitter.MergedSamples

/-!
# Merging what was split

The splitter goes by a list of channels without neighbouring repetitions, the
merger by the selector itself.  Both number the positions of a buffer by the
remainder of an index of their own.  What the splitter marks as selected is
exactly what the merger asks its ring for, so a ring that takes the marked
samples gives them back to the positions they came from.
-/

namespace Audiopipe.Splitter.SplitThenMerge

open Audiopipe.Foundation.BoundedQueues
open Audiopipe.Foundation.Iterators
open Audiopipe.Foundation.StridedLists
open Audiopipe.Mixing.TrackSelector
open Audiopipe.Splitter.SampleLabels
open Audiopipe.Splitter.MergedSamples

universe u

variable {α : Type u} {capacity : ℕ}

/-- The samples that were marked as on a selected channel, in order. -/
def onSelected (samples : List (SplitChannelSample α)) : List α :=
  (samples.filter fun labelled => labelled.onSelectedChannel).map
    SplitChannelSample.sample

/-- The list that the splitter goes by selects what the selector contains. -/
theorem contains_dedup_channels (sel : MixerTrackSelector) (c : ℕ) :
    (dedup sel.channels).contains c = sel.contains c := by
  rw [Bool.eq_iff_iff, List.contains_iff_mem, mem_dedup, sel.mem_channels]

/-- The splitter marks the positions whose channel the selector contains. -/
theorem onSelected_marked
    (sel : MixerTrackSelector) (channelCount : ℕ) (buffer : List α) :
    onSelected
        (buffer.zipIdx.map
          (ChannelSplitter.mark
            ⟨buffer, dedup sel.channels, channelCount, 0⟩)) =
      keepWhere (fun i => sel.contains (i % channelCount)) 0 buffer := by
  have marked :
      ∀ entry : α × ℕ,
        (ChannelSplitter.mark ⟨buffer, dedup sel.channels, channelCount, 0⟩
            entry).onSelectedChannel =
          sel.contains (entry.2 % channelCount) :=
    fun entry => contains_dedup_channels sel (entry.2 % channelCount)
  unfold onSelected keepWhere
  rw [List.filter_map, List.map_map]
  simp only [Function.comp_def, marked]
  rfl

/-- A ring that was empty and has room takes the whole list. -/
theorem offerAll_empty
    {ring : BoundedFifo α capacity} (empty : ring.IsEmpty)
    {values : List α} (room : values.length ≤ capacity) :
    (ring.offerAll values).contents = values := by
  have nothing : ring.contents = [] := empty
  rw [BoundedFifo.offerAll_contents, nothing, List.nil_append,
    List.take_of_length_le room]

/-! ## A merger that was given what it asks for -/

/-- The ring holds a sample for each position that is selected. -/
theorem demand_of_supplied
    {merger : ChannelMerger α capacity} {buffer : List α}
    (supplied :
      merger.data.contents = keepWhere merger.selects 0 buffer) :
    merger.demand buffer.length = merger.data.contents.length := by
  rw [supplied, length_keepWhere]
  simp only [Nat.zero_add]
  rfl

/-- Every selected position gets its own sample back. -/
theorem output_of_supplied [Sample α]
    {merger : ChannelMerger α capacity} {buffer : List α}
    (supplied :
      merger.data.contents = keepWhere merger.selects 0 buffer)
    {i : ℕ} (inside : i < buffer.length) :
    some (merger.output i) =
      if merger.selects i then buffer[i]? else some Sample.EQUILIBRIUM := by
  cases here : merger.selects i with
  | false => simp [ChannelMerger.output, here]
  | true =>
      have chosen : merger.selects (0 + i) = true := by
        rw [Nat.zero_add, here]
      have kept := getElem?_keepWhere 0 buffer chosen
      simp only [Nat.zero_add] at kept
      have found :
          merger.data.contents[merger.demand i]? = buffer[i]? := by
        rw [supplied]
        exact kept
      rw [ChannelMerger.output, if_pos here, if_pos rfl, found,
        List.getElem?_eq_getElem inside]
      rfl

/-- Such a merger fills its buffer and empties its ring. -/
theorem yields_of_supplied [Sample α]
    {merger : ChannelMerger α capacity} {buffer : List α}
    (positive : 0 < merger.channelCount) (atStart : merger.index = 0)
    (sameLength : merger.outputLength = buffer.length)
    (supplied :
      merger.data.contents = keepWhere merger.selects 0 buffer) :
    ∃ items merged,
      Yields ChannelMerger.next merger items merged ∧
        items.length = buffer.length ∧
        (∀ i < buffer.length,
          items[i]? =
            if merger.selects i then
              buffer[i]?
            else
              some Sample.EQUILIBRIUM) ∧
        merged.data.IsEmpty := by
  have satisfied := demand_of_supplied supplied
  have enough :
      merger.demand merger.outputLength ≤ merger.data.contents.length := by
    rw [sameLength, satisfied]
  refine
    ⟨_, _, ChannelMerger.yields_all positive atStart enough, ?_, ?_, ?_⟩
  · rw [List.length_map, List.length_range, sameLength]
  · intro i inside
    rw [← output_of_supplied supplied inside]
    simp [sameLength, inside]
  · show
      merger.data.contents.drop (merger.demand merger.outputLength) = []
    rw [sameLength, satisfied, List.drop_length]

/-! ## The round trip -/

/--
Merging undoes splitting.  The splitter labels the whole buffer; and when the
marked samples go through a ring that has room for them, the merger puts each
of them back to its position, is silent elsewhere, ends with the buffer and
leaves the ring empty.
-/
theorem merge_undoes_split [Sample α]
    (buffer : List α) {channelCount : ℕ} (positive : 0 < channelCount)
    {sel : MixerTrackSelector} {splitter : ChannelSplitter α}
    (splits :
      ChannelSplitter.new buffer sel.channels channelCount =
        .ok splitter) :
    ∃ samples splitted,
      Yields ChannelSplitter.next splitter samples splitted ∧
        ∀ (capacity : ℕ) (ring : BoundedFifo α capacity)
          (merger : ChannelMerger α capacity),
          ring.IsEmpty →
            (onSelected samples).length ≤ capacity →
            ChannelMerger.new (ring.offerAll (onSelected samples)) sel
                channelCount buffer.length =
              .ok merger →
            ∃ items merged,
              Yields ChannelMerger.next merger items merged ∧
                items.length = buffer.length ∧
                (∀ i < buffer.length,
                  items[i]? =
                    if sel.contains (i % channelCount) then
                      buffer[i]?
                    else
                      some Sample.EQUILIBRIUM) ∧
                merged.data.IsEmpty := by
  rcases ChannelSplitter.new_eq_ok_iff.mp splits with ⟨_, rfl⟩
  refine ⟨_, _, ChannelSplitter.yields_marked positive rfl, ?_⟩
  rw [onSelected_marked]
  intro capacity ring merger empty room merges
  rcases ChannelMerger.new_eq_ok_iff.mp merges with ⟨_, rfl⟩
  exact yields_of_supplied positive rfl rfl (offerAll_empty empty room)

/-- A stereo buffer of one frame, split and merged on its second channel. -/
theorem merge_undoes_split_frame :
    ∃ items merged,
      Yields ChannelMerger.next
          ⟨(BoundedFifo.empty ℤ 1).offerAll [7], .mono 1, 2, 0, 2⟩ items
          merged ∧
        items.length = 2 ∧
        (∀ i < 2,
          items[i]? =
            if (MixerTrackSelector.mono 1).contains (i % 2) then
              ([5, 7] : List ℤ)[i]?
            else
              some 0) ∧
        merged.data.IsEmpty := by
  rcases
      @merge_undoes_split ℤ _ [5, 7] 2 (by decide) (.mono 1) _ rfl with
    ⟨samples, splitted, labelled, merges⟩
  have marked :
      Yields ChannelSplitter.next
        ⟨[(5 : ℤ), 7], dedup (MixerTrackSelector.mono 1).channels, 2, 0⟩
        [⟨5, 0, false⟩, ⟨7, 1, true⟩]
        ⟨[5, 7], dedup (MixerTrackSelector.mono 1).channels, 2, 2⟩ :=
    .item rfl (.item rfl (.ended rfl))
  rcases labelled.unique marked with ⟨rfl, _⟩
  exact merges 1 (.empty ℤ 1) _ rfl (Nat.le_refl 1) rfl

end Audiopipe.Splitter.SplitThenMerge
