import Audiopipe.Foundation.Iterators
import Audiopipe.Foundation.StridedLists
import Audiopipe.Mixing.RingTransfer

/-!
# The channel splitter

An iterator over an interleaved device buffer that labels every sample with
its channel and with whether that channel is selected.
-/

namespace Audiopipe.Splitter.SampleLabels

open Audiopipe.Foundation.Iterators
open Audiopipe.Foundation.StridedLists
open Audiopipe.Mixing.RingTransfer

universe u

inductive SplitterMergerError where
  | selectedChannelsOverChannelCount
deriving DecidableEq, Repr

/-! ## Constructors that check a number -/

section Checked

variable {ε β : Type*} {size limit : ℕ} {e : ε} {made value : β}

/-- What such a constructor returns when it accepts. -/
theorem checked_eq_ok_iff :
    (if size > limit then Except.error e else .ok made) = .ok value ↔
      size ≤ limit ∧ value = made := by
  by_cases tooMany : size > limit
  · have notFew : ¬ size ≤ limit := Nat.not_le_of_lt tooMany
    simp [tooMany, notFew]
  · have few : size ≤ limit := Nat.le_of_not_lt tooMany
    simp [tooMany, few, eq_comm]

/-- It accepts exactly the numbers up to its limit. -/
theorem exists_checked_iff :
    (∃ value, (if size > limit then Except.error e else .ok made) =
        .ok value) ↔
      size ≤ limit := by
  constructor
  · rintro ⟨value, accepted⟩
    exact (checked_eq_ok_iff.mp accepted).1
  · intro few
    exact ⟨made, checked_eq_ok_iff.mpr ⟨few, rfl⟩⟩

/-- It refuses the others with its error. -/
theorem checked_eq_error (tooMany : ¬ size ≤ limit) :
    (if size > limit then Except.error e else .ok made) = .error e :=
  if_pos (Nat.lt_of_not_le tooMany)

end Checked

/-! ## The splitter -/

/-- `Vec::dedup`: removes repetitions that stand next to each other. -/
def dedup : List ℕ → List ℕ
  | first :: second :: rest =>
      if first = second then
        dedup (second :: rest)
      else
        first :: dedup (second :: rest)
  | short => short

/-- Removing repetitions does not remove a value altogether. -/
theorem mem_dedup (c : ℕ) (selected : List ℕ) :
    c ∈ dedup selected ↔ c ∈ selected := by
  induction selected using dedup.induct with
  | case1 first rest induction =>
      simp only [dedup, if_true, induction, List.mem_cons]
      exact ⟨Or.inr, fun member => member.elim Or.inl id⟩
  | case2 first second rest different induction =>
      rw [dedup, if_neg different, List.mem_cons, induction]
      exact List.mem_cons.symm
  | case3 short notLonger =>
      rw [dedup]
      exact notLonger

/-- Special iterator over the device buffer. -/
structure ChannelSplitter (α : Type u) where
  data : List α
  selectedChannels : List ℕ
  channelCount : ℕ
  index : ℕ

/-- Data which gets returned by the splitter. -/
structure SplitChannelSample (α : Type u) where
  sample : α
  currentChannel : ℕ
  onSelectedChannel : Bool
deriving DecidableEq, Repr

variable {α : Type u}

namespace ChannelSplitter

/-- Constructs a splitter at the start of its buffer. -/
def new (data : List α) (selectedChannels : List ℕ) (channelCount : ℕ) :
    Except SplitterMergerError (ChannelSplitter α) :=
  let selection := dedup selectedChannels
  if selection.length > channelCount then
    .error .selectedChannelsOverChannelCount
  else
    .ok
      { data := data
        selectedChannels := selection
        channelCount := channelCount
        index := 0 }

/-- The label of the sample at a position. -/
def mark (splitter : ChannelSplitter α) (entry : α × ℕ) :
    SplitChannelSample α where
  sample := entry.1
  currentChannel := entry.2 % splitter.channelCount
  onSelectedChannel :=
    splitter.selectedChannels.contains
      (entry.2 % splitter.channelCount)

/--
`next`.  The remainder is computed before the end of the buffer is checked,
so a splitter without channels panics even at the end.
-/
def next (splitter : ChannelSplitter α) :
    Except (Abort Empty)
      (Option (SplitChannelSample α) × ChannelSplitter α) :=
  if splitter.channelCount = 0 then
    .error .panic
  else
    match splitter.data[splitter.index]? with
    | some sample =>
        .ok
          (some (splitter.mark (sample, splitter.index)),
            { splitter with index := splitter.index + 1 })
    | none => .ok (none, splitter)

/-- Calls `next` until it returns `None`, at most `fuel` times. -/
def drain : ℕ → ChannelSplitter α →
    Except (Abort Empty) (List (SplitChannelSample α))
  | 0, _ => .ok []
  | fuel + 1, splitter => do
      match ← splitter.next with
      | (some sample, rest) =>
          let samples ← drain fuel rest
          return sample :: samples
      | (none, _) => return []

/-- The items of a `for` loop over the splitter. -/
def collect (splitter : ChannelSplitter α) :
    Except (Abort Empty) (List (SplitChannelSample α)) :=
  splitter.drain (splitter.data.length - splitter.index + 1)

theorem next_of_lt
    {splitter : ChannelSplitter α}
    (positive : 0 < splitter.channelCount)
    (inside : splitter.index < splitter.data.length) :
    splitter.next =
      .ok
        (some
          (splitter.mark (splitter.data[splitter.index], splitter.index)),
          { splitter with index := splitter.index + 1 }) := by
  simp [next, Nat.ne_of_gt positive, inside]

theorem next_of_le
    {splitter : ChannelSplitter α}
    (positive : 0 < splitter.channelCount)
    (outside : splitter.data.length ≤ splitter.index) :
    splitter.next = .ok (none, splitter) := by
  simp [next, Nat.ne_of_gt positive, outside]

/-- Draining labels what is left of the buffer. -/
theorem drain_eq
    {fuel : ℕ} {splitter : ChannelSplitter α}
    (positive : 0 < splitter.channelCount)
    (enough : splitter.data.length - splitter.index < fuel) :
    splitter.drain fuel =
      .ok
        (((splitter.data.drop splitter.index).zipIdx
          splitter.index).map splitter.mark) := by
  induction fuel generalizing splitter with
  | zero => omega
  | succ fuel induction =>
      by_cases inside : splitter.index < splitter.data.length
      · have rest :=
          @induction { splitter with index := splitter.index + 1 } positive
            (by
              change splitter.data.length - (splitter.index + 1) < fuel
              omega)
        simp only [drain, next_of_lt positive inside, bind, Except.bind,
          rest, pure, Except.pure]
        rw [List.drop_eq_getElem_cons inside, List.zipIdx_cons,
          List.map_cons]
        rfl
      · have outside : splitter.data.length ≤ splitter.index := by omega
        simp only [drain, next_of_le positive outside, bind, Except.bind,
          pure, Except.pure]
        rw [List.drop_of_length_le outside]
        rfl

/-- What `new` accepts, and the splitter it constructs. -/
theorem new_eq_ok_iff
    {data : List α} {selectedChannels : List ℕ} {channelCount : ℕ}
    {splitter : ChannelSplitter α} :
    new data selectedChannels channelCount = .ok splitter ↔
      (dedup selectedChannels).length ≤ channelCount ∧
        splitter = ⟨data, dedup selectedChannels, channelCount, 0⟩ :=
  checked_eq_ok_iff

/-- The splitter before position `i`. -/
def place (splitter : ChannelSplitter α) (i : ℕ) : ChannelSplitter α :=
  { splitter with index := i }

/-- A loop over a splitter with channels sees its whole buffer labelled. -/
theorem yields_marked
    {splitter : ChannelSplitter α}
    (positive : 0 < splitter.channelCount)
    (atStart : splitter.index = 0) :
    Yields next splitter (splitter.data.zipIdx.map splitter.mark)
      (splitter.place splitter.data.length) := by
  have started : splitter.place 0 = splitter := by
    cases splitter
    cases atStart
    rfl
  have sameLength :
      (splitter.data.zipIdx.map splitter.mark).length =
        splitter.data.length := by
    rw [List.length_map, List.length_zipIdx]
  have yields :
      Yields next (splitter.place 0)
        (splitter.data.zipIdx.map splitter.mark)
        (splitter.place splitter.data.length) := by
    apply Yields.of_places
    · intro i inside
      have within : (splitter.place i).index < splitter.data.length :=
        Nat.lt_of_lt_of_eq inside sameLength
      rw [List.getElem_map, List.getElem_zipIdx, Nat.zero_add]
      exact @next_of_lt _ (splitter.place i) positive within
    · rw [sameLength]
      exact
        @next_of_le _ (splitter.place _) positive (Nat.le_refl _)
  rwa [started] at yields

/-- A splitter with channels labels its whole buffer. -/
theorem collect_eq
    {splitter : ChannelSplitter α}
    (positive : 0 < splitter.channelCount)
    (atStart : splitter.index = 0) :
    splitter.collect =
      .ok (splitter.data.zipIdx.map splitter.mark) := by
  unfold collect
  rw [drain_eq positive (Nat.lt_succ_self _), atStart, List.drop_zero]

end ChannelSplitter

/-! ## Columns -/

/-- The samples that were labelled with channel `c`. -/
def onChannel (c : ℕ) (samples : List (SplitChannelSample α)) : List α :=
  (samples.filter fun labelled => labelled.currentChannel == c).map
    SplitChannelSample.sample

/-- The splitter puts column `c` of its buffer on channel `c`. -/
theorem onChannel_collect
    {splitter : ChannelSplitter α} {c : ℕ}
    (inside : c < splitter.channelCount)
    (atStart : splitter.index = 0) :
    ∃ samples,
      splitter.collect = .ok samples ∧
        onChannel c samples =
          everyNth splitter.channelCount c splitter.data := by
  have positive : 0 < splitter.channelCount :=
    Nat.lt_of_le_of_lt (Nat.zero_le c) inside
  refine ⟨_, ChannelSplitter.collect_eq positive atStart, ?_⟩
  have aligned : (0 + c) % splitter.channelCount = c := by
    rw [Nat.zero_add, Nat.mod_eq_of_lt inside]
  rw [everyNth_eq_filter 0 c splitter.data inside aligned]
  simp only [onChannel, List.filter_map, List.map_map]
  rfl

/-- The splitter of the source's own test, with channel 1 of 2 selected. -/
example :
    (ChannelSplitter.new [1, 2, 3, 4, 5, 6] [1] 2).toOption.map
        (fun splitter =>
          splitter.collect.toOption.map (·.map (·.onSelectedChannel))) =
      some (some [false, true, false, true, false, true]) := by
  decide

end Audiopipe.Splitter.SampleLabels
