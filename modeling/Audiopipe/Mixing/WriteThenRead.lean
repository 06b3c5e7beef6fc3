import Audiopipe.Mixing.TransferLaws
import Mathlib.Algebra.BigOperators.Group.Finset.Basic
import Mathlib.Algebra.Group.Prod

/-!
# Writing a buffer and reading it back

The write loop goes by the parity of its counter and the read loop by the
remainder of its index.  The index law of a read says which sample of which
ring each position of the output buffer gets, and the count law of a write
says how many samples entered the rings.  Together they describe a write
followed by a read on any mixer, whatever fits and whatever is missing.
-/

namespace Audiopipe.Mixing.WriteThenRead

open Audiopipe.Foundation.BoundedQueues
open Audiopipe.Foundation.StridedLists
open Audiopipe.Mixing.TrackSelector
open Audiopipe.Mixing.RingTransfer
open Audiopipe.Mixing.TransferLaws

variable {α : Type} {channelCount bufferSize : ℕ}

/-! ## The index law of a read -/

/--
What position `i` of a read from counter `ch` finds in the ring of its
channel, behind the samples that the visits before it have taken.
-/
def found
    (positive : 0 < channelCount)
    (mixer : Mixer α channelCount bufferSize) (ch i : ℕ) : Option α :=
  (mixer.rings (channelAt positive (ch + i))).contents[
    visits channelCount ch i ((ch + i) % channelCount)]?

/-- The first position finds the front of its ring. -/
theorem found_zero
    (positive : 0 < channelCount)
    (mixer : Mixer α channelCount bufferSize) (ch : ℕ) :
    found positive mixer ch 0 =
      (mixer.rings (channelAt positive ch)).contents[0]? := by
  simp [found, visits]

/-- The later positions find what an iteration has left for them. -/
theorem found_succ
    (positive : 0 < channelCount)
    {mixer next : Mixer α channelCount bufferSize} {ch : ℕ}
    (taken :
      ∀ c,
        (next.rings c).contents =
          (mixer.rings c).contents.drop
            (if ch % channelCount = c then 1 else 0))
    (i : ℕ) :
    found positive mixer ch (i + 1) =
      found positive next (ch + 1) i := by
  have sameChannel : ch + (i + 1) = ch + 1 + i := by omega
  unfold found
  rw [taken, List.getElem?_drop, sameChannel, visits_succ]
  rfl

/-- An iteration counts what it found. -/
theorem readMixerSample_tally [Sample α]
    (positive : 0 < channelCount) {cursor : MixerCursor}
    {mixer : Mixer α channelCount bufferSize}
    {next : MixerCursor × α × Mixer α channelCount bufferSize}
    (read : readMixerSample cursor mixer = .ok next) :
    (next.1.consumed, next.1.dropped) =
      (cursor.consumed, cursor.dropped) +
        tally (found positive mixer cursor.ch 0) := by
  rw [readMixerSample_eq positive] at read
  cases read
  rw [found_zero]
  rfl

/-- An iteration counts as consumed exactly when it found a sample. -/
theorem readMixerSample_consumed [Sample α]
    (positive : 0 < channelCount) {cursor : MixerCursor}
    {mixer : Mixer α channelCount bufferSize}
    {next : MixerCursor × α × Mixer α channelCount bufferSize}
    (read : readMixerSample cursor mixer = .ok next) :
    next.1.consumed =
      cursor.consumed +
        if (found positive mixer cursor.ch 0).isSome then 1 else 0 := by
  have counted := congrArg Prod.fst (readMixerSample_tally positive read)
  refine counted.trans ?_
  rw [Prod.fst_add, tally]
  cases (found positive mixer cursor.ch 0).isSome with
  | true => rfl
  | false => rfl

/--
The index law: every position of the buffer gets what it finds, or silence,
and the positions that found something are the consumed ones.
-/
theorem readMixerSamples_found [Sample α]
    (positive : 0 < channelCount) (cursor : MixerCursor)
    (mixer : Mixer α channelCount bufferSize) (length : ℕ) :
    ∃ final : MixerCursor × List α × Mixer α channelCount bufferSize,
      readMixerSamples cursor mixer length = .ok final ∧
        (∀ i < length,
          final.2.1[i]? =
            some
              ((found positive mixer cursor.ch i).getD
                Sample.EQUILIBRIUM)) ∧
        final.1.consumed =
          cursor.consumed +
            Nat.count
              (fun i => (found positive mixer cursor.ch i).isSome)
              length := by
  induction length generalizing cursor mixer with
  | zero =>
      refine ⟨(cursor, [], mixer), rfl, ?_, by simp⟩
      intro i early
      exact absurd early (Nat.not_lt_zero i)
  | succ length induction =>
      rcases readMixerSample_ok positive cursor mixer with
        ⟨next, read, counter, _, output, taken⟩
      rcases induction next.1 next.2.2 with
        ⟨final, readRest, outputRest, consumedRest⟩
      have consumedHere := readMixerSample_consumed positive read
      have shift := found_succ positive taken
      rw [← counter] at shift
      refine ⟨(final.1, next.2.1 :: final.2.1, final.2.2), ?_, ?_, ?_⟩
      · exact readMixerSamples_succ read readRest
      · intro i early
        cases i with
        | zero =>
            rw [List.getElem?_cons_zero, output, popOrSilence_eq,
              found_zero]
        | succ i =>
            rw [List.getElem?_cons_succ,
              outputRest i (Nat.lt_of_succ_lt_succ early), shift]
      · rw [Nat.count_succ', consumedRest, consumedHere]
        simp only [shift]
        omega

/-- Before position `i`, the channel of `i` was visited once per frame. -/
theorem visits_zero_self (positive : 0 < channelCount) (i : ℕ) :
    visits channelCount 0 i (i % channelCount) = i / channelCount := by
  have sameCondition :
      ∀ j, (0 + j) % channelCount = i % channelCount ↔
        j ≡ i [MOD channelCount] := by
    intro j
    rw [Nat.zero_add, Nat.ModEq]
  unfold visits
  simp only [sameCondition]
  rw [Nat.count_modEq_card _ positive]
  simp

/-- A whole read finds at position `i` the sample of its frame. -/
theorem found_start
    (positive : 0 < channelCount)
    (mixer : Mixer α channelCount bufferSize) (i : ℕ) :
    found positive mixer MixerCursor.start.ch i =
      (mixer.rings (channelAt positive i)).contents[i / channelCount]? := by
  have counter : MixerCursor.start.ch = 0 := rfl
  unfold found
  rw [counter, Nat.zero_add, visits_zero_self positive]

/-- The law of `read_from_mixer_sync` for a buffer of any length. -/
theorem readFromMixerSync_law [Sample α]
    (positive : 0 < channelCount)
    (mixer : Mixer α channelCount bufferSize) (length : ℕ) :
    ∃ consumed dropped output rest,
      readFromMixerSync mixer length =
          .ok ((consumed, dropped), output, rest) ∧
        output.length = length ∧
        (∀ i < length,
          output[i]? =
            some
              ((mixer.rings (channelAt positive i)).contents[
                i / channelCount]?.getD Sample.EQUILIBRIUM)) ∧
        (∀ c : Fin channelCount,
          (rest.rings c).contents =
            (mixer.rings c).contents.drop
              (Nat.count (fun i => i % channelCount = c) length)) ∧
        consumed =
          Nat.count
            (fun i =>
              ((mixer.rings (channelAt positive i)).contents[
                i / channelCount]?).isSome)
            length ∧
        consumed + dropped = length := by
  rcases readMixerSamples_ok positive .start mixer length with
    ⟨final, read, filled, total, taken⟩
  rcases readMixerSamples_found positive .start mixer length with
    ⟨same, readSame, output, consumed⟩
  cases read.symm.trans readSame
  simp only [found_start] at output consumed
  refine
    ⟨_, _, _, _, readFromMixerSync_of_ok read, filled, output, ?_, ?_, ?_⟩
  · intro c
    have visited :
        visits channelCount MixerCursor.start.ch length c =
          Nat.count (fun i => i % channelCount = c) length := by
      simp [visits, MixerCursor.start]
    rw [taken c, visited]
  · simpa [MixerCursor.start] using consumed
  · simpa [MixerCursor.start] using total

/-! ## The count law of a write -/

/-- How many samples are in the rings. -/
def stored (mixer : Mixer α channelCount bufferSize) : ℕ :=
  ∑ c, (mixer.rings c).contents.length

/-- Exchanging one ring changes the total by the change of its length. -/
theorem stored_setRing
    (mixer : Mixer α channelCount bufferSize)
    (c : Fin channelCount) (ring : BoundedFifo α bufferSize) :
    stored (mixer.setRing c ring) + (mixer.rings c).contents.length =
      stored mixer + ring.contents.length := by
  have others :
      ∑ other ∈ Finset.univ.erase c,
          ((mixer.setRing c ring).rings other).contents.length =
        ∑ other ∈ Finset.univ.erase c,
          (mixer.rings other).contents.length := by
    apply Finset.sum_congr rfl
    intro other member
    rw [mixer.setRing_rings_of_ne (Finset.ne_of_mem_erase member)]
  have before :=
    Finset.add_sum_erase Finset.univ
      (fun other => (mixer.rings other).contents.length)
      (Finset.mem_univ c)
  have after :=
    Finset.add_sum_erase Finset.univ
      (fun other =>
        ((mixer.setRing c ring).rings other).contents.length)
      (Finset.mem_univ c)
  simp only [Mixer.setRing_rings_self] at after
  unfold stored
  omega

/-- An iteration counts as consumed exactly when its sample entered. -/
theorem writeSample_stored
    (cursor : TrackCursor channelCount)
    (mixer : Mixer α channelCount bufferSize) (o : α) :
    (writeSample cursor mixer o).1.consumed + stored mixer =
      cursor.consumed + stored (writeSample cursor mixer o).2 := by
  unfold writeSample
  cases pushed : (mixer.rings cursor.channel).tryPush o with
  | none => rfl
  | some ring =>
      have appended := (BoundedFifo.tryPush_eq_some pushed).1
      have exchanged := stored_setRing mixer cursor.channel ring
      rw [appended, List.length_append, List.length_singleton] at exchanged
      simp only [TrackCursor.hit]
      omega

/-- The write loop counts as consumed what the rings have gained. -/
theorem writeSamples_stored
    (cursor : TrackCursor channelCount)
    (mixer : Mixer α channelCount bufferSize) (input : List α) :
    (writeSamples cursor mixer input).1.consumed + stored mixer =
      cursor.consumed + stored (writeSamples cursor mixer input).2 := by
  induction input generalizing cursor mixer with
  | nil => rfl
  | cons o rest induction =>
      have here := writeSample_stored cursor mixer o
      have later :=
        induction (writeSample cursor mixer o).1
          (writeSample cursor mixer o).2
      rw [writeSamples]
      omega

/-- The samples of an input buffer that a selector addresses to `c`. -/
def share (sel : MixerTrackSelector) (c : ℕ) (input : List α) : List α :=
  match sel with
  | .mono m => if m = c then input else []
  | .stereo l r =>
      if l = r then
        if l = c then input else []
      else if l = c then
        everyNth 2 0 input
      else if r = c then
        everyNth 2 1 input
      else
        []

/-- Nothing is addressed to a channel that the selector does not name. -/
theorem share_unnamed
    {sel : MixerTrackSelector} {c : ℕ} (unnamed : sel.contains c = false)
    (input : List α) :
    share sel c input = [] := by
  cases sel with
  | mono m =>
      have different : m ≠ c := by
        simpa [MixerTrackSelector.contains] using unnamed
      simp [share, different]
  | stereo l r =>
      have different : l ≠ c ∧ r ≠ c := by
        simpa [MixerTrackSelector.contains] using unnamed
      simp [share, different.1, different.2]

/-- The write loop distributes its input as the selector says. -/
theorem addressed_eq_share
    {sel : MixerTrackSelector} {track : MixerTrack (Fin channelCount)}
    (resolved : getChannel channelCount sel = .ok track)
    (c : Fin channelCount) (input : List α) :
    addressed track sel.channelCount 0 c input = share sel c input := by
  have inRange : sel.InRange channelCount :=
    (getChannel_isOk_iff sel).mp ⟨track, resolved⟩
  cases named : sel.contains c with
  | false =>
      rw [addressed_other (pick_ne_of_unnamed resolved named),
        share_unnamed named]
  | true =>
      cases sel with
      | mono m =>
          rw [getChannel_mono inRange] at resolved
          cases resolved
          have here : m = c := by
            simpa [MixerTrackSelector.contains] using named
          subst here
          simp [share, addressed_mono]
      | stereo l r =>
          rw [getChannel_stereo inRange.1 inRange.2] at resolved
          cases resolved
          by_cases isLeft : l = c
          · subst isLeft
            by_cases isRight : r = c
            · subst isRight
              simp [share, addressed_stereo_same]
            · have sides : c ≠ (⟨r, inRange.2⟩ : Fin channelCount) :=
                fun equal => isRight (congrArg Fin.val equal).symm
              simp [share, Ne.symm isRight,
                MixerTrackSelector.channelCount,
                addressed_stereo_left sides]
          · have isRight : r = c := by
              simpa [MixerTrackSelector.contains, isLeft] using named
            subst isRight
            have sides : (⟨l, inRange.1⟩ : Fin channelCount) ≠ c :=
              fun equal => isLeft (congrArg Fin.val equal)
            simp [share, isLeft, MixerTrackSelector.channelCount,
              addressed_stereo_right sides]

/-- The share of a part of the input is the beginning of the whole share. -/
theorem share_take_prefix
    {sel : MixerTrackSelector} (inRange : sel.InRange channelCount)
    (c : Fin channelCount) (input : List α) (done : ℕ) :
    share sel c (input.take done) <+: share sel c input := by
  rcases (getChannel_isOk_iff sel).mpr inRange with ⟨track, resolved⟩
  have split := List.take_append_drop done input
  rw [← addressed_eq_share resolved, ← addressed_eq_share resolved]
  conv_rhs => rw [← split, addressed_append]
  exact List.prefix_append _ _

/-- A ring after a write: its contents and its share, as far as they fit. -/
def queued
    (mixer : Mixer α channelCount bufferSize) (sel : MixerTrackSelector)
    (input : List α) (c : Fin channelCount) : List α :=
  ((mixer.rings c).contents ++ share sel c input).take bufferSize

theorem length_le_length_queued
    (mixer : Mixer α channelCount bufferSize) (sel : MixerTrackSelector)
    (input : List α) (c : Fin channelCount) :
    (mixer.rings c).contents.length ≤
      (queued mixer sel input c).length := by
  have bounded := (mixer.rings c).bounded
  simp only [queued, List.length_take, List.length_append]
  omega

/-- The law of `write_to_mixer_sync` for a selector whose channels exist. -/
theorem writeToMixerSync_law
    (mixer : Mixer α channelCount bufferSize) {sel : MixerTrackSelector}
    (inRange : sel.InRange channelCount) (input : List α) :
    ∃ consumed dropped written,
      writeToMixerSync mixer input sel =
          .ok ((consumed, dropped), written) ∧
        (∀ c, (written.rings c).contents = queued mixer sel input c) ∧
        consumed =
          ∑ c,
            ((queued mixer sel input c).length -
              (mixer.rings c).contents.length) ∧
        consumed + dropped = input.length := by
  rcases (getChannel_isOk_iff sel).mpr inRange with ⟨track, resolved⟩
  have total :=
    writeSamples_total (.start track sel.channelCount) mixer input
  have gained :=
    writeSamples_stored (.start track sel.channelCount) mixer input
  have rings :
      ∀ c,
        ((writeSamples (.start track sel.channelCount) mixer
            input).2.rings c).contents =
          queued mixer sel input c := by
    intro c
    have sent :
        addressed (TrackCursor.start track sel.channelCount).track
            (TrackCursor.start track sel.channelCount).cycle
            (TrackCursor.start track sel.channelCount).ch c input =
          share sel c input :=
      addressed_eq_share resolved c input
    rw [writeSamples_rings, BoundedFifo.offerAll_contents, sent]
    rfl
  refine
    ⟨_, _, _, writeToMixerSync_of_resolved resolved mixer input, rings, ?_,
      ?_⟩
  · rw [Finset.sum_tsub_distrib _ fun c _ =>
      length_le_length_queued mixer sel input c]
    simp only [stored, rings] at gained
    have fromZero :
        (TrackCursor.start track sel.channelCount).consumed = 0 :=
      rfl
    omega
  · simpa [TrackCursor.start] using total

/-! ## Both together -/

/--
A write followed by a read: position `i` of the output gets the sample of its
frame from the ring of its channel as the write has left it, or silence; each
ring loses one sample for each of its positions; and both calls count what
they moved and what they did not.
-/
theorem writeToMixerSync_readFromMixerSync [Sample α]
    (positive : 0 < channelCount)
    (mixer : Mixer α channelCount bufferSize) {sel : MixerTrackSelector}
    (inRange : sel.InRange channelCount)
    (input : List α) (length : ℕ) :
    ∃ entered refused written filled silent output rest,
      writeToMixerSync mixer input sel =
          .ok ((entered, refused), written) ∧
        readFromMixerSync written length =
          .ok ((filled, silent), output, rest) ∧
        output.length = length ∧
        (∀ i < length,
          output[i]? =
            some
              ((queued mixer sel input (channelAt positive i))[
                i / channelCount]?.getD Sample.EQUILIBRIUM)) ∧
        (∀ c : Fin channelCount,
          (rest.rings c).contents =
            (queued mixer sel input c).drop
              (Nat.count (fun i => i % channelCount = c) length)) ∧
        (entered =
            ∑ c,
              ((queued mixer sel input c).length -
                (mixer.rings c).contents.length) ∧
          entered + refused = input.length) ∧
        (filled =
            Nat.count
              (fun i =>
                ((queued mixer sel input (channelAt positive i))[
                  i / channelCount]?).isSome)
              length ∧
          filled + silent = length) := by
  rcases writeToMixerSync_law mixer inRange input with
    ⟨entered, refused, written, wrote, rings, gained, counted⟩
  rcases readFromMixerSync_law positive written length with
    ⟨filled, silent, output, rest, read, outputLength, positions, taken,
      found, total⟩
  simp only [rings] at positions taken found
  exact
    ⟨entered, refused, written, filled, silent, output, rest, wrote, read,
      outputLength, positions, taken, ⟨gained, counted⟩, found, total⟩

/-- Two tracks with room for one sample each, the left one full already. -/
def fullLeft : Mixer ℤ 2 1 where
  sampleRate := 48000
  rings := fun c =>
    if c.val = 0 then ⟨[7], by decide⟩ else .empty ℤ 1

theorem writeToMixerSync_readFromMixerSync_fullLeft :
    ∃ counts written counts' output rest,
      writeToMixerSync fullLeft [1, 2] (.stereo 0 1) =
          .ok (counts, written) ∧
        readFromMixerSync written 3 = .ok (counts', output, rest) ∧
        output[0]? = some 7 ∧ output[1]? = some 2 ∧
        output[2]? = some 0 := by
  have inRange : (MixerTrackSelector.stereo 0 1).InRange 2 := by decide
  rcases
    writeToMixerSync_readFromMixerSync (by decide) fullLeft inRange
      [1, 2] 3 with
    ⟨entered, refused, written, filled, silent, output, rest, wrote, read,
      _, positions, _⟩
  exact
    ⟨_, written, _, output, rest, wrote, read, positions 0 (by decide),
      positions 1 (by decide), positions 2 (by decide)⟩

end Audiopipe.Mixing.WriteThenRead
