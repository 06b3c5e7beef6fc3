import Audiopipe.Foundation.EventTraces
import Audiopipe.Mixing.TransferLaws
import Audiopipe.Streamer.ReceiverTasks
import Mathlib.Algebra.BigOperators.Group.Finset.Piecewise
import Mathlib.Algebra.Order.BigOperators.Group.Finset

/-!
# Playout as the budget of the streams

All receiver tasks write to the rings from which the sound card plays.  A
write that loses a sample ends in a failed assertion, so while no task has
panicked, what the tasks have written for a ring has been played from it or
is still stored.  Playout is a budget for all the streams together, and
streams that each keep its pace use it up as many times.
-/

namespace Audiopipe.Streamer.PlayoutBudget

open Audiopipe.Foundation.GuardedRuns
open Audiopipe.Foundation.EventTraces
open Audiopipe.Foundation.BoundedQueues
open Audiopipe.Mixing.TrackSelector
open Audiopipe.Mixing.RingTransfer
open Audiopipe.Mixing.TransferLaws
open Audiopipe.Streamer.PacketFormat
open Audiopipe.Streamer.ReceiveLoop
open Audiopipe.Streamer.ReceiverTasks

variable {channelCount bufferSize : ℕ} {Task : Type}

/-! ## What goes into a ring and what comes out -/

/-- A sample stored, a sample played, the write of a packet at its end. -/
inductive Event (Task : Type) (channelCount : ℕ) where
  | stored (h : Task) (c : Fin channelCount)
  | played (c : Fin channelCount)
  | written (h : Task) (length : ℕ)

def events (s : Pool Task channelCount bufferSize) :
    PoolAction Task channelCount → List (Event Task channelCount)
  | .push h =>
      match s.phases h with
      | .writing ⟨cursor, _ :: _, _⟩ =>
          if (s.mixer.rings cursor.channel).IsFull then
            []
          else
            [.stored h cursor.channel]
      | _ => []
  | .finish h =>
      match s.phases h with
      | .writing ⟨_, [], length⟩ => [.written h length]
      | _ => []
  | .playout c =>
      if (s.mixer.rings c).IsEmpty then [] else [.played c]
  | _ => []

/-- What a history amounts to, by what each of its events counts for. -/
def total (weight : Event Task channelCount → ℕ)
    (history : List (Event Task channelCount)) : ℕ :=
  (history.map weight).sum

@[simp]
theorem total_nil (weight : Event Task channelCount → ℕ) :
    total weight [] = 0 :=
  rfl

@[simp]
theorem total_append (weight : Event Task channelCount → ℕ)
    (earlier later : List (Event Task channelCount)) :
    total weight (earlier ++ later) =
      total weight earlier + total weight later := by
  simp [total]

@[simp]
theorem total_singleton (weight : Event Task channelCount → ℕ)
    (event : Event Task channelCount) :
    total weight [event] = weight event := by
  simp [total]

/-- How many of `length` samples a selector addresses to channel `c`. -/
def portion (sel : MixerTrackSelector) (c length : ℕ) : ℕ :=
  match sel with
  | .mono m => if m = c then length else 0
  | .stereo l r =>
      (if l = c then (length + 1) / 2 else 0) +
        if r = c then length / 2 else 0

/-- Samples that came out of ring `c`. -/
def plays (c : Fin channelCount) : Event Task channelCount → ℕ
  | .played d => if d = c then 1 else 0
  | _ => 0

/-- Samples that went into ring `c`. -/
def stores (c : Fin channelCount) : Event Task channelCount → ℕ
  | .stored _ d => if d = c then 1 else 0
  | _ => 0

variable [DecidableEq Task]

/-- Samples that task `h` put into ring `c`. -/
def storesOf (h : Task) (c : Fin channelCount) :
    Event Task channelCount → ℕ
  | .stored h' d => if h' = h ∧ d = c then 1 else 0
  | _ => 0

/-- Samples for ring `c` in the packets that task `h` has written. -/
def writes (sels : Task → MixerTrackSelector) (h : Task)
    (c : Fin channelCount) : Event Task channelCount → ℕ
  | .written h' length => if h' = h then portion (sels h) c length else 0
  | _ => 0

/-- What any streams have put into a ring is among what went into it. -/
theorem sum_storesOf_le
    (streams : Finset Task) (c : Fin channelCount)
    (history : List (Event Task channelCount)) :
    ∑ h ∈ streams, total (storesOf h c) history ≤
      total (stores c) history := by
  induction history with
  | nil => simp
  | cons event rest induction =>
      have here :
          ∑ h ∈ streams, storesOf h c event ≤ stores c event := by
        cases event with
        | stored h' d =>
            by_cases same : d = c
            · simp only [storesOf, stores, same, and_true, if_true,
                Finset.sum_ite_eq]
              split
              · exact Nat.le_refl 1
              · exact Nat.zero_le 1
            · simp [storesOf, same]
        | played d => simp [storesOf]
        | written h' length => simp [storesOf]
      have split :
          ∀ weight : Event Task channelCount → ℕ,
            total weight (event :: rest) =
              weight event + total weight rest := by
        intro weight
        simp [total]
      simp only [split, Finset.sum_add_distrib]
      exact Nat.add_le_add here induction

/-! ## The level of a ring -/

variable {wire : WireFormat} {sels : Task → MixerTrackSelector}
variable {s next : Pool Task channelCount bufferSize}
variable {history : List (Event Task channelCount)}

/-- What was in the ring and went into it has come out or is still there. -/
def Level (c : Fin channelCount) (before : ℕ)
    (history : List (Event Task channelCount))
    (s : Pool Task channelCount bufferSize) : Prop :=
  before + total (stores c) history =
    total (plays c) history + (s.mixer.rings c).contents.length

/-- A full ring refuses the sample, and the loop counts it as dropped. -/
theorem writeSample_full
    {cursor : TrackCursor channelCount}
    {mixer : Mixer F32 channelCount bufferSize} {o : F32}
    (full : (mixer.rings cursor.channel).IsFull) :
    writeSample cursor mixer o = (cursor.miss, mixer) := by
  have refused := (BoundedFifo.tryPush_eq_none_iff _ o).mpr full
  simp only [writeSample, refused]

/-- Any other ring is one sample longer. -/
theorem writeSample_room
    {cursor : TrackCursor channelCount}
    {mixer : Mixer F32 channelCount bufferSize} (o : F32)
    (room : ¬ (mixer.rings cursor.channel).IsFull) :
    (writeSample cursor mixer o).1 = cursor.hit ∧
      ∀ c,
        ((writeSample cursor mixer o).2.rings c).contents.length =
          (mixer.rings c).contents.length +
            if cursor.channel = c then 1 else 0 := by
  cases pushed : (mixer.rings cursor.channel).tryPush o with
  | none =>
      exact (room ((BoundedFifo.tryPush_eq_none_iff _ o).mp pushed)).elim
  | some ring =>
      have longer := (BoundedFifo.tryPush_eq_some pushed).1
      simp only [writeSample, pushed, true_and]
      intro c
      by_cases here : cursor.channel = c
      · subst here
        simp [longer]
      · rw [mixer.setRing_rings_of_ne (Ne.symm here), if_neg here,
          Nat.add_zero]

/-- A playout takes a sample from its ring, unless the ring is empty. -/
theorem length_playSample
    (mixer : Mixer F32 channelCount bufferSize) (d c : Fin channelCount) :
    ((playSample mixer d).rings c).contents.length +
        (if (mixer.rings d).IsEmpty then 0 else if d = c then 1 else 0) =
      (mixer.rings c).contents.length := by
  cases popped : (mixer.rings d).tryPop with
  | none =>
      have empty := (BoundedFifo.tryPop_eq_none_iff _).mp popped
      simp only [playSample, popped, empty, if_true, Nat.add_zero]
  | some taken =>
      rcases taken with ⟨value, ring⟩
      have front := BoundedFifo.tryPop_eq_some popped
      have nonempty : ¬ (mixer.rings d).IsEmpty := by
        simp [BoundedFifo.IsEmpty, front]
      simp only [playSample, popped, nonempty, if_false]
      by_cases here : d = c
      · subst here
        simp [front]
      · rw [mixer.setRing_rings_of_ne (Ne.symm here), if_neg here,
          Nat.add_zero]

theorem Level.step {c : Fin channelCount} {before : ℕ}
    {action : PoolAction Task channelCount}
    (enabled : Pool.step wire sels s action = some next)
    (level : Level c before history s) :
    Level c before (history ++ events s action) next := by
  unfold Level at level ⊢
  rw [total_append, total_append]
  cases Pool.step_move enabled with
  | pushed h cursor o rest length writing =>
      simp only [events, writing]
      by_cases full : (s.mixer.rings cursor.channel).IsFull
      · simp only [writeSample_full full, full, if_true, total_nil]
        exact level
      · simp only [(writeSample_room o full).2 c, full, if_false,
          total_singleton, stores, plays]
        omega
  | played d =>
      have taken := length_playSample s.mixer d c
      by_cases empty : (s.mixer.rings d).IsEmpty
      · simp only [events, empty, if_true, total_nil] at taken ⊢
        omega
      · simp only [events, empty, if_false, total_singleton, stores,
          plays] at taken ⊢
        omega
  | finished h cursor length writing =>
      simp only [events, writing, total_singleton, stores, plays]
      exact level
  | received h bytes waiting => exact level
  | recvError h waiting => exact level
  | opened h packet data track waiting free cast resolved => exact level
  | unresolved h packet data e waiting free cast resolved => exact level
  | uncast h packet waiting free cast => exact level
  | stopped h waiting outside => exact level
  | cancelled h cursor o rest length writing => exact level
  | otherLocked free => exact level
  | otherUnlocked held => exact level

/-! ## What a task has written -/

/-- An empty packet has nothing for any channel. -/
theorem portion_zero (sel : MixerTrackSelector) (c : ℕ) :
    portion sel c 0 = 0 := by
  cases sel with
  | mono m => simp [portion]
  | stereo l r => simp [portion]

/-- The locals of a write after `done` of its samples. -/
structure AfterSamples (sel : MixerTrackSelector)
    (cursor : TrackCursor channelCount) (done : ℕ) : Prop where
  resolved : getChannel channelCount sel = .ok cursor.track
  cycle : cursor.cycle = sel.channelCount
  counter : cursor.ch = done % sel.channelCount

/-- The next sample adds to the portion of the channel it is for. -/
theorem AfterSamples.portion_succ
    {sel : MixerTrackSelector} {cursor : TrackCursor channelCount}
    {done : ℕ} (after : AfterSamples sel cursor done)
    (c : Fin channelCount) :
    portion sel c (done + 1) =
      portion sel c done + if cursor.channel = c then 1 else 0 := by
  have resolved := after.resolved
  have counter := after.counter
  rcases (getChannel_isOk_iff sel).mp ⟨_, resolved⟩ with inRange
  cases sel with
  | mono m =>
      rw [getChannel_mono inRange, Except.ok.injEq] at resolved
      simp only [portion, TrackCursor.channel, ← resolved,
        MixerTrack.pick, Fin.ext_iff]
      by_cases here : m = c
      · simp [here]
      · simp [here]
  | stereo l r =>
      rw [getChannel_stereo inRange.1 inRange.2, Except.ok.injEq]
        at resolved
      rw [TrackCursor.channel, ← resolved, MixerTrack.pick, counter]
      have parity : done % 2 = 0 ∨ done % 2 = 1 := by omega
      rcases parity with even | odd
      · simp only [portion, MixerTrackSelector.channelCount, even,
          Nat.zero_and, if_true, Fin.ext_iff]
        split_ifs <;> omega
      · simp only [portion, MixerTrackSelector.channelCount, odd,
          Nat.and_self, Nat.one_ne_zero, if_false, Fin.ext_iff]
        split_ifs <;> omega

/-- The next sample, whether its ring takes it or not. -/
theorem AfterSamples.pushed
    {sel : MixerTrackSelector} {cursor : TrackCursor channelCount}
    {done : ℕ} (after : AfterSamples sel cursor done)
    (mixer : Mixer F32 channelCount bufferSize) (o : F32) :
    AfterSamples sel (writeSample cursor mixer o).1 (done + 1) := by
  rcases writeSample_cursor cursor mixer o with ⟨track, cycle, counter⟩
  refine ⟨by rw [track]; exact after.resolved, cycle.trans after.cycle, ?_⟩
  have resolved := after.resolved
  rw [counter, TrackCursor.nextCh, after.cycle, after.counter]
  rcases (getChannel_isOk_iff sel).mp ⟨_, resolved⟩ with inRange
  cases sel with
  | mono m =>
      rw [getChannel_mono inRange, Except.ok.injEq] at resolved
      rw [← resolved]
      simp [MixerTrack.advance, MixerTrackSelector.channelCount,
        Nat.mod_one]
  | stereo l r =>
      rw [getChannel_stereo inRange.1 inRange.2, Except.ok.injEq]
        at resolved
      rw [← resolved]
      simp [MixerTrack.advance, MixerTrackSelector.channelCount]

/-- The loop of the stream has not ended and is in no write. -/
def Waits (phase : TaskPhase channelCount) : Prop :=
  phase.holdsMixer = false ∧ ∀ result, phase ≠ .ended result

@[simp]
theorem waits_receiving :
    Waits (.receiving : TaskPhase channelCount) :=
  ⟨rfl, by simp⟩

@[simp]
theorem waits_lockingMixer (packet : AudioPacket) :
    Waits (.lockingMixer packet : TaskPhase channelCount) :=
  ⟨rfl, by simp⟩

/--
While a task has not panicked, it has put into ring `c` what its packets had
for it: no more than that where the loop waits, and in a write that has
dropped nothing also its samples so far.
-/
inductive Kept (sel : MixerTrackSelector) (c : Fin channelCount)
    (written stored : ℕ) : TaskPhase channelCount → Prop where
  | outside {phase : TaskPhase channelCount}
      (outside : phase.holdsMixer = false) (kept : written ≤ stored)
      (exactly : Waits phase → written = stored) :
      Kept sel c written stored phase
  | writing {cursor : TrackCursor channelCount}
      {rest : List F32} {length : ℕ} (done : ℕ)
      (after : AfterSamples sel cursor done)
      (left : done + rest.length = length)
      (kept : written ≤ stored)
      (lossless :
        cursor.dropped = 0 → written + portion sel c done = stored) :
      Kept sel c written stored (.writing ⟨cursor, rest, length⟩)
  | panicked : Kept sel c written stored (.ended .panicked)

variable {h : Task} {c : Fin channelCount}

/-- The invariant of task `h` and ring `c`. -/
def Keeps (sels : Task → MixerTrackSelector) (h : Task)
    (c : Fin channelCount) (history : List (Event Task channelCount))
    (s : Pool Task channelCount bufferSize) : Prop :=
  Kept (sels h) c (total (writes sels h c) history)
    (total (storesOf h c) history) (s.phases h)

/-- The steps of other tasks and of the mixer leave a task where it is. -/
theorem phases_of_foreign
    {action : PoolAction Task channelCount}
    (move : Pool.Move wire sels s action next)
    (foreign : taskOf action ≠ some h) :
    next.phases h = s.phases h := by
  have moved :
      ∀ {h' : Task} (phase : TaskPhase channelCount),
        taskOf action = some h' →
          (s.moveTo h' phase).phases h = s.phases h := by
    intro h' phase its
    apply s.moveTo_phases_of_ne
    rintro rfl
    exact foreign its
  cases move with
  | received h' bytes waiting => exact moved _ rfl
  | recvError h' waiting => rfl
  | opened h' packet data track waiting free cast resolved =>
      exact moved _ rfl
  | unresolved h' packet data e waiting free cast resolved =>
      exact moved _ rfl
  | uncast h' packet waiting free cast => exact moved _ rfl
  | pushed h' cursor o rest length writing => exact moved _ rfl
  | finished h' cursor length writing => exact moved _ rfl
  | stopped h' waiting outside => exact moved _ rfl
  | cancelled h' cursor o rest length writing => exact moved _ rfl
  | otherLocked free => rfl
  | otherUnlocked held => rfl
  | played d => rfl

/-- They count for nothing of what the task has stored and written. -/
theorem total_events_foreign
    {action : PoolAction Task channelCount}
    (foreign : taskOf action ≠ some h) :
    total (writes sels h c) (events s action) = 0 ∧
      total (storesOf h c) (events s action) = 0 := by
  cases action with
  | push h' =>
      have other : h' ≠ h := fun same => foreign (congrArg some same)
      simp only [events]
      split
      · split
        · exact ⟨rfl, rfl⟩
        · simp [writes, storesOf, other]
      · exact ⟨rfl, rfl⟩
  | finish h' =>
      have other : h' ≠ h := fun same => foreign (congrArg some same)
      simp only [events]
      split
      · simp [writes, storesOf, other]
      · exact ⟨rfl, rfl⟩
  | playout d =>
      simp only [events]
      split
      · exact ⟨rfl, rfl⟩
      · simp [writes, storesOf]
  | datagram h' bytes => exact ⟨rfl, rfl⟩
  | recvError h' => exact ⟨rfl, rfl⟩
  | lockMixer h' => exact ⟨rfl, rfl⟩
  | stop h' => exact ⟨rfl, rfl⟩
  | otherLock => exact ⟨rfl, rfl⟩
  | otherUnlock => exact ⟨rfl, rfl⟩

/-- Wherever a task stands that has not panicked, it has stored enough. -/
theorem Kept.written_le
    {sel : MixerTrackSelector} {written stored : ℕ}
    {phase : TaskPhase channelCount}
    (kept : Kept sel c written stored phase)
    (alive : phase ≠ .ended .panicked) :
    written ≤ stored := by
  cases kept with
  | outside _ kept _ => exact kept
  | writing _ _ _ kept _ => exact kept
  | panicked => exact (alive rfl).elim

/-- Where the loop waits, it has stored all samples and nothing else. -/
theorem Kept.written_eq
    {sel : MixerTrackSelector} {written stored : ℕ}
    {phase : TaskPhase channelCount}
    (kept : Kept sel c written stored phase) (waits : Waits phase) :
    written = stored := by
  cases kept with
  | outside _ _ exactly => exact exactly waits
  | writing _ _ _ _ _ => cases waits.1
  | panicked => exact (waits.2 _ rfl).elim

/-- The assertions after a write let only a lossless one pass. -/
theorem Kept.asserted
    {sel : MixerTrackSelector} {written stored length : ℕ}
    {cursor : TrackCursor channelCount}
    (kept : Kept sel c written stored (.writing ⟨cursor, [], length⟩)) :
    Kept sel c (written + portion sel c length) stored
      (assertCounts cursor.consumed cursor.dropped length) := by
  unfold assertCounts
  split
  · next accepted =>
      cases kept with
      | outside outside _ _ => cases outside
      | writing done _ left _ lossless =>
          rw [List.length_nil, Nat.add_zero] at left
          rw [← left]
          have exactly := lossless accepted.2
          exact .outside rfl (Nat.le_of_eq exactly) fun _ => exactly
  · exact .panicked

/-- A sample that its ring takes counts for the write that goes on. -/
theorem Kept.pushed
    {sel : MixerTrackSelector} {written stored length : ℕ}
    {cursor : TrackCursor channelCount} {o : F32} {rest : List F32}
    (kept :
      Kept sel c written stored (.writing ⟨cursor, o :: rest, length⟩))
    (mixer : Mixer F32 channelCount bufferSize) :
    Kept sel c written
      (stored +
        if (mixer.rings cursor.channel).IsFull then 0
        else if cursor.channel = c then 1 else 0)
      (.writing ⟨(writeSample cursor mixer o).1, rest, length⟩) := by
  cases kept with
  | outside outside _ _ => cases outside
  | writing done after left kept lossless =>
      refine
        .writing (done + 1) (after.pushed mixer o) ?_
          (Nat.le_add_right_of_le kept) ?_
      · rw [List.length_cons] at left
        omega
      · by_cases full : (mixer.rings cursor.channel).IsFull
        · rw [writeSample_full full]
          exact fun none => (Nat.succ_ne_zero _ none).elim
        · rw [(writeSample_room o full).1, if_neg full,
            after.portion_succ]
          intro none
          have before := lossless none
          omega

/-- One step keeps the invariant of a task. -/
theorem Keeps.step
    {action : PoolAction Task channelCount}
    (enabled : Pool.step wire sels s action = some next)
    (keeps : Keeps sels h c history s) :
    Keeps sels h c (history ++ events s action) next := by
  have move := Pool.step_move enabled
  unfold Keeps at keeps ⊢
  rw [total_append, total_append]
  by_cases own : taskOf action = some h
  · -- Outside of a write nothing counts, so only the await changes.
    have leaves :
        ∀ {phase : TaskPhase channelCount},
          Waits (s.phases h) → phase.holdsMixer = false →
            Kept (sels h) c (total (writes sels h c) history)
              (total (storesOf h c) history)
              ((s.moveTo h phase).phases h) := by
      intro phase waits outside
      have exactly := keeps.written_eq waits
      rw [s.moveTo_phases_self]
      exact .outside outside (Nat.le_of_eq exactly) fun _ => exactly
    cases move with
    | pushed h' cursor o rest length writing =>
        cases own
        rw [writing] at keeps
        have pushed := keeps.pushed s.mixer
        show Kept _ _ _ _ ((s.moveTo h _).phases h)
        rw [s.moveTo_phases_self]
        simp only [events, writing]
        by_cases full : (s.mixer.rings cursor.channel).IsFull
        · simp only [full, if_true] at pushed ⊢
          exact pushed
        · simp only [full, if_false] at pushed ⊢
          simpa [writes, storesOf] using pushed
    | finished h' cursor length writing =>
        cases own
        rw [writing] at keeps
        show Kept _ _ _ _ ((s.moveTo h _).phases h)
        rw [s.moveTo_phases_self]
        simpa [events, writing, writes, storesOf] using keeps.asserted
    | received h' bytes waiting =>
        cases own
        exact
          leaves (by simp [waiting]) (Pool.received_holdsMixer wire bytes)
    | recvError h' waiting => exact keeps
    | opened h' packet data track waiting free cast resolved =>
        cases own
        have exactly := keeps.written_eq (by simp [waiting])
        have after :
            AfterSamples (sels h)
              (TrackCursor.start track (sels h).channelCount) 0 :=
          ⟨resolved, rfl, (Nat.zero_mod _).symm⟩
        show Kept _ _ _ _ ((s.moveTo h _).phases h)
        rw [s.moveTo_phases_self]
        refine
          .writing 0 after (Nat.zero_add _) (Nat.le_of_eq exactly)
            fun _ => ?_
        rw [portion_zero]
        exact exactly
    | unresolved h' packet data e waiting free cast resolved =>
        cases own
        exact
          leaves (by simp [waiting]) (Pool.assertCounts_holdsMixer ..)
    | uncast h' packet waiting free cast =>
        cases own
        exact leaves (by simp [waiting]) rfl
    | stopped h' waiting outside =>
        cases own
        refine leaves ⟨outside, fun result ended => ?_⟩ rfl
        rw [ended] at waiting
        cases waiting
    | cancelled h' cursor o rest length writing =>
        cases own
        have kept := keeps.written_le (by simp [writing])
        show Kept _ _ _ _ ((s.moveTo h _).phases h)
        rw [s.moveTo_phases_self]
        exact .outside rfl kept fun waits => (waits.2 _ rfl).elim
    | otherLocked free => cases own
    | otherUnlocked held => cases own
    | played d => cases own
  · rcases total_events_foreign own with ⟨writes, stores⟩
    rw [phases_of_foreign move own, writes, stores]
    exact keeps

/-! ## Whole runs -/

/-- How many samples a run has played from ring `c`. -/
def playedFrom (wire : WireFormat) (sels : Task → MixerTrackSelector)
    (mixer : Mixer F32 channelCount bufferSize)
    (actions : List (PoolAction Task channelCount))
    (c : Fin channelCount) : ℕ :=
  total (plays c)
    (trace (Pool.step wire sels) events (Pool.start Task mixer) actions)

/-- How many samples for ring `c` a run has written for stream `h`. -/
def writtenTo (wire : WireFormat) (sels : Task → MixerTrackSelector)
    (mixer : Mixer F32 channelCount bufferSize)
    (actions : List (PoolAction Task channelCount))
    (h : Task) (c : Fin channelCount) : ℕ :=
  total (writes sels h c)
    (trace (Pool.step wire sels) events (Pool.start Task mixer) actions)

/-- How many samples stream `h` has put into ring `c` in a run. -/
def storedBy (wire : WireFormat) (sels : Task → MixerTrackSelector)
    (mixer : Mixer F32 channelCount bufferSize)
    (actions : List (PoolAction Task channelCount))
    (h : Task) (c : Fin channelCount) : ℕ :=
  total (storesOf h c)
    (trace (Pool.step wire sels) events (Pool.start Task mixer) actions)

theorem kept_of_run
    {mixer : Mixer F32 channelCount bufferSize}
    {actions : List (PoolAction Task channelCount)}
    (run : Run (Pool.step wire sels) (Pool.start Task mixer) actions s)
    (h : Task) (c : Fin channelCount) :
    Kept (sels h) c (writtenTo wire sels mixer actions h c)
      (storedBy wire sels mixer actions h c) (s.phases h) := by
  have initially : Keeps sels h c [] (Pool.start Task mixer) :=
    .outside rfl (Nat.le_refl 0) fun _ => rfl
  exact
    trace_preserves (fun _ enabled keeps => Keeps.step enabled keeps) run
      initially

/--
For receiver tasks with any selectors, on one mixer and in any order of their
steps: what the streams that have not panicked have written for a ring, with
what was in it before, is at most what was played from it and what it holds
when full.  So if each of these streams has written as much as was played,
then what was played, once for each stream but one, fits into the ring.
-/
theorem streams_within_playout
    (wire : WireFormat) (sels : Task → MixerTrackSelector)
    {mixer : Mixer F32 channelCount bufferSize}
    {actions : List (PoolAction Task channelCount)}
    {s : Pool Task channelCount bufferSize}
    (run : Run (Pool.step wire sels) (Pool.start Task mixer) actions s)
    {streams : Finset Task}
    (alive : ∀ h ∈ streams, s.phases h ≠ .ended .panicked)
    (c : Fin channelCount) :
    (mixer.rings c).contents.length +
          ∑ h ∈ streams, writtenTo wire sels mixer actions h c ≤
        playedFrom wire sels mixer actions c + bufferSize ∧
      ((∀ h ∈ streams,
          playedFrom wire sels mixer actions c ≤
            writtenTo wire sels mixer actions h c) →
        (streams.card - 1) * playedFrom wire sels mixer actions c ≤
          bufferSize) := by
  let history :=
    trace (Pool.step wire sels) events (Pool.start Task mixer) actions
  have level :
      Level c (mixer.rings c).contents.length ([] ++ history) s :=
    trace_preserves (fun _ enabled level => Level.step enabled level) run
      (Nat.zero_add _).symm
  rw [List.nil_append] at level
  have stored :
      ∑ h ∈ streams, writtenTo wire sels mixer actions h c ≤
        total (stores c) history :=
    (Finset.sum_le_sum fun h member =>
      (kept_of_run run h c).written_le (alive h member)).trans
        (sum_storesOf_le streams c history)
  have bounded := (s.mixer.rings c).bounded
  have within :
      (mixer.rings c).contents.length +
          ∑ h ∈ streams, writtenTo wire sels mixer actions h c ≤
        playedFrom wire sels mixer actions c + bufferSize := by
    have balance :
        (mixer.rings c).contents.length + total (stores c) history =
          playedFrom wire sels mixer actions c +
            (s.mixer.rings c).contents.length :=
      level
    omega
  refine ⟨within, fun pace => ?_⟩
  have together := Finset.card_nsmul_le_sum streams _ _ pace
  rw [Nat.nsmul_eq_mul] at together
  rw [Nat.sub_mul, Nat.one_mul]
  omega

/-- Two streams write a frame each; in between `l` and `r` are played. -/
def takingTurns (l r : Fin 2) : List (PoolAction Bool 2) :=
  [.datagram false (serialize (frameOf ⟨1⟩ ⟨2⟩)),
    .datagram true (serialize (frameOf ⟨3⟩ ⟨4⟩)),
    .lockMixer false, .push false, .push false, .finish false,
    .playout l, .playout r,
    .lockMixer true, .push true, .push true, .finish true]

theorem takingTurns_run :
    ∃ s : Pool Bool 2 1,
      Run (Pool.step bincodeWire fun _ => .stereo 0 1)
          (Pool.start Bool (emptyMixer F32 2 1 44100)) (takingTurns 0 1)
          s ∧
        ∀ h, Waits (s.phases h) := by
  let sels : Bool → MixerTrackSelector := fun _ => .stereo 0 1
  let empty := Pool.start Bool (emptyMixer F32 2 1 44100)
  let both :=
    (empty.moveTo false (.lockingMixer (frameOf ⟨1⟩ ⟨2⟩))).moveTo true
      (.lockingMixer (frameOf ⟨3⟩ ⟨4⟩))
  have first :
      Pool.step bincodeWire sels empty
          (.datagram false (serialize (frameOf ⟨1⟩ ⟨2⟩))) =
        some
          (empty.moveTo false (.lockingMixer (frameOf ⟨1⟩ ⟨2⟩))) := by
    simp only [Pool.step, empty, Pool.start, received_frameOf]
  have second :
      Pool.step bincodeWire sels
          (empty.moveTo false (.lockingMixer (frameOf ⟨1⟩ ⟨2⟩)))
          (.datagram true (serialize (frameOf ⟨3⟩ ⟨4⟩))) =
        some both := by
    simp [Pool.step, empty, Pool.start, Pool.moveTo, received_frameOf,
      both]
  have executed :
      (execute (Pool.step bincodeWire sels) both
          ((takingTurns 0 1).drop 2)).map
          (fun s => [false, true].map fun h =>
            (s.phases h).suspended && !(s.phases h).holdsMixer) =
        some [true, true] := by
    decide +kernel
  rcases Option.map_eq_some_iff.mp executed with ⟨s, executed, waiting⟩
  refine
    ⟨s,
      .next trivial first
        (.next trivial second (execute_eq_some_iff.mp executed)), ?_⟩
  simp only [List.map_cons, List.map_nil, List.cons.injEq,
    Bool.and_eq_true, Bool.not_eq_true'] at waiting
  have waits :
      ∀ h, (s.phases h).suspended = true ∧
        (s.phases h).holdsMixer = false :=
    Bool.forall_bool.mpr ⟨waiting.1, waiting.2.1⟩
  intro h
  refine ⟨(waits h).2, fun result ended => ?_⟩
  have suspended := (waits h).1
  rw [ended] at suspended
  cases suspended

theorem streams_within_playout_takingTurns :
    0 +
        ∑ h ∈ {false, true},
          writtenTo bincodeWire (fun _ => .stereo 0 1)
            (emptyMixer F32 2 1 44100) (takingTurns 0 1) h 0 ≤
      playedFrom bincodeWire (fun _ => .stereo 0 1)
        (emptyMixer F32 2 1 44100) (takingTurns 0 1) 0 + 1 := by
  rcases takingTurns_run with ⟨s, run, waits⟩
  exact
    (streams_within_playout bincodeWire (fun _ => .stereo 0 1) run
      (fun h _ => (waits h).2 _) 0).1

/--
In every run of the receiver tasks, however their steps interleave and
whichever of them are stopped: a stream whose loop still waits, for a datagram
or for the mixer, has put into each ring as many samples as its packets have
for it.  So no stream goes on after a loss.
-/
theorem waiting_stream_lost_nothing
    (wire : WireFormat) (sels : Task → MixerTrackSelector)
    {mixer : Mixer F32 channelCount bufferSize}
    {actions : List (PoolAction Task channelCount)}
    {s : Pool Task channelCount bufferSize}
    (run : Run (Pool.step wire sels) (Pool.start Task mixer) actions s)
    {h : Task} (waits : Waits (s.phases h)) (c : Fin channelCount) :
    writtenTo wire sels mixer actions h c =
      storedBy wire sels mixer actions h c :=
  (kept_of_run run h c).written_eq waits

theorem waiting_stream_lost_nothing_takingTurns :
    writtenTo bincodeWire (fun _ => .stereo 0 1)
        (emptyMixer F32 2 1 44100) (takingTurns 0 1) true 1 =
      storedBy bincodeWire (fun _ => .stereo 0 1)
        (emptyMixer F32 2 1 44100) (takingTurns 0 1) true 1 := by
  rcases takingTurns_run with ⟨s, run, waits⟩
  exact waiting_stream_lost_nothing bincodeWire _ run (waits true) 1

end Audiopipe.Streamer.PlayoutBudget
