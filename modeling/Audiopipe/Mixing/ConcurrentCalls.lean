import Audiopipe.Foundation.GuardedRuns
import Audiopipe.Mixing.TransferLaws

/-!
# Concurrent transfer calls on one mixer

Any number of calls of the five transfer functions run on one mixer at the
same time.  Every iteration of a transfer loop locks one ring, makes one
attempt on it and unlocks it, so a step of the pool is one iteration of one
call.  The history records every attempt with its outcome; no call reads it.

The main theorem is the per-channel conservation law: what was popped from a
ring, followed by what is in it, is what was pushed into it.
-/

namespace Audiopipe.Mixing.ConcurrentCalls

open Audiopipe.Foundation.BoundedQueues
open Audiopipe.Foundation.GuardedRuns
open Audiopipe.Mixing.TrackSelector
open Audiopipe.Mixing.RingTransfer
open Audiopipe.Mixing.TransferLaws

variable {α : Type} {channelCount bufferSize : ℕ}

/-! ## Calls and their progress -/

/-- A call of a transfer function; a read gives the length of its buffer. -/
inductive Call (α : Type) where
  | writeToMixerAsync (inputBuffer : List α) (sel : MixerTrackSelector)
  | writeToMixerSync (inputBuffer : List α) (sel : MixerTrackSelector)
  | readFromMixerSync (length : ℕ)
  | readFromMixerAsync (length : ℕ)
  | readFromMixerTrackAsync (sel : MixerTrackSelector) (length : ℕ)

/-- A call between two iterations of its loop. -/
inductive Task (α : Type) (channelCount : ℕ) where
  | writing (cursor : TrackCursor channelCount) (rest : List α)
  | readingTrack (cursor : TrackCursor channelCount)
      (output : List α) (remaining : ℕ)
  | readingMixer (cursor : MixerCursor)
      (output : List α) (remaining : ℕ)

/--
The loop a call enters.  A call whose selector does not resolve returns
without entering one.
-/
def Call.enter : Call α → Option (Task α channelCount)
  | .writeToMixerAsync inputBuffer sel
  | .writeToMixerSync inputBuffer sel =>
      match getChannel channelCount sel with
      | .ok track =>
          some (.writing (.start track sel.channelCount) inputBuffer)
      | .error _ => none
  | .readFromMixerSync length
  | .readFromMixerAsync length => some (.readingMixer .start [] length)
  | .readFromMixerTrackAsync sel length =>
      match getChannel channelCount sel with
      | .ok mt =>
          some (.readingTrack (.start mt mt.channelCount) [] length)
      | .error _ => none

/-- The loop has no iterations left. -/
def Task.finished : Task α channelCount → Bool
  | .writing _ rest => rest.isEmpty
  | .readingTrack _ _ remaining => remaining == 0
  | .readingMixer _ _ remaining => remaining == 0

/-! ## The pool -/

/-- What happened at one step, with the outcome of the attempt on the ring. -/
inductive Event (α : Type) (channelCount : ℕ) where
  | started (id : ℕ) (call : Call α)
  | pushed (c : Fin channelCount) (o : α)
  | refused (c : Fin channelCount) (o : α)
  | popped (c : Fin channelCount) (v : α)
  | starved (c : Fin channelCount)

/-- The event of an attempt to push `o` into the ring of `c`. -/
def pushEvent
    (mixer : Mixer α channelCount bufferSize)
    (c : Fin channelCount) (o : α) : Event α channelCount :=
  match (mixer.rings c).tryPush o with
  | some _ => .pushed c o
  | none => .refused c o

/-- The event of an attempt to pop from the ring of `c`. -/
def popEvent
    (mixer : Mixer α channelCount bufferSize)
    (c : Fin channelCount) : Event α channelCount :=
  match (mixer.rings c).tryPop with
  | some (v, _) => .popped c v
  | none => .starved c

/-- The mixer, the calls in progress and what has happened so far. -/
structure Pool (α : Type) (channelCount bufferSize : ℕ) where
  mixer : Mixer α channelCount bufferSize
  tasks : ℕ → Option (Task α channelCount)
  history : List (Event α channelCount)

/-- The pool before the first call. -/
def Pool.idle (mixer : Mixer α channelCount bufferSize) :
    Pool α channelCount bufferSize where
  mixer := mixer
  tasks := fun _ => none
  history := []

/-- A scheduling decision. -/
inductive Action (α : Type) where
  | start (id : ℕ) (call : Call α)
  | advance (id : ℕ)

/-- The task slot `id` can take a new call. -/
def Pool.free (pool : Pool α channelCount bufferSize) (id : ℕ) : Bool :=
  match pool.tasks id with
  | none => true
  | some task => task.finished

/-- The pool after an attempt of the call in slot `id`. -/
def Pool.moved
    (pool : Pool α channelCount bufferSize)
    (id : ℕ) (task : Task α channelCount)
    (mixer : Mixer α channelCount bufferSize)
    (event : Event α channelCount) :
    Pool α channelCount bufferSize where
  mixer := mixer
  tasks := Function.update pool.tasks id (some task)
  history := pool.history ++ [event]

/-- One iteration of the call in slot `id`. -/
def Pool.iterate [Sample α]
    (pool : Pool α channelCount bufferSize) (id : ℕ) :
    Task α channelCount → Option (Pool α channelCount bufferSize)
  | .writing cursor (o :: rest) =>
      let next := writeSample cursor pool.mixer o
      some
        (pool.moved id (.writing next.1 rest) next.2
          (pushEvent pool.mixer cursor.channel o))
  | .readingTrack cursor output (remaining + 1) =>
      let next := readTrackSample cursor pool.mixer
      some
        (pool.moved id
          (.readingTrack next.1 (output ++ [next.2.1]) remaining)
          next.2.2 (popEvent pool.mixer cursor.channel))
  | .readingMixer cursor output (remaining + 1) =>
      match readMixerSample cursor pool.mixer,
          getRawChannel channelCount (cursor.ch % channelCount) with
      | .ok next, .ok c =>
          some
            (pool.moved id
              (.readingMixer next.1 (output ++ [next.2.1]) remaining)
              next.2.2 (popEvent pool.mixer c))
      | _, _ =>
          some { pool with tasks := Function.update pool.tasks id none }
  | _ => none

/-- A step of the pool. -/
def Pool.step [Sample α] (pool : Pool α channelCount bufferSize) :
    Action α → Option (Pool α channelCount bufferSize)
  | .start id call =>
      if pool.free id then
        some
          { pool with
            tasks := Function.update pool.tasks id call.enter
            history := pool.history ++ [.started id call] }
      else
        none
  | .advance id =>
      (pool.tasks id).bind fun task => pool.iterate id task

/-- Advancing a write with a sample left is one iteration of its loop. -/
theorem Pool.advance_writing [Sample α]
    {pool : Pool α channelCount bufferSize} {id : ℕ}
    {cursor : TrackCursor channelCount} {o : α} {rest : List α}
    (running : pool.tasks id = some (.writing cursor (o :: rest))) :
    pool.step (.advance id) =
      some
        (pool.moved id
          (.writing (writeSample cursor pool.mixer o).1 rest)
          (writeSample cursor pool.mixer o).2
          (pushEvent pool.mixer cursor.channel o)) := by
  simp only [step, running]
  rfl

/-- Advancing a whole-mixer read is one iteration, if there are channels. -/
theorem Pool.advance_readingMixer [Sample α]
    (positive : 0 < channelCount)
    {pool : Pool α channelCount bufferSize} {id remaining : ℕ}
    {cursor : MixerCursor} {output : List α}
    {read : MixerCursor × α × Mixer α channelCount bufferSize}
    (running :
      pool.tasks id =
        some (.readingMixer cursor output (remaining + 1)))
    (readOnce : readMixerSample cursor pool.mixer = .ok read) :
    pool.step (.advance id) =
      some
        (pool.moved id
          (.readingMixer read.1 (output ++ [read.2.1]) remaining)
          read.2.2
          (popEvent pool.mixer (channelAt positive cursor.ch))) := by
  have visited :
      getRawChannel channelCount (cursor.ch % channelCount) =
        .ok (channelAt positive cursor.ch) :=
    getRawChannel_of_lt (Nat.mod_lt cursor.ch positive)
  simp only [step, running, Option.bind_some, iterate, readOnce, visited]

/-! ## What a step does to the rings -/

/-- The rings after an attempt to push into the ring of one channel. -/
def PushAttempt
    (before after : Mixer α channelCount bufferSize)
    (c : Fin channelCount) (o : α) : Prop :=
  ∀ d, after.rings d =
    if c = d then (before.rings d).offer o else before.rings d

/-- The rings after an attempt to pop from the ring of one channel. -/
def PopAttempt
    (before after : Mixer α channelCount bufferSize)
    (c : Fin channelCount) : Prop :=
  ∀ d, (after.rings d).contents =
    if c = d then (before.rings d).contents.tail
    else (before.rings d).contents

theorem writeSample_pushAttempt
    (cursor : TrackCursor channelCount)
    (mixer : Mixer α channelCount bufferSize) (o : α) :
    PushAttempt mixer (writeSample cursor mixer o).2 cursor.channel o :=
  fun d => writeSample_rings cursor mixer o d

theorem popRing_popAttempt
    (mixer : Mixer α channelCount bufferSize) (c : Fin channelCount) :
    PopAttempt mixer (popRing mixer c) c := by
  intro d
  rw [popRing_contents]
  by_cases here : c = d
  · rw [if_pos here.symm, if_pos here, List.drop_one]
  · rw [if_neg (Ne.symm here), if_neg here]

theorem readTrackSample_popAttempt [Sample α]
    (cursor : TrackCursor channelCount)
    (mixer : Mixer α channelCount bufferSize) :
    PopAttempt mixer (readTrackSample cursor mixer).2.2
      cursor.channel := by
  rw [readTrackSample_eq]
  exact popRing_popAttempt mixer cursor.channel

theorem readMixerSample_popAttempt [Sample α]
    {cursor : MixerCursor} {mixer : Mixer α channelCount bufferSize}
    {next : MixerCursor × α × Mixer α channelCount bufferSize}
    {c : Fin channelCount}
    (read : readMixerSample cursor mixer = .ok next)
    (visited :
      getRawChannel channelCount (cursor.ch % channelCount) = .ok c) :
    PopAttempt mixer next.2.2 c := by
  have inside : cursor.ch % channelCount < channelCount := by
    by_contra outside
    rw [getRawChannel_of_not_lt outside] at visited
    cases visited
  have positive : 0 < channelCount :=
    Nat.lt_of_le_of_lt (Nat.zero_le _) inside
  rw [getRawChannel_of_lt inside] at visited
  cases visited
  rw [readMixerSample_eq positive] at read
  cases read
  exact popRing_popAttempt mixer (channelAt positive cursor.ch)

/--
What a step can do: start a call or end one by a panic, which touches no
ring, or make one attempt on the ring of one channel.
-/
theorem Pool.step_cases [Sample α]
    {pool next : Pool α channelCount bufferSize} {action : Action α}
    (enabled : pool.step action = some next) :
    (next.mixer = pool.mixer ∧
        (next.history = pool.history ∨
          ∃ id call,
            next.history = pool.history ++ [.started id call])) ∨
      (∃ c o,
        PushAttempt pool.mixer next.mixer c o ∧
          next.history =
            pool.history ++ [pushEvent pool.mixer c o]) ∨
      ∃ c,
        PopAttempt pool.mixer next.mixer c ∧
          next.history = pool.history ++ [popEvent pool.mixer c] := by
  cases action with
  | start id call =>
      simp only [step] at enabled
      split at enabled
      · cases enabled
        exact Or.inl ⟨rfl, Or.inr ⟨id, call, rfl⟩⟩
      · cases enabled
  | advance id =>
      rcases Option.bind_eq_some_iff.mp enabled with ⟨task, _, iterated⟩
      cases task with
      | writing cursor rest =>
          cases rest with
          | nil => cases iterated
          | cons o rest =>
              cases iterated
              exact
                Or.inr
                  (Or.inl
                    ⟨cursor.channel, o,
                      writeSample_pushAttempt cursor pool.mixer o, rfl⟩)
      | readingTrack cursor output remaining =>
          cases remaining with
          | zero => cases iterated
          | succ remaining =>
              cases iterated
              exact
                Or.inr
                  (Or.inr
                    ⟨cursor.channel,
                      readTrackSample_popAttempt cursor pool.mixer, rfl⟩)
      | readingMixer cursor output remaining =>
          cases remaining with
          | zero => cases iterated
          | succ remaining =>
              simp only [iterate] at iterated
              split at iterated
              · next result c read visited =>
                  cases iterated
                  exact
                    Or.inr
                      (Or.inr
                        ⟨c, readMixerSample_popAttempt read visited, rfl⟩)
              · cases iterated
                exact Or.inl ⟨rfl, Or.inl rfl⟩

/-! ## The conservation law -/

/-- The samples whose push into the ring of `c` succeeded, in order. -/
def accepted (c : Fin channelCount) :
    List (Event α channelCount) → List α :=
  List.filterMap fun
    | .pushed d o => if d = c then some o else none
    | _ => none

/-- The samples popped from the ring of `c`, in order. -/
def delivered (c : Fin channelCount) :
    List (Event α channelCount) → List α :=
  List.filterMap fun
    | .popped d v => if d = c then some v else none
    | _ => none

/-- Delivered and stored samples of `c` are the accepted ones. -/
def Conserved (c : Fin channelCount)
    (pool : Pool α channelCount bufferSize) : Prop :=
  delivered c pool.history ++ (pool.mixer.rings c).contents =
    accepted c pool.history

/-- A push attempt keeps the conservation law. -/
theorem Conserved.push
    {pool next : Pool α channelCount bufferSize}
    {c d : Fin channelCount} {o : α}
    (conserved : Conserved c pool)
    (attempt : PushAttempt pool.mixer next.mixer d o)
    (recorded :
      next.history = pool.history ++ [pushEvent pool.mixer d o]) :
    Conserved c next := by
  unfold Conserved at conserved ⊢
  rw [attempt c, recorded]
  unfold pushEvent
  cases pushed : (pool.mixer.rings d).tryPush o with
  | none =>
      by_cases here : d = c
      · subst here
        simpa [accepted, delivered, BoundedFifo.offer_of_none pushed]
          using conserved
      · simpa [accepted, delivered, here] using conserved
  | some ring =>
      by_cases here : d = c
      · subst here
        have appended := (BoundedFifo.tryPush_eq_some pushed).1
        simp only [accepted, delivered] at conserved
        simp [accepted, delivered, BoundedFifo.offer_of_some pushed,
          appended, ← conserved]
      · simpa [accepted, delivered, here] using conserved

/-- A pop attempt keeps the conservation law. -/
theorem Conserved.pop
    {pool next : Pool α channelCount bufferSize}
    {c d : Fin channelCount}
    (conserved : Conserved c pool)
    (attempt : PopAttempt pool.mixer next.mixer d)
    (recorded :
      next.history = pool.history ++ [popEvent pool.mixer d]) :
    Conserved c next := by
  unfold Conserved at conserved ⊢
  rw [attempt c, recorded]
  unfold popEvent
  cases popped : (pool.mixer.rings d).tryPop with
  | none =>
      by_cases here : d = c
      · subst here
        have empty : (pool.mixer.rings d).IsEmpty :=
          (BoundedFifo.tryPop_eq_none_iff _).mp popped
        unfold BoundedFifo.IsEmpty at empty
        simpa [accepted, delivered, empty] using conserved
      · simpa [accepted, delivered, here] using conserved
  | some taken =>
      by_cases here : d = c
      · subst here
        have contents := BoundedFifo.tryPop_eq_some popped
        simp only [accepted, delivered, contents] at conserved
        simp [accepted, delivered, contents, ← conserved]
      · simpa [accepted, delivered, here] using conserved

/-- Every step keeps the conservation law. -/
theorem Conserved.step [Sample α]
    {pool next : Pool α channelCount bufferSize}
    {action : Action α} {c : Fin channelCount}
    (enabled : pool.step action = some next)
    (conserved : Conserved c pool) :
    Conserved c next := by
  rcases Pool.step_cases enabled with
    ⟨sameMixer, sameHistory | ⟨id, call, started⟩⟩ |
      ⟨d, o, attempt, recorded⟩ | ⟨d, attempt, recorded⟩
  · unfold Conserved at conserved ⊢
    rw [sameMixer, sameHistory]
    exact conserved
  · unfold Conserved at conserved ⊢
    rw [sameMixer, started]
    simpa [accepted, delivered] using conserved
  · exact conserved.push attempt recorded
  · exact conserved.pop attempt recorded

/-! ## When a sample is dropped or a silence is put out -/

/-- The channel whose ring the next iteration of a call locks. -/
def Task.target : Task α channelCount → Option (Fin channelCount)
  | .writing cursor (_ :: _) => some cursor.channel
  | .readingTrack cursor _ (_ + 1) => some cursor.channel
  | .readingMixer cursor _ (_ + 1) =>
      (getRawChannel channelCount (cursor.ch % channelCount)).toOption
  | _ => none

/--
The `dropped` counter of a call: the samples a write could not place, or the
silences a read has put out.
-/
def Task.dropped : Task α channelCount → ℕ
  | .writing cursor _ => cursor.dropped
  | .readingTrack cursor _ _ => cursor.dropped
  | .readingMixer cursor _ _ => cursor.dropped

def Task.writes : Task α channelCount → Bool
  | .writing _ _ => true
  | _ => false

theorem writeSample_dropped
    (cursor : TrackCursor channelCount)
    (mixer : Mixer α channelCount bufferSize) (o : α)
    (counted :
      (writeSample cursor mixer o).1.dropped ≠ cursor.dropped) :
    (mixer.rings cursor.channel).IsFull := by
  unfold writeSample at counted
  cases pushed : (mixer.rings cursor.channel).tryPush o with
  | none => exact (BoundedFifo.tryPush_eq_none_iff _ _).mp pushed
  | some ring =>
      rw [pushed] at counted
      exact (counted rfl).elim

theorem readTrackSample_dropped [Sample α]
    (cursor : TrackCursor channelCount)
    (mixer : Mixer α channelCount bufferSize)
    (counted :
      (readTrackSample cursor mixer).1.dropped ≠ cursor.dropped) :
    (mixer.rings cursor.channel).IsEmpty := by
  unfold readTrackSample at counted
  cases popped : (mixer.rings cursor.channel).tryPop with
  | none => exact (BoundedFifo.tryPop_eq_none_iff _).mp popped
  | some taken =>
      rw [popped] at counted
      exact (counted rfl).elim

theorem readMixerSample_dropped [Sample α]
    {cursor : MixerCursor} {mixer : Mixer α channelCount bufferSize}
    {next : MixerCursor × α × Mixer α channelCount bufferSize}
    {c : Fin channelCount}
    (read : readMixerSample cursor mixer = .ok next)
    (visited :
      getRawChannel channelCount (cursor.ch % channelCount) = .ok c)
    (counted : next.1.dropped ≠ cursor.dropped) :
    (mixer.rings c).IsEmpty := by
  unfold readMixerSample at read
  rw [visited] at read
  split at read
  · cases read
  · cases popped : (mixer.rings c).tryPop with
    | none => exact (BoundedFifo.tryPop_eq_none_iff _).mp popped
    | some taken =>
        simp only [popped] at read
        cases read
        exact (counted rfl).elim

/--
A call counts a drop only at a full ring and puts out a silence only at an
empty one.
-/
theorem Pool.advance_dropped [Sample α]
    {pool next : Pool α channelCount bufferSize} {id : ℕ}
    {task task' : Task α channelCount} {c : Fin channelCount}
    (running : pool.tasks id = some task)
    (enabled : pool.step (.advance id) = some next)
    (after : next.tasks id = some task')
    (aimed : task.target = some c)
    (counted : task'.dropped ≠ task.dropped) :
    if task.writes then (pool.mixer.rings c).IsFull
    else (pool.mixer.rings c).IsEmpty := by
  simp only [step, running, Option.bind_some] at enabled
  cases task with
  | writing cursor rest =>
      cases rest with
      | nil => cases enabled
      | cons o rest =>
          cases enabled
          cases aimed
          simp only [moved, Function.update_self,
            Option.some.injEq] at after
          subst after
          exact writeSample_dropped cursor pool.mixer o counted
  | readingTrack cursor output remaining =>
      cases remaining with
      | zero => cases enabled
      | succ remaining =>
          cases enabled
          cases aimed
          simp only [moved, Function.update_self,
            Option.some.injEq] at after
          subst after
          exact readTrackSample_dropped cursor pool.mixer counted
  | readingMixer cursor output remaining =>
      cases remaining with
      | zero => cases enabled
      | succ remaining =>
          simp only [iterate] at enabled
          split at enabled
          · next result d read visited =>
              cases enabled
              simp only [Task.target, visited, Except.toOption,
                Option.some.injEq] at aimed
              subst aimed
              simp only [moved, Function.update_self,
                Option.some.injEq] at after
              subst after
              exact readMixerSample_dropped read visited counted
          · cases enabled
            simp at after

/--
Whole runs neither lose nor duplicate nor reorder a channel's samples.  In
every reachable state, for every channel: the popped samples followed by the
contents of the ring are the accepted samples in order, the ring respects its
capacity, and from here on a call counts a drop only at a full ring and puts
out a silence only at an empty one.
-/
theorem channel_histories_conserved [Sample α]
    (chcount bufsizePerChannel sampleRate : ℕ)
    {pool : Pool α chcount bufsizePerChannel}
    (reachable :
      Reachable Pool.step
        (.idle (emptyMixer α chcount bufsizePerChannel sampleRate))
        pool)
    (c : Fin chcount) :
    delivered c pool.history ++ (pool.mixer.rings c).contents =
        accepted c pool.history ∧
      (pool.mixer.rings c).contents.length ≤ bufsizePerChannel ∧
      ∀ (id : ℕ) (task task' : Task α chcount)
        (next : Pool α chcount bufsizePerChannel),
        pool.tasks id = some task →
        pool.step (.advance id) = some next →
        next.tasks id = some task' →
        task.target = some c →
        task'.dropped ≠ task.dropped →
        if task.writes then (pool.mixer.rings c).IsFull
        else (pool.mixer.rings c).IsEmpty := by
  have conserved : Conserved c pool :=
    reachable.preserves
      (fun enabled conserved => conserved.step enabled) rfl
  refine ⟨conserved, (pool.mixer.rings c).bounded, ?_⟩
  intro id task task' next running enabled after aimed counted
  exact Pool.advance_dropped running enabled after aimed counted

/-- A write and a read that overtake each other on a ring of one place. -/
def overtakingActions : List (Action ℤ) :=
  [.start 0 (.writeToMixerSync [5, 6, 7] (.mono 0)),
    .start 1 (.readFromMixerSync 2),
    .advance 0, .advance 0, .advance 1, .advance 0]

/-- The second sample meets a full ring and is refused, the third is not. -/
theorem channel_histories_conserved_overtaking :
    ∃ pool : Pool ℤ 1 1,
      execute Pool.step (.idle (emptyMixer ℤ 1 1 44100))
          overtakingActions = some pool ∧
        delivered 0 pool.history ++ (pool.mixer.rings 0).contents =
          accepted 0 pool.history ∧
        accepted 0 pool.history = [5, 7] := by
  refine ⟨_, rfl, ?_, rfl⟩
  exact
    (channel_histories_conserved 1 1 44100
      ⟨overtakingActions, execute_eq_some_iff.mp rfl⟩ 0).1

/-! ## A call that runs alone -/

/--
Advancing only one write call carries it through its whole buffer, with the
result of the write loop, and leaves the other calls where they are.
-/
theorem Pool.writing_alone [Sample α]
    {pool : Pool α channelCount bufferSize} {id : ℕ}
    {cursor : TrackCursor channelCount} {rest : List α}
    (running : pool.tasks id = some (.writing cursor rest)) :
    ∃ next,
      Run Pool.step pool
          (List.replicate rest.length (.advance id)) next ∧
        next.tasks =
          Function.update pool.tasks id
            (some (.writing (writeSamples cursor pool.mixer rest).1 [])) ∧
        next.mixer = (writeSamples cursor pool.mixer rest).2 := by
  induction rest generalizing pool cursor with
  | nil =>
      refine ⟨pool, .done pool, ?_, rfl⟩
      exact (Function.update_eq_self_iff.mpr running.symm).symm
  | cons o rest induction =>
      have enabled := Pool.advance_writing running
      have moved :
          (pool.moved id
              (.writing (writeSample cursor pool.mixer o).1 rest)
              (writeSample cursor pool.mixer o).2
              (pushEvent pool.mixer cursor.channel o)).tasks id =
            some
              (.writing (writeSample cursor pool.mixer o).1 rest) := by
        simp [Pool.moved]
      rcases induction moved with ⟨next, run, tasks, mixer⟩
      refine ⟨next, .next trivial enabled run, ?_, mixer⟩
      rw [tasks]
      exact Function.update_idem _ _ _

/--
Advancing only one whole-mixer read carries it through its whole buffer, with
the result of the read loop.
-/
theorem Pool.readingMixer_alone [Sample α]
    (positive : 0 < channelCount)
    {pool : Pool α channelCount bufferSize} {id remaining : ℕ}
    {cursor : MixerCursor} {output : List α}
    (running :
      pool.tasks id = some (.readingMixer cursor output remaining)) :
    ∃ final next,
      readMixerSamples cursor pool.mixer remaining = .ok final ∧
        Run Pool.step pool
          (List.replicate remaining (.advance id)) next ∧
        next.tasks =
          Function.update pool.tasks id
            (some (.readingMixer final.1 (output ++ final.2.1) 0)) ∧
        next.mixer = final.2.2 := by
  induction remaining generalizing pool cursor output with
  | zero =>
      refine ⟨(cursor, [], pool.mixer), pool, rfl, .done pool, ?_, rfl⟩
      rw [List.append_nil]
      exact (Function.update_eq_self_iff.mpr running.symm).symm
  | succ remaining induction =>
      rcases readMixerSample_ok positive cursor pool.mixer with
        ⟨read, readOnce, _⟩
      have enabled :=
        Pool.advance_readingMixer positive running readOnce
      have moved :
          (pool.moved id
              (.readingMixer read.1 (output ++ [read.2.1]) remaining)
              read.2.2
              (popEvent pool.mixer
                (channelAt positive cursor.ch))).tasks id =
            some
              (.readingMixer read.1 (output ++ [read.2.1])
                remaining) := by
        simp [Pool.moved]
      rcases induction moved with ⟨final, next, readRest, run, tasks, mixer⟩
      refine
        ⟨(final.1, read.2.1 :: final.2.1, final.2.2), next, ?_,
          .next trivial enabled run, ?_, mixer⟩
      · exact readMixerSamples_succ readOnce readRest
      · rw [tasks, List.append_assoc]
        exact Function.update_idem _ _ _

end Audiopipe.Mixing.ConcurrentCalls
