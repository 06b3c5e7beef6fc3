import Audiopipe.Foundation.LossyStreams
import Audiopipe.Mixing.ConcurrentCalls

/-!
# The stream of a channel

A channel of the mixer seen as a stream: what the writes offer to its ring at
one end, and what the reads hear at the other, silence included.  Every step
of any calls offers, takes or leaves the stream of a channel alone, and so
what is stored now is what is heard next.
-/

namespace Audiopipe.Mixing.ChannelStreams

open Audiopipe.Foundation.BoundedQueues
open Audiopipe.Foundation.GuardedRuns
open Audiopipe.Foundation.LossyStreams
open Audiopipe.Mixing.TrackSelector
open Audiopipe.Mixing.RingTransfer
open Audiopipe.Mixing.TransferLaws
open Audiopipe.Mixing.ConcurrentCalls

variable {α : Type} {channelCount bufferSize : ℕ}

/-! ## Both ends of a channel -/

/-- The samples that writes have offered to the ring of `c`, in order. -/
def offered (c : Fin channelCount) :
    List (Event α channelCount) → List α :=
  List.filterMap fun
    | .pushed d o => if d = c then some o else none
    | .refused d o => if d = c then some o else none
    | _ => none

/-- What reads of the ring of `c` have put out, in order. -/
def heard [Sample α] (c : Fin channelCount) :
    List (Event α channelCount) → List α :=
  List.filterMap fun
    | .popped d v => if d = c then some v else none
    | .starved d => if d = c then some Sample.EQUILIBRIUM else none
    | _ => none

theorem offered_append
    (c : Fin channelCount) (earlier later : List (Event α channelCount)) :
    offered c (earlier ++ later) = offered c earlier ++ offered c later :=
  List.filterMap_append

theorem heard_append [Sample α]
    (c : Fin channelCount) (earlier later : List (Event α channelCount)) :
    heard c (earlier ++ later) = heard c earlier ++ heard c later :=
  List.filterMap_append

theorem offered_pushEvent
    (mixer : Mixer α channelCount bufferSize)
    (c d : Fin channelCount) (o : α) :
    offered c [pushEvent mixer d o] = if d = c then [o] else [] := by
  unfold pushEvent
  cases (mixer.rings d).tryPush o with
  | none => by_cases here : d = c <;> simp [offered, here]
  | some ring => by_cases here : d = c <;> simp [offered, here]

theorem heard_pushEvent [Sample α]
    (mixer : Mixer α channelCount bufferSize)
    (c d : Fin channelCount) (o : α) :
    heard c [pushEvent mixer d o] = [] := by
  unfold pushEvent
  cases (mixer.rings d).tryPush o with
  | none => rfl
  | some ring => rfl

theorem offered_popEvent
    (mixer : Mixer α channelCount bufferSize) (c d : Fin channelCount) :
    offered c [popEvent mixer d] = [] := by
  unfold popEvent
  cases (mixer.rings d).tryPop with
  | none => rfl
  | some taken => rfl

/-- A read hears the first sample of the ring, or silence. -/
theorem heard_popEvent [Sample α]
    (mixer : Mixer α channelCount bufferSize) (c d : Fin channelCount) :
    heard c [popEvent mixer d] =
      if d = c then [popOrSilence (mixer.rings d)] else [] := by
  unfold popEvent popOrSilence
  cases (mixer.rings d).tryPop with
  | none => by_cases here : d = c <;> simp [heard, here]
  | some taken => by_cases here : d = c <;> simp [heard, here]

theorem popOrSilence_head [Sample α] (ring : BoundedFifo α bufferSize) :
    popOrSilence ring =
      ring.contents.head?.getD Sample.EQUILIBRIUM := by
  rw [popOrSilence_eq, List.head?_eq_getElem?]

/-! ## What a step adds -/

/-- A step is a step of the ring of each channel. -/
theorem step_channel [Sample α]
    {pool next : Pool α channelCount bufferSize} {action : Action α}
    (enabled : pool.step action = some next) (c : Fin channelCount) :
    ∃ added,
      next.history = pool.history ++ added ∧
        QueueStep Sample.EQUILIBRIUM (pool.mixer.rings c)
          (next.mixer.rings c) (offered c added) (heard c added) := by
  rcases Pool.step_cases enabled with
    ⟨sameMixer, sameHistory | ⟨id, call, started⟩⟩ |
      ⟨d, o, attempt, recorded⟩ | ⟨d, attempt, recorded⟩
  · refine ⟨[], by rw [sameHistory, List.append_nil], ?_⟩
    exact .aside (by rw [sameMixer])
  · exact ⟨_, started, .aside (by rw [sameMixer])⟩
  · refine ⟨_, recorded, ?_⟩
    rw [offered_pushEvent, heard_pushEvent]
    by_cases here : d = c
    · subst here
      rw [if_pos rfl]
      exact .offered o (by rw [attempt, if_pos rfl])
    · rw [if_neg here]
      exact .aside (by rw [attempt, if_neg here])
  · refine ⟨_, recorded, ?_⟩
    rw [offered_popEvent, heard_popEvent]
    by_cases here : d = c
    · subst here
      rw [if_pos rfl, popOrSilence_head]
      exact .taken (by rw [attempt, if_pos rfl])
    · rw [if_neg here]
      exact .aside (by rw [attempt, if_neg here])

/-! ## Latency -/

/--
What a ring stores now is what its reads hear next, in order and without a
gap, whatever calls run in the meantime; so no sample waits for more reads of
its channel than the ring has places.
-/
theorem stored_heard_next [Sample α]
    {pool next : Pool α channelCount bufferSize}
    {actions : List (Action α)} (run : Run Pool.step pool actions next)
    (c : Fin channelCount) :
    ∃ added,
      next.history = pool.history ++ added ∧
        (pool.mixer.rings c).contents <+:
          heard c added ++ (next.mixer.rings c).contents ∧
        (bufferSize ≤ (heard c added).length →
          (pool.mixer.rings c).contents <+: heard c added) := by
  have waiting :
      ∃ added,
        next.history = pool.history ++ added ∧
          (pool.mixer.rings c).contents <+:
            heard c added ++ (next.mixer.rings c).contents := by
    induction run with
    | done state =>
        exact ⟨[], (List.append_nil _).symm, List.prefix_refl _⟩
    | next allowed enabled rest induction =>
        rcases step_channel enabled c with ⟨first, begun, step⟩
        rcases induction with ⟨added, history, waits⟩
        refine ⟨first ++ added, ?_, ?_⟩
        · rw [history, begun, List.append_assoc]
        · rw [heard_append, List.append_assoc]
          refine step.stored_prefix.trans ?_
          exact (List.prefix_append_right_inj _).mpr waits
  rcases waiting with ⟨added, history, waits⟩
  refine ⟨added, history, waits, fun often => ?_⟩
  refine
    List.prefix_of_prefix_length_le waits (List.prefix_append _ _) ?_
  exact (pool.mixer.rings c).bounded.trans often

theorem stored_heard_next_twoSamples :
    ∃ pool next : Pool F32 1 2, ∃ added,
      next.history = pool.history ++ added ∧
        (pool.mixer.rings 0).contents = [F32.mk 7, ⟨8⟩] ∧
        [F32.mk 7, ⟨8⟩] <+: heard 0 added := by
  have wrote :
      (execute Pool.step (.idle (emptyMixer F32 1 2 44100))
          [.start 0 (.writeToMixerAsync [⟨7⟩, ⟨8⟩] (.mono 0)),
            .advance 0, .advance 0]).map
          (fun pool =>
            ((pool.mixer.rings 0).contents, heard 0 pool.history,
              (execute Pool.step pool
                [.start 1 (.readFromMixerSync 2), .advance 1,
                  .advance 1]).map fun next => heard 0 next.history)) =
        some ([F32.mk 7, ⟨8⟩], [], some [F32.mk 7, ⟨8⟩]) := by
    decide +kernel
  rcases Option.map_eq_some_iff.mp wrote with ⟨pool, _, same⟩
  simp only [Prod.mk.injEq] at same
  rcases same with ⟨stored, silent, readThen⟩
  rcases Option.map_eq_some_iff.mp readThen with ⟨next, went, readBack⟩
  rcases stored_heard_next (execute_eq_some_iff.mp went) 0 with
    ⟨added, history, _, often⟩
  rw [history, heard_append, silent, List.nil_append] at readBack
  exact
    ⟨pool, next, added, history, stored,
      stored ▸ often (by rw [readBack]; decide)⟩

end Audiopipe.Mixing.ChannelStreams
