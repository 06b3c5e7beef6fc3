import Audiopipe.Foundation.BoundedQueues
import Mathlib.Data.List.Infix

/-!
# Streams with losses and gaps

What is heard of a stream at its far end: values come in the order in which
they were sent, some are lost or still on their way, and a gap is filled with
a value of its own.  `Gapped` inserts the gaps.  A stream is conveyed if what
was heard is a part of it with gaps, and only delayed if it is a beginning of
it with gaps.  Both are preorders, so a chain of such stages is one.

A queue is such a stage.  `Through` relates what was offered to it, what it
stores and what was heard from it; an offer or a take, whether it succeeds or
not, keeps it.
-/

namespace Audiopipe.Foundation.LossyStreams

open Audiopipe.Foundation.BoundedQueues

universe u

variable {α : Type u} {filler : α}

/-! ## Gaps -/

/-- The values heard are those sent, with fillers in between. -/
inductive Gapped (filler : α) : List α → List α → Prop where
  | done : Gapped filler [] []
  | keep {sent heard : List α} (value : α)
      (rest : Gapped filler sent heard) :
      Gapped filler (value :: sent) (value :: heard)
  | fill {sent heard : List α} (rest : Gapped filler sent heard) :
      Gapped filler sent (filler :: heard)

namespace Gapped

variable {sent heard : List α}

theorem refl (values : List α) : Gapped filler values values := by
  induction values with
  | nil => exact .done
  | cons value rest induction => exact .keep value induction

/-- Streams that follow each other have their gaps one after the other. -/
theorem append {laterSent laterHeard : List α}
    (first : Gapped filler sent heard)
    (second : Gapped filler laterSent laterHeard) :
    Gapped filler (sent ++ laterSent) (heard ++ laterHeard) := by
  induction first with
  | done => exact second
  | keep value rest induction => exact .keep value induction
  | fill rest induction => exact .fill induction

/-- Gaps in a stream with gaps. -/
theorem trans {middle : List α}
    (first : Gapped filler sent middle)
    (second : Gapped filler middle heard) :
    Gapped filler sent heard := by
  induction second generalizing sent with
  | done => exact first
  | keep value rest induction =>
      cases first with
      | keep _ earlier => exact .keep value (induction earlier)
      | fill earlier => exact .fill (induction earlier)
  | fill rest induction => exact .fill (induction first)

/-- A part of what was heard comes from a part of what was sent. -/
theorem ofSublist {part : List α}
    (gapped : Gapped filler sent heard) (kept : part.Sublist heard) :
    ∃ origin, origin.Sublist sent ∧ Gapped filler origin part := by
  induction gapped generalizing part with
  | done =>
      rw [List.sublist_nil.mp kept]
      exact ⟨[], List.Sublist.refl [], .done⟩
  | keep value rest induction =>
      cases kept with
      | cons _ later =>
          rcases induction later with ⟨origin, from_sent, gaps⟩
          exact ⟨origin, from_sent.cons value, gaps⟩
      | cons_cons _ later =>
          rcases induction later with ⟨origin, from_sent, gaps⟩
          exact
            ⟨value :: origin, from_sent.cons_cons value, .keep value gaps⟩
  | fill rest induction =>
      cases kept with
      | cons _ later => exact induction later
      | cons_cons _ later =>
          rcases induction later with ⟨origin, from_sent, gaps⟩
          exact ⟨origin, from_sent, .fill gaps⟩

/-- A beginning of what was heard comes from a beginning of what was sent. -/
theorem ofPrefix {part : List α}
    (gapped : Gapped filler sent heard) (begun : part <+: heard) :
    ∃ origin, origin <+: sent ∧ Gapped filler origin part := by
  induction gapped generalizing part with
  | done =>
      rw [List.prefix_nil.mp begun]
      exact ⟨[], List.prefix_refl [], .done⟩
  | keep value rest induction =>
      cases part with
      | nil => exact ⟨[], List.nil_prefix, .done⟩
      | cons head tail =>
          rcases List.cons_prefix_cons.mp begun with ⟨rfl, later⟩
          rcases induction later with ⟨origin, from_sent, gaps⟩
          exact
            ⟨head :: origin, List.cons_prefix_cons.mpr ⟨rfl, from_sent⟩,
              .keep head gaps⟩
  | fill rest induction =>
      cases part with
      | nil => exact ⟨[], List.nil_prefix, .done⟩
      | cons head tail =>
          rcases List.cons_prefix_cons.mp begun with ⟨rfl, later⟩
          rcases induction later with ⟨origin, from_sent, gaps⟩
          exact ⟨origin, from_sent, .fill gaps⟩

/-- Nothing is heard that was not sent, except for the filler. -/
theorem heard_mem (gapped : Gapped filler sent heard) {value : α}
    (member : value ∈ heard) :
    value = filler ∨ value ∈ sent := by
  induction gapped with
  | done => cases member
  | keep kept rest induction =>
      rcases List.mem_cons.mp member with here | later
      · exact .inr (here ▸ List.mem_cons_self ..)
      · exact (induction later).imp_right (List.mem_cons_of_mem kept)
  | fill rest induction =>
      rcases List.mem_cons.mp member with here | later
      · exact .inl here
      · exact induction later

end Gapped

/-! ## Streams that lose values -/

/-- What was heard is a part of what was sent, with gaps. -/
def Conveys (filler : α) (sent heard : List α) : Prop :=
  ∃ kept, kept.Sublist sent ∧ Gapped filler kept heard

namespace Conveys

variable {sent heard : List α}

/-- Losses alone leave a sublist. -/
theorem ofSublist (kept : heard.Sublist sent) :
    Conveys filler sent heard :=
  ⟨heard, kept, .refl heard⟩

/-- A chain of lossy stages is one lossy stage. -/
theorem trans {middle : List α}
    (first : Conveys filler sent middle)
    (second : Conveys filler middle heard) :
    Conveys filler sent heard := by
  rcases first with ⟨kept, from_sent, gaps⟩
  rcases second with ⟨later, from_middle, laterGaps⟩
  rcases gaps.ofSublist from_middle with ⟨origin, from_kept, originGaps⟩
  exact ⟨origin, from_kept.trans from_sent, originGaps.trans laterGaps⟩

/-- Nothing is heard that was not sent, except for the filler. -/
theorem heard_mem (conveyed : Conveys filler sent heard) {value : α}
    (member : value ∈ heard) :
    value = filler ∨ value ∈ sent := by
  rcases conveyed with ⟨kept, from_sent, gaps⟩
  exact (gaps.heard_mem member).imp_right fun there => from_sent.subset there

/-- Of a stream that was never sent, only gaps are heard. -/
theorem heard_of_nothing (conveyed : Conveys filler [] heard) :
    heard = List.replicate heard.length filler := by
  rw [List.eq_replicate_iff]
  refine ⟨rfl, fun value member => ?_⟩
  rcases conveyed.heard_mem member with gap | never
  · exact gap
  · cases never

end Conveys

/-! ## Streams that are only delayed -/

/-- What was heard is a beginning of what was sent, with gaps. -/
def Delays (filler : α) (sent heard : List α) : Prop :=
  ∃ begun, begun <+: sent ∧ Gapped filler begun heard

namespace Delays

variable {sent heard : List α}

theorem ofPrefix (begun : heard <+: sent) : Delays filler sent heard :=
  ⟨heard, begun, .refl heard⟩

/-- A chain of stages that only delay is one such stage. -/
theorem trans {middle : List α}
    (first : Delays filler sent middle)
    (second : Delays filler middle heard) :
    Delays filler sent heard := by
  rcases first with ⟨begun, from_sent, gaps⟩
  rcases second with ⟨later, from_middle, laterGaps⟩
  rcases gaps.ofPrefix from_middle with ⟨origin, from_begun, originGaps⟩
  exact ⟨origin, from_begun.trans from_sent, originGaps.trans laterGaps⟩

/-- A stream that is only delayed is conveyed. -/
theorem conveys (delayed : Delays filler sent heard) :
    Conveys filler sent heard := by
  rcases delayed with ⟨begun, from_sent, gaps⟩
  exact ⟨begun, from_sent.sublist, gaps⟩

end Delays

/-! ## A queue on the way -/

/--
What was taken from the queue is what was heard, but for the gaps.  What was
taken and what is stored relate as `keeps` says to what was offered.
-/
def Through (keeps : List α → List α → Prop) (filler : α)
    (offered stored heard : List α) : Prop :=
  ∃ taken, Gapped filler taken heard ∧ keeps (taken ++ stored) offered

/-- A queue that may have refused values. -/
def Buffered (filler : α) : List α → List α → List α → Prop :=
  Through List.Sublist filler

/-- A queue that has taken everything that was offered to it. -/
def Unbroken (filler : α) : List α → List α → List α → Prop :=
  Through Eq filler

section Queues

variable {keeps : List α → List α → Prop}
variable {offered stored heard : List α} {capacity : ℕ}

/-- A take, whether there is something to take or not. -/
theorem Through.take (through : Through keeps filler offered stored heard) :
    Through keeps filler offered stored.tail
      (heard ++ [stored.head?.getD filler]) := by
  rcases through with ⟨taken, gaps, kept⟩
  cases stored with
  | nil =>
      refine ⟨taken, ?_, kept⟩
      rw [← List.append_nil taken]
      exact gaps.append (.fill .done)
  | cons value rest =>
      refine ⟨taken ++ [value], gaps.append (.refl [value]), ?_⟩
      rw [List.append_assoc]
      exact kept

/-- A stage with a queue is a lossy stage. -/
theorem Buffered.conveys
    (buffered : Buffered filler offered stored heard) :
    Conveys filler offered heard := by
  rcases buffered with ⟨taken, gaps, kept⟩
  exact ⟨taken, (List.sublist_append_left taken stored).trans kept, gaps⟩

/-- A stage with a queue that refuses nothing only delays. -/
theorem Unbroken.delays
    (unbroken : Unbroken filler offered stored heard) :
    Delays filler offered heard := by
  rcases unbroken with ⟨taken, gaps, kept⟩
  exact ⟨taken, ⟨stored, kept⟩, gaps⟩

end Queues

/-! ## Steps of a queue -/

/--
A step as the two ends of a queue see it: nothing, an offer at one end, or a
take at the other, with what was offered and what was heard.
-/
inductive QueueStep {capacity : ℕ} (filler : α)
    (queue later : BoundedFifo α capacity) :
    List α → List α → Prop where
  | aside (same : later.contents = queue.contents) :
      QueueStep filler queue later [] []
  | offered (value : α) (result : later = queue.offer value) :
      QueueStep filler queue later [value] []
  | taken (result : later.contents = queue.contents.tail) :
      QueueStep filler queue later []
        [queue.contents.head?.getD filler]

section Steps

variable {offered heard offers hears : List α} {capacity : ℕ}
variable {queue later : BoundedFifo α capacity}

/-- A step of a queue, whether it succeeds or not. -/
theorem Buffered.step
    (step : QueueStep filler queue later offers hears)
    (buffered : Buffered filler offered queue.contents heard) :
    Buffered filler (offered ++ offers) later.contents
      (heard ++ hears) := by
  cases step with
  | aside same =>
      rw [same, List.append_nil, List.append_nil]
      exact buffered
  | offered value result =>
      rw [List.append_nil, result]
      rcases buffered with ⟨taken, gaps, kept⟩
      refine ⟨taken, gaps, ?_⟩
      cases pushed : queue.tryPush value with
      | none =>
          rw [BoundedFifo.offer_of_none pushed]
          exact kept.trans (List.sublist_append_left _ _)
      | some next =>
          rw [BoundedFifo.offer_of_some pushed,
            (BoundedFifo.tryPush_eq_some pushed).1, ← List.append_assoc]
          exact kept.append (List.Sublist.refl [value])
  | taken result =>
      rw [List.append_nil, result]
      exact Through.take buffered

/-- A step of a queue that has room for what is offered to it. -/
theorem Unbroken.step
    (step : QueueStep filler queue later offers hears)
    (room : ∀ value, offers = [value] → ¬ queue.IsFull)
    (unbroken : Unbroken filler offered queue.contents heard) :
    Unbroken filler (offered ++ offers) later.contents
      (heard ++ hears) := by
  cases step with
  | aside same =>
      rw [same, List.append_nil, List.append_nil]
      exact unbroken
  | offered value result =>
      rw [List.append_nil, result]
      rcases unbroken with ⟨taken, gaps, kept⟩
      refine ⟨taken, gaps, ?_⟩
      cases pushed : queue.tryPush value with
      | none =>
          have full := (BoundedFifo.tryPush_eq_none_iff _ _).mp pushed
          exact (room value rfl full).elim
      | some next =>
          rw [BoundedFifo.offer_of_some pushed,
            (BoundedFifo.tryPush_eq_some pushed).1, ← List.append_assoc,
            kept]
  | taken result =>
      rw [List.append_nil, result]
      exact Through.take unbroken

/-- What was stored before a step is heard at it or stored after it. -/
theorem QueueStep.stored_prefix
    (step : QueueStep filler queue later offers hears) :
    queue.contents <+: hears ++ later.contents := by
  cases step with
  | aside same => rw [same, List.nil_append]
  | offered value result =>
      rw [result, List.nil_append]
      cases pushed : queue.tryPush value with
      | none => rw [BoundedFifo.offer_of_none pushed]
      | some next =>
          rw [BoundedFifo.offer_of_some pushed,
            (BoundedFifo.tryPush_eq_some pushed).1]
          exact List.prefix_append _ _
  | taken result =>
      rw [result]
      cases queue.contents with
      | nil => exact List.nil_prefix
      | cons value rest => exact List.prefix_refl _

end Steps

end Audiopipe.Foundation.LossyStreams
