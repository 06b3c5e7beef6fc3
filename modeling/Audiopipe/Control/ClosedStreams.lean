import Audiopipe.Control.ServerSettles

/-!
# A closed stream comes to its end

Whoever closes a stream gets its `Ok` only after the `Stop` has been sent to
the receiver of that very stream.  The receiver takes it at the next of its
awaits, so once the server has nothing left to do of its own, the receiver of
a closed stream is over.
-/

namespace Audiopipe.Control.ClosedStreams

open Audiopipe.Foundation.GuardedRuns
open Audiopipe.Foundation.EventTraces
open Audiopipe.Foundation.LinearTokens
open Audiopipe.Streamer.PacketFormat
open Audiopipe.Control.Messages
open Audiopipe.Control.ServerTasks
open Audiopipe.Control.StreamIds
open Audiopipe.Control.RequestLedger
open Audiopipe.Control.StreamClosing
open Audiopipe.Control.ServerSettles

variable {s next : Server} {action : Action} {id : Uuid} {h : ℕ}

/-! ## Receivers that have been told to stop -/

/-- The receiver has ended, or a `Stop` waits for it. -/
def Doomed (s : Server) (h : ℕ) : Prop :=
  ∃ receiver,
    s.receivers h = some receiver ∧
      (receiver.Running → receiver.stopWaiting = true)

/-- Nothing but the receiver itself takes the `Stop`. -/
theorem Doomed.step (move : Move s action next) (doomed : Doomed s h) :
    Doomed next h := by
  rcases doomed with ⟨receiver, there, told⟩
  have changed :
      ∀ {taker : ℕ} {before after : ReceiverTask} {later : Server},
        s.receivers taker = some before →
          later.receivers =
              Function.update s.receivers taker (some after) →
            ((before.Running → before.stopWaiting = true) →
              after.Running → after.stopWaiting = true) →
              Doomed later h := by
    intro taker before after later known receivers keeps
    by_cases here : h = taker
    · subst here
      cases there.symm.trans known
      exact ⟨after, by rw [receivers, Function.update_self], keeps told⟩
    · refine ⟨receiver, ?_, told⟩
      rw [receivers, Function.update_of_ne here]
      exact there
  cases move with
  | @callbackOk k taker port c id sel here calling unused =>
      have different : h ≠ taker := by
        rintro rfl
        cases unused.symm.trans there
      refine ⟨receiver, ?_, told⟩
      simp [Server.setConnection, Server.setReceiver, different, there]
  | stopSent here stopping known running room =>
      exact changed known rfl fun _ _ => rfl
  | @datagram taker wellFormed before known receiving =>
      refine changed known rfl fun told running => ?_
      have ran : before.Running := by
        rw [ReceiverTask.Running, receiving]
        decide
      exact told ran
  | @receiverLock taker before known waiting free =>
      refine changed known rfl fun told running => ?_
      have ran : before.Running := by
        rw [ReceiverTask.Running, waiting]
        decide
      exact told ran
  | @played taker accepted before known playing =>
      refine changed known rfl fun told running => ?_
      have ran : before.Running := by
        rw [ReceiverTask.Running, playing]
        decide
      exact told ran
  | takeStop known running waiting =>
      exact changed known rfl fun _ running => (running rfl).elim
  | _ => exact ⟨receiver, there, told⟩

/-- At rest such a receiver is over. -/
theorem Doomed.atRest (doomed : Doomed s h) (rest : AtRest s) :
    ∃ receiver, s.receivers h = some receiver ∧ receiver.phase = .ended := by
  rcases doomed with ⟨receiver, there, told⟩
  refine ⟨receiver, there, ?_⟩
  rcases rest.receivers h receiver there with ⟨receiving, empty⟩ | ended
  · have waiting := told (by rw [ReceiverTask.Running, receiving]; decide)
    cases empty.symm.trans waiting
  · exact ended

/-! ## From the table to the answer -/

/-- What a connection has in its hand, it had before or found in the table. -/
theorem closeStop_found (move : Move s action next) {k : ℕ}
    {c : Connection} (there : next.connections k = some c)
    (stopping : c.phase = .closeStop id h) :
    s.connections k = some c ∨ s.handles id = some h := by
  by_cases mine : connectionOf action = some k
  · cases move with
    | takeOut here waiting free found =>
        cases mine
        cases connection_moved there rfl
        cases stopping
        exact .inr found
    | datagram | receiverLock | played | takeStop => cases mine
    | _ =>
        cases mine
        cases connection_moved there rfl
        cases stopping
  · rw [connections_of_ne move mine] at there
    exact .inl there

/-- Whoever is about to answer `Ok` was so before, or has sent the `Stop`. -/
theorem closeRespondOk_found (move : Move s action next) {k : ℕ}
    {c : Connection} (there : next.connections k = some c)
    (responding : c.phase = .closeRespondOk id) :
    s.connections k = some c ∨
      ∃ h before,
        s.connections k = some before ∧ before.phase = .closeStop id h ∧
          Doomed next h := by
  by_cases mine : connectionOf action = some k
  · cases move with
    | stopSent here stopping known running room =>
        cases mine
        cases connection_moved there rfl
        cases responding
        refine .inr ⟨_, _, here, stopping, ?_⟩
        exact ⟨_, Function.update_self .., fun _ => rfl⟩
    | datagram | receiverLock | played | takeStop => cases mine
    | _ =>
        cases mine
        cases connection_moved there rfl
        cases responding
  · rw [connections_of_ne move mine] at there
    exact .inl there

/--
A stream id and the receiver that it was put into the table with: whoever has
the id has this receiver, and whoever has confirmed the closing has told it to
stop.
-/
structure Tied (history : List Event) (s : Server) (id : Uuid) (h : ℕ) :
    Prop where
  drawn : Drawn s id
  table : ∀ h', s.handles id = some h' → h' = h
  hand :
    ∀ k c h',
      s.connections k = some c → c.phase = .closeStop id h' → h' = h
  sent :
    ∀ k c,
      s.connections k = some c → c.phase = .closeRespondOk id → Doomed s h
  confirmed :
    ∀ k, .answered k (.closeStream id) .ok ∈ history → Doomed s h

/-- An `Ok` is answered from the one place that does so. -/
theorem answeredOk_found {k : ℕ}
    (member : .answered k (.closeStream id) .ok ∈ events s action) :
    ∃ c, s.connections k = some c ∧ c.phase = .closeRespondOk id := by
  cases action with
  | respond taker sent =>
      cases sent with
      | false => cases member
      | true =>
          simp only [events, List.mem_map, Option.mem_toList] at member
          rcases member with ⟨⟨request, response⟩, place, equal⟩
          cases equal
          cases here : s.connections k with
          | none =>
              rw [phaseOf, here] at place
              cases place
          | some c =>
              rw [phaseOf_eq here] at place
              refine ⟨c, rfl, ?_⟩
              cases phase : c.phase with
              | closeRespondOk other =>
                  rw [phase] at place
                  cases place
                  rfl
              | _ =>
                  rw [phase] at place
                  cases place
  | stop taker =>
      simp only [events, List.mem_map] at member
      rcases member with ⟨_, _, equal⟩
      cases equal
  | request taker request newId =>
      cases List.mem_singleton.mp member
  | _ => cases member

/-- A stream stays in the table with the receiver it was put there with. -/
theorem listed_before (move : Move s action next) (drawn : Drawn s id)
    (listed : next.handles id = some h) :
    s.handles id = some h := by
  cases IdEffect.ofMove move with
  | quiet pendingLess sameOpened tableLess sameIssued =>
      rcases tableLess id with same | gone
      · exact same.symm.trans listed
      · cases gone.symm.trans listed
  | drawn k other fresh pendingHere sameOpened sameTable issuedNow =>
      rw [sameTable] at listed
      exact listed
  | listed k other h' pendingBefore pendingHere openedHere tableHere
      sameIssued =>
      have different : id ≠ other := by
        rintro rfl
        exact drawn.2 k pendingBefore
      rw [tableHere, Function.update_of_ne different] at listed
      exact listed

theorem Tied.step {history : List Event} (move : Move s action next)
    (tied : Tied history s id h) :
    Tied (history ++ events s action) next id h where
  drawn := tied.drawn.preserved (.ofMove move)
  table := fun h' listed =>
    tied.table h' (listed_before move tied.drawn listed)
  hand := by
    intro k c h' there stopping
    rcases closeStop_found move there stopping with before | found
    · exact tied.hand k c h' before stopping
    · exact tied.table h' found
  sent := by
    intro k c there responding
    rcases closeRespondOk_found move there responding with
      before | ⟨h', c', before, stopping, doomed⟩
    · exact (tied.sent k c before responding).step move
    · exact tied.hand k c' h' before stopping ▸ doomed
  confirmed := by
    intro k member
    rcases List.mem_append.mp member with earlier | now
    · exact (tied.confirmed k earlier).step move
    · rcases answeredOk_found now with ⟨c, here, responding⟩
      exact (tied.sent k c here responding).step move

/-- A stream in the table is tied to its receiver. -/
theorem Tied.ofListed
    {bufferSize sampleRate : ℕ} {before : List Action}
    (run : Run Server.step (.start bufferSize sampleRate) before s)
    (opened : s.handles id = some h) :
    Tied [] s id h := by
  have present : s.handles id ≠ none := by
    rw [opened]
    exact Option.some_ne_none h
  have spendable :=
    Spendable.run
      (fun _ enabled => idTransfer (Server.step_move enabled)) run
      (idHolding_start bufferSize sampleRate)
  have unclosed : ∀ k, closing s k ≠ some id := by
    intro k closes
    have here : (idHolding s).holds (.inr (.inl id)) = some id := by
      change listed s id = some id
      rw [listed, opened]
      rfl
    cases spendable.unique _ (.inr (.inr k)) id here closes
  refine
    ⟨.ofListed (run_invariants run).1 present, ?_, ?_, ?_,
      fun _ never => (List.not_mem_nil never).elim⟩
  · intro h' listed
    exact Option.some.inj (listed.symm.trans opened)
  · intro k c h' here stopping
    refine (unclosed k ?_).elim
    rw [closing_eq here, stopping]
    rfl
  · intro k c here responding
    refine (unclosed k ?_).elim
    rw [closing_eq here, responding]
    rfl

/--
In every run in which somebody is told that an open stream has been closed,
the receiver of this stream has ended or a `Stop` waits for it; and it has
ended wherever the server has no step of its own left to take.
-/
theorem closed_stream_ends
    {bufferSize sampleRate : ℕ} {before actions : List Action}
    (run : Run Server.step (.start bufferSize sampleRate) before s)
    (opened : s.handles id = some h)
    (later : Run Server.step s actions next) {k : ℕ}
    (closed :
      .answered k (.closeStream id) .ok ∈
        trace Server.step events s actions) :
    Doomed next h ∧
      ∀ own rested,
        GuardedRun Server.step Internal next own rested →
          ¬ GoesOn rested →
            ∃ receiver,
              rested.receivers h = some receiver ∧
                receiver.phase = .ended := by
  have tied : Tied ([] ++ trace Server.step events s actions) next id h := by
    refine
      @trace_preserves _ _ _ _ _ _ (fun history s => Tied history s id h)
        ?_ _ _ _ later _ (.ofListed run opened)
    intro history state following action _ enabled tied
    exact tied.step (Server.step_move enabled)
  have doomed := tied.confirmed k closed
  refine ⟨doomed, fun own rested ownRun last => ?_⟩
  have still : Doomed rested h := by
    refine
      @GuardedRun.preserves _ _ _ _ (fun s => Doomed s h) ?_ _ _ _ ownRun
        doomed
    exact fun _ enabled doomed => doomed.step (Server.step_move enabled)
  have whole :
      Run Server.step (.start bufferSize sampleRate)
        ((before ++ actions) ++ own) rested :=
    (run.append later).append (ownRun.weaken fun _ => trivial)
  exact
    still.atRest
      ((atRest_iff (locksOwned_of_run whole) (ready_of_run whole)).mpr
        last)

/-- A connection opens a stream. -/
def openedFirst : List Action :=
  [.accept 0, .accept 1, .request 0 (.openStream (.mono 0)) .nil,
    .lockMixer 0, .callbackOk 0 0 40000, .lockHandles 0, .respond 0 true]

/-- Another connection closes it while a packet is being played. -/
def closedByOther : List Action :=
  [.datagram 0 true, .receiverLock 0, .request 1 (.closeStream .nil) .nil,
    .lockHandles 1, .stop 1, .respond 1 true]

theorem closed_stream_ends_closedByOther :
    ∃ s, Doomed s 0 ∧
      ∃ own rested receiver,
        GuardedRun Server.step Internal s own rested ∧
          rested.receivers 0 = some receiver ∧
            receiver.phase = .ended := by
  have executed :
      ∃ s next,
        execute Server.step (.start 256 48000) openedFirst = some s ∧
          s.handles .nil = some 0 ∧
          execute Server.step s closedByOther = some next ∧
          .answered 1 (.closeStream .nil) .ok ∈
            trace Server.step events s closedByOther :=
    ⟨_, _, rfl, rfl, rfl, by decide⟩
  rcases executed with ⟨s, next, before, opened, after, closed⟩
  have run := execute_eq_some_iff.mp before
  have later := execute_eq_some_iff.mp after
  rcases closed_stream_ends run opened later closed with ⟨doomed, ends⟩
  rcases rests_smoothly (run.append later) with ⟨own, rested, ownRun, rest⟩
  have internal : GuardedRun Server.step Internal next own rested :=
    ownRun.weaken fun own => own.1
  rcases ends own rested internal rest.notGoesOn with
    ⟨receiver, there, ended⟩
  exact ⟨next, doomed, own, rested, receiver, internal, there, ended⟩

end Audiopipe.Control.ClosedStreams
