import Audiopipe.Control.HandleOwnership
import Audiopipe.Control.RequestLedger
import Audiopipe.Foundation.LinearTokens
import Mathlib.Data.Sum.Basic

/-!
# A stream is closed at most once

A stream id and the handle of its receiver are linear: an id is drawn once,
goes from the connection that drew it into the table and from there into the
hands of the connection that closes it, and a handle goes the same way.  So
whoever races for a stream, one connection at most takes it out, sends the
`Stop` and answers `Ok`.
-/

namespace Audiopipe.Control.StreamClosing

open Audiopipe.Foundation.GuardedRuns
open Audiopipe.Foundation.EventTraces
open Audiopipe.Foundation.LinearTokens
open Audiopipe.Mixing.TrackSelector
open Audiopipe.Streamer.PacketFormat
open Audiopipe.Control.Messages
open Audiopipe.Control.ServerTasks
open Audiopipe.Control.StreamIds
open Audiopipe.Control.HandleOwnership
open Audiopipe.Control.RequestLedger

/-! ## What the connections do -/

/-- What a connection reads, sends to its peer, and sends to a receiver. -/
inductive Event where
  | asked (k : ℕ) (request : ControlRequest)
  | answered (k : ℕ) (request : ControlRequest)
      (response : ControlResponse)
  | stopSent (k h : ℕ)
deriving DecidableEq

/-- The exchange that a connection completes when its response is sent. -/
def exchangeAt (s : Server) :
    Phase → Option (ControlRequest × ControlResponse)
  | .openRespond id sel port =>
      some (.openStream sel, .stream id port s.bufferSize s.sampleRate)
  | .closeRespondOk id => some (.closeStream id, .ok)
  | .closeRespondNotFound id =>
      some (.closeStream id, .error .streamIdNotFound)
  | _ => none

/-- A step adds at most the exchange of its place to those of a connection. -/
theorem exchanges_grow
    {s next : Server} {action : Action} (move : Move s action next)
    {k : ℕ} {c : Connection} (there : next.connections k = some c) :
    c.exchanges = [] ∨
      ∃ before,
        s.connections k = some before ∧
          (c.exchanges = before.exchanges ∨
            ∃ exchange,
              exchangeAt s before.phase = some exchange ∧
                c.exchanges = before.exchanges ++ [exchange]) := by
  by_cases mine : connectionOf action = some k
  · have answered :
        ∀ {before : Connection} {phase : Phase}
          {exchange : ControlRequest × ControlResponse},
          before.phase = phase → exchangeAt s phase = some exchange →
            exchangeAt s before.phase = some exchange := by
      rintro before phase exchange rfl sent
      exact sent
    have kept :
        ∀ {before : Connection},
          s.connections k = some before →
            c.exchanges = before.exchanges →
              c.exchanges = [] ∨
                ∃ before,
                  s.connections k = some before ∧
                    (c.exchanges = before.exchanges ∨
                      ∃ exchange,
                        exchangeAt s before.phase = some exchange ∧
                          c.exchanges = before.exchanges ++ [exchange]) :=
      fun here same => Or.inr ⟨_, here, Or.inl same⟩
    cases move with
    | accept unused =>
        cases mine
        cases connection_moved there rfl
        exact Or.inl rfl
    | @respondStream taker before id sel port here responding =>
        cases mine
        cases connection_moved there rfl
        exact
          Or.inr
            ⟨before, here, Or.inr ⟨_, answered responding rfl, rfl⟩⟩
    | @respondOk taker before id here responding =>
        cases mine
        cases connection_moved there rfl
        exact
          Or.inr
            ⟨before, here, Or.inr ⟨_, answered responding rfl, rfl⟩⟩
    | @respondNotFound taker before id here responding =>
        cases mine
        cases connection_moved there rfl
        exact
          Or.inr
            ⟨before, here, Or.inr ⟨_, answered responding rfl, rfl⟩⟩
    | datagram there' receiving => cases mine
    | receiverLock there' waiting free => cases mine
    | played there' playing => cases mine
    | takeStop there' running waiting => cases mine
    | _ =>
        cases mine
        cases connection_moved there rfl
        apply kept
        · assumption
        · rfl
  · rw [connections_of_ne move mine] at there
    exact Or.inr ⟨c, there, Or.inl rfl⟩

/-- The receiver task is there and has not ended. -/
def isRunning (s : Server) (h : ℕ) : Bool :=
  (s.receivers h).any fun receiver => receiver.Running

/-- The receiver that gets the `Stop`; one that has ended gets none. -/
def stopAt (s : Server) : Phase → Option ℕ
  | .closeStop _ h => if isRunning s h then some h else none
  | _ => none

/-- The events of a step. -/
def events (s : Server) : Action → List Event
  | .request k request _ => [.asked k request]
  | .stop k => (stopAt s (phaseOf s k)).toList.map (.stopSent k)
  | .respond k true =>
      (exchangeAt s (phaseOf s k)).toList.map fun exchange =>
        .answered k exchange.1 exchange.2
  | _ => []

/-- The stream whose closing an event confirms. -/
def closedOk : Event → Option Uuid
  | .answered _ (.closeStream id) .ok => some id
  | _ => none

/-- The receiver that an event tells to stop. -/
def stopped : Event → Option ℕ
  | .stopSent _ h => some h
  | _ => none

/-- The request that connection `k` reads in an event. -/
def askedBy (k : ℕ) : Event → Option ControlRequest
  | .asked taker request => if taker = k then some request else none
  | _ => none

/-- The request that connection `k` has read last. -/
def lastAsked (k : ℕ) (trace : List Event) : Option ControlRequest :=
  (trace.filterMap (askedBy k)).getLast?

/-- A response tells no receiver to stop. -/
theorem stopped_answered
    (k : ℕ) (exchange : Option (ControlRequest × ControlResponse)) :
    ((exchange.toList.map fun pair =>
        Event.answered k pair.1 pair.2).filterMap stopped) = [] := by
  cases exchange with
  | none => rfl
  | some pair => rfl

/-- A `Stop` confirms no closing. -/
theorem closedOk_stopSent (k : ℕ) (handle : Option ℕ) :
    ((handle.toList.map (Event.stopSent k)).filterMap closedOk) = [] := by
  cases handle with
  | none => rfl
  | some h => rfl

/-! ## Handles are linear -/

/-- Where the handles of the receivers are: in the table or in a hand. -/
def handleHolding (s : Server) : Holding (Uuid ⊕ ℕ) ℕ where
  holds := Sum.elim s.handles (hand s)
  made := fun h => s.receivers h ≠ none

/-- A function that changes at one place, to what it was or to nothing. -/
theorem update_less
    {Place Value : Type} [DecidableEq Place]
    {before after : Place → Option Value} {place : Place}
    {value : Option Value}
    (changed : after = Function.update before place value)
    (less : value = before place ∨ value = none) (other : Place) :
    after other = before other ∨ after other = none := by
  rw [changed]
  by_cases here : other = place
  · rw [here, Function.update_self]
    exact less
  · exact Or.inl (Function.update_of_ne here _ _)

/-- A receiver that moves on stays known. -/
theorem known_update
    {s : Server} {h : ℕ} {receiver later : ReceiverTask}
    (there : s.receivers h = some receiver) :
    (fun other =>
        Function.update s.receivers h (some later) other ≠ none) =
      fun other => s.receivers other ≠ none := by
  funext other
  by_cases here : other = h
  · subst here
    simp [there]
  · simp [here]

/-- A connection that creates no handle and moves none. -/
theorem handles_lost
    {s next : Server} {k : ℕ} {c moved : Connection}
    (here : s.connections k = some c)
    (connections :
      next.connections = Function.update s.connections k (some moved))
    (handLess :
      inHand moved.phase = inHand c.phase ∨ inHand moved.phase = none)
    (tableLess :
      ∀ id, next.handles id = s.handles id ∨ next.handles id = none)
    (sameReceivers : next.receivers = s.receivers) :
    Transfer (handleHolding s) (handleHolding next) none := by
  refine .lost ?_ ?_
  · rintro (id | other)
    · exact tableLess id
    · refine update_less (hand_update connections) ?_ other
      rw [hand_eq here]
      exact handLess
  · simp only [handleHolding, sameReceivers]

/-- A receiver moves no handle. -/
theorem handles_untouched
    {s next : Server} (connections : next.connections = s.connections)
    (sameTable : next.handles = s.handles)
    (sameKnown :
      (fun h => next.receivers h ≠ none) = fun h => s.receivers h ≠ none) :
    Transfer (handleHolding s) (handleHolding next) none := by
  refine .lost ?_ sameKnown
  have sameHands : hand next = hand s := by
    funext k
    rw [hand, hand, connections]
  intro place
  left
  simp only [handleHolding, sameTable, sameHands]

/-- What a step does with the handles of the receivers. -/
theorem handleTransfer
    {s next : Server} {action : Action} (move : Move s action next) :
    ∃ spent,
      Transfer (handleHolding s) (handleHolding next) spent ∧
        (events s action).filterMap stopped = spent.toList := by
  have keep :
      ∀ id, s.handles id = s.handles id ∨ s.handles id = none :=
    fun _ => Or.inl rfl
  cases move with
  | @accept k unused =>
      refine ⟨none, .lost ?_ rfl, rfl⟩
      rintro (id | other)
      · exact Or.inl rfl
      · exact update_less (hand_update rfl) (Or.inr rfl) other
  | requestOpen here reading fresh =>
      exact ⟨none, handles_lost here rfl (Or.inr rfl) keep rfl, rfl⟩
  | requestClose here reading =>
      exact ⟨none, handles_lost here rfl (Or.inr rfl) keep rfl, rfl⟩
  | readErrorCurrent here reading current =>
      exact ⟨none, handles_lost here rfl (Or.inr rfl) keep rfl, rfl⟩
  | readErrorNone here reading current =>
      exact ⟨none, handles_lost here rfl (Or.inr rfl) keep rfl, rfl⟩
  | lockMixer here waiting free =>
      exact ⟨none, handles_lost here rfl (Or.inr rfl) keep rfl, rfl⟩
  | @callbackOk k h port c id sel here calling unused =>
      refine ⟨none, .created (Sum.inr k) h ?_ ?_ ?_, rfl⟩
      · exact fun known => known unused
      · exact
          (congrArg (Sum.elim s.handles)
            (hand_update (c := c.goTo (.openLockHandles id sel h)) rfl)).trans
            (Sum.update_elim_inr ..).symm
      · intro other
        by_cases same : other = h
        · subst same
          simp [handleHolding, Server.setConnection, Server.setReceiver]
        · simp [handleHolding, Server.setConnection, Server.setReceiver,
            same]
  | callbackError here calling =>
      exact ⟨none, handles_lost here rfl (Or.inr rfl) keep rfl, rfl⟩
  | @insert k h c id sel here waiting free =>
      have holding : hand s k = some h := by
        rw [hand_eq here, waiting]
        rfl
      refine ⟨none, .moved (Sum.inr k) (Sum.inl id) h holding ?_ rfl, rfl⟩
      simp only [handleHolding, Sum.update_elim_inr, Sum.update_elim_inl]
      exact
        congrArg (Sum.elim (Function.update s.handles id (some h)))
          (hand_update (c := c.inserted id (.openRespond id sel _)) rfl)
  | @takeOut k h c id here waiting free found =>
      refine
        ⟨none, .moved (Sum.inl id) (Sum.inr k) h found ?_ rfl, rfl⟩
      simp only [handleHolding, Sum.update_elim_inr, Sum.update_elim_inl]
      exact
        congrArg (Sum.elim (Function.update s.handles id none))
          (hand_update (c := c.goTo (.closeStop id h)) rfl)
  | notFound here waiting free missing =>
      exact ⟨none, handles_lost here rfl (Or.inr rfl) keep rfl, rfl⟩
  | @removeHandle k c id here waiting free =>
      exact
        ⟨none, handles_lost here rfl (Or.inr rfl) (takenOut_less s id) rfl,
          rfl⟩
  | log here waiting free =>
      exact ⟨none, handles_lost here rfl (Or.inr rfl) keep rfl, rfl⟩
  | @stopSent k h c id receiver here stopping there running room =>
      have holding : hand s k = some h := by
        rw [hand_eq here, stopping]
        rfl
      refine
        ⟨some h, .spent (Sum.inr k) h holding ?_ (known_update there), ?_⟩
      · exact
          (congrArg (Sum.elim s.handles)
            (hand_update (c := c.goTo (.closeRespondOk id)) rfl)).trans
            (Sum.update_elim_inr ..).symm
      · simp [events, phaseOf_eq here, stopping, stopAt, isRunning, there,
          running, stopped]
  | @stopPanic k h c id receiver here stopping there gone =>
      refine ⟨none, handles_lost here rfl (Or.inr rfl) keep rfl, ?_⟩
      simp [events, phaseOf_eq here, stopping, stopAt, isRunning, there,
        gone]
  | respondStream here responding =>
      exact
        ⟨none, handles_lost here rfl (Or.inr rfl) keep rfl,
          stopped_answered _ _⟩
  | respondStreamFailed here responding =>
      exact ⟨none, handles_lost here rfl (Or.inr rfl) keep rfl, rfl⟩
  | respondOk here responding =>
      exact
        ⟨none, handles_lost here rfl (Or.inr rfl) keep rfl,
          stopped_answered _ _⟩
  | respondOkFailed here responding =>
      exact ⟨none, handles_lost here rfl (Or.inr rfl) keep rfl, rfl⟩
  | respondNotFound here responding =>
      exact
        ⟨none, handles_lost here rfl (Or.inr rfl) keep rfl,
          stopped_answered _ _⟩
  | respondNotFoundFailed here responding =>
      exact ⟨none, handles_lost here rfl (Or.inr rfl) keep rfl, rfl⟩
  | datagram there receiving =>
      exact ⟨none, handles_untouched rfl rfl (known_update there), rfl⟩
  | receiverLock there waiting free =>
      exact ⟨none, handles_untouched rfl rfl (known_update there), rfl⟩
  | played there playing =>
      exact ⟨none, handles_untouched rfl rfl (known_update there), rfl⟩
  | takeStop there running waiting =>
      exact ⟨none, handles_untouched rfl rfl (known_update there), rfl⟩

/-! ## Stream ids are linear -/

/-- The stream that a connection has taken out of the table to close it. -/
def closingId : Phase → Option Uuid
  | .closeStop id _ => some id
  | .closeRespondOk id => some id
  | _ => none

/-- The stream that connection `k` is closing. -/
def closing (s : Server) (k : ℕ) : Option Uuid :=
  (s.connections k).bind fun c => closingId c.phase

/-- The ids in the table, each at its own place. -/
def listed (s : Server) (id : Uuid) : Option Uuid :=
  (s.handles id).map fun _ => id

/--
Where the stream ids are: with the connection that has drawn them, in the
table, or with the connection that closes them.
-/
def idHolding (s : Server) : Holding (ℕ ⊕ Uuid ⊕ ℕ) Uuid where
  holds := Sum.elim (pending s) (Sum.elim (listed s) (closing s))
  made := fun id => id ∈ s.issued

theorem closing_eq
    {s : Server} {k : ℕ} {c : Connection}
    (here : s.connections k = some c) :
    closing s k = closingId c.phase := by
  simp [closing, here]

theorem closing_update
    {s next : Server} {k : ℕ} {c : Connection}
    (moved :
      next.connections = Function.update s.connections k (some c)) :
    closing next = Function.update (closing s) k (closingId c.phase) :=
  phase_update closingId moved

/-- A connection that neither was nor is closing anything. -/
theorem closing_same
    {s next : Server} {k : ℕ} {c : Connection}
    (moved :
      next.connections = Function.update s.connections k (some c))
    (before : closing s k = none) (after : closingId c.phase = none) :
    closing next = closing s := by
  rw [closing_update moved, after, ← before, Function.update_eq_self]

theorem pending_same
    {s next : Server} {k : ℕ} {c : Connection}
    (moved :
      next.connections = Function.update s.connections k (some c))
    (before : pending s k = none) (after : pendingId c.phase = none) :
    pending next = pending s := by
  rw [pending_update moved, after, ← before, Function.update_eq_self]

/-- An entry of the table that changes. -/
theorem listed_update
    {s next : Server} {id : Uuid} {entry : Option ℕ}
    (table : next.handles = Function.update s.handles id entry) :
    listed next =
      Function.update (listed s) id (entry.map fun _ => id) := by
  funext other
  by_cases here : other = id
  · subst here
    simp [listed, table]
  · simp [listed, table, here]

/-- A connection that draws no id, lists none and takes none out. -/
theorem ids_lost
    {s next : Server} {k : ℕ} {c moved : Connection}
    (here : s.connections k = some c)
    (connections :
      next.connections = Function.update s.connections k (some moved))
    (pendingLess :
      pendingId moved.phase = pendingId c.phase ∨
        pendingId moved.phase = none)
    (closingLess :
      closingId moved.phase = closingId c.phase ∨
        closingId moved.phase = none)
    (tableLess :
      ∀ id, next.handles id = s.handles id ∨ next.handles id = none)
    (sameIssued : next.issued = s.issued) :
    Transfer (idHolding s) (idHolding next) none := by
  refine .lost ?_ ?_
  · rintro (other | id | other)
    · refine update_less (pending_update connections) ?_ other
      simp only [pending, here, Option.bind_some]
      exact pendingLess
    · rcases tableLess id with same | gone
      · exact Or.inl (congrArg (Option.map fun _ => id) same)
      · exact Or.inr (congrArg (Option.map fun _ => id) gone)
    · refine update_less (closing_update connections) ?_ other
      rw [closing_eq here]
      exact closingLess
  · simp only [idHolding, sameIssued]

/-- A receiver moves no id. -/
theorem ids_untouched
    {s next : Server} (connections : next.connections = s.connections)
    (sameTable : next.handles = s.handles)
    (sameIssued : next.issued = s.issued) :
    Transfer (idHolding s) (idHolding next) none := by
  refine .lost ?_ ?_
  · have samePending : pending next = pending s := by
      funext k
      rw [pending, pending, connections]
    have sameListed : listed next = listed s := by
      funext id
      rw [listed, listed, sameTable]
    have sameClosing : closing next = closing s := by
      funext k
      rw [closing, closing, connections]
    intro place
    left
    simp only [idHolding, samePending, sameListed, sameClosing]
  · simp only [idHolding, sameIssued]

/-- What a step does with the stream ids. -/
theorem idTransfer
    {s next : Server} {action : Action} (move : Move s action next) :
    ∃ spent,
      Transfer (idHolding s) (idHolding next) spent ∧
        (events s action).filterMap closedOk = spent.toList := by
  have keep :
      ∀ id, s.handles id = s.handles id ∨ s.handles id = none :=
    fun _ => Or.inl rfl
  cases move with
  | @accept k unused =>
      refine ⟨none, .lost ?_ rfl, rfl⟩
      rintro (other | id | other)
      · exact update_less (pending_update rfl) (Or.inr rfl) other
      · exact Or.inl rfl
      · exact update_less (closing_update rfl) (Or.inr rfl) other
  | @requestOpen k c sel id here reading fresh =>
      have notClosing : closing s k = none := by
        rw [closing_eq here, reading]
        rfl
      refine ⟨none, .created (Sum.inl k) id fresh ?_ ?_, rfl⟩
      · simp only [idHolding, Sum.update_elim_inl]
        exact
          congrArg₂ Sum.elim
            (pending_update (c := c.goTo (.openLockMixer id sel)) rfl)
            (congrArg (Sum.elim (listed s))
              (closing_same (c := c.goTo (.openLockMixer id sel)) rfl
                notClosing rfl))
      · intro other
        simp [idHolding]
  | requestClose here reading =>
      exact
        ⟨none, ids_lost here rfl (Or.inr rfl) (Or.inr rfl) keep rfl, rfl⟩
  | readErrorCurrent here reading current =>
      exact
        ⟨none, ids_lost here rfl (Or.inr rfl) (Or.inr rfl) keep rfl, rfl⟩
  | readErrorNone here reading current =>
      exact
        ⟨none, ids_lost here rfl (Or.inr rfl) (Or.inr rfl) keep rfl, rfl⟩
  | lockMixer here waiting free =>
      exact
        ⟨none,
          ids_lost here rfl (Or.inl (by rw [waiting]; rfl)) (Or.inr rfl)
            keep rfl,
          rfl⟩
  | callbackOk here calling unused =>
      exact
        ⟨none,
          ids_lost here rfl (Or.inl (by rw [calling]; rfl)) (Or.inr rfl)
            keep rfl,
          rfl⟩
  | callbackError here calling =>
      exact
        ⟨none, ids_lost here rfl (Or.inr rfl) (Or.inr rfl) keep rfl, rfl⟩
  | @insert k h c id sel here waiting free =>
      have drawn : pending s k = some id := by
        simp [pending, here, waiting, pendingId]
      have notClosing : closing s k = none := by
        rw [closing_eq here, waiting]
        rfl
      refine
        ⟨none, .moved (Sum.inl k) (Sum.inr (Sum.inl id)) id drawn ?_ rfl,
          rfl⟩
      simp only [idHolding, Sum.update_elim_inl, Sum.update_elim_inr]
      exact
        congrArg₂ Sum.elim
          (pending_update
            (c := c.inserted id (.openRespond id sel (s.portOf h))) rfl)
          (congrArg₂ Sum.elim (@listed_update s _ id (some h) rfl)
            (closing_same
              (c := c.inserted id (.openRespond id sel (s.portOf h))) rfl
              notClosing rfl))
  | @takeOut k h c id here waiting free found =>
      have entry : listed s id = some id := by
        simp [listed, found]
      have notPending : pending s k = none := by
        simp [pending, here, waiting, pendingId]
      refine
        ⟨none,
          .moved (Sum.inr (Sum.inl id)) (Sum.inr (Sum.inr k)) id entry ?_
            rfl,
          rfl⟩
      simp only [idHolding, Sum.update_elim_inl, Sum.update_elim_inr]
      exact
        congrArg₂ Sum.elim
          (pending_same (c := c.goTo (.closeStop id h)) rfl notPending rfl)
          (congrArg₂ Sum.elim (@listed_update s _ id none rfl)
            (closing_update (c := c.goTo (.closeStop id h)) rfl))
  | notFound here waiting free missing =>
      exact
        ⟨none, ids_lost here rfl (Or.inr rfl) (Or.inr rfl) keep rfl, rfl⟩
  | @removeHandle k c id here waiting free =>
      exact
        ⟨none,
          ids_lost here rfl (Or.inr rfl) (Or.inr rfl) (takenOut_less s id)
            rfl,
          rfl⟩
  | log here waiting free =>
      exact
        ⟨none, ids_lost here rfl (Or.inr rfl) (Or.inr rfl) keep rfl, rfl⟩
  | stopSent here stopping there running room =>
      exact
        ⟨none,
          ids_lost here rfl (Or.inr rfl) (Or.inl (by rw [stopping]; rfl))
            keep rfl,
          closedOk_stopSent _ _⟩
  | stopPanic here stopping there gone =>
      exact
        ⟨none, ids_lost here rfl (Or.inr rfl) (Or.inr rfl) keep rfl,
          closedOk_stopSent _ _⟩
  | respondStream here responding =>
      refine
        ⟨none, ids_lost here rfl (Or.inr rfl) (Or.inr rfl) keep rfl, ?_⟩
      simp [events, phaseOf_eq here, responding, exchangeAt, closedOk]
  | respondStreamFailed here responding =>
      exact
        ⟨none, ids_lost here rfl (Or.inr rfl) (Or.inr rfl) keep rfl, rfl⟩
  | @respondOk k c id here responding =>
      have taken : closing s k = some id := by
        rw [closing_eq here, responding]
        rfl
      have notPending : pending s k = none := by
        simp [pending, here, responding, pendingId]
      refine ⟨some id, .spent (Sum.inr (Sum.inr k)) id taken ?_ rfl, ?_⟩
      · simp only [idHolding, Sum.update_elim_inr]
        exact
          congrArg₂ Sum.elim
            (pending_same (c := c.answered (.closeStream id) .ok) rfl
              notPending rfl)
            (congrArg (Sum.elim (listed s))
              (closing_update (c := c.answered (.closeStream id) .ok)
                rfl))
      · simp [events, phaseOf_eq here, responding, exchangeAt, closedOk]
  | respondOkFailed here responding =>
      exact
        ⟨none, ids_lost here rfl (Or.inr rfl) (Or.inr rfl) keep rfl, rfl⟩
  | respondNotFound here responding =>
      refine
        ⟨none, ids_lost here rfl (Or.inr rfl) (Or.inr rfl) keep rfl, ?_⟩
      simp [events, phaseOf_eq here, responding, exchangeAt, closedOk]
  | respondNotFoundFailed here responding =>
      exact
        ⟨none, ids_lost here rfl (Or.inr rfl) (Or.inr rfl) keep rfl, rfl⟩
  | datagram there receiving =>
      exact ⟨none, ids_untouched rfl rfl rfl, rfl⟩
  | receiverLock there waiting free =>
      exact ⟨none, ids_untouched rfl rfl rfl, rfl⟩
  | played there playing => exact ⟨none, ids_untouched rfl rfl rfl, rfl⟩
  | takeStop there running waiting =>
      exact ⟨none, ids_untouched rfl rfl rfl, rfl⟩

/-! ## Ids that have left the table -/

/-- The id has been drawn and is not on its way into the table. -/
def Drawn (s : Server) (id : Uuid) : Prop :=
  id ∈ s.issued ∧ ∀ k, pending s k ≠ some id

theorem Drawn.ofListed
    {s : Server} (fresh : IdsFresh s) {id : Uuid}
    (present : s.handles id ≠ none) :
    Drawn s id :=
  ⟨fresh.tableIssued id present, fun k drawn =>
    present (fresh.pendingUnlisted k id drawn)⟩

theorem Drawn.preserved
    {s next : Server} (effect : IdEffect s next) {id : Uuid}
    (drawn : Drawn s id) :
    Drawn next id := by
  rcases drawn with ⟨issued, notPending⟩
  cases effect with
  | quiet pendingLess sameOpened tableLess sameIssued =>
      refine ⟨by rw [sameIssued]; exact issued, fun k found => ?_⟩
      rcases pendingLess k with same | gone
      · exact notPending k (same.symm.trans found)
      · rw [gone] at found
        cases found
  | drawn k other fresh pendingHere sameOpened sameTable issuedNow =>
      have different : other ≠ id := by
        rintro rfl
        exact fresh issued
      refine ⟨by rw [issuedNow]; exact List.mem_cons_of_mem _ issued, ?_⟩
      intro k' found
      rw [pendingHere] at found
      by_cases here : k' = k
      · rw [here, Function.update_self] at found
        exact different (Option.some.inj found)
      · rw [Function.update_of_ne here] at found
        exact notPending k' found
  | listed k other h pendingBefore pendingHere openedHere tableHere
      sameIssued =>
      refine ⟨by rw [sameIssued]; exact issued, fun k' found => ?_⟩
      rw [pendingHere] at found
      by_cases here : k' = k
      · rw [here, Function.update_self] at found
        cases found
      · rw [Function.update_of_ne here] at found
        exact notPending k' found

/-- An id that has been drawn and is not in the table does not enter it. -/
theorem Drawn.stays_out
    {s next : Server} (effect : IdEffect s next) {id : Uuid}
    (drawn : Drawn s id) (out : s.handles id = none) :
    next.handles id = none := by
  cases effect with
  | quiet pendingLess sameOpened tableLess sameIssued =>
      rcases tableLess id with same | gone
      · exact same.trans out
      · exact gone
  | drawn k other fresh pendingHere sameOpened sameTable issuedNow =>
      rw [sameTable]
      exact out
  | listed k other h pendingBefore pendingHere openedHere tableHere
      sameIssued =>
      have different : id ≠ other := by
        rintro rfl
        exact drawn.2 k pendingBefore
      rw [tableHere, Function.update_of_ne different]
      exact out

/-- What a connection is closing it was closing before, or found listed. -/
theorem closing_found
    {s next : Server} {action : Action} (move : Move s action next)
    {k : ℕ} {id : Uuid} (taken : closing next k = some id) :
    closing s k = some id ∨ s.handles id ≠ none := by
  by_cases mine : connectionOf action = some k
  · have phaseNow :
        ∀ {c : Connection},
          next.connections = Function.update s.connections k (some c) →
            closingId c.phase = some id := by
      intro c moved
      rw [closing_update moved, Function.update_self] at taken
      exact taken
    cases move with
    | takeOut here waiting free found =>
        cases mine
        cases phaseNow rfl
        right
        rw [found]
        exact Option.some_ne_none _
    | stopSent here stopping there running room =>
        cases mine
        cases phaseNow rfl
        left
        rw [closing_eq here, stopping]
        rfl
    | datagram there receiving => cases mine
    | receiverLock there waiting free => cases mine
    | played there playing => cases mine
    | takeStop there running waiting => cases mine
    | _ =>
        cases mine
        cases phaseNow rfl
  · left
    rw [closing, connections_of_ne move mine] at taken
    exact taken

/--
The id has left the table, connection `k` is not closing it, and its requests
to close it have been refused.
-/
structure Refuses
    (id : Uuid) (k : ℕ) (trace : List Event) (s : Server) : Prop where
  drawn : Drawn s id
  out : s.handles id = none
  notClosing : closing s k ≠ some id
  refused :
    ∀ response,
      .answered k (.closeStream id) response ∈ trace →
        response = .error .streamIdNotFound

/-- The answer to a `CloseStream` goes by what the connection is closing. -/
theorem answered_closeStream
    {s : Server} {action : Action} {k : ℕ} {id : Uuid}
    {response : ControlResponse}
    (member : .answered k (.closeStream id) response ∈ events s action) :
    closing s k = some id ∨ response = .error .streamIdNotFound := by
  cases action with
  | respond taker sent =>
      cases sent with
      | false => cases member
      | true =>
          simp only [events, List.mem_map, Option.mem_toList] at member
          rcases member with ⟨⟨request, answer⟩, here, equal⟩
          cases equal
          unfold phaseOf at here
          cases known : s.connections k with
          | none =>
              rw [known] at here
              cases here
          | some c =>
              rw [known] at here
              cases phase : c.phase with
              | closeRespondOk other =>
                  simp only [phase, exchangeAt, Option.some.injEq,
                    Prod.mk.injEq, ControlRequest.closeStream.injEq] at here
                  left
                  rw [closing_eq known, phase, ← here.1]
                  rfl
              | closeRespondNotFound other =>
                  simp only [phase, exchangeAt, Option.some.injEq,
                    Prod.mk.injEq] at here
                  exact Or.inr here.2.symm
              | _ => simp [phase, exchangeAt] at here
  | request taker request newId => simp [events] at member
  | stop taker => simp [events] at member
  | _ => cases member

theorem Refuses.step
    {id : Uuid} {k : ℕ} {trace : List Event} {s next : Server}
    {action : Action} (enabled : s.step action = some next)
    (refuses : Refuses id k trace s) :
    Refuses id k (trace ++ events s action) next := by
  have move := Server.step_move enabled
  have effect := IdEffect.ofMove move
  constructor
  · exact refuses.drawn.preserved effect
  · exact refuses.drawn.stays_out effect refuses.out
  · intro taken
    rcases closing_found move taken with before | listed
    · exact refuses.notClosing before
    · exact listed refuses.out
  · intro response member
    rcases List.mem_append.mp member with earlier | now
    · exact refuses.refused response earlier
    · rcases answered_closeStream now with taken | refused
      · exact (refuses.notClosing taken).elim
      · exact refused

/-! ## Whose entries are removed -/

/--
A connection that looks a stream up to close it has been asked to, and one
that cleans up does so for its current id.
-/
def Named (trace : List Event) (s : Server) : Prop :=
  ∀ k c,
    s.connections k = some c →
      (∀ id,
        c.phase = .closeLockHandles id →
          lastAsked k trace = some (.closeStream id)) ∧
      ∀ id, c.phase = .removeLockHandles id → c.currentId = some id

/-- Nobody else reads a request of connection `k`. -/
theorem askedBy_of_ne
    (s : Server) {action : Action} {k : ℕ}
    (different : connectionOf action ≠ some k) :
    (events s action).filterMap (askedBy k) = [] := by
  cases action with
  | request taker request newId =>
      have other : taker ≠ k := fun equal => different (by rw [← equal]; rfl)
      simp [events, askedBy, other]
  | stop taker =>
      simp only [events]
      cases stopAt s (phaseOf s taker) with
      | none => rfl
      | some h => rfl
  | respond taker sent =>
      cases sent with
      | false => rfl
      | true =>
          simp only [events]
          cases exchangeAt s (phaseOf s taker) with
          | none => rfl
          | some exchange => rfl
  | _ => rfl

theorem Named.step
    {trace : List Event} {s next : Server} {action : Action}
    (enabled : s.step action = some next) (named : Named trace s) :
    Named (trace ++ events s action) next := by
  have move := Server.step_move enabled
  intro k c there
  by_cases mine : connectionOf action = some k
  · cases move with
    | requestClose here reading =>
        cases mine
        cases connection_moved there rfl
        constructor
        · intro id waiting
          cases waiting
          simp [lastAsked, events, askedBy]
        · intro id waiting
          cases waiting
    | readErrorCurrent here reading current =>
        cases mine
        cases connection_moved there rfl
        constructor
        · intro id waiting
          cases waiting
        · intro id waiting
          cases waiting
          exact current
    | datagram there receiving => cases mine
    | receiverLock there waiting free => cases mine
    | played there playing => cases mine
    | takeStop there running waiting => cases mine
    | _ =>
        cases mine
        cases connection_moved there rfl
        constructor
        · intro id waiting
          cases waiting
        · intro id waiting
          cases waiting
  · rw [connections_of_ne move mine] at there
    rcases named k c there with ⟨close, cleanup⟩
    refine ⟨fun id waiting => ?_, cleanup⟩
    rw [lastAsked, List.filterMap_append, askedBy_of_ne s mine,
      List.append_nil]
    exact close id waiting

/-- An entry is removed by a connection that looks up or cleans up its id. -/
theorem removed_by
    {s next : Server} {action : Action} (move : Move s action next)
    (fresh : IdsFresh s) {id : Uuid} {h : ℕ}
    (present : s.handles id = some h)
    (removed : next.handles id ≠ some h) :
    ∃ k c,
      s.connections k = some c ∧ action = .lockHandles k ∧
        (c.phase = .closeLockHandles id ∨
          c.phase = .removeLockHandles id) := by
  have untouched (same : next.handles = s.handles) : False := by
    rw [same] at removed
    exact removed present
  have takes :
      ∀ {other : Uuid} {entry : Option ℕ},
        next.handles = Function.update s.handles other entry →
          other = id := by
    intro other entry table
    by_contra different
    rw [table, Function.update_of_ne (Ne.symm different)] at removed
    exact removed present
  cases move with
  | @insert k h' c other sel here waiting free =>
      cases takes rfl
      have drawn : pending s k = some id := by
        simp [pending, here, waiting, pendingId]
      rw [fresh.pendingUnlisted k id drawn] at present
      cases present
  | @takeOut k h' c other here waiting free found =>
      cases takes rfl
      exact ⟨k, c, here, rfl, Or.inl waiting⟩
  | @removeHandle k c other here waiting free =>
      cases takes rfl
      exact ⟨k, c, here, rfl, Or.inr waiting⟩
  | _ => exact (untouched rfl).elim

/-! ## The result -/

theorem handleHolding_start (bufferSize sampleRate : ℕ) :
    Spendable (handleHolding (.start bufferSize sampleRate))
      fun _ => 0 where
  unique := fun place _ _ held => by rcases place with id | k <;> cases held
  known := fun place _ held => by rcases place with id | k <;> cases held
  unmadeUnspent := fun _ _ => rfl
  heldUnspent := fun _ _ _ => rfl
  once := fun _ => Nat.zero_le 1

theorem idHolding_start (bufferSize sampleRate : ℕ) :
    Spendable (idHolding (.start bufferSize sampleRate))
      fun _ => 0 where
  unique := fun place _ _ held => by
    rcases place with k | id | k <;> cases held
  known := fun place _ held => by
    rcases place with k | id | k <;> cases held
  unmadeUnspent := fun _ _ => rfl
  heldUnspent := fun _ _ _ => rfl
  once := fun _ => Nat.zero_le 1

/-- The invariants of a run from the start. -/
theorem run_invariants
    {bufferSize sampleRate : ℕ} {actions : List Action} {s : Server}
    (run : Run Server.step (.start bufferSize sampleRate) actions s) :
    IdsFresh s ∧
      Named
        (trace Server.step events (.start bufferSize sampleRate) actions)
        s := by
  constructor
  · exact
      Reachable.preserves IdsFresh.step ⟨actions, run⟩
        (.start bufferSize sampleRate)
  · have stepKeeps :
        ∀ {trace : List Event} {state next : Server} {action : Action},
          True → state.step action = some next → Named trace state →
            Named (trace ++ events state action) next :=
      fun _ enabled named => named.step enabled
    have initially : Named [] (.start bufferSize sampleRate) :=
      fun k c here => nomatch here
    exact trace_preserves @stepKeeps run initially

/--
In every run from the start: every receiver is told to stop at most once, and
the closing of every id is confirmed at most once; an id that has left the
table stays out of it, and whoever is not closing it by then is refused; and
an entry is removed only by a connection that was asked to close its id or
that cleans up with it as its current id.
-/
theorem streams_closed_at_most_once
    (bufferSize sampleRate : ℕ) {actions : List Action} {s : Server}
    (run : Run Server.step (.start bufferSize sampleRate) actions s) :
    (∀ id,
        spendings closedOk
            (trace Server.step events (.start bufferSize sampleRate)
              actions)
            id ≤ 1) ∧
      (∀ h,
        spendings stopped
            (trace Server.step events (.start bufferSize sampleRate)
              actions)
            h ≤ 1) ∧
      (∀ id, s.handles id ≠ none →
        ∀ {between : List Action} {left : Server},
          Run Server.step s between left → left.handles id = none →
            ∀ {after : List Action} {later : Server},
              Run Server.step left after later →
                later.handles id = none ∧
                  ∀ k response,
                    closing left k ≠ some id →
                      .answered k (.closeStream id) response ∈
                          trace Server.step events left after →
                        response = .error .streamIdNotFound) ∧
      ∀ id h, s.handles id = some h →
        ∀ {action : Action} {next : Server},
          s.step action = some next → next.handles id ≠ some h →
            ∃ k c,
              s.connections k = some c ∧ action = .lockHandles k ∧
                ((c.phase = .closeLockHandles id ∧
                    lastAsked k
                        (trace Server.step events
                          (.start bufferSize sampleRate) actions) =
                      some (.closeStream id)) ∨
                  (c.phase = .removeLockHandles id ∧
                    c.currentId = some id)) := by
  rcases run_invariants run with ⟨fresh, named⟩
  refine ⟨?_, ?_, ?_, ?_⟩
  · have spendable :=
      Spendable.run
        (fun _ enabled => idTransfer (Server.step_move enabled)) run
        (idHolding_start bufferSize sampleRate)
    exact spendable.once
  · have spendable :=
      Spendable.run
        (fun _ enabled => handleTransfer (Server.step_move enabled)) run
        (handleHolding_start bufferSize sampleRate)
    exact spendable.once
  · intro id present between left run' out after later run''
    have keepsDrawn :
        ∀ {state next : Server} {action : Action},
          True → state.step action = some next →
            Drawn state id → Drawn next id :=
      fun _ enabled drawn =>
        drawn.preserved (.ofMove (Server.step_move enabled))
    have staysOut :
        ∀ {state next : Server} {action : Action},
          True → state.step action = some next →
            Drawn state id ∧ state.handles id = none →
            Drawn next id ∧ next.handles id = none :=
      fun _ enabled both =>
        ⟨keepsDrawn trivial enabled both.1,
          both.1.stays_out (.ofMove (Server.step_move enabled)) both.2⟩
    have drawn := run'.preserves @keepsDrawn (Drawn.ofListed fresh present)
    have stays := run''.preserves @staysOut ⟨drawn, out⟩
    refine ⟨stays.2, fun k response notClosing member => ?_⟩
    have stepKeeps :
        ∀ {trace : List Event} {state next : Server} {action : Action},
          True → state.step action = some next →
            Refuses id k trace state →
            Refuses id k (trace ++ events state action) next :=
      fun _ enabled refuses => refuses.step enabled
    have initially : Refuses id k [] left :=
      ⟨drawn, out, notClosing, fun _ none_ => nomatch none_⟩
    have refuses := trace_preserves @stepKeeps run'' initially
    exact refuses.refused response member
  · intro id h present action next enabled removed
    rcases
        removed_by (Server.step_move enabled) fresh present removed with
      ⟨k, c, here, equal, close | cleanup⟩
    · exact
        ⟨k, c, here, equal,
          Or.inl ⟨close, (named k c here).1 id close⟩⟩
    · exact
        ⟨k, c, here, equal,
          Or.inr ⟨cleanup, (named k c here).2 id cleanup⟩⟩

/-- Two connections close the same stream; the second one is refused. -/
def closedTwice (id : Uuid) : List Action :=
  [.accept 0, .accept 1, .request 0 (.openStream (.mono 0)) id,
    .lockMixer 0, .callbackOk 0 0 40000, .lockHandles 0, .respond 0 true,
    .request 0 (.closeStream id) id, .request 1 (.closeStream id) id,
    .lockHandles 1, .stop 1, .respond 1 true, .lockHandles 0,
    .respond 0 true]

theorem streams_closed_at_most_once_closedTwice :
    ∃ s,
      execute Server.step (.start 256 48000) (closedTwice .nil) = some s ∧
        spendings closedOk
            (trace Server.step events (.start 256 48000)
              (closedTwice .nil))
            .nil = 1 ∧
        ∀ h,
          spendings stopped
              (trace Server.step events (.start 256 48000)
                (closedTwice .nil))
              h ≤ 1 := by
  refine ⟨_, rfl, by decide, ?_⟩
  exact
    (streams_closed_at_most_once 256 48000
      (execute_eq_some_iff.mp rfl)).2.1

end Audiopipe.Control.StreamClosing
