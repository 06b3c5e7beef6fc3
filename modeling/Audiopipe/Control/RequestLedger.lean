import Audiopipe.Control.ServerTasks
import Audiopipe.Foundation.EventTraces

/-!
# Requests and their answers

What a connection has to do with its peer is a conversation: a request is
read, the server finds out how it went, and a response is sent.  A connection
that keeps to this has answered every request once before it reads the next
one.  Two branches of the code break off a conversation: a failed callback
ends in a `todo!()`, and so does, in an `unwrap()`, the `Stop` for a receiver
that is gone already.
-/

namespace Audiopipe.Control.RequestLedger

open Audiopipe.Foundation.GuardedRuns
open Audiopipe.Foundation.EventTraces
open Audiopipe.Mixing.TrackSelector
open Audiopipe.Streamer.PacketFormat
open Audiopipe.Streamer.ReceiveLoop
open Audiopipe.Control.Messages
open Audiopipe.Control.ServerTasks

/-! ## Conversations -/

/-- How a request went. -/
inductive Outcome where
  | opened (id : Uuid) (port : UInt16)
  | failed (e : UdpServerHandleError)
  | found
  | missing
deriving DecidableEq

/-- The response that a request calls for when it went so. -/
def due (bufferSize sampleRate : ℕ) :
    ControlRequest → Outcome → Option ControlResponse
  | .openStream _, .opened id port =>
      some (.stream id port bufferSize sampleRate)
  | .openStream _, .failed e => some (.error (.audioStreamError e))
  | .closeStream _, .found => some .ok
  | .closeStream _, .missing => some (.error .streamIdNotFound)
  | _, _ => none

/-- What happens in a conversation. -/
inductive Talk where
  | asked (request : ControlRequest)
  | settled (outcome : Outcome)
  | answered (response : ControlResponse)
deriving DecidableEq

/-- A request that has been answered. -/
structure Round where
  request : ControlRequest
  outcome : Outcome
  response : ControlResponse

def Round.talk (round : Round) : List Talk :=
  [.asked round.request, .settled round.outcome, .answered round.response]

/-- The response that a connection sends at its place in the code. -/
def responseAt (s : Server) : Phase → Option ControlResponse
  | .openRespond id _ port =>
      some (.stream id port s.bufferSize s.sampleRate)
  | .closeRespondOk _ => some .ok
  | .closeRespondNotFound _ => some (.error .streamIdNotFound)
  | _ => none

/-- What a callback that succeeds has found out. -/
def openedAt (port : UInt16) : Phase → Option Outcome
  | .openCallback id _ => some (.opened id port)
  | _ => none

/-- What the look-up of a closed stream finds out. -/
def lookedUpAt (s : Server) : Phase → Option Outcome
  | .closeLockHandles id =>
      some (if (s.handles id).isSome then .found else .missing)
  | _ => none

/-- The place in the code of connection `k`. -/
def phaseOf (s : Server) (k : ℕ) : Phase :=
  match s.connections k with
  | some c => c.phase
  | none => .ended

/-- The part of a conversation that a step is, with its connection. -/
def talk (s : Server) : Action → List (ℕ × Talk)
  | .request k request _ => [(k, .asked request)]
  | .callbackOk k _ port =>
      ((openedAt port (phaseOf s k)).toList.map .settled).map
        fun said => (k, said)
  | .callbackError k e => [(k, .settled (.failed e))]
  | .lockHandles k =>
      ((lookedUpAt s (phaseOf s k)).toList.map .settled).map
        fun said => (k, said)
  | .respond k true =>
      ((responseAt s (phaseOf s k)).toList.map .answered).map
        fun said => (k, said)
  | _ => []

/-- The conversation of connection `k`. -/
def conversation (k : ℕ) (events : List (ℕ × Talk)) : List Talk :=
  (events.filter fun event => event.1 = k).map Prod.snd

theorem conversation_append
    (k : ℕ) (earlier later : List (ℕ × Talk)) :
    conversation k (earlier ++ later) =
      conversation k earlier ++ conversation k later := by
  simp [conversation]

theorem conversation_own (k : ℕ) (said : List Talk) :
    conversation k (said.map fun talk => (k, talk)) = said := by
  simp [conversation, List.filter_map, Function.comp_def]

theorem phaseOf_eq
    {s : Server} {k : ℕ} {c : Connection}
    (here : s.connections k = some c) :
    phaseOf s k = c.phase := by
  simp [phaseOf, here]

/-! ## What a step leaves alone -/

/-- The connection that takes a step. -/
def connectionOf : Action → Option ℕ
  | .accept k => some k
  | .request k _ _ => some k
  | .readError k => some k
  | .lockMixer k => some k
  | .callbackOk k _ _ => some k
  | .callbackError k _ => some k
  | .lockHandles k => some k
  | .stop k => some k
  | .respond k _ => some k
  | .datagram _ _ => none
  | .receiverLock _ => none
  | .played _ _ => none
  | .takeStop _ => none

/-- The connections that do not take the step stay where they are. -/
theorem connections_of_ne
    {s next : Server} {action : Action} (move : Move s action next)
    {k : ℕ} (different : connectionOf action ≠ some k) :
    next.connections k = s.connections k := by
  have elsewhere :
      ∀ {taker : ℕ}, some taker ≠ some k → k ≠ taker := by
    rintro taker other rfl
    exact other rfl
  cases move with
  | datagram there receiving => rfl
  | receiverLock there waiting free => rfl
  | played there playing => rfl
  | takeStop there running waiting => rfl
  | _ =>
      simp only [connectionOf] at different
      simp [Server.setConnection, Server.setReceiver, Server.setHandle,
        elsewhere different]

/-- What a step has put in the place of a connection. -/
theorem connection_moved
    {s next : Server} {k : ℕ} {c moved : Connection}
    (there : next.connections k = some c)
    (connections :
      next.connections =
        Function.update s.connections k (some moved)) :
    c = moved := by
  rw [connections, Function.update_self] at there
  exact (Option.some.inj there).symm

/-- The other connections do not talk either. -/
theorem conversation_of_ne
    (s : Server) {action : Action} {k : ℕ}
    (different : connectionOf action ≠ some k) :
    conversation k (talk s action) = [] := by
  have silent :
      ∀ {taker : ℕ} (said : List Talk), some taker ≠ some k →
        conversation k (said.map fun talk => (taker, talk)) = [] := by
    intro taker said other
    have differs : taker ≠ k := fun equal => other (by rw [equal])
    simp [conversation, List.filter_map, Function.comp_def, differs]
  cases action with
  | request taker request newId =>
      exact silent [.asked request] different
  | callbackOk taker h port => exact silent _ different
  | callbackError taker e =>
      exact silent [.settled (.failed e)] different
  | lockHandles taker => exact silent _ different
  | respond taker sent =>
      cases sent with
      | true => exact silent _ different
      | false => rfl
  | _ => rfl

/-- No step changes what the server announces. -/
theorem announced_constant
    {s next : Server} {action : Action} (move : Move s action next) :
    next.bufferSize = s.bufferSize ∧ next.sampleRate = s.sampleRate := by
  cases move with
  | _ => exact ⟨rfl, rfl⟩

/-- A receiver keeps its port and its selector. -/
theorem receivers_kept
    {s next : Server} {action : Action} (move : Move s action next)
    {h : ℕ} {receiver : ReceiverTask}
    (known : s.receivers h = some receiver) :
    ∃ later,
      next.receivers h = some later ∧ later.port = receiver.port ∧
        later.sel = receiver.sel := by
  have changed :
      ∀ {taker : ℕ} {before after : ReceiverTask},
        s.receivers taker = some before → after.port = before.port →
          after.sel = before.sel →
          ∃ later,
            Function.update s.receivers taker (some after) h =
                some later ∧
              later.port = receiver.port ∧ later.sel = receiver.sel := by
    intro taker before after there samePort sameSel
    by_cases here : h = taker
    · subst here
      cases known.symm.trans there
      exact ⟨after, by simp, samePort, sameSel⟩
    · exact ⟨receiver, by simp [here, known], rfl, rfl⟩
  cases move with
  | callbackOk here calling unused =>
      rename_i k taker port c id sel
      have different : h ≠ taker := by
        rintro rfl
        rw [known] at unused
        cases unused
      refine ⟨receiver, ?_, rfl, rfl⟩
      simp [Server.setConnection, Server.setReceiver, different, known]
  | stopSent here stopping there running room =>
      exact changed there rfl rfl
  | datagram there receiving => exact changed there rfl rfl
  | receiverLock there waiting free => exact changed there rfl rfl
  | played there playing => exact changed there rfl rfl
  | takeStop there running waiting => exact changed there rfl rfl
  | _ => exact ⟨receiver, known, rfl, rfl⟩

/-! ## Keeping to the conversation -/

/-- What has been said about the request that a connection works on. -/
def Pending (s : Server) : Phase → List Talk → Prop
  | .openLockMixer _ sel, left => left = [.asked (.openStream sel)]
  | .openCallback _ sel, left => left = [.asked (.openStream sel)]
  | .openLockHandles id sel h, left =>
      ∃ receiver,
        s.receivers h = some receiver ∧
          left =
            [.asked (.openStream sel),
              .settled (.opened id receiver.port)]
  | .openRespond id sel port, left =>
      left = [.asked (.openStream sel), .settled (.opened id port)]
  | .closeLockHandles id, left => left = [.asked (.closeStream id)]
  | .closeStop id _, left =>
      left = [.asked (.closeStream id), .settled .found]
  | .closeRespondOk id, left =>
      left = [.asked (.closeStream id), .settled .found]
  | .closeRespondNotFound id, left =>
      left = [.asked (.closeStream id), .settled .missing]
  | _, left => left = []

/--
The conversation of a connection so far: finished rounds, each with the
response that its request called for, and what has been said about the
request that the connection works on.
-/
def Told
    (s : Server) (events : List (ℕ × Talk)) (k : ℕ) (c : Connection) :
    Prop :=
  ∃ (rounds : List Round) (left : List Talk),
    conversation k events = rounds.flatMap Round.talk ++ left ∧
      c.exchanges =
        rounds.map (fun round => (round.request, round.response)) ∧
      (∀ round ∈ rounds,
        due s.bufferSize s.sampleRate round.request round.outcome =
          some round.response) ∧
      Pending s c.phase left

/-- All connections keep to their conversations; the others are silent. -/
structure AllTold (s : Server) (events : List (ℕ × Talk)) : Prop where
  told :
    ∀ k c, s.connections k = some c → Told s events k c
  silent : ∀ k, s.connections k = none → conversation k events = []

/-- Another task's step leaves what was said as it is. -/
theorem Pending.stable
    {s next : Server} {action : Action} (move : Move s action next)
    {phase : Phase} {left : List Talk} (pending : Pending s phase left) :
    Pending next phase left := by
  cases phase with
  | openLockHandles id sel h =>
      rcases pending with ⟨receiver, known, said⟩
      rcases receivers_kept move known with ⟨later, knows, samePort, _⟩
      exact ⟨later, knows, by rw [samePort]; exact said⟩
  | _ => exact pending

/-- A connection that did not take the step. -/
theorem Told.stable
    {s next : Server} {action : Action} (move : Move s action next)
    {events : List (ℕ × Talk)} {k : ℕ} {c : Connection}
    (different : connectionOf action ≠ some k)
    (told : Told s events k c) :
    Told next (events ++ talk s action) k c := by
  rcases told with ⟨rounds, left, said, exchanged, answers, pending⟩
  rcases announced_constant move with ⟨sameSize, sameRate⟩
  refine ⟨rounds, left, ?_, exchanged, ?_, pending.stable move⟩
  · rw [conversation_append, conversation_of_ne s different,
      List.append_nil, said]
  · rw [sameSize, sameRate]
    exact answers

/-- A connection that went on with its request. -/
theorem Told.continued
    {s next : Server} {action : Action} (move : Move s action next)
    {events : List (ℕ × Talk)} {k : ℕ} {c later : Connection}
    {said : List Talk} {phase : Phase} (told : Told s events k c)
    (working : c.phase = phase)
    (adds : conversation k (talk s action) = said)
    (sameExchanges : later.exchanges = c.exchanges)
    (goesOn :
      ∀ left,
        Pending s phase left →
          Pending next later.phase (left ++ said)) :
    Told next (events ++ talk s action) k later := by
  subst working
  rcases told with ⟨rounds, left, before, exchanged, answers, pending⟩
  rcases announced_constant move with ⟨sameSize, sameRate⟩
  refine ⟨rounds, left ++ said, ?_, ?_, ?_, goesOn left pending⟩
  · rw [conversation_append, adds, before, List.append_assoc]
  · rw [sameExchanges, exchanged]
  · rw [sameSize, sameRate]
    exact answers

/-- A connection that answered its request. -/
theorem Told.closed
    {s next : Server} {action : Action} (move : Move s action next)
    {events : List (ℕ × Talk)} {k : ℕ} {c : Connection}
    {request : ControlRequest} {response : ControlResponse}
    {phase : Phase} (told : Told s events k c)
    (working : c.phase = phase) (outcome : Outcome)
    (adds : conversation k (talk s action) = [.answered response])
    (calledFor :
      due s.bufferSize s.sampleRate request outcome = some response)
    (closes :
      ∀ left,
        Pending s phase left →
          left = [.asked request, .settled outcome]) :
    Told next (events ++ talk s action) k (c.answered request response) := by
  subst working
  rcases told with ⟨rounds, left, before, exchanged, answers, pending⟩
  rcases announced_constant move with ⟨sameSize, sameRate⟩
  refine ⟨rounds ++ [⟨request, outcome, response⟩], [], ?_, ?_, ?_, rfl⟩
  · rw [conversation_append, adds, before, closes left pending]
    simp [Round.talk]
  · simp [Connection.answered, exchanged]
  · rw [sameSize, sameRate]
    intro round member
    rcases List.mem_append.mp member with old | new
    · exact answers round old
    · cases List.mem_singleton.mp new
      exact calledFor

/-- A connection that was just accepted. -/
theorem Told.accepted
    {s next : Server} {events : List (ℕ × Talk)} {k : ℕ}
    (silent : conversation k events = []) :
    Told next (events ++ talk s (.accept k)) k .accepted := by
  refine ⟨[], [], ?_, rfl, ?_, rfl⟩
  · rw [conversation_append, silent]
    rfl
  · intro round member
    cases member

/--
The callback succeeds, a `Stop` finds its receiver running, and responses can
be sent.
-/
def GoesWell (s : Server) : Action → Prop
  | .callbackError _ _ => False
  | .stop k =>
      ∀ id h receiver,
        phaseOf s k = .closeStop id h →
          s.receivers h = some receiver → receiver.Running
  | .respond _ sent => sent = true
  | _ => True

/-- What the connection that takes the step says. -/
theorem conversation_settled
    (k : ℕ) (outcome : Option Outcome) :
    conversation k
        ((outcome.toList.map .settled).map fun said => (k, said)) =
      outcome.toList.map .settled :=
  conversation_own k _

theorem conversation_answered
    (k : ℕ) (response : Option ControlResponse) :
    conversation k
        ((response.toList.map .answered).map fun said => (k, said)) =
      response.toList.map .answered :=
  conversation_own k _

/-- The connection that takes the step, and with what it goes well. -/
theorem Told.own
    {s next : Server} {action : Action} (move : Move s action next)
    (well : GoesWell s action) {events : List (ℕ × Talk)} {k : ℕ}
    (mine : connectionOf action = some k) {later : Connection}
    (there : next.connections k = some later)
    (told : ∀ c, s.connections k = some c → Told s events k c)
    (silent : s.connections k = none → conversation k events = []) :
    Told next (events ++ talk s action) k later := by
  cases move with
  | accept unused =>
      cases mine
      cases connection_moved there rfl
      exact Told.accepted (silent unused)
  | requestOpen here reading fresh =>
      cases mine
      cases connection_moved there rfl
      refine (told _ here).continued (.requestOpen here reading fresh) reading
        (conversation_own k [_]) rfl ?_
      rintro left rfl
      rfl
  | requestClose here reading =>
      cases mine
      cases connection_moved there rfl
      refine (told _ here).continued (.requestClose here reading) reading
        (conversation_own k [_]) rfl ?_
      rintro left rfl
      rfl
  | readErrorCurrent here reading current =>
      cases mine
      cases connection_moved there rfl
      refine (told _ here).continued (.readErrorCurrent here reading current)
        reading rfl rfl ?_
      rintro left rfl
      rfl
  | readErrorNone here reading current =>
      cases mine
      cases connection_moved there rfl
      refine (told _ here).continued (.readErrorNone here reading current)
        reading rfl rfl ?_
      rintro left rfl
      rfl
  | lockMixer here waiting free =>
      cases mine
      cases connection_moved there rfl
      refine (told _ here).continued (.lockMixer here waiting free) waiting
        rfl rfl ?_
      rintro left rfl
      rfl
  | @callbackOk _ h port c id sel here calling unused =>
      cases mine
      cases connection_moved there rfl
      refine (told _ here).continued (.callbackOk here calling unused) calling
        (conversation_settled k _) rfl ?_
      rintro left rfl
      rw [phaseOf_eq here, calling]
      exact
        ⟨.spawned sel port, by simp [Server.setConnection, Server.setReceiver],
          rfl⟩
  | callbackError here calling => cases well
  | insert here waiting free =>
      cases mine
      cases connection_moved there rfl
      refine (told _ here).continued (.insert here waiting free) waiting
        (conversation_settled k _) rfl ?_
      rintro left ⟨receiver, known, rfl⟩
      rw [phaseOf_eq here, waiting]
      simp [Connection.inserted, Pending, Server.portOf, known, lookedUpAt]
  | takeOut here waiting free found =>
      cases mine
      cases connection_moved there rfl
      refine (told _ here).continued (.takeOut here waiting free found) waiting
        (conversation_settled k _) rfl ?_
      rintro left rfl
      rw [phaseOf_eq here, waiting]
      simp [Connection.goTo, Pending, lookedUpAt, found]
  | notFound here waiting free missing =>
      cases mine
      cases connection_moved there rfl
      refine (told _ here).continued (.notFound here waiting free missing)
        waiting (conversation_settled k _) rfl ?_
      rintro left rfl
      rw [phaseOf_eq here, waiting]
      simp [Connection.goTo, Pending, lookedUpAt, missing]
  | removeHandle here waiting free =>
      cases mine
      cases connection_moved there rfl
      refine (told _ here).continued (.removeHandle here waiting free) waiting
        (conversation_settled k _) rfl ?_
      rintro left rfl
      rw [phaseOf_eq here, waiting]
      rfl
  | log here waiting free =>
      cases mine
      cases connection_moved there rfl
      refine (told _ here).continued (.log here waiting free) waiting
        (conversation_settled k _) rfl ?_
      rintro left rfl
      rw [phaseOf_eq here, waiting]
      rfl
  | stopSent here stopping there' running room =>
      cases mine
      cases connection_moved there rfl
      refine
        (told _ here).continued (.stopSent here stopping there' running room)
          stopping rfl rfl ?_
      rintro left rfl
      rfl
  | stopPanic here stopping there' gone =>
      cases mine
      exact
        (gone
          (well _ _ _ ((phaseOf_eq here).trans stopping) there')).elim
  | respondStream here responding =>
      cases mine
      cases connection_moved there rfl
      refine
        (told _ here).closed (.respondStream here responding) responding
          (.opened _ _) ?_ rfl ?_
      · refine (conversation_answered k _).trans ?_
        rw [phaseOf_eq here, responding]
        rfl
      · exact fun left pending => pending
  | respondStreamFailed here responding => cases well
  | respondOk here responding =>
      cases mine
      cases connection_moved there rfl
      refine
        (told _ here).closed (.respondOk here responding) responding
          .found ?_ rfl ?_
      · refine (conversation_answered k _).trans ?_
        rw [phaseOf_eq here, responding]
        rfl
      · exact fun left pending => pending
  | respondOkFailed here responding => cases well
  | respondNotFound here responding =>
      cases mine
      cases connection_moved there rfl
      refine
        (told _ here).closed (.respondNotFound here responding) responding
          .missing ?_ rfl ?_
      · refine (conversation_answered k _).trans ?_
        rw [phaseOf_eq here, responding]
        rfl
      · exact fun left pending => pending
  | respondNotFoundFailed here responding => cases well
  | datagram there receiving => cases mine
  | receiverLock there waiting free => cases mine
  | played there playing => cases mine
  | takeStop there running waiting => cases mine

/-- The step lemma: conversations are kept by the steps that go well. -/
theorem AllTold.step
    {s next : Server} {action : Action} {events : List (ℕ × Talk)}
    (well : GoesWell s action) (enabled : s.step action = some next)
    (all : AllTold s events) :
    AllTold next (events ++ talk s action) := by
  have move := Server.step_move enabled
  constructor
  · intro k c there
    by_cases mine : connectionOf action = some k
    · exact Told.own move well mine there (all.told k) (all.silent k)
    · rw [connections_of_ne move mine] at there
      exact (all.told k c there).stable move mine
  · intro k unused
    by_cases mine : connectionOf action = some k
    · cases move with
      | datagram there receiving => cases mine
      | receiverLock there waiting free => cases mine
      | played there playing => cases mine
      | takeStop there running waiting => cases mine
      | _ =>
          cases mine
          simp [Server.setConnection] at unused
    · rw [connections_of_ne move mine] at unused
      rw [conversation_append, conversation_of_ne s mine,
        all.silent k unused]
      rfl

theorem AllTold.start (bufferSize sampleRate : ℕ) :
    AllTold (.start bufferSize sampleRate) [] where
  told := fun _ _ here => nomatch here
  silent := fun _ _ => rfl

/-! ## Every request is answered once -/

/--
The connection has answered every request before it read the next one, each
once and with the response it called for, and its task has not panicked.
-/
def AnsweredInTurn
    (s : Server) (events : List (ℕ × Talk)) (k : ℕ) (c : Connection) :
    Prop :=
  Told s events k c ∧ c.phase ≠ .panicked

/-- No task panics in the steps that go well. -/
theorem not_panicked_step
    {s next : Server} {action : Action} (move : Move s action next)
    (well : GoesWell s action)
    (before : ∀ k c, s.connections k = some c → c.phase ≠ .panicked)
    {k : ℕ} {c : Connection} (there : next.connections k = some c) :
    c.phase ≠ .panicked := by
  by_cases mine : connectionOf action = some k
  · cases move with
    | callbackError here calling => cases well
    | stopPanic here stopping there' gone =>
        exact
          (gone
            (well _ _ _ ((phaseOf_eq here).trans stopping) there')).elim
    | respondOkFailed here responding => cases well
    | respondNotFoundFailed here responding => cases well
    | datagram there' receiving => cases mine
    | receiverLock there' waiting free => cases mine
    | played there' playing => cases mine
    | takeStop there' running waiting => cases mine
    | _ =>
        cases mine
        simp only [Server.setConnection, Function.update_self,
          Option.some.injEq] at there
        subst there
        intro equal
        cases equal
  · rw [connections_of_ne move mine] at there
    exact before k c there

/-- Conversations are kept in every run whose steps all go well. -/
theorem answeredInTurn_of_goesWell
    {bufferSize sampleRate : ℕ} {actions : List Action} {s : Server}
    (run :
      GuardedRun Server.step GoesWell (.start bufferSize sampleRate)
        actions s)
    {k : ℕ} {c : Connection} (here : s.connections k = some c) :
    AnsweredInTurn s
      (trace Server.step talk (.start bufferSize sampleRate) actions) k
      c := by
  constructor
  · have stepKeeps :
        ∀ {events : List (ℕ × Talk)} {state next : Server}
          {action : Action},
          GoesWell state action → state.step action = some next →
            AllTold state events →
            AllTold next (events ++ talk state action) :=
      AllTold.step
    have all :=
      trace_preserves @stepKeeps run
        (AllTold.start bufferSize sampleRate)
    exact all.told k c here
  · have stepKeeps :
        ∀ {state next : Server} {action : Action},
          GoesWell state action → state.step action = some next →
            (∀ k c, state.connections k = some c → c.phase ≠ .panicked) →
            ∀ k c, next.connections k = some c → c.phase ≠ .panicked :=
      fun well enabled before k c there =>
        not_panicked_step (Server.step_move enabled) well before there
    have alive := run.preserves @stepKeeps fun k c there => nomatch there
    exact alive k c here

/-- Responses can be sent. -/
def ResponsesSent (_s : Server) : Action → Prop
  | .respond _ sent => sent = true
  | _ => True

/-- A task has panicked. -/
def SomePanicked (s : Server) : Prop :=
  ∃ k c, s.connections k = some c ∧ c.phase = .panicked

/-- A step that does not go well although its response is sent. -/
theorem panics_unless_goesWell
    {s next : Server} {action : Action} (move : Move s action next)
    (sent : ResponsesSent s action) (ill : ¬ GoesWell s action) :
    SomePanicked next := by
  cases move with
  | callbackError here calling =>
      exact ⟨_, _, Server.setConnection_connections_self _ _ _, rfl⟩
  | stopPanic here stopping there gone =>
      exact ⟨_, _, Server.setConnection_connections_self _ _ _, rfl⟩
  | stopSent here stopping there running room =>
      refine (ill ?_).elim
      intro id h receiver phase known
      rw [phaseOf_eq here, stopping] at phase
      cases phase
      cases there.symm.trans known
      exact running
  | respondStreamFailed here responding => cases sent
  | respondOkFailed here responding => cases sent
  | respondNotFoundFailed here responding => cases sent
  | respondStream here responding => exact (ill rfl).elim
  | respondOk here responding => exact (ill rfl).elim
  | respondNotFound here responding => exact (ill rfl).elim
  | _ => exact (ill trivial).elim

/-- A panicked task takes no step. -/
theorem panicked_takes_no_step
    {s next : Server} {action : Action} (move : Move s action next)
    {k : ℕ} {c : Connection} (here : s.connections k = some c)
    (panicked : c.phase = .panicked) :
    connectionOf action ≠ some k := by
  intro mine
  have stands :
      ∀ {c' : Connection} {phase : Phase},
        s.connections k = some c' → c'.phase = phase →
          phase = .panicked := by
    intro c' phase here' stands
    cases here.symm.trans here'
    exact stands.symm.trans panicked
  cases move with
  | accept unused =>
      cases mine
      rw [here] at unused
      cases unused
  | requestOpen here' reading _ =>
      cases mine
      cases stands here' reading
  | requestClose here' reading =>
      cases mine
      cases stands here' reading
  | readErrorCurrent here' reading _ =>
      cases mine
      cases stands here' reading
  | readErrorNone here' reading _ =>
      cases mine
      cases stands here' reading
  | lockMixer here' waiting _ =>
      cases mine
      cases stands here' waiting
  | callbackOk here' calling _ =>
      cases mine
      cases stands here' calling
  | callbackError here' calling =>
      cases mine
      cases stands here' calling
  | insert here' waiting _ =>
      cases mine
      cases stands here' waiting
  | takeOut here' waiting _ _ =>
      cases mine
      cases stands here' waiting
  | notFound here' waiting _ _ =>
      cases mine
      cases stands here' waiting
  | removeHandle here' waiting _ =>
      cases mine
      cases stands here' waiting
  | log here' waiting _ =>
      cases mine
      cases stands here' waiting
  | stopSent here' stopping _ _ _ =>
      cases mine
      cases stands here' stopping
  | stopPanic here' stopping _ _ =>
      cases mine
      cases stands here' stopping
  | respondStream here' responding =>
      cases mine
      cases stands here' responding
  | respondStreamFailed here' responding =>
      cases mine
      cases stands here' responding
  | respondOk here' responding =>
      cases mine
      cases stands here' responding
  | respondOkFailed here' responding =>
      cases mine
      cases stands here' responding
  | respondNotFound here' responding =>
      cases mine
      cases stands here' responding
  | respondNotFoundFailed here' responding =>
      cases mine
      cases stands here' responding
  | datagram there receiving => cases mine
  | receiverLock there waiting free => cases mine
  | played there playing => cases mine
  | takeStop there running waiting => cases mine

/-- A panicked task stays panicked. -/
theorem SomePanicked.step
    {s next : Server} {action : Action}
    (enabled : s.step action = some next) (panicked : SomePanicked s) :
    SomePanicked next := by
  rcases panicked with ⟨k, c, here, stands⟩
  have move := Server.step_move enabled
  have idle := panicked_takes_no_step move here stands
  exact ⟨k, c, by rw [connections_of_ne move idle]; exact here, stands⟩

/--
In a run whose responses can be sent, all connections have answered their
requests in turn, and none has panicked, exactly when every callback has
succeeded and every `Stop` has found its receiver running.
-/
theorem requests_answered_in_turn_iff
    (bufferSize sampleRate : ℕ) {actions : List Action} {s : Server}
    (run :
      GuardedRun Server.step ResponsesSent (.start bufferSize sampleRate)
        actions s) :
    (∀ k c,
        s.connections k = some c →
          AnsweredInTurn s
            (trace Server.step talk (.start bufferSize sampleRate) actions)
            k c) ↔
      GuardedRun Server.step GoesWell (.start bufferSize sampleRate)
        actions s := by
  constructor
  · intro answered
    have sound : ¬ SomePanicked s := by
      rintro ⟨k, c, here, panicked⟩
      exact (answered k c here).2 panicked
    exact
      run.ofUnbroken
        (fun sent enabled ill =>
          panics_unless_goesWell (Server.step_move enabled) sent ill)
        (fun _ enabled panicked => panicked.step enabled) sound
  · intro well k c here
    exact answeredInTurn_of_goesWell well here

/-- A stream is opened and closed. -/
def openedAndClosed (id : Uuid) : List Action :=
  [.accept 0, .request 0 (.openStream (.mono 0)) id, .lockMixer 0,
    .callbackOk 0 0 40000, .lockHandles 0, .respond 0 true,
    .request 0 (.closeStream id) id, .lockHandles 0, .stop 0,
    .respond 0 true]

theorem requests_answered_in_turn_iff_openedAndClosed :
    ∃ s,
      execute Server.step (.start 256 48000) (openedAndClosed .nil) =
          some s ∧
        ∀ k c,
          s.connections k = some c →
            AnsweredInTurn s
              (trace Server.step talk (.start 256 48000)
                (openedAndClosed .nil))
              k c := by
  have wellSent : ∀ s k, GoesWell s (.respond k true) :=
    fun _ _ => rfl
  have sent : ∀ s k, ResponsesSent s (.respond k true) :=
    fun _ _ => rfl
  refine ⟨_, rfl, ?_⟩
  apply
    (@requests_answered_in_turn_iff 256 48000 (openedAndClosed .nil) _
      ?_).mpr
  · unfold openedAndClosed
    apply GuardedRun.next trivial rfl
    apply GuardedRun.next trivial rfl
    apply GuardedRun.next trivial rfl
    apply GuardedRun.next trivial rfl
    apply GuardedRun.next trivial rfl
    apply GuardedRun.next (wellSent _ _) rfl
    apply GuardedRun.next trivial rfl
    apply GuardedRun.next trivial rfl
    refine GuardedRun.next ?_ rfl ?_
    · intro id h receiver phase known
      cases phase
      cases known
      decide
    apply GuardedRun.next (wellSent _ _) rfl
    exact .done _
  · unfold openedAndClosed
    apply GuardedRun.next trivial rfl
    apply GuardedRun.next trivial rfl
    apply GuardedRun.next trivial rfl
    apply GuardedRun.next trivial rfl
    apply GuardedRun.next trivial rfl
    apply GuardedRun.next (sent _ _) rfl
    apply GuardedRun.next trivial rfl
    apply GuardedRun.next trivial rfl
    apply GuardedRun.next trivial rfl
    apply GuardedRun.next (sent _ _) rfl
    exact .done _

/-- A request whose callback fails. -/
def callbackFails (id : Uuid) : List Action :=
  [.accept 0, .request 0 (.openStream (.mono 0)) id, .lockMixer 0,
    .callbackError 0 .castingError]

/-- A stream is closed whose receiver has ended at a bad datagram. -/
def endedStreamClosed (id : Uuid) : List Action :=
  [.accept 0, .request 0 (.openStream (.mono 0)) id, .lockMixer 0,
    .callbackOk 0 0 40000, .lockHandles 0, .respond 0 true,
    .datagram 0 false, .request 0 (.closeStream id) id, .lockHandles 0,
    .stop 0]

/-- Either way the last request is never answered. -/
theorem request_not_answered :
    (∃ s c,
        execute Server.step (.start 256 48000) (callbackFails .nil) =
            some s ∧
          s.connections 0 = some c ∧ c.exchanges = [] ∧
          ¬ AnsweredInTurn s
            (trace Server.step talk (.start 256 48000)
              (callbackFails .nil))
            0 c) ∧
      ∃ s c,
        execute Server.step (.start 256 48000) (endedStreamClosed .nil) =
            some s ∧
          s.connections 0 = some c ∧ c.exchanges.length = 1 ∧
          ¬ AnsweredInTurn s
            (trace Server.step talk (.start 256 48000)
              (endedStreamClosed .nil))
            0 c :=
  ⟨⟨_, _, rfl, rfl, rfl, fun answered => answered.2 rfl⟩, _, _, rfl, rfl,
    rfl, fun answered => answered.2 rfl⟩

end Audiopipe.Control.RequestLedger
