import Audiopipe.Control.ServerSettles
import Audiopipe.Session.GrantedSenders

/-!
# The handshake can be completed

What the other peers have set off on the server, the server can bring to an
end, so nothing that they do keeps a client from its answer.  Only the end of
the connection does, if it comes before the answer has been sent.
-/

namespace Audiopipe.Session.HandshakeProgress

open Audiopipe.Foundation.GuardedRuns
open Audiopipe.Control
open Audiopipe.Control.Messages
open Audiopipe.Control.ServerTasks
open Audiopipe.Control.RequestLedger
open Audiopipe.Control.ServerSettles
open Audiopipe.Streamer.PacketFormat
open Audiopipe.Session.AudioPath
open Audiopipe.Session.ClientTasks
open Audiopipe.Session.ControlNetwork
open Audiopipe.Session.StreamGrants
open Audiopipe.Session.GrantedSenders

/-! ## The server's side -/

section Server

variable {s next : Server} {action : ServerTasks.Action} {k : ℕ}

/-- The connection is over or is being cleaned up. -/
def GivenUp : Phase → Prop
  | .removeLockHandles _ | .logLockHandles | .ended | .panicked => True
  | _ => False

/-- A request is awaited, or a stream is being opened. -/
def ServingPhase : Phase → Prop
  | .reading | .openLockMixer _ _ | .openCallback _ _
  | .openLockHandles _ _ _ | .openRespond _ _ _ => True
  | _ => False

def Serving (s : Server) (k : ℕ) : Prop :=
  ∃ c, s.connections k = some c ∧ ServingPhase c.phase

theorem serving_of_opening {c : Connection} (working : Opening s c)
    (kept : ¬ GivenUp c.phase) :
    ServingPhase c.phase := by
  cases phase : c.phase with
  | openLockMixer | openCallback | openLockHandles | openRespond => trivial
  | logLockHandles | ended | panicked =>
      rw [phase] at kept
      exact (kept trivial).elim
  | _ =>
      rw [Opening, phase] at working
      exact working.elim

theorem serving_of_idle {phase : Phase} (idle : Idle phase)
    (kept : ¬ GivenUp phase) :
    ServingPhase phase := by
  cases phase with
  | reading => trivial
  | removeLockHandles | logLockHandles | ended =>
      exact (kept trivial).elim
  | _ => exact idle.elim

/-- Without a failure the server goes on serving the connection. -/
theorem Serving.step (smooth : SmoothOwn s action)
    (enabled : s.step action = some next) (serving : Serving s k) :
    Serving next k := by
  rcases serving with ⟨c, here, phase⟩
  have move := Server.step_move enabled
  by_cases mine : connectionOf action = some k
  · have goesOn :
        ∀ {server : Server} {moved : Connection},
          server.connections =
              Function.update s.connections k (some moved) →
            ServingPhase moved.phase → Serving server k := by
      intro server moved connections place
      exact ⟨moved, by rw [connections, Function.update_self], place⟩
    have elsewhere :
        ∀ {other : Connection} {place : Phase},
          s.connections k = some other → other.phase = place →
            ¬ ServingPhase place → Serving next k := by
      intro other place there stands outside
      cases here.symm.trans there
      exact (outside (stands ▸ phase)).elim
    cases move with
    | accept unused =>
        exact smooth.1.elim
    | requestOpen | requestClose | readErrorCurrent | readErrorNone =>
        exact smooth.1.elim
    | lockMixer there waiting free =>
        cases mine
        exact goesOn rfl trivial
    | callbackOk there calling unused =>
        cases mine
        exact goesOn rfl trivial
    | callbackError there calling => exact smooth.2.elim
    | insert there waiting free =>
        cases mine
        exact goesOn rfl trivial
    | takeOut there waiting free found =>
        cases mine
        exact elsewhere there waiting id
    | notFound there waiting free missing =>
        cases mine
        exact elsewhere there waiting id
    | removeHandle there waiting free =>
        cases mine
        exact elsewhere there waiting id
    | log there waiting free =>
        cases mine
        exact elsewhere there waiting id
    | stopSent there stopping receiving running room =>
        cases mine
        exact elsewhere there stopping id
    | stopPanic there stopping receiving gone =>
        cases mine
        exact elsewhere there stopping id
    | respondStream there responding =>
        cases mine
        exact goesOn rfl trivial
    | respondOk there responding =>
        cases mine
        exact elsewhere there responding id
    | respondNotFound there responding =>
        cases mine
        exact elsewhere there responding id
    | respondStreamFailed | respondOkFailed | respondNotFoundFailed =>
        exact smooth.2.elim
    | datagram | receiverLock | played | takeStop => cases mine
  · exact ⟨c, (connections_of_ne move mine).trans here, phase⟩

/-- A connection that has been given up stays so, and sends nothing. -/
theorem givenUp_step (enabled : s.step action = some next)
    {c : Connection} (here : s.connections k = some c)
    (past : GivenUp c.phase) :
    given s action k = [] ∧
      ∃ later, next.connections k = some later ∧ GivenUp later.phase := by
  have move := Server.step_move enabled
  by_cases mine : connectionOf action = some k
  · have elsewhere :
        ∀ {other : Connection} {place : Phase},
          s.connections k = some other → other.phase = place →
            ¬ GivenUp place →
              given s action k = [] ∧
                ∃ later,
                  next.connections k = some later ∧
                    GivenUp later.phase := by
      intro other place there stands outside
      cases here.symm.trans there
      exact (outside (stands ▸ past)).elim
    cases move with
    | accept unused =>
        cases mine
        cases unused.symm.trans here
    | removeHandle there waiting free =>
        cases mine
        exact
          ⟨rfl, _, Function.update_self .., trivial⟩
    | log there waiting free =>
        cases mine
        exact
          ⟨rfl, _, Function.update_self .., trivial⟩
    | datagram | receiverLock | played | takeStop => cases mine
    | requestOpen there waiting | requestClose there waiting
    | readErrorCurrent there waiting | readErrorNone there waiting
    | lockMixer there waiting | callbackOk there waiting
    | callbackError there waiting | insert there waiting
    | takeOut there waiting | notFound there waiting
    | stopSent there waiting | stopPanic there waiting
    | respondStream there waiting | respondStreamFailed there waiting
    | respondOk there waiting | respondOkFailed there waiting
    | respondNotFound there waiting
    | respondNotFoundFailed there waiting =>
        cases mine
        exact elsewhere there waiting id
  · exact
      ⟨(nothing_passed s mine).2, c,
        (connections_of_ne move mine).trans here, past⟩

/-- Its own steps read no request. -/
theorem taken_of_own (own : Internal s action) : taken action k = [] := by
  cases action with
  | request => exact own.elim
  | _ => rfl

/-- The answer of the server to the client on connection `k`. -/
def Granted (s : Server) (k : ℕ) : Prop :=
  ∃ c id port,
    s.connections k = some c ∧
      c.exchanges =
        [(.openStream streamSelector,
          .stream id port s.bufferSize s.sampleRate)]

/-- A connection that is served, and whose request has been read, is answered
without a failure. -/
theorem grants_smoothly
    {bufferSize sampleRate : ℕ} {actions : List ServerTasks.Action}
    (run : Run Server.step (.start bufferSize sampleRate) actions s)
    (serving : Serving s k) {answers : List ControlResponse}
    (served : Served s k [] answers) :
    ∃ own later,
      GuardedRun Server.step SmoothOwn s own later ∧ Granted later k := by
  rcases rests_smoothly run with ⟨own, later, ownRun, rest⟩
  refine ⟨own, later, ownRun, ?_⟩
  have kept :
      Serving later k ∧ ∃ answers, Served later k [] answers := by
    refine
      @GuardedRun.preserves _ _ _ _
        (fun s => Serving s k ∧ ∃ answers, Served s k [] answers)
        ?_ _ _ _ ownRun ⟨serving, answers, served⟩
    rintro state next action smooth enabled ⟨serving, answers, served⟩
    refine ⟨serving.step smooth enabled, ?_⟩
    have read : Served state k (taken action k ++ []) answers := by
      rw [taken_of_own smooth.1]
      exact served
    exact ⟨_, read.step enabled⟩
  rcases kept with ⟨⟨c, here, phase⟩, answers, served⟩
  have reading : c.phase = .reading := by
    have resting := rest.connections k c here
    revert phase resting
    cases c.phase <;> simp [ServingPhase, Resting]
  cases served with
  | opening c' here' exchanges working =>
      cases here.symm.trans here'
      rw [Opening, reading] at working
      exact working.elim
  | granted id port c' here' exchanges own listens idle =>
      exact ⟨c', id, port, here', exchanges⟩

end Server

/-! ## The network -/

section Network

variable {channels sizes : ℕ → ℕ} {peers : ℕ → Peer}
variable {s next : Network channels} {k : ℕ}

/-- Only connections that have been made are accepted. -/
def Joined (s : Network channels) : Prop :=
  ∀ k, s.server.connections k ≠ none → s.wires k ≠ none

theorem Joined.step {action : NetworkAction channels sizes}
    (enabled : s.step peers action = some next) (joined : Joined s) :
    Joined next := by
  have made :
      ∀ (j : ℕ) (wire : Wire) {k : ℕ}, s.wires k ≠ none →
        Function.update s.wires j (some wire) k ≠ none := by
    intro j wire k there
    by_cases here : k = j
    · subst here
      simp
    · simpa [here] using there
  cases Network.step_move enabled with
  | other j wire stranger =>
      exact fun k accepted => made j wire (joined k accepted)
  | connected j config program apart connecting =>
      exact fun k accepted => made j _ (joined k accepted)
  | served action server wires stepped joins passed =>
      intro k accepted
      refine (passed k).made ?_
      by_cases unused : s.server.connections k = none
      · by_contra unmade
        refine accepted (unused_step unused ?_ stepped)
        exact fun accepts => joins k accepts unmade
      · exact joined k unused
  | moved j size config action client wires program joins stepped passed
      others =>
      intro k accepted
      have there := joined k accepted
      by_cases here : k = j
      · subst here
        exact passed.made there
      · exact ne_of_eq_of_ne (others k here) there

/-- A smooth step of the server is a step of the network. -/
theorem lifts_step {action : ServerTasks.Action} {server : Server}
    (joined : Joined s) (smooth : SmoothOwn s.server action)
    (enabled : s.server.step action = some server) :
    ∃ (lifted : NetworkAction channels sizes) (next : Network channels),
      s.step peers lifted = some next ∧ next.server = server ∧
        next.clients = s.clients := by
  have alone :
      serverAlone action = true →
        ∃ (lifted : NetworkAction channels sizes)
          (next : Network channels),
          s.step peers lifted = some next ∧ next.server = server ∧
            next.clients = s.clients := by
    intro alone
    refine ⟨.server action, { s with server := server }, ?_, rfl, rfl⟩
    simp [Network.step, Network.onServer, alone, enabled]
  cases action with
  | respond k sent =>
      cases sent with
      | false => exact smooth.2.elim
      | true =>
          have answer :
              ∃ c,
                s.server.connections k = some c ∧
                  (responseAt s.server c.phase).isSome := by
            cases Server.step_move enabled with
            | respondStream here responding
            | respondOk here responding
            | respondNotFound here responding =>
                exact ⟨_, here, by rw [responding]; rfl⟩
          rcases answer with ⟨c, here, responding⟩
          rw [← phaseOf_eq here] at responding
          rcases Option.isSome_iff_exists.mp responding with
            ⟨response, responding⟩
          have made := joined k (by rw [here]; exact Option.some_ne_none c)
          rcases Option.ne_none_iff_exists'.mp made with ⟨wire, made⟩
          refine
            ⟨.sendResponse k,
              ({ s with server := server } : Network channels).setWire k
                ⟨wire.requests, wire.responses ++ [response]⟩,
              ?_, rfl, rfl⟩
          simp [Network.step, made, responding, Network.onServer, enabled]
  | accept | request | readError | datagram => exact smooth.1.elim
  | _ => exact alone rfl

/-- So is a run. -/
theorem lifts_run {own : List ServerTasks.Action} {server later : Server}
    (run : GuardedRun Server.step SmoothOwn server own later)
    (joined : Joined s) (same : s.server = server) :
    ∃ actions next,
      Run (@Network.step channels sizes peers) s actions next ∧
        next.server = later ∧ next.clients = s.clients := by
  induction run generalizing s with
  | done server => exact ⟨[], s, .done s, same, rfl⟩
  | next allowed enabled rest induction =>
      subst same
      rcases lifts_step joined allowed enabled with
        ⟨action, middle, stepped, reached, clients⟩
      rcases induction (joined.step stepped) reached with
        ⟨actions, next, run, finished, unmoved⟩
      exact
        ⟨action :: actions, next, .next trivial stepped run, finished,
          unmoved.trans clients⟩

/-- What a client has to read is a stream, so it starts its sender. -/
theorem starts_of_answer {bufferSize sampleRate : ℕ}
    {config : TcpClient} (program : peers k = .client config)
    (waiting : (s.clients k).client = .waiting .reading)
    {requests : List ControlRequest} {id : Uuid} {port : UInt16}
    {rest : List ControlResponse}
    (arrived :
      s.wires k =
        some ⟨requests, .stream id port bufferSize sampleRate :: rest⟩) :
    ∃ later,
      Run (@Network.step channels sizes peers) s
          [.readResponse k, .client k .senderStarted] later ∧
        (later.clients k).started = (s.clients k).started + 1 := by
  have executed :
      (execute (@Network.step channels sizes peers) s
          [.readResponse k, .client k .senderStarted]).map
          (fun later => (later.clients k).started) =
        some ((s.clients k).started + 1) := by
    simp [execute, Network.step, arrived, program, Network.onClient,
      Client.step, waiting, clientStep, Network.setWire, clientAlone]
  rcases Option.map_eq_some_iff.mp executed with ⟨later, went, started⟩
  exact ⟨later, execute_eq_some_iff.mp went, started⟩

/-- The server reads a request for a stream. -/
theorem reads_open {c : Connection} (joined : ∃ responses,
      s.wires k = some ⟨[.openStream streamSelector], responses⟩)
    (here : s.server.connections k = some c)
    (reading : c.phase = .reading)
    (served : Served s.server k [.openStream streamSelector] [])
    (unissued : ∃ id, id ∉ s.server.issued) :
    ∃ (action : NetworkAction channels sizes) (next : Network channels),
      s.step peers action = some next ∧ next.clients = s.clients ∧
        Serving next.server k ∧ Served next.server k [] [] := by
  rcases joined with ⟨responses, joined⟩
  rcases unissued with ⟨id, fresh⟩
  let server : Server :=
    { s.server.setConnection k
        (c.goTo (.openLockMixer id streamSelector)) with
      issued := id :: s.server.issued }
  have enabled :
      s.server.step (.request k (.openStream streamSelector) id) =
        some server := by
    simp [Server.step, here, Server.stepRequest, reading, fresh, server]
  have unread :
      Served s.server k
        (taken (.request k (.openStream streamSelector) id) k ++ []) [] := by
    simpa [taken] using served
  refine
    ⟨.readRequest k id,
      ({ s with server := server } : Network channels).setWire k
        ⟨[], responses⟩, ?_, rfl, ?_, unread.step enabled⟩
  · simp [Network.step, joined, Network.onServer, enabled]
  · exact
      ⟨_, Server.setConnection_connections_self s.server k _, trivial⟩

/-- A client that is still to start its sender finds the answer it was given. -/
theorem answer_waits {config : TcpClient} {server : Server}
    {channelCount : ℕ} {client : Client channelCount} {wire : Option Wire}
    (dialogue : Dialogue config server k client wire)
    (waiting : client.client = .waiting .reading)
    (unstarted : client.started = 0) (granted : Granted server k) :
    ∃ requests id port,
      wire =
        some
          ⟨requests,
            [.stream id port server.bufferSize server.sampleRate]⟩ := by
  rcases granted with ⟨c, id, port, here, exchanges⟩
  cases dialogue with
  | apart unused => cases unused.symm.trans here
  | joined requests answers responses served heard =>
      have read := heard.read
      rw [Read, waiting] at read
      rcases read with ⟨_, same⟩ | ⟨once, _⟩
      · cases served with
        | unread unused =>
            have none := (unused c here).2.1
            cases exchanges.symm.trans none
        | opening c' here' none working =>
            cases here.symm.trans here'
            cases exchanges.symm.trans none
        | granted id' port' c' here' exchanges' own listens idle =>
            exact ⟨[], id', port', by rw [same]⟩
      · exact (Nat.zero_ne_one (unstarted.symm.trans once)).elim

/-- The server gets as far as to serve the client. -/
theorem comes_to_serve {config : TcpClient}
    (dialogue : Dialogue config s.server k (s.clients k) (s.wires k))
    (waiting : (s.clients k).client = .waiting .reading)
    (kept : ∀ c, s.server.connections k = some c → ¬ GivenUp c.phase)
    (unissued : ∃ id, id ∉ s.server.issued) :
    ∃ actions middle,
      Run (@Network.step channels sizes peers) s actions middle ∧
        middle.clients = s.clients ∧ Serving middle.server k ∧
          ∃ answers, Served middle.server k [] answers := by
  generalize made : s.wires k = wire at dialogue
  cases dialogue with
  | apart unused unstarted place => simp [waiting] at place
  | joined requests answers responses served heard =>
      cases served with
      | unread unused =>
          cases here : s.server.connections k with
          | some c =>
              have reading : c.phase = .reading :=
                (unused c here).2.2.resolve_right fun ended =>
                  kept c here (by rw [ended]; trivial)
              rcases
                  reads_open ⟨responses, made⟩ here reading
                    (.unread unused) unissued with
                ⟨action, next, stepped, clients, serving, served⟩
              exact
                ⟨[action], next, .next trivial stepped (.done next),
                  clients, serving, [], served⟩
          | none =>
              let accepted : Network channels :=
                { s with server := s.server.setConnection k .accepted }
              have accepts :
                  s.step peers (.accept k : NetworkAction channels sizes) =
                    some accepted := by
                simp [Network.step, made, Network.onServer, Server.step,
                  here, accepted]
              have there :
                  accepted.server.connections k = some .accepted :=
                Server.setConnection_connections_self ..
              have fresh :
                  Served accepted.server k [.openStream streamSelector]
                    [] := by
                refine .unread fun c here => ?_
                cases there.symm.trans here
                exact ⟨rfl, rfl, .inl rfl⟩
              rcases
                  reads_open (s := accepted) ⟨responses, made⟩ there rfl
                    fresh unissued with
                ⟨action, next, stepped, clients, serving, served⟩
              exact
                ⟨[.accept k, action], next,
                  .next trivial accepts
                    (.next trivial stepped (.done next)),
                  clients, serving, [], served⟩
      | opening c here exchanges working =>
          exact
            ⟨[], s, .done s, rfl,
              ⟨c, here, serving_of_opening working (kept c here)⟩, [],
              .opening c here exchanges working⟩
      | granted id port c here exchanges own listens idle =>
          exact
            ⟨[], s, .done s, rfl,
              ⟨c, here, serving_of_idle idle (kept c here)⟩, _,
              .granted id port c here exchanges own listens idle⟩

/--
The server has given the connection up, and no answer is on its way.
-/
def Forsaken (s : Network channels) (k : ℕ) : Prop :=
  (∃ c, s.server.connections k = some c ∧ GivenUp c.phase) ∧
    ∀ wire, s.wires k = some wire → wire.responses = []

/-- A client that is not forsaken can still start its sender. -/
theorem can_start {bufferSize sampleRate : ℕ}
    (reachable :
      Reachable (@Network.step channels sizes peers)
        (.start channels bufferSize sampleRate) s)
    {config : TcpClient} (program : peers k = .client config)
    (waiting : (s.clients k).client = .waiting .reading)
    (unstarted : (s.clients k).started = 0)
    (unissued : ∃ id, id ∉ s.server.issued)
    (kept : ¬ Forsaken s k) :
    ∃ actions later,
      Run (@Network.step channels sizes peers) s actions later ∧
        (later.clients k).started = 1 := by
  have dialogue := (agreed_of_reachable reachable).dialogue k config program
  by_cases onWay : ∀ wire, s.wires k = some wire → wire.responses = []
  · have served :
        ∀ c, s.server.connections k = some c → ¬ GivenUp c.phase :=
      fun c here past => kept ⟨⟨c, here, past⟩, onWay⟩
    rcases comes_to_serve dialogue waiting served unissued with
      ⟨first, middle, firstRun, clients, serving, answers, served⟩
    have reached :
        Reachable (@Network.step channels sizes peers)
          (.start channels bufferSize sampleRate) middle := by
      rcases reachable with ⟨before, run⟩
      exact ⟨before ++ first, run.append firstRun⟩
    have joined : Joined middle :=
      reached.preserves (fun enabled => Joined.step enabled)
        fun _ accepted => (accepted rfl).elim
    rcases Network.server_reachable reached with ⟨_, serverRun⟩
    rcases grants_smoothly serverRun serving served with
      ⟨own, server, ownRun, granted⟩
    rcases lifts_run ownRun joined rfl with
      ⟨second, rested, secondRun, rfl, unmoved⟩
    have atRest :
        Reachable (@Network.step channels sizes peers)
          (.start channels bufferSize sampleRate) rested := by
      rcases reached with ⟨before, run⟩
      exact ⟨before ++ second, run.append secondRun⟩
    have same : rested.clients k = s.clients k := by
      rw [unmoved, clients]
    have later :=
      (agreed_of_reachable atRest).dialogue k config program
    rw [same] at later
    rcases answer_waits later waiting unstarted granted with
      ⟨requests, id, port, arrived⟩
    rcases
        starts_of_answer program (by rw [same]; exact waiting) arrived with
      ⟨last, lastRun, started⟩
    refine ⟨_, last, (firstRun.append secondRun).append lastRun, ?_⟩
    rw [started, same, unstarted]
  · push Not at onWay
    rcases onWay with ⟨⟨requests, responses⟩, made, some⟩
    cases responses with
    | nil => exact (some rfl).elim
    | cons response rest =>
        rw [made] at dialogue
        rcases dialogue.responses (List.mem_cons_self ..) with
          ⟨id, port, rfl⟩
        rcases starts_of_answer program waiting made with
          ⟨last, lastRun, started⟩
        exact ⟨_, last, lastRun, by rw [started, unstarted]⟩

/-- Nothing can be read any more, and no sender has been started. -/
structure Lost (s : Network channels) (k : ℕ) : Prop where
  past : ∃ c, s.server.connections k = some c ∧ GivenUp c.phase
  silent : ∃ requests, s.wires k = some ⟨requests, []⟩
  unstarted : (s.clients k).started = 0
  place :
    (s.clients k).client = .waiting .reading ∨
      ∃ result, (s.clients k).client = .ended result

/-- A client that has nothing to read starts no sender. -/
theorem lost_client {config : TcpClient} {channelCount bufferSize : ℕ}
    {client later : Client channelCount}
    {action : ClientTasks.Action channelCount bufferSize}
    (enabled : Client.step config client action = some later)
    (silent : heardBy action = []) (unstarted : client.started = 0)
    (place :
      client.client = .waiting .reading ∨
        ∃ result, client.client = .ended result) :
    later.started = 0 ∧
      (later.client = .waiting .reading ∨
        ∃ result, later.client = .ended result) := by
  cases step_turn enabled with
  | aside action later reads task started =>
      rw [started, task]
      exact ⟨unstarted, place⟩
  | task action later stepped started =>
      refine ⟨started.trans unstarted, ?_⟩
      rcases place with reading | ⟨result, past⟩
      · rw [reading] at stepped
        cases action with
        | response response => cases silent
        | readFails e => exact .inr ⟨_, (Option.some.inj stepped).symm⟩
        | _ => cases stepped
      · rw [past] at stepped
        cases stepped
  | started id size rate later calling task started =>
      simp [calling] at place
  | stored k later storing task started =>
      simp [storing] at place
  | left action later result reads task clean started =>
      exact ⟨started.trans unstarted, .inr ⟨result, task⟩⟩

theorem Lost.step {config : TcpClient}
    (program : peers k = .client config)
    {action : NetworkAction channels sizes}
    (enabled : s.step peers action = some next) (lost : Lost s k) :
    Lost next k := by
  rcases lost.silent with ⟨requests, made⟩
  cases Network.step_move enabled with
  | other j wire stranger =>
      have different : k ≠ j := by
        rintro rfl
        cases program.symm.trans stranger
      refine ⟨lost.past, ⟨requests, ?_⟩, lost.unstarted, lost.place⟩
      simpa [Network.setWire, different] using made
  | connected j config' program' apart connecting =>
      have different : k ≠ j := by
        rintro rfl
        cases made.symm.trans apart
      refine ⟨lost.past, ⟨requests, ?_⟩, ?_, ?_⟩
      · simpa [Network.setWire, different] using made
      · simpa [Network.setWire, different] using lost.unstarted
      · simpa [Network.setWire, different] using lost.place
  | served action server wires stepped joins passed =>
      rcases lost.past with ⟨c, here, past⟩
      rcases givenUp_step stepped here past with ⟨nothing, still⟩
      have through := passed k
      rw [made, nothing] at through
      exact ⟨still, through.silent, lost.unstarted, lost.place⟩
  | moved j size config' action client wires program' joins stepped passed
      others =>
      by_cases here : k = j
      · subst here
        rw [made] at passed
        rcases passed.silent with ⟨unread, untouched⟩
        rcases
            lost_client stepped unread lost.unstarted lost.place with
          ⟨unstarted, place⟩
        refine ⟨lost.past, ⟨requests, untouched⟩, ?_, ?_⟩
        · simpa using unstarted
        · simpa using place
      · refine ⟨lost.past, ⟨requests, (others k here).trans made⟩, ?_, ?_⟩
        · simpa [here] using lost.unstarted
        · simpa [here] using lost.place

/--
Whatever the peers have done so far: the handshake of a client that waits for
its answer can be completed exactly as long as the answer is on its way or the
server has not given the connection up.
-/
theorem handshake_completes_iff {bufferSize sampleRate : ℕ}
    (reachable :
      Reachable (@Network.step channels sizes peers)
        (.start channels bufferSize sampleRate) s)
    {config : TcpClient} (program : peers k = .client config)
    (waiting : (s.clients k).client = .waiting .reading)
    (unstarted : (s.clients k).started = 0)
    (unissued : ∃ id, id ∉ s.server.issued) :
    (∃ actions later,
        Run (@Network.step channels sizes peers) s actions later ∧
          (later.clients k).started = 1) ↔
      ¬ Forsaken s k := by
  constructor
  · rintro ⟨actions, later, run, started⟩ ⟨past, silent⟩
    have dialogue :=
      (agreed_of_reachable reachable).dialogue k config program
    have lost : Lost s k := by
      refine ⟨past, ?_, unstarted, .inl waiting⟩
      generalize made : s.wires k = wire at dialogue
      cases dialogue with
      | apart unused unstarted place => simp [waiting] at place
      | joined requests answers responses served heard =>
          have nothing : responses = [] := silent _ made
          exact ⟨requests, by rw [nothing]⟩
    have still : Lost later k := by
      refine
        @GuardedRun.preserves _ _ _ _ (fun s => Lost s k) ?_ _ _ _ run lost
      exact fun _ enabled lost => lost.step program enabled
    cases started.symm.trans still.unstarted
  · exact can_start reachable program waiting unstarted unissued

/-- A client asks for its stream while a stranger's request is in the works. -/
def heldUp : List (NetworkAction (fun _ => 2) fun _ => 64) :=
  [.connect 0, .connect 2, .sendRequest 2 (.openStream (.mono 7)),
    .accept 2, .readRequest 2 secondId, .server (.lockMixer 2)]

theorem handshake_completes_iff_heldUp :
    ∃ s : Network fun _ => 2,
      (s.clients 0).started = 0 ∧
        ∃ actions later,
          Run (@Network.step (fun _ => 2) (fun _ => 64) twoClients) s
              actions later ∧
            (later.clients 0).started = 1 := by
  have asked :
      ∃ s,
        execute (Network.step twoClients) (.start (fun _ => 2) 64 48000)
            heldUp = some s ∧
          (s.clients 0).client = .waiting .reading ∧
          (s.clients 0).started = 0 ∧ s.server.issued = [secondId] ∧
          s.server.connections 0 = none :=
    ⟨_, rfl, rfl, rfl, rfl, rfl⟩
  rcases asked with ⟨s, executed, waiting, unstarted, issued, unused⟩
  refine ⟨s, unstarted, ?_⟩
  refine
    (handshake_completes_iff ⟨_, execute_eq_some_iff.mp executed⟩
      (show twoClients 0 = .client ⟨.mono 0, true⟩ from rfl) waiting
      unstarted ⟨.nil, ?_⟩).mpr ?_
  · rw [issued]
    decide
  · rintro ⟨⟨c, here, _⟩, _⟩
    cases unused.symm.trans here

end Network

end Audiopipe.Session.HandshakeProgress
