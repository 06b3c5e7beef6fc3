import Audiopipe.Session.StreamGrants

/-!
# What the senders work with

The two sides of every control connection put together: a sender works with
the id and the buffer of a stream of its own connection, whatever the other
peers send.
-/

namespace Audiopipe.Session.GrantedSenders

open Audiopipe.Foundation.GuardedRuns
open Audiopipe.Mixing.TrackSelector
open Audiopipe.Control
open Audiopipe.Control.Messages
open Audiopipe.Control.ServerTasks
open Audiopipe.Control.StreamIds
open Audiopipe.Control.RequestLedger
open Audiopipe.Streamer.PacketFormat
open Audiopipe.Streamer.Sender
open Audiopipe.Session.AudioPath
open Audiopipe.Session.ClientTasks
open Audiopipe.Session.ClientLocks
open Audiopipe.Session.ControlNetwork
open Audiopipe.Session.StreamGrants

variable {channels sizes : ℕ → ℕ} {peers : ℕ → Peer}
variable {s next : Network channels}

/-! ## One client and the server -/

/-- What client and server have to do with each other on connection `k`. -/
inductive Dialogue (config : TcpClient) (server : Server) (k : ℕ)
    {channelCount : ℕ} (client : Client channelCount) :
    Option Wire → Prop where
  | apart (unused : server.connections k = none)
      (unstarted : client.started = 0)
      (place :
        client.client = .waiting .connecting ∨
          ∃ result, client.client = .ended result ∧ result ≠ .closed) :
      Dialogue config server k client none
  | joined (requests : List ControlRequest)
      (answers responses : List ControlResponse)
      (served : Served server k requests answers)
      (heard : Heard config client answers responses) :
      Dialogue config server k client (some ⟨requests, responses⟩)

/-- A connection that has not been accepted cannot take a step. -/
theorem unused_step {server later : Server} {action : ServerTasks.Action}
    {k : ℕ} (unused : server.connections k = none)
    (notAccepted : action ≠ .accept k)
    (enabled : server.step action = some later) :
    later.connections k = none := by
  have different : connectionOf action ≠ some k := by
    intro mine
    cases action with
    | accept j =>
        cases mine
        exact notAccepted rfl
    | datagram | receiverLock | played | takeStop => cases mine
    | _ =>
        cases mine
        simp [Server.step, unused] at enabled
  rw [connections_of_ne (Server.step_move enabled) different]
  exact unused

/-- The server takes a step. -/
theorem Dialogue.served {config : TcpClient} {server later : Server}
    {k : ℕ} {channelCount : ℕ} {client : Client channelCount}
    {action : ServerTasks.Action} {wire wire' : Option Wire}
    (enabled : server.step action = some later)
    (joins : action = .accept k → wire ≠ none)
    (passed :
      WireServed wire (taken action k) (given server action k) wire')
    (dialogue : Dialogue config server k client wire) :
    Dialogue config later k client wire' := by
  cases dialogue with
  | apart unused unstarted place =>
      have untouched : wire' = none := by
        generalize takes : taken action k = request at passed
        generalize gives : given server action k = response at passed
        cases passed
        rfl
      subst untouched
      refine .apart (unused_step unused ?_ enabled) unstarted place
      intro accepts
      exact joins accepts rfl
  | joined requests answers responses served heard =>
      generalize takes : taken action k = request at passed
      generalize gives : given server action k = response at passed
      cases passed with
      | aside =>
          have served' :
              Served server k (taken action k ++ requests) answers := by
            rw [takes]
            exact served
          have later := served'.step enabled
          rw [gives, List.append_nil] at later
          exact .joined requests answers responses later heard
      | through request rest responses response =>
          have served' : Served server k (taken action k ++ rest) answers := by
            rw [takes]
            exact served
          have later := served'.step enabled
          rw [gives] at later
          exact
            .joined rest _ _ later (heard.answered later.streams.1)

/-- A client that has not connected waits for its connection or is over. -/
theorem apart_step {config : TcpClient} {channelCount bufferSize : ℕ}
    {client later : Client channelCount}
    {action : ClientTasks.Action channelCount bufferSize}
    (enabled : Client.step config client action = some later)
    (joins : action ≠ .client .connected)
    (unstarted : client.started = 0)
    (place :
      client.client = .waiting .connecting ∨
        ∃ result, client.client = .ended result ∧ result ≠ .closed) :
    later.started = 0 ∧
      (later.client = .waiting .connecting ∨
        ∃ result, later.client = .ended result ∧ result ≠ .closed) := by
  cases step_turn enabled with
  | aside action later reads task started =>
      rw [started, task]
      exact ⟨unstarted, place⟩
  | task action later stepped started =>
      refine ⟨started.trans unstarted, ?_⟩
      rcases place with connecting | ⟨result, past, _⟩
      · rw [connecting] at stepped
        cases action with
        | connected => exact (joins rfl).elim
        | connectFails e =>
            exact
              .inr
                ⟨.failed e, (Option.some.inj stepped).symm, by simp⟩
        | parseFails =>
            exact
              .inr ⟨.panicked, (Option.some.inj stepped).symm, by simp⟩
        | _ => cases stepped
      · rw [past] at stepped
        cases stepped
  | started id size rate later calling task started =>
      simp [calling] at place
  | stored k later storing task started =>
      simp [storing] at place
  | left action later result reads task clean started =>
      exact ⟨started.trans unstarted, .inr ⟨result, task, clean⟩⟩

/-- The client takes a step. -/
theorem Dialogue.moved {config : TcpClient} {server : Server}
    {k : ℕ} {channelCount bufferSize : ℕ}
    {client later : Client channelCount}
    {action : ClientTasks.Action channelCount bufferSize}
    {wire wire' : Option Wire} (sound : Sound config client)
    (enabled : Client.step config client action = some later)
    (joins : action ≠ .client .connected)
    (passed : WireHeard wire (heardBy action) wire')
    (dialogue : Dialogue config server k client wire) :
    Dialogue config server k later wire' := by
  generalize reads : heardBy action = response at passed
  cases dialogue with
  | joined requests answers responses served heard =>
      rcases served.streams with ⟨single, streams⟩
      cases passed with
      | aside =>
          refine .joined requests answers responses served ?_
          refine Heard.step sound enabled streams single ?_
          rw [reads]
          exact heard
      | read requests response rest =>
          refine .joined requests answers rest served ?_
          refine Heard.step sound enabled streams single ?_
          rw [reads]
          exact heard
  | apart unused unstarted place =>
      cases passed
      rcases apart_step enabled joins unstarted place with
        ⟨unstarted', place'⟩
      exact .apart unused unstarted' place'

/-! ## All sessions -/

/-- Every client is sound and in a dialogue with the server. -/
structure Agreed (peers : ℕ → Peer) (s : Network channels) : Prop where
  sound :
    ∀ k config, peers k = .client config → Sound config (s.clients k)
  dialogue :
    ∀ k config,
      peers k = .client config →
        Dialogue config s.server k (s.clients k) (s.wires k)

theorem Agreed.start (peers : ℕ → Peer) (bufferSize sampleRate : ℕ) :
    Agreed peers (.start channels bufferSize sampleRate) where
  sound := fun _ config _ => Sound.initially config
  dialogue := fun _ _ _ => .apart rfl rfl (.inl rfl)

/-- Every step of the network keeps the dialogues. -/
theorem Agreed.step {action : NetworkAction channels sizes}
    (enabled : s.step peers action = some next)
    (agreed : Agreed peers s) :
    Agreed peers next := by
  cases Network.step_move enabled with
  | other j wire stranger =>
      refine ⟨agreed.sound, fun k config program => ?_⟩
      have different : k ≠ j := by
        rintro rfl
        cases program.symm.trans stranger
      simp only [Network.setWire, Function.update_of_ne different]
      exact agreed.dialogue k config program
  | connected j config' program' apart connecting =>
      constructor
      · intro k config program
        by_cases here : k = j
        · subst here
          have connects :
              Client.step config (s.clients k)
                  (.client .connected :
                    ClientTasks.Action (channels k) (sizes k)) =
                some { s.clients k with client := .waiting .reading } := by
            simp [Client.step, connecting, clientStep]
          have later := (agreed.sound k config program).step connects
          simpa [Network.setWire] using later
        · simpa [Network.setWire, here] using
            agreed.sound k config program
      · intro k config program
        by_cases here : k = j
        · subst here
          have before := agreed.dialogue k config program
          rw [apart] at before
          cases before with
          | apart unused unstarted place =>
              have unread :
                  Served s.server k [connectionPacket config'.sel] [] :=
                .unread fun c there => by
                  cases unused.symm.trans there
              have waits :
                  Heard config
                    { s.clients k with client := .waiting .reading }
                    [] [] := by
                refine
                  ⟨by simp [unstarted], fun once => ?_,
                    .inl ⟨unstarted, rfl⟩, List.Subset.refl _⟩
                exact (Nat.zero_ne_one (unstarted.symm.trans once)).elim
              have joined := Dialogue.joined _ _ _ unread waits
              simpa [Network.setWire] using joined
        · simpa [Network.setWire, here] using
            agreed.dialogue k config program
  | served action server wires stepped joined passed =>
      refine ⟨agreed.sound, fun k config program => ?_⟩
      exact
        (agreed.dialogue k config program).served stepped (joined k)
          (passed k)
  | moved j size config' action client wires program' joins stepped passed
      others =>
      constructor
      · intro k config program
        by_cases here : k = j
        · subst here
          have same : config' = config :=
            Peer.client.inj (program'.symm.trans program)
          subst same
          simpa using (agreed.sound k _ program).step stepped
        · simpa [here] using agreed.sound k config program
      · intro k config program
        by_cases here : k = j
        · subst here
          have same : config' = config :=
            Peer.client.inj (program'.symm.trans program)
          subst same
          have later :=
            (agreed.dialogue k _ program).moved
              (agreed.sound k _ program) stepped joins passed
          simpa using later
        · simpa [here, others k here] using
            agreed.dialogue k config program

/-! ## The senders -/

/-- What holds in every reachable state. -/
theorem agreed_of_reachable {bufferSize sampleRate : ℕ}
    (reachable :
      Reachable (@Network.step channels sizes peers)
        (.start channels bufferSize sampleRate) s) :
    Agreed peers s :=
  reachable.preserves (fun enabled => Agreed.step enabled)
    (.start peers bufferSize sampleRate)

/-- The server announces the buffer of its mixer. -/
theorem announced_of_reachable {bufferSize sampleRate : ℕ}
    (reachable :
      Reachable Server.step (.start bufferSize sampleRate) server) :
    server.bufferSize = bufferSize ∧ server.sampleRate = sampleRate := by
  refine
    @Reachable.preserves _ _ _
      (fun server =>
        server.bufferSize = bufferSize ∧ server.sampleRate = sampleRate)
      ?_ _ _ reachable ⟨rfl, rfl⟩
  intro state next action enabled holds
  rcases announced_constant (Server.step_move enabled) with
    ⟨sameSize, sameRate⟩
  exact ⟨sameSize.trans holds.1, sameRate.trans holds.2⟩

/-- The stream that was granted to the sender of a client. -/
theorem Dialogue.granted {config : TcpClient} {server : Server} {k : ℕ}
    {channelCount : ℕ} {client : Client channelCount} {wire : Option Wire}
    (sound : Sound config client)
    (dialogue : Dialogue config server k client wire)
    {j : ℕ} {sender : UdpClient} {place : SenderAwait channelCount}
    {waiting : Bool}
    (running : client.senders j = some (.running sender place waiting)) :
    j = 0 ∧
      WorksWith config sender.connectionId server.bufferSize
        server.sampleRate sender ∧
      ∃ c port,
        server.connections k = some c ∧
          c.exchanges =
            [(.openStream streamSelector,
              .stream sender.connectionId port server.bufferSize
                server.sampleRate)] ∧
          sender.connectionId ∈ c.opened ∧ Listens server port := by
  have started : j < client.started := by
    by_contra above
    have absent := sound.fresh j (Nat.le_of_not_lt above)
    cases absent.symm.trans running
  cases dialogue with
  | apart unused unstarted place => omega
  | joined requests answers responses served heard =>
      have once : client.started = 1 := by
        have atMost := heard.once
        omega
      rcases heard.works once with ⟨id, port, size, rate, answered, each⟩
      have works := each j sender place waiting running
      cases served with
      | unread unused => cases answered
      | opening c here exchanges working => cases answered
      | granted id' port' c here exchanges own listens idle =>
          cases answered
          cases works.connectionId
          exact
            ⟨by omega, works, c, port, here, exchanges, own, listens⟩

/-- What is on its way to a client is the stream that it has asked for. -/
theorem Dialogue.responses {config : TcpClient} {server : Server}
    {k : ℕ} {channelCount : ℕ} {client : Client channelCount} {wire : Wire}
    (dialogue : Dialogue config server k client (some wire))
    {response : ControlResponse} (member : response ∈ wire.responses) :
    ∃ id port,
      response =
        .stream id port server.bufferSize server.sampleRate := by
  cases dialogue with
  | joined requests answers responses served heard =>
      have given := heard.left member
      cases served with
      | unread unused => cases given
      | opening c here exchanges working => cases given
      | granted id port c here exchanges own listens idle =>
          exact ⟨id, port, List.mem_singleton.mp given⟩

/-- A client does not break off at an error response. -/
theorem Dialogue.notClosed {config : TcpClient} {server : Server}
    {k : ℕ} {channelCount : ℕ} {client : Client channelCount}
    {wire : Option Wire}
    (dialogue : Dialogue config server k client wire) :
    client.client ≠ .ended .closed := by
  intro closed
  cases dialogue with
  | apart unused unstarted place => simp [closed] at place
  | joined requests answers responses served heard =>
      have read := heard.read
      simp [Read, closed] at read

/-- A client starts its sender once at most. -/
theorem Dialogue.started_le_one {config : TcpClient} {server : Server}
    {k : ℕ} {channelCount : ℕ} {client : Client channelCount}
    {wire : Option Wire}
    (dialogue : Dialogue config server k client wire) :
    client.started ≤ 1 := by
  cases dialogue with
  | apart unused unstarted place =>
      rw [unstarted]
      exact Nat.zero_le 1
  | joined requests answers responses served heard => exact heard.once

/--
Whatever the other peers do, also if they close the streams of the clients:
the only response that a client has to read is the stream that it has asked
for, so it neither reaches the `todo!()` of an `Ok` nor breaks off at an
error, and it starts at most one sender.  The sender works with the id of the
one stream of its own connection, with the buffer of the server's mixer and
with the client's own selector; the receiver of the stream plays on the first
two channels.
-/
theorem senders_granted {bufferSize sampleRate : ℕ}
    (reachable :
      Reachable (@Network.step channels sizes peers)
        (.start channels bufferSize sampleRate) s)
    {k : ℕ} {config : TcpClient} (program : peers k = .client config) :
    (s.clients k).client ≠ .ended .closed ∧
      (s.clients k).started ≤ 1 ∧
      (∀ wire response,
        s.wires k = some wire → response ∈ wire.responses →
          ∃ id port, response = .stream id port bufferSize sampleRate) ∧
      ∀ j sender place waiting,
        (s.clients k).senders j = some (.running sender place waiting) →
          j = 0 ∧
            WorksWith config sender.connectionId bufferSize sampleRate
              sender ∧
            ∃ c port,
              s.server.connections k = some c ∧
                c.exchanges =
                  [(.openStream streamSelector,
                    .stream sender.connectionId port bufferSize
                      sampleRate)] ∧
                Listens s.server port := by
  rcases announced_of_reachable (Network.server_reachable reachable) with
    ⟨size, rate⟩
  have agreed := agreed_of_reachable reachable
  have dialogue := agreed.dialogue k config program
  refine ⟨dialogue.notClosed, dialogue.started_le_one, ?_, ?_⟩
  · intro wire response joined member
    rw [joined] at dialogue
    rw [← size, ← rate]
    exact dialogue.responses member
  · intro j sender place waiting running
    rcases dialogue.granted (agreed.sound k config program) running with
      ⟨first, works, c, port, here, exchanges, _, listens⟩
    rw [size, rate] at works exchanges
    exact ⟨first, works, c, port, here, exchanges, listens⟩

/-- Two clients, and strangers. -/
def twoClients (k : ℕ) : Peer :=
  if k < 2 then .client ⟨.mono k, true⟩ else .other

/-- A client gets its stream and starts its sender. -/
def streamGranted (k : ℕ) (id : Uuid) :
    List (NetworkAction (fun _ => 2) fun _ => 64) :=
  [.connect k, .accept k, .readRequest k id, .server (.lockMixer k),
    .server (.callbackOk k k 40000), .server (.lockHandles k),
    .sendResponse k, .readResponse k, .client k .senderStarted]

def secondId : Uuid :=
  ⟨List.replicate 16 1, List.length_replicate⟩

/-- Both clients stream, and a stranger closes the first stream. -/
def twoStreams : List (NetworkAction (fun _ => 2) fun _ => 64) :=
  streamGranted 0 .nil ++ streamGranted 1 secondId ++
    [.connect 2, .sendRequest 2 (.closeStream .nil), .accept 2,
      .readRequest 2 .nil, .server (.lockHandles 2), .server (.stop 2),
      .sendResponse 2]

/-- The stream and the buffer of a sender that runs. -/
def streamOf : Option (SenderTask 2) → Option (Uuid × ℕ)
  | some (.running sender _ _) =>
      some (sender.connectionId, sender.bufsize)
  | _ => none

theorem streamOf_eq_some {task : Option (SenderTask 2)}
    {stream : Uuid × ℕ} (found : streamOf task = some stream) :
    ∃ sender place waiting,
      task = some (.running sender place waiting) ∧
        stream = (sender.connectionId, sender.bufsize) := by
  cases task with
  | none => cases found
  | some task =>
      cases task with
      | ended result => cases found
      | running sender place waiting =>
          exact
            ⟨sender, place, waiting, rfl, (Option.some.inj found).symm⟩

theorem senders_granted_twoClients :
    ∃ s : Network fun _ => 2,
      ∃ sender place waiting,
        (s.clients 0).senders 0 =
            some (.running sender place waiting) ∧
          WorksWith ⟨.mono 0, true⟩ sender.connectionId 64 48000
            sender := by
  have granted :
      (execute (Network.step twoClients)
          (.start (fun _ => 2) 64 48000) twoStreams).map
          (fun s => streamOf ((s.clients 0).senders 0)) =
        some (some (.nil, 64)) := by
    decide +kernel
  rcases Option.map_eq_some_iff.mp granted with ⟨s, executed, stream⟩
  rcases streamOf_eq_some stream with ⟨sender, place, waiting, running, _⟩
  have facts :=
    senders_granted ⟨_, execute_eq_some_iff.mp executed⟩
      (show twoClients 0 = .client ⟨.mono 0, true⟩ from rfl)
  exact
    ⟨s, sender, place, waiting, running,
      (facts.2.2.2 0 sender place waiting running).2.1⟩

/-- No two connections have opened the same stream. -/
def OpenedApart (s : Server) : Prop :=
  ∀ k other id, id ∈ opened s k → id ∈ opened s other → k = other

theorem OpenedApart.step {s next : Server} {action : ServerTasks.Action}
    (enabled : s.step action = some next) (fresh : IdsFresh s)
    (apart : OpenedApart s) :
    OpenedApart next := by
  cases IdEffect.ofMove (Server.step_move enabled) with
  | quiet pendingLess sameOpened tableLess sameIssued =>
      unfold OpenedApart
      rw [sameOpened]
      exact apart
  | drawn k id freshId pendingHere sameOpened sameTable issuedNow =>
      unfold OpenedApart
      rw [sameOpened]
      exact apart
  | listed k id h pendingBefore pendingHere openedHere tableHere
      sameIssued =>
      have unopened := fresh.pendingUnopened k id pendingBefore
      have split :
          ∀ j id', id' ∈ opened next j →
            (j = k ∧ id' = id) ∨ id' ∈ opened s j := by
        intro j id' member
        rw [openedHere] at member
        by_cases here : j = k
        · subst here
          rw [Function.update_self] at member
          rcases List.mem_cons.mp member with new | old
          · exact .inl ⟨rfl, new⟩
          · exact .inr old
        · rw [Function.update_of_ne here] at member
          exact .inr member
      intro j other id' mine theirs
      rcases split j id' mine with ⟨rfl, rfl⟩ | old
      · rcases split other id' theirs with ⟨rfl, _⟩ | old'
        · rfl
        · exact (unopened other old').elim
      · rcases split other id' theirs with ⟨rfl, rfl⟩ | old'
        · exact (unopened j old).elim
        · exact apart j other id' old old'

/-- The senders of different clients stream under different ids. -/
theorem senders_apart {bufferSize sampleRate : ℕ}
    (reachable :
      Reachable (@Network.step channels sizes peers)
        (.start channels bufferSize sampleRate) s)
    {k k' : ℕ} {config config' : TcpClient}
    (program : peers k = .client config)
    (program' : peers k' = .client config')
    {j j' : ℕ} {sender sender' : UdpClient}
    {place : SenderAwait (channels k)} {place' : SenderAwait (channels k')}
    {waiting waiting' : Bool}
    (running :
      (s.clients k).senders j = some (.running sender place waiting))
    (running' :
      (s.clients k').senders j' =
        some (.running sender' place' waiting'))
    (different : k ≠ k') :
    sender.connectionId ≠ sender'.connectionId := by
  have agreed := agreed_of_reachable reachable
  have apart : IdsFresh s.server ∧ OpenedApart s.server := by
    refine
      @Reachable.preserves _ _ _
        (fun server => IdsFresh server ∧ OpenedApart server)
        ?_ _ _ (Network.server_reachable reachable)
        ⟨.start bufferSize sampleRate, fun _ _ _ never => nomatch never⟩
    intro state next action enabled holds
    exact ⟨holds.1.step enabled, holds.2.step enabled holds.1⟩
  rcases
      (agreed.dialogue k config program).granted
        (agreed.sound k config program) running with
    ⟨_, _, c, _, here, _, own, _⟩
  rcases
      (agreed.dialogue k' config' program').granted
        (agreed.sound k' config' program') running' with
    ⟨_, _, c', _, here', _, own', _⟩
  intro sameId
  refine different (apart.2 k k' sender.connectionId ?_ ?_)
  · simpa [opened, here] using own
  · rw [sameId]
    simpa [opened, here'] using own'

theorem senders_apart_twoClients :
    ∃ s : Network fun _ => 2,
      ∃ sender sender' place place' waiting waiting',
        (s.clients 0).senders 0 =
            some (.running sender place waiting) ∧
          (s.clients 1).senders 0 =
            some (.running sender' place' waiting') ∧
          sender.connectionId ≠ sender'.connectionId := by
  have granted :
      (execute (Network.step twoClients)
          (.start (fun _ => 2) 64 48000) twoStreams).map
          (fun s =>
            (streamOf ((s.clients 0).senders 0),
              streamOf ((s.clients 1).senders 0))) =
        some (some (.nil, 64), some (secondId, 64)) := by
    decide +kernel
  rcases Option.map_eq_some_iff.mp granted with ⟨s, executed, streams⟩
  rcases Prod.mk.inj streams with ⟨first, second⟩
  rcases streamOf_eq_some first with ⟨sender, place, waiting, running, _⟩
  rcases streamOf_eq_some second with
    ⟨sender', place', waiting', running', _⟩
  exact
    ⟨s, sender, sender', place, place', waiting, waiting', running,
      running',
      senders_apart ⟨_, execute_eq_some_iff.mp executed⟩ rfl rfl running
        running' (by decide)⟩

end Audiopipe.Session.GrantedSenders
