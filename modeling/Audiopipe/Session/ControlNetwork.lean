import Audiopipe.Control.RequestLedger
import Audiopipe.Control.StreamIds
import Audiopipe.Session.ClientTasks

/-!
# Clients and server

Any number of peers share one server.  Some of them run the program of a
client; the others send what they like, also a `CloseStream` for the stream of
somebody else.  Peer and connection have the same number, and a control
connection carries the requests one way and the responses the other way, each
in order.  The steps are those of the server and of the clients; the steps
that read or send a message move it from or to the connection.

A read can fail at any time, and so can a send: connections break, and a
message that arrives in pieces is no packet.
-/

namespace Audiopipe.Session.ControlNetwork

open Audiopipe.Foundation.GuardedRuns
open Audiopipe.Control
open Audiopipe.Control.Messages
open Audiopipe.Control.ServerTasks
open Audiopipe.Control.RequestLedger
open Audiopipe.Session.ClientTasks
open Audiopipe.Streamer.PacketFormat

variable {channels sizes : ℕ → ℕ}

/-! ## The parties -/

/-- Who is at the other end of a control connection. -/
inductive Peer where
  | client (config : TcpClient)
  | other

/-- The messages that are on their way. -/
structure Wire where
  requests : List ControlRequest
  responses : List ControlResponse

/--
The server, the clients and the control connections that have been made.  The
input mixer of client `k` has `channels k` channels.
-/
structure Network (channels : ℕ → ℕ) where
  server : Server
  clients : (k : ℕ) → Client (channels k)
  wires : ℕ → Option Wire

inductive NetworkAction (channels sizes : ℕ → ℕ) where
  | connect (k : ℕ)
  | sendRequest (k : ℕ) (request : ControlRequest)
  | accept (k : ℕ)
  | readRequest (k : ℕ) (newId : Uuid)
  | sendResponse (k : ℕ)
  | readResponse (k : ℕ)
  | server (action : ServerTasks.Action)
  | client (k : ℕ) (action : ClientTasks.Action (channels k) (sizes k))

/-- The step of the server takes nothing from a connection and puts nothing
there. -/
def serverAlone : ServerTasks.Action → Bool
  | .accept _ => false
  | .request _ _ _ => false
  | .respond _ true => false
  | _ => true

/-- The step of the client does not either. -/
def clientAlone {channelCount bufferSize : ℕ} :
    ClientTasks.Action channelCount bufferSize → Bool
  | .client .connected => false
  | .client (.response _) => false
  | _ => true

namespace Network

/-- Nobody has connected yet. -/
def start (channels : ℕ → ℕ) (bufferSize sampleRate : ℕ) :
    Network channels where
  server := .start bufferSize sampleRate
  clients := fun k => .start (channels k)
  wires := fun _ => none

def setWire (s : Network channels) (k : ℕ) (wire : Wire) :
    Network channels :=
  { s with wires := Function.update s.wires k (some wire) }

def onServer (s : Network channels) (action : ServerTasks.Action) :
    Option (Network channels) :=
  (s.server.step action).map fun server => { s with server := server }

def onClient (s : Network channels) (config : TcpClient) (k : ℕ)
    (action : ClientTasks.Action (channels k) (sizes k)) :
    Option (Network channels) :=
  (Client.step config (s.clients k) action).map fun client =>
    { s with clients := Function.update s.clients k client }

/--
The steps.  A client sends its connection packet as soon as it is connected;
the other peers send requests and throw responses away.
-/
def step (peers : ℕ → Peer) (s : Network channels) :
    NetworkAction channels sizes → Option (Network channels)
  | .connect k =>
      match s.wires k, peers k with
      | none, .client config =>
          (@onClient channels sizes s config k (.client .connected)).map
            fun next => next.setWire k ⟨[connectionPacket config.sel], []⟩
      | none, .other => some (s.setWire k ⟨[], []⟩)
      | some _, _ => none
  | .sendRequest k request =>
      match s.wires k, peers k with
      | some wire, .other =>
          some
            (s.setWire k ⟨wire.requests ++ [request], wire.responses⟩)
      | _, _ => none
  | .accept k =>
      match s.wires k with
      | some _ => s.onServer (.accept k)
      | none => none
  | .readRequest k newId =>
      match s.wires k with
      | some ⟨request :: requests, responses⟩ =>
          (s.onServer (.request k request newId)).map fun next =>
            next.setWire k ⟨requests, responses⟩
      | _ => none
  | .sendResponse k =>
      match s.wires k, responseAt s.server (phaseOf s.server k) with
      | some wire, some response =>
          (s.onServer (.respond k true)).map fun next =>
            next.setWire k ⟨wire.requests, wire.responses ++ [response]⟩
      | _, _ => none
  | .readResponse k =>
      match s.wires k, peers k with
      | some ⟨requests, response :: responses⟩, .client config =>
          (@onClient channels sizes s config k
              (.client (.response response))).map
            fun next => next.setWire k ⟨requests, responses⟩
      | some ⟨requests, _ :: responses⟩, .other =>
          some (s.setWire k ⟨requests, responses⟩)
      | _, _ => none
  | .server action =>
      if serverAlone action then s.onServer action else none
  | .client k action =>
      match peers k with
      | .client config =>
          if clientAlone action then s.onClient config k action else none
      | .other => none

end Network

/-! ## What a step can do -/

/-- The request that a step of the server reads from connection `k`. -/
def taken (action : ServerTasks.Action) (k : ℕ) : List ControlRequest :=
  match action with
  | .request j request _ => if j = k then [request] else []
  | _ => []

/-- The response that a step of the server sends on connection `k`. -/
def given (server : Server) (action : ServerTasks.Action) (k : ℕ) :
    List ControlResponse :=
  match action with
  | .respond j true =>
      if j = k then (responseAt server (phaseOf server j)).toList else []
  | _ => []

/-- The response that a step of a client reads. -/
def heardBy {channelCount bufferSize : ℕ} :
    ClientTasks.Action channelCount bufferSize → List ControlResponse
  | .client (.response response) => [response]
  | _ => []

/-- A connection before and after a step of the server. -/
inductive WireServed :
    Option Wire → List ControlRequest → List ControlResponse →
      Option Wire → Prop where
  | aside (wire : Option Wire) : WireServed wire [] [] wire
  | through (request rest : List ControlRequest)
      (responses response : List ControlResponse) :
      WireServed (some ⟨request ++ rest, responses⟩) request response
        (some ⟨rest, responses ++ response⟩)

/-- A connection before and after a step of its client. -/
inductive WireHeard :
    Option Wire → List ControlResponse → Option Wire → Prop where
  | aside (wire : Option Wire) : WireHeard wire [] wire
  | read (requests : List ControlRequest)
      (response rest : List ControlResponse) :
      WireHeard (some ⟨requests, response ++ rest⟩) response
        (some ⟨requests, rest⟩)

/-- A connection that has been made stays made. -/
theorem WireServed.made {wire wire' : Option Wire}
    {requests : List ControlRequest} {responses : List ControlResponse}
    (passed : WireServed wire requests responses wire')
    (there : wire ≠ none) :
    wire' ≠ none := by
  cases passed with
  | aside => exact there
  | through => exact Option.some_ne_none _

theorem WireHeard.made {wire wire' : Option Wire}
    {responses : List ControlResponse}
    (passed : WireHeard wire responses wire') (there : wire ≠ none) :
    wire' ≠ none := by
  cases passed with
  | aside => exact there
  | read => exact Option.some_ne_none _

/-- Where nothing is on its way and nothing is sent, nothing arrives. -/
theorem WireServed.silent {requests taken : List ControlRequest}
    {wire : Option Wire}
    (passed : WireServed (some ⟨requests, []⟩) taken [] wire) :
    ∃ rest, wire = some ⟨rest, []⟩ := by
  cases passed with
  | aside => exact ⟨requests, rfl⟩
  | through _ rest => exact ⟨rest, rfl⟩

theorem WireHeard.silent {requests : List ControlRequest}
    {heard : List ControlResponse} {wire : Option Wire}
    (passed : WireHeard (some ⟨requests, []⟩) heard wire) :
    heard = [] ∧ wire = some ⟨requests, []⟩ := by
  generalize before : some (Wire.mk requests []) = earlier at passed
  cases passed with
  | aside => exact ⟨rfl, rfl⟩
  | read requests' heard rest =>
      cases heard with
      | nil => exact ⟨rfl, rfl⟩
      | cons first later => cases before

/-- The steps, by the party that takes them. -/
inductive NetworkMove (peers : ℕ → Peer) (s : Network channels) :
    Network channels → Prop where
  | other (k : ℕ) (wire : Wire) (stranger : peers k = .other) :
      NetworkMove peers s (s.setWire k wire)
  | connected (k : ℕ) (config : TcpClient)
      (program : peers k = .client config) (apart : s.wires k = none)
      (connecting : (s.clients k).client = .waiting .connecting) :
      NetworkMove peers s
        (({ s with
            clients :=
              Function.update s.clients k
                { s.clients k with
                  client := .waiting .reading } }).setWire k
          ⟨[connectionPacket config.sel], []⟩)
  | served (action : ServerTasks.Action) (server : Server)
      (wires : ℕ → Option Wire)
      (enabled : s.server.step action = some server)
      (joined : ∀ k, action = .accept k → s.wires k ≠ none)
      (passed :
        ∀ k,
          WireServed (s.wires k) (taken action k)
            (given s.server action k) (wires k)) :
      NetworkMove peers s { s with server := server, wires := wires }
  | moved (k size : ℕ) (config : TcpClient)
      (action : ClientTasks.Action (channels k) size)
      (client : Client (channels k)) (wires : ℕ → Option Wire)
      (program : peers k = .client config)
      (joins : action ≠ .client .connected)
      (enabled :
        Client.step config (s.clients k) action = some client)
      (passed : WireHeard (s.wires k) (heardBy action) (wires k))
      (others : ∀ j, j ≠ k → wires j = s.wires j) :
      NetworkMove peers s
        { s with
          clients := Function.update s.clients k client
          wires := wires }

namespace Network

variable {peers : ℕ → Peer} {s next : Network channels}

/-- Steps of the server that leave the connections alone. -/
theorem served_alone {action : ServerTasks.Action}
    (alone : serverAlone action = true) (k : ℕ) :
    taken action k = [] ∧ given s.server action k = [] := by
  cases action with
  | accept j => cases alone
  | request j request newId => cases alone
  | respond j sent =>
      cases sent with
      | true => cases alone
      | false => exact ⟨rfl, rfl⟩
  | _ => exact ⟨rfl, rfl⟩

/-- Every enabled step is one of the moves. -/
theorem step_move {action : NetworkAction channels sizes}
    (enabled : s.step peers action = some next) :
    NetworkMove peers s next := by
  cases action with
  | connect k =>
      simp only [step] at enabled
      split at enabled
      · next config apart program =>
          rcases Option.map_eq_some_iff.mp enabled with
            ⟨middle, stepped, rfl⟩
          rcases Option.map_eq_some_iff.mp stepped with
            ⟨client, connects, rfl⟩
          simp only [Client.step] at connects
          split at connects
          · next task went =>
              cases connects
              cases place : (s.clients k).client with
              | waiting await =>
                  rw [place] at went
                  cases await with
                  | connecting =>
                      cases went
                      exact .connected k config program apart place
                  | _ => cases went
              | ended result =>
                  rw [place] at went
                  cases went
          · cases connects
      · next apart stranger =>
          cases enabled
          exact .other k _ stranger
      · cases enabled
  | sendRequest k request =>
      simp only [step] at enabled
      split at enabled
      · next wire joined stranger =>
          cases enabled
          exact .other k _ stranger
      · cases enabled
  | accept k =>
      simp only [step] at enabled
      split at enabled
      · next wire joined =>
          rcases Option.map_eq_some_iff.mp enabled with
            ⟨server, stepped, rfl⟩
          refine .served (.accept k) server s.wires stepped ?_ fun j => ?_
          · rintro j equal
            cases equal
            rw [joined]
            exact Option.some_ne_none _
          · exact .aside _
      · cases enabled
  | readRequest k newId =>
      simp only [step] at enabled
      split at enabled
      · next request requests responses joined =>
          rcases Option.map_eq_some_iff.mp enabled with
            ⟨middle, went, rfl⟩
          rcases Option.map_eq_some_iff.mp went with
            ⟨server, stepped, rfl⟩
          refine
            .served (.request k request newId) server _ stepped
              (fun _ equal => by cases equal) fun j => ?_
          by_cases here : k = j
          · subst here
            have through :=
              WireServed.through [request] requests responses []
            simpa [taken, given, joined] using through
          · have aside := WireServed.aside (s.wires j)
            simpa [taken, given, here, Ne.symm here] using aside
      · cases enabled
  | sendResponse k =>
      simp only [step] at enabled
      split at enabled
      · next wire response joined responding =>
          rcases Option.map_eq_some_iff.mp enabled with
            ⟨middle, went, rfl⟩
          rcases Option.map_eq_some_iff.mp went with
            ⟨server, stepped, rfl⟩
          refine
            .served (.respond k true) server _ stepped
              (fun _ equal => by cases equal) fun j => ?_
          by_cases here : k = j
          · subst here
            have through :=
              WireServed.through [] wire.requests wire.responses [response]
            simpa [taken, given, joined, responding] using through
          · have aside := WireServed.aside (s.wires j)
            simpa [taken, given, here, Ne.symm here] using aside
      · cases enabled
  | readResponse k =>
      simp only [step] at enabled
      split at enabled
      · next requests response responses config joined program =>
          rcases Option.map_eq_some_iff.mp enabled with
            ⟨middle, went, rfl⟩
          rcases Option.map_eq_some_iff.mp went with
            ⟨client, stepped, rfl⟩
          refine
            .moved k _ config (.client (.response response)) client _
              program (by simp) stepped ?_ fun j elsewhere => ?_
          · rw [joined, Function.update_self]
            exact .read requests [response] responses
          · exact Function.update_of_ne elsewhere _ _
      · next requests response responses joined stranger =>
          cases enabled
          exact .other k _ stranger
      · cases enabled
  | server action =>
      simp only [step] at enabled
      split at enabled
      · next alone =>
          rcases Option.map_eq_some_iff.mp enabled with
            ⟨server, stepped, rfl⟩
          refine .served action server s.wires stepped ?_ fun j => ?_
          · rintro j rfl
            cases alone
          · rcases served_alone (s := s) alone j with ⟨takes, gives⟩
            rw [takes, gives]
            exact .aside _
      · cases enabled
  | client k action =>
      simp only [step] at enabled
      split at enabled
      · next config program =>
          split at enabled
          · next alone =>
              rcases Option.map_eq_some_iff.mp enabled with
                ⟨client, stepped, rfl⟩
              refine
                .moved k _ config action client s.wires program ?_ stepped ?_
                  fun _ _ => rfl
              · rintro rfl
                cases alone
              · have reads : heardBy action = [] := by
                  cases action with
                  | client action =>
                      cases action with
                      | response response => cases alone
                      | _ => rfl
                  | _ => rfl
                rw [reads]
                exact .aside _
          · cases enabled
      · cases enabled

/-- The server of the network goes through a run of the server. -/
theorem server_reachable {bufferSize sampleRate : ℕ}
    (reachable :
      Reachable (@step channels sizes peers)
        (.start channels bufferSize sampleRate) s) :
    Reachable Server.step (.start bufferSize sampleRate) s.server := by
  refine
    @Reachable.preserves _ _ _
      (fun s =>
        Reachable Server.step (.start bufferSize sampleRate) s.server)
      ?_ _ _ reachable ⟨[], .done _⟩
  intro s next action enabled holds
  cases step_move enabled with
  | other k wire stranger => exact holds
  | connected k config program apart connecting => exact holds
  | served action server wires stepped joined passed =>
      rcases holds with ⟨actions, run⟩
      exact
        ⟨actions ++ [action],
          run.append (.next trivial stepped (.done server))⟩
  | moved k size config action client wires program joins stepped passed
      others => exact holds

end Network

end Audiopipe.Session.ControlNetwork
