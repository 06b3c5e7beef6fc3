import Audiopipe.Session.AudioPath
import Audiopipe.Session.ClientLocks
import Audiopipe.Session.ControlNetwork

/-!
# One request and its answer

A client makes one request, so its connection carries at most one response,
and that is the stream that the server has opened for it.  Where the answer is
(still to be given, on its way, read) follows on either side from where the
task stands.
-/

namespace Audiopipe.Session.StreamGrants

open Audiopipe.Foundation.GuardedRuns
open Audiopipe.Mixing.TrackSelector
open Audiopipe.Control
open Audiopipe.Control.Messages
open Audiopipe.Control.ServerTasks
open Audiopipe.Control.StreamIds
open Audiopipe.Control.RequestLedger
open Audiopipe.Streamer.PacketFormat
open Audiopipe.Streamer.Sender
open Audiopipe.Session.AudioPath
open Audiopipe.Session.ClientTasks
open Audiopipe.Session.ClientLocks
open Audiopipe.Session.ControlNetwork

/-! ## The server's side -/

section Server

variable {s next : Server} {action : ServerTasks.Action} {k : ℕ}

/-- A receiver for the connection packet has this port. -/
def Listens (s : Server) (port : UInt16) : Prop :=
  ∃ h receiver,
    s.receivers h = some receiver ∧ receiver.port = port ∧
      receiver.sel = streamSelector

/-- The server works on the request of a client, or has given it up. -/
def Opening (s : Server) (c : Connection) : Prop :=
  match c.phase with
  | .openLockMixer _ sel => sel = streamSelector
  | .openCallback _ sel => sel = streamSelector
  | .openLockHandles _ sel h =>
      sel = streamSelector ∧
        ∃ receiver,
          s.receivers h = some receiver ∧ receiver.sel = streamSelector
  | .openRespond id sel port =>
      sel = streamSelector ∧ id ∈ c.opened ∧ Listens s port
  | .logLockHandles | .ended | .panicked => True
  | _ => False

/-- The connection waits for requests or is being cleaned up. -/
def Idle : Phase → Prop
  | .reading | .removeLockHandles _ | .logLockHandles | .ended => True
  | _ => False

/--
How far the server has come with the request of the client on connection `k`:
the requests that it has not read, and the responses that it has sent.
-/
inductive Served (s : Server) (k : ℕ) :
    List ControlRequest → List ControlResponse → Prop where
  | unread
      (unused :
        ∀ c, s.connections k = some c →
          c.currentId = none ∧ c.exchanges = [] ∧
            (c.phase = .reading ∨ c.phase = .ended)) :
      Served s k [.openStream streamSelector] []
  | opening (c : Connection) (here : s.connections k = some c)
      (exchanges : c.exchanges = []) (working : Opening s c) :
      Served s k [] []
  | granted (id : Uuid) (port : UInt16) (c : Connection)
      (here : s.connections k = some c)
      (exchanges :
        c.exchanges =
          [(.openStream streamSelector,
            .stream id port s.bufferSize s.sampleRate)])
      (own : id ∈ c.opened) (listens : Listens s port)
      (idle : Idle c.phase) :
      Served s k [] [.stream id port s.bufferSize s.sampleRate]

theorem Listens.stable (move : Move s action next) {port : UInt16}
    (listens : Listens s port) :
    Listens next port := by
  rcases listens with ⟨h, receiver, there, samePort, sameSel⟩
  rcases receivers_kept move there with ⟨later, still, port', sel'⟩
  exact ⟨h, later, still, port'.trans samePort, sel'.trans sameSel⟩

theorem Opening.stable (move : Move s action next) {c : Connection}
    (opening : Opening s c) :
    Opening next c := by
  unfold Opening at opening ⊢
  split at opening
  · exact opening
  · exact opening
  · rcases opening with ⟨sel, receiver, there, sameSel⟩
    rcases receivers_kept move there with ⟨later, still, _, sel'⟩
    exact ⟨sel, later, still, sel'.trans sameSel⟩
  · exact ⟨opening.1, opening.2.1, opening.2.2.stable move⟩
  · trivial
  · trivial
  · trivial
  · exact opening.elim

/-- The steps of the others do not concern connection `k`. -/
theorem Served.stable (move : Move s action next)
    (different : connectionOf action ≠ some k)
    {requests : List ControlRequest} {answers : List ControlResponse}
    (served : Served s k requests answers) :
    Served next k requests answers := by
  have same := connections_of_ne move different
  rcases announced_constant move with ⟨sameSize, sameRate⟩
  cases served with
  | unread unused => exact .unread (by rw [same]; exact unused)
  | opening c here exchanges working =>
      exact .opening c (same.trans here) exchanges (working.stable move)
  | granted id port c here exchanges own listens idle =>
      rw [← sameSize, ← sameRate] at exchanges ⊢
      exact
        .granted id port c (same.trans here) exchanges own
          (listens.stable move) idle

/-- A connection that is at work works on the request of the client. -/
theorem Served.busy {requests : List ControlRequest}
    {answers : List ControlResponse} (served : Served s k requests answers)
    {c : Connection} (here : s.connections k = some c)
    (busy : ¬ Idle c.phase) :
    requests = [] ∧ answers = [] ∧ c.exchanges = [] ∧ Opening s c := by
  cases served with
  | unread unused =>
      rcases (unused c here).2.2 with reading | ended
      · exact (busy (by rw [reading]; trivial)).elim
      · exact (busy (by rw [ended]; trivial)).elim
  | opening c' here' exchanges working =>
      cases here.symm.trans here'
      exact ⟨rfl, rfl, exchanges, working⟩
  | granted id port c' here' exchanges own listens idle =>
      cases here.symm.trans here'
      exact (busy idle).elim

/-- A connection that goes on with the request of the client. -/
theorem Served.goesOn {rest : List ControlRequest}
    {answers : List ControlResponse} (served : Served s k rest answers)
    {c moved : Connection} (here : s.connections k = some c)
    (busy : ¬ Idle c.phase)
    (there : next.connections k = some moved)
    (sameExchanges : moved.exchanges = c.exchanges)
    (works : Opening s c → Opening next moved) :
    Served next k rest (answers ++ []) := by
  rcases served.busy here busy with ⟨rfl, rfl, exchanges, working⟩
  exact
    .opening moved there (sameExchanges.trans exchanges) (works working)

/-- The connection reads the request of the client. -/
theorem Served.reads {request : ControlRequest} {newId : Uuid}
    {rest : List ControlRequest} {answers : List ControlResponse}
    (served :
      Served s k (taken (.request k request newId) k ++ rest) answers)
    {c : Connection} (here : s.connections k = some c) :
    request = .openStream streamSelector ∧ rest = [] ∧ answers = [] ∧
      c.exchanges = [] := by
  have read : taken (.request k request newId) k = [request] :=
    if_pos rfl
  rw [read, List.singleton_append] at served
  cases served with
  | unread unused => exact ⟨rfl, rfl, rfl, (unused c here).2.1⟩

/-- A connection that stays idle. -/
theorem Served.stays (move : Move s action next)
    {rest : List ControlRequest}
    {answers : List ControlResponse} (served : Served s k rest answers)
    {c moved : Connection} (here : s.connections k = some c)
    (there : next.connections k = some moved)
    (sameExchanges : moved.exchanges = c.exchanges)
    (sameOpened : moved.opened = c.opened) (idle : Idle moved.phase)
    (works : Opening s c → Opening next moved)
    (unread :
      c.currentId = none → c.phase = .reading ∨ c.phase = .ended →
        moved.currentId = none ∧
          (moved.phase = .reading ∨ moved.phase = .ended)) :
    Served next k rest (answers ++ []) := by
  rcases announced_constant move with ⟨sameSize, sameRate⟩
  rw [List.append_nil]
  cases served with
  | unread unused =>
      rcases unused c here with ⟨current, exchanges, place⟩
      refine .unread fun c' there' => ?_
      cases there.symm.trans there'
      rcases unread current place with ⟨current', place'⟩
      exact ⟨current', sameExchanges.trans exchanges, place'⟩
  | opening c' here' exchanges working =>
      cases here.symm.trans here'
      exact
        .opening moved there (sameExchanges.trans exchanges)
          (works working)
  | granted id port c' here' exchanges own listens _ =>
      cases here.symm.trans here'
      rw [← sameSize, ← sameRate] at exchanges ⊢
      exact
        .granted id port moved there (sameExchanges.trans exchanges)
          (sameOpened ▸ own) (listens.stable move) idle

/-- What a step of connection `k` makes of the request of the client. -/
theorem Served.own (move : Move s action next)
    (mine : connectionOf action = some k)
    {rest : List ControlRequest} {answers : List ControlResponse}
    (served : Served s k (taken action k ++ rest) answers) :
    Served next k rest (answers ++ given s action k) := by
  have placed :
      ∀ {server : Server} {moved : Connection},
        server.connections = Function.update s.connections k (some moved) →
          server.connections k = some moved := by
    intro server moved connections
    rw [connections, Function.update_self]
  cases move with
  | accept unused =>
      cases mine
      cases served with
      | unread fresh =>
          refine .unread fun c there => ?_
          rw [placed rfl] at there
          cases there
          exact ⟨rfl, rfl, .inl rfl⟩
      | opening c here => cases unused.symm.trans here
      | granted id port c here => cases unused.symm.trans here
  | requestOpen here reading fresh =>
      cases mine
      rcases served.reads here with ⟨same, rfl, rfl, exchanges⟩
      refine .opening _ (placed rfl) exchanges ?_
      exact ControlRequest.openStream.inj same
  | requestClose here reading =>
      cases mine
      rcases served.reads here with ⟨same, _⟩
      cases same
  | readErrorCurrent here reading current =>
      cases mine
      refine
        served.stays (.readErrorCurrent here reading current) here
          (placed rfl) rfl rfl trivial ?_ ?_
      · intro working
        rw [Opening, reading] at working
        exact working.elim
      · intro unread
        cases current.symm.trans unread
  | readErrorNone here reading current =>
      cases mine
      exact
        served.stays (.readErrorNone here reading current) here
          (placed rfl) rfl rfl trivial (fun _ => trivial)
          fun _ _ => ⟨current, .inr rfl⟩
  | lockMixer here waiting free =>
      cases mine
      refine
        served.goesOn here (by rw [waiting]; exact not_false) (placed rfl)
          rfl ?_
      intro working
      rw [Opening, waiting] at working
      exact working
  | @callbackOk _ h port c id sel here calling unused =>
      cases mine
      refine
        served.goesOn here (by rw [calling]; exact not_false) (placed rfl)
          rfl ?_
      intro working
      rw [Opening, calling] at working
      exact
        ⟨working, .spawned sel port,
          by simp [Server.setReceiver, Server.setConnection], working⟩
  | callbackError here calling =>
      cases mine
      refine
        served.goesOn here (by rw [calling]; exact not_false) (placed rfl)
          rfl ?_
      exact fun _ => trivial
  | insert here waiting free =>
      cases mine
      refine
        served.goesOn here (by rw [waiting]; exact not_false) (placed rfl)
          rfl ?_
      intro working
      rw [Opening, waiting] at working
      rcases working with ⟨sel, receiver, there, sameSel⟩
      refine ⟨sel, List.mem_cons_self .., _, receiver, there, ?_, sameSel⟩
      simp [Server.portOf, there]
  | takeOut here waiting free found =>
      cases mine
      have busy := served.busy here (by rw [waiting]; exact not_false)
      simp [Opening, waiting] at busy
  | notFound here waiting free missing =>
      cases mine
      have busy := served.busy here (by rw [waiting]; exact not_false)
      simp [Opening, waiting] at busy
  | removeHandle here waiting free =>
      cases mine
      refine
        served.stays (.removeHandle here waiting free) here (placed rfl)
          rfl rfl trivial (fun _ => trivial) ?_
      intro _ place
      simp [waiting] at place
  | log here waiting free =>
      cases mine
      refine
        served.stays (.log here waiting free) here (placed rfl) rfl rfl
          trivial (fun _ => trivial) ?_
      intro _ place
      simp [waiting] at place
  | stopSent here stopping there running room =>
      cases mine
      have busy := served.busy here (by rw [stopping]; exact not_false)
      simp [Opening, stopping] at busy
  | stopPanic here stopping there gone =>
      cases mine
      have busy := served.busy here (by rw [stopping]; exact not_false)
      simp [Opening, stopping] at busy
  | @respondStream _ c id sel port here responding =>
      cases mine
      rcases served.busy here (by rw [responding]; exact not_false) with
        ⟨rfl, rfl, exchanges, working⟩
      rw [Opening, responding] at working
      rcases working with ⟨rfl, own, listens⟩
      have response :
          given s (.respond k true) k =
            [.stream id port s.bufferSize s.sampleRate] := by
        simp [given, phaseOf_eq here, responding, responseAt]
      rw [response]
      have still : Listens _ port :=
        listens.stable (Move.respondStream here responding)
      refine .granted id port _ (placed rfl) ?_ own still trivial
      simp [Connection.answered, exchanges, Server.setConnection]
  | respondStreamFailed here responding =>
      cases mine
      refine
        served.goesOn here (by rw [responding]; exact not_false)
          (placed rfl) rfl ?_
      exact fun _ => trivial
  | respondOk here responding =>
      cases mine
      have busy := served.busy here (by rw [responding]; exact not_false)
      simp [Opening, responding] at busy
  | respondOkFailed here responding =>
      cases mine
      have busy := served.busy here (by rw [responding]; exact not_false)
      simp [Opening, responding] at busy
  | respondNotFound here responding =>
      cases mine
      have busy := served.busy here (by rw [responding]; exact not_false)
      simp [Opening, responding] at busy
  | respondNotFoundFailed here responding =>
      cases mine
      have busy := served.busy here (by rw [responding]; exact not_false)
      simp [Opening, responding] at busy
  | datagram there receiving => cases mine
  | receiverLock there waiting free => cases mine
  | played there playing => cases mine
  | takeStop there running waiting => cases mine

/-- The other connections read and send nothing. -/
theorem nothing_passed (s : Server) {action : ServerTasks.Action} {k : ℕ}
    (different : connectionOf action ≠ some k) :
    taken action k = [] ∧ given s action k = [] := by
  cases action with
  | request j request newId =>
      exact ⟨if_neg fun same => different (congrArg some same), rfl⟩
  | respond j sent =>
      cases sent with
      | true =>
          exact ⟨rfl, if_neg fun same => different (congrArg some same)⟩
      | false => exact ⟨rfl, rfl⟩
  | _ => exact ⟨rfl, rfl⟩

/-- Every step of the server serves the client on. -/
theorem Served.step (enabled : s.step action = some next)
    {rest : List ControlRequest} {answers : List ControlResponse}
    (served : Served s k (taken action k ++ rest) answers) :
    Served next k rest (answers ++ given s action k) := by
  have move := Server.step_move enabled
  by_cases mine : connectionOf action = some k
  · exact served.own move mine
  · rcases nothing_passed s mine with ⟨takes, gives⟩
    rw [takes, List.nil_append] at served
    rw [gives, List.append_nil]
    exact served.stable move mine

end Server

/-! ## The client's side -/

section Client

variable {channelCount bufferSize : ℕ} {config : TcpClient}
variable {client next : Client channelCount}
variable {action : ClientTasks.Action channelCount bufferSize}

/-- The parameters of a sender are those of the stream `id`. -/
structure WorksWith (config : TcpClient) (id : Uuid)
    (size rate : ℕ) (sender : UdpClient) : Prop where
  connectionId : sender.connectionId = id
  bufsize : sender.bufsize = size
  sampleRate : sender.sampleRate = UInt64.ofNat rate
  sel : sender.sel = config.sel

/-- What has been read, by the place where the task of the client stands. -/
def Read (client : Client channelCount)
    (answers pending : List ControlResponse) : Prop :=
  match client.client with
  | .waiting .connecting => False
  | .waiting .reading =>
      client.started = 0 ∧ pending = answers ∨
        client.started = 1 ∧ pending = []
  | .waiting (.callback id size rate) =>
      client.started = 0 ∧ pending = [] ∧
        ∃ port, answers = [.stream id port size rate]
  | .waiting (.storing _) => client.started = 1 ∧ pending = []
  | .ended result => result ≠ .closed

/--
What the client has made of the answers to its request, of which some may
still be on their way.
-/
structure Heard (config : TcpClient) (client : Client channelCount)
    (answers pending : List ControlResponse) : Prop where
  once : client.started ≤ 1
  works :
    client.started = 1 →
      ∃ id port size rate,
        answers = [.stream id port size rate] ∧
          Each (fun sender _ => WorksWith config id size rate sender)
            client
  read : Read client answers pending
  left : pending ⊆ answers

/-- What a step does to the task of the client. -/
inductive TaskTurn (client : Client channelCount) :
    ClientTasks.Action channelCount bufferSize → Client channelCount →
      Prop where
  | aside (action : ClientTasks.Action channelCount bufferSize)
      (next : Client channelCount) (reads : heardBy action = [])
      (task : next.client = client.client)
      (started : next.started = client.started) :
      TaskTurn client action next
  | task (action : ClientAction) (next : Client channelCount)
      (stepped : clientStep client.client action = some next.client)
      (started : next.started = client.started) :
      TaskTurn client (.client action) next
  | started (id : Uuid) (size rate : ℕ) (next : Client channelCount)
      (calling : client.client = .waiting (.callback id size rate))
      (task : next.client = .waiting (.storing client.started))
      (started : next.started = client.started + 1) :
      TaskTurn client .senderStarted next
  | stored (k : ℕ) (next : Client channelCount)
      (storing : client.client = .waiting (.storing k))
      (task : next.client = .waiting .reading)
      (started : next.started = client.started) :
      TaskTurn client .storeHandle next
  | left (action : ClientTasks.Action channelCount bufferSize)
      (next : Client channelCount) (result : ClientEnd)
      (reads : heardBy action = []) (task : next.client = .ended result)
      (clean : result ≠ .closed)
      (started : next.started = client.started) :
      TaskTurn client action next

/-- Every enabled step is one of the turns. -/
theorem step_turn (enabled : Client.step config client action = some next) :
    TaskTurn client action next := by
  cases action with
  | client action =>
      simp only [Client.step] at enabled
      split at enabled
      · next task stepped =>
          cases enabled
          exact .task action _ stepped rfl
      · cases enabled
  | senderStarted =>
      simp only [Client.step] at enabled
      split at enabled
      · next id size rate calling =>
          cases enabled
          exact .started id size rate _ calling rfl rfl
      · cases enabled
  | storeHandle =>
      simp only [Client.step] at enabled
      split at enabled
      · next k storing free =>
          cases enabled
          exact .stored k _ storing rfl rfl
      · cases enabled
  | takeStop =>
      simp only [Client.step] at enabled
      split at enabled
      · cases enabled
        exact .left _ _ .stopped rfl rfl (by decide) rfl
      · cases enabled
  | takeHangUp =>
      simp only [Client.step] at enabled
      split at enabled
      · split at enabled
        · cases enabled
          exact .left _ _ .hungUp rfl rfl (by decide) rfl
        · cases enabled
      · cases enabled
  | callStop j =>
      simp only [Client.step] at enabled
      split at enabled
      · split at enabled
        · cases enabled
        · cases enabled
          exact .aside _ _ rfl rfl rfl
      · cases enabled
  | lockHandle j =>
      simp only [Client.step] at enabled
      split at enabled
      · split at enabled
        · cases enabled
          exact .aside _ _ rfl rfl rfl
        · cases enabled
          rcases Client.endStop_frame config client j with
            ⟨_, _, started, _, task⟩
          exact .aside _ _ rfl task started
      · cases enabled
  | sendStop j =>
      simp only [Client.step] at enabled
      split at enabled
      · split at enabled
        · cases enabled
          rcases Client.endStop_frame config _ j with
            ⟨_, _, started, _, task⟩
          exact .aside _ _ rfl task started
        · cases enabled
        · cases enabled
          exact .aside _ _ rfl rfl rfl
      · cases enabled
  | command =>
      simp only [Client.step] at enabled
      split at enabled
      · split at enabled
        · cases enabled
          exact .aside _ _ rfl rfl rfl
        · cases enabled
      · cases enabled
  | sender k action =>
      simp only [Client.step] at enabled
      split at enabled
      · split at enabled
        · cases enabled
          exact .aside _ _ rfl rfl rfl
        · cases enabled
      · cases enabled
  | _ =>
      simp only [Client.step] at enabled
      split at enabled
      · cases enabled
        exact .aside _ _ rfl rfl rfl
      · cases enabled

/-- A running sender keeps its parameters. -/
theorem each_kept {property : UdpClient → Prop}
    (effect : Client.Effect config client action next)
    (each : Each (fun sender _ => property sender) client)
    (sameStarted : next.started = client.started) :
    Each (fun sender _ => property sender) next := by
  cases effect with
  | sender k action task task' lock there move =>
      intro k' sender place waiting running
      by_cases same : k' = k
      · subst same
        simp only [Function.update_self, Option.some.injEq] at running
        subst running
        cases move with
        | locked | woken | filled | sent => exact each _ _ _ _ there
      · simp only [Function.update_of_ne same] at running
        exact each k' sender place waiting running
  | started id bufsize sampleRate waiting =>
      exact (Nat.succ_ne_self _ sameStarted).elim
  | queued j k sender place next there senders lock started =>
      intro k' sender' place' waiting running
      rw [senders] at running
      by_cases same : k' = k
      · subst same
        simp only [Function.update_self, Option.some.injEq] at running
        cases running
        exact each _ _ _ _ there
      · simp only [Function.update_of_ne same] at running
        exact each k' sender' place' waiting running
  | otherLocked free => exact each
  | otherUnlocked held => exact each
  | aside action next notSender senders lock started ended =>
      intro k sender place waiting running
      rw [senders] at running
      exact each k sender place waiting running

/-- The first sender works with the stream of the callback. -/
theorem each_started (sound : Sound config client)
    (unstarted : client.started = 0) {id : Uuid} {size rate : ℕ}
    (calling : client.client = .waiting (.callback id size rate))
    (enabled :
      Client.step config client
          (.senderStarted : ClientTasks.Action channelCount bufferSize) =
        some next) :
    Each (fun sender _ => WorksWith config id size rate sender) next := by
  simp only [Client.step, calling] at enabled
  cases enabled
  intro k sender place waiting running
  by_cases first : k = client.started
  · subst first
    simp only [Function.update_self, Option.some.injEq, newSender]
      at running
    split at running
    · cases running
      exact ⟨rfl, rfl, rfl, rfl⟩
    · cases running
  · simp only [Function.update_of_ne first] at running
    rw [sound.fresh k (by omega)] at running
    cases running

theorem Read.ended {answers pending : List ControlResponse}
    {result : ClientEnd} (past : client.client = .ended result)
    (clean : result ≠ .closed) :
    Read client answers pending := by
  rw [Read, past]
  exact clean

/-- A client that has not started another sender. -/
theorem Heard.kept {answers before pending : List ControlResponse}
    (enabled : Client.step config client action = some next)
    (heard : Heard config client answers before)
    (sameStarted : next.started = client.started)
    (read : Read next answers pending) (left : pending ⊆ before) :
    Heard config next answers pending where
  once := by
    rw [sameStarted]
    exact heard.once
  works := by
    intro once
    rw [sameStarted] at once
    rcases heard.works once with ⟨id, port, size, rate, answered, each⟩
    exact
      ⟨id, port, size, rate, answered,
        each_kept (Client.step_effect enabled) each sameStarted⟩
  read := read
  left := List.Subset.trans left heard.left

/-- The client reads its answer. -/
theorem Read.hearing
    {answers pending : List ControlResponse} {response : ControlResponse}
    (streams :
      ∀ response ∈ answers,
        ∃ id port size rate, response = .stream id port size rate)
    (single : answers.length ≤ 1)
    (arrived : response :: pending = answers)
    (unstarted : next.started = 0)
    (stepped :
      clientStep (.waiting .reading) (.response response) =
        some next.client) :
    Read next answers pending := by
  subst arrived
  have nothing : pending = [] := by
    simpa using single
  rcases streams response (List.mem_cons_self ..) with
    ⟨id, port, size, rate, rfl⟩
  have calling : next.client = .waiting (.callback id size rate) :=
    (Option.some.inj stepped).symm
  rw [Read, calling, nothing]
  exact ⟨unstarted, rfl, port, rfl⟩

/-- Every step of a client whose answers are streams. -/
theorem Heard.step
    {answers pending : List ControlResponse} (sound : Sound config client)
    (enabled : Client.step config client action = some next)
    (streams :
      ∀ response ∈ answers,
        ∃ id port size rate, response = .stream id port size rate)
    (single : answers.length ≤ 1)
    (heard : Heard config client answers (heardBy action ++ pending)) :
    Heard config next answers pending := by
  have read := heard.read
  have left : pending ⊆ heardBy action ++ pending :=
    List.subset_append_right _ _
  cases step_turn enabled with
  | aside action next reads task started =>
      refine heard.kept enabled started ?_ left
      rw [reads, List.nil_append] at read
      unfold Read at read ⊢
      rw [task, started]
      exact read
  | task action next stepped started =>
      refine heard.kept enabled started ?_ left
      cases place : client.client with
      | ended result =>
          rw [place] at stepped
          cases stepped
      | waiting await =>
          rw [Read, place] at read
          rw [place] at stepped
          cases await with
          | connecting => exact read.elim
          | storing k => cases stepped
          | callback id size rate =>
              cases action with
              | callbackPanics =>
                  exact .ended (Option.some.inj stepped).symm (by decide)
              | _ => cases stepped
          | reading =>
              cases action with
              | readFails e =>
                  exact .ended (Option.some.inj stepped).symm (by simp)
              | response response =>
                  rcases read with ⟨unstarted, arrived⟩ | ⟨_, nothing⟩
                  · exact
                      .hearing streams single arrived
                        (started.trans unstarted) stepped
                  · cases nothing
              | _ => cases stepped
  | started id size rate next calling task started =>
      rw [Read, calling] at read
      rcases read with ⟨unstarted, nothing, port, answered⟩
      have once : next.started = 1 := by rw [started, unstarted]
      refine ⟨by rw [once], fun _ => ?_, ?_,
        List.Subset.trans left heard.left⟩
      · exact
          ⟨id, port, size, rate, answered,
            each_started sound unstarted calling enabled⟩
      · rw [Read, task]
        exact ⟨once, nothing⟩
  | stored k next storing task started =>
      refine heard.kept enabled started ?_ left
      unfold Read at read ⊢
      rw [storing] at read
      rw [task, started]
      exact .inr read
  | left action next result reads task clean started =>
      refine heard.kept enabled started ?_ left
      unfold Read
      rw [task]
      exact clean

/-- The answer is given while nobody has read one. -/
theorem Heard.answered {answers pending response : List ControlResponse}
    (heard : Heard config client answers pending)
    (single : (answers ++ response).length ≤ 1) :
    Heard config client (answers ++ response) (pending ++ response) := by
  cases response with
  | nil =>
      rw [List.append_nil, List.append_nil]
      exact heard
  | cons first rest =>
      have none : answers = [] := by
        cases answers with
        | nil => rfl
        | cons before others => simp at single
      subst none
      have unstarted : client.started ≠ 1 := by
        intro once
        rcases heard.works once with ⟨_, _, _, _, answered, _⟩
        cases answered
      refine
        ⟨heard.once, fun once => (unstarted once).elim, ?_,
          List.append_subset.mpr
            ⟨List.subset_append_of_subset_left _ heard.left,
              List.subset_append_right _ _⟩⟩
      have read := heard.read
      unfold Read at read ⊢
      split at read
      · exact read.elim
      · rcases read with ⟨before, rfl⟩ | ⟨once, _⟩
        · exact .inl ⟨before, rfl⟩
        · exact (unstarted once).elim
      · rcases read with ⟨_, _, _, answered⟩
        cases answered
      · exact (unstarted read.1).elim
      · exact read

end Client

/-- At most one answer is given, and it is a stream. -/
theorem Served.streams {s : Server} {k : ℕ}
    {requests : List ControlRequest} {answers : List ControlResponse}
    (served : Served s k requests answers) :
    answers.length ≤ 1 ∧
      ∀ response ∈ answers,
        ∃ id port size rate, response = .stream id port size rate := by
  cases served with
  | unread unused => exact ⟨Nat.zero_le _, fun _ never => nomatch never⟩
  | opening c here exchanges working =>
      exact ⟨Nat.zero_le _, fun _ never => nomatch never⟩
  | granted id port c here exchanges own listens idle =>
      refine ⟨Nat.le_refl _, fun response member => ?_⟩
      exact ⟨id, port, _, _, List.mem_singleton.mp member⟩

end Audiopipe.Session.StreamGrants
