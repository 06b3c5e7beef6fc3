import Audiopipe.Foundation.GuardedRuns
import Audiopipe.Control.Messages
import Audiopipe.Streamer.Sender

/-!
# The tasks of a client

A `TcpClient` has a task that selects between the control connection and a
command channel, and for every stream that the server grants it starts a
sender task.  The handle of the last sender is shared with `TcpClient::stop`,
which puts a stop command into the channel of that sender and another one
into the channel of the client's task.

The steps are what a task does from one await to the next.  A task whose
handle is dropped keeps running.  Time is left out: a sleep may end at any
moment.  The global input mixer has been set up and has `channelCount`
channels.
-/

namespace Audiopipe.Session.ClientTasks

open Audiopipe.Foundation.GuardedRuns
open Audiopipe.Mixing.TrackSelector
open Audiopipe.Mixing.RingTransfer
open Audiopipe.Streamer.PacketFormat
open Audiopipe.Streamer.Sender
open Audiopipe.Control.Messages

variable {channelCount bufferSize : ℕ}

/-! ## A sender -/

/-- The awaits of `udp_client`; all but the first are under the lock. -/
inductive SenderAwait (channelCount : ℕ) where
  | lockingMixer
  | sleeping
  | reading (channels : MixerTrack (Fin channelCount))
  | sending (packet : AudioPacket)

/-- The guard of the global mixer lives to the end of the iteration. -/
def SenderAwait.holdsMixer : SenderAwait channelCount → Bool
  | .lockingMixer => false
  | _ => true

inductive SenderEnd where
  | mixerError (e : MixerError)
  | panicked
deriving DecidableEq, Repr

/--
The task of a sender and whether a stop command waits in its channel, which
has one place.  The loop never takes it.
-/
inductive SenderTask (channelCount : ℕ) where
  | running (client : UdpClient) (place : SenderAwait channelCount)
      (stopWaiting : Bool)
  | ended (result : SenderEnd)

def SenderTask.holdsMixer : SenderTask channelCount → Bool
  | .running _ place _ => place.holdsMixer
  | .ended _ => false

/--
`AudioSenderHandle::new`.  A buffer of `2 ^ 63` bytes or more is beyond what
a `Vec` may hold, and its allocation panics; so does the product of the sizes
if it is not a machine word.
-/
def newSender
    (sel : MixerTrackSelector) (connectionId : Uuid)
    (bufsize sampleRate : ℕ) : SenderTask channelCount :=
  if allocated : 4 * (bufsize * sel.channelCount) < 2 ^ 63 then
    .running
      { bufsize := bufsize
        sampleRate := UInt64.ofNat sampleRate
        connectionId := connectionId
        sel := sel
        allocated := allocated }
      .lockingMixer false
  else
    .ended .panicked

/-- Who holds the lock of the global input mixer. -/
inductive MixerHolder where
  | sender (k : ℕ)
  | other
deriving DecidableEq

inductive SenderAction (channelCount bufferSize : ℕ) where
  | lockMixer
  | wake
  | read (seen : List (Mixer F32 channelCount bufferSize))
      (timestamp : SystemTime)
  | send
  | sendFails

/-- A step of sender `k`: the task and the lock of the mixer after it. -/
def senderStep (k : ℕ)
    (task : SenderTask channelCount) (lock : Option MixerHolder) :
    SenderAction channelCount bufferSize →
      Option (SenderTask channelCount × Option MixerHolder)
  | .lockMixer =>
      match task, lock with
      | .running client .lockingMixer waiting, none =>
          some (.running client .sleeping waiting, some (.sender k))
      | _, _ => none
  | .wake =>
      match task with
      | .running client .sleeping waiting =>
          match getChannel channelCount client.sel with
          | .ok channels =>
              some (.running client (.reading channels) waiting, lock)
          | .error e => some (.ended (.mixerError e), none)
      | _ => none
  | .read seen timestamp =>
      match task with
      | .running client (.reading channels) waiting =>
          if sized :
              seen.length = client.bufsize * client.sel.channelCount then
            let packet :=
              client.packet timestamp
                ((readBuffer (.start channels channels.channelCount)
                  seen).map Prod.snd)
                (by rw [List.length_map, length_readBuffer, sized])
            some (.running client (.sending packet) waiting, lock)
          else
            none
      | _ => none
  | .send =>
      match task with
      | .running client (.sending _) waiting =>
          some (.running client .lockingMixer waiting, none)
      | _ => none
  | .sendFails =>
      match task with
      | .running _ (.sending _) _ => some (.ended .panicked, none)
      | _ => none

/-- The steps of a sender, one rule for each way in which one goes. -/
inductive SenderMove (k : ℕ) :
    SenderTask channelCount → Option MixerHolder →
      SenderAction channelCount bufferSize →
        SenderTask channelCount → Option MixerHolder → Prop where
  | locked (client : UdpClient) (waiting : Bool)
      (lock : Option MixerHolder) (free : lock = none) :
      SenderMove k (.running client .lockingMixer waiting) lock .lockMixer
        (.running client .sleeping waiting) (some (.sender k))
  | woken (client : UdpClient) (waiting : Bool)
      (lock : Option MixerHolder)
      (channels : MixerTrack (Fin channelCount))
      (resolved : getChannel channelCount client.sel = .ok channels) :
      SenderMove k (.running client .sleeping waiting) lock .wake
        (.running client (.reading channels) waiting) lock
  | unresolved (client : UdpClient) (waiting : Bool)
      (lock : Option MixerHolder) (e : MixerError)
      (resolved : getChannel channelCount client.sel = .error e) :
      SenderMove k (.running client .sleeping waiting) lock .wake
        (.ended (.mixerError e)) none
  | filled (client : UdpClient) (waiting : Bool)
      (lock : Option MixerHolder)
      (channels : MixerTrack (Fin channelCount))
      (seen : List (Mixer F32 channelCount bufferSize))
      (timestamp : SystemTime) (packet : AudioPacket) :
      SenderMove k (.running client (.reading channels) waiting) lock
        (.read seen timestamp)
        (.running client (.sending packet) waiting) lock
  | sent (client : UdpClient) (waiting : Bool)
      (lock : Option MixerHolder) (packet : AudioPacket) :
      SenderMove k (.running client (.sending packet) waiting) lock .send
        (.running client .lockingMixer waiting) none
  | failed (client : UdpClient) (waiting : Bool)
      (lock : Option MixerHolder) (packet : AudioPacket) :
      SenderMove k (.running client (.sending packet) waiting) lock
        .sendFails (.ended .panicked) none

theorem senderStep_move
    {k : ℕ} {task task' : SenderTask channelCount}
    {lock lock' : Option MixerHolder}
    {action : SenderAction channelCount bufferSize}
    (stepped : senderStep k task lock action = some (task', lock')) :
    SenderMove k task lock action task' lock' := by
  cases action with
  | lockMixer =>
      simp only [senderStep] at stepped
      split at stepped
      · next client waiting =>
          cases stepped
          exact .locked client waiting none rfl
      · cases stepped
  | wake =>
      simp only [senderStep] at stepped
      split at stepped
      · next client waiting =>
          split at stepped
          · next channels resolved =>
              cases stepped
              exact .woken client waiting lock channels resolved
          · next e resolved =>
              cases stepped
              exact .unresolved client waiting lock e resolved
      · cases stepped
  | read seen timestamp =>
      simp only [senderStep] at stepped
      split at stepped
      · next client channels waiting =>
          split at stepped
          · cases stepped
            exact .filled client waiting lock channels seen timestamp _
          · cases stepped
      · cases stepped
  | send =>
      simp only [senderStep] at stepped
      split at stepped
      · next client packet waiting =>
          cases stepped
          exact .sent client waiting lock packet
      · cases stepped
  | sendFails =>
      simp only [senderStep] at stepped
      split at stepped
      · next client packet waiting =>
          cases stepped
          exact .failed client waiting lock packet
      · cases stepped

/-- A sender takes the lock, keeps what it has of it, or gives it back. -/
theorem SenderMove.lock
    {k : ℕ} {task task' : SenderTask channelCount}
    {lock lock' : Option MixerHolder}
    {action : SenderAction channelCount bufferSize}
    (move : SenderMove k task lock action task' lock') :
    (lock = none ∧ lock' = some (.sender k) ∧ task'.holdsMixer = true) ∨
      (lock' = lock ∧ task'.holdsMixer = task.holdsMixer) ∨
      (task.holdsMixer = true ∧ lock' = none ∧
        task'.holdsMixer = false) := by
  cases move with
  | locked client waiting lock free => exact .inl ⟨free, rfl, rfl⟩
  | woken client waiting lock channels resolved =>
      exact .inr (.inl ⟨rfl, rfl⟩)
  | unresolved client waiting lock e resolved =>
      exact .inr (.inr ⟨rfl, rfl, rfl⟩)
  | filled client waiting lock channels seen timestamp packet =>
      exact .inr (.inl ⟨rfl, rfl⟩)
  | sent client waiting lock packet => exact .inr (.inr ⟨rfl, rfl, rfl⟩)
  | failed client waiting lock packet =>
      exact .inr (.inr ⟨rfl, rfl, rfl⟩)

/-! ## The task of the client -/

inductive TcpClientError where
  | packetError (e : PacketError)
  | streamError (e : String)
deriving DecidableEq, Repr

/-- The awaits of `tcp_client`. -/
inductive ClientAwait where
  | connecting
  | reading
  | callback (id : Uuid) (bufsize sampleRate : ℕ)
  | storing (k : ℕ)

/-- How the task of the client ends; all but the last leave its `select!`. -/
inductive ClientEnd where
  | closed
  | failed (e : TcpClientError)
  | stopped
  | hungUp
  | panicked
deriving DecidableEq, Repr

inductive ClientTask where
  | waiting (place : ClientAwait)
  | ended (result : ClientEnd)

/--
What the target address, the control connection and the callback do to the
task.  An address that is not one of IPv4 panics at once.
-/
inductive ClientAction where
  | parseFails
  | connected
  | connectFails (e : TcpClientError)
  | response (response : ControlResponse)
  | readFails (e : PacketError)
  | callbackPanics

def clientStep : ClientTask → ClientAction → Option ClientTask
  | .waiting .connecting, .parseFails => some (.ended .panicked)
  | .waiting .connecting, .connected => some (.waiting .reading)
  | .waiting .connecting, .connectFails e => some (.ended (.failed e))
  | .waiting .reading, .response (.stream id _ bufsize sampleRate) =>
      some (.waiting (.callback id bufsize sampleRate))
  | .waiting .reading, .response .ok => some (.ended .panicked)
  | .waiting .reading, .response (.error _) => some (.ended .closed)
  | .waiting .reading, .readFails e =>
      some (.ended (.failed (.packetError e)))
  | .waiting (.callback _ _ _), .callbackPanics => some (.ended .panicked)
  | _, _ => none

/-! ## All tasks -/

/-- A call of `TcpClient::stop`; in the second await it holds the handle. -/
inductive StopCall where
  | lockingHandle
  | sendingStop (k : ℕ)
  | completed
  | panicked
deriving DecidableEq

/--
The selector of a client and whether it owns a sender of its command channel:
it does after `new`, while after `create` the caller has it.
-/
structure TcpClient where
  sel : MixerTrackSelector
  ownsChannel : Bool

/--
The task of a client, the senders it has started, the shared handle with its
lock, the lock of the global mixer, the calls of `stop` and how many of them
have not returned, the commands in the channel and whether the caller has
given up its end of the channel.
-/
structure Client (channelCount : ℕ) where
  client : ClientTask
  senders : ℕ → Option (SenderTask channelCount)
  started : ℕ
  handle : Option ℕ
  handleLock : Option ℕ
  mixerLock : Option MixerHolder
  stops : ℕ → Option StopCall
  calling : ℕ
  commands : ℕ
  hungUp : Bool

inductive Action (channelCount bufferSize : ℕ) where
  | client (action : ClientAction)
  | senderStarted
  | storeHandle
  | takeStop
  | takeHangUp
  | command
  | hangUp
  | callStop (j : ℕ)
  | lockHandle (j : ℕ)
  | sendStop (j : ℕ)
  | sender (k : ℕ) (action : SenderAction channelCount bufferSize)
  | otherLock
  | otherUnlock

namespace Client

def start (channelCount : ℕ) : Client channelCount where
  client := .waiting .connecting
  senders := fun _ => none
  started := 0
  handle := none
  handleLock := none
  mixerLock := none
  stops := fun _ => none
  calling := 0
  commands := 0
  hungUp := false

/-- Call `j` has returned. -/
def stopReturned (s : Client channelCount) (j : ℕ) (result : StopCall) :
    Client channelCount :=
  { s with
    stops := Function.update s.stops j (some result)
    calling := s.calling - 1 }

/-- The end of call `j`, after the handle. -/
def endStop (config : TcpClient) (s : Client channelCount) (j : ℕ) :
    Client channelCount :=
  if config.ownsChannel then
    match s.client with
    | .waiting _ =>
        { s.stopReturned j .completed with commands := s.commands + 1 }
    | .ended _ => s.stopReturned j .panicked
  else
    s.stopReturned j .completed

/--
The steps of a client.  The shared handle is assigned under its lock, after
the callback has returned.  A call that stops a sender which has ended panics.
A client that owns its channel is dropped together with it, which needs that
no call borrows it, and leaves nothing to call.
-/
def step (config : TcpClient) (s : Client channelCount) :
    Action channelCount bufferSize → Option (Client channelCount)
  | .client action =>
      match clientStep s.client action with
      | some client => some { s with client := client }
      | none => none
  | .senderStarted =>
      match s.client with
      | .waiting (.callback id bufsize sampleRate) =>
          some
            { s with
              client := .waiting (.storing s.started)
              senders :=
                Function.update s.senders s.started
                  (some (newSender config.sel id bufsize sampleRate))
              started := s.started + 1 }
      | _ => none
  | .storeHandle =>
      match s.client, s.handleLock with
      | .waiting (.storing k), none =>
          some { s with client := .waiting .reading, handle := some k }
      | _, _ => none
  | .takeStop =>
      match s.client, s.commands with
      | .waiting _, commands + 1 =>
          some { s with client := .ended .stopped, commands := commands }
      | _, _ => none
  | .takeHangUp =>
      match s.client with
      | .waiting _ =>
          if s.commands = 0 ∧ s.hungUp = true then
            some { s with client := .ended .hungUp }
          else
            none
      | .ended _ => none
  | .command =>
      match s.client with
      | .waiting _ =>
          if config.ownsChannel = false ∧ s.hungUp = false then
            some { s with commands := s.commands + 1 }
          else
            none
      | .ended _ => none
  | .hangUp =>
      if config.ownsChannel = false ∨ s.calling = 0 then
        some { s with hungUp := true }
      else
        none
  | .callStop j =>
      match s.stops j with
      | none =>
          if config.ownsChannel = true ∧ s.hungUp = true then
            none
          else
            some
              { s with
                stops := Function.update s.stops j (some .lockingHandle)
                calling := s.calling + 1 }
      | some _ => none
  | .lockHandle j =>
      match s.stops j, s.handleLock with
      | some .lockingHandle, none =>
          match s.handle with
          | some k =>
              some
                { s with
                  stops :=
                    Function.update s.stops j (some (.sendingStop k))
                  handleLock := some j }
          | none => some (s.endStop config j)
      | _, _ => none
  | .sendStop j =>
      match s.stops j with
      | some (.sendingStop k) =>
          match s.senders k with
          | some (.running client place false) =>
              some
                (endStop config
                  { s with
                    senders :=
                      Function.update s.senders k
                        (some (.running client place true))
                    handleLock := none } j)
          | some (.running _ _ true) => none
          | _ =>
              some { s.stopReturned j .panicked with handleLock := none }
      | _ => none
  | .sender k action =>
      match s.senders k with
      | some task =>
          match senderStep k task s.mixerLock action with
          | some (task', lock) =>
              some
                { s with
                  senders := Function.update s.senders k (some task')
                  mixerLock := lock }
          | none => none
      | none => none
  | .otherLock =>
      match s.mixerLock with
      | none => some { s with mixerLock := some .other }
      | some _ => none
  | .otherUnlock =>
      match s.mixerLock with
      | some .other => some { s with mixerLock := none }
      | _ => none

/-! ## What a step can do -/

/--
What a step does to the senders and the lock of the mixer.  A step aside does
nothing to them, and nothing to a client that is over.
-/
inductive Effect (config : TcpClient) (s : Client channelCount) :
    Action channelCount bufferSize → Client channelCount → Prop where
  | sender (k : ℕ) (action : SenderAction channelCount bufferSize)
      (task task' : SenderTask channelCount) (lock : Option MixerHolder)
      (there : s.senders k = some task)
      (move : SenderMove k task s.mixerLock action task' lock) :
      Effect config s (.sender k action)
        { s with
          senders := Function.update s.senders k (some task')
          mixerLock := lock }
  | started (id : Uuid) (bufsize sampleRate : ℕ)
      (waiting : s.client = .waiting (.callback id bufsize sampleRate)) :
      Effect config s .senderStarted
        { s with
          client := .waiting (.storing s.started)
          senders :=
            Function.update s.senders s.started
              (some (newSender config.sel id bufsize sampleRate))
          started := s.started + 1 }
  | queued (j k : ℕ) (client : UdpClient)
      (place : SenderAwait channelCount) (next : Client channelCount)
      (there : s.senders k = some (.running client place false))
      (senders :
        next.senders =
          Function.update s.senders k
            (some (.running client place true)))
      (lock : next.mixerLock = s.mixerLock)
      (started : next.started = s.started) :
      Effect config s (.sendStop j) next
  | otherLocked (free : s.mixerLock = none) :
      Effect config s .otherLock { s with mixerLock := some .other }
  | otherUnlocked (held : s.mixerLock = some .other) :
      Effect config s .otherUnlock { s with mixerLock := none }
  | aside (action : Action channelCount bufferSize)
      (next : Client channelCount)
      (notSender : ∀ k action', action ≠ .sender k action')
      (senders : next.senders = s.senders)
      (lock : next.mixerLock = s.mixerLock)
      (started : next.started = s.started)
      (ended :
        ∀ result, s.client = .ended result → next.client = s.client) :
      Effect config s action next

/-- The end of a call leaves the tasks and the locks alone. -/
theorem endStop_frame
    (config : TcpClient) (s : Client channelCount) (j : ℕ) :
    (s.endStop config j).senders = s.senders ∧
      (s.endStop config j).mixerLock = s.mixerLock ∧
      (s.endStop config j).started = s.started ∧
      (s.endStop config j).handleLock = s.handleLock ∧
      (s.endStop config j).client = s.client := by
  unfold endStop
  cases owns : config.ownsChannel with
  | false => exact ⟨rfl, rfl, rfl, rfl, rfl⟩
  | true =>
      cases client : s.client with
      | waiting place => exact ⟨rfl, rfl, rfl, rfl, client⟩
      | ended result => exact ⟨rfl, rfl, rfl, rfl, client⟩

variable {config : TcpClient} {s next : Client channelCount}

/-- Every enabled step has one of the effects. -/
theorem step_effect {action : Action channelCount bufferSize}
    (enabled : step config s action = some next) :
    Effect config s action next := by
  cases action with
  | client action =>
      simp only [step] at enabled
      split at enabled
      · next client stepped =>
          cases enabled
          refine .aside _ _ (by simp) rfl rfl rfl ?_
          intro result ended
          rw [ended] at stepped
          cases stepped
      · cases enabled
  | senderStarted =>
      simp only [step] at enabled
      split at enabled
      · next id bufsize sampleRate waiting =>
          cases enabled
          exact .started id bufsize sampleRate waiting
      · cases enabled
  | storeHandle =>
      simp only [step] at enabled
      split at enabled
      · next k waiting free =>
          cases enabled
          refine .aside _ _ (by simp) rfl rfl rfl ?_
          intro result ended
          cases ended.symm.trans waiting
      · cases enabled
  | takeStop =>
      simp only [step] at enabled
      split at enabled
      · next place commands waiting queued =>
          cases enabled
          refine .aside _ _ (by simp) rfl rfl rfl ?_
          intro result ended
          cases ended.symm.trans waiting
      · cases enabled
  | takeHangUp =>
      simp only [step] at enabled
      split at enabled
      · next place waiting =>
          split at enabled
          · cases enabled
            refine .aside _ _ (by simp) rfl rfl rfl ?_
            intro result ended
            cases ended.symm.trans waiting
          · cases enabled
      · cases enabled
  | command =>
      simp only [step] at enabled
      split at enabled
      · split at enabled
        · cases enabled
          exact .aside _ _ (by simp) rfl rfl rfl fun _ _ => rfl
        · cases enabled
      · cases enabled
  | hangUp =>
      simp only [step] at enabled
      split at enabled
      · cases enabled
        exact .aside _ _ (by simp) rfl rfl rfl fun _ _ => rfl
      · cases enabled
  | callStop j =>
      simp only [step] at enabled
      split at enabled
      · split at enabled
        · cases enabled
        · cases enabled
          exact .aside _ _ (by simp) rfl rfl rfl fun _ _ => rfl
      · cases enabled
  | lockHandle j =>
      simp only [step] at enabled
      split at enabled
      · split at enabled
        · cases enabled
          exact .aside _ _ (by simp) rfl rfl rfl fun _ _ => rfl
        · cases enabled
          rcases endStop_frame config s j with
            ⟨senders, lock, started, _, client⟩
          exact
            .aside _ _ (by simp) senders lock started fun _ _ => client
      · cases enabled
  | sendStop j =>
      simp only [step] at enabled
      split at enabled
      · next k calling =>
          split at enabled
          · next client place there =>
              cases enabled
              rcases
                  endStop_frame config
                    { s with
                      senders :=
                        Function.update s.senders k
                          (some (.running client place true))
                      handleLock := none } j with
                ⟨senders, lock, started, _, _⟩
              exact .queued j k client place _ there senders lock started
          · cases enabled
          · cases enabled
            exact .aside _ _ (by simp) rfl rfl rfl fun _ _ => rfl
      · cases enabled
  | sender k action =>
      simp only [step] at enabled
      split at enabled
      · next task there =>
          split at enabled
          · next task' lock stepped =>
              cases enabled
              exact
                .sender k action task task' lock there
                  (senderStep_move stepped)
          · cases enabled
      · cases enabled
  | otherLock =>
      simp only [step] at enabled
      split at enabled
      · next free =>
          cases enabled
          exact .otherLocked free
      · cases enabled
  | otherUnlock =>
      simp only [step] at enabled
      split at enabled
      · next held =>
          cases enabled
          exact .otherUnlocked held
      · cases enabled

end Client

end Audiopipe.Session.ClientTasks
