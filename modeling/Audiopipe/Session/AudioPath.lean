import Audiopipe.Control.Messages
import Audiopipe.Mixing.ChannelStreams
import Audiopipe.Streamer.ReceiverTasks
import Audiopipe.Streamer.Sender

/-!
# The way of the audio

One stream from sound card to sound card: the input callback writes to the
mixer of the client, `udp_client` reads a buffer from it and sends it as a
packet, the receive loop of the server writes the packet to its mixer, and the
output callback plays from there.  The two mixers are those of the concurrent
calls and of the receiver tasks; a step is one iteration of one of the loops,
or what a task does between two awaits.

The network may lose, delay, repeat and reorder packets: a packet that has
been sent can arrive at any time.  How many packets the network has gone past
is kept for the networks that do not reorder.  The two callbacks, the sender
and the stream use one selector each, except that the selector of the stream
is that of the connection packet.
-/

namespace Audiopipe.Session.AudioPath

open Audiopipe.Foundation.BoundedQueues
open Audiopipe.Foundation.GuardedRuns
open Audiopipe.Mixing
open Audiopipe.Mixing.TrackSelector
open Audiopipe.Mixing.RingTransfer
open Audiopipe.Mixing.TransferLaws
open Audiopipe.Streamer
open Audiopipe.Streamer.PacketFormat
open Audiopipe.Streamer.ReceiveLoop
open Audiopipe.Streamer.ReceiverTasks
open Audiopipe.Streamer.Sender
open Audiopipe.Control.Messages

variable {inputChannels inputSize outputChannels outputSize : ℕ}

/-! ## The state -/

/-- What happens to the rings of the server. -/
inductive OutputEvent (outputChannels : ℕ) where
  | written (c : Fin outputChannels) (o : F32)
  | played (c : Fin outputChannels) (v : F32)

/--
The mixer of the client with its callback in slot 0 and the read of the sender
in slot 1, the packets sent, the number of them that the network has gone
past, those that the receiver has got, and the receiver with the mixer of the
server.  The history records the samples that were offered to the rings of
the server and those that were played.
-/
structure AudioLink
    (inputChannels inputSize outputChannels outputSize : ℕ) where
  input : ConcurrentCalls.Pool F32 inputChannels inputSize
  sent : List AudioPacket
  passed : ℕ
  arrived : List AudioPacket
  output : ReceiverTasks.Pool Unit outputChannels outputSize
  history : List (OutputEvent outputChannels)

/-- The selector that the server opens every stream with. -/
def streamSelector : MixerTrackSelector :=
  .stereo 0 1

example (sel : MixerTrackSelector) :
    connectionPacket sel = .openStream streamSelector :=
  rfl

/-- The samples in the payload of a packet. -/
def samples (packet : AudioPacket) : List F32 :=
  (bincodeWire.tryCastSlice packet.payload).getD []

/-- The samples that were offered to the ring of `c`. -/
def written (c : Fin outputChannels) :
    List (OutputEvent outputChannels) → List F32 :=
  List.filterMap fun
    | .written d o => if d = c then some o else none
    | .played _ _ => none

/-- What was played from the ring of `c`. -/
def played (c : Fin outputChannels) :
    List (OutputEvent outputChannels) → List F32 :=
  List.filterMap fun
    | .written _ _ => none
    | .played d v => if d = c then some v else none

/-- The events of a step at the server. -/
def outputEvents
    (output : ReceiverTasks.Pool Unit outputChannels outputSize) :
    PoolAction Unit outputChannels → List (OutputEvent outputChannels)
  | .push h =>
      match output.phases h with
      | .writing ⟨cursor, o :: _, _⟩ => [.written cursor.channel o]
      | _ => []
  | .playout c => [.played c (popOrSilence (output.mixer.rings c))]
  | _ => []

/-- A step of the sound cards, of the two loops or of the network. -/
inductive PathAction (outputChannels : ℕ) where
  | capture (data : List F32)
  | captureSample
  | fill
  | readSample
  | send (timestamp : SystemTime)
  | arrive (i : ℕ)
  | receiver (action : PoolAction Unit outputChannels)

namespace AudioLink

/-- Nothing has been captured yet. -/
def start
    (input : Mixer F32 inputChannels inputSize)
    (output : Mixer F32 outputChannels outputSize) :
    AudioLink inputChannels inputSize outputChannels outputSize where
  input := .idle input
  sent := []
  passed := 0
  arrived := []
  output := .start Unit output
  history := []

/-- A step of the calls on the mixer of the client. -/
def onInput
    (s : AudioLink inputChannels inputSize outputChannels outputSize)
    (action : ConcurrentCalls.Action F32) :
    Option
      (AudioLink inputChannels inputSize outputChannels outputSize) :=
  (s.input.step action).map fun input => { s with input := input }

/-- A step of the receiver and the mixer of the server. -/
def onOutput
    (s : AudioLink inputChannels inputSize outputChannels outputSize)
    (action : PoolAction Unit outputChannels) :
    Option
      (AudioLink inputChannels inputSize outputChannels outputSize) :=
  (s.output.step bincodeWire (fun _ => streamSelector) action).map
    fun output =>
      { s with
        output := output
        history := s.history ++ outputEvents s.output action }

/--
The steps.  The sender sends the buffer that it has filled before it fills it
again, and a datagram is a packet that was sent.
-/
def step (client : UdpClient)
    (s : AudioLink inputChannels inputSize outputChannels outputSize) :
    PathAction outputChannels →
      Option
        (AudioLink inputChannels inputSize outputChannels outputSize)
  | .capture data =>
      s.onInput (.start 0 (.writeToMixerSync data client.sel))
  | .captureSample => s.onInput (.advance 0)
  | .fill =>
      if (s.input.tasks 1).isNone then
        s.onInput
          (.start 1
            (.readFromMixerTrackAsync client.sel
              (client.bufsize * client.sel.channelCount)))
      else
        none
  | .readSample => s.onInput (.advance 1)
  | .send timestamp =>
      match s.input.tasks 1 with
      | some (.readingTrack _ buf 0) =>
          if sized :
              buf.length = client.bufsize * client.sel.channelCount then
            some
              { s with
                input :=
                  { s.input with
                    tasks := Function.update s.input.tasks 1 none }
                sent := s.sent ++ [client.packet timestamp buf sized] }
          else
            none
      | _ => none
  | .arrive i =>
      match s.sent[i]? with
      | some packet =>
          (s.onOutput (.datagram () (serialize packet))).map fun next =>
            { next with passed := i + 1, arrived := s.arrived ++ [packet] }
      | none => none
  | .receiver (.datagram _ _) => none
  | .receiver action => s.onOutput action

/-! ## What a step can do -/

/-- The callback writes in slot 0, and the sender reads its track in slot 1. -/
structure Slots
    (s : AudioLink inputChannels inputSize outputChannels outputSize) :
    Prop where
  callback :
    ∀ task, s.input.tasks 0 = some task →
      ∃ cursor rest, task = .writing cursor rest
  sender :
    ∀ task, s.input.tasks 1 = some task →
      ∃ cursor buf remaining, task = .readingTrack cursor buf remaining

/-- The link with a call entered, or not, in one of the slots. -/
def entered
    (s : AudioLink inputChannels inputSize outputChannels outputSize)
    (slot : ℕ) (task : Option (ConcurrentCalls.Task F32 inputChannels))
    (call : ConcurrentCalls.Call F32) :
    AudioLink inputChannels inputSize outputChannels outputSize :=
  { s with
    input :=
      { s.input with
        tasks := Function.update s.input.tasks slot task
        history := s.input.history ++ [.started slot call] } }

/-- The steps, one rule for each way in which one goes. -/
inductive Move (client : UdpClient)
    (s : AudioLink inputChannels inputSize outputChannels outputSize) :
    PathAction outputChannels →
      AudioLink inputChannels inputSize outputChannels outputSize →
        Prop where
  | captureStarted (data : List F32)
      (task : Option (ConcurrentCalls.Task F32 inputChannels))
      (writes :
        ∀ started, task = some started →
          ∃ cursor rest, started = .writing cursor rest) :
      Move client s (.capture data)
        (s.entered 0 task (.writeToMixerSync data client.sel))
  | captured (cursor : TrackCursor inputChannels) (o : F32)
      (rest : List F32)
      (writing : s.input.tasks 0 = some (.writing cursor (o :: rest))) :
      Move client s .captureSample
        { s with
          input :=
            s.input.moved 0
              (.writing (writeSample cursor s.input.mixer o).1 rest)
              (writeSample cursor s.input.mixer o).2
              (ConcurrentCalls.pushEvent s.input.mixer cursor.channel
                o) }
  | fillStarted (track : MixerTrack (Fin inputChannels))
      (idle : s.input.tasks 1 = none)
      (resolved : getChannel inputChannels client.sel = .ok track) :
      Move client s .fill
        (s.entered 1
          (some
            (.readingTrack (.start track track.channelCount) []
              (client.bufsize * client.sel.channelCount)))
          (.readFromMixerTrackAsync client.sel
            (client.bufsize * client.sel.channelCount)))
  | fillFailed (idle : s.input.tasks 1 = none) :
      Move client s .fill
        (s.entered 1 none
          (.readFromMixerTrackAsync client.sel
            (client.bufsize * client.sel.channelCount)))
  | sampleRead (cursor : TrackCursor inputChannels) (buf : List F32)
      (remaining : ℕ)
      (reading :
        s.input.tasks 1 =
          some (.readingTrack cursor buf (remaining + 1))) :
      Move client s .readSample
        { s with
          input :=
            s.input.moved 1
              (.readingTrack (readTrackSample cursor s.input.mixer).1
                (buf ++ [(readTrackSample cursor s.input.mixer).2.1])
                remaining)
              (readTrackSample cursor s.input.mixer).2.2
              (ConcurrentCalls.popEvent s.input.mixer cursor.channel) }
  | packetSent (timestamp : SystemTime)
      (cursor : TrackCursor inputChannels) (buf : List F32)
      (filled : s.input.tasks 1 = some (.readingTrack cursor buf 0))
      (sized : buf.length = client.bufsize * client.sel.channelCount) :
      Move client s (.send timestamp)
        { s with
          input :=
            { s.input with
              tasks := Function.update s.input.tasks 1 none }
          sent := s.sent ++ [client.packet timestamp buf sized] }
  | packetArrived (i : ℕ) (packet : AudioPacket)
      (there : s.sent[i]? = some packet)
      (waiting : s.output.phases () = .receiving) :
      Move client s (.arrive i)
        { s with
          output :=
            s.output.moveTo ()
              (received bincodeWire (serialize packet))
          passed := i + 1
          arrived := s.arrived ++ [packet] }
  | received (action : PoolAction Unit outputChannels)
      (output : ReceiverTasks.Pool Unit outputChannels outputSize)
      (known : ∀ h bytes, action ≠ .datagram h bytes)
      (move :
        Pool.Move bincodeWire (fun _ => streamSelector) s.output action
          output) :
      Move client s (.receiver action)
        { s with
          output := output
          history := s.history ++ outputEvents s.output action }

variable {client : UdpClient}
variable
  {s next : AudioLink inputChannels inputSize outputChannels outputSize}

/-- Every enabled step is one of the moves. -/
theorem step_move {action : PathAction outputChannels} (slots : Slots s)
    (enabled : s.step client action = some next) :
    Move client s action next := by
  cases action with
  | capture data =>
      rcases Option.map_eq_some_iff.mp enabled with ⟨input, stepped, rfl⟩
      simp only [ConcurrentCalls.Pool.step] at stepped
      split at stepped
      · cases stepped
        refine .captureStarted data _ fun task entered => ?_
        simp only [ConcurrentCalls.Call.enter] at entered
        split at entered
        · cases entered
          exact ⟨_, _, rfl⟩
        · cases entered
      · cases stepped
  | captureSample =>
      rcases Option.map_eq_some_iff.mp enabled with ⟨input, stepped, rfl⟩
      rcases Option.bind_eq_some_iff.mp stepped with
        ⟨task, running, iterated⟩
      rcases slots.callback task running with ⟨cursor, rest, rfl⟩
      cases rest with
      | nil => cases iterated
      | cons o rest =>
          cases iterated
          exact .captured cursor o rest running
  | fill =>
      simp only [step] at enabled
      split at enabled
      · next idle =>
          rcases Option.map_eq_some_iff.mp enabled with
            ⟨input, stepped, rfl⟩
          simp only [ConcurrentCalls.Pool.step] at stepped
          split at stepped
          · cases stepped
            simp only [ConcurrentCalls.Call.enter]
            split
            · next track resolved =>
                exact
                  .fillStarted track (Option.isNone_iff_eq_none.mp idle)
                    resolved
            · exact .fillFailed (Option.isNone_iff_eq_none.mp idle)
          · cases stepped
      · cases enabled
  | readSample =>
      rcases Option.map_eq_some_iff.mp enabled with ⟨input, stepped, rfl⟩
      rcases Option.bind_eq_some_iff.mp stepped with
        ⟨task, running, iterated⟩
      rcases slots.sender task running with
        ⟨cursor, buf, remaining, rfl⟩
      cases remaining with
      | zero => cases iterated
      | succ remaining =>
          cases iterated
          exact .sampleRead cursor buf remaining running
  | send timestamp =>
      simp only [step] at enabled
      split at enabled
      · next cursor buf filled =>
          split at enabled
          · next sized =>
              cases enabled
              exact .packetSent timestamp cursor buf filled sized
          · cases enabled
      · cases enabled
  | arrive i =>
      simp only [step] at enabled
      split at enabled
      · next packet there =>
          rcases Option.map_eq_some_iff.mp enabled with
            ⟨link, stepped, rfl⟩
          rcases Option.map_eq_some_iff.mp stepped with
            ⟨output, taken, rfl⟩
          cases Pool.step_move taken with
          | received h bytes waiting =>
              have arrived : Move client s _ _ :=
                .packetArrived i packet there waiting
              simpa [outputEvents] using arrived
      · cases enabled
  | receiver action =>
      cases action with
      | datagram h bytes => cases enabled
      | _ =>
          have moved : s.onOutput _ = some next := enabled
          rcases Option.map_eq_some_iff.mp moved with
            ⟨output, stepped, rfl⟩
          exact
            .received _ output (fun _ _ equal => by cases equal)
              (Pool.step_move stepped)

end AudioLink

end Audiopipe.Session.AudioPath
