import Audiopipe.Mixing.TransferLaws
import Audiopipe.Streamer.PacketFormat

/-!
# The receive loop of a stream

`udp_receiver_event_loop` takes datagrams from its socket, decodes each as an
audio packet, casts the payload to samples and writes them to the global
mixer, from which the sound card plays.  The loop has three ways out of a
datagram besides going on: a failed decode returns from the loop, a failed
cast and a failed assertion panic.  An error of the socket is logged.
-/

namespace Audiopipe.Streamer.ReceiveLoop

open Audiopipe.Foundation.BoundedQueues
open Audiopipe.Foundation.StridedLists
open Audiopipe.Mixing.TrackSelector
open Audiopipe.Mixing.RingTransfer
open Audiopipe.Mixing.TransferLaws
open Audiopipe.Streamer.PacketFormat

variable {channelCount bufferSize : ℕ}

/-! ## The loop -/

/-- The decoder and the cast that the loop relies on. -/
structure WireFormat where
  deserialize : List UInt8 → Option AudioPacket
  tryCastSlice : List UInt8 → Option (List F32)

/-- `bincode2` and `bytemuck`. -/
def bincodeWire : WireFormat where
  deserialize := PacketFormat.deserialize
  tryCastSlice := PacketFormat.tryCastSlice

@[simp]
theorem bincodeWire_deserialize :
    bincodeWire.deserialize = PacketFormat.deserialize :=
  rfl

/-- The cast takes whole samples, at least one, and nothing else. -/
structure WireFormat.CastsWholeSamples (wire : WireFormat) : Prop where
  whole : ∀ {payload : List UInt8} {data : List F32},
    wire.tryCastSlice payload = some data →
      data ≠ [] ∧ payload.length = 4 * data.length
  accepts : ∀ {payload : List UInt8},
    payload ≠ [] → payload.length % 4 = 0 →
      ∃ data, wire.tryCastSlice payload = some data

theorem bincodeWire_castsWholeSamples : bincodeWire.CastsWholeSamples where
  whole := tryCastSlice_eq_some
  accepts := fun nonempty whole => by
    rcases tryCastSlice_of_whole nonempty whole with ⟨data, cast, _⟩
    exact ⟨data, cast⟩

inductive UdpServerHandleError where
  | tokioError (error : String)
  | castingError
  | serializationError
deriving DecidableEq, Repr

/-- The length of the receive buffer. -/
def receiveBufferSize : ℕ := 10000

/--
`recv_from` into a fresh zeroed buffer: the number of bytes received and the
buffer.  What does not fit is cut off.
-/
def recvFrom (datagram : List UInt8) : ℕ × List UInt8 :=
  let received := datagram.take receiveBufferSize
  (received.length,
    received ++
      List.replicate (receiveBufferSize - received.length) 0)

def handleDatagram (wire : WireFormat) (len : ℕ) (buf : List UInt8) :
    Except UdpServerHandleError AudioPacket :=
  match wire.deserialize (buf.take len) with
  | some packet => .ok packet
  | none => .error .serializationError

inductive LoopStatus where
  | running
  | returned (e : UdpServerHandleError)
  | panicked
deriving DecidableEq, Repr

/--
What the loop does with a decoded packet.  The cast is unwrapped, and the
counts of the write are asserted after the samples are in the rings.
-/
def playPacket
    (wire : WireFormat) (outputChannelSelector : MixerTrackSelector)
    (mixer : Mixer F32 channelCount bufferSize) (packet : AudioPacket) :
    LoopStatus × Mixer F32 channelCount bufferSize :=
  match wire.tryCastSlice packet.payload with
  | none => (.panicked, mixer)
  | some data =>
      let written := writeToMixerAsync mixer data outputChannelSelector
      if written.1.1 = data.length ∧ written.1.2 = 0 then
        (.running, written.2)
      else
        (.panicked, written.2)

/-- The state of the loop's task and the global mixer. -/
structure Receiver (channelCount bufferSize : ℕ) where
  status : LoopStatus
  mixer : Mixer F32 channelCount bufferSize

/-- What can happen to the loop and the mixer. -/
inductive ReceiverEvent where
  | datagram (bytes : List UInt8)
  | recvError
  | playout (length : ℕ)
deriving DecidableEq

namespace Receiver

def start (mixer : Mixer F32 channelCount bufferSize) :
    Receiver channelCount bufferSize where
  status := .running
  mixer := mixer

/-- A loop that has ended takes no more datagrams; playout goes on. -/
def step
    (wire : WireFormat) (outputChannelSelector : MixerTrackSelector)
    (receiver : Receiver channelCount bufferSize) :
    ReceiverEvent → Receiver channelCount bufferSize
  | .datagram bytes =>
      match receiver.status with
      | .running =>
          match handleDatagram wire (recvFrom bytes).1 (recvFrom bytes).2
            with
          | .ok packet =>
              let played :=
                playPacket wire outputChannelSelector receiver.mixer
                  packet
              { status := played.1, mixer := played.2 }
          | .error e => { receiver with status := .returned e }
      | _ => receiver
  | .recvError => receiver
  | .playout length =>
      match readFromMixerSync receiver.mixer length with
      | .ok (_, _, read) => { receiver with mixer := read }
      | .error _ => receiver

def run
    (wire : WireFormat) (outputChannelSelector : MixerTrackSelector)
    (receiver : Receiver channelCount bufferSize)
    (events : List ReceiverEvent) : Receiver channelCount bufferSize :=
  events.foldl (step wire outputChannelSelector) receiver

end Receiver

/-! ## Single events -/

section Events

variable (wire : WireFormat) (sel : MixerTrackSelector)

/-- The decoder sees as much of the datagram as the buffer holds. -/
theorem handleDatagram_recvFrom (datagram : List UInt8) :
    handleDatagram wire (recvFrom datagram).1 (recvFrom datagram).2 =
      match wire.deserialize (datagram.take receiveBufferSize) with
      | some packet => .ok packet
      | none => .error .serializationError := by
  simp only [handleDatagram, recvFrom, List.take_left']

/-- Playout does nothing to the loop. -/
@[simp]
theorem Receiver.step_playout_status
    (receiver : Receiver channelCount bufferSize) (length : ℕ) :
    (receiver.step wire sel (.playout length)).status =
      receiver.status := by
  simp only [step]
  split
  · rfl
  · rfl

/-- An ended loop stays ended. -/
theorem Receiver.step_ended
    {receiver : Receiver channelCount bufferSize}
    (ended : receiver.status ≠ .running) (event : ReceiverEvent) :
    (receiver.step wire sel event).status = receiver.status := by
  cases event with
  | datagram bytes =>
      have unchanged :
          receiver.step wire sel (.datagram bytes) = receiver := by
        simp only [step]
      rw [unchanged]
  | recvError => rfl
  | playout length => exact receiver.step_playout_status wire sel length

theorem Receiver.run_ended
    {receiver : Receiver channelCount bufferSize}
    (ended : receiver.status ≠ .running) (events : List ReceiverEvent) :
    (receiver.run wire sel events).status = receiver.status := by
  induction events generalizing receiver with
  | nil => rfl
  | cons event rest induction =>
      have same := receiver.step_ended wire sel ended event
      have stillEnded :
          (receiver.step wire sel event).status ≠ .running := by
        rw [same]
        exact ended
      exact (induction stillEnded).trans same

end Events

/-- A packet that fits the receive buffer is decoded as it was encoded. -/
theorem handleDatagram_serialize
    {packet : AudioPacket}
    (fits : (serialize packet).length ≤ receiveBufferSize) :
    handleDatagram bincodeWire (recvFrom (serialize packet)).1
        (recvFrom (serialize packet)).2 =
      .ok packet := by
  rw [handleDatagram_recvFrom, List.take_of_length_le fits,
    bincodeWire_deserialize, deserialize_serialize]

/-- A packet that does not fit is cut off, and what is left is refused. -/
theorem handleDatagram_serialize_long
    {packet : AudioPacket}
    (long : receiveBufferSize < (serialize packet).length) :
    handleDatagram bincodeWire (recvFrom (serialize packet)).1
        (recvFrom (serialize packet)).2 =
      .error .serializationError := by
  rw [handleDatagram_recvFrom, bincodeWire_deserialize,
    deserialize_take long]

/-! ## What a running loop takes -/

/-- The samples that the loop finds in a datagram. -/
def Carries (wire : WireFormat) (datagram : List UInt8)
    (data : List F32) : Prop :=
  ∃ packet,
    handleDatagram wire (recvFrom datagram).1 (recvFrom datagram).2 =
        .ok packet ∧
      wire.tryCastSlice packet.payload = some data

/-- A datagram carries samples in one way. -/
theorem Carries.unique
    {wire : WireFormat} {datagram : List UInt8} {data other : List F32}
    (carries : Carries wire datagram data)
    (again : Carries wire datagram other) : data = other := by
  rcases carries with ⟨packet, decoded, cast⟩
  rcases again with ⟨packet', decoded', cast'⟩
  rw [decoded] at decoded'
  cases decoded'
  rw [cast] at cast'
  exact Option.some.inj cast'

/-- Every ring has free places for the samples addressed to it. -/
def Fits (sel : MixerTrackSelector)
    (mixer : Mixer F32 channelCount bufferSize) (data : List F32) : Prop :=
  ∀ track, getChannel channelCount sel = .ok track →
    ∀ c : Fin channelCount,
      (mixer.rings c).contents.length +
          (addressed track sel.channelCount 0 c data).length ≤
        bufferSize

/-- The rings have room for each datagram at the moment it is taken. -/
def HasRoom (wire : WireFormat) (sel : MixerTrackSelector) :
    Receiver channelCount bufferSize → List ReceiverEvent → Prop
  | _, [] => True
  | receiver, event :: rest =>
      (∀ bytes data, event = .datagram bytes →
          receiver.status = .running → Carries wire bytes data →
            Fits sel receiver.mixer data) ∧
        HasRoom wire sel (receiver.step wire sel event) rest

section Taken

variable {wire : WireFormat} {sel : MixerTrackSelector}

/-- The count of dropped samples says whether a buffer has fitted. -/
theorem fits_iff_lossless
    {track : MixerTrack (Fin channelCount)}
    (resolved : getChannel channelCount sel = .ok track)
    (mixer : Mixer F32 channelCount bufferSize) (data : List F32) :
    Fits sel mixer data ↔
      (writeSamples (.start track sel.channelCount) mixer data).1.dropped =
        0 := by
  refine Iff.trans ?_
    (writeSamples_lossless_iff (.start track sel.channelCount) mixer
      data).symm
  constructor
  · intro fits
    exact fits track resolved
  · intro fits other found
    rw [resolved] at found
    cases found
    exact fits

/--
The assertions pass exactly for samples that fit the rings, on a mixer that
has the channels or without any samples.
-/
theorem playPacket_running_iff
    {mixer : Mixer F32 channelCount bufferSize}
    {packet : AudioPacket} {data : List F32}
    (cast : wire.tryCastSlice packet.payload = some data) :
    (playPacket wire sel mixer packet).1 = .running ↔
      (sel.InRange channelCount ∨ data = []) ∧ Fits sel mixer data := by
  cases resolved : getChannel channelCount sel with
  | error e =>
      have missing : ¬ sel.InRange channelCount := by
        rw [← getChannel_isOk_iff, resolved]
        simp
      have fits : Fits sel mixer data := by
        intro track found
        rw [resolved] at found
        cases found
      simp only [playPacket, cast, writeToMixerAsync, resolved, missing,
        fits, false_or, and_true]
      by_cases nothing : data = []
      · simp [nothing]
      · have counted : ¬ 0 = data.length := fun zero =>
          nothing (List.eq_nil_of_length_eq_zero zero.symm)
        simp [nothing, counted]
  | ok track =>
      have inRange : sel.InRange channelCount :=
        (getChannel_isOk_iff sel).mp ⟨track, resolved⟩
      have total :=
        writeSamples_total (.start track sel.channelCount) mixer data
      have accepted :
          ((writeSamples (.start track sel.channelCount) mixer
                data).1.consumed = data.length ∧
              (writeSamples (.start track sel.channelCount) mixer
                data).1.dropped = 0) ↔
            (writeSamples (.start track sel.channelCount) mixer
              data).1.dropped = 0 := by
        simp only [TrackCursor.start] at total ⊢
        omega
      rw [fits_iff_lossless resolved]
      simp only [playPacket, cast, writeToMixerAsync, resolved, inRange,
        true_or, true_and, accepted]
      by_cases lossless :
          (writeSamples (.start track sel.channelCount) mixer
            data).1.dropped = 0
      · rw [if_pos lossless]
        exact iff_of_true rfl lossless
      · rw [if_neg lossless]
        exact iff_of_false (fun running => by cases running) lossless

/-- A running loop goes on after a datagram of samples that fit the rings. -/
theorem Receiver.step_datagram_iff
    {receiver : Receiver channelCount bufferSize}
    (running : receiver.status = .running) (bytes : List UInt8) :
    (receiver.step wire sel (.datagram bytes)).status = .running ↔
      ∃ data,
        Carries wire bytes data ∧
          (sel.InRange channelCount ∨ data = []) ∧
          Fits sel receiver.mixer data := by
  cases decoded :
    handleDatagram wire (recvFrom bytes).1 (recvFrom bytes).2 with
  | error e =>
      constructor
      · intro goesOn
        simp [step, running, decoded] at goesOn
      · rintro ⟨data, ⟨packet, accepted, _⟩, _⟩
        rw [decoded] at accepted
        cases accepted
  | ok packet =>
      have stepped :
          (receiver.step wire sel (.datagram bytes)).status =
            (playPacket wire sel receiver.mixer packet).1 := by
        simp only [step, running, decoded]
      rw [stepped]
      cases cast : wire.tryCastSlice packet.payload with
      | none =>
          constructor
          · intro goesOn
            simp [playPacket, cast] at goesOn
          · rintro ⟨data, ⟨packet', accepted, cast'⟩, _⟩
            rw [decoded] at accepted
            cases accepted
            rw [cast] at cast'
            cases cast'
      | some data =>
          have carries : Carries wire bytes data := ⟨packet, decoded, cast⟩
          rw [playPacket_running_iff cast]
          constructor
          · intro taken
            exact ⟨data, carries, taken⟩
          · rintro ⟨other, found, taken⟩
            rw [carries.unique found]
            exact taken

/-- The mixer after a datagram of samples. -/
theorem Receiver.step_carried
    {receiver : Receiver channelCount bufferSize}
    (running : receiver.status = .running)
    {bytes : List UInt8} {data : List F32}
    (carries : Carries wire bytes data) :
    (receiver.step wire sel (.datagram bytes)).mixer =
      (writeToMixerAsync receiver.mixer data sel).2 := by
  rcases carries with ⟨packet, decoded, cast⟩
  simp only [step, running, decoded, playPacket, cast]
  split
  · rfl
  · rfl

/--
Samples that fit the rings are appended, each to the ring that the selector
addresses it to.
-/
theorem writeToMixerAsync_of_fits
    {track : MixerTrack (Fin channelCount)}
    (resolved : getChannel channelCount sel = .ok track)
    {mixer : Mixer F32 channelCount bufferSize} {data : List F32}
    (fits : Fits sel mixer data) (c : Fin channelCount) :
    ((writeToMixerAsync mixer data sel).2.rings c).contents =
      (mixer.rings c).contents ++
        addressed track sel.channelCount 0 c data := by
  simp only [writeToMixerAsync, resolved]
  rw [writeSamples_rings, BoundedFifo.offerAll_contents]
  refine List.take_of_length_le ?_
  rw [List.length_append]
  exact fits track resolved c

/-- A loop that is running at the end has been running before. -/
theorem Receiver.running_before
    {receiver : Receiver channelCount bufferSize}
    {events : List ReceiverEvent}
    (running : (receiver.run wire sel events).status = .running) :
    receiver.status = .running := by
  by_contra ended
  rw [Receiver.run_ended wire sel ended] at running
  exact ended running

/-- A loop that is running at the end has taken every datagram. -/
theorem Receiver.taken_of_running
    {receiver : Receiver channelCount bufferSize}
    {events : List ReceiverEvent}
    (running : (receiver.run wire sel events).status = .running)
    {bytes : List UInt8} (member : .datagram bytes ∈ events) :
    ∃ data,
      Carries wire bytes data ∧ (sel.InRange channelCount ∨ data = []) := by
  rcases List.append_of_mem member with ⟨before, after, split⟩
  rw [split, Receiver.run, List.foldl_append, List.foldl_cons] at running
  have goesOn := Receiver.running_before running
  have here :
      (receiver.run wire sel before).status = .running := by
    by_contra ended
    exact ended
      ((Receiver.step_ended wire sel ended _).symm.trans goesOn)
  rcases (Receiver.step_datagram_iff here bytes).mp goesOn with
    ⟨data, carries, named, _⟩
  exact ⟨data, carries, named⟩

/--
While the rings have room, the loop goes on exactly when every datagram
carries samples and the mixer has the channels to put them.
-/
theorem Receiver.run_running_iff
    {receiver : Receiver channelCount bufferSize}
    {events : List ReceiverEvent}
    (running : receiver.status = .running)
    (room : HasRoom wire sel receiver events) :
    (receiver.run wire sel events).status = .running ↔
      ∀ bytes, .datagram bytes ∈ events →
        ∃ data,
          Carries wire bytes data ∧
            (sel.InRange channelCount ∨ data = []) := by
  constructor
  · intro goesOn bytes member
    exact Receiver.taken_of_running goesOn member
  · intro taken
    induction events generalizing receiver with
    | nil => exact running
    | cons event rest induction =>
        have goesOn :
            (receiver.step wire sel event).status = .running := by
          cases event with
          | datagram bytes =>
              rcases taken bytes (List.mem_cons_self ..) with
                ⟨data, carries, named⟩
              exact
                (receiver.step_datagram_iff running bytes).mpr
                  ⟨data, carries, named,
                    room.1 bytes data rfl running carries⟩
          | recvError => exact running
          | playout length =>
              rw [receiver.step_playout_status]
              exact running
        exact
          induction goesOn room.2 fun bytes member =>
            taken bytes (List.mem_cons_of_mem _ member)

end Taken

/-! ## A conforming session -/

/-- A packet that reaches the rings does so with all its samples. -/
theorem Carries.length_payload
    {packet : AudioPacket} {data : List F32}
    (carries : Carries bincodeWire (serialize packet) data) :
    packet.payload.length = 4 * data.length ∧
      0 < data.length ∧ 60 + 4 * data.length ≤ receiveBufferSize := by
  rcases carries with ⟨packet', decoded, cast⟩
  have fits : (serialize packet).length ≤ receiveBufferSize := by
    by_contra tooLong
    rw [handleDatagram_serialize_long (Nat.lt_of_not_le tooLong)] at decoded
    cases decoded
  rw [handleDatagram_serialize fits] at decoded
  cases decoded
  rcases bincodeWire_castsWholeSamples.whole cast with ⟨some, whole⟩
  rw [length_serialize, whole] at fits
  exact ⟨whole, List.length_pos_iff.mpr some, fits⟩

/-- A packet of whole samples that fits the receive buffer is taken. -/
theorem carries_of_fits
    {packet : AudioPacket} {count : ℕ}
    (sized : packet.payload.length = 4 * count)
    (positive : 0 < count) (fits : 60 + 4 * count ≤ receiveBufferSize) :
    ∃ data, Carries bincodeWire (serialize packet) data := by
  have nonempty : packet.payload ≠ [] := by
    rw [← List.length_pos_iff, sized]
    omega
  have whole : packet.payload.length % 4 = 0 := by omega
  rcases bincodeWire_castsWholeSamples.accepts nonempty whole with
    ⟨data, cast⟩
  have short : (serialize packet).length ≤ receiveBufferSize := by
    rw [length_serialize, sized]
    exact fits
  exact ⟨data, packet, handleDatagram_serialize short, cast⟩

/--
Every datagram is a packet of the negotiated number of stereo frames, and
playout reads whole frames of the mixer.
-/
def Conforming (channelCount frames : ℕ) : ReceiverEvent → Prop
  | .datagram bytes =>
      ∃ packet : AudioPacket,
        bytes = serialize packet ∧
          packet.payload.length = 4 * (frames * 2)
  | .recvError => True
  | .playout length => channelCount ∣ length

/--
Playout keeps up: `level` frames are waiting, and every packet finds that all
frames before it have been played.
-/
def KeepsUp (channelCount frames : ℕ) : ℕ → List ReceiverEvent → Prop
  | _, [] => True
  | level, .datagram _ :: rest =>
      level = 0 ∧ KeepsUp channelCount frames frames rest
  | level, .recvError :: rest => KeepsUp channelCount frames level rest
  | level, .playout length :: rest =>
      KeepsUp channelCount frames (level - length / channelCount) rest

/-- The number of frames in the fuller one of two rings. -/
def waiting (mixer : Mixer F32 channelCount bufferSize)
    (l r : Fin channelCount) : ℕ :=
  max (mixer.rings l).contents.length (mixer.rings r).contents.length

section Sessions

variable {l r : Fin channelCount}

/-- A buffer as long as the rings fits exactly when they are empty. -/
theorem fits_stereo_iff
    (sides : l ≠ r) (mixer : Mixer F32 channelCount bufferSize)
    {data : List F32} (sized : data.length = bufferSize * 2) :
    Fits (.stereo l r) mixer data ↔ waiting mixer l r = 0 := by
  have leftShare :
      (everyNth 2 0 data).length = bufferSize :=
    length_everyNth (by decide) sized
  have rightShare :
      (everyNth 2 1 data).length = bufferSize :=
    length_everyNth (by decide) sized
  have resolved :
      getChannel channelCount (.stereo l r) = .ok (.stereo l r) :=
    getChannel_stereo l.isLt r.isLt
  constructor
  · intro fits
    have left := fits _ resolved l
    have right := fits _ resolved r
    change _ + (addressed (.stereo l r) 2 0 l data).length ≤ _ at left
    change _ + (addressed (.stereo l r) 2 0 r data).length ≤ _ at right
    rw [addressed_stereo_left sides, leftShare] at left
    rw [addressed_stereo_right sides, rightShare] at right
    unfold waiting
    omega
  · intro drained track found c
    rw [resolved] at found
    cases found
    unfold waiting at drained
    change _ + (addressed (.stereo l r) 2 0 c data).length ≤ _
    by_cases isLeft : l = c
    · subst isLeft
      rw [addressed_stereo_left sides, leftShare]
      omega
    · by_cases isRight : r = c
      · subst isRight
        rw [addressed_stereo_right sides, rightShare]
        omega
      · have unnamed :
            (MixerTrackSelector.stereo l r).contains c = false := by
          simp [MixerTrackSelector.contains, Fin.val_inj, isLeft, isRight]
        rw [addressed_other (pick_ne_of_unnamed resolved unnamed)]
        exact (mixer.rings c).bounded

/-- A buffer as long as the rings fills them. -/
theorem waiting_write
    (sides : l ≠ r) {mixer : Mixer F32 channelCount bufferSize}
    (drained : waiting mixer l r = 0)
    {data : List F32} (sized : data.length = bufferSize * 2) :
    waiting (writeToMixerAsync mixer data (.stereo l r)).2 l r =
      bufferSize := by
  have resolved :
      getChannel channelCount (.stereo l r) = .ok (.stereo l r) :=
    getChannel_stereo l.isLt r.isLt
  have appended :=
    writeToMixerAsync_of_fits resolved
      ((fits_stereo_iff sides mixer sized).mpr drained)
  have leftShare :
      (everyNth 2 0 data).length = bufferSize :=
    length_everyNth (by decide) sized
  have rightShare :
      (everyNth 2 1 data).length = bufferSize :=
    length_everyNth (by decide) sized
  have cycle : (MixerTrackSelector.stereo l r).channelCount = 2 := rfl
  unfold waiting at drained ⊢
  rw [appended l, appended r, cycle, addressed_stereo_left sides,
    addressed_stereo_right sides, List.length_append, List.length_append,
    leftShare, rightShare]
  omega

/-- Playing whole frames takes as many samples from both rings. -/
theorem waiting_playout
    (l r : Fin channelCount)
    (mixer : Mixer F32 channelCount bufferSize) (frames : ℕ) :
    ∃ counts output next,
      readFromMixerSync mixer (frames * channelCount) =
          .ok (counts, output, next) ∧
        waiting next l r = waiting mixer l r - frames := by
  have positive : 0 < channelCount :=
    Nat.lt_of_le_of_lt (Nat.zero_le _) l.isLt
  rcases readFromMixerSync_frames positive mixer frames with
    ⟨counts, output, next, read, _, taken⟩
  refine ⟨counts, output, next, read, ?_⟩
  unfold waiting
  rw [taken l, taken r, List.length_drop, List.length_drop]
  omega

/--
A conforming packet is taken exactly when it fits the receive buffer and
nothing waits in its rings, and then it fills them.
-/
theorem Receiver.step_conforming
    (sides : l ≠ r) {receiver : Receiver channelCount bufferSize}
    (running : receiver.status = .running)
    {packet : AudioPacket}
    (sized : packet.payload.length = 4 * (bufferSize * 2)) :
    ((receiver.step bincodeWire (.stereo l r)
            (.datagram (serialize packet))).status = .running ↔
        (0 < bufferSize ∧ 60 + 8 * bufferSize ≤ receiveBufferSize) ∧
          waiting receiver.mixer l r = 0) ∧
      ((receiver.step bincodeWire (.stereo l r)
            (.datagram (serialize packet))).status = .running →
        waiting
            (receiver.step bincodeWire (.stereo l r)
              (.datagram (serialize packet))).mixer l r =
          bufferSize) := by
  rw [receiver.step_datagram_iff running]
  constructor
  · constructor
    · rintro ⟨data, carries, _, fits⟩
      have length := carries.length_payload
      have whole : data.length = bufferSize * 2 := by omega
      exact ⟨by omega, (fits_stereo_iff sides _ whole).mp fits⟩
    · rintro ⟨⟨positive, short⟩, drained⟩
      rcases carries_of_fits sized (by omega) (by omega) with
        ⟨data, carries⟩
      have length := carries.length_payload
      have whole : data.length = bufferSize * 2 := by omega
      exact
        ⟨data, carries, Or.inl ⟨l.isLt, r.isLt⟩,
          (fits_stereo_iff sides _ whole).mpr drained⟩
  · rintro ⟨data, carries, _, fits⟩
    have length := carries.length_payload
    have whole : data.length = bufferSize * 2 := by omega
    rw [receiver.step_carried running carries]
    exact waiting_write sides ((fits_stereo_iff sides _ whole).mp fits) whole

/-- A conforming session from any fill of its two rings. -/
theorem Receiver.run_conforming
    (sides : l ≠ r) {events : List ReceiverEvent}
    (conforming :
      ∀ event ∈ events, Conforming channelCount bufferSize event)
    {receiver : Receiver channelCount bufferSize}
    (running : receiver.status = .running) :
    (receiver.run bincodeWire (.stereo l r) events).status = .running ↔
      (∀ bytes, .datagram bytes ∈ events →
          0 < bufferSize ∧ 60 + 8 * bufferSize ≤ receiveBufferSize) ∧
        KeepsUp channelCount bufferSize (waiting receiver.mixer l r)
          events := by
  have positive : 0 < channelCount :=
    Nat.lt_of_le_of_lt (Nat.zero_le _) l.isLt
  induction events generalizing receiver with
  | nil => simpa [run, KeepsUp] using running
  | cons event rest induction =>
      have conformingRest :
          ∀ event ∈ rest, Conforming channelCount bufferSize event :=
        fun event member => conforming event (List.mem_cons_of_mem _ member)
      have here := conforming event (List.mem_cons_self ..)
      change
        ((receiver.step bincodeWire (.stereo l r) event).run bincodeWire
            (.stereo l r) rest).status = .running ↔ _
      cases event with
      | recvError =>
          refine (induction conformingRest running).trans ?_
          simp [KeepsUp]
      | playout length =>
          rcases here with ⟨frames, whole⟩
          rcases waiting_playout l r receiver.mixer frames with
            ⟨counts, output, next, read, lower⟩
          have commuted : length = frames * channelCount := by
            rw [whole, Nat.mul_comm]
          have stepped :
              receiver.step bincodeWire (.stereo l r) (.playout length) =
                { receiver with mixer := next } := by
            simp only [step, commuted, read]
          have quotient : length / channelCount = frames := by
            rw [commuted, Nat.mul_div_cancel _ positive]
          have continued :=
            @induction conformingRest { receiver with mixer := next }
              running
          rw [stepped, KeepsUp, quotient]
          refine continued.trans ?_
          simp [lower]
      | datagram bytes =>
          rcases here with ⟨packet, rfl, sized⟩
          rcases receiver.step_conforming sides running sized with
            ⟨accepted, refilled⟩
          by_cases goesOn :
              (receiver.step bincodeWire (.stereo l r)
                (.datagram (serialize packet))).status = .running
          · rcases accepted.mp goesOn with ⟨small, drained⟩
            refine (induction conformingRest goesOn).trans ?_
            rw [refilled goesOn, KeepsUp]
            constructor
            · rintro ⟨_, keepsUp⟩
              exact ⟨fun _ _ => small, drained, keepsUp⟩
            · rintro ⟨_, _, keepsUp⟩
              exact ⟨fun _ _ => small, keepsUp⟩
          · rw [run_ended bincodeWire (.stereo l r) goesOn, KeepsUp]
            constructor
            · intro goesOnAfterAll
              exact (goesOn goesOnAfterAll).elim
            · rintro ⟨small, drained, _⟩
              have first := small _ (List.mem_cons_self ..)
              exact (goesOn (accepted.mpr ⟨first, drained⟩)).elim

end Sessions

/--
On a mixer whose rings hold exactly one packet, the stream goes on in a
conforming session exactly when its packets fit the receive buffer and
playout has always emptied the two rings before the next packet arrives.
The rings may be filled in any way at the start.
-/
theorem conforming_session_runs_iff
    {channelCount bufferSize : ℕ}
    {l r : Fin channelCount} (sides : l ≠ r)
    (mixer : Mixer F32 channelCount bufferSize)
    {events : List ReceiverEvent}
    (conforming :
      ∀ event ∈ events, Conforming channelCount bufferSize event) :
    ((Receiver.start mixer).run bincodeWire (.stereo l r)
        events).status = .running ↔
      (∀ bytes, .datagram bytes ∈ events →
          0 < bufferSize ∧ 60 + 8 * bufferSize ≤ receiveBufferSize) ∧
        KeepsUp channelCount bufferSize (waiting mixer l r) events :=
  Receiver.run_conforming sides conforming rfl

/-- A packet of one stereo frame. -/
def frameOf (left right : F32) : AudioPacket where
  header :=
    { connectionId := .nil
      timestamp := .UNIX_EPOCH
      sampleRate := 44100
      channels := 2 }
  payload := castToBytes [left, right]
  sized := by
    rw [length_castToBytes]
    change 4 * 2 < 256 ^ 8
    decide

theorem carries_frameOf (left right : F32) :
    Carries bincodeWire (serialize (frameOf left right))
      [left, right] := by
  have fits :
      (serialize (frameOf left right)).length ≤ receiveBufferSize := by
    rw [length_serialize]
    simp [frameOf, receiveBufferSize]
  exact
    ⟨frameOf left right, handleDatagram_serialize fits,
      tryCastSlice_castToBytes (List.cons_ne_nil left [right])⟩

theorem conforming_frameOf (channelCount : ℕ) (left right : F32) :
    Conforming channelCount 1
      (.datagram (serialize (frameOf left right))) :=
  ⟨frameOf left right, rfl, length_castToBytes _⟩

/-- A packet, its playout and the next packet. -/
theorem conforming_session_runs_iff_played :
    ((Receiver.start (emptyMixer F32 2 1 44100)).run bincodeWire
        (.stereo (0 : Fin 2) (1 : Fin 2))
        [.datagram (serialize (frameOf ⟨1⟩ ⟨2⟩)), .playout 2,
          .datagram (serialize (frameOf ⟨3⟩ ⟨4⟩))]).status =
      .running := by
  refine
    (conforming_session_runs_iff (by decide) (emptyMixer F32 2 1 44100)
      ?_).mpr
      ⟨fun _ _ => by decide, rfl, rfl, trivial⟩
  intro event member
  simp only [List.mem_cons, List.not_mem_nil, or_false] at member
  rcases member with rfl | rfl | rfl
  · exact conforming_frameOf 2 _ _
  · exact Nat.dvd_refl 2
  · exact conforming_frameOf 2 _ _

/-- A packet that arrives before the one before it has been played. -/
theorem early_packet_panics :
    (∀ event ∈
        [.datagram (serialize (frameOf ⟨1⟩ ⟨2⟩)),
          .datagram (serialize (frameOf ⟨3⟩ ⟨4⟩))],
        Conforming 2 1 event) ∧
      ((Receiver.start (emptyMixer F32 2 1 44100)).run bincodeWire
          (.stereo (0 : Fin 2) (1 : Fin 2))
          [.datagram (serialize (frameOf ⟨1⟩ ⟨2⟩)),
            .datagram (serialize (frameOf ⟨3⟩ ⟨4⟩))]).status ≠
        .running := by
  have conforming :
      ∀ event ∈
          [.datagram (serialize (frameOf ⟨1⟩ ⟨2⟩)),
            .datagram (serialize (frameOf ⟨3⟩ ⟨4⟩))],
        Conforming 2 1 event := by
    intro event member
    simp only [List.mem_cons, List.not_mem_nil, or_false] at member
    rcases member with rfl | rfl
    · exact conforming_frameOf 2 _ _
    · exact conforming_frameOf 2 _ _
  refine ⟨conforming, fun running => ?_⟩
  have keepsUp :=
    ((@Receiver.run_conforming _ _ (0 : Fin 2) 1 (by decide) _ conforming
      (.start (emptyMixer F32 2 1 44100)) rfl).mp running).2
  exact absurd keepsUp.2.1 (by decide)

/-! ## Malformed datagrams -/

/--
The datagram does not decode as a packet, or its payload has a part of a
sample at the end.
-/
def Malformed (wire : WireFormat) (datagram : List UInt8) : Bool :=
  match handleDatagram wire (recvFrom datagram).1 (recvFrom datagram).2
    with
  | .ok packet => packet.payload.length % 4 != 0
  | .error _ => true

/-- The event is not the arrival of a malformed datagram. -/
def WellFormed (wire : WireFormat) : ReceiverEvent → Bool
  | .datagram bytes => !Malformed wire bytes
  | _ => true

/-- The datagram decodes as a packet of whole samples, at least one. -/
def Playable (wire : WireFormat) (datagram : List UInt8) : Prop :=
  ∃ packet,
    handleDatagram wire (recvFrom datagram).1 (recvFrom datagram).2 =
        .ok packet ∧
      packet.payload ≠ [] ∧ packet.payload.length % 4 = 0

section Malformed

variable {wire : WireFormat}

theorem Playable.not_malformed
    {datagram : List UInt8} (playable : Playable wire datagram) :
    Malformed wire datagram = false := by
  rcases playable with ⟨packet, decoded, _, whole⟩
  simp [Malformed, decoded, whole]

/-- The playable datagrams are those that carry samples. -/
theorem playable_iff_carries
    (casts : wire.CastsWholeSamples) (datagram : List UInt8) :
    Playable wire datagram ↔
      ∃ data, Carries wire datagram data ∧ data ≠ [] := by
  constructor
  · rintro ⟨packet, decoded, nonempty, whole⟩
    rcases casts.accepts nonempty whole with ⟨data, cast⟩
    exact ⟨data, ⟨packet, decoded, cast⟩, (casts.whole cast).1⟩
  · rintro ⟨data, ⟨packet, decoded, cast⟩, some⟩
    have whole := (casts.whole cast).2
    have positive := List.length_pos_iff.mpr some
    refine ⟨packet, decoded, ?_, by omega⟩
    rw [← List.length_pos_iff]
    omega

/-- A loop that is running at the end has received playable datagrams. -/
theorem Receiver.playable_of_running
    (casts : wire.CastsWholeSamples) {sel : MixerTrackSelector}
    {receiver : Receiver channelCount bufferSize}
    {events : List ReceiverEvent}
    (running : (receiver.run wire sel events).status = .running)
    {bytes : List UInt8} (member : .datagram bytes ∈ events) :
    Playable wire bytes ∧ sel.InRange channelCount := by
  rcases Receiver.taken_of_running running member with
    ⟨data, carries, named⟩
  have some : data ≠ [] := by
    rcases carries with ⟨packet, _, cast⟩
    exact (casts.whole cast).1
  exact
    ⟨(playable_iff_carries casts bytes).mpr ⟨data, carries, some⟩,
      named.resolve_right some⟩

end Malformed

/--
The loop outlives its datagrams, with the rings as if the malformed ones had
never arrived, exactly when all of them are playable and the mixer has the
channels.  It is given that the rings have room for the well-formed ones.
-/
theorem malformed_harmless_iff
    {channelCount bufferSize : ℕ} {wire : WireFormat}
    (casts : wire.CastsWholeSamples)
    (sel : MixerTrackSelector)
    (mixer : Mixer F32 channelCount bufferSize)
    (events : List ReceiverEvent)
    (room :
      HasRoom wire sel (.start mixer)
        (events.filter (WellFormed wire))) :
    (((Receiver.start mixer).run wire sel events).status = .running ∧
        ((Receiver.start mixer).run wire sel events).mixer =
          ((Receiver.start mixer).run wire sel
            (events.filter (WellFormed wire))).mixer) ↔
      ∀ bytes, .datagram bytes ∈ events →
        Playable wire bytes ∧ sel.InRange channelCount := by
  constructor
  · rintro ⟨running, _⟩ bytes member
    exact Receiver.playable_of_running casts running member
  · intro playable
    have all : events.filter (WellFormed wire) = events := by
      rw [List.filter_eq_self]
      intro event member
      cases event with
      | datagram bytes =>
          simp [WellFormed, (playable bytes member).1.not_malformed]
      | recvError => rfl
      | playout length => rfl
    rw [all] at room ⊢
    refine ⟨?_, rfl⟩
    refine
      (Receiver.run_running_iff rfl room).mpr fun bytes member => ?_
    rcases playable bytes member with ⟨playableHere, inRange⟩
    rcases (playable_iff_carries casts bytes).mp playableHere with
      ⟨data, carries, _⟩
    exact ⟨data, carries, Or.inl inRange⟩

/-- The conditions of the law at a session of one packet. -/
theorem malformed_harmless_iff_clean :
    ((Receiver.start (emptyMixer F32 2 1 44100)).run bincodeWire
        (.stereo 0 1)
        [.datagram (serialize (frameOf ⟨1⟩ ⟨2⟩))]).status =
      .running := by
  have playable :
      Playable bincodeWire (serialize (frameOf ⟨1⟩ ⟨2⟩)) :=
    (playable_iff_carries bincodeWire_castsWholeSamples _).mpr
      ⟨_, carries_frameOf _ _, by simp⟩
  have kept :
      [ReceiverEvent.datagram (serialize (frameOf ⟨1⟩ ⟨2⟩))].filter
          (WellFormed bincodeWire) =
        [.datagram (serialize (frameOf ⟨1⟩ ⟨2⟩))] := by
    simp [WellFormed, playable.not_malformed]
  refine
    ((@malformed_harmless_iff _ _ bincodeWire bincodeWire_castsWholeSamples
      (.stereo 0 1) (emptyMixer F32 2 1 44100)
      [.datagram (serialize (frameOf ⟨1⟩ ⟨2⟩))] ?_).mpr ?_).1
  · rw [kept]
    refine ⟨fun bytes data arrived _ carries => ?_, trivial⟩
    cases arrived
    rw [← (carries_frameOf ⟨1⟩ ⟨2⟩).unique carries]
    exact
      (fits_stereo_iff (show (0 : Fin 2) ≠ 1 by decide) _ rfl).mpr rfl
  · intro bytes member
    cases List.mem_singleton.mp member
    exact ⟨playable, by decide, by decide⟩

/-- Three stray bytes end the loop, though nothing else has arrived. -/
theorem stray_bytes_end_loop :
    HasRoom bincodeWire (.stereo 0 1)
        (.start (emptyMixer F32 2 1 44100))
        ([.datagram [1, 2, 3]].filter (WellFormed bincodeWire)) ∧
      ((Receiver.start (emptyMixer F32 2 1 44100)).run bincodeWire
        (.stereo 0 1) [.datagram [1, 2, 3]]).status ≠ .running := by
  have refused : bincodeWire.deserialize [1, 2, 3] = none := by decide
  have malformed : Malformed bincodeWire [1, 2, 3] = true := by
    simp [Malformed, handleDatagram_recvFrom, receiveBufferSize, refused]
  constructor
  · simp [WellFormed, malformed, HasRoom]
  · intro running
    have playable :=
      (Receiver.playable_of_running bincodeWire_castsWholeSamples running
        (List.mem_singleton.mpr rfl)).1
    rw [playable.not_malformed] at malformed
    cases malformed

end Audiopipe.Streamer.ReceiveLoop
