import Audiopipe.Control.Messages
import Audiopipe.Streamer.Sender

/-!
# Whether sender and receiver agree on the interleaving

The sender interleaves with the selector the client was started with, the
receiver de-interleaves with the selector of the connection packet, which is
a constant.  The two agree on every stereo stream whose packets fit the
receive buffer, if the receiver's mixer has the two channels.  A mono stream
is dealt out to two channels as soon as a packet has two samples.
-/

namespace Audiopipe.Session.SelectorAgreement

open Audiopipe.Foundation.StridedLists
open Audiopipe.Mixing.TrackSelector
open Audiopipe.Mixing.RingTransfer
open Audiopipe.Mixing.TransferLaws
open Audiopipe.Streamer.PacketFormat
open Audiopipe.Streamer.ReceiveLoop
open Audiopipe.Streamer.Sender
open Audiopipe.Control.Messages

variable {channelCount bufferSize : ℕ}

/-! ## What the receiver appends -/

/-- The datagrams among the events of a receiver. -/
def datagrams : List ReceiverEvent → List (List UInt8) :=
  List.filterMap fun
    | .datagram bytes => some bytes
    | _ => none

/-- What stands behind the old contents of the ring of `c`. -/
def newSamples
    (before after : Mixer F32 channelCount bufferSize)
    (c : Fin channelCount) : List F32 :=
  (after.rings c).contents.drop (before.rings c).contents.length

/-- The samples that the datagrams append to the ring of `c`. -/
def appended
    (wire : WireFormat) (sel : MixerTrackSelector) (c : Fin channelCount) :
    Receiver channelCount bufferSize → List ReceiverEvent → List F32
  | _, [] => []
  | receiver, event :: rest =>
      let next := receiver.step wire sel event
      match event with
      | .datagram _ =>
          newSamples receiver.mixer next.mixer c ++
            appended wire sel c next rest
      | _ => appended wire sel c next rest

/-- The channel that a selector names at position `side`. -/
def channelOf (sel : MixerTrackSelector) (side : ℕ) : ℕ :=
  match sel with
  | .mono c => c
  | .stereo l r => if side = 0 then l else r

/-- What the datagrams append to a channel; nothing if there is no such one. -/
def appendedAt
    (wire : WireFormat) (sel : MixerTrackSelector) (channel : ℕ)
    (receiver : Receiver channelCount bufferSize)
    (events : List ReceiverEvent) : List F32 :=
  if inside : channel < channelCount then
    appended wire sel ⟨channel, inside⟩ receiver events
  else
    []

/-- A datagram is among the events of the receiver. -/
theorem mem_datagrams_iff
    (bytes : List UInt8) (events : List ReceiverEvent) :
    bytes ∈ datagrams events ↔ .datagram bytes ∈ events := by
  constructor
  · intro member
    rcases List.mem_filterMap.mp member with ⟨event, there, found⟩
    cases event with
    | datagram other =>
        cases found
        exact there
    | recvError => cases found
    | playout length => cases found
  · intro member
    exact List.mem_filterMap.mpr ⟨_, member, rfl⟩

/--
A running loop has appended the samples of each buffer that the selector
addresses to the ring.
-/
theorem appended_eq
    {wire : WireFormat} {sel : MixerTrackSelector}
    {track : MixerTrack (Fin channelCount)}
    (resolved : getChannel channelCount sel = .ok track)
    {receiver : Receiver channelCount bufferSize}
    {events : List ReceiverEvent} {buffers : List (List F32)}
    (carried : List.Forall₂ (Carries wire) (datagrams events) buffers)
    (running : (receiver.run wire sel events).status = .running)
    (c : Fin channelCount) :
    appended wire sel c receiver events =
      (buffers.map (addressed track sel.channelCount 0 c)).flatten := by
  induction events generalizing receiver buffers with
  | nil =>
      cases carried
      rfl
  | cons event rest induction =>
      cases event with
      | recvError =>
          simp only [appended]
          exact induction carried running
      | playout length =>
          simp only [appended]
          exact induction carried running
      | datagram bytes =>
          cases carried with
          | @cons _ data _ buffers carriedHere carriedRest =>
              have runningHere := Receiver.running_before running
              have runningNext :
                  (receiver.step wire sel (.datagram bytes)).status =
                    .running :=
                Receiver.running_before running
              rcases
                  (receiver.step_datagram_iff runningHere bytes).mp
                    runningNext with
                ⟨taken, carriesTaken, _, fits⟩
              rw [← carriedHere.unique carriesTaken] at fits
              have added :
                  newSamples receiver.mixer
                      (receiver.step wire sel (.datagram bytes)).mixer c =
                    addressed track sel.channelCount 0 c data := by
                rw [receiver.step_carried runningHere carriedHere,
                  newSamples, writeToMixerAsync_of_fits resolved fits c]
                exact List.drop_left
              simp only [appended, added, List.map_cons,
                List.flatten_cons]
              rw [induction carriedRest running]

/-- A datagram without samples, or without channels for them, adds nothing. -/
theorem newSamples_untouched
    {wire : WireFormat} {sel : MixerTrackSelector} {bytes : List UInt8}
    (untouched :
      ∀ data, Carries wire bytes data → ¬ sel.InRange channelCount)
    (receiver : Receiver channelCount bufferSize) (c : Fin channelCount) :
    newSamples receiver.mixer
        (receiver.step wire sel (.datagram bytes)).mixer c =
      [] := by
  have unchanged :
      (receiver.step wire sel (.datagram bytes)).mixer =
        receiver.mixer := by
    by_cases running : receiver.status = .running
    · by_cases carried : ∃ data, Carries wire bytes data
      · rcases carried with ⟨data, carries⟩
        rw [receiver.step_carried running carries, writeToMixerAsync]
        cases resolved : getChannel channelCount sel with
        | error e => rfl
        | ok track =>
            exact
              (untouched data carries
                ((getChannel_isOk_iff sel).mp ⟨track, resolved⟩)).elim
      · simp only [Receiver.step, running]
        split
        · next packet decoded =>
            cases cast : wire.tryCastSlice packet.payload with
            | none => simp only [playPacket, cast]
            | some data =>
                exact (carried ⟨data, packet, decoded, cast⟩).elim
        · rfl
    · simp only [Receiver.step]
  rw [unchanged, newSamples, List.drop_length]

/-- Without samples, or without channels for them, nothing is appended. -/
theorem appended_eq_nil
    {wire : WireFormat} {sel : MixerTrackSelector}
    {events : List ReceiverEvent}
    (untouched :
      ∀ bytes ∈ datagrams events, ∀ data,
        Carries wire bytes data → ¬ sel.InRange channelCount)
    (receiver : Receiver channelCount bufferSize) (c : Fin channelCount) :
    appended wire sel c receiver events = [] := by
  induction events generalizing receiver with
  | nil => rfl
  | cons event rest induction =>
      cases event with
      | recvError => exact induction untouched _
      | playout length => exact induction untouched _
      | datagram bytes =>
          simp only [appended]
          rw [newSamples_untouched
              (untouched bytes (List.mem_cons_self ..)) receiver c,
            induction
              (fun later member =>
                untouched later (List.mem_cons_of_mem _ member)) _]
          rfl

/-! ## Agreement -/

/--
For every track of the sender's selector, the receiver appends to the channel
at the same position of its selector the samples that were read there.
-/
def InterleavingAgrees
    {senderChannels senderCapacity : ℕ}
    (client : UdpClient)
    (iterations : List (Iteration client senderChannels senderCapacity))
    (receiverSel : MixerTrackSelector)
    (receiver : Receiver channelCount bufferSize)
    (events : List ReceiverEvent) : Prop :=
  ∀ side < client.sel.channelCount,
    appendedAt bincodeWire receiverSel (channelOf receiverSel side)
        receiver events =
      readFrom side (client.reads iterations).flatten

/-- Every packet has the size of the client's buffer. -/
theorem length_of_mem_packets
    {senderChannels senderCapacity : ℕ} {client : UdpClient}
    {iterations : List (Iteration client senderChannels senderCapacity)}
    {packet : AudioPacket} (member : packet ∈ client.packets iterations) :
    packet.payload.length =
      4 * (client.bufsize * client.sel.channelCount) := by
  unfold UdpClient.packets at member
  cases resolved : getChannel senderChannels client.sel with
  | error e =>
      rw [resolved] at member
      cases member
  | ok channels =>
      rw [resolved] at member
      rcases List.mem_map.mp member with ⟨iteration, _, rfl⟩
      change (castToBytes _).length = _
      rw [length_castToBytes, List.length_map, length_readBuffer,
        iteration.sized]

/-- A packet from which the receiver gets samples has some and was not cut. -/
theorem small_of_carries
    {senderChannels senderCapacity : ℕ} {client : UdpClient}
    {iterations : List (Iteration client senderChannels senderCapacity)}
    {packet : AudioPacket} (member : packet ∈ client.packets iterations)
    {data : List F32}
    (carries : Carries bincodeWire (serialize packet) data) :
    0 < client.bufsize ∧
      60 + 4 * (client.bufsize * client.sel.channelCount) ≤
        receiveBufferSize := by
  rcases carries.length_payload with ⟨length, positive, fits⟩
  rw [length_of_mem_packets member] at length
  have same : client.bufsize * client.sel.channelCount = data.length := by
    omega
  rw [same]
  refine ⟨?_, fits⟩
  rw [← same] at positive
  exact Nat.pos_of_mul_pos_right positive

/-- Packets of some samples that fit the receive buffer carry those read. -/
theorem packets_carry
    {senderChannels senderCapacity : ℕ} {client : UdpClient}
    (iterations : List (Iteration client senderChannels senderCapacity))
    (positive : 0 < client.bufsize)
    (fits :
      60 + 4 * (client.bufsize * client.sel.channelCount) ≤
        receiveBufferSize) :
    List.Forall₂ (Carries bincodeWire)
      ((client.packets iterations).map serialize)
      ((client.reads iterations).map (List.map Prod.snd)) := by
  unfold UdpClient.packets UdpClient.reads
  cases getChannel senderChannels client.sel with
  | error e => exact .nil
  | ok channels =>
      rw [List.map_map, List.map_map, List.forall₂_map_left_iff,
        List.forall₂_map_right_iff, List.forall₂_same]
      intro iteration member
      have survives :=
        survives_of_fits client iteration.timestamp
          ((readBuffer (.start channels channels.channelCount)
            iteration.seen).map Prod.snd)
          (by rw [List.length_map, length_readBuffer, iteration.sized])
          positive fits
      exact ⟨_, survives.1, survives.2⟩

/-- What the receiver appends when it de-interleaves two channels. -/
theorem appendedAt_stereo
    {wire : WireFormat} (two : 2 ≤ channelCount)
    {receiver : Receiver channelCount bufferSize}
    {events : List ReceiverEvent} {buffers : List (List F32)}
    (carried : List.Forall₂ (Carries wire) (datagrams events) buffers)
    (running :
      (receiver.run wire (.stereo 0 1) events).status = .running)
    {side : ℕ} (named : side < 2) :
    appendedAt wire (.stereo 0 1) (channelOf (.stereo 0 1) side) receiver
        events =
      (buffers.map (everyNth 2 side)).flatten := by
  have resolved :
      getChannel channelCount (.stereo 0 1) =
        .ok (.stereo ⟨0, by omega⟩ ⟨1, by omega⟩) :=
    getChannel_stereo _ _
  have sides :
      (⟨0, by omega⟩ : Fin channelCount) ≠ ⟨1, by omega⟩ := by
    simp [Fin.ext_iff]
  rcases Nat.lt_succ_iff_lt_or_eq.mp named with left | right
  · have isLeft : side = 0 := by omega
    subst isLeft
    change appendedAt wire (.stereo 0 1) 0 receiver events = _
    rw [appendedAt, dif_pos (by omega),
      appended_eq resolved carried running]
    congr 1
    apply List.map_congr_left
    intro buffer _
    exact addressed_stereo_left sides buffer
  · subst right
    change appendedAt wire (.stereo 0 1) 1 receiver events = _
    rw [appendedAt, dif_pos (by omega),
      appended_eq resolved carried running]
    congr 1
    apply List.map_congr_left
    intro buffer _
    exact addressed_stereo_right sides buffer

/-- Every buffer was filled along the track of the client's selector. -/
theorem exists_of_mem_reads
    {senderChannels senderCapacity : ℕ} {client : UdpClient}
    {iterations : List (Iteration client senderChannels senderCapacity)}
    {reads : List (ℕ × F32)} (member : reads ∈ client.reads iterations) :
    ∃ (channels : MixerTrack (Fin senderChannels))
      (iteration : Iteration client senderChannels senderCapacity),
      getChannel senderChannels client.sel = .ok channels ∧
        readBuffer (.start channels channels.channelCount)
            iteration.seen =
          reads := by
  unfold UdpClient.reads at member
  cases resolved : getChannel senderChannels client.sel with
  | error e =>
      rw [resolved] at member
      cases member
  | ok channels =>
      rw [resolved] at member
      rcases List.mem_map.mp member with ⟨iteration, _, filled⟩
      exact ⟨channels, iteration, rfl, filled⟩

/-- What the sender has read from each side of a stereo track. -/
theorem readFrom_reads_stereo
    {senderChannels senderCapacity : ℕ} {client : UdpClient} {l r : ℕ}
    (stereo : client.sel = .stereo l r)
    (iterations : List (Iteration client senderChannels senderCapacity))
    {side : ℕ} (named : side < 2) :
    readFrom side (client.reads iterations).flatten =
      (((client.reads iterations).map (List.map Prod.snd)).map
        (everyNth 2 side)).flatten := by
  rw [readFrom_flatten, List.map_map]
  congr 1
  apply List.map_congr_left
  intro reads member
  rcases exists_of_mem_reads member with
    ⟨channels, iteration, resolved, rfl⟩
  rw [stereo] at resolved
  have inRange :=
    (getChannel_isOk_iff (.stereo l r)).mp ⟨channels, resolved⟩
  rw [getChannel_stereo inRange.1 inRange.2] at resolved
  cases resolved
  have columns :=
    (@readFrom_stereo _ _
      (.start (.stereo ⟨l, inRange.1⟩ ⟨r, inRange.2⟩) 2) _ _ rfl rfl
      iteration.seen).1 rfl
  rcases Nat.lt_succ_iff_lt_or_eq.mp named with left | right
  · have isLeft : side = 0 := by omega
    subst isLeft
    exact columns.1
  · subst right
    exact columns.2

/-- A mono track is the only one the sender has read from. -/
theorem readFrom_reads_mono
    {senderChannels senderCapacity : ℕ} {client : UdpClient} {c : ℕ}
    (mono : client.sel = .mono c)
    (iterations : List (Iteration client senderChannels senderCapacity)) :
    readFrom 0 (client.reads iterations).flatten =
      ((client.reads iterations).map (List.map Prod.snd)).flatten := by
  rw [readFrom_flatten]
  congr 1
  apply List.map_congr_left
  intro reads member
  rcases exists_of_mem_reads member with
    ⟨channels, iteration, resolved, rfl⟩
  rw [mono] at resolved
  have inRange := (getChannel_isOk_iff (.mono c)).mp ⟨channels, resolved⟩
  rw [getChannel_mono inRange] at resolved
  cases resolved
  exact readFrom_mono rfl rfl iteration.seen

/-- Every buffer has the size of the client's. -/
theorem length_of_mem_reads
    {senderChannels senderCapacity : ℕ} {client : UdpClient}
    {iterations : List (Iteration client senderChannels senderCapacity)}
    {reads : List (ℕ × F32)} (member : reads ∈ client.reads iterations) :
    reads.length = client.bufsize * client.sel.channelCount := by
  rcases exists_of_mem_reads member with ⟨channels, iteration, _, rfl⟩
  rw [length_readBuffer, iteration.sized]

/-- Nothing is read without an iteration, or on a mixer without the track. -/
theorem reads_eq_nil_iff
    {senderChannels senderCapacity : ℕ} {client : UdpClient}
    (iterations : List (Iteration client senderChannels senderCapacity)) :
    client.reads iterations = [] ↔
      iterations = [] ∨ ¬ client.sel.InRange senderChannels := by
  rw [← getChannel_isOk_iff]
  unfold UdpClient.reads
  cases getChannel senderChannels client.sel with
  | error e => simp
  | ok channels => simp

/-- A sender that has read nothing has sent nothing. -/
theorem packets_eq_nil_of_reads
    {senderChannels senderCapacity : ℕ} {client : UdpClient}
    {iterations : List (Iteration client senderChannels senderCapacity)}
    (nothing : client.reads iterations = []) :
    client.packets iterations = [] := by
  unfold UdpClient.reads at nothing
  unfold UdpClient.packets
  cases resolved : getChannel senderChannels client.sel with
  | error e => rfl
  | ok channels =>
      rw [resolved] at nothing
      rw [List.map_eq_nil_iff.mp nothing]
      rfl

/-- Every buffer starts with a sample of the first track. -/
theorem readFrom_reads_ne_nil
    {senderChannels senderCapacity : ℕ} {client : UdpClient}
    {iterations : List (Iteration client senderChannels senderCapacity)}
    (sent : client.reads iterations ≠ []) (positive : 0 < client.bufsize) :
    readFrom 0 (client.reads iterations).flatten ≠ [] := by
  rcases List.exists_mem_of_ne_nil _ sent with ⟨reads, member⟩
  have first : ∃ sample, (0, sample) ∈ reads := by
    have length := length_of_mem_reads member
    rcases exists_of_mem_reads member with ⟨channels, iteration, _, rfl⟩
    cases seen : iteration.seen with
    | nil =>
        rw [seen, readBuffer, List.length_nil] at length
        have some := Nat.mul_pos positive client.sel.channelCount_pos
        omega
    | cons mixer rest => exact ⟨_, List.mem_cons_self ..⟩
  rcases first with ⟨sample, read⟩
  have inFirst :
      (0, sample) ∈
        (client.reads iterations).flatten.filter fun read =>
          read.1 == 0 :=
    List.mem_filter.mpr ⟨List.mem_flatten.mpr ⟨reads, member, read⟩, rfl⟩
  exact List.ne_nil_of_mem (List.mem_map_of_mem inFirst)

/-- The even positions of equally long buffers are all positions. -/
theorem evens_eq_all_iff
    {buffers : List (List F32)} {size : ℕ}
    (sized : ∀ buffer ∈ buffers, buffer.length = size) :
    (buffers.map (everyNth 2 0)).flatten = buffers.flatten ↔
      size ≤ 1 ∨ buffers = [] := by
  constructor
  · intro equal
    have shorter :
        ∀ buffers : List (List F32),
          (∀ buffer ∈ buffers, buffer.length = size) →
            (buffers.map (everyNth 2 0)).flatten.length =
                buffers.length * ((size + 1) / 2) ∧
              buffers.flatten.length = buffers.length * size := by
      intro buffers sized
      induction buffers with
      | nil => simp
      | cons buffer rest induction =>
          rcases
              induction fun later member =>
                sized later (List.mem_cons_of_mem _ member) with
            ⟨evens, all⟩
          have here := sized buffer (List.mem_cons_self ..)
          rw [List.map_cons, List.flatten_cons, List.flatten_cons,
            List.length_append, List.length_append, evens, all,
            (length_everyNth_two buffer).1, here, List.length_cons,
            Nat.succ_mul, Nat.succ_mul]
          omega
    rcases shorter buffers sized with ⟨evens, all⟩
    rw [equal, all] at evens
    cases buffers with
    | nil => exact Or.inr rfl
    | cons buffer rest =>
        have half : size = (size + 1) / 2 :=
          Nat.eq_of_mul_eq_mul_left (Nat.succ_pos rest.length) evens
        exact Or.inl (by omega)
  · rintro (short | noBuffers)
    · congr 1
      refine (List.map_congr_left fun buffer member => ?_).trans
        (List.map_id _)
      have length := sized buffer member
      match buffer, length with
      | [], _ => rfl
      | [sample], _ => rfl
      | first :: second :: rest, length =>
          simp only [List.length_cons] at length
          omega
    · rw [noBuffers]
      rfl

section Streams

variable {senderChannels senderCapacity : ℕ} {client : UdpClient}
variable {iterations : List (Iteration client senderChannels senderCapacity)}
variable {receiver : Receiver channelCount bufferSize}
variable {events : List ReceiverEvent}

/-- A mono stream is dealt out: its channel gets the even positions. -/
theorem agrees_mono_iff
    {m : ℕ} (sel : client.sel = .mono m) (two : 2 ≤ channelCount)
    (carried :
      List.Forall₂ (Carries bincodeWire) (datagrams events)
        ((client.reads iterations).map (List.map Prod.snd)))
    (running :
      (receiver.run bincodeWire (.stereo 0 1) events).status = .running) :
    InterleavingAgrees client iterations (.stereo 0 1) receiver events ↔
      (((client.reads iterations).map
          (List.map Prod.snd)).map (everyNth 2 0)).flatten =
        ((client.reads iterations).map (List.map Prod.snd)).flatten := by
  rw [← readFrom_reads_mono sel iterations]
  have evens := appendedAt_stereo two carried running (show 0 < 2 by decide)
  constructor
  · intro agrees
    rw [← evens]
    exact agrees 0 (by rw [sel]; exact Nat.one_pos)
  · intro equal side named
    have first : side = 0 := by
      rw [sel] at named
      exact Nat.lt_one_iff.mp named
    subst first
    rw [evens]
    exact equal

/-- Where all samples arrive, the two agree if the sender has two tracks. -/
theorem agrees_of_carried_iff
    (two : 2 ≤ channelCount)
    (carried :
      List.Forall₂ (Carries bincodeWire) (datagrams events)
        ((client.reads iterations).map (List.map Prod.snd)))
    (running :
      (receiver.run bincodeWire (.stereo 0 1) events).status = .running)
    (sent : client.reads iterations ≠ []) :
    InterleavingAgrees client iterations (.stereo 0 1) receiver events ↔
      client.sel.channelCount = 2 ∨ client.bufsize ≤ 1 := by
  cases sel : client.sel with
  | stereo l r =>
      refine ⟨fun _ => Or.inl rfl, fun _ side named => ?_⟩
      rw [sel] at named
      rw [appendedAt_stereo two carried running named,
        readFrom_reads_stereo sel iterations named]
  | mono m =>
      have sized :
          ∀ buffer ∈ (client.reads iterations).map (List.map Prod.snd),
            buffer.length = client.bufsize := by
        intro buffer member
        rcases List.mem_map.mp member with ⟨reads, readHere, rfl⟩
        rw [List.length_map, length_of_mem_reads readHere, sel]
        exact Nat.mul_one _
      have some :
          (client.reads iterations).map (List.map Prod.snd) ≠ [] :=
        fun none => sent (List.map_eq_nil_iff.mp none)
      rw [agrees_mono_iff sel two carried running, evens_eq_all_iff sized]
      simp [MixerTrackSelector.channelCount, some]

/-- Where no sample arrives, the two agree if none was sent. -/
theorem agrees_of_untouched_iff
    (untouched :
      ∀ bytes ∈ datagrams events, ∀ data,
        Carries bincodeWire bytes data →
          ¬ (MixerTrackSelector.stereo 0 1).InRange channelCount)
    (sent : client.reads iterations ≠ []) :
    InterleavingAgrees client iterations (.stereo 0 1) receiver events ↔
      client.bufsize = 0 := by
  have nothing :
      ∀ channel,
        appendedAt bincodeWire (.stereo 0 1) channel receiver events =
          [] := by
    intro channel
    unfold appendedAt
    split
    · exact appended_eq_nil untouched receiver _
    · rfl
  constructor
  · intro agrees
    by_contra some
    have first := agrees 0 client.sel.channelCount_pos
    rw [nothing] at first
    exact
      readFrom_reads_ne_nil sent (Nat.pos_of_ne_zero some) first.symm
  · intro zero side _
    have silent : (client.reads iterations).flatten = [] := by
      rw [List.flatten_eq_nil_iff]
      intro reads member
      have length := length_of_mem_reads member
      rw [zero, Nat.zero_mul] at length
      exact List.eq_nil_of_length_eq_zero length
    rw [nothing, silent]
    rfl

end Streams

/--
The receiver agrees with the sender on the interleaving exactly for streams
without samples, and for streams that arrive and are stereo, or have one
sample per packet.  A stream arrives if its packets fit the receive buffer and
the receiver's mixer has the two channels.
-/
theorem interleaving_agrees_iff
    {channelCount bufferSize senderChannels senderCapacity : ℕ}
    {client : UdpClient} {receiverSel : MixerTrackSelector}
    (opened : connectionPacket client.sel = .openStream receiverSel)
    (iterations : List (Iteration client senderChannels senderCapacity))
    (mixer : Mixer F32 channelCount bufferSize)
    (events : List ReceiverEvent)
    (delivered :
      datagrams events = (client.packets iterations).map serialize)
    (room : HasRoom bincodeWire receiverSel (.start mixer) events) :
    InterleavingAgrees client iterations receiverSel (.start mixer)
        events ↔
      (iterations = [] ∨ ¬ client.sel.InRange senderChannels ∨
        client.bufsize = 0) ∨
      (60 + 4 * (client.bufsize * client.sel.channelCount) ≤
          receiveBufferSize ∧
        2 ≤ channelCount ∧
        (client.sel.channelCount = 2 ∨ client.bufsize ≤ 1)) := by
  cases opened
  have small :
      ∀ bytes ∈ datagrams events, ∀ data,
        Carries bincodeWire bytes data →
          0 < client.bufsize ∧
            60 + 4 * (client.bufsize * client.sel.channelCount) ≤
              receiveBufferSize := by
    intro bytes member data carries
    rw [delivered] at member
    rcases List.mem_map.mp member with ⟨packet, packetSent, rfl⟩
    exact small_of_carries packetSent carries
  by_cases sent : client.reads iterations = []
  · have noDatagram : datagrams events = [] := by
      rw [delivered, packets_eq_nil_of_reads sent]
      rfl
    refine iff_of_true ?_ (Or.inl ?_)
    · intro side _
      rw [sent]
      unfold appendedAt
      split
      · refine appended_eq_nil (fun bytes member => ?_) _ _
        rw [noDatagram] at member
        cases member
      · rfl
    · rcases (reads_eq_nil_iff iterations).mp sent with none | missing
      · exact Or.inl none
      · exact Or.inr (Or.inl missing)
  · have notNothing :
        ¬ (iterations = [] ∨ ¬ client.sel.InRange senderChannels) :=
      fun nothing => sent ((reads_eq_nil_iff iterations).mpr nothing)
    by_cases arrives :
        0 < client.bufsize ∧
          60 + 4 * (client.bufsize * client.sel.channelCount) ≤
            receiveBufferSize ∧
          2 ≤ channelCount
    · rcases arrives with ⟨positive, fits, two⟩
      have carried :
          List.Forall₂ (Carries bincodeWire) (datagrams events)
            ((client.reads iterations).map (List.map Prod.snd)) := by
        rw [delivered]
        exact packets_carry iterations positive fits
      have inRange :
          (MixerTrackSelector.stereo 0 1).InRange channelCount :=
        ⟨by omega, two⟩
      have running :
          ((Receiver.start mixer).run bincodeWire (.stereo 0 1)
            events).status = .running := by
        refine
          (Receiver.run_running_iff rfl room).mpr fun bytes member => ?_
        have arrived := (mem_datagrams_iff bytes events).mpr member
        rw [delivered] at arrived
        rcases List.mem_map.mp arrived with ⟨packet, packetSent, rfl⟩
        rcases
            carries_of_fits (length_of_mem_packets packetSent)
              (Nat.mul_pos positive client.sel.channelCount_pos) fits with
          ⟨data, carries⟩
        exact ⟨data, carries, Or.inl inRange⟩
      rw [agrees_of_carried_iff two carried running sent]
      constructor
      · intro agrees
        exact Or.inr ⟨fits, two, agrees⟩
      · rintro ((none | missing | zero) | ⟨_, _, agrees⟩)
        · exact (notNothing (Or.inl none)).elim
        · exact (notNothing (Or.inr missing)).elim
        · exact (Nat.ne_of_gt positive zero).elim
        · exact agrees
    · have untouched :
          ∀ bytes ∈ datagrams events, ∀ data,
            Carries bincodeWire bytes data →
              ¬ (MixerTrackSelector.stereo 0 1).InRange channelCount := by
        intro bytes member data carries inRange
        rcases small bytes member data carries with ⟨positive, fits⟩
        exact arrives ⟨positive, fits, inRange.2⟩
      rw [agrees_of_untouched_iff untouched sent]
      constructor
      · intro zero
        exact Or.inl (Or.inr (Or.inr zero))
      · rintro ((none | missing | zero) | ⟨fits, two, _⟩)
        · exact (notNothing (Or.inl none)).elim
        · exact (notNothing (Or.inr missing)).elim
        · exact zero
        · by_contra some
          exact arrives ⟨Nat.pos_of_ne_zero some, fits, two⟩

/-! ## A stereo stream and a mono stream -/

/-- The events of a receiver that gets packets back to back. -/
def arrivals (packets : List AudioPacket) : List ReceiverEvent :=
  packets.map fun packet => .datagram (serialize packet)

/-- Empty rings have room for a first packet that is no longer than they. -/
theorem hasRoom_arrival
    {senderChannels senderCapacity : ℕ} {client : UdpClient}
    (iteration : Iteration client senderChannels senderCapacity)
    (sel : MixerTrackSelector) (sampleRate : ℕ)
    (short : client.bufsize * client.sel.channelCount ≤ bufferSize) :
    HasRoom bincodeWire sel
      (.start (emptyMixer F32 channelCount bufferSize sampleRate))
      (arrivals (client.packets [iteration])) := by
  have sized :=
    @length_of_mem_packets senderChannels senderCapacity client [iteration]
  revert sized
  unfold UdpClient.packets
  cases getChannel senderChannels client.sel with
  | error e => exact fun _ => trivial
  | ok channels =>
      intro sized
      refine ⟨fun bytes data arrived _ carries track _ c => ?_, trivial⟩
      cases arrived
      have length := sized (List.mem_singleton.mpr rfl)
      rw [carries.length_payload.1] at length
      have few :=
        length_addressed_le track sel.channelCount 0 c data
      change 0 + _ ≤ bufferSize
      omega

/-- A mixer of two rings that hold the given samples. -/
def filledMixer (left right : List F32)
    (leftFew : left.length ≤ 4) (rightFew : right.length ≤ 4) :
    Mixer F32 2 4 :=
  ((emptyMixer F32 2 4 44100).setRing (Fin.mk 0 (by decide))
    ⟨left, leftFew⟩).setRing (Fin.mk 1 (by decide)) ⟨right, rightFew⟩

def stereoIteration : Iteration (stereoClient 2 (by decide)) 2 4 where
  seen :=
    [filledMixer [⟨1⟩, ⟨2⟩] [⟨3⟩, ⟨4⟩] (by decide) (by decide),
      filledMixer [⟨2⟩] [⟨3⟩, ⟨4⟩] (by decide) (by decide),
      filledMixer [⟨2⟩] [⟨4⟩] (by decide) (by decide),
      filledMixer [] [⟨4⟩] (by decide) (by decide)]
  sized := rfl
  timestamp := .UNIX_EPOCH

/-- A stereo packet of two frames goes to the channels it was read from. -/
theorem interleaving_agrees_iff_two_frames :
    InterleavingAgrees (stereoClient 2 (by decide)) [stereoIteration]
      (.stereo 0 1) (.start (emptyMixer F32 2 4 44100))
      (arrivals
        ((stereoClient 2 (by decide)).packets [stereoIteration])) :=
  (@interleaving_agrees_iff _ _ _ _ (stereoClient 2 (by decide))
    (.stereo 0 1) rfl [stereoIteration] (emptyMixer F32 2 4 44100)
    (arrivals ((stereoClient 2 (by decide)).packets [stereoIteration]))
    (by decide +kernel)
    (hasRoom_arrival stereoIteration _ _ (by decide))).mpr
    (Or.inr ⟨by decide, by decide, Or.inl rfl⟩)

/-- A client that sends two samples of its first channel in a packet. -/
def monoClient : UdpClient where
  bufsize := 2
  sampleRate := 44100
  connectionId := .nil
  sel := .mono 0
  allocated := by decide

def monoIteration : Iteration monoClient 2 4 where
  seen :=
    [filledMixer [⟨1⟩, ⟨2⟩] [] (by decide) (by decide),
      filledMixer [⟨2⟩] [] (by decide) (by decide)]
  sized := rfl
  timestamp := .UNIX_EPOCH

/-- The second sample of the mono packet goes to the second channel. -/
theorem mono_stream_split :
    connectionPacket monoClient.sel = .openStream (.stereo 0 1) ∧
      datagrams (arrivals (monoClient.packets [monoIteration])) =
        (monoClient.packets [monoIteration]).map serialize ∧
      HasRoom bincodeWire (.stereo 0 1)
        (.start (emptyMixer F32 2 4 44100))
        (arrivals (monoClient.packets [monoIteration])) ∧
      ¬ InterleavingAgrees monoClient [monoIteration] (.stereo 0 1)
        (.start (emptyMixer F32 2 4 44100))
        (arrivals (monoClient.packets [monoIteration])) := by
  refine
    ⟨rfl, by decide +kernel,
      hasRoom_arrival monoIteration _ _ (by decide), fun agrees => ?_⟩
  have equal := agrees 0 (by decide)
  revert equal
  decide +kernel

end Audiopipe.Session.SelectorAgreement
