import Audiopipe.Streamer.ReceiveLoop

/-!
# The send loop of a stream

Every iteration of `udp_client` fills one buffer from the track of its
selector, casts it to bytes and sends it as one packet.  While it reads, the
sound card may write to the same rings, so every single read sees a mixer of
its own.
-/

namespace Audiopipe.Streamer.Sender

open Audiopipe.Foundation.StridedLists
open Audiopipe.Mixing.TrackSelector
open Audiopipe.Mixing.RingTransfer
open Audiopipe.Mixing.TransferLaws
open Audiopipe.Streamer.PacketFormat
open Audiopipe.Streamer.ReceiveLoop

variable {channelCount bufferSize : ℕ}

/-! ## Reading a buffer -/

/--
The reads of one buffer: for each the channel counter and the sample.  The
list gives the mixer that each read finds.
-/
def readBuffer
    (cursor : TrackCursor channelCount) :
    List (Mixer F32 channelCount bufferSize) → List (ℕ × F32)
  | [] => []
  | mixer :: rest =>
      let next := readTrackSample cursor mixer
      (cursor.ch, next.2.1) :: readBuffer next.1 rest

/-- The mixers that the reads of an undisturbed loop find. -/
def undisturbed
    (cursor : TrackCursor channelCount)
    (mixer : Mixer F32 channelCount bufferSize) :
    ℕ → List (Mixer F32 channelCount bufferSize)
  | 0 => []
  | length + 1 =>
      let next := readTrackSample cursor mixer
      mixer :: undisturbed next.1 next.2.2 length

/-- Undisturbed reads are those of `read_from_mixer_track_async`. -/
theorem readBuffer_undisturbed
    (cursor : TrackCursor channelCount)
    (mixer : Mixer F32 channelCount bufferSize) (length : ℕ) :
    (readBuffer cursor (undisturbed cursor mixer length)).map Prod.snd =
      (readTrackSamples cursor mixer length).2.1 := by
  induction length generalizing cursor mixer with
  | zero => rfl
  | succ length induction =>
      simp only [undisturbed, readBuffer, List.map_cons, readTrackSamples]
      rw [induction]

@[simp]
theorem length_readBuffer
    (cursor : TrackCursor channelCount)
    (seen : List (Mixer F32 channelCount bufferSize)) :
    (readBuffer cursor seen).length = seen.length := by
  induction seen generalizing cursor with
  | nil => rfl
  | cons mixer rest induction => simp [readBuffer, induction]

/-- A read moves the channel counter and leaves the track alone. -/
theorem readTrackSample_cursor
    (cursor : TrackCursor channelCount)
    (mixer : Mixer F32 channelCount bufferSize) :
    (readTrackSample cursor mixer).1.track = cursor.track ∧
      (readTrackSample cursor mixer).1.cycle = cursor.cycle ∧
      (readTrackSample cursor mixer).1.ch = cursor.nextCh := by
  rw [readTrackSample_eq]
  exact ⟨rfl, rfl, rfl⟩

/-- The samples that were read at channel counter `side`. -/
def readFrom (side : ℕ) (reads : List (ℕ × F32)) : List F32 :=
  (reads.filter fun read => read.1 == side).map Prod.snd

theorem readFrom_flatten (side : ℕ) (reads : List (List (ℕ × F32))) :
    readFrom side reads.flatten =
      (reads.map (readFrom side)).flatten := by
  simp only [readFrom, List.filter_flatten, List.map_flatten,
    List.map_map]
  rfl

/-- A mono track is read at one counter only. -/
theorem readFrom_mono
    {cursor : TrackCursor channelCount} {c : Fin channelCount}
    (track : cursor.track = .mono c) (start : cursor.ch = 0)
    (seen : List (Mixer F32 channelCount bufferSize)) :
    readFrom 0 (readBuffer cursor seen) =
      (readBuffer cursor seen).map Prod.snd := by
  induction seen generalizing cursor with
  | nil => rfl
  | cons mixer rest induction =>
      rcases readTrackSample_cursor cursor mixer with ⟨sameTrack, _, moved⟩
      have stays : (readTrackSample cursor mixer).1.ch = 0 := by
        rw [moved, TrackCursor.nextCh, track]
        exact start
      have remaining := induction (sameTrack.trans track) stays
      simp only [readFrom, readBuffer, start, beq_self_eq_true,
        List.filter_cons_of_pos, List.map_cons] at remaining ⊢
      rw [remaining]

/-- The sides of a stereo track are read in turn. -/
theorem readFrom_stereo
    {cursor : TrackCursor channelCount} {l r : Fin channelCount}
    (track : cursor.track = .stereo l r) (cycle : cursor.cycle = 2)
    (seen : List (Mixer F32 channelCount bufferSize)) :
    (cursor.ch = 0 →
        readFrom 0 (readBuffer cursor seen) =
            everyNth 2 0 ((readBuffer cursor seen).map Prod.snd) ∧
          readFrom 1 (readBuffer cursor seen) =
            everyNth 2 1 ((readBuffer cursor seen).map Prod.snd)) ∧
      (cursor.ch = 1 →
        readFrom 0 (readBuffer cursor seen) =
            everyNth 2 1 ((readBuffer cursor seen).map Prod.snd) ∧
          readFrom 1 (readBuffer cursor seen) =
            everyNth 2 0 ((readBuffer cursor seen).map Prod.snd)) := by
  induction seen generalizing cursor with
  | nil => simp [readBuffer, readFrom]
  | cons mixer rest induction =>
      rcases readTrackSample_cursor cursor mixer with
        ⟨sameTrack, sameCycle, moved⟩
      have remaining :=
        induction (sameTrack.trans track) (sameCycle.trans cycle)
      constructor
      · intro even
        have odd : (readTrackSample cursor mixer).1.ch = 1 := by
          rw [moved, TrackCursor.nextCh, track, cycle, even]
          rfl
        rcases remaining.2 odd with ⟨left, right⟩
        simp only [readFrom] at left right
        simp [readFrom, readBuffer, even, left, right]
      · intro odd
        have even : (readTrackSample cursor mixer).1.ch = 0 := by
          rw [moved, TrackCursor.nextCh, track, cycle, odd]
          rfl
        rcases remaining.1 even with ⟨left, right⟩
        simp only [readFrom] at left right
        simp [readFrom, readBuffer, odd, left, right]

/-! ## Building packets -/

/--
The parameters of `udp_client`; its buffer is one that can be allocated, of
fewer than `2 ^ 63` bytes.
-/
structure UdpClient where
  bufsize : ℕ
  sampleRate : UInt64
  connectionId : Uuid
  sel : MixerTrackSelector
  allocated : 4 * (bufsize * sel.channelCount) < 2 ^ 63

namespace UdpClient

/-- The packet that carries a filled buffer. -/
def packet
    (client : UdpClient) (timestamp : SystemTime) (buf : List F32)
    (sized : buf.length = client.bufsize * client.sel.channelCount) :
    AudioPacket where
  header :=
    { connectionId := client.connectionId
      timestamp := timestamp
      sampleRate := client.sampleRate
      channels := UInt64.ofNat client.sel.channelCount }
  payload := castToBytes buf
  sized := by
    rw [length_castToBytes, sized]
    exact Nat.lt_trans client.allocated (by decide)

/-- The size of a packet grows with the buffer and the channels. -/
theorem length_serialize_packet
    (client : UdpClient) (timestamp : SystemTime) (buf : List F32)
    (sized : buf.length = client.bufsize * client.sel.channelCount) :
    (serialize (client.packet timestamp buf sized)).length =
      60 + 4 * (client.bufsize * client.sel.channelCount) := by
  have payload :
      (client.packet timestamp buf sized).payload = castToBytes buf :=
    rfl
  rw [length_serialize, payload, length_castToBytes, sized]

end UdpClient

/-! ## The loop -/

/-- What the environment gives one iteration: a mixer for each read. -/
structure Iteration (client : UdpClient)
    (channelCount bufferSize : ℕ) where
  seen : List (Mixer F32 channelCount bufferSize)
  sized : seen.length = client.bufsize * client.sel.channelCount
  timestamp : SystemTime

namespace UdpClient

variable (client : UdpClient)

/-- The reads of every iteration; a failed lookup ends the loop at once. -/
def reads
    (iterations : List (Iteration client channelCount bufferSize)) :
    List (List (ℕ × F32)) :=
  match getChannel channelCount client.sel with
  | .ok channels =>
      iterations.map fun iteration =>
        readBuffer (.start channels channels.channelCount) iteration.seen
  | .error _ => []

/-- The packets that the loop sends. -/
def packets
    (iterations : List (Iteration client channelCount bufferSize)) :
    List AudioPacket :=
  match getChannel channelCount client.sel with
  | .ok channels =>
      iterations.map fun iteration =>
        client.packet iteration.timestamp
          ((readBuffer (.start channels channels.channelCount)
            iteration.seen).map Prod.snd)
          (by rw [List.length_map, length_readBuffer, iteration.sized])
  | .error _ => []

end UdpClient

/-! ## Survival on the wire -/

/-- The receiver decodes the packet and finds the samples in it. -/
def Survives (packet : AudioPacket) (samples : List F32) : Prop :=
  handleDatagram bincodeWire (recvFrom (serialize packet)).1
        (recvFrom (serialize packet)).2 =
      .ok packet ∧
    bincodeWire.tryCastSlice packet.payload = some samples

/-- A packet that survives was not cut off by the receive buffer. -/
theorem Survives.fits
    {client : UdpClient} {timestamp : SystemTime} {buf : List F32}
    {sized : buf.length = client.bufsize * client.sel.channelCount}
    (survives : Survives (client.packet timestamp buf sized) buf) :
    60 + 4 * (client.bufsize * client.sel.channelCount) ≤ 10000 := by
  by_contra tooLong
  have cut :
      receiveBufferSize <
        (serialize (client.packet timestamp buf sized)).length := by
    rw [client.length_serialize_packet timestamp buf sized]
    exact Nat.lt_of_not_le tooLong
  have decoded := survives.1
  rw [handleDatagram_serialize_long cut] at decoded
  cases decoded

/-- A packet that survives has samples, for an empty one is not cast. -/
theorem Survives.positive
    {client : UdpClient} {timestamp : SystemTime} {buf : List F32}
    {sized : buf.length = client.bufsize * client.sel.channelCount}
    (survives : Survives (client.packet timestamp buf sized) buf) :
    0 < client.bufsize := by
  have length :=
    List.length_pos_iff.mpr
      (bincodeWire_castsWholeSamples.whole survives.2).1
  rw [sized] at length
  exact Nat.pos_of_mul_pos_right length

/-- A packet of some samples that fits the receive buffer survives. -/
theorem survives_of_fits
    (client : UdpClient) (timestamp : SystemTime) (buf : List F32)
    (sized : buf.length = client.bufsize * client.sel.channelCount)
    (positive : 0 < client.bufsize)
    (fits :
      60 + 4 * (client.bufsize * client.sel.channelCount) ≤
        receiveBufferSize) :
    Survives (client.packet timestamp buf sized) buf := by
  have whole :
      (serialize (client.packet timestamp buf sized)).length ≤
        receiveBufferSize := by
    rw [client.length_serialize_packet timestamp buf sized]
    exact fits
  have nonempty : buf ≠ [] := by
    rw [← List.length_pos_iff, sized]
    exact Nat.mul_pos positive client.sel.channelCount_pos
  exact
    ⟨handleDatagram_serialize whole, tryCastSlice_castToBytes nonempty⟩

/--
A packet survives exactly when it has samples and fits the buffer of the
receiver: sixty bytes and four for each sample.
-/
theorem packet_survives_iff
    (client : UdpClient) (timestamp : SystemTime) (buf : List F32)
    (sized : buf.length = client.bufsize * client.sel.channelCount) :
    Survives (client.packet timestamp buf sized) buf ↔
      0 < client.bufsize ∧
        60 + 4 * (client.bufsize * client.sel.channelCount) ≤ 10000 := by
  constructor
  · intro survives
    exact ⟨survives.positive, survives.fits⟩
  · rintro ⟨positive, fits⟩
    exact survives_of_fits client timestamp buf sized positive fits

/-- A stereo client with a buffer of the given size. -/
def stereoClient (bufsize : ℕ) (small : bufsize < 2 ^ 32) : UdpClient where
  bufsize := bufsize
  sampleRate := 44100
  connectionId := .nil
  sel := .stereo 0 1
  allocated := by
    change 4 * (bufsize * 2) < 2 ^ 63
    omega

theorem packet_survives_iff_small :
    Survives
      ((stereoClient 2 (by decide)).packet .UNIX_EPOCH
        [⟨1⟩, ⟨2⟩, ⟨3⟩, ⟨4⟩] rfl)
      [⟨1⟩, ⟨2⟩, ⟨3⟩, ⟨4⟩] :=
  (packet_survives_iff (stereoClient 2 (by decide)) _ _ rfl).mpr
    (by decide)

/-- A buffer of 1243 stereo frames of silence, cut off by the receiver. -/
theorem large_packet_lost :
    ¬ Survives
      ((stereoClient 1243 (by decide)).packet .UNIX_EPOCH
        (List.replicate 2486 Sample.EQUILIBRIUM)
        (List.length_replicate.trans rfl))
      (List.replicate 2486 Sample.EQUILIBRIUM) := by
  intro survives
  exact absurd survives.fits (by decide)

end Audiopipe.Streamer.Sender
