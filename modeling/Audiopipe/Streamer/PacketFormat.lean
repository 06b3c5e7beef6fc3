import Audiopipe.Foundation.ByteFormats
import Audiopipe.Mixing.TrackSelector

/-!
# Audio packets on the wire

The packet type, its binary encoding and the casts between samples and bytes.
The encoding is that of `bincode2` in its default configuration: integers of
fixed width with the least significant byte first, blocks with an eight-byte
length in front, records as their fields in order.
-/

namespace Audiopipe.Streamer.PacketFormat

open Audiopipe.Foundation.ByteFormats
open Audiopipe.Foundation.ByteFormats.ByteFormat
open Audiopipe.Mixing.TrackSelector

/-! ## Packets -/

/-- A stream id. -/
structure Uuid where
  bytes : List UInt8
  sized : bytes.length = 16
deriving DecidableEq

/-- The id of sixteen zero bytes. -/
def Uuid.nil : Uuid where
  bytes := List.replicate 16 0
  sized := List.length_replicate

/-- A time as its distance from the epoch. -/
structure SystemTime where
  secs : ℕ
  nanos : ℕ
  representable : secs < 2 ^ 63
  subsecond : nanos < 10 ^ 9
deriving DecidableEq

def SystemTime.UNIX_EPOCH : SystemTime where
  secs := 0
  nanos := 0
  representable := by decide
  subsecond := by decide

structure AudioPacketHeader where
  connectionId : Uuid
  timestamp : SystemTime
  sampleRate : UInt64
  channels : UInt64
deriving DecidableEq

/-- A packet; the length of its payload is a machine word. -/
structure AudioPacket where
  header : AudioPacketHeader
  payload : List UInt8
  sized : payload.length < 256 ^ 8
deriving DecidableEq

/-! ## The encoding -/

def u64 : ByteFormat UInt64 :=
  (littleEndian 8).mapped
    (fun number => ⟨number.toNat, number.toNat_lt⟩)
    (fun number => some (UInt64.ofNat number))
    (fun number => by simp)

/-- Sixteen bytes with their length in front; another length is refused. -/
def uuidFormat : ByteFormat Uuid :=
  (lengthPrefixed 8).mapped
    (fun id => ⟨id.bytes, by rw [id.sized]; decide⟩)
    (fun bytes =>
      if sized : bytes.val.length = 16 then
        some ⟨bytes.val, sized⟩
      else
        none)
    (fun id => by simp [id.sized])

/-- Excess nanoseconds are carried; a time out of range is refused. -/
def SystemTime.ofDuration (secs nanos : ℕ) : Option SystemTime :=
  if representable : secs + nanos / 10 ^ 9 < 2 ^ 63 then
    some
      { secs := secs + nanos / 10 ^ 9
        nanos := nanos % 10 ^ 9
        representable := representable
        subsecond := Nat.mod_lt _ (by decide) }
  else
    none

theorem SystemTime.ofDuration_self (time : SystemTime) :
    SystemTime.ofDuration time.secs time.nanos = some time := by
  rcases time with ⟨secs, nanos, representable, subsecond⟩
  have carry : nanos / 10 ^ 9 = 0 := Nat.div_eq_of_lt subsecond
  have kept : nanos % 10 ^ 9 = nanos := Nat.mod_eq_of_lt subsecond
  simp only [ofDuration, carry, kept, Nat.add_zero, representable,
    dif_pos]

def systemTimeFormat : ByteFormat SystemTime :=
  ((littleEndian 8).pair (littleEndian 4)).mapped
    (fun time =>
      (⟨time.secs, Nat.lt_trans time.representable (by decide)⟩,
        ⟨time.nanos, Nat.lt_trans time.subsecond (by decide)⟩))
    (fun duration => SystemTime.ofDuration duration.1 duration.2)
    SystemTime.ofDuration_self

def audioPacketHeaderFormat : ByteFormat AudioPacketHeader :=
  (uuidFormat.pair (systemTimeFormat.pair (u64.pair u64))).mapped
    (fun header =>
      (header.connectionId, header.timestamp, header.sampleRate,
        header.channels))
    (fun fields =>
      some
        { connectionId := fields.1
          timestamp := fields.2.1
          sampleRate := fields.2.2.1
          channels := fields.2.2.2 })
    (fun _ => rfl)

def audioPacketFormat : ByteFormat AudioPacket :=
  (audioPacketHeaderFormat.pair (lengthPrefixed 8)).mapped
    (fun packet => (packet.header, ⟨packet.payload, packet.sized⟩))
    (fun fields =>
      some
        { header := fields.1
          payload := fields.2.val
          sized := fields.2.property })
    (fun _ => rfl)

/-- `bincode2::serialize`. -/
def serialize (packet : AudioPacket) : List UInt8 :=
  audioPacketFormat.encode packet

/-- `bincode2::deserialize`, which ignores bytes after the packet. -/
def deserialize (bytes : List UInt8) : Option AudioPacket :=
  (audioPacketFormat.decode bytes).map Prod.fst

theorem length_encode_u64 (number : UInt64) :
    (u64.encode number).length = 8 :=
  length_littleEndian 8 _

theorem length_encode_header (header : AudioPacketHeader) :
    (audioPacketHeaderFormat.encode header).length = 52 := by
  have fields :
      audioPacketHeaderFormat.encode header =
        uuidFormat.encode header.connectionId ++
          (systemTimeFormat.encode header.timestamp ++
            (u64.encode header.sampleRate ++
              u64.encode header.channels)) :=
    rfl
  have id : (uuidFormat.encode header.connectionId).length = 24 := by
    have block := length_lengthPrefixed 8
      ⟨header.connectionId.bytes, by
        rw [header.connectionId.sized]; decide⟩
    exact block.trans (congrArg (8 + ·) header.connectionId.sized)
  have time : (systemTimeFormat.encode header.timestamp).length = 12 := by
    change (List.append _ _).length = 12
    rw [List.append_eq, List.length_append, length_littleEndian,
      length_littleEndian]
  rw [fields, List.length_append, List.length_append, List.length_append,
    id, time, length_encode_u64, length_encode_u64]

/-- A packet takes sixty bytes more than its payload. -/
theorem length_serialize (packet : AudioPacket) :
    (serialize packet).length = 60 + packet.payload.length := by
  have fields :
      serialize packet =
        audioPacketHeaderFormat.encode packet.header ++
          (lengthPrefixed 8).encode ⟨packet.payload, packet.sized⟩ :=
    rfl
  rw [fields, List.length_append, length_encode_header,
    length_lengthPrefixed]
  change 52 + (8 + packet.payload.length) = 60 + packet.payload.length
  omega

theorem deserialize_serialize (packet : AudioPacket) :
    deserialize (serialize packet) = some packet := by
  simp [deserialize, serialize]

/-- A packet that was cut off is not read as anything. -/
theorem deserialize_take
    {packet : AudioPacket} {bound : ℕ}
    (cut : bound < (serialize packet).length) :
    deserialize ((serialize packet).take bound) = none := by
  have whole :
      audioPacketFormat.encode packet =
        (serialize packet).take bound ++ (serialize packet).drop bound :=
    (List.take_append_drop bound _).symm
  have missing : (serialize packet).drop bound ≠ [] := by
    rw [Ne, List.drop_eq_nil_iff]
    omega
  simp [deserialize, audioPacketFormat.decode_strict_prefix whole missing]

/-! ## Samples as bytes -/

/-- The bytes of a sample in memory. -/
def sampleBytes (sample : F32) : List UInt8 :=
  littleEndianBytes 4 sample.bits.toNat

/-- The cast of a sample buffer to bytes, which cannot fail. -/
def castToBytes (samples : List F32) : List UInt8 :=
  samples.flatMap sampleBytes

/-- The samples that bytes in memory are, if they are whole samples. -/
def wholeSamples : List UInt8 → Option (List F32)
  | [] => some []
  | a :: b :: c :: d :: rest =>
      (wholeSamples rest).map fun samples =>
        ⟨UInt32.ofNat (readLittleEndian [a, b, c, d])⟩ :: samples
  | _ => none

/--
`try_cast_slice` from the bytes of a payload to samples.  It looks at the
alignment first: a payload without bytes has no memory of its own, and the
address that stands for it is not aligned.  Where there are bytes, the memory
comes from the allocator and is aligned.
-/
def tryCastSlice (payload : List UInt8) : Option (List F32) :=
  if payload = [] then none else wholeSamples payload

@[simp]
theorem length_castToBytes (samples : List F32) :
    (castToBytes samples).length = 4 * samples.length := by
  induction samples with
  | nil => rfl
  | cons sample rest induction =>
      have cast :
          castToBytes (sample :: rest) =
            sampleBytes sample ++ castToBytes rest :=
        rfl
      rw [cast, List.length_append, induction, sampleBytes,
        length_littleEndianBytes, List.length_cons]
      omega

theorem wholeSamples_castToBytes (samples : List F32) :
    wholeSamples (castToBytes samples) = some samples := by
  induction samples with
  | nil => rfl
  | cons sample rest induction =>
      have bits :
          UInt32.ofNat
              (readLittleEndian
                (littleEndianBytes 4 sample.bits.toNat)) =
            sample.bits := by
        rw [readLittleEndian_bytes sample.bits.toNat_lt,
          UInt32.ofNat_toNat]
      change
        (wholeSamples (castToBytes rest)).map
            (fun samples =>
              (⟨UInt32.ofNat
                (readLittleEndian
                  (littleEndianBytes 4 sample.bits.toNat))⟩ : F32) ::
                samples) =
          some (sample :: rest)
      rw [induction, bits]
      rfl

/-- Four bytes are a sample. -/
theorem wholeSamples_of_whole
    (bytes : List UInt8) (whole : bytes.length % 4 = 0) :
    ∃ samples,
      wholeSamples bytes = some samples ∧
        bytes.length = 4 * samples.length := by
  fun_induction wholeSamples bytes with
  | case1 => exact ⟨[], rfl, rfl⟩
  | case2 a b c d rest induction =>
      have wholeRest : rest.length % 4 = 0 := by
        simp only [List.length_cons] at whole
        omega
      rcases induction wholeRest with ⟨samples, cast, length⟩
      refine ⟨_ :: samples, by rw [cast]; rfl, ?_⟩
      simp only [List.length_cons, length]
      omega
  | case3 bytes nonempty short =>
      rcases bytes with _ | ⟨a, _ | ⟨b, _ | ⟨c, _ | ⟨d, rest⟩⟩⟩⟩
      · exact (nonempty rfl).elim
      · cases whole
      · cases whole
      · cases whole
      · exact (short a b c d rest rfl).elim

/-- A part of a sample is not cast. -/
theorem wholeSamples_of_broken
    (bytes : List UInt8) (broken : bytes.length % 4 ≠ 0) :
    wholeSamples bytes = none := by
  fun_induction wholeSamples bytes with
  | case1 => exact (broken rfl).elim
  | case2 a b c d rest induction =>
      have brokenRest : rest.length % 4 ≠ 0 := by
        simp only [List.length_cons] at broken
        omega
      rw [induction brokenRest]
      rfl
  | case3 => rfl

theorem castToBytes_ne_nil {samples : List F32} (nonempty : samples ≠ []) :
    castToBytes samples ≠ [] := by
  intro empty
  have length := length_castToBytes samples
  rw [empty, List.length_nil] at length
  have positive := List.length_pos_iff.mpr nonempty
  omega

/-- Samples that are cast to bytes and back are the same. -/
theorem tryCastSlice_castToBytes
    {samples : List F32} (nonempty : samples ≠ []) :
    tryCastSlice (castToBytes samples) = some samples := by
  rw [tryCastSlice, if_neg (castToBytes_ne_nil nonempty),
    wholeSamples_castToBytes]

/-- Without any bytes the cast fails for their address. -/
@[simp]
theorem tryCastSlice_nil : tryCastSlice [] = none :=
  rfl

/-- Only whole samples are cast. -/
theorem tryCastSlice_eq_none
    (payload : List UInt8) (broken : payload.length % 4 ≠ 0) :
    tryCastSlice payload = none := by
  unfold tryCastSlice
  split
  · rfl
  · exact wholeSamples_of_broken payload broken

/-- Whole samples are cast if there are any. -/
theorem tryCastSlice_of_whole
    {payload : List UInt8} (nonempty : payload ≠ [])
    (whole : payload.length % 4 = 0) :
    ∃ samples,
      tryCastSlice payload = some samples ∧
        payload.length = 4 * samples.length := by
  rw [tryCastSlice, if_neg nonempty]
  exact wholeSamples_of_whole payload whole

/-- What was cast is whole samples, at least one. -/
theorem tryCastSlice_eq_some
    {payload : List UInt8} {samples : List F32}
    (cast : tryCastSlice payload = some samples) :
    samples ≠ [] ∧ payload.length = 4 * samples.length := by
  have nonempty : payload ≠ [] := by
    rintro rfl
    rw [tryCastSlice_nil] at cast
    cases cast
  have whole : payload.length % 4 = 0 := by
    by_contra broken
    rw [tryCastSlice_eq_none payload broken] at cast
    cases cast
  rcases tryCastSlice_of_whole nonempty whole with ⟨found, cast', length⟩
  rw [cast] at cast'
  cases cast'
  refine ⟨?_, length⟩
  rintro rfl
  exact nonempty (List.eq_nil_of_length_eq_zero length)

end Audiopipe.Streamer.PacketFormat
