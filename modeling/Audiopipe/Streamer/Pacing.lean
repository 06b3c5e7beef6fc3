import Audiopipe.Streamer.Sender
import Mathlib.Algebra.Order.Floor.Semifield
import Mathlib.Data.Rat.Floor
import Mathlib.Tactic.FieldSimp
import Mathlib.Tactic.Linarith

/-!
# The pace of the send loop

Every iteration sleeps for the play time of a buffer in whole milliseconds
and then sends one packet.  What the conversion to whole milliseconds cuts
off is the same for every packet, so over a run the packets get ahead of the
sleeps in proportion to their number.  The quotient is taken as exact.
-/

namespace Audiopipe.Streamer.Pacing

open Audiopipe.Mixing.TrackSelector
open Audiopipe.Mixing.RingTransfer
open Audiopipe.Streamer.PacketFormat
open Audiopipe.Streamer.Sender

variable {channelCount bufferSize : ℕ}

/-! ## Sleeps and play times -/

/-- `u64::MAX`. -/
def u64Max : ℕ :=
  2 ^ 64 - 1

/-- `as u64`: cuts the fraction off and stops at the largest value. -/
def asU64 (x : ℚ) : ℕ :=
  min ⌊x⌋₊ u64Max

/-- `ms`: the play time of a buffer in milliseconds. -/
def ms (client : UdpClient) : ℚ :=
  (client.bufsize : ℚ) / client.sampleRate.toNat * 1000

/--
The sleeps that the loop requests, in milliseconds.  An iteration sleeps
before the lookup, so a selector that does not resolve gets one sleep.
-/
def sleeps
    (client : UdpClient)
    (iterations : List (Iteration client channelCount bufferSize)) :
    List ℕ :=
  match getChannel channelCount client.sel with
  | .ok _ => iterations.map fun _ => asU64 (ms client)
  | .error _ => (iterations.take 1).map fun _ => asU64 (ms client)

/-- How many seconds of sound a packet holds for each of its channels. -/
def playTime (packet : AudioPacket) : ℚ :=
  (packet.payload.length : ℚ) / (4 * packet.header.channels.toNat) /
    packet.header.sampleRate.toNat

/--
The play time of the packets sent exceeds the sum of the sleeps requested by
less than the play time of one packet.
-/
def Paced
    (client : UdpClient)
    (iterations : List (Iteration client channelCount bufferSize)) : Prop :=
  ((client.packets iterations).map playTime).sum -
      ((sleeps client iterations).map fun sleep : ℕ => (sleep : ℚ) / 1000).sum <
    (client.bufsize : ℚ) / client.sampleRate.toNat

/-- A packet of the client plays for its buffer size by its sample rate. -/
theorem playTime_packet
    (client : UdpClient) (timestamp : SystemTime) (buf : List F32)
    (sized : buf.length = client.bufsize * client.sel.channelCount) :
    playTime (client.packet timestamp buf sized) =
      (client.bufsize : ℚ) / client.sampleRate.toNat := by
  have payload :
      (client.packet timestamp buf sized).payload.length =
        4 * (client.bufsize * client.sel.channelCount) := by
    rw [← sized]
    exact length_castToBytes buf
  have channels :
      (client.packet timestamp buf sized).header.channels.toNat =
        client.sel.channelCount := by
    show (UInt64.ofNat client.sel.channelCount).toNat = _
    cases client.sel with
    | mono c => rfl
    | stereo l r => rfl
  have sampleRate :
      (client.packet timestamp buf sized).header.sampleRate =
        client.sampleRate :=
    rfl
  have positive : (client.sel.channelCount : ℚ) ≠ 0 :=
    Nat.cast_ne_zero.mpr (Nat.ne_of_gt client.sel.channelCount_pos)
  rw [playTime, payload, channels, sampleRate]
  push_cast
  field_simp

/-! ## What the conversion loses -/

/-- The sleep of an iteration in terms of natural division. -/
theorem asU64_ms (client : UdpClient) :
    asU64 (ms client) =
      min (1000 * client.bufsize / client.sampleRate.toNat) u64Max := by
  have quotient :
      ms client =
        ((1000 * client.bufsize : ℕ) : ℚ) / client.sampleRate.toNat := by
    rw [ms, Nat.cast_mul]
    push_cast
    ring
  rw [asU64, quotient, Nat.floor_div_eq_div]

/--
What is lost of a play time of `1000 * bufsize / sampleRate` milliseconds, as
a multiple of `1 / sampleRate` milliseconds.
-/
def lost (bufsize sampleRate : ℕ) : ℕ :=
  if 1000 * bufsize < sampleRate * (u64Max + 1) then
    1000 * bufsize % sampleRate
  else
    1000 * bufsize - sampleRate * u64Max

/-- What is slept and what is lost make up the play time. -/
theorem slept_add_lost
    {bufsize sampleRate : ℕ} (positive : 0 < sampleRate) :
    sampleRate * min (1000 * bufsize / sampleRate) u64Max +
        lost bufsize sampleRate =
      1000 * bufsize := by
  unfold lost
  by_cases fits : 1000 * bufsize < sampleRate * (u64Max + 1)
  · have small : 1000 * bufsize / sampleRate ≤ u64Max :=
      Nat.le_of_lt_succ (Nat.div_lt_of_lt_mul fits)
    rw [if_pos fits, Nat.min_eq_left small, Nat.div_add_mod]
  · have large : u64Max ≤ 1000 * bufsize / sampleRate := by
      rw [Nat.le_div_iff_mul_le positive, Nat.mul_comm]
      rw [Nat.mul_succ] at fits
      omega
    rw [if_neg fits, Nat.min_eq_right large]
    rw [Nat.mul_succ] at fits
    omega

/-- Nothing is lost of a whole number of milliseconds that `u64` holds. -/
theorem lost_eq_zero_iff
    {bufsize sampleRate : ℕ} (positive : 0 < sampleRate) :
    lost bufsize sampleRate = 0 ↔
      sampleRate ∣ 1000 * bufsize ∧
        1000 * bufsize < sampleRate * (u64Max + 1) := by
  unfold lost
  by_cases fits : 1000 * bufsize < sampleRate * (u64Max + 1)
  · rw [if_pos fits, ← Nat.dvd_iff_mod_eq_zero]
    exact (and_iff_left fits).symm
  · rw [if_neg fits]
    constructor
    · intro vanishes
      rw [Nat.mul_succ] at fits
      omega
    · exact fun whole => absurd whole.2 fits

/-! ## Runs -/

/-- The comparison of play times and sleeps in natural numbers. -/
theorem ahead_lt_iff
    {bufsize sampleRate slept lost count : ℕ} (positive : 0 < sampleRate)
    (whole : sampleRate * slept + lost = 1000 * bufsize) :
    (count : ℚ) * (bufsize / sampleRate) - count * (slept / 1000) <
        bufsize / sampleRate ↔
      count * lost < 1000 * bufsize := by
  have positive' : (0 : ℚ) < sampleRate := Nat.cast_pos.mpr positive
  have whole' :
      (sampleRate : ℚ) * slept + lost = 1000 * bufsize := by
    exact_mod_cast whole
  have ahead :
      (count : ℚ) * (bufsize / sampleRate) - count * (slept / 1000) =
        count * lost / 1000 / sampleRate := by
    have product : (bufsize : ℚ) = (sampleRate * slept + lost) / 1000 := by
      rw [whole']
      ring
    rw [product]
    field_simp
    ring
  rw [ahead, div_lt_div_iff_of_pos_right positive',
    div_lt_iff₀ (by norm_num)]
  constructor
  · intro bound
    have scaled : (count : ℚ) * lost < 1000 * bufsize := by linarith
    exact_mod_cast scaled
  · intro bound
    have scaled : (count : ℚ) * lost < 1000 * bufsize := by
      exact_mod_cast bound
    linarith

/-- The play times and the sleeps of a run add up packet by packet. -/
theorem run_sums
    {client : UdpClient} (inRange : client.sel.InRange channelCount)
    (iterations : List (Iteration client channelCount bufferSize)) :
    ((client.packets iterations).map playTime).sum =
        iterations.length *
          ((client.bufsize : ℚ) / client.sampleRate.toNat) ∧
      ((sleeps client iterations).map fun sleep : ℕ => (sleep : ℚ) / 1000).sum =
        iterations.length * ((asU64 (ms client) : ℚ) / 1000) := by
  rcases (getChannel_isOk_iff client.sel).mpr inRange with
    ⟨track, resolved⟩
  constructor
  · simp only [UdpClient.packets, resolved, List.map_map,
      Function.comp_def, playTime_packet]
    simp
  · simp only [sleeps, resolved, List.map_map, Function.comp_def]
    simp

/-- A run is paced as long as what it has lost is less than one packet. -/
theorem paced_iff
    {client : UdpClient} (positive : 1 ≤ client.sampleRate.toNat)
    (inRange : client.sel.InRange channelCount)
    (iterations : List (Iteration client channelCount bufferSize)) :
    Paced client iterations ↔
      iterations.length * lost client.bufsize client.sampleRate.toNat <
        1000 * client.bufsize := by
  rcases run_sums inRange iterations with ⟨played, slept⟩
  rw [Paced, played, slept, asU64_ms]
  exact ahead_lt_iff positive (slept_add_lost positive)

/-! ## Runs of every length -/

/-- An iteration that finds a new mixer at every read. -/
def quietIteration (client : UdpClient) (channelCount bufferSize : ℕ) :
    Iteration client channelCount bufferSize where
  seen :=
    List.replicate (client.bufsize * client.sel.channelCount)
      (emptyMixer F32 channelCount bufferSize client.sampleRate.toNat)
  sized := List.length_replicate
  timestamp := .UNIX_EPOCH

/-- A loss in every packet adds up to more than a packet. -/
theorem all_runs_bounded_iff
    {loss bound : ℕ} (positive : 0 < bound) :
    (∀ count, count * loss < bound) ↔ loss = 0 := by
  constructor
  · intro bounded
    by_contra lossy
    have farther := bounded bound
    have grown : bound ≤ bound * loss :=
      Nat.le_mul_of_pos_right _ (Nat.pos_of_ne_zero lossy)
    omega
  · rintro rfl count
    rw [Nat.mul_zero]
    exact positive

/--
A run of the send loop stays within one packet of its sleeps exactly as long
as the losses of its packets are less than a packet together; and the runs of
every length do so exactly when a packet plays for a whole number of
milliseconds, and no more of them than a sleep can have.
-/
theorem pacing_iff
    (client : UdpClient) (nonempty : 1 ≤ client.bufsize)
    (positive : 1 ≤ client.sampleRate.toNat)
    (inRange : client.sel.InRange channelCount) :
    (∀ iterations : List (Iteration client channelCount bufferSize),
        Paced client iterations ↔
          iterations.length * lost client.bufsize client.sampleRate.toNat <
            1000 * client.bufsize) ∧
      ((∀ iterations : List (Iteration client channelCount bufferSize),
          Paced client iterations) ↔
        client.sampleRate.toNat ∣ 1000 * client.bufsize ∧
          1000 * client.bufsize <
            client.sampleRate.toNat * (u64Max + 1)) := by
  refine ⟨paced_iff positive inRange, ?_⟩
  have packetPositive : 0 < 1000 * client.bufsize :=
    Nat.mul_pos (by decide) nonempty
  rw [← lost_eq_zero_iff positive, ← all_runs_bounded_iff packetPositive]
  constructor
  · intro paced count
    have run :=
      (paced_iff positive inRange
        (List.replicate count
          (quietIteration client channelCount bufferSize))).mp (paced _)
    rwa [List.length_replicate] at run
  · intro bounded iterations
    exact (paced_iff positive inRange iterations).mpr (bounded _)

/-- Packets of 441 frames at 44100 Hz play for ten milliseconds. -/
theorem pacing_iff_ten_milliseconds :
    Paced (stereoClient 441 (by decide))
      (List.replicate 100000
        (quietIteration (stereoClient 441 (by decide)) 2 4096)) := by
  have inRange :
      (stereoClient 441 (by decide)).sel.InRange 2 := by decide
  exact
    (pacing_iff (stereoClient 441 (by decide)) (by decide) (by decide)
      inRange).2.mpr ⟨by decide, by decide⟩ _

/-- At the default sizes 106 packets are a packet ahead of their sleeps. -/
theorem default_pace_drifts :
    ¬ Paced (stereoClient 1024 (by decide))
      (List.replicate 106
        (quietIteration (stereoClient 1024 (by decide)) 2 4096)) := by
  have inRange :
      (stereoClient 1024 (by decide)).sel.InRange 2 := by decide
  rw [paced_iff (by decide) inRange, List.length_replicate]
  decide

end Audiopipe.Streamer.Pacing
