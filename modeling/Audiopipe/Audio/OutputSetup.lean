import Audiopipe.Control.StreamClosing

/-!
# Opening the output device

`init_receiver` asks the device for a configuration, opens the stream with
it, and builds the mixer with the configuration's channel count but with the
sample rate that was requested.  The two rates agree as long as a supported
configuration is found for the request as given.  What the sound library does
with its own types is a parameter.
-/

namespace Audiopipe.Audio.OutputSetup

open Audiopipe.Foundation.GuardedRuns
open Audiopipe.Mixing.TrackSelector
open Audiopipe.Mixing.RingTransfer
open Audiopipe.Streamer.PacketFormat
open Audiopipe.Control.Messages
open Audiopipe.Control.ServerTasks
open Audiopipe.Control.RequestLedger
open Audiopipe.Control.StreamClosing

/-! ## Devices and their configurations -/

inductive SupportedBufferSize where
  | range (min max : UInt32)
  | unknown
deriving DecidableEq

/-- `SupportedStreamConfigRange`. -/
structure SupportedConfigRange where
  channels : UInt16
  minSampleRate : UInt32
  maxSampleRate : UInt32
  bufferSize : SupportedBufferSize
deriving DecidableEq

/-- `SupportedStreamConfig`. -/
structure SupportedConfig where
  channels : UInt16
  sampleRate : UInt32
  bufferSize : SupportedBufferSize
deriving DecidableEq

/-- The part of `StreamConfig` that the program reads. -/
structure StreamConfig where
  channels : UInt16
  sampleRate : UInt32
deriving DecidableEq

/--
An output device: what it supports, its default configuration, and whether a
stream can be opened and started with a configuration.  `none` stands for an
error of the sound library.
-/
structure Device where
  supportedOutputConfigs : Option (List SupportedConfigRange)
  defaultOutputConfig : Option SupportedConfig
  opensStream : StreamConfig → Bool

/-- The conversions of the sound library. -/
structure SoundLibrary where
  withSampleRate : SupportedConfigRange → UInt32 → SupportedConfig
  intoStreamConfig : SupportedConfig → StreamConfig

/--
What the conversions are documented to do: `with_sample_rate` fixes a rate
within the range and keeps the channel count, and a stream configuration has
the rate and the channel count of the configuration it is made from.
-/
structure SoundLibrary.Documented (library : SoundLibrary) : Prop where
  withSampleRate_rate :
    ∀ range rate,
      range.minSampleRate ≤ rate → rate ≤ range.maxSampleRate →
        (library.withSampleRate range rate).sampleRate = rate
  withSampleRate_channels :
    ∀ range rate,
      range.minSampleRate ≤ rate → rate ≤ range.maxSampleRate →
        (library.withSampleRate range rate).channels = range.channels
  intoStreamConfig_rate :
    ∀ config,
      (library.intoStreamConfig config).sampleRate = config.sampleRate
  intoStreamConfig_channels :
    ∀ config, (library.intoStreamConfig config).channels = config.channels

/-! ## Setting up the receiver -/

/--
The test of both selections; the one for the buffer size is computed there
but not used.
-/
def fitsRequest (requestedSamplerate chcount : ℕ)
    (range : SupportedConfigRange) : Bool :=
  range.minSampleRate ≤ UInt32.ofNat requestedSamplerate &&
    UInt32.ofNat requestedSamplerate ≤ range.maxSampleRate &&
    UInt16.ofNat chcount ≤ range.channels

/--
The common body of `select_output_device_config` and
`select_input_device_config`.
-/
def selectDeviceConfig
    (library : SoundLibrary)
    (supported : Option (List SupportedConfigRange))
    (fallback : Option SupportedConfig)
    (_requestedBufsize requestedSamplerate chcount : ℕ) :
    Except (Abort Empty) SupportedConfig :=
  match supported with
  | none => .error .panic
  | some configs =>
      match configs.find? (fitsRequest requestedSamplerate chcount) with
      | some range =>
          .ok
            (library.withSampleRate range
              (UInt32.ofNat requestedSamplerate))
      | none =>
          match fallback with
          | some config => .ok config
          | none => .error .panic

/-- `select_output_device_config`. -/
def selectOutputDeviceConfig
    (library : SoundLibrary) (device : Device)
    (requestedBufsize requestedSamplerate chcount : ℕ) :
    Except (Abort Empty) SupportedConfig :=
  selectDeviceConfig library device.supportedOutputConfigs
    device.defaultOutputConfig requestedBufsize requestedSamplerate chcount

/-- `setup_cpal_output` for the device that it has found. -/
def setupCpalOutput
    (library : SoundLibrary) (device : Device) (bsize srate : ℕ) :
    Except (Abort Empty) StreamConfig := do
  let config ← selectOutputDeviceConfig library device bsize srate 2
  match config.bufferSize with
  | .range _ _ => return library.intoStreamConfig config
  | .unknown => .error .panic

/-- A mixer with its size, as `default_server_mixer` returns it. -/
structure ServerMixer where
  channelCount : ℕ
  bufferSize : ℕ
  ends : Mixer F32 channelCount bufferSize

def defaultServerMixer
    (chcount bufsizePerChannel sampleRate : ℕ) :
    Except (Abort Empty) ServerMixer := do
  let ends ← customMixer F32 chcount bufsizePerChannel sampleRate
  return ⟨chcount, bufsizePerChannel, ends⟩

/-- What `init_receiver` has set up: the open stream and the global mixer. -/
structure OutputReceiver where
  config : StreamConfig
  mixer : ServerMixer

/-- `init_receiver` for the device that was found. -/
def initReceiver
    (library : SoundLibrary) (device : Device) (bsize srate : ℕ) :
    Except (Abort Empty) OutputReceiver := do
  let sconfig ← setupCpalOutput library device bsize srate
  let mixer ← defaultServerMixer sconfig.channels.toNat bsize srate
  if device.opensStream sconfig then
    return { config := sconfig, mixer := mixer }
  else
    .error .panic

/-- The server that is started with the global mixer. -/
def OutputReceiver.server (receiver : OutputReceiver) : Server :=
  .start receiver.mixer.bufferSize receiver.mixer.ends.sampleRate

/-! ## The chosen configuration -/

/-- A configuration that is chosen for the request has the requested rate. -/
theorem selectOutputDeviceConfig_found
    {library : SoundLibrary} (documented : library.Documented)
    {device : Device} {configs : List SupportedConfigRange}
    (supported : device.supportedOutputConfigs = some configs)
    {bsize srate chcount : ℕ} {range : SupportedConfigRange}
    (found : configs.find? (fitsRequest srate chcount) = some range) :
    ∃ config,
      selectOutputDeviceConfig library device bsize srate chcount =
          .ok config ∧
        config.sampleRate = UInt32.ofNat srate := by
  have fits := List.find?_some found
  simp only [fitsRequest, Bool.and_eq_true, decide_eq_true_eq] at fits
  refine ⟨library.withSampleRate range (UInt32.ofNat srate), ?_, ?_⟩
  · simp only [selectOutputDeviceConfig, selectDeviceConfig, supported,
      found]
  · exact documented.withSampleRate_rate _ _ fits.1.1 fits.1.2

/-- A step of a program that came to its end came to its own. -/
theorem bind_ok {ε α β : Type} {first : Except ε α}
    {second : α → Except ε β} {result : β}
    (ended : (first >>= second) = .ok result) :
    ∃ value, first = .ok value ∧ second value = .ok result := by
  cases first with
  | error e => cases ended
  | ok value => exact ⟨value, rfl, ended⟩

/-- A mixer that was made is empty, with the size that was asked for. -/
theorem defaultServerMixer_ok
    {chcount bufsizePerChannel sampleRate : ℕ} {mixer : ServerMixer}
    (made :
      defaultServerMixer chcount bufsizePerChannel sampleRate =
        .ok mixer) :
    mixer =
      ⟨chcount, bufsizePerChannel,
        emptyMixer F32 chcount bufsizePerChannel sampleRate⟩ := by
  rcases bind_ok made with ⟨ends, built, made⟩
  cases made
  rw [(customMixer_eq_ok_iff.mp built).2]

/-- What a receiver that was set up consists of. -/
theorem initReceiver_ok
    {library : SoundLibrary} {device : Device} {bsize srate : ℕ}
    {receiver : OutputReceiver}
    (started :
      initReceiver library device bsize srate = .ok receiver) :
    ∃ config,
      selectOutputDeviceConfig library device bsize srate 2 = .ok config ∧
        receiver.config = library.intoStreamConfig config ∧
        defaultServerMixer receiver.config.channels.toNat bsize srate =
          .ok receiver.mixer := by
  rcases bind_ok started with ⟨sconfig, opened, started⟩
  rcases bind_ok started with ⟨mixer, made, started⟩
  rcases bind_ok opened with ⟨config, chosen, opened⟩
  split at started
  · cases started
    refine ⟨config, chosen, ?_, made⟩
    split at opened
    · cases opened
      rfl
    · cases opened
  · cases started

/--
The request is met as given: a supported configuration fits it and it is a
rate at all, or none fits and the default configuration happens to have it.
-/
def KeepsRequestedRate (device : Device) (srate : ℕ) : Prop :=
  (∃ configs range,
      device.supportedOutputConfigs = some configs ∧
        configs.find? (fitsRequest srate 2) = some range ∧
        srate < 2 ^ 32) ∨
    ∃ configs config,
      device.supportedOutputConfigs = some configs ∧
        configs.find? (fitsRequest srate 2) = none ∧
        device.defaultOutputConfig = some config ∧
        config.sampleRate.toNat = srate

/-- The stream is opened with the requested rate exactly then. -/
theorem config_rate_iff
    {library : SoundLibrary} (documented : library.Documented)
    {device : Device} {bsize srate : ℕ} {receiver : OutputReceiver}
    (started :
      initReceiver library device bsize srate = .ok receiver) :
    receiver.config.sampleRate.toNat = srate ↔
      KeepsRequestedRate device srate := by
  rcases initReceiver_ok started with ⟨config, chosen, opened, _⟩
  rw [opened, documented.intoStreamConfig_rate]
  cases supported : device.supportedOutputConfigs with
  | none =>
      simp only [selectOutputDeviceConfig, selectDeviceConfig, supported]
        at chosen
      cases chosen
  | some configs =>
      cases found : configs.find? (fitsRequest srate 2) with
      | some range =>
          rcases
              @selectOutputDeviceConfig_found _ documented _ _ supported
                bsize _ _ _ found with
            ⟨same, chosen', rate⟩
          cases chosen.symm.trans chosen'
          rw [rate, UInt32.toNat_ofNat']
          constructor
          · intro equal
            exact
              Or.inl
                ⟨configs, range, supported, found, by omega⟩
          · rintro (⟨_, _, _, _, small⟩ | ⟨others, _, known, missing, _⟩)
            · exact Nat.mod_eq_of_lt small
            · rw [supported] at known
              cases known
              rw [found] at missing
              cases missing
      | none =>
          simp only [selectOutputDeviceConfig, selectDeviceConfig, supported,
            found] at chosen
          cases default : device.defaultOutputConfig with
          | none =>
              rw [default] at chosen
              cases chosen
          | some fallback =>
              rw [default] at chosen
              cases chosen
              constructor
              · intro equal
                exact
                  Or.inr
                    ⟨configs, config, supported, found, default, equal⟩
              · rintro (⟨_, _, known, fits, _⟩ | ⟨_, _, _, _, known, equal⟩)
                · rw [supported] at known
                  cases known
                  rw [found] at fits
                  cases fits
                · rw [default] at known
                  cases known
                  exact equal

/-! ## What is announced -/

/-- Every `Stream` response so far has announced the mixer's sample rate. -/
def AnnouncesRate (s : Server) : Prop :=
  ∀ k c,
    s.connections k = some c →
      ∀ request id port size rate,
        (request, .stream id port size rate) ∈ c.exchanges →
          rate = s.sampleRate

theorem AnnouncesRate.step
    {s next : Server} {action : Action}
    (enabled : s.step action = some next) (announces : AnnouncesRate s) :
    AnnouncesRate next := by
  have move := Server.step_move enabled
  intro k c there request id port size rate member
  rw [(announced_constant move).2]
  rcases exchanges_grow move there with
    none_ | ⟨before, here, same | ⟨exchange, answered, grown⟩⟩
  · rw [none_] at member
    cases member
  · rw [same] at member
    exact announces k before here request id port size rate member
  · rw [grown] at member
    rcases List.mem_append.mp member with earlier | now
    · exact announces k before here request id port size rate earlier
    · cases List.mem_singleton.mp now
      cases phase : before.phase with
      | openRespond id' sel port' =>
          rw [phase] at answered
          cases answered
          rfl
      | _ =>
          rw [phase] at answered
          cases answered

/-- The sample rate of the mixer does not change. -/
theorem sampleRate_constant
    {start s : Server} {actions : List Action}
    (run : Run Server.step start actions s) :
    s.sampleRate = start.sampleRate := by
  have stepKeeps :
      ∀ {state next : Server} {action : Action},
        True → state.step action = some next →
          state.sampleRate = start.sampleRate →
          next.sampleRate = start.sampleRate :=
    fun _ enabled same =>
      (announced_constant (Server.step_move enabled)).2.trans same
  exact run.preserves @stepKeeps rfl

/-- The announced rate is that of the mixer the server was started with. -/
theorem announced_rate
    {bufferSize sampleRate : ℕ} {actions : List Action} {s : Server}
    (run : Run Server.step (.start bufferSize sampleRate) actions s)
    {k : ℕ} {c : Connection} (here : s.connections k = some c)
    {request : ControlRequest} {id : Uuid} {port : UInt16}
    {size rate : ℕ}
    (member : (request, .stream id port size rate) ∈ c.exchanges) :
    rate = sampleRate := by
  have initially : AnnouncesRate (.start bufferSize sampleRate) :=
    fun k c here => nomatch here
  have announces :=
    Reachable.preserves AnnouncesRate.step ⟨actions, run⟩ initially
  exact
    (announces k c here request id port size rate member).trans
      (sampleRate_constant run)

/--
The mixer has the channel count and the sample rate of the open stream, and
every `Stream` response in every run of the server announces that rate.
-/
def AnnouncesDevice (receiver : OutputReceiver) : Prop :=
  receiver.mixer.channelCount = receiver.config.channels.toNat ∧
    receiver.mixer.ends.sampleRate = receiver.config.sampleRate.toNat ∧
    ∀ (actions : List Action) (s : Server),
      Run Server.step receiver.server actions s →
        ∀ k c,
          s.connections k = some c →
            ∀ request id port size rate,
              (request, .stream id port size rate) ∈ c.exchanges →
                rate = receiver.config.sampleRate.toNat

/--
The receiver announces what its device plays exactly when the request is met
as given.
-/
theorem initReceiver_announcesDevice_iff
    {library : SoundLibrary} (documented : library.Documented)
    {device : Device} {bsize srate : ℕ} {receiver : OutputReceiver}
    (started :
      initReceiver library device bsize srate = .ok receiver) :
    AnnouncesDevice receiver ↔ KeepsRequestedRate device srate := by
  rcases initReceiver_ok started with ⟨config, chosen, opened, built⟩
  have channels :
      receiver.mixer.channelCount = receiver.config.channels.toNat := by
    rw [defaultServerMixer_ok built]
  have requested : receiver.mixer.ends.sampleRate = srate := by
    rw [defaultServerMixer_ok built]
    rfl
  rw [← config_rate_iff documented started]
  constructor
  · rintro ⟨_, sameRate, _⟩
    rw [← sameRate, requested]
  · intro sameRate
    refine ⟨channels, requested.trans sameRate.symm, ?_⟩
    intro actions s run k c here request id port size rate member
    rw [announced_rate run here member, requested, sameRate]

/-- The conversions of the sound library as they are documented. -/
def plainLibrary : SoundLibrary where
  withSampleRate := fun range rate =>
    ⟨range.channels, rate, range.bufferSize⟩
  intoStreamConfig := fun config => ⟨config.channels, config.sampleRate⟩

theorem plainLibrary_documented : plainLibrary.Documented where
  withSampleRate_rate := fun _ _ _ _ => rfl
  withSampleRate_channels := fun _ _ _ _ => rfl
  intoStreamConfig_rate := fun _ => rfl
  intoStreamConfig_channels := fun _ => rfl

/-- A stereo device that runs at 48 kHz only. -/
def fixedRateDevice : Device where
  supportedOutputConfigs := some [⟨2, 48000, 48000, .range 64 4096⟩]
  defaultOutputConfig := some ⟨2, 48000, .range 64 4096⟩
  opensStream := fun _ => true

theorem initReceiver_announcesDevice_iff_fixedRate :
    ∃ receiver,
      initReceiver plainLibrary fixedRateDevice 1024 48000 =
          .ok receiver ∧
        AnnouncesDevice receiver := by
  refine ⟨_, rfl, ?_⟩
  apply
    (@initReceiver_announcesDevice_iff _ plainLibrary_documented
      fixedRateDevice 1024 48000 _ rfl).mpr
  exact Or.inl ⟨_, _, rfl, rfl, by decide⟩

/-- At the default request the device plays faster than announced. -/
theorem fallback_rate_not_announced :
    ∃ receiver,
      initReceiver plainLibrary fixedRateDevice 1024 44100 =
          .ok receiver ∧
        receiver.config.sampleRate = 48000 ∧
        receiver.mixer.ends.sampleRate = 44100 ∧
        ¬ AnnouncesDevice receiver := by
  refine ⟨_, rfl, rfl, rfl, ?_⟩
  rintro ⟨_, sameRate, _⟩
  exact absurd sameRate (by decide)

end Audiopipe.Audio.OutputSetup
