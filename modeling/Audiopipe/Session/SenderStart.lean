import Audiopipe.Audio.CaptureCallback
import Audiopipe.Audio.ConfigSelection
import Audiopipe.Mixing.AsyncWrite
import Audiopipe.Mixing.SelectorText
import Audiopipe.Session.ClientStop

/-!
# Starting a sender

The sender program reads its options, opens the input device with the
configuration it has chosen, builds the mixer with as many tracks as the
configuration has channels, and starts a client.  The track selector is not
looked at before audio arrives: whether its tracks exist decides what becomes
of the input callback and of every sender the client starts.
-/

namespace Audiopipe.Session.SenderStart

open Audiopipe.Foundation.GuardedRuns
open Audiopipe.Foundation.EventTraces
open Audiopipe.Mixing.TrackSelector
open Audiopipe.Mixing.RingTransfer
open Audiopipe.Mixing.AsyncWrite
open Audiopipe.Mixing.SelectorText
open Audiopipe.Audio.OutputSetup
open Audiopipe.Audio.ConfigSelection
open Audiopipe.Audio.CaptureCallback
open Audiopipe.Streamer.Sender
open Audiopipe.Session.ClientTasks
open Audiopipe.Session.ClientTasks.Client
open Audiopipe.Session.ClientLocks
open Audiopipe.Session.ClientStop

/-! ## The program -/

/-- An input device, and whether a stream can be opened and started. -/
structure CaptureDevice extends InputDevice where
  opensStream : StreamConfig → Bool

/-- `setup_cpal_input` for the device that it has found. -/
def setupCpalInput
    (library : SoundLibrary) (device : CaptureDevice) (bsize srate : ℕ) :
    Except (Abort Empty) StreamConfig := do
  let config ←
    selectInputDeviceConfig library device.toInputDevice bsize srate 2
  match config.bufferSize with
  | .range _ _ => return library.intoStreamConfig config
  | .unknown => .error .panic

/-- A mixer with its size, as `default_client_mixer` returns it. -/
structure ClientMixer where
  channelCount : ℕ
  bufferSize : ℕ
  ends : Mixer F32 channelCount bufferSize

def defaultClientMixer
    (chcount bufsizePerChannel sampleRate : ℕ) :
    Except (Abort Empty) ClientMixer := do
  let ends ← customMixer F32 chcount bufsizePerChannel sampleRate
  return ⟨chcount, bufsizePerChannel, ends⟩

/-- What `init_sender` has set up: the open stream, the mixer, the client. -/
structure InputSender where
  config : StreamConfig
  mixer : ClientMixer
  client : TcpClient

/-- `init_sender` for the device that was found. -/
def initSender
    (library : SoundLibrary) (device : CaptureDevice) (bsize srate : ℕ)
    (masterTrackSelector : MixerTrackSelector) :
    Except (Abort Empty) InputSender := do
  let sconfig ← setupCpalInput library device bsize srate
  let mixer ← defaultClientMixer sconfig.channels.toNat bsize srate
  if device.opensStream sconfig then
    return ⟨sconfig, mixer, ⟨masterTrackSelector, true⟩⟩
  else
    .error .panic

/-- The options of the command line that concern the audio. -/
structure GlobalOptions where
  bufferSize : Option UInt32
  samplerate : Option UInt32
  trackSelector : String

/-- `main` with the command `sender`. -/
def runSender
    (library : SoundLibrary) (device : CaptureDevice)
    (options : GlobalOptions) :
    Except (Abort Empty) InputSender := do
  let channelSelector ← fromString options.trackSelector
  let bsize := options.bufferSize.getD 1024
  let srate := options.samplerate.getD 44100
  initSender library device bsize.toNat srate.toNat channelSelector

theorem setupCpalInput_ok
    {library : SoundLibrary} {device : CaptureDevice} {bsize srate : ℕ}
    {sconfig : StreamConfig}
    (opened : setupCpalInput library device bsize srate = .ok sconfig) :
    ∃ config,
      selectInputDeviceConfig library device.toInputDevice bsize srate 2 =
          .ok config ∧
        sconfig = library.intoStreamConfig config := by
  rcases bind_ok opened with ⟨config, chosen, opened⟩
  refine ⟨config, chosen, ?_⟩
  split at opened
  · cases opened
    rfl
  · cases opened

/-- What a sender that was started consists of. -/
theorem runSender_ok
    {library : SoundLibrary} {device : CaptureDevice}
    {options : GlobalOptions} {sender : InputSender}
    (started : runSender library device options = .ok sender) :
    Spells options.trackSelector.toList sender.client.sel ∧
      sender.mixer.channelCount = sender.config.channels.toNat ∧
      ∃ config,
        selectInputDeviceConfig library device.toInputDevice
            (options.bufferSize.getD 1024).toNat
            (options.samplerate.getD 44100).toNat 2 =
          .ok config ∧
        sender.config = library.intoStreamConfig config := by
  rcases bind_ok started with ⟨sel, read, started⟩
  rcases bind_ok started with ⟨sconfig, opened, started⟩
  rcases bind_ok started with ⟨mixer, made, started⟩
  rcases setupCpalInput_ok opened with ⟨config, chosen, same⟩
  split at started
  · cases started
    refine
      ⟨(fromString_eq_ok_iff _ _).mp read, ?_, config, chosen, same⟩
    rcases bind_ok made with ⟨ends, _, made⟩
    cases made
    rfl
  · cases started

/-- A configuration that fits the request has two channels. -/
theorem two_channels
    {library : SoundLibrary} (documented : library.Documented)
    {device : CaptureDevice} {options : GlobalOptions}
    {sender : InputSender}
    (started : runSender library device options = .ok sender)
    {configs : List SupportedConfigRange}
    (supported : device.supportedInputConfigs = some configs)
    {range : SupportedConfigRange} (listed : range ∈ configs)
    (fits :
      fitsRequest (options.samplerate.getD 44100).toNat 2 range = true) :
    2 ≤ sender.mixer.channelCount := by
  rcases runSender_ok started with ⟨_, tracks, config, chosen, opened⟩
  have found :
      ∃ first,
        configs.find?
            (fitsRequest (options.samplerate.getD 44100).toNat 2) =
          some first := by
    refine Option.isSome_iff_exists.mp (List.find?_isSome.mpr ?_)
    exact ⟨range, listed, fits⟩
  rcases found with ⟨first, found⟩
  have firstFits := List.find?_some found
  simp only [fitsRequest, Bool.and_eq_true, decide_eq_true_eq] at firstFits
  simp only [selectInputDeviceConfig, selectDeviceConfig, supported, found,
    Except.ok.injEq] at chosen
  rw [tracks, opened, documented.intoStreamConfig_channels, ← chosen,
    documented.withSampleRate_channels _ _ firstFits.1.1 firstFits.1.2]
  exact UInt16.le_iff_toNat_le.mp firstFits.2

/-! ## What becomes of it -/

variable {channelCount bufferSize : ℕ}
variable {config : TcpClient} {s next : Client channelCount}

/-- No sender has failed to find its tracks. -/
def TracksFound (s : Client channelCount) : Prop :=
  ∀ k e, s.senders k ≠ some (.ended (.mixerError e))

theorem TracksFound.step (inRange : config.sel.InRange channelCount)
    (sound : Sound config s)
    {action : Action channelCount bufferSize}
    (effect : Effect config s action next) (found : TracksFound s) :
    TracksFound next := by
  intro k e failed
  cases effect with
  | sender j action task task' lock there move =>
      by_cases here : k = j
      · subst here
        simp only [Function.update_self, Option.some.injEq] at failed
        subst failed
        cases move with
        | unresolved client waiting _ _ resolved =>
            have selected := sound.selected k client _ waiting there
            rcases (getChannel_isOk_iff client.sel).mpr
                (selected ▸ inRange) with ⟨track, known⟩
            cases resolved.symm.trans known
      · simp only [Function.update_of_ne here] at failed
        exact found k e failed
  | started id bufsize sampleRate waiting =>
      by_cases here : k = s.started
      · subst here
        simp only [Function.update_self, Option.some.injEq, newSender]
          at failed
        split at failed
        · cases failed
        · cases failed
      · simp only [Function.update_of_ne here] at failed
        exact found k e failed
  | queued j j' client place next there senders lock started =>
      rw [senders] at failed
      by_cases here : k = j'
      · subst here
        rw [Function.update_self] at failed
        cases failed
      · simp only [Function.update_of_ne here] at failed
        exact found k e failed
  | otherLocked free => exact found k e failed
  | otherUnlocked held => exact found k e failed
  | aside action next notSender senders lock started ended =>
      rw [senders] at failed
      exact found k e failed

theorem tracksFound_of_run (inRange : config.sel.InRange channelCount)
    {actions : List (Action channelCount bufferSize)}
    (run : Run (Client.step config) (.start channelCount) actions s) :
    TracksFound s := by
  have holds : Sound config s ∧ TracksFound s := by
    refine
      @Reachable.preserves _ _ _
        (fun s => Sound config s ∧ TracksFound s) ?_ _ _ ⟨actions, run⟩
        ⟨.initially config, fun _ _ never => nomatch never⟩
    intro state later action enabled holds
    exact
      ⟨holds.1.step enabled,
        holds.2.step inRange holds.1 (step_effect enabled)⟩
  exact holds.2

/-- Without the tracks of the selector nothing is ever sent. -/
theorem nothing_sent (outOfRange : ¬ config.sel.InRange channelCount)
    {actions : List (Action channelCount bufferSize)}
    (run : Run (Client.step config) (.start channelCount) actions s)
    (k : ℕ) :
    datagrams bufferSize config (.start channelCount) actions k = 0 := by
  have stepKeeps :
      ∀ {history : List Event} {s next : Client channelCount}
        {action : Action channelCount bufferSize},
        True → Client.step config s action = some next →
          history = [] ∧ Each (BeforeLookup config.sel) s →
            history ++ events s action = [] ∧
              Each (BeforeLookup config.sel) next := by
    rintro history s next action _ enabled ⟨rfl, holds⟩
    exact
      BeforeLookup.silent outOfRange (Client.step_effect enabled) holds
  have nothing :=
    (trace_preserves @stepKeeps run
      ⟨rfl, fun _ _ _ _ never => nomatch never⟩).1
  rw [List.nil_append] at nothing
  unfold datagrams
  rw [nothing]
  rfl

/--
Whether the tracks of the selector exist decides about a sender that was
started.  If they do, the input callback never panics, and in no run of the
client a sender fails to find them; if they do not, every call of the callback
panics, and no run sends a single datagram.  The first two tracks exist
whenever the device lists a configuration for the requested rate with two
channels.
-/
theorem tracks_decide
    {library : SoundLibrary} (documented : library.Documented)
    {device : CaptureDevice} {options : GlobalOptions}
    {sender : InputSender}
    (started : runSender library device options = .ok sender) :
    Spells options.trackSelector.toList sender.client.sel ∧
      sender.mixer.channelCount = sender.config.channels.toNat ∧
      (∀ configs range,
        device.supportedInputConfigs = some configs → range ∈ configs →
          fitsRequest (options.samplerate.getD 44100).toNat 2 range =
              true →
            2 ≤ sender.mixer.channelCount) ∧
      (sender.client.sel.InRange sender.mixer.channelCount →
        (∀ (mixer :
              Mixer F32 sender.mixer.channelCount sender.mixer.bufferSize)
            data,
            ∃ later,
              inputCallback sender.client.sel mixer data = .ok later) ∧
          ∀ (actions :
              List
                (Action sender.mixer.channelCount
                  sender.mixer.bufferSize)) s,
            Run (Client.step sender.client) (.start _) actions s →
              TracksFound s) ∧
      (¬ sender.client.sel.InRange sender.mixer.channelCount →
        (∀ (mixer :
              Mixer F32 sender.mixer.channelCount sender.mixer.bufferSize)
            data,
            inputCallback sender.client.sel mixer data = .error .panic) ∧
          ∀ (actions :
              List
                (Action sender.mixer.channelCount
                  sender.mixer.bufferSize)) s,
            Run (Client.step sender.client) (.start _) actions s →
              ∀ k,
                datagrams _ sender.client (.start _) actions k = 0) := by
  rcases runSender_ok started with ⟨spelled, tracks, _⟩
  refine ⟨spelled, tracks, ?_, fun inRange => ⟨?_, ?_⟩,
    fun outside => ⟨?_, ?_⟩⟩
  · intro configs range supported listed fits
    exact two_channels documented started supported listed fits
  · intro mixer data
    rcases inputCallback_rings inRange mixer data with ⟨later, ended, _⟩
    exact ⟨later, ended⟩
  · exact fun actions s run => tracksFound_of_run inRange run
  · intro mixer data
    rcases getChannel_error outside with ⟨e, unresolved⟩
    simp only [inputCallback, writeToMixerSync, unresolved, bind,
      Except.bind]
  · exact fun actions s run k => nothing_sent outside run k

/-- A microphone with one channel, which no request for two fits. -/
def microphone : CaptureDevice where
  supportedInputConfigs := some [⟨1, 8000, 48000, .range 64 4096⟩]
  defaultInputConfig := some ⟨1, 48000, .range 64 4096⟩
  opensStream := fun _ => true

/-- The documented stereo selector lacks a track there. -/
theorem tracks_decide_microphone :
    ∃ sender,
      runSender plainLibrary microphone ⟨none, none, "0,1"⟩ = .ok sender ∧
        sender.mixer.channelCount = 1 ∧
        ∀ (mixer :
              Mixer F32 sender.mixer.channelCount sender.mixer.bufferSize)
            data,
            inputCallback sender.client.sel mixer data = .error .panic := by
  have started :
      ∃ sender,
        runSender plainLibrary microphone ⟨none, none, "0,1"⟩ =
            .ok sender ∧
          sender.mixer.channelCount = 1 ∧
          sender.client.sel = .stereo 0 1 :=
    ⟨_, rfl, rfl, rfl⟩
  rcases started with ⟨sender, started, single, sel⟩
  refine ⟨sender, started, single, ?_⟩
  refine (tracks_decide plainLibrary_documented started).2.2.2.2 ?_ |>.1
  rw [sel, single]
  decide

end Audiopipe.Session.SenderStart
