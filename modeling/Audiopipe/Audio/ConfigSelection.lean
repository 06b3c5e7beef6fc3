import Audiopipe.Audio.OutputSetup

/-!
# Selecting a configuration

Both selections search the configurations that a device lists and fall back
on its default one.  The search computes whether a configuration admits the
requested buffer size but goes by rate and channel count alone, so it stops
at the first configuration that fits in these two.
-/

namespace Audiopipe.Audio.ConfigSelection

open Audiopipe.Mixing.RingTransfer
open Audiopipe.Audio.OutputSetup

/-! ## The input side -/

/-- An input device: what it supports and its default configuration. -/
structure InputDevice where
  supportedInputConfigs : Option (List SupportedConfigRange)
  defaultInputConfig : Option SupportedConfig

/-- `bsize_match`, which both selections compute and do not use. -/
def bsizeMatch (requestedBufsize : ℕ) (range : SupportedConfigRange) :
    Bool :=
  match range.bufferSize with
  | .range min max =>
      min ≤ UInt32.ofNat requestedBufsize &&
        UInt32.ofNat requestedBufsize ≤ max
  | .unknown => false

/-- `select_input_device_config`. -/
def selectInputDeviceConfig
    (library : SoundLibrary) (device : InputDevice)
    (requestedBufsize requestedSamplerate chcount : ℕ) :
    Except (Abort Empty) SupportedConfig :=
  selectDeviceConfig library device.supportedInputConfigs
    device.defaultInputConfig requestedBufsize requestedSamplerate chcount

/-! ## Full matches -/

/-- The requested buffer size lies in the range, if one is known. -/
def Admits (requestedBufsize : ℕ) : SupportedBufferSize → Prop
  | .range min max =>
      min.toNat ≤ requestedBufsize ∧ requestedBufsize ≤ max.toNat
  | .unknown => False

/-- A listed configuration that meets all three requirements. -/
structure FullMatch
    (requestedBufsize requestedSamplerate chcount : ℕ)
    (range : SupportedConfigRange) : Prop where
  admitsRate :
    range.minSampleRate.toNat ≤ requestedSamplerate ∧
      requestedSamplerate ≤ range.maxSampleRate.toNat
  enoughChannels : chcount ≤ range.channels.toNat
  admitsBufsize : Admits requestedBufsize range.bufferSize

/-- A selected configuration that meets all three requirements. -/
structure MeetsRequest
    (requestedBufsize requestedSamplerate chcount : ℕ)
    (config : SupportedConfig) : Prop where
  requestedRate : config.sampleRate.toNat = requestedSamplerate
  enoughChannels : chcount ≤ config.channels.toNat
  admitsBufsize : Admits requestedBufsize config.bufferSize

/-- If there is a full match, what was selected meets the request. -/
def FindsFullMatch
    (configs : List SupportedConfigRange)
    (selected : Except (Abort Empty) SupportedConfig)
    (requestedBufsize requestedSamplerate chcount : ℕ) : Prop :=
  (∃ range ∈ configs,
      FullMatch requestedBufsize requestedSamplerate chcount range) →
    ∃ config,
      selected = .ok config ∧
        MeetsRequest requestedBufsize requestedSamplerate chcount config

/--
No listed configuration is a full match, or the first one that fits in rate
and channel count passes the test for the buffer size, too.
-/
def FirstFitMatches
    (configs : List SupportedConfigRange)
    (requestedBufsize requestedSamplerate chcount : ℕ) : Prop :=
  (∀ range ∈ configs,
      ¬ FullMatch requestedBufsize requestedSamplerate chcount range) ∨
    ∃ range,
      configs.find? (fitsRequest requestedSamplerate chcount) =
          some range ∧
        bsizeMatch requestedBufsize range = true

/-- The sound library keeps the buffer sizes when it fixes a rate. -/
def KeepsBufferSize (library : SoundLibrary) : Prop :=
  ∀ range rate,
    range.minSampleRate ≤ rate → rate ≤ range.maxSampleRate →
      (library.withSampleRate range rate).bufferSize = range.bufferSize

/-! ## The tests in natural numbers -/

theorem fitsRequest_iff
    {requestedSamplerate chcount : ℕ}
    (smallRate : requestedSamplerate < 2 ^ 32)
    (fewChannels : chcount < 2 ^ 16) (range : SupportedConfigRange) :
    fitsRequest requestedSamplerate chcount range = true ↔
      (range.minSampleRate.toNat ≤ requestedSamplerate ∧
          requestedSamplerate ≤ range.maxSampleRate.toNat) ∧
        chcount ≤ range.channels.toNat := by
  simp only [fitsRequest, Bool.and_eq_true, decide_eq_true_eq,
    UInt32.le_iff_toNat_le, UInt16.le_iff_toNat_le, UInt32.toNat_ofNat',
    UInt16.toNat_ofNat', Nat.mod_eq_of_lt smallRate,
    Nat.mod_eq_of_lt fewChannels]

theorem bsizeMatch_iff
    {requestedBufsize : ℕ} (small : requestedBufsize < 2 ^ 32)
    (range : SupportedConfigRange) :
    bsizeMatch requestedBufsize range = true ↔
      Admits requestedBufsize range.bufferSize := by
  unfold bsizeMatch Admits
  cases range.bufferSize with
  | range min max =>
      simp only [Bool.and_eq_true, decide_eq_true_eq,
        UInt32.le_iff_toNat_le, UInt32.toNat_ofNat', Nat.mod_eq_of_lt small]
  | unknown => simp

/-! ## The search -/

/-- A full match fits in rate and channel count. -/
theorem FullMatch.fits
    {requestedBufsize requestedSamplerate chcount : ℕ}
    (smallRate : requestedSamplerate < 2 ^ 32)
    (fewChannels : chcount < 2 ^ 16) {range : SupportedConfigRange}
    (full :
      FullMatch requestedBufsize requestedSamplerate chcount range) :
    fitsRequest requestedSamplerate chcount range = true :=
  (fitsRequest_iff smallRate fewChannels range).mpr
    ⟨full.admitsRate, full.enoughChannels⟩

/--
A configuration that was selected because it fits meets the request exactly
when it passes the test for the buffer size.
-/
theorem meetsRequest_iff
    {library : SoundLibrary} (documented : library.Documented)
    (keeps : KeepsBufferSize library)
    {requestedBufsize requestedSamplerate chcount : ℕ}
    (smallBufsize : requestedBufsize < 2 ^ 32)
    (smallRate : requestedSamplerate < 2 ^ 32)
    (fewChannels : chcount < 2 ^ 16) {range : SupportedConfigRange}
    (fits : fitsRequest requestedSamplerate chcount range = true) :
    MeetsRequest requestedBufsize requestedSamplerate chcount
        (library.withSampleRate range (UInt32.ofNat requestedSamplerate)) ↔
      bsizeMatch requestedBufsize range = true := by
  rcases (fitsRequest_iff smallRate fewChannels range).mp fits with
    ⟨⟨aboveMin, belowMax⟩, enough⟩
  have sameRate : (UInt32.ofNat requestedSamplerate).toNat =
      requestedSamplerate := by
    rw [UInt32.toNat_ofNat', Nat.mod_eq_of_lt smallRate]
  have fromMin : range.minSampleRate ≤ UInt32.ofNat requestedSamplerate := by
    rw [UInt32.le_iff_toNat_le, sameRate]
    exact aboveMin
  have toMax : UInt32.ofNat requestedSamplerate ≤ range.maxSampleRate := by
    rw [UInt32.le_iff_toNat_le, sameRate]
    exact belowMax
  rw [bsizeMatch_iff smallBufsize]
  constructor
  · intro meets
    have admits := meets.admitsBufsize
    rwa [keeps _ _ fromMin toMax] at admits
  · intro admits
    constructor
    · rw [documented.withSampleRate_rate _ _ fromMin toMax, sameRate]
    · rw [documented.withSampleRate_channels _ _ fromMin toMax]
      exact enough
    · rw [keeps _ _ fromMin toMax]
      exact admits

/-- The search finds a full match exactly when its first fit is one. -/
theorem findsFullMatch_iff
    {library : SoundLibrary} (documented : library.Documented)
    (keeps : KeepsBufferSize library)
    (configs : List SupportedConfigRange)
    (fallback : Option SupportedConfig)
    {requestedBufsize requestedSamplerate chcount : ℕ}
    (smallBufsize : requestedBufsize < 2 ^ 32)
    (smallRate : requestedSamplerate < 2 ^ 32)
    (fewChannels : chcount < 2 ^ 16) :
    FindsFullMatch configs
        (selectDeviceConfig library (some configs) fallback
          requestedBufsize requestedSamplerate chcount)
        requestedBufsize requestedSamplerate chcount ↔
      FirstFitMatches configs requestedBufsize requestedSamplerate
        chcount := by
  cases found :
      configs.find? (fitsRequest requestedSamplerate chcount) with
  | none =>
      have noMatch :
          ∀ range ∈ configs,
            ¬ FullMatch requestedBufsize requestedSamplerate chcount
                range := by
        intro range member full
        exact
          List.find?_eq_none.mp found range member
            (full.fits smallRate fewChannels)
      constructor
      · intro _
        exact Or.inl noMatch
      · rintro _ ⟨range, member, full⟩
        exact absurd full (noMatch range member)
  | some range =>
      have selected :
          selectDeviceConfig library (some configs) fallback
              requestedBufsize requestedSamplerate chcount =
            .ok
              (library.withSampleRate range
                (UInt32.ofNat requestedSamplerate)) := by
        simp only [selectDeviceConfig, found]
      have meets_iff :=
        meetsRequest_iff documented keeps smallBufsize smallRate fewChannels
          (List.find?_some found)
      rw [selected]
      constructor
      · intro finds
        by_cases anyMatch :
            ∃ other ∈ configs,
              FullMatch requestedBufsize requestedSamplerate chcount other
        · rcases finds anyMatch with ⟨config, returned, meets⟩
          cases returned
          exact Or.inr ⟨range, found, meets_iff.mp meets⟩
        · left
          intro other member full
          exact anyMatch ⟨other, member, full⟩
      · rintro (noMatch | ⟨first, foundFirst, passes⟩)
        · rintro ⟨other, member, full⟩
          exact absurd full (noMatch other member)
        · intro _
          cases found.symm.trans foundFirst
          exact ⟨_, rfl, meets_iff.mpr passes⟩

/--
Both selections find a full match among the configurations of their device
exactly when there is none or the first fit is one.
-/
theorem selections_findFullMatch_iff
    {library : SoundLibrary} (documented : library.Documented)
    (keeps : KeepsBufferSize library)
    {requestedBufsize requestedSamplerate chcount : ℕ}
    (smallBufsize : requestedBufsize < 2 ^ 32)
    (smallRate : requestedSamplerate < 2 ^ 32)
    (fewChannels : chcount < 2 ^ 16) :
    (∀ (device : InputDevice) (configs : List SupportedConfigRange),
        device.supportedInputConfigs = some configs →
          (FindsFullMatch configs
              (selectInputDeviceConfig library device requestedBufsize
                requestedSamplerate chcount)
              requestedBufsize requestedSamplerate chcount ↔
            FirstFitMatches configs requestedBufsize requestedSamplerate
              chcount)) ∧
      ∀ (device : Device) (configs : List SupportedConfigRange),
        device.supportedOutputConfigs = some configs →
          (FindsFullMatch configs
              (selectOutputDeviceConfig library device requestedBufsize
                requestedSamplerate chcount)
              requestedBufsize requestedSamplerate chcount ↔
            FirstFitMatches configs requestedBufsize requestedSamplerate
              chcount) := by
  constructor
  · intro device configs supported
    rw [selectInputDeviceConfig, supported]
    exact
      findsFullMatch_iff documented keeps configs _ smallBufsize smallRate
        fewChannels
  · intro device configs supported
    rw [selectOutputDeviceConfig, supported]
    exact
      findsFullMatch_iff documented keeps configs _ smallBufsize smallRate
        fewChannels

theorem plainLibrary_keepsBufferSize : KeepsBufferSize plainLibrary :=
  fun _ _ _ _ => rfl

/-- Two configurations that differ in their buffer sizes. -/
def twoSizes : List SupportedConfigRange :=
  [⟨2, 44100, 44100, .range 16 32⟩, ⟨2, 44100, 44100, .range 64 4096⟩]

/-- The first of the two is found when it is the one that was asked for. -/
theorem selections_findFullMatch_iff_first :
    FindsFullMatch twoSizes
      (selectInputDeviceConfig plainLibrary ⟨some twoSizes, none⟩ 32 44100
        2)
      32 44100 2 :=
  ((selections_findFullMatch_iff plainLibrary_documented
    plainLibrary_keepsBufferSize (by decide) (by decide)
    (by decide)).1 ⟨some twoSizes, none⟩ twoSizes rfl).mpr
    (Or.inr ⟨_, rfl, by decide⟩)

/-- The default buffer size is admitted by the second one only. -/
theorem full_match_overlooked :
    ¬ FindsFullMatch twoSizes
        (selectInputDeviceConfig plainLibrary ⟨some twoSizes, none⟩ 1024
          44100 2)
        1024 44100 2 ∧
      ¬ FindsFullMatch twoSizes
          (selectOutputDeviceConfig plainLibrary
            ⟨some twoSizes, none, fun _ => true⟩ 1024 44100 2)
          1024 44100 2 := by
  have second :
      FullMatch 1024 44100 2 ⟨2, 44100, 44100, .range 64 4096⟩ := by
    constructor
    · decide
    · decide
    · exact ⟨by decide, by decide⟩
  have listed :
      ∃ range ∈ twoSizes, FullMatch 1024 44100 2 range :=
    ⟨_, List.mem_cons_of_mem _ List.mem_cons_self, second⟩
  constructor
  · intro finds
    rcases finds listed with ⟨config, returned, meets⟩
    cases returned
    exact absurd meets.admitsBufsize.2 (by decide)
  · intro finds
    rcases finds listed with ⟨config, returned, meets⟩
    cases returned
    exact absurd meets.admitsBufsize.2 (by decide)

end Audiopipe.Audio.ConfigSelection
