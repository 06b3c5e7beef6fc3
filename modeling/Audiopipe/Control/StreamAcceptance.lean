import Audiopipe.Control.RequestLedger
import Audiopipe.Mixing.WriteThenRead

/-!
# Accepting a stream

The selector of an `OpenStream` comes from the network.  `handle_connection`
hands it to the callback, which stores it in the receiver task, and nobody
looks it up before the first packet.  So every selector is accepted, and the
stream has channels to play on exactly if it names channels of the mixer.
-/

namespace Audiopipe.Control.StreamAcceptance

open Audiopipe.Foundation.BoundedQueues
open Audiopipe.Foundation.GuardedRuns
open Audiopipe.Mixing.TrackSelector
open Audiopipe.Mixing.RingTransfer
open Audiopipe.Mixing.TransferLaws
open Audiopipe.Mixing.WriteThenRead
open Audiopipe.Streamer.PacketFormat
open Audiopipe.Streamer.ReceiveLoop
open Audiopipe.Control.Messages
open Audiopipe.Control.ServerTasks
open Audiopipe.Control.RequestLedger

variable {channelCount bufferSize : ℕ}

/-! ## Playing what was accepted -/

/--
The packets of a stream are played on its channels: whatever the mixer and
the samples, every ring is offered the samples that the selector addresses to
it, a ring that the selector does not name is left alone, and the counts that
the receive loop checks add up to the number of samples.
-/
def PlaysOnItsChannels
    (channelCount bufferSize : ℕ) (sel : MixerTrackSelector) : Prop :=
  ∀ (mixer : Mixer F32 channelCount bufferSize) (data : List F32),
    (∀ c,
        (writeToMixerAsync mixer data sel).2.rings c =
          (mixer.rings c).offerAll (share sel c data)) ∧
      (∀ c : Fin channelCount, sel.contains c = false →
        (writeToMixerAsync mixer data sel).2.rings c = mixer.rings c) ∧
      (writeToMixerAsync mixer data sel).1.1 +
          (writeToMixerAsync mixer data sel).1.2 =
        data.length

/-- A selector whose channels exist is played on them. -/
theorem playsOnItsChannels_of_inRange
    {sel : MixerTrackSelector} (inRange : sel.InRange channelCount) :
    PlaysOnItsChannels channelCount bufferSize sel := by
  intro mixer data
  rcases (getChannel_isOk_iff sel).mpr inRange with ⟨track, resolved⟩
  have written :
      writeToMixerAsync mixer data sel =
        (((writeSamples (.start track sel.channelCount) mixer
              data).1.consumed,
            (writeSamples (.start track sel.channelCount) mixer
              data).1.dropped),
          (writeSamples (.start track sel.channelCount) mixer data).2) := by
    simp only [writeToMixerAsync, resolved]
  have rings :
      ∀ c,
        (writeToMixerAsync mixer data sel).2.rings c =
          (mixer.rings c).offerAll (share sel c data) := by
    intro c
    rw [written, writeSamples_rings]
    exact
      congrArg (mixer.rings c).offerAll (addressed_eq_share resolved c data)
  have total :=
    writeSamples_total (.start track sel.channelCount) mixer data
  refine ⟨rings, ?_, ?_⟩
  · intro c unnamed
    rw [rings c, share_unnamed unnamed, BoundedFifo.offerAll_nil]
  · rw [written]
    simpa [TrackCursor.start] using total

/-! ## What is accepted -/

/-- One connection opens a stream; everything goes well. -/
def streamOpened (sel : MixerTrackSelector) : List Action :=
  [.accept 0, .request 0 (.openStream sel) .nil, .lockMixer 0,
    .callbackOk 0 0 40000, .lockHandles 0, .respond 0 true]

/-- The server accepts every selector. -/
theorem every_selector_accepted
    (bufferSize sampleRate : ℕ) (sel : MixerTrackSelector) :
    ∃ s c,
      Run Server.step (.start bufferSize sampleRate) (streamOpened sel) s ∧
        s.connections 0 = some c ∧
        (.openStream sel, .stream .nil 40000 bufferSize sampleRate) ∈
          c.exchanges := by
  refine ⟨_, _, execute_eq_some_iff.mp rfl, rfl, ?_⟩
  exact List.mem_singleton_self _

/--
The answers to an `OpenStream` go by the channels of the mixer: in every run,
a stream that is announced has channels and is played on them, and a selector
that names a channel that the mixer does not have is answered with an error
and puts nothing into the table.
-/
def AcceptsPlayable
    (mixer : Mixer F32 channelCount bufferSize)
    (sel : MixerTrackSelector) : Prop :=
  ∀ (actions : List Action) (s : Server),
    Run Server.step (.start bufferSize mixer.sampleRate) actions s →
      (∀ k c response,
          s.connections k = some c →
            (.openStream sel, response) ∈ c.exchanges →
              (∀ id port size rate,
                  response = .stream id port size rate →
                    (∃ track, getChannel channelCount sel = .ok track) ∧
                      PlaysOnItsChannels channelCount bufferSize sel) ∧
                (¬ sel.InRange channelCount →
                  ∃ error, response = .error error)) ∧
        ∀ k id h next,
          ¬ sel.InRange channelCount →
            phaseOf s k = .openLockHandles id sel h →
              s.step (.lockHandles k) = some next →
                next.handles = s.handles

/--
The server accepts what it can play exactly when the selector names only
channels that the mixer has.
-/
theorem acceptsPlayable_iff
    (mixer : Mixer F32 channelCount bufferSize)
    (sel : MixerTrackSelector) :
    AcceptsPlayable mixer sel ↔ sel.InRange channelCount := by
  constructor
  · intro accepts
    rcases
        every_selector_accepted bufferSize mixer.sampleRate sel with
      ⟨s, c, run, here, exchanged⟩
    have answered := (accepts _ s run).1 0 c _ here exchanged
    have announced := answered.1 _ _ _ _ rfl
    exact (getChannel_isOk_iff sel).mp announced.1
  · intro inRange actions s run
    constructor
    · intro k c response here exchanged
      constructor
      · intro id port size rate announced
        exact
          ⟨(getChannel_isOk_iff sel).mpr inRange,
            playsOnItsChannels_of_inRange inRange⟩
      · intro outside
        exact (outside inRange).elim
    · intro k id h next outside
      exact (outside inRange).elim

/--
A stream for the sixth channel of a stereo mixer is announced, and its
packets vanish uncounted.
-/
theorem unplayable_stream_accepted :
    ¬ AcceptsPlayable (emptyMixer F32 2 64 48000) (.mono 5) ∧
      writeToMixerAsync (emptyMixer F32 2 64 48000) [⟨1⟩] (.mono 5) =
        ((0, 0), emptyMixer F32 2 64 48000) := by
  refine ⟨fun accepts => ?_, rfl⟩
  rcases every_selector_accepted 64 48000 (.mono 5) with
    ⟨s, c, run, here, exchanged⟩
  have answered := (accepts _ s run).1 0 c _ here exchanged
  rcases answered.2 (by decide) with ⟨error, equal⟩
  cases equal

end Audiopipe.Control.StreamAcceptance
