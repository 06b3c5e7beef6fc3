import Audiopipe.Mixing.WriteThenRead
import Audiopipe.Session.AudioPath
import Audiopipe.Session.SelectorAgreement

/-!
# What is heard was captured

The stages of the way, one invariant each: the rings of the two mixers convey
their streams, the columns of the packets sent are what the sender heard, and
the receiver deals the packets it gets out to its rings.  The end-to-end
theorems put them together.
-/

namespace Audiopipe.Session.AudioFidelity

open Audiopipe.Foundation.BoundedQueues
open Audiopipe.Foundation.GuardedRuns
open Audiopipe.Foundation.LossyStreams
open Audiopipe.Foundation.StridedLists
open Audiopipe.Mixing
open Audiopipe.Mixing.TrackSelector
open Audiopipe.Mixing.RingTransfer
open Audiopipe.Mixing.TransferLaws
open Audiopipe.Mixing.WriteThenRead
open Audiopipe.Mixing.ChannelStreams
open Audiopipe.Streamer
open Audiopipe.Streamer.PacketFormat
open Audiopipe.Streamer.ReceiveLoop
open Audiopipe.Streamer.ReceiverTasks
open Audiopipe.Streamer.Sender
open Audiopipe.Session.SelectorAgreement
open Audiopipe.Session.AudioPath

variable {inputChannels inputSize outputChannels outputSize : ℕ}
variable {client : UdpClient}
variable
  {s next : AudioLink inputChannels inputSize outputChannels outputSize}

/-! ## What the sender reads -/

/-- The reads of a buffer have come as far along the track as the buffer. -/
structure ReadsTrack (sel : MixerTrackSelector)
    (cursor : TrackCursor inputChannels) (buf : List F32) : Prop where
  resolved : getChannel inputChannels sel = .ok cursor.track
  cycle : cursor.cycle = cursor.track.channelCount
  counter : cursor.ch = buf.length % cursor.cycle

namespace ReadsTrack

variable {sel : MixerTrackSelector} {cursor : TrackCursor inputChannels}
variable {buf : List F32}

theorem start {track : MixerTrack (Fin inputChannels)}
    (resolved : getChannel inputChannels sel = .ok track) :
    ReadsTrack sel (.start track track.channelCount) [] where
  resolved := resolved
  cycle := rfl
  counter := (Nat.zero_mod _).symm

theorem read (reads : ReadsTrack sel cursor buf)
    (mixer : Mixer F32 inputChannels inputSize) (v : F32) :
    ReadsTrack sel (readTrackSample cursor mixer).1 (buf ++ [v]) := by
  rcases readTrackSample_cursor cursor mixer with ⟨track, cycle, moved⟩
  constructor
  · rw [track]
    exact reads.resolved
  · rw [track, cycle]
    exact reads.cycle
  · rw [cycle, moved, TrackCursor.nextCh, reads.counter,
      List.length_append, List.length_singleton]
    have counts := reads.cycle
    cases shape : cursor.track with
    | mono c =>
        rw [shape] at counts
        rw [counts]
        simp [MixerTrack.advance, MixerTrack.channelCount, Nat.mod_one]
    | stereo l r => rw [MixerTrack.advance, Nat.mod_add_mod]

/-- Where the next read lands, by the parity of what has been read. -/
theorem channel (reads : ReadsTrack sel cursor buf) {side : ℕ}
    (position : buf.length % 2 = side) :
    channelOf sel side = cursor.channel := by
  have inRange : sel.InRange inputChannels :=
    (getChannel_isOk_iff sel).mp ⟨_, reads.resolved⟩
  have resolved := reads.resolved
  have counts := reads.cycle
  cases sel with
  | mono c =>
      rw [getChannel_mono inRange] at resolved
      have track := Except.ok.inj resolved
      rw [TrackCursor.channel, ← track]
      rfl
  | stereo l r =>
      rw [getChannel_stereo inRange.1 inRange.2] at resolved
      have track := Except.ok.inj resolved
      rw [← track] at counts
      rw [TrackCursor.channel, ← track, reads.counter, counts]
      change
        channelOf (.stereo l r) side =
          (MixerTrack.stereo (Fin.mk l inRange.1) ⟨r, inRange.2⟩).pick
            (buf.length % 2)
      rw [position]
      rcases Nat.mod_two_eq_zero_or_one buf.length with even | odd
      · rw [even] at position
        subst position
        rfl
      · rw [odd] at position
        subst position
        rfl

end ReadsTrack

/-- The two sides of the stream have a channel each. -/
def TwoSided (sel : MixerTrackSelector) : Prop :=
  ∃ l r, sel = .stereo l r ∧ l ≠ r

theorem TwoSided.side_injective {sel : MixerTrackSelector}
    (twoSided : TwoSided sel) {side other : ℕ}
    (named : side < 2) (otherNamed : other < 2)
    (same : channelOf sel side = channelOf sel other) :
    side = other := by
  rcases twoSided with ⟨l, r, rfl, sides⟩
  simp only [channelOf] at same
  split at same
  · split at same
    · omega
    · exact (sides same).elim
  · split at same
    · exact (sides same.symm).elim
    · omega

/-- The samples that packets have for one side of the stream. -/
def columns (side : ℕ) (packets : List AudioPacket) : List F32 :=
  packets.flatMap fun packet => everyNth 2 side (samples packet)

/-- The part of its buffer that the sender has filled. -/
def filling
    (s : AudioLink inputChannels inputSize outputChannels outputSize) :
    List F32 :=
  match s.input.tasks 1 with
  | some (.readingTrack _ buf _) => buf
  | _ => []

/-- A part of a stream that is all of it if the sides are apart. -/
def Taken (sel : MixerTrackSelector) (part whole : List F32) : Prop :=
  part.Sublist whole ∧ (TwoSided sel → part = whole)

/--
The sides of the packets sent and of the buffer are what the sender has heard
of their channels, which exist if anything has been sent.
-/
structure SenderSound (client : UdpClient)
    (s : AudioLink inputChannels inputSize outputChannels outputSize) :
    Prop where
  slots : s.Slots
  reads :
    ∀ cursor buf remaining,
      s.input.tasks 1 = some (.readingTrack cursor buf remaining) →
        ReadsTrack client.sel cursor buf
  found : s.sent ≠ [] → client.sel.InRange inputChannels
  taken :
    ∀ side < 2, ∀ c : Fin inputChannels, channelOf client.sel side = c →
      Taken client.sel
        (columns side s.sent ++ everyNth 2 side (filling s))
        (heard c s.input.history)

namespace SenderSound

/-- A step that leaves the sender alone. -/
theorem aside (sound : SenderSound client s)
    (slots : next.Slots) (task : next.input.tasks 1 = s.input.tasks 1)
    (sent : next.sent = s.sent)
    (silent :
      ∀ c, heard c next.input.history = heard c s.input.history) :
    SenderSound client next where
  slots := slots
  reads := by
    intro cursor buf remaining reading
    exact sound.reads cursor buf remaining (task ▸ reading)
  found := fun some => sound.found (sent ▸ some)
  taken := by
    intro side named c here
    have same : filling next = filling s := by
      rw [filling, filling, task]
    rw [sent, same, silent]
    exact sound.taken side named c here

/-- One more sample in the buffer. -/
theorem sampleRead (sound : SenderSound client s)
    {cursor : TrackCursor inputChannels} {buf : List F32} {remaining : ℕ}
    (reading :
      s.input.tasks 1 =
        some (.readingTrack cursor buf (remaining + 1)))
    {side : ℕ} (named : side < 2) {c : Fin inputChannels}
    (here : channelOf client.sel side = c) :
    Taken client.sel
      (columns side s.sent ++
        everyNth 2 side
          (buf ++ [(readTrackSample cursor s.input.mixer).2.1]))
      (heard c
        (s.input.history ++
          [ConcurrentCalls.popEvent s.input.mixer cursor.channel])) := by
  have reads := sound.reads cursor buf (remaining + 1) reading
  have before := sound.taken side named c here
  have filled : filling s = buf := by rw [filling, reading]
  rw [filled] at before
  have put :
      (readTrackSample cursor s.input.mixer).2.1 =
        popOrSilence (s.input.mixer.rings cursor.channel) := by
    rw [readTrackSample_eq, popOrSilence_eq]
  rw [everyNth_append_singleton named, heard_append, heard_popEvent, put,
    ← List.append_assoc]
  by_cases position : buf.length % 2 = side
  · have target : cursor.channel = c :=
      Fin.ext ((reads.channel position).symm.trans here)
    rw [if_pos position, if_pos target]
    refine ⟨before.1.append (List.Sublist.refl _), fun twoSided => ?_⟩
    rw [before.2 twoSided]
  · rw [if_neg position, List.append_nil]
    refine
      ⟨before.1.trans (List.sublist_append_left _ _), fun twoSided => ?_⟩
    have elsewhere : cursor.channel ≠ c := by
      intro target
      refine
        position
          (twoSided.side_injective (Nat.mod_lt _ (by decide)) named ?_)
      rw [reads.channel rfl, here, target]
    rw [if_neg elsewhere, List.append_nil]
    exact before.2 twoSided

theorem step {action : PathAction outputChannels}
    (enabled : s.step client action = some next)
    (sound : SenderSound client s) :
    SenderSound client next := by
  cases AudioLink.step_move sound.slots enabled with
  | captureStarted data task writes =>
      refine sound.aside ⟨?_, ?_⟩ ?_ rfl fun c => ?_
      · intro started running
        simp only [AudioLink.entered, Function.update_self] at running
        exact writes started running
      · intro started running
        exact
          sound.slots.sender started
            (by simpa [AudioLink.entered] using running)
      · simp [AudioLink.entered]
      · simp [AudioLink.entered, heard]
  | captured cursor o rest writing =>
      refine sound.aside ⟨?_, ?_⟩ ?_ rfl fun c => ?_
      · intro started running
        simp only [ConcurrentCalls.Pool.moved, Function.update_self] at running
        cases running
        exact ⟨_, _, rfl⟩
      · intro started running
        exact
          sound.slots.sender started
            (by simpa [ConcurrentCalls.Pool.moved] using running)
      · simp [ConcurrentCalls.Pool.moved]
      · simp only [ConcurrentCalls.Pool.moved]
        rw [heard_append, heard_pushEvent, List.append_nil]
  | fillStarted track idle resolved =>
      refine ⟨⟨?_, ?_⟩, ?_, sound.found, ?_⟩
      · intro started running
        exact
          sound.slots.callback started
            (by simpa [AudioLink.entered] using running)
      · intro started running
        simp only [AudioLink.entered, Function.update_self] at running
        cases running
        exact ⟨_, _, _, rfl⟩
      · intro cursor buf remaining reading
        simp only [AudioLink.entered, Function.update_self] at reading
        cases reading
        exact .start resolved
      · intro side named c here
        have before := sound.taken side named c here
        have empty : filling s = [] := by rw [filling, idle]
        rw [empty] at before
        simpa [filling, AudioLink.entered, heard] using before
  | fillFailed idle =>
      refine sound.aside ⟨?_, ?_⟩ ?_ rfl fun c => ?_
      · intro started running
        exact
          sound.slots.callback started
            (by simpa [AudioLink.entered] using running)
      · intro started running
        simp [AudioLink.entered] at running
      · simp [AudioLink.entered, idle]
      · simp [AudioLink.entered, heard]
  | sampleRead cursor buf remaining reading =>
      refine ⟨⟨?_, ?_⟩, ?_, sound.found, ?_⟩
      · intro started running
        exact
          sound.slots.callback started
            (by simpa [ConcurrentCalls.Pool.moved] using running)
      · intro started running
        simp only [ConcurrentCalls.Pool.moved, Function.update_self]
          at running
        cases running
        exact ⟨_, _, _, rfl⟩
      · intro cursor' buf' remaining' reading'
        simp only [ConcurrentCalls.Pool.moved, Function.update_self]
          at reading'
        cases reading'
        exact (sound.reads _ _ _ reading).read s.input.mixer _
      · intro side named c here
        have read := sound.sampleRead reading named here
        simpa [filling, ConcurrentCalls.Pool.moved] using read
  | packetSent timestamp cursor buf filled sized =>
      have resolved := (sound.reads cursor buf 0 filled).resolved
      have inRange : client.sel.InRange inputChannels :=
        (getChannel_isOk_iff client.sel).mp ⟨cursor.track, resolved⟩
      refine ⟨⟨?_, ?_⟩, ?_, fun _ => inRange, ?_⟩
      · intro started running
        exact sound.slots.callback started (by simpa using running)
      · intro started running
        simp at running
      · intro cursor' buf' remaining' reading'
        simp at reading'
      · intro side named c here
        have before := sound.taken side named c here
        have whole : filling s = buf := by rw [filling, filled]
        rw [whole] at before
        have carried :
            samples (client.packet timestamp buf sized) = buf := by
          by_cases empty : buf = []
          · subst empty
            rfl
          · have cast := tryCastSlice_castToBytes empty
            rw [samples]
            exact congrArg (fun found => found.getD []) cast
        have emptied :
            filling
                { s with
                  input :=
                    { s.input with
                      tasks := Function.update s.input.tasks 1 none }
                  sent :=
                    s.sent ++ [client.packet timestamp buf sized] } =
              [] := by
          simp [filling]
        rw [emptied, everyNth_nil, List.append_nil, columns,
          List.flatMap_append, List.flatMap_singleton, carried]
        exact before
  | packetArrived i packet there waiting =>
      exact
        sound.aside ⟨sound.slots.callback, sound.slots.sender⟩ rfl rfl
          fun _ => rfl
  | received action output known move =>
      exact
        sound.aside ⟨sound.slots.callback, sound.slots.sender⟩ rfl rfl
          fun _ => rfl

theorem start
    (input : Mixer F32 inputChannels inputSize)
    (output : Mixer F32 outputChannels outputSize) :
    SenderSound client (.start input output) where
  slots :=
    ⟨(fun _ running => nomatch running), (fun _ running => nomatch running)⟩
  reads := fun _ _ _ reading => nomatch reading
  found := fun some => (some rfl).elim
  taken := fun _ _ _ _ => ⟨List.Sublist.refl _, fun _ => rfl⟩

end SenderSound

/-! ## What the receiver deals out -/

/-- The samples of the packets that are addressed to channel `c`. -/
def dealt (c : Fin outputChannels) (packets : List AudioPacket) :
    List F32 :=
  packets.flatMap fun packet => share streamSelector c (samples packet)

/-- What the packet in hand still has for the ring of `c`. -/
def remaining (c : Fin outputChannels) :
    TaskPhase outputChannels → List F32
  | .receiving => []
  | .lockingMixer packet => share streamSelector c (samples packet)
  | .writing locals =>
      addressed locals.cursor.track locals.cursor.cycle locals.cursor.ch c
        locals.rest
  | .ended _ => []

/--
The samples offered to the ring of `c` and those in hand are what the packets
have for it, up to what an ended receiver has left out.
-/
def Deals (c : Fin outputChannels) (phase : TaskPhase outputChannels)
    (offers column : List F32) : Prop :=
  ∃ omitted,
    offers ++ remaining c phase ++ omitted = column ∧
      ((∀ result, phase ≠ .ended result) → omitted = [])

namespace Deals

variable {c : Fin outputChannels} {phase : TaskPhase outputChannels}
variable {offers column : List F32}

theorem isPrefix (deals : Deals c phase offers column) :
    offers <+: column := by
  rcases deals with ⟨omitted, whole, _⟩
  rw [List.append_assoc] at whole
  exact ⟨_, whole⟩

/-- A receiver that ends leaves out what it has in hand. -/
theorem ended (deals : Deals c phase offers column) (result : TaskEnd) :
    Deals c (.ended result) offers column := by
  rcases deals with ⟨omitted, whole, _⟩
  refine ⟨remaining c phase ++ omitted, ?_, fun goesOn => ?_⟩
  · rw [remaining, List.append_nil, ← List.append_assoc]
    exact whole
  · exact (goesOn result rfl).elim

/-- A receiver that goes on with the same in hand. -/
theorem moved (deals : Deals c phase offers column)
    (goesOn : ∀ result, phase ≠ .ended result)
    {later : TaskPhase outputChannels}
    (same : remaining c later = remaining c phase) :
    Deals c later offers column := by
  rcases deals with ⟨omitted, whole, complete⟩
  refine ⟨omitted, by rw [same]; exact whole, fun _ => complete goesOn⟩

/-- The end of a packet of which nothing is in hand any more. -/
theorem asserted (deals : Deals c phase offers column)
    (goesOn : ∀ result, phase ≠ .ended result)
    (nothing : remaining c phase = []) (consumed dropped length : ℕ) :
    Deals c (assertCounts consumed dropped length) offers column := by
  unfold assertCounts
  split
  · exact deals.moved goesOn (by rw [nothing]; rfl)
  · exact deals.ended .panicked

end Deals

theorem written_append
    (c : Fin outputChannels)
    (earlier later : List (OutputEvent outputChannels)) :
    written c (earlier ++ later) = written c earlier ++ written c later :=
  List.filterMap_append

theorem played_append
    (c : Fin outputChannels)
    (earlier later : List (OutputEvent outputChannels)) :
    played c (earlier ++ later) = played c earlier ++ played c later :=
  List.filterMap_append

/-- A step of the receiver deals out what it takes from its hand. -/
theorem Deals.step
    {output later : ReceiverTasks.Pool Unit outputChannels outputSize}
    {action : PoolAction Unit outputChannels}
    (known : ∀ h bytes, action ≠ .datagram h bytes)
    (move :
      Pool.Move bincodeWire (fun _ => streamSelector) output action later)
    {c : Fin outputChannels} {offers column : List F32}
    (deals : Deals c (output.phases ()) offers column) :
    Deals c (later.phases ())
      (offers ++ written c (outputEvents output action)) column := by
  have silent :
      ∀ {phase : TaskPhase outputChannels},
        outputEvents output action = [] → Deals c phase offers column →
          Deals c phase (offers ++ written c (outputEvents output action))
            column := by
    intro phase nothing deals
    rw [nothing]
    simpa [written] using deals
  cases move with
  | received h bytes waiting => exact (known h bytes rfl).elim
  | recvError h waiting => exact silent rfl deals
  | opened h packet data track waiting free cast resolved =>
      refine silent rfl ?_
      rw [Pool.moveTo_phases_self]
      refine deals.moved (by simp [waiting]) ?_
      rw [waiting, remaining, remaining, samples, cast]
      exact addressed_eq_share resolved c data
  | unresolved h packet data e waiting free cast resolved =>
      refine silent rfl ?_
      rw [Pool.moveTo_phases_self]
      by_cases empty : data = []
      · refine deals.asserted (by simp [waiting]) ?_ _ _ _
        rw [waiting, remaining, samples, cast, empty]
        simp [share, streamSelector]
      · have rejected : ¬ 0 = data.length := fun none =>
          empty (List.eq_nil_of_length_eq_zero none.symm)
        have panics :
            (assertCounts 0 0 data.length : TaskPhase outputChannels) =
              .ended .panicked := by
          simp [assertCounts, rejected]
        rw [panics]
        exact deals.ended .panicked
  | uncast h packet waiting free cast =>
      refine silent rfl ?_
      rw [Pool.moveTo_phases_self]
      exact deals.ended .panicked
  | pushed h cursor o rest length writing =>
      rw [Pool.moveTo_phases_self]
      rcases writeSample_cursor cursor output.mixer o with
        ⟨track, cycle, counter⟩
      rcases deals with ⟨omitted, whole, complete⟩
      refine ⟨omitted, ?_, fun _ => complete (by simp [writing])⟩
      rw [writing, remaining, addressed] at whole
      rw [remaining, track, cycle, counter, outputEvents, writing,
        ← whole, List.append_assoc offers]
      by_cases target : cursor.track.pick cursor.ch = c
      · rw [if_pos target]
        simp [written, TrackCursor.channel, target, TrackCursor.nextCh]
      · rw [if_neg target]
        simp [written, TrackCursor.channel, target, TrackCursor.nextCh]
  | finished h cursor length writing =>
      refine silent rfl ?_
      rw [Pool.moveTo_phases_self]
      exact
        deals.asserted (by simp [writing]) (by rw [writing]; rfl) _ _ _
  | stopped h waiting outside =>
      refine silent rfl ?_
      rw [Pool.moveTo_phases_self]
      exact deals.ended .stopped
  | cancelled h cursor o rest length writing =>
      refine silent rfl ?_
      exact deals.ended .stopped
  | otherLocked free => exact silent rfl deals
  | otherUnlocked held => exact silent rfl deals
  | played d => simpa [outputEvents, written] using deals

/-! ## The rings of the two mixers -/

/-- The network has not gone past the packet that arrives. -/
def InOrder
    (s : AudioLink inputChannels inputSize outputChannels outputSize) :
    PathAction outputChannels → Prop
  | .arrive i => s.passed ≤ i
  | _ => True

instance decidableInOrder
    (s : AudioLink inputChannels inputSize outputChannels outputSize) :
    ∀ action, Decidable (InOrder s action)
  | .arrive i => inferInstanceAs (Decidable (s.passed ≤ i))
  | .capture _ | .captureSample | .fill | .readSample | .send _
  | .receiver _ => .isTrue trivial

/-- The ring that a running write pushes to next is not full. -/
def CaptureHasRoom
    (mixer : Mixer F32 inputChannels inputSize) :
    Option (ConcurrentCalls.Task F32 inputChannels) → Prop
  | some (.writing cursor (_ :: _)) =>
      ¬ (mixer.rings cursor.channel).IsFull
  | _ => True

instance decidableCaptureHasRoom
    (mixer : Mixer F32 inputChannels inputSize) :
    ∀ task, Decidable (CaptureHasRoom mixer task)
  | some (.writing cursor (_ :: _)) =>
      inferInstanceAs (Decidable (¬ (mixer.rings cursor.channel).IsFull))
  | some (.writing _ []) | some (.readingTrack _ _ _)
  | some (.readingMixer _ _ _) | none => .isTrue trivial

/-- The ring that the receiver pushes to next is not full. -/
def PacketHasRoom
    (mixer : Mixer F32 outputChannels outputSize) :
    TaskPhase outputChannels → Prop
  | .writing ⟨cursor, _ :: _, _⟩ =>
      ¬ (mixer.rings cursor.channel).IsFull
  | _ => True

instance decidablePacketHasRoom
    (mixer : Mixer F32 outputChannels outputSize) :
    ∀ phase, Decidable (PacketHasRoom mixer phase)
  | .writing ⟨cursor, _ :: _, _⟩ =>
      inferInstanceAs (Decidable (¬ (mixer.rings cursor.channel).IsFull))
  | .writing ⟨_, [], _⟩ | .receiving | .lockingMixer _ | .ended _ =>
      .isTrue trivial

/--
The step loses nothing: a captured sample and a received one find room in
their rings, and the packet that arrives is the next one.
-/
def LosesNothing
    (s : AudioLink inputChannels inputSize outputChannels outputSize) :
    PathAction outputChannels → Prop
  | .captureSample => CaptureHasRoom s.input.mixer (s.input.tasks 0)
  | .arrive i => i = s.passed
  | .receiver (.push h) => PacketHasRoom s.output.mixer (s.output.phases h)
  | _ => True

instance decidableLosesNothing
    (s : AudioLink inputChannels inputSize outputChannels outputSize) :
    ∀ action, Decidable (LosesNothing s action)
  | .captureSample => decidableCaptureHasRoom _ _
  | .arrive i => inferInstanceAs (Decidable (i = s.passed))
  | .receiver (.push _) => decidablePacketHasRoom _ _
  | .capture _ | .fill | .readSample | .send _ => .isTrue trivial
  | .receiver (.datagram _ _) | .receiver (.recvError _)
  | .receiver (.lockMixer _) | .receiver (.finish _)
  | .receiver (.stop _) | .receiver .otherLock
  | .receiver .otherUnlock | .receiver (.playout _) => .isTrue trivial

/-- A step of the link is a step of each ring of the client. -/
theorem input_ring {action : PathAction outputChannels}
    (slots : s.Slots) (enabled : s.step client action = some next)
    (c : Fin inputChannels) :
    ∃ offers hears,
      offered c next.input.history =
          offered c s.input.history ++ offers ∧
        heard c next.input.history = heard c s.input.history ++ hears ∧
        QueueStep Sample.EQUILIBRIUM (s.input.mixer.rings c)
          (next.input.mixer.rings c) offers hears ∧
        (LosesNothing s action →
          ∀ value, offers = [value] →
            ¬ (s.input.mixer.rings c).IsFull) := by
  have aside :
      ∀ {link : AudioLink inputChannels inputSize outputChannels
          outputSize},
        link.input.mixer = s.input.mixer →
          offered c link.input.history = offered c s.input.history →
            heard c link.input.history = heard c s.input.history →
              ∃ offers hears,
                offered c link.input.history =
                    offered c s.input.history ++ offers ∧
                  heard c link.input.history =
                    heard c s.input.history ++ hears ∧
                  QueueStep Sample.EQUILIBRIUM (s.input.mixer.rings c)
                    (link.input.mixer.rings c) offers hears ∧
                  (LosesNothing s action →
                    ∀ value, offers = [value] →
                      ¬ (s.input.mixer.rings c).IsFull) := by
    intro link mixer offers hears
    refine
      ⟨[], [], by rw [offers, List.append_nil],
        by rw [hears, List.append_nil], .aside (by rw [mixer]), ?_⟩
    exact fun _ _ equal => nomatch equal
  cases AudioLink.step_move slots enabled with
  | captureStarted data task writes =>
      refine aside rfl ?_ ?_
      · simp [AudioLink.entered, offered]
      · simp [AudioLink.entered, heard]
  | captured cursor o rest writing =>
      refine
        ⟨_, _, offered_append _ _ _, heard_append _ _ _, ?_,
          fun spared value offers => ?_⟩
      · rw [offered_pushEvent, heard_pushEvent]
        by_cases here : cursor.channel = c
        · rw [if_pos here]
          refine .offered o ?_
          simp only [ConcurrentCalls.Pool.moved]
          rw [writeSample_rings, if_pos here]
        · rw [if_neg here]
          refine .aside ?_
          simp only [ConcurrentCalls.Pool.moved]
          rw [writeSample_rings, if_neg here]
      · rw [offered_pushEvent] at offers
        rw [LosesNothing, writing] at spared
        by_cases here : cursor.channel = c
        · rw [← here]
          exact spared
        · rw [if_neg here] at offers
          cases offers
  | fillStarted track idle resolved =>
      refine aside rfl ?_ ?_
      · simp [AudioLink.entered, offered]
      · simp [AudioLink.entered, heard]
  | fillFailed idle =>
      refine aside rfl ?_ ?_
      · simp [AudioLink.entered, offered]
      · simp [AudioLink.entered, heard]
  | sampleRead cursor buf remaining reading =>
      refine
        ⟨_, _, offered_append _ _ _, heard_append _ _ _, ?_,
          fun _ value offers => ?_⟩
      · rw [offered_popEvent, heard_popEvent, readTrackSample_eq]
        by_cases here : cursor.channel = c
        · rw [if_pos here, here, popOrSilence_head]
          refine .taken ?_
          simp only [ConcurrentCalls.Pool.moved]
          rw [popRing_contents, if_pos rfl, List.drop_one]
        · rw [if_neg here]
          refine .aside ?_
          simp only [ConcurrentCalls.Pool.moved]
          rw [popRing_contents, if_neg (Ne.symm here)]
      · rw [offered_popEvent] at offers
        cases offers
  | packetSent timestamp cursor buf filled sized => exact aside rfl rfl rfl
  | packetArrived i packet there waiting => exact aside rfl rfl rfl
  | received action output known move => exact aside rfl rfl rfl

/-- An attempt of the output callback takes a sample or leaves silence. -/
theorem playSample_eq_popRing
    (mixer : Mixer F32 outputChannels outputSize)
    (c : Fin outputChannels) :
    playSample mixer c = popRing mixer c := by
  rw [playSample, BoundedFifo.tryPop_eq]
  cases front : (mixer.rings c).contents[0]? with
  | none => exact (popRing_of_empty front).symm
  | some v => rfl

/-- A step of the receiver tasks is a step of each ring of the server. -/
theorem receiver_ring
    {output later : ReceiverTasks.Pool Unit outputChannels outputSize}
    {action : PoolAction Unit outputChannels}
    (move :
      Pool.Move bincodeWire (fun _ => streamSelector) output action later)
    (c : Fin outputChannels) :
    QueueStep Sample.EQUILIBRIUM (output.mixer.rings c)
        (later.mixer.rings c) (written c (outputEvents output action))
        (played c (outputEvents output action)) ∧
      ∀ value, written c (outputEvents output action) = [value] →
        ∃ h cursor o rest length,
          action = .push h ∧
            output.phases h = .writing ⟨cursor, o :: rest, length⟩ ∧
            cursor.channel = c := by
  cases move with
  | pushed h cursor o rest length writing =>
      have events :
          outputEvents output (.push h) = [.written cursor.channel o] := by
        simp only [outputEvents, writing]
      rw [events]
      by_cases here : cursor.channel = c
      · refine
          ⟨?_, fun value _ =>
            ⟨h, cursor, o, rest, length, rfl, writing, here⟩⟩
        have offers :
            written c [.written cursor.channel o] = [o] := by
          simp [written, here]
        rw [offers]
        exact .offered o (by rw [writeSample_rings, if_pos here])
      · have offers :
            written c [.written cursor.channel o] = [] := by
          simp [written, here]
        rw [offers]
        refine ⟨.aside ?_, by simp⟩
        rw [writeSample_rings, if_neg here]
  | played d =>
      refine ⟨?_, by simp [outputEvents, written]⟩
      rw [playSample_eq_popRing]
      by_cases here : d = c
      · subst here
        have hears :
            played d (outputEvents output (.playout d)) =
              [(output.mixer.rings d).contents.head?.getD
                Sample.EQUILIBRIUM] := by
          simp [outputEvents, played, popOrSilence_head]
        rw [hears]
        refine .taken ?_
        rw [popRing_contents, if_pos rfl, List.drop_one]
      · have hears :
            played c (outputEvents output (.playout d)) = [] := by
          simp [outputEvents, played, here]
        rw [hears]
        refine .aside ?_
        rw [popRing_contents, if_neg (Ne.symm here)]
  | _ => exact ⟨.aside rfl, by simp [outputEvents, written]⟩

/-- A step of the link is a step of each ring of the server. -/
theorem output_ring {action : PathAction outputChannels}
    (slots : s.Slots) (enabled : s.step client action = some next)
    (c : Fin outputChannels) :
    ∃ offers hears,
      written c next.history = written c s.history ++ offers ∧
        played c next.history = played c s.history ++ hears ∧
        QueueStep Sample.EQUILIBRIUM (s.output.mixer.rings c)
          (next.output.mixer.rings c) offers hears ∧
        (LosesNothing s action →
          ∀ value, offers = [value] →
            ¬ (s.output.mixer.rings c).IsFull) := by
  cases AudioLink.step_move slots enabled with
  | received action output known move =>
      rcases receiver_ring move c with ⟨step, pushes⟩
      refine
        ⟨_, _, written_append _ _ _, played_append _ _ _, step,
          fun spared value offers => ?_⟩
      rcases pushes value offers with
        ⟨h, cursor, o, rest, length, rfl, writing, rfl⟩
      rw [LosesNothing, writing] at spared
      exact spared
  | _ =>
      exact
        ⟨[], [], (List.append_nil _).symm, (List.append_nil _).symm,
          .aside rfl, fun _ _ equal => nomatch equal⟩

/-! ## From end to end -/

/-- The stages of the way, with the queues that `keeps` stands for. -/
structure LinkSound (keeps : List F32 → List F32 → Prop)
    (client : UdpClient)
    (s : AudioLink inputChannels inputSize outputChannels outputSize) :
    Prop where
  sender : SenderSound client s
  captured :
    ∀ c,
      Through keeps Sample.EQUILIBRIUM (offered c s.input.history)
        (s.input.mixer.rings c).contents (heard c s.input.history)
  received :
    ∀ c,
      Deals c (s.output.phases ()) (written c s.history)
        (dealt c s.arrived)
  played :
    ∀ c,
      Through keeps Sample.EQUILIBRIUM (written c s.history)
        (s.output.mixer.rings c).contents (played c s.history)

/-- A packet as it arrives, cut off if it is too long for the receiver. -/
theorem received_serialize (packet : AudioPacket) :
    (received bincodeWire (serialize packet) :
        TaskPhase outputChannels) = .lockingMixer packet ∨
      ∃ result,
        (received bincodeWire (serialize packet) :
          TaskPhase outputChannels) = .ended result := by
  by_cases fits : (serialize packet).length ≤ receiveBufferSize
  · left
    rw [received, handleDatagram_serialize fits]
  · right
    refine ⟨.returned .serializationError, ?_⟩
    rw [received, handleDatagram_serialize_long (Nat.lt_of_not_le fits)]

/-- The packets that have arrived are dealt out as far as they are in hand. -/
theorem received_step {action : PathAction outputChannels}
    (slots : s.Slots) (enabled : s.step client action = some next)
    {c : Fin outputChannels}
    (deals :
      Deals c (s.output.phases ()) (written c s.history)
        (dealt c s.arrived)) :
    Deals c (next.output.phases ()) (written c next.history)
      (dealt c next.arrived) := by
  cases AudioLink.step_move slots enabled with
  | packetArrived i packet there waiting =>
      rcases deals with ⟨omitted, whole, complete⟩
      have nothing : omitted = [] :=
        complete fun _ equal => nomatch waiting ▸ equal
      rw [waiting, remaining, nothing, List.append_nil, List.append_nil]
        at whole
      have columnNow :
          dealt c (s.arrived ++ [packet]) =
            written c s.history ++
              share streamSelector c (samples packet) := by
        rw [whole, dealt, dealt, List.flatMap_append,
          List.flatMap_singleton]
      have inHand :
          Deals c (.lockingMixer packet) (written c s.history)
            (dealt c (s.arrived ++ [packet])) :=
        ⟨[], by rw [columnNow, remaining, List.append_nil], fun _ => rfl⟩
      simp only [Pool.moveTo_phases_self]
      rcases @received_serialize outputChannels packet with
        fits | ⟨result, cut⟩
      · rw [fits]
        exact inHand
      · rw [cut]
        exact inHand.ended result
  | received action output known move =>
      simp only [written_append]
      exact deals.step known move
  | _ => exact deals

/-- What a step keeps of the queues, it keeps of the whole way. -/
theorem LinkSound.step {keeps : List F32 → List F32 → Prop}
    {action : PathAction outputChannels}
    (queues :
      ∀ {capacity : ℕ} {queue later : BoundedFifo F32 capacity}
        {offered heard offers hears : List F32},
        QueueStep Sample.EQUILIBRIUM queue later offers hears →
          (LosesNothing s action →
            ∀ value, offers = [value] → ¬ queue.IsFull) →
            Through keeps Sample.EQUILIBRIUM offered queue.contents
                heard →
              Through keeps Sample.EQUILIBRIUM (offered ++ offers)
                later.contents (heard ++ hears))
    (enabled : s.step client action = some next)
    (sound : LinkSound keeps client s) :
    LinkSound keeps client next where
  sender := sound.sender.step enabled
  captured := by
    intro c
    rcases input_ring sound.sender.slots enabled c with
      ⟨offers, hears, offered_next, heard_next, stepped, room⟩
    rw [offered_next, heard_next]
    exact queues stepped room (sound.captured c)
  received := fun c =>
    received_step sound.sender.slots enabled (sound.received c)
  played := by
    intro c
    rcases output_ring sound.sender.slots enabled c with
      ⟨offers, hears, written_next, played_next, stepped, room⟩
    rw [written_next, played_next]
    exact queues stepped room (sound.played c)

theorem LinkSound.start {keeps : List F32 → List F32 → Prop}
    (nothing : keeps [] []) (inputRate outputRate : ℕ) :
    LinkSound keeps client
      (.start (emptyMixer F32 inputChannels inputSize inputRate)
        (emptyMixer F32 outputChannels outputSize outputRate)) where
  sender := .start _ _
  captured := fun _ => ⟨[], .done, nothing⟩
  received := fun _ => ⟨[], rfl, fun _ => rfl⟩
  played := fun _ => ⟨[], .done, nothing⟩

/-- The two sides are dealt out to the first two channels. -/
theorem dealt_eq_columns
    {c : Fin outputChannels} (named : (c : ℕ) < 2)
    (packets : List AudioPacket) :
    dealt c packets = columns c packets := by
  unfold dealt columns
  congr 1
  ext1 packet
  have sides : (c : ℕ) = 0 ∨ (c : ℕ) = 1 := by omega
  rcases sides with left | right
  · rw [left]
    rfl
  · rw [right]
    rfl

/-- Nothing is dealt out to the other channels. -/
theorem dealt_eq_nil
    {c : Fin outputChannels} (unnamed : 2 ≤ (c : ℕ))
    (packets : List AudioPacket) :
    dealt c packets = [] := by
  have notNamed : streamSelector.contains c = false := by
    simp [streamSelector, MixerTrackSelector.contains]
    omega
  simp [dealt, share_unnamed notNamed]

/-- Without the channels of the selector nothing gets to the server. -/
theorem LinkSound.written_eq_nil {keeps : List F32 → List F32 → Prop}
    (sound : LinkSound keeps client s)
    (missing : ¬ client.sel.InRange inputChannels)
    (known : ∀ packet ∈ s.arrived, packet ∈ s.sent)
    (c : Fin outputChannels) :
    written c s.history = [] := by
  have unsent : s.sent = [] := by
    by_contra some
    exact missing (sound.sender.found some)
  have nothing : s.arrived = [] := by
    rw [List.eq_nil_iff_forall_not_mem]
    intro packet arrived
    have sent := known packet arrived
    rw [unsent] at sent
    cases sent
  have begun := (sound.received c).isPrefix
  rw [nothing] at begun
  exact List.prefix_nil.mp begun

/-- A selector with channels on the mixer has one on each side. -/
theorem channelOf_lt {sel : MixerTrackSelector}
    (inRange : sel.InRange inputChannels) (side : ℕ) :
    channelOf sel side < inputChannels := by
  cases sel with
  | mono c => exact inRange
  | stereo l r =>
      simp only [channelOf]
      split
      · exact inRange.1
      · exact inRange.2

/-! ### One frame on its way -/

/-- A frame is captured, sent, received and played on `l` and `r`. -/
def oneFrame (l r : Fin 2) : List (PathAction 2) :=
  [.capture [⟨1⟩, ⟨2⟩], .captureSample, .captureSample, .fill,
    .readSample, .readSample, .send .UNIX_EPOCH, .arrive 0,
    .receiver (.lockMixer ()), .receiver (.push ()),
    .receiver (.push ()), .receiver (.finish ()),
    .receiver (.playout l), .receiver (.playout r)]

/-- Two channels of one place each, at either end. -/
def silentLink : AudioLink 2 1 2 1 :=
  .start (emptyMixer F32 2 1 44100) (emptyMixer F32 2 1 44100)

section EndToEnd

variable {inputRate outputRate : ℕ}
variable {actions : List (PathAction outputChannels)}

/-- A network in order hands over a part of the packets sent, in order. -/
theorem arrived_inOrder {action : PathAction outputChannels}
    (slots : s.Slots) (inOrder : InOrder s action)
    (enabled : s.step client action = some next)
    (kept : s.arrived.Sublist (s.sent.take s.passed)) :
    next.arrived.Sublist (next.sent.take next.passed) := by
  cases AudioLink.step_move slots enabled with
  | packetArrived i packet there waiting =>
      have within : s.arrived.Sublist (s.sent.take i) :=
        kept.trans (List.take_sublist_take_left inOrder)
      simp only [List.take_add_one, there]
      exact within.append (List.Sublist.refl [packet])
  | packetSent timestamp cursor buf filled sized =>
      refine kept.trans ?_
      exact ((List.prefix_append _ _).take _).sublist
  | _ => exact kept

/-- A network that loses nothing hands over the packets sent. -/
theorem arrived_lossless {action : PathAction outputChannels}
    (slots : s.Slots) (spared : LosesNothing s action)
    (enabled : s.step client action = some next)
    (kept : s.arrived <+: s.sent ∧ s.arrived.length = s.passed) :
    next.arrived <+: next.sent ∧ next.arrived.length = next.passed := by
  cases AudioLink.step_move slots enabled with
  | packetArrived i packet there waiting =>
      have here : i = s.arrived.length := spared.trans kept.2.symm
      rcases kept with ⟨⟨later, sent⟩, counted⟩
      rw [← sent, here, List.getElem?_append_right (Nat.le_refl _),
        Nat.sub_self] at there
      cases later with
      | nil => cases there
      | cons first rest =>
          cases there
          refine ⟨⟨rest, ?_⟩, by simp [here]⟩
          rw [← sent, List.append_assoc]
          rfl
  | packetSent timestamp cursor buf filled sized =>
      exact ⟨kept.1.trans (List.prefix_append _ _), kept.2⟩
  | _ => exact kept

/-- Whatever the network does, it makes up no packets. -/
theorem arrived_sent {action : PathAction outputChannels}
    (slots : s.Slots) (enabled : s.step client action = some next)
    (known : ∀ packet ∈ s.arrived, packet ∈ s.sent) :
    ∀ packet ∈ next.arrived, packet ∈ next.sent := by
  cases AudioLink.step_move slots enabled with
  | packetArrived i packet there waiting =>
      intro other member
      rcases List.mem_append.mp member with before | now
      · exact known other before
      · rw [List.mem_singleton.mp now]
        exact List.mem_of_getElem? there
  | packetSent timestamp cursor buf filled sized =>
      exact fun packet member => List.mem_append_left _ (known packet member)
  | _ => exact known

/--
Over a network that loses packets but keeps them in order: what is played on
either of the first two channels was captured on the channel that the client's
selector has at this side, in order, with losses, and with silence in the
gaps.  On the other channels only silence is played, and on all of them if the
client's mixer does not have the channels of the selector.
-/
theorem played_conveys_captured
    (client : UdpClient)
    (run :
      GuardedRun (AudioLink.step client) InOrder
        (.start (emptyMixer F32 inputChannels inputSize inputRate)
          (emptyMixer F32 outputChannels outputSize outputRate))
        actions s)
    (c : Fin outputChannels) :
    (∀ source : Fin inputChannels,
        (c : ℕ) < 2 → channelOf client.sel c = source →
          Conveys Sample.EQUILIBRIUM (offered source s.input.history)
            (played c s.history)) ∧
      (2 ≤ (c : ℕ) ∨ ¬ client.sel.InRange inputChannels →
        played c s.history =
          List.replicate (played c s.history).length
            Sample.EQUILIBRIUM) := by
  have sound :
      LinkSound List.Sublist client s ∧
        s.arrived.Sublist (s.sent.take s.passed) := by
    refine
      @GuardedRun.preserves _ _ _ _
        (fun state =>
          LinkSound List.Sublist client state ∧
            state.arrived.Sublist (state.sent.take state.passed))
        ?_ _ _ _ run ?_
    · intro state next action inOrder enabled holds
      refine
        ⟨holds.1.step (fun stepped _ => Buffered.step stepped) enabled, ?_⟩
      exact
        arrived_inOrder holds.1.sender.slots inOrder enabled holds.2
    · exact ⟨.start (.refl _) _ _, .slnil⟩
  rcases sound with ⟨sound, ordered⟩
  have heardPlayed : Conveys _ _ (played c s.history) :=
    Buffered.conveys (sound.played c)
  constructor
  · intro source named here
    have captured :
        Conveys _ (offered source s.input.history)
          (heard source s.input.history) :=
      Buffered.conveys (sound.captured source)
    have sent :
        (columns c s.sent).Sublist (heard source s.input.history) :=
      (List.sublist_append_left _ _).trans
        (sound.sender.taken c named source here).1
    have arrived :
        (dealt c s.arrived).Sublist (columns c s.sent) := by
      rw [dealt_eq_columns named]
      exact (ordered.trans (List.take_sublist _ _)).flatMap _
    have offers :
        (written c s.history).Sublist (heard source s.input.history) :=
      ((sound.received c).isPrefix.sublist.trans arrived).trans sent
    exact captured.trans ((Conveys.ofSublist offers).trans heardPlayed)
  · intro silent
    have nothing : written c s.history = [] := by
      rcases silent with unnamed | missing
      · have begun := (sound.received c).isPrefix
        rw [dealt_eq_nil unnamed] at begun
        exact List.prefix_nil.mp begun
      · refine sound.written_eq_nil missing (fun packet arrived => ?_) c
        exact List.mem_of_mem_take (ordered.subset arrived)
    rw [nothing] at heardPlayed
    exact heardPlayed.heard_of_nothing

theorem played_conveys_captured_oneFrame :
    ∃ s : AudioLink 2 1 2 1,
      played 1 s.history = [⟨2⟩] ∧
        Conveys Sample.EQUILIBRIUM (offered 1 s.input.history)
          (played 1 s.history) := by
  have heard :
      (execute
          (allowing (AudioLink.step (stereoClient 1 (by decide))) InOrder)
          silentLink (oneFrame 0 1)).map (fun s => played 1 s.history) =
        some [⟨2⟩] := by
    decide +kernel
  rcases Option.map_eq_some_iff.mp heard with ⟨s, executed, same⟩
  exact
    ⟨s, same,
      (played_conveys_captured (stereoClient 1 (by decide))
        (.ofExecute executed) 1).1 1 (by decide) rfl⟩

/--
Where no ring refuses a sample and the network hands over every packet in its
turn, nothing is lost: on either side of a stream with two channels of its
own, what is played is a beginning of what was captured, with gaps.  Only
silence is played if the client's mixer does not have the two channels.
-/
theorem played_delays_captured
    {client : UdpClient} (twoSided : TwoSided client.sel)
    (run :
      GuardedRun (AudioLink.step client) LosesNothing
        (.start (emptyMixer F32 inputChannels inputSize inputRate)
          (emptyMixer F32 outputChannels outputSize outputRate))
        actions s)
    {c : Fin outputChannels} (named : (c : ℕ) < 2) :
    (∀ source : Fin inputChannels, channelOf client.sel c = source →
        Delays Sample.EQUILIBRIUM (offered source s.input.history)
          (played c s.history)) ∧
      (¬ client.sel.InRange inputChannels →
        played c s.history =
          List.replicate (played c s.history).length
            Sample.EQUILIBRIUM) := by
  have sound :
      LinkSound Eq client s ∧
        s.arrived <+: s.sent ∧ s.arrived.length = s.passed := by
    refine
      @GuardedRun.preserves _ _ _ _
        (fun state =>
          LinkSound Eq client state ∧
            state.arrived <+: state.sent ∧
              state.arrived.length = state.passed)
        ?_ _ _ _ run ?_
    · intro state next action spared enabled holds
      refine
        ⟨holds.1.step
          (fun stepped room => Unbroken.step stepped (room spared))
          enabled, ?_⟩
      exact arrived_lossless holds.1.sender.slots spared enabled holds.2
    · exact ⟨.start rfl _ _, List.prefix_refl _, rfl⟩
  rcases sound with ⟨sound, handed, _⟩
  have heardPlayed : Delays _ _ (played c s.history) :=
    Unbroken.delays (sound.played c)
  constructor
  · intro source here
    have captured :
        Delays _ (offered source s.input.history)
          (heard source s.input.history) :=
      Unbroken.delays (sound.captured source)
    have sent : columns c s.sent <+: heard source s.input.history :=
      ⟨_, (sound.sender.taken c named source here).2 twoSided⟩
    have arrived : dealt c s.arrived <+: columns c s.sent := by
      rcases handed with ⟨later, handedOver⟩
      rw [dealt_eq_columns named, ← handedOver, columns, columns,
        List.flatMap_append]
      exact List.prefix_append _ _
    have offers : written c s.history <+: heard source s.input.history :=
      ((sound.received c).isPrefix.trans arrived).trans sent
    exact captured.trans ((Delays.ofPrefix offers).trans heardPlayed)
  · intro missing
    rw [sound.written_eq_nil missing (fun _ => handed.mem) c]
      at heardPlayed
    exact heardPlayed.conveys.heard_of_nothing

theorem played_delays_captured_oneFrame :
    ∃ s : AudioLink 2 1 2 1,
      played 1 s.history = [⟨2⟩] ∧
        Delays Sample.EQUILIBRIUM (offered 1 s.input.history)
          (played 1 s.history) := by
  have heard :
      (execute
          (allowing (AudioLink.step (stereoClient 1 (by decide)))
            LosesNothing)
          silentLink (oneFrame 0 1)).map (fun s => played 1 s.history) =
        some [⟨2⟩] := by
    decide +kernel
  rcases Option.map_eq_some_iff.mp heard with ⟨s, executed, same⟩
  have sides : TwoSided (stereoClient 1 (by decide)).sel :=
    ⟨0, 1, rfl, by decide⟩
  exact
    ⟨s, same,
      (@played_delays_captured _ _ _ _ _ _ _ _ _ sides
        (.ofExecute executed) 1 (by decide)).1 1 rfl⟩

/--
Over any network, which may lose, delay, repeat and reorder packets, every
sample that is played was captured at its side of the stream, on a channel
that the client's mixer has, or is silence.
-/
theorem played_was_captured
    (client : UdpClient)
    (run :
      Run (AudioLink.step client)
        (.start (emptyMixer F32 inputChannels inputSize inputRate)
          (emptyMixer F32 outputChannels outputSize outputRate))
        actions s)
    {c : Fin outputChannels} {v : F32}
    (member : v ∈ played c s.history) :
    v = Sample.EQUILIBRIUM ∨
      (c : ℕ) < 2 ∧
        ∃ source : Fin inputChannels,
          channelOf client.sel c = source ∧
            v ∈ offered source s.input.history := by
  have sound :
      LinkSound List.Sublist client s ∧
        ∀ packet ∈ s.arrived, packet ∈ s.sent := by
    refine
      @GuardedRun.preserves _ _ _ _
        (fun state =>
          LinkSound List.Sublist client state ∧
            ∀ packet ∈ state.arrived, packet ∈ state.sent)
        ?_ _ _ _ run ?_
    · intro state next action _ enabled holds
      refine
        ⟨holds.1.step (fun stepped _ => Buffered.step stepped) enabled, ?_⟩
      exact arrived_sent holds.1.sender.slots enabled holds.2
    · exact ⟨.start (.refl _) _ _, fun _ never => nomatch never⟩
  rcases sound with ⟨sound, known⟩
  have heardPlayed :
      Conveys Sample.EQUILIBRIUM (written c s.history)
        (played c s.history) :=
    Buffered.conveys (sound.played c)
  rcases heardPlayed.heard_mem member with silence | offeredThere
  · exact .inl silence
  · have inPacket := (sound.received c).isPrefix.subset offeredThere
    by_cases named : (c : ℕ) < 2
    · rw [dealt_eq_columns named] at inPacket
      rcases List.mem_flatMap.mp inPacket with ⟨packet, arrived, there⟩
      have sent : v ∈ columns c s.sent :=
        List.mem_flatMap.mpr ⟨packet, known packet arrived, there⟩
      have inRange : client.sel.InRange inputChannels :=
        sound.sender.found (List.ne_nil_of_mem (known packet arrived))
      have inside := channelOf_lt inRange (c : ℕ)
      have read :=
        (sound.sender.taken c named ⟨_, inside⟩ rfl).1.subset
          (List.mem_append_left _ sent)
      have captured :
          Conveys Sample.EQUILIBRIUM
            (offered ⟨_, inside⟩ s.input.history)
            (heard ⟨_, inside⟩ s.input.history) :=
        Buffered.conveys (sound.captured _)
      rcases captured.heard_mem read with silence | there
      · exact .inl silence
      · exact .inr ⟨named, ⟨_, inside⟩, rfl, there⟩
    · rw [dealt_eq_nil (Nat.le_of_not_lt named)] at inPacket
      cases inPacket

theorem played_was_captured_oneFrame :
    ∃ s : AudioLink 2 1 2 1,
      played 1 s.history = [⟨2⟩] ∧
        ((⟨2⟩ : F32) = Sample.EQUILIBRIUM ∨
          ((1 : Fin 2) : ℕ) < 2 ∧
            ∃ source : Fin 2,
              channelOf (.stereo 0 1) 1 = source ∧
                ⟨2⟩ ∈ offered source s.input.history) := by
  have heard :
      (execute (AudioLink.step (stereoClient 1 (by decide)))
          silentLink (oneFrame 0 1)).map (fun s => played 1 s.history) =
        some [⟨2⟩] := by
    decide +kernel
  rcases Option.map_eq_some_iff.mp heard with ⟨s, executed, same⟩
  exact
    ⟨s, same,
      played_was_captured (stereoClient 1 (by decide))
        (execute_eq_some_iff.mp executed)
        (by rw [same]; exact List.mem_singleton_self _)⟩

end EndToEnd

end Audiopipe.Session.AudioFidelity
