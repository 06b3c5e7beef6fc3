import Audiopipe.Foundation.EventTraces
import Audiopipe.Session.ClientLocks

/-!
# A stopped client

After `TcpClient::stop` has completed, and after the control connection has
ended, no sender of the client should send beyond the iteration it is in.
But a sender never looks into its command channel, and of several senders
only the last one has its handle stored.  So a running sender goes on for
good.  The client becomes quiet only where nothing can send in the first
place: all senders have ended by themselves and the task of the client starts
no more, or the selector names a channel that the input mixer does not have.
-/

namespace Audiopipe.Session.ClientStop

open Audiopipe.Foundation.GuardedRuns
open Audiopipe.Foundation.EventTraces
open Audiopipe.Foundation.Locks
open Audiopipe.Mixing.TrackSelector
open Audiopipe.Mixing.RingTransfer
open Audiopipe.Streamer.PacketFormat
open Audiopipe.Streamer.Sender
open Audiopipe.Control.Messages
open Audiopipe.Session.ClientTasks
open Audiopipe.Session.ClientTasks.Client
open Audiopipe.Session.ClientLocks

variable {channelCount bufferSize : ℕ}

/-! ## The property -/

/-- A datagram of sender `k`. -/
inductive Event where
  | sent (k : ℕ) (packet : AudioPacket)

def events (s : Client channelCount) :
    Action channelCount bufferSize → List Event
  | .sender k .send =>
      match s.senders k with
      | some (.running _ (.sending packet) _) => [.sent k packet]
      | _ => []
  | _ => []

def sentBy (k : ℕ) : Event → Bool
  | .sent k' _ => k' == k

/-- How many datagrams sender `k` sends. -/
def datagrams (bufferSize : ℕ) (config : TcpClient)
    (s : Client channelCount)
    (actions : List (Action channelCount bufferSize)) (k : ℕ) : ℕ :=
  (trace (step config) events s actions).countP (sentBy k)

/-- A call of `stop` has completed, or the connection has ended. -/
def Stopped (s : Client channelCount) : Prop :=
  (∃ j, s.stops j = some .completed) ∨
    ∃ result, s.client = .ended result

/-- From now on every sender sends at most the datagram it is about to. -/
def Quiet (bufferSize : ℕ) (config : TcpClient)
    (s : Client channelCount) : Prop :=
  ∀ (actions : List (Action channelCount bufferSize))
    (finish : Client channelCount),
    Run (step config) s actions finish →
      ∀ k, datagrams bufferSize config s actions k ≤ 1

/-- No sender runs, and none can be started any more. -/
def AllEnded (s : Client channelCount) : Prop :=
  (∃ result, s.client = .ended result) ∧
    ∀ k task, s.senders k = some task → ∃ result, task = .ended result

variable {config : TcpClient} {s next : Client channelCount}

/-- The datagrams of a run that goes on add up. -/
theorem datagrams_append
    {actions : List (Action channelCount bufferSize)}
    (run : Run (step config) s actions next)
    (later : List (Action channelCount bufferSize)) (k : ℕ) :
    datagrams bufferSize config s (actions ++ later) k =
      datagrams bufferSize config s actions k +
        datagrams bufferSize config next later k := by
  unfold datagrams
  rw [trace_append run, List.countP_append]

/-- A step that sends nothing does not count. -/
theorem datagrams_cons
    {action : Action channelCount bufferSize}
    (enabled : step config s action = some next)
    (nothing : events s action = [])
    (actions : List (Action channelCount bufferSize)) (k : ℕ) :
    datagrams bufferSize config s (action :: actions) k =
      datagrams bufferSize config next actions k := by
  unfold datagrams
  rw [trace_cons enabled, nothing, List.nil_append]

/-- What is quiet stays quiet. -/
theorem Quiet.later
    (quiet : Quiet bufferSize config s)
    {actions : List (Action channelCount bufferSize)}
    (run : Run (step config) s actions next) :
    Quiet bufferSize config next := by
  intro later finish continued k
  have total := quiet (actions ++ later) finish (run.append continued) k
  rw [datagrams_append run] at total
  exact Nat.le_trans (Nat.le_add_left _ _) total

/-! ## Where nothing is sent -/

/-- An invariant under which no step sends anything makes for quiet. -/
theorem quiet_of_silent
    {silent : Client channelCount → Prop}
    (keeps :
      ∀ {s next : Client channelCount}
        {action : Action channelCount bufferSize},
        Effect config s action next → silent s →
          events s action = [] ∧ silent next)
    (initially : silent s) :
    Quiet bufferSize config s := by
  intro actions finish run k
  have stepKeeps :
      ∀ {history : List Event} {s next : Client channelCount}
        {action : Action channelCount bufferSize},
        True → step config s action = some next →
          history = [] ∧ silent s →
            history ++ events s action = [] ∧ silent next := by
    rintro history s next action _ enabled ⟨rfl, holds⟩
    exact keeps (step_effect enabled) holds
  have nothing := (trace_preserves @stepKeeps run ⟨rfl, initially⟩).1
  rw [List.nil_append] at nothing
  unfold datagrams
  rw [nothing]
  exact Nat.zero_le 1

/-- Steps that are no steps of a sender send nothing. -/
theorem events_of_not_sender
    {action : Action channelCount bufferSize}
    (notSender : ∀ k action', action ≠ .sender k action') :
    events s action = [] := by
  cases action with
  | sender k action' => exact (notSender k action' rfl).elim
  | _ => rfl

/-- A client of which all is over stays so. -/
theorem AllEnded.silent
    {action : Action channelCount bufferSize}
    (effect : Effect config s action next) (ended : AllEnded s) :
    events s action = [] ∧ AllEnded next := by
  rcases ended with ⟨⟨result, clientEnded⟩, sendersEnded⟩
  cases effect with
  | sender k action task task' lock there move =>
      rcases sendersEnded k task there with ⟨result, rfl⟩
      cases move
  | started id bufsize sampleRate waiting =>
      cases clientEnded.symm.trans waiting
  | queued j k client place next there senders lock started =>
      rcases sendersEnded k _ there with ⟨result, equal⟩
      cases equal
  | otherLocked free => exact ⟨rfl, ⟨result, clientEnded⟩, sendersEnded⟩
  | otherUnlocked held => exact ⟨rfl, ⟨result, clientEnded⟩, sendersEnded⟩
  | aside action next notSender senders lock started ended =>
      refine ⟨events_of_not_sender notSender, ⟨result, ?_⟩, ?_⟩
      · exact (ended result clientEnded).trans clientEnded
      · rw [senders]
        exact sendersEnded

/-- A sender for `sel` that has not looked up its channels. -/
def BeforeLookup (sel : MixerTrackSelector) (client : UdpClient)
    (place : SenderAwait channelCount) : Prop :=
  client.sel = sel ∧ (place = .lockingMixer ∨ place = .sleeping)

/-- Without the channels of the selector, no sender gets beyond the lookup. -/
theorem BeforeLookup.silent
    (outOfRange : ¬ config.sel.InRange channelCount)
    {action : Action channelCount bufferSize}
    (effect : Effect config s action next)
    (stuck : Each (BeforeLookup config.sel) s) :
    events s action = [] ∧ Each (BeforeLookup config.sel) next := by
  constructor
  · cases effect with
    | sender k action task task' lock there move =>
        cases move with
        | sent client waiting lock packet =>
            rcases (stuck k _ _ _ there).2 with equal | equal
            · cases equal
            · cases equal
        | locked client waiting lock free => rfl
        | woken client waiting lock channels resolved => rfl
        | unresolved client waiting lock e resolved => rfl
        | filled client waiting lock channels seen timestamp packet => rfl
        | failed client waiting lock packet => rfl
    | started id bufsize sampleRate waiting => rfl
    | queued j k client place next there senders lock started => rfl
    | otherLocked free => rfl
    | otherUnlocked held => rfl
    | aside action next notSender senders lock started ended =>
        exact events_of_not_sender notSender
  · apply stuck.step _ _ effect
    · intro k client client' place place' waiting waiting' lock lock'
        action move before
      cases move with
      | locked _ _ lock free => exact ⟨before.1, .inr rfl⟩
      | woken _ _ lock channels resolved =>
          rw [before.1] at resolved
          exact
            (outOfRange
              ((getChannel_isOk_iff _).mp ⟨channels, resolved⟩)).elim
      | filled _ _ lock channels seen timestamp packet =>
          rcases before.2 with equal | equal
          · cases equal
          · cases equal
      | sent _ _ lock packet =>
          rcases before.2 with equal | equal
          · cases equal
          · cases equal
    · intro client selected
      exact ⟨selected, .inl rfl⟩

/-! ## Where a sender can go on -/

/-- What a run leads to that is not quiet was not quiet before. -/
theorem not_quiet_of_run
    {actions : List (Action channelCount bufferSize)}
    (run : Run (step config) s actions next)
    (loud : ¬ Quiet bufferSize config next) :
    ¬ Quiet bufferSize config s :=
  fun quiet => loud (quiet.later run)

/-- Sender `k` at the end of an iteration that it was in. -/
def iterated (s : Client channelCount) (k : ℕ) (client : UdpClient)
    (waiting : Bool) : Client channelCount :=
  { s with
    senders :=
      Function.update s.senders k
        (some (.running client .lockingMixer waiting))
    mixerLock := none }

/-- Sender `k` at another place of its iteration. -/
def placed (s : Client channelCount) (k : ℕ) (client : UdpClient)
    (place : SenderAwait channelCount) (waiting : Bool) :
    Client channelCount :=
  { s with
    senders :=
      Function.update s.senders k (some (.running client place waiting)) }

section Iterations

variable {k : ℕ} {client : UdpClient} {waiting : Bool}

@[simp]
theorem placed_senders (place : SenderAwait channelCount) :
    (placed s k client place waiting).senders k =
      some (.running client place waiting) :=
  Function.update_self ..

@[simp]
theorem iterated_placed (place : SenderAwait channelCount) :
    iterated (placed s k client place waiting) k client waiting =
      iterated s k client waiting := by
  simp only [iterated, placed, Function.update_idem]

/-- A sender that has its packet sends it. -/
theorem finishes_of_sending
    {packet : AudioPacket}
    (there :
      s.senders k = some (.running client (.sending packet) waiting)) :
    ∃ actions : List (Action channelCount bufferSize),
      Run (step config) s actions (iterated s k client waiting) ∧
        datagrams bufferSize config s actions k = 1 := by
  have sent :
      step config s (.sender k .send : Action channelCount bufferSize) =
        some (iterated s k client waiting) := by
    simp only [step, there, senderStep]
    rfl
  refine ⟨[.sender k .send], .next trivial sent (.done _), ?_⟩
  unfold datagrams
  rw [trace_cons sent]
  simp [events, there, trace, sentBy]

/-- A sender that has its channels reads them and sends. -/
theorem finishes_of_reading
    {channels : MixerTrack (Fin channelCount)}
    (there :
      s.senders k = some (.running client (.reading channels) waiting)) :
    ∃ actions : List (Action channelCount bufferSize),
      Run (step config) s actions (iterated s k client waiting) ∧
        datagrams bufferSize config s actions k = 1 := by
  let seen : List (Mixer F32 channelCount bufferSize) :=
    List.replicate (client.bufsize * client.sel.channelCount)
      (emptyMixer F32 channelCount bufferSize 0)
  have sized :
      seen.length = client.bufsize * client.sel.channelCount :=
    List.length_replicate
  let packet :=
    client.packet .UNIX_EPOCH
      ((readBuffer (.start channels channels.channelCount) seen).map
        Prod.snd)
      (by rw [List.length_map, length_readBuffer, sized])
  let filled := placed s k client (.sending packet) waiting
  have read :
      step config s
          (.sender k (.read seen .UNIX_EPOCH) :
            Action channelCount bufferSize) =
        some filled := by
    simp only [step, there, senderStep, sized, dif_pos]
    rfl
  rcases @finishes_of_sending _ bufferSize config filled k client waiting
      packet (placed_senders _) with
    ⟨actions, run, count⟩
  rw [iterated_placed] at run
  refine ⟨_ :: actions, .next trivial read run, ?_⟩
  rw [datagrams_cons read rfl]
  exact count

/-- A sender that sleeps wakes up, reads and sends. -/
theorem finishes_of_sleeping
    (inRange : client.sel.InRange channelCount)
    (there : s.senders k = some (.running client .sleeping waiting)) :
    ∃ actions : List (Action channelCount bufferSize),
      Run (step config) s actions (iterated s k client waiting) ∧
        datagrams bufferSize config s actions k = 1 := by
  rcases (getChannel_isOk_iff client.sel).mpr inRange with
    ⟨channels, resolved⟩
  let awake := placed s k client (.reading channels) waiting
  have woken :
      step config s (.sender k .wake : Action channelCount bufferSize) =
        some awake := by
    simp only [step, there, senderStep, resolved]
    rfl
  rcases @finishes_of_reading _ bufferSize config awake k client waiting
      channels (placed_senders _) with
    ⟨actions, run, count⟩
  rw [iterated_placed] at run
  refine ⟨_ :: actions, .next trivial woken run, ?_⟩
  rw [datagrams_cons woken rfl]
  exact count

/-- A sender that holds the lock sends and gives the lock back. -/
theorem finishes_of_holding
    (inRange : client.sel.InRange channelCount)
    {place : SenderAwait channelCount}
    (there : s.senders k = some (.running client place waiting))
    (holds : place.holdsMixer = true) :
    ∃ actions : List (Action channelCount bufferSize),
      Run (step config) s actions (iterated s k client waiting) ∧
        datagrams bufferSize config s actions k = 1 := by
  cases place with
  | lockingMixer => cases holds
  | sleeping => exact finishes_of_sleeping inRange there
  | reading channels => exact finishes_of_reading there
  | sending packet => exact finishes_of_sending there

/-- While the lock is free, a waiting sender can go round its loop. -/
theorem goes_round
    (inRange : client.sel.InRange channelCount)
    (free : s.mixerLock = none)
    (there : s.senders k = some (.running client .lockingMixer waiting)) :
    ∃ actions : List (Action channelCount bufferSize),
      Run (step config) s actions s ∧
        datagrams bufferSize config s actions k = 1 := by
  let asleep : Client channelCount :=
    { placed s k client .sleeping waiting with
      mixerLock := some (.sender k) }
  have locked :
      step config s
          (.sender k .lockMixer : Action channelCount bufferSize) =
        some asleep := by
    simp only [step, there, senderStep, free]
    rfl
  have sleeping :
      asleep.senders k = some (.running client .sleeping waiting) :=
    placed_senders _
  rcases @finishes_of_sleeping _ bufferSize config asleep k client waiting
      inRange sleeping with
    ⟨actions, run, count⟩
  have back : iterated asleep k client waiting = s := by
    simp only [iterated, asleep, placed, Function.update_idem, ← there,
      Function.update_eq_self, ← free]
  rw [back] at run
  refine ⟨_ :: actions, .next trivial locked run, ?_⟩
  rw [datagrams_cons locked rfl]
  exact count

/-- A sender that can go round its loop is not quiet. -/
theorem not_quiet_of_free
    (inRange : client.sel.InRange channelCount)
    (free : s.mixerLock = none)
    (there : s.senders k = some (.running client .lockingMixer waiting)) :
    ¬ Quiet bufferSize config s := by
  intro quiet
  rcases @goes_round _ bufferSize config _ _ _ _ inRange free there with
    ⟨actions, round, count⟩
  have twice := quiet (actions ++ actions) s (round.append round) k
  rw [datagrams_append round, count] at twice
  exact absurd twice (by decide)

/-- The lock of the mixer can be given back while a sender keeps running. -/
theorem frees_mixer
    (sound : Sound config s)
    (inRange : config.sel.InRange channelCount)
    {place : SenderAwait channelCount}
    (there : s.senders k = some (.running client place waiting)) :
    ∃ (actions : List (Action channelCount bufferSize))
      (next : Client channelCount),
      Run (step config) s actions next ∧
        next.mixerLock = none ∧
        next.senders k = some (.running client .lockingMixer waiting) := by
  have mine : inside s (.sender k) = place.holdsMixer := by
    simp only [inside, there]
    rfl
  have outside :
      s.mixerLock ≠ some (.sender k) → place = .lockingMixer := by
    intro notMine
    have notInside : inside s (.sender k) ≠ true := fun isInside =>
      notMine ((sound.owned (.sender k)).mp isInside)
    rw [mine] at notInside
    cases place with
    | lockingMixer => rfl
    | sleeping => exact (notInside rfl).elim
    | reading channels => exact (notInside rfl).elim
    | sending packet => exact (notInside rfl).elim
  cases lock : s.mixerLock with
  | none =>
      cases outside (by rw [lock]; simp)
      exact ⟨[], s, .done s, lock, there⟩
  | some holder =>
      cases holder with
      | other =>
          cases outside (by rw [lock]; simp)
          have unlocked :
              step config s
                  (.otherUnlock : Action channelCount bufferSize) =
                some { s with mixerLock := none } := by
            simp only [step, lock]
          exact
            ⟨[.otherUnlock], _, .next trivial unlocked (.done _), rfl,
              there⟩
      | sender k' =>
          have holding : inside s (.sender k') = true :=
            (sound.owned (.sender k')).mpr lock
          cases holder : s.senders k' with
          | none => simp [inside, holder] at holding
          | some task =>
              cases task with
              | ended result =>
                  simp [inside, holder, SenderTask.holdsMixer] at holding
              | running client' place' waiting' =>
                  have holds : place'.holdsMixer = true := by
                    simpa [inside, holder, SenderTask.holdsMixer]
                      using holding
                  have selected :=
                    sound.selected k' client' place' waiting' holder
                  rcases
                      @finishes_of_holding _ bufferSize config s k' client'
                        waiting' (by rw [selected]; exact inRange) place'
                        holder holds with
                    ⟨actions, run, _⟩
                  refine ⟨actions, _, run, rfl, ?_⟩
                  by_cases same : k' = k
                  · subst same
                    cases there.symm.trans holder
                    exact Function.update_self ..
                  · cases outside (by rw [lock]; simpa using same)
                    exact
                      (Function.update_of_ne (Ne.symm same) ..).trans there

/-- A client with a running sender is not quiet. -/
theorem not_quiet_of_running
    (sound : Sound config s)
    (inRange : config.sel.InRange channelCount)
    {place : SenderAwait channelCount}
    (there : s.senders k = some (.running client place waiting)) :
    ¬ Quiet bufferSize config s := by
  have selected := sound.selected k client place waiting there
  rcases @frees_mixer _ bufferSize _ _ _ _ _ sound inRange _ there with
    ⟨actions, next, run, free, stillThere⟩
  rw [← selected] at inRange
  exact not_quiet_of_run run (not_quiet_of_free inRange free stillThere)

end Iterations

/-! ## Where a sender can be started -/

/-- The next response can be a stream, and its sender is started. -/
theorem not_quiet_of_reading
    (sound : Sound config s)
    (inRange : config.sel.InRange channelCount)
    (reading : s.client = .waiting .reading) :
    ¬ Quiet bufferSize config s := by
  let granted : Client channelCount :=
    { s with client := .waiting (.callback .nil 1 44100) }
  let begun : Client channelCount :=
    { granted with
      client := .waiting (.storing s.started)
      senders :=
        Function.update s.senders s.started
          (some (newSender config.sel .nil 1 44100))
      started := s.started + 1 }
  have answered :
      step config s
          (.client (.response (.stream .nil 0 1 44100)) :
            Action channelCount bufferSize) =
        some granted := by
    simp only [step, reading, clientStep]
    rfl
  have started :
      step config granted
          (.senderStarted : Action channelCount bufferSize) =
        some begun :=
    rfl
  have run :
      Run (step config) s
        [(.client (.response (.stream .nil 0 1 44100)) :
            Action channelCount bufferSize), .senderStarted] begun :=
    .next trivial answered (.next trivial started (.done _))
  have allocated : 4 * (1 * config.sel.channelCount) < 2 ^ 63 := by
    cases config.sel with
    | mono c =>
        change 4 * (1 * 1) < 2 ^ 63
        decide
    | stereo l r =>
        change 4 * (1 * 2) < 2 ^ 63
        decide
  have there :
      begun.senders s.started =
        some
          (.running
            { bufsize := 1
              sampleRate := UInt64.ofNat 44100
              connectionId := .nil
              sel := config.sel
              allocated := allocated }
            .lockingMixer false) := by
    simp only [begun, Function.update_self, newSender, dif_pos allocated]
  exact
    not_quiet_of_run run
      (not_quiet_of_running (sound.run run) inRange there)

/-- With the lock of the handle free, the client comes to its next read. -/
theorem not_quiet_of_storing_free
    (sound : Sound config s)
    (inRange : config.sel.InRange channelCount)
    {k : ℕ} (storing : s.client = .waiting (.storing k))
    (free : s.handleLock = none) :
    ¬ Quiet bufferSize config s := by
  have stored :
      step config s (.storeHandle : Action channelCount bufferSize) =
        some { s with client := .waiting .reading, handle := some k } := by
    simp only [step, storing, free]
  exact
    not_quiet_of_run (.next trivial stored (.done _))
      (not_quiet_of_reading (sound.step stored) inRange rfl)

/-- The handle of a started sender can be stored, for its lock comes free. -/
theorem not_quiet_of_storing
    (sound : Sound config s)
    (inRange : config.sel.InRange channelCount)
    {k : ℕ} (storing : s.client = .waiting (.storing k)) :
    ¬ Quiet bufferSize config s := by
  cases lock : s.handleLock with
  | none => exact not_quiet_of_storing_free sound inRange storing lock
  | some j =>
      rcases sound.calls j lock with ⟨k', calling⟩
      let failed : Client channelCount :=
        { s.stopReturned j .panicked with handleLock := none }
      have fails :
          step config s (.sendStop j : Action channelCount bufferSize) =
              some failed →
            ¬ Quiet bufferSize config s := by
        intro failing
        exact
          not_quiet_of_run (.next trivial failing (.done _))
            (not_quiet_of_storing_free (sound.step failing) inRange storing
              rfl)
      cases there : s.senders k' with
      | none =>
          apply fails
          simp only [step, calling, there]
          rfl
      | some task =>
          cases task with
          | ended result =>
              apply fails
              simp only [step, calling, there]
              rfl
          | running client place waiting =>
              exact not_quiet_of_running sound inRange there

/-- A client whose task has not ended is not quiet. -/
theorem not_quiet_of_waiting
    (sound : Sound config s)
    (inRange : config.sel.InRange channelCount)
    {place : ClientAwait} (waiting : s.client = .waiting place) :
    ¬ Quiet bufferSize config s := by
  cases place with
  | connecting =>
      have connected :
          step config s
              (.client .connected : Action channelCount bufferSize) =
            some { s with client := .waiting .reading } := by
        simp only [step, waiting, clientStep]
      exact
        not_quiet_of_run (.next trivial connected (.done _))
          (not_quiet_of_reading (sound.step connected) inRange rfl)
  | reading => exact not_quiet_of_reading sound inRange waiting
  | callback id bufsize sampleRate =>
      let begun : Client channelCount :=
        { s with
          client := .waiting (.storing s.started)
          senders :=
            Function.update s.senders s.started
              (some (newSender config.sel id bufsize sampleRate))
          started := s.started + 1 }
      have started :
          step config s
              (.senderStarted : Action channelCount bufferSize) =
            some begun := by
        simp only [step, waiting]
        rfl
      have storing : begun.client = .waiting (.storing s.started) := rfl
      exact
        not_quiet_of_run (.next trivial started (.done _))
          (not_quiet_of_storing (sound.step started) inRange storing)
  | storing k => exact not_quiet_of_storing sound inRange waiting

/-! ## When a client is quiet -/

/-- A reachable client is quiet where nothing can send. -/
theorem quiet_iff
    {actions : List (Action channelCount bufferSize)}
    (run : Run (step config) (Client.start channelCount) actions s) :
    Quiet bufferSize config s ↔
      ¬ config.sel.InRange channelCount ∨ AllEnded s := by
  have sound : Sound config s := (Sound.initially config).run run
  constructor
  · intro quiet
    by_cases inRange : config.sel.InRange channelCount
    · right
      constructor
      · cases client : s.client with
        | ended result => exact ⟨result, rfl⟩
        | waiting place =>
            exact (not_quiet_of_waiting sound inRange client quiet).elim
      · intro k task there
        cases task with
        | ended result => exact ⟨result, rfl⟩
        | running client place waiting =>
            exact (not_quiet_of_running sound inRange there quiet).elim
    · exact .inl inRange
  · rintro (outOfRange | ended)
    · have keeps :
          ∀ {s next : Client channelCount}
            {action : Action channelCount bufferSize},
            True → step config s action = some next →
              Each (BeforeLookup config.sel) s →
                Each (BeforeLookup config.sel) next := by
        intro s next action _ enabled stuck
        exact
          (BeforeLookup.silent outOfRange (step_effect enabled) stuck).2
      have stuck : Each (BeforeLookup config.sel) s := by
        apply GuardedRun.preserves @keeps run
        intro k client place waiting running
        cases running
      exact
        quiet_of_silent (fun effect => BeforeLookup.silent outOfRange effect)
          stuck
    · exact quiet_of_silent (fun effect => AllEnded.silent effect) ended

/--
For every run of a client and every moment at which a call of `stop` has
completed or the control connection has ended: that from then on no sender
sends beyond the iteration it is in is the case exactly when nothing can send
at that moment anyway, because the input mixer does not have the channels of
the selector, or because the task of the client and all senders are over.
-/
theorem stopped_client_quiet_iff
    (config : TcpClient) {channelCount bufferSize : ℕ}
    {actions : List (Action channelCount bufferSize)}
    {s : Client channelCount}
    (run : Run (step config) (Client.start channelCount) actions s) :
    (Stopped s → Quiet bufferSize config s) ↔
      (Stopped s → ¬ config.sel.InRange channelCount ∨ AllEnded s) :=
  imp_congr_right fun _ => quiet_iff run

/-- A stereo client as `init_sender` makes it. -/
def stereo : TcpClient where
  sel := .stereo 0 1
  ownsChannel := true

/-- A client that the server has refused. -/
theorem stopped_client_quiet_iff_refused :
    ∃ s : Client 2,
      Run (step stereo) (Client.start 2)
          ([.client .connected,
            .client (.response (.error .generalError))] :
              List (Action 2 4)) s ∧
        Stopped s ∧ Quiet 4 stereo s := by
  have executed :
      ∃ s : Client 2,
        execute (step stereo) (Client.start 2)
            ([.client .connected,
              .client (.response (.error .generalError))] :
                List (Action 2 4)) =
          some s ∧
        s.client = .ended .closed ∧ s.senders = fun _ => none :=
    ⟨_, rfl, rfl, rfl⟩
  rcases executed with ⟨s, executed, ended, senders⟩
  have run := execute_eq_some_iff.mp executed
  have stopped : Stopped s := .inr ⟨_, ended⟩
  refine ⟨s, run, stopped, ?_⟩
  apply (stopped_client_quiet_iff stereo run).mpr _ stopped
  intro _
  refine .inr ⟨⟨_, ended⟩, ?_⟩
  intro k task there
  rw [senders] at there
  cases there

/-- One stream is granted, and `stop` runs to its end. -/
def stopCompleted : List (Action 2 4) :=
  [.client .connected, .client (.response (.stream .nil 40000 1 44100)),
    .senderStarted, .storeHandle, .callStop 0, .lockHandle 0, .sendStop 0,
    .takeStop]

/-- One iteration of the first sender. -/
def oneRound : List (Action 2 4) :=
  [.sender 0 .lockMixer, .sender 0 .wake,
    .sender 0
      (.read (List.replicate 2 (emptyMixer F32 2 4 44100)) .UNIX_EPOCH),
    .sender 0 .send]

/-- The sender goes on after `stop` has completed and the task has ended. -/
theorem stop_ignored :
    ∃ s finish,
      Run (step stereo) (Client.start 2) stopCompleted s ∧
        s.stops 0 = some .completed ∧ s.client = .ended .stopped ∧
        Run (step stereo) s (oneRound ++ oneRound) finish ∧
        datagrams 4 stereo s (oneRound ++ oneRound) 0 = 2 := by
  have executed :
      ∃ s finish,
        execute (step stereo) (Client.start 2) stopCompleted = some s ∧
          s.stops 0 = some .completed ∧ s.client = .ended .stopped ∧
          execute (step stereo) s (oneRound ++ oneRound) = some finish ∧
          datagrams 4 stereo s (oneRound ++ oneRound) 0 = 2 :=
    ⟨_, _, rfl, rfl, rfl, rfl, rfl⟩
  rcases executed with
    ⟨s, finish, before, completed, ended, after, count⟩
  exact
    ⟨s, finish, execute_eq_some_iff.mp before, completed, ended,
      execute_eq_some_iff.mp after, count⟩

end Audiopipe.Session.ClientStop
