import Audiopipe.Session.ClientLocks

/-!
# Stopping twice

The loop of a sender never takes a command out of its channel, which has one
place.  The first call of `TcpClient::stop` fills the place; the next one
waits for it and holds the shared handle meanwhile, so that every other call
waits as well.
-/

namespace Audiopipe.Session.StopCalls

open Audiopipe.Foundation.GuardedRuns
open Audiopipe.Mixing.TrackSelector
open Audiopipe.Mixing.RingTransfer
open Audiopipe.Streamer.PacketFormat
open Audiopipe.Streamer.Sender
open Audiopipe.Session.ClientTasks
open Audiopipe.Session.ClientTasks.Client
open Audiopipe.Session.ClientLocks

variable {channelCount bufferSize : ℕ}
variable {config : TcpClient} {s next : Client channelCount}
variable {action : Action channelCount bufferSize}

/-! ## The holder of the handle -/

/-- A call that sends its stop has the lock of the handle. -/
def CallsHold (s : Client channelCount) : Prop :=
  ∀ j k, s.stops j = some (.sendingStop k) → s.handleLock = some j

/-- What the end of a call makes of the calls. -/
theorem endStop_stops (config : TcpClient) (s : Client channelCount)
    (j : ℕ) :
    ∃ result,
      (result = .completed ∨ result = .panicked) ∧
        (s.endStop config j).stops =
          Function.update s.stops j (some result) := by
  unfold endStop
  split
  · split
    · exact ⟨.completed, .inl rfl, rfl⟩
    · exact ⟨.panicked, .inr rfl, rfl⟩
  · exact ⟨.completed, .inl rfl, rfl⟩

/-- What a step does to the calls, the handle and its lock. -/
inductive CallEffect (s : Client channelCount) :
    Action channelCount bufferSize → Client channelCount → Prop where
  | aside (action : Action channelCount bufferSize)
      (next : Client channelCount) (stops : next.stops = s.stops)
      (lock : next.handleLock = s.handleLock)
      (handle : s.handleLock ≠ none → next.handle = s.handle) :
      CallEffect s action next
  | called (j : ℕ) (fresh : s.stops j = none) (next : Client channelCount)
      (stops :
        next.stops = Function.update s.stops j (some .lockingHandle))
      (lock : next.handleLock = s.handleLock)
      (handle : next.handle = s.handle) :
      CallEffect s (.callStop j) next
  | locked (j k : ℕ) (free : s.handleLock = none)
      (next : Client channelCount)
      (stops :
        next.stops = Function.update s.stops j (some (.sendingStop k)))
      (lock : next.handleLock = some j) :
      CallEffect s (.lockHandle j) next
  | skipped (j : ℕ) (result : StopCall) (free : s.handleLock = none)
      (next : Client channelCount)
      (past : result = .completed ∨ result = .panicked)
      (stops : next.stops = Function.update s.stops j (some result))
      (lock : next.handleLock = none) :
      CallEffect s (.lockHandle j) next
  | sent (j k : ℕ) (result : StopCall)
      (calling : s.stops j = some (.sendingStop k))
      (room :
        ∀ client place,
          s.senders k ≠ some (.running client place true))
      (next : Client channelCount)
      (past : result = .completed ∨ result = .panicked)
      (stops : next.stops = Function.update s.stops j (some result))
      (lock : next.handleLock = none) :
      CallEffect s (.sendStop j) next

/-- Every enabled step has one of the effects. -/
theorem step_callEffect (enabled : Client.step config s action = some next) :
    CallEffect s action next := by
  cases action with
  | callStop j =>
      simp only [Client.step] at enabled
      split at enabled
      · next fresh =>
          split at enabled
          · cases enabled
          · cases enabled
            exact .called j fresh _ rfl rfl rfl
      · cases enabled
  | lockHandle j =>
      simp only [Client.step] at enabled
      split at enabled
      · next locking free =>
          split at enabled
          · next k handle =>
              cases enabled
              exact .locked j k free _ rfl rfl
          · cases enabled
            rcases endStop_stops config s j with ⟨result, past, stops⟩
            rcases endStop_frame config s j with ⟨_, _, _, lock, _⟩
            exact .skipped j result free _ past stops (lock.trans free)
      · cases enabled
  | sendStop j =>
      simp only [Client.step] at enabled
      split at enabled
      · next k calling =>
          split at enabled
          · next client place there =>
              cases enabled
              rcases endStop_stops config _ j with ⟨result, past, stops⟩
              rcases endStop_frame config _ j with ⟨_, _, _, lock, _⟩
              refine .sent j k result calling ?_ _ past stops lock
              intro client' place' full
              cases there.symm.trans full
          · cases enabled
          · next absent full =>
              cases enabled
              refine .sent j k .panicked calling ?_ _ (.inr rfl) rfl rfl
              exact full
      · cases enabled
  | storeHandle =>
      simp only [Client.step] at enabled
      split at enabled
      · next k storing free =>
          cases enabled
          exact .aside _ _ rfl rfl fun held => (held free).elim
      · cases enabled
  | takeHangUp | command | sender =>
      simp only [Client.step] at enabled
      split at enabled
      · split at enabled
        · cases enabled
          exact .aside _ _ rfl rfl fun _ => rfl
        · cases enabled
      · cases enabled
  | _ =>
      simp only [Client.step] at enabled
      split at enabled
      · cases enabled
        exact .aside _ _ rfl rfl fun _ => rfl
      · cases enabled

/-- Every step leaves the lock with the call that sends its stop. -/
theorem CallsHold.step (effect : CallEffect s action next)
    (calls : CallsHold s) :
    CallsHold next := by
  -- Without another call in its second await, whoever is there has the lock.
  have alone :
      s.handleLock = none → ∀ j k, s.stops j ≠ some (.sendingStop k) := by
    intro free j k calling
    cases (calls j k calling).symm.trans free
  intro j' k' calling
  cases effect with
  | aside action next stops lock handle =>
      rw [stops] at calling
      exact lock.trans (calls j' k' calling)
  | called j fresh next stops lock handle =>
      rw [stops] at calling
      by_cases same : j' = j
      · subst same
        simp at calling
      · rw [Function.update_of_ne same] at calling
        exact lock.trans (calls j' k' calling)
  | locked j k free next stops lock =>
      rw [stops] at calling
      by_cases same : j' = j
      · subst same
        exact lock
      · rw [Function.update_of_ne same] at calling
        exact (alone free j' k' calling).elim
  | skipped j result free next past stops lock =>
      rw [stops] at calling
      by_cases same : j' = j
      · subst same
        rw [Function.update_self] at calling
        rcases past with rfl | rfl <;> cases calling
      · rw [Function.update_of_ne same] at calling
        exact (alone free j' k' calling).elim
  | sent j k result here room next past stops lock =>
      rw [stops] at calling
      by_cases same : j' = j
      · subst same
        rw [Function.update_self] at calling
        rcases past with rfl | rfl <;> cases calling
      · rw [Function.update_of_ne same] at calling
        have held := calls j k here
        rw [calls j' k' calling] at held
        exact (same (Option.some.inj held)).elim

/-! ## The second call -/

/-- The sends of sender `k` succeed. -/
def SendsSucceed (k : ℕ) (_s : Client channelCount) :
    Action channelCount bufferSize → Prop
  | .sender j .sendFails => j ≠ k
  | _ => True

instance (k : ℕ) (s : Client channelCount)
    (action : Action channelCount bufferSize) :
    Decidable (SendsSucceed k s action) :=
  match action with
  | .sender j .sendFails => inferInstanceAs (Decidable (j ≠ k))
  | .sender _ .lockMixer | .sender _ .wake | .sender _ (.read _ _)
  | .sender _ .send | .client _ | .senderStarted | .storeHandle | .takeStop
  | .takeHangUp | .command | .hangUp | .callStop _ | .lockHandle _
  | .sendStop _ | .otherLock | .otherUnlock => isTrue trivial

/-- A stop waits in the channel of a sender, which goes on. -/
def Full (s : Client channelCount) (k : ℕ) : Prop :=
  ∃ client place, s.senders k = some (.running client place true)

/-- No step takes the stop out of the channel. -/
theorem Full.step {k : ℕ} (inRange : config.sel.InRange channelCount)
    (sound : Sound config s) (succeeds : SendsSucceed k s action)
    (effect : Effect config s action next) (full : Full s k) :
    Full next k := by
  rcases full with ⟨client, place, there⟩
  have selected := sound.selected k client place true there
  cases effect with
  | sender j action task task' lock here move =>
      by_cases same : k = j
      · subst same
        cases here.symm.trans there
        cases move with
        | locked | woken | filled | sent =>
            exact ⟨_, _, Function.update_self ..⟩
        | unresolved _ _ _ e resolved =>
            have found :=
              (getChannel_isOk_iff client.sel).mpr
                (selected ▸ inRange)
            rcases found with ⟨track, found⟩
            cases resolved.symm.trans found
        | failed => exact (succeeds rfl).elim
      · exact ⟨client, place, (Function.update_of_ne same ..).trans there⟩
  | started id bufsize sampleRate waiting =>
      have older : k ≠ s.started := by
        rintro rfl
        cases (sound.fresh s.started (Nat.le_refl _)).symm.trans there
      exact ⟨client, place, (Function.update_of_ne older ..).trans there⟩
  | queued j j' client' place' next here senders lock started =>
      have different : k ≠ j' := by
        rintro rfl
        cases here.symm.trans there
      rw [Full, senders, Function.update_of_ne different]
      exact ⟨client, place, there⟩
  | otherLocked free => exact ⟨client, place, there⟩
  | otherUnlocked held => exact ⟨client, place, there⟩
  | aside action next notSender senders lock started ended =>
      exact ⟨client, place, by rw [senders]; exact there⟩

/--
Call `j` waits for a place in the channel of sender `k` and has the lock of
the handle; since `s` no other call has got any further.
-/
structure Hangs (s next : Client channelCount) (j k : ℕ) : Prop where
  full : Full next k
  waits : next.stops j = some (.sendingStop k)
  locked : next.handleLock = some j
  handle : next.handle = s.handle
  others :
    ∀ other,
      next.stops other = s.stops other ∨
        s.stops other = none ∧ next.stops other = some .lockingHandle

/-- As long as the sender goes on, the call goes on waiting. -/
theorem Hangs.step {middle : Client channelCount} {j k : ℕ}
    (inRange : config.sel.InRange channelCount)
    (sound : Sound config middle) (calls : CallsHold middle)
    (succeeds : SendsSucceed k middle action)
    (enabled : Client.step config middle action = some next)
    (hangs : Hangs s middle j k) :
    Hangs s next j k := by
  have full := hangs.full.step inRange sound succeeds (step_effect enabled)
  have locked : middle.handleLock ≠ none := by
    rw [hangs.locked]
    exact Option.some_ne_none j
  cases step_callEffect enabled with
  | aside action next stops lock handle =>
      refine
        ⟨full, by rw [stops]; exact hangs.waits, lock.trans hangs.locked,
          (handle locked).trans hangs.handle, ?_⟩
      rw [stops]
      exact hangs.others
  | called i fresh next stops lock handle =>
      have different : j ≠ i := by
        rintro rfl
        cases fresh.symm.trans hangs.waits
      refine
        ⟨full, ?_, lock.trans hangs.locked, handle.trans hangs.handle,
          fun other => ?_⟩
      · rw [stops, Function.update_of_ne different]
        exact hangs.waits
      · rw [stops]
        by_cases same : other = i
        · subst same
          rw [Function.update_self]
          rcases hangs.others other with before | ⟨_, calling⟩
          · exact .inr ⟨before.symm.trans fresh, rfl⟩
          · cases fresh.symm.trans calling
        · rw [Function.update_of_ne same]
          exact hangs.others other
  | locked i k' free => exact (locked free).elim
  | skipped i result free => exact (locked free).elim
  | sent i k' result calling room =>
      have mine : j = i :=
        Option.some.inj (hangs.locked.symm.trans (calls i k' calling))
      subst mine
      cases hangs.waits.symm.trans calling
      rcases hangs.full with ⟨client, place, there⟩
      exact (room client place there).elim

/--
Once a stop has been sent to a sender, the next call that tries to send it
another one hangs for as long as the sends of the sender succeed: the sender
goes on, the call keeps the handle, and neither does another call get past it
nor can the client store another handle.
-/
theorem second_stop_hangs
    (inRange : config.sel.InRange channelCount)
    {before actions : List (Action channelCount bufferSize)}
    (reached : Run (Client.step config) (.start channelCount) before s)
    {j k : ℕ} {client : UdpClient} {place : SenderAwait channelCount}
    (sent : s.senders k = some (.running client place true))
    (second : s.stops j = some (.sendingStop k))
    (run :
      GuardedRun (Client.step config) (SendsSucceed k) s actions next) :
    Hangs s next j k := by
  have kept :
      ∀ {state later : Client channelCount}
        {action : Action channelCount bufferSize},
        Client.step config state action = some later →
          Sound config state ∧ CallsHold state →
            Sound config later ∧ CallsHold later :=
    fun enabled holds =>
      ⟨holds.1.step enabled, holds.2.step (step_callEffect enabled)⟩
  have holds : Sound config s ∧ CallsHold s := by
    refine
      @Reachable.preserves _ _ _
        (fun state => Sound config state ∧ CallsHold state) kept _ _
        ⟨before, reached⟩ ⟨.initially config, ?_⟩
    exact fun _ _ never => nomatch never
  have hangs :
      (Sound config next ∧ CallsHold next) ∧ Hangs s next j k := by
    refine
      @GuardedRun.preserves _ _ _ _
        (fun state =>
          (Sound config state ∧ CallsHold state) ∧ Hangs s state j k)
        ?_ _ _ _ run ⟨holds, ?_⟩
    · intro state later action succeeds enabled both
      exact
        ⟨kept enabled both.1,
          both.2.step inRange both.1.1 both.1.2 succeeds enabled⟩
    · exact
        ⟨⟨client, place, sent⟩, second, holds.2 j k second, rfl,
          fun _ => .inl rfl⟩
  exact hangs.2

/-- A stream is granted and stopped, and stopped again. -/
def stoppedTwice : List (Action 2 4) :=
  [.client .connected, .client (.response (.stream .nil 40000 1 44100)),
    .senderStarted, .storeHandle, .callStop 0, .lockHandle 0, .sendStop 0,
    .callStop 1, .lockHandle 1]

/-- A third call is made, and the sender sends its next packet. -/
def goesOnSending : List (Action 2 4) :=
  [.callStop 2, .sender 0 .lockMixer, .sender 0 .wake,
    .sender 0
      (.read (List.replicate 2 (emptyMixer F32 2 4 44100)) .UNIX_EPOCH),
    .sender 0 .send]

theorem second_stop_hangs_thirdCall :
    ∃ s next : Client 2,
      s.stops 0 = some .completed ∧ next.stops 2 = some .lockingHandle ∧
        Hangs s next 1 0 := by
  have executed :
      ∃ s next client place,
        execute (Client.step ⟨.stereo 0 1, true⟩) (Client.start 2)
            stoppedTwice = some s ∧
          s.senders 0 = some (.running client place true) ∧
          s.stops 0 = some .completed ∧
          s.stops 1 = some (.sendingStop 0) ∧
          execute
              (allowing (Client.step ⟨.stereo 0 1, true⟩) (SendsSucceed 0))
              s goesOnSending = some next ∧
          next.stops 2 = some .lockingHandle :=
    ⟨_, _, _, _, rfl, rfl, rfl, rfl, rfl, rfl⟩
  rcases executed with
    ⟨s, next, client, place, before, sent, first, second, after, third⟩
  exact
    ⟨s, next, first, third,
      second_stop_hangs (by decide) (execute_eq_some_iff.mp before) sent
        second (.ofExecute after)⟩

end Audiopipe.Session.StopCalls
