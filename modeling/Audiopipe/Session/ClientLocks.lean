import Audiopipe.Foundation.Locks
import Audiopipe.Session.ClientTasks

/-!
# What holds between the steps of a client

The lock of the input mixer is held by the sender that is in the protected
part of its loop, the lock of the shared handle by a call of `stop` that
waits for a place in a channel, and every sender has the selector of the
client.
-/

namespace Audiopipe.Session.ClientLocks

open Audiopipe.Foundation.GuardedRuns
open Audiopipe.Foundation.Locks
open Audiopipe.Streamer.PacketFormat
open Audiopipe.Streamer.Sender
open Audiopipe.Session.ClientTasks
open Audiopipe.Session.ClientTasks.Client

variable {channelCount bufferSize : ℕ}
variable {config : TcpClient} {s next : Client channelCount}

/-! ## All senders -/

/-- Every running sender has a property of its parameters and its place. -/
def Each (property : UdpClient → SenderAwait channelCount → Prop)
    (s : Client channelCount) : Prop :=
  ∀ k client place waiting,
    s.senders k = some (.running client place waiting) →
      property client place

/-- A property that the moves keep and that started senders have. -/
theorem Each.step
    {property : UdpClient → SenderAwait channelCount → Prop}
    (moves :
      ∀ {k : ℕ} {client client' : UdpClient}
        {place place' : SenderAwait channelCount}
        {waiting waiting' : Bool} {lock lock' : Option MixerHolder}
        {action : SenderAction channelCount bufferSize},
        SenderMove k (.running client place waiting) lock action
            (.running client' place' waiting') lock' →
          property client place → property client' place')
    (begins :
      ∀ client : UdpClient, client.sel = config.sel →
        property client .lockingMixer)
    {action : Action channelCount bufferSize}
    (effect : Effect config s action next) (each : Each property s) :
    Each property next := by
  cases effect with
  | sender k action task task' lock there move =>
      intro k' client' place' waiting' running
      by_cases same : k' = k
      · subst same
        simp only [Function.update_self, Option.some.injEq] at running
        subst running
        cases task with
        | running client place waiting =>
            exact moves move (each k' client place waiting there)
        | ended result => cases move
      · simp only [Function.update_of_ne same] at running
        exact each k' client' place' waiting' running
  | started id bufsize sampleRate waiting =>
      intro k client place waiting' running
      by_cases same : k = s.started
      · subst same
        simp only [Function.update_self, Option.some.injEq, newSender]
          at running
        split at running
        · cases running
          exact begins _ rfl
        · cases running
      · simp only [Function.update_of_ne same] at running
        exact each k client place waiting' running
  | queued j k client place next there senders lock started =>
      intro k' client' place' waiting running
      rw [senders] at running
      by_cases same : k' = k
      · subst same
        simp only [Function.update_self, Option.some.injEq] at running
        cases running
        exact each k' _ _ _ there
      · simp only [Function.update_of_ne same] at running
        exact each k' client' place' waiting running
  | otherLocked free => exact each
  | otherUnlocked held => exact each
  | aside action next notSender senders lock started ended =>
      intro k client place waiting running
      rw [senders] at running
      exact each k client place waiting running

/-! ## The locks -/

/-- Who is in a part of its code that the lock of the mixer protects. -/
def inside (s : Client channelCount) : MixerHolder → Bool
  | .sender k =>
      match s.senders k with
      | some task => task.holdsMixer
      | none => false
  | .other => s.mixerLock == some .other

/-- What holds between any two steps of a client. -/
structure Sound (config : TcpClient) (s : Client channelCount) :
    Prop where
  owned : LockOwned s.mixerLock (inside s)
  fresh : ∀ k, s.started ≤ k → s.senders k = none
  selected : Each (fun client _ => client.sel = config.sel) s
  calls :
    ∀ j, s.handleLock = some j → ∃ k, s.stops j = some (.sendingStop k)

/-- Who is inside depends on the holding tasks and the other holders. -/
theorem inside_congr
    (sameSenders : ∀ k, inside next (.sender k) = inside s (.sender k))
    (sameLock : next.mixerLock = s.mixerLock) :
    inside next = inside s := by
  ext owner
  cases owner with
  | sender k => exact sameSenders k
  | other =>
      simp only [inside]
      rw [sameLock]

/-- Steps keep the lock of the mixer with the task that is inside. -/
theorem Sound.owned_step
    (sound : Sound config s)
    {action : Action channelCount bufferSize}
    (effect : Effect config s action next) :
    LockOwned next.mixerLock (inside next) := by
  have owned := sound.owned
  cases effect with
  | sender k action task task' lock there move =>
      have before : inside s (.sender k) = task.holdsMixer := by
        simp only [inside, there]
      have after :
          ∀ {lock' : Option MixerHolder},
            (lock' == some .other) = (s.mixerLock == some .other) →
              inside
                  { s with
                    senders := Function.update s.senders k (some task')
                    mixerLock := lock' } =
                Function.update (inside s) (.sender k)
                  task'.holdsMixer := by
        intro lock' sameOther
        ext owner
        cases owner with
        | sender k' =>
            by_cases same : k' = k
            · subst same
              simp only [inside, Function.update_self]
            · have different :
                  MixerHolder.sender k' ≠ .sender k := by
                simpa using same
              simp only [inside, Function.update_of_ne same,
                Function.update_of_ne different]
        | other => simpa [inside] using sameOther
      rcases move.lock with
        ⟨free, rfl, holds⟩ | ⟨rfl, holds⟩ | ⟨held, rfl, holds⟩
      · rw [after (by rw [free]; rfl), holds]
        exact owned.acquired free (.sender k)
      · rw [after rfl, holds, ← before, Function.update_eq_self]
        exact owned
      · rw [held] at before
        have locked := (owned (.sender k)).mp before
        rw [after (by rw [locked]; rfl), holds]
        exact owned.released before
  | started id bufsize sampleRate waiting =>
      have same :
          inside
              { s with
                client := .waiting (.storing s.started)
                senders :=
                  Function.update s.senders s.started
                    (some (newSender config.sel id bufsize sampleRate))
                started := s.started + 1 } =
            inside s := by
        refine inside_congr ?_ rfl
        intro k
        by_cases here : k = s.started
        · subst here
          simp only [inside, Function.update_self,
            sound.fresh s.started (Nat.le_refl _), newSender]
          split
          · rfl
          · rfl
        · simp only [inside, Function.update_of_ne here]
      rw [same]
      exact owned
  | queued j k client place next there senders lock started =>
      have same : inside next = inside s := by
        apply inside_congr _ lock
        intro k'
        by_cases here : k' = k
        · subst here
          simp only [inside, senders, Function.update_self, there,
            SenderTask.holdsMixer]
        · simp only [inside, senders, Function.update_of_ne here]
      rw [same, lock]
      exact owned
  | otherLocked free =>
      have taken :
          inside { s with mixerLock := some .other } =
            Function.update (inside s) .other true := by
        ext owner
        cases owner with
        | sender k => rfl
        | other => rfl
      rw [taken]
      exact owned.acquired free .other
  | otherUnlocked held =>
      have holding : inside s .other = true := (owned .other).mpr held
      have given :
          inside { s with mixerLock := none } =
            Function.update (inside s) .other false := by
        ext owner
        cases owner with
        | sender k => rfl
        | other => rfl
      rw [given]
      exact owned.released holding
  | aside action next notSender senders lock started ended =>
      have same : inside next = inside s := by
        apply inside_congr _ lock
        intro k
        simp only [inside, senders]
      rw [same, lock]
      exact owned

/-- Sender numbers are given out in order. -/
theorem Sound.fresh_step
    (sound : Sound config s)
    {action : Action channelCount bufferSize}
    (effect : Effect config s action next) (k : ℕ)
    (above : next.started ≤ k) :
    next.senders k = none := by
  have fresh := sound.fresh
  cases effect with
  | sender k' action task task' lock there move =>
      have different : k ≠ k' := by
        rintro rfl
        rw [fresh k above] at there
        cases there
      exact (Function.update_of_ne different ..).trans (fresh k above)
  | started id bufsize sampleRate waiting =>
      have later : s.started < k := above
      exact
        (Function.update_of_ne (Nat.ne_of_gt later) ..).trans
          (fresh k (Nat.le_of_lt later))
  | queued j k' client place next there senders lock started =>
      rw [started] at above
      have different : k ≠ k' := by
        rintro rfl
        rw [fresh k above] at there
        cases there
      rw [senders, Function.update_of_ne different]
      exact fresh k above
  | otherLocked free => exact fresh k above
  | otherUnlocked held => exact fresh k above
  | aside action next notSender senders lock started ended =>
      rw [started] at above
      rw [senders]
      exact fresh k above

/-- The lock of the shared handle is held by a call that sends its stop. -/
theorem calls_step
    {action : Action channelCount bufferSize}
    (enabled : step config s action = some next)
    (calls :
      ∀ j, s.handleLock = some j → ∃ k, s.stops j = some (.sendingStop k))
    (j : ℕ) (held : next.handleLock = some j) :
    ∃ k, next.stops j = some (.sendingStop k) := by
  cases action with
  | callStop j' =>
      simp only [step] at enabled
      split at enabled
      · next absent =>
          split at enabled
          · cases enabled
          · cases enabled
            rcases calls j held with ⟨k, calling⟩
            have different : j ≠ j' := by
              rintro rfl
              rw [absent] at calling
              cases calling
            exact ⟨k, (Function.update_of_ne different ..).trans calling⟩
      · cases enabled
  | lockHandle j' =>
      simp only [step] at enabled
      split at enabled
      · next locking free =>
          split at enabled
          · next k handle =>
              cases enabled
              cases held
              exact ⟨k, Function.update_self ..⟩
          · cases enabled
            rcases endStop_frame config s j' with ⟨_, _, _, lock, _⟩
            rw [lock, free] at held
            cases held
      · cases enabled
  | sendStop j' =>
      simp only [step] at enabled
      split at enabled
      · split at enabled
        · cases enabled
          rcases endStop_frame config _ j' with ⟨_, _, _, lock, _⟩
          rw [lock] at held
          cases held
        · cases enabled
        · cases enabled
          cases held
      · cases enabled
  | takeHangUp | command | sender =>
      simp only [step] at enabled
      split at enabled
      · split at enabled
        · cases enabled
          exact calls j held
        · cases enabled
      · cases enabled
  | _ =>
      simp only [step] at enabled
      split at enabled
      · cases enabled
        exact calls j held
      · cases enabled

/-- Every step keeps the locks and the senders sound. -/
theorem Sound.step
    (sound : Sound config s)
    {action : Action channelCount bufferSize}
    (enabled : Client.step config s action = some next) :
    Sound config next where
  owned := sound.owned_step (step_effect enabled)
  fresh := sound.fresh_step (step_effect enabled)
  selected := by
    apply sound.selected.step _ _ (step_effect enabled)
    · intro k client client' place place' waiting waiting' lock lock'
        action move selected
      cases move with
      | locked _ _ lock free => exact selected
      | woken _ _ lock channels resolved => exact selected
      | filled _ _ lock channels seen timestamp packet => exact selected
      | sent _ _ lock packet => exact selected
    · intro client selected
      exact selected
  calls := calls_step enabled sound.calls

theorem Sound.initially (config : TcpClient) :
    Sound config (Client.start channelCount) where
  owned := by
    apply LockOwned.free
    intro owner
    cases owner with
    | sender k => rfl
    | other => rfl
  fresh := fun _ _ => rfl
  selected := by
    intro k client place waiting running
    cases running
  calls := by
    intro j held
    cases held

theorem Sound.run
    (sound : Sound config s)
    {actions : List (Action channelCount bufferSize)}
    (run : Run (Client.step config) s actions next) :
    Sound config next :=
  GuardedRun.preserves (fun _ enabled holds => holds.step enabled) run
    sound

end Audiopipe.Session.ClientLocks
