import Audiopipe.Control.LockOrder

/-!
# The server does not deadlock

The server together with the locks of the rings.  A receiver that plays a
packet asks for the lock of one ring after another, pushes a sample while it
holds it, and gives it back; there is no await in between, so a `Stop` finds
it asking or between two samples.  A task waits for a lock because of the
task that holds it, and for the place of a `Stop` because of whoever is taken
to block it.
-/

namespace Audiopipe.Control.DeadlockFreedom

open Audiopipe.Foundation.GuardedRuns
open Audiopipe.Foundation.Locks
open Audiopipe.Mixing.TrackSelector
open Audiopipe.Streamer.PacketFormat
open Audiopipe.Control.ServerTasks
open Audiopipe.Control.HandleOwnership
open Audiopipe.Control.RequestLedger
open Audiopipe.Control.LockOrder

/-! ## The server with its rings -/

/-- What a receiver does with the lock of a ring. -/
inductive RingUse where
  | idle
  | asking (c : ℕ)
  | holding (c : ℕ)
deriving DecidableEq

def RingUse.isHolding : RingUse → Bool
  | .holding _ => true
  | _ => false

/-- The server, what its receivers do with rings, and who holds the rings. -/
structure System where
  server : Server
  rings : ℕ → RingUse
  ringLocks : ℕ → Option ℕ

/-- A step of the server, or of a receiver with a ring. -/
inductive SystemAction where
  | server (action : Action)
  | askRing (h c : ℕ)
  | lockRing (h : ℕ)
  | releaseRing (h : ℕ)
deriving DecidableEq

namespace System

def start (bufferSize sampleRate : ℕ) : System where
  server := .start bufferSize sampleRate
  rings := fun _ => .idle
  ringLocks := fun _ => none

/-- A receiver ends its packet between two samples, and is stopped there or
while it waits for a ring. -/
def allows (s : System) : Action → Bool
  | .played h _ => s.rings h = .idle
  | .takeStop h => !(s.rings h).isHolding
  | _ => true

/-- A receiver that is stopped waits for no ring any more. -/
def ringsAfter (s : System) : Action → ℕ → RingUse
  | .takeStop h => Function.update s.rings h .idle
  | _ => s.rings

def stepServer (s : System) (action : Action) : Option System :=
  if s.allows action then
    (s.server.step action).map fun next =>
      { s with server := next, rings := s.ringsAfter action }
  else
    none

/-- The next sample of a packet goes to a channel of the selector. -/
def stepAskRing (s : System) (h c : ℕ) : Option System :=
  match s.server.receivers h with
  | some receiver =>
      if receiver.phase = .playing ∧ s.rings h = .idle ∧
          receiver.sel.contains c = true then
        some { s with rings := Function.update s.rings h (.asking c) }
      else
        none
  | none => none

def stepLockRing (s : System) (h : ℕ) : Option System :=
  match s.rings h with
  | .asking c =>
      if s.ringLocks c = none then
        some
          { s with
            rings := Function.update s.rings h (.holding c)
            ringLocks := Function.update s.ringLocks c (some h) }
      else
        none
  | _ => none

def stepReleaseRing (s : System) (h : ℕ) : Option System :=
  match s.rings h with
  | .holding c =>
      some
        { s with
          rings := Function.update s.rings h .idle
          ringLocks := Function.update s.ringLocks c none }
  | _ => none

def step (s : System) : SystemAction → Option System
  | .server action => s.stepServer action
  | .askRing h c => s.stepAskRing h c
  | .lockRing h => s.stepLockRing h
  | .releaseRing h => s.stepReleaseRing h

end System

/-- The steps of the system, one rule for each. -/
inductive SystemMove (s : System) : SystemAction → System → Prop where
  | server {action : Action} {next : Server}
      (allowed : s.allows action = true)
      (enabled : s.server.step action = some next) :
      SystemMove s (.server action)
        { s with server := next, rings := s.ringsAfter action }
  | askRing {h c : ℕ} {receiver : ReceiverTask}
      (there : s.server.receivers h = some receiver)
      (playing : receiver.phase = .playing) (idle : s.rings h = .idle) :
      SystemMove s (.askRing h c)
        { s with rings := Function.update s.rings h (.asking c) }
  | lockRing {h c : ℕ} (asking : s.rings h = .asking c)
      (free : s.ringLocks c = none) :
      SystemMove s (.lockRing h)
        { s with
          rings := Function.update s.rings h (.holding c)
          ringLocks := Function.update s.ringLocks c (some h) }
  | releaseRing {h c : ℕ} (holding : s.rings h = .holding c) :
      SystemMove s (.releaseRing h)
        { s with
          rings := Function.update s.rings h .idle
          ringLocks := Function.update s.ringLocks c none }

theorem System.step_move
    {s next : System} {action : SystemAction}
    (enabled : s.step action = some next) :
    SystemMove s action next := by
  cases action with
  | server action =>
      simp only [step, stepServer] at enabled
      split at enabled
      · next allowed =>
          rcases Option.map_eq_some_iff.mp enabled with
            ⟨later, stepped, rfl⟩
          exact .server allowed stepped
      · cases enabled
  | askRing h c =>
      simp only [step, stepAskRing] at enabled
      split at enabled
      · next there =>
          split at enabled
          · next ready =>
              cases enabled
              exact .askRing there ready.1 ready.2.1
          · cases enabled
      · cases enabled
  | lockRing h =>
      simp only [step, stepLockRing] at enabled
      split at enabled
      · next asking =>
          split at enabled
          · next free =>
              cases enabled
              exact .lockRing asking free
          · cases enabled
      · cases enabled
  | releaseRing h =>
      simp only [step, stepReleaseRing] at enabled
      split at enabled
      · next holding =>
          cases enabled
          exact .releaseRing holding
      · cases enabled

/-- The server takes part in a run of the system with a run of its own. -/
def serverAction : SystemAction → Option Action
  | .server action => some action
  | _ => none

theorem server_run
    {bufferSize sampleRate : ℕ} {actions : List SystemAction} {s : System}
    (run : Run System.step (.start bufferSize sampleRate) actions s) :
    Run Server.step (.start bufferSize sampleRate)
      (actions.filterMap serverAction) s.server := by
  refine GuardedRun.project System.server serverAction ?_ ?_ run
  · intro state next action action' enabled taken
    cases System.step_move enabled with
    | server allowed stepped =>
        cases taken
        exact stepped
    | askRing there playing idle => cases taken
    | lockRing asking free => cases taken
    | releaseRing holding => cases taken
  · intro state next action enabled alone
    cases System.step_move enabled with
    | server allowed stepped => cases alone
    | askRing there playing idle => rfl
    | lockRing asking free => rfl
    | releaseRing holding => rfl

/-! ## Rings are used under the mixer lock -/

/-- The receivers that hold ring `c`. -/
def insideRing (s : System) (c h : ℕ) : Bool :=
  s.rings h = .holding c

/--
Every ring lock is held by the receiver that uses the ring, and a receiver
that asks for a ring or holds one is playing.
-/
structure RingsOwned (s : System) : Prop where
  owned : ∀ c, LockOwned (s.ringLocks c) (insideRing s c)
  playing :
    ∀ h, s.rings h ≠ .idle → insideMixer s.server (.receiver h) = true

theorem insideRing_update
    {s next : System} {h : ℕ} {use : RingUse}
    (rings : next.rings = Function.update s.rings h use) (c : ℕ) :
    insideRing next c =
      Function.update (insideRing s c) h (use = .holding c) := by
  ext other
  by_cases here : other = h
  · subst here
    simp [insideRing, rings]
  · simp [insideRing, rings, here]

/-- A receiver that neither held the ring nor holds it now. -/
theorem insideRing_same
    {s next : System} {h : ℕ} {use : RingUse}
    (rings : next.rings = Function.update s.rings h use) {c : ℕ}
    (before : s.rings h ≠ .holding c) (after : use ≠ .holding c) :
    insideRing next c = insideRing s c := by
  rw [insideRing_update rings c]
  simp [insideRing, before, after]

/-- A playing receiver goes on until its packet ends or it is stopped. -/
theorem playing_kept
    {s next : Server} {action : Action} (move : Move s action next)
    {h : ℕ} (playing : insideMixer s (.receiver h) = true)
    (notPlayed : ∀ accepted, action ≠ .played h accepted)
    (notStopped : action ≠ .takeStop h) :
    insideMixer next (.receiver h) = true := by
  have moved :
      ∀ {other : ℕ} {before after : ReceiverTask},
        next.connections = s.connections →
          next.receivers = Function.update s.receivers other (some after) →
          s.receivers other = some before →
            (h = other → before.phase = .playing →
              after.phase = .playing) →
              insideMixer next (.receiver h) = true := by
    intro other before after connections receivers there keeps
    rw [insideMixer_receiver connections receivers]
    by_cases here : h = other
    · subst here
      have phase : before.phase = .playing := by
        simpa [insideMixer, there] using playing
      simp [keeps rfl phase]
    · have different : MixerOwner.receiver h ≠ .receiver other :=
        fun equal => here (MixerOwner.receiver.inj equal)
      rw [Function.update_of_ne different]
      exact playing
  cases move with
  | @callbackOk k other port c id sel here calling unused =>
      have different : h ≠ other := by
        rintro rfl
        simp [insideMixer, unused] at playing
      simpa [insideMixer, Server.setConnection, Server.setReceiver,
        different] using playing
  | @stopSent k other c id receiver here stopping there running room =>
      by_cases same : h = other
      · subst same
        simpa [insideMixer, Server.setConnection, Server.setReceiver,
          there] using playing
      · simpa [insideMixer, Server.setConnection, Server.setReceiver,
          same] using playing
  | datagram there receiving =>
      refine moved rfl rfl there fun _ phase => ?_
      rw [receiving] at phase
      cases phase
  | receiverLock there waiting free =>
      exact moved rfl rfl there fun _ _ => rfl
  | @played other accepted receiver there playing' =>
      refine moved rfl rfl there fun same _ => ?_
      exact (notPlayed accepted (by rw [same])).elim
  | @takeStop other receiver there running waiting =>
      refine moved rfl rfl there fun same _ => ?_
      exact (notStopped (by rw [same])).elim
  | _ => exact playing

theorem RingsOwned.step
    {s next : System} {action : SystemAction}
    (enabled : s.step action = some next) (owned : RingsOwned s) :
    RingsOwned next := by
  cases System.step_move enabled with
  | @server action later allowed stepped =>
      have move := Server.step_move stepped
      by_cases stops : ∃ h, action = .takeStop h
      · rcases stops with ⟨h, rfl⟩
        have notHolding : ∀ c, s.rings h ≠ .holding c := by
          intro c holding
          simp [System.allows, holding, RingUse.isHolding] at allowed
        constructor
        · intro c
          rw [@insideRing_same s
            { s with server := later, rings := s.ringsAfter (.takeStop h) }
            h .idle rfl c (notHolding c) (by simp)]
          exact owned.owned c
        · intro other busy
          have different : other ≠ h := by
            rintro rfl
            simp [System.ringsAfter] at busy
          have before : s.rings other ≠ .idle := by
            simpa [System.ringsAfter, different] using busy
          refine
            playing_kept move (owned.playing other before)
              (fun _ equal => by cases equal) ?_
          intro equal
          exact different (Action.takeStop.inj equal).symm
      · have sameRings : s.ringsAfter action = s.rings := by
          cases action with
          | takeStop h => exact (stops ⟨h, rfl⟩).elim
          | _ => rfl
        rw [sameRings]
        constructor
        · exact owned.owned
        · intro other busy
          refine playing_kept move (owned.playing other busy) ?_ ?_
          · rintro accepted rfl
            simp only [System.allows, decide_eq_true_eq] at allowed
            exact busy allowed
          · rintro rfl
            exact stops ⟨other, rfl⟩
  | @askRing h c receiver there playing idle =>
      constructor
      · intro other
        rw [@insideRing_same s
          { s with rings := Function.update s.rings h (.asking c) } h
          (.asking c) rfl other (by simp [idle]) (by simp)]
        exact owned.owned other
      · intro other busy
        by_cases same : other = h
        · subst same
          simp [insideMixer, there, playing]
        · have before : s.rings other ≠ .idle := by
            simpa [same] using busy
          exact owned.playing other before
  | @lockRing h c asking free =>
      have inside :=
        @insideRing_update s
          { s with
            rings := Function.update s.rings h (.holding c)
            ringLocks := Function.update s.ringLocks c (some h) }
          h (.holding c) rfl
      constructor
      · intro other
        rw [inside other]
        by_cases same : other = c
        · subst same
          simp only [Function.update_self, decide_true]
          exact (owned.owned other).acquired free h
        · have notHeld :
              ((RingUse.holding c = .holding other : Bool)) =
                insideRing s other h := by
            simp [insideRing, asking, Ne.symm same]
          rw [notHeld, Function.update_eq_self]
          simp only [Function.update_of_ne same]
          exact owned.owned other
      · intro other busy
        by_cases here : other = h
        · subst here
          exact owned.playing other (by rw [asking]; simp)
        · have before : s.rings other ≠ .idle := by
            simpa [here] using busy
          exact owned.playing other before
  | @releaseRing h c holding =>
      have inside :=
        @insideRing_update s
          { s with
            rings := Function.update s.rings h .idle
            ringLocks := Function.update s.ringLocks c none }
          h .idle rfl
      constructor
      · intro other
        rw [inside other]
        by_cases same : other = c
        · subst same
          have held : insideRing s other h = true := by
            simp [insideRing, holding]
          simp only [Function.update_self]
          exact (owned.owned other).released held
        · have notHeld :
              ((RingUse.idle = .holding other : Bool)) =
                insideRing s other h := by
            simp [insideRing, holding, Ne.symm same]
          rw [notHeld, Function.update_eq_self]
          simp only [Function.update_of_ne same]
          exact owned.owned other
      · intro other busy
        have different : other ≠ h := by
          rintro rfl
          simp at busy
        have before : s.rings other ≠ .idle := by
          simpa [different] using busy
        exact owned.playing other before

theorem RingsOwned.start (bufferSize sampleRate : ℕ) :
    RingsOwned (.start bufferSize sampleRate) where
  owned := fun _ => .free fun _ => rfl
  playing := fun _ busy => (busy rfl).elim

/-! ## Waiting -/

/-- A task of the server. -/
inductive Task where
  | connection (k : ℕ)
  | receiver (h : ℕ)
deriving DecidableEq

/-- The task that holds the mixer lock. -/
def ownerTask : MixerOwner → Task
  | .connection k => .connection k
  | .receiver h => .receiver h

/-- A connection that is about to take the lock of the table. -/
def wantsHandles : Phase → Bool
  | .openLockHandles _ _ _ => true
  | .closeLockHandles _ => true
  | .removeLockHandles _ => true
  | .logLockHandles => true
  | _ => false

/--
Why a task cannot go on because of another one: it waits for a lock that the
other one holds, or for the place of a `Stop` that is taken, for which every
task may be blamed.
-/
inductive Waits (s : System) : Task → Task → Prop where
  | connectionMixer {k : ℕ} {c : Connection} {id : Uuid}
      {sel : MixerTrackSelector} {owner : MixerOwner}
      (here : s.server.connections k = some c)
      (waiting : c.phase = .openLockMixer id sel)
      (held : s.server.mixerLock = some owner) :
      Waits s (.connection k) (ownerTask owner)
  | receiverMixer {h : ℕ} {receiver : ReceiverTask} {owner : MixerOwner}
      (there : s.server.receivers h = some receiver)
      (waiting : receiver.phase = .lockingMixer)
      (held : s.server.mixerLock = some owner) :
      Waits s (.receiver h) (ownerTask owner)
  | handles {k owner : ℕ} {c : Connection}
      (here : s.server.connections k = some c)
      (waiting : wantsHandles c.phase = true)
      (held : s.server.handlesLock = some owner) :
      Waits s (.connection k) (.connection owner)
  | stopPlace {k h : ℕ} {c : Connection} {id : Uuid}
      {receiver : ReceiverTask}
      (here : s.server.connections k = some c)
      (stopping : c.phase = .closeStop id h)
      (there : s.server.receivers h = some receiver)
      (taken : receiver.stopWaiting = true) (blamed : Task) :
      Waits s (.connection k) blamed
  | ring {h owner c : ℕ} (asking : s.rings h = .asking c)
      (held : s.ringLocks c = some owner) :
      Waits s (.receiver h) (.receiver owner)

/--
How far a task is from going on: it waits for the mixer lock, for that of the
table, for that of a ring, or for none.
-/
def rank (s : System) : Task → ℕ
  | .connection k =>
      match phaseOf s.server k with
      | .openLockMixer _ _ => 3
      | phase => if wantsHandles phase then 2 else 0
  | .receiver h =>
      match s.rings h with
      | .asking _ => 1
      | .holding _ => 0
      | .idle =>
          if (s.server.receivers h).any
              fun receiver => receiver.phase = .lockingMixer then
            3
          else
            0

/-- Whoever holds the mixer lock waits for less. -/
theorem rank_mixer_owner
    {s : System} (locks : LocksOwned s.server)
    {owner : MixerOwner} (held : s.server.mixerLock = some owner) :
    rank s (ownerTask owner) < 3 := by
  have inside := (locks.mixer owner).mpr held
  cases owner with
  | connection k =>
      cases here : s.server.connections k with
      | none => simp [insideMixer, here] at inside
      | some c =>
          simp only [insideMixer, here, Option.any_some] at inside
          simp only [ownerTask, rank, phaseOf_eq here]
          cases phase : c.phase with
          | openLockMixer id sel => simp [phase, insideMixerAt] at inside
          | _ =>
              simp only
              split
              · decide
              · decide
  | receiver h =>
      cases there : s.server.receivers h with
      | none => simp [insideMixer, there] at inside
      | some receiver =>
          simp only [insideMixer, there, Option.any_some,
            decide_eq_true_eq] at inside
          simp only [ownerTask, rank]
          cases use : s.rings h with
          | idle => simp [there, inside]
          | asking c => simp
          | holding c => simp

/-- Whoever holds the lock of the table waits for no lock. -/
theorem rank_handles_owner
    {s : System} (locks : LocksOwned s.server) {k : ℕ}
    (held : s.server.handlesLock = some k) :
    rank s (.connection k) = 0 := by
  have inside := (locks.handles k).mpr held
  cases here : s.server.connections k with
  | none => simp [insideHandles, here] at inside
  | some c =>
      simp only [insideHandles, here, Option.any_some] at inside
      simp only [rank, phaseOf_eq here]
      cases phase : c.phase with
      | closeStop id h => rfl
      | closeRespondOk id => rfl
      | _ => simp [phase, insideHandlesAt] at inside

/-- In no reachable state do tasks of the server wait for each other. -/
theorem server_never_deadlocks
    (bufferSize sampleRate : ℕ) {actions : List SystemAction} {s : System}
    (run : Run System.step (.start bufferSize sampleRate) actions s)
    (tasks : Set Task) :
    ¬ Deadlocked (Waits s) tasks := by
  have serverRun := server_run run
  have locks : LocksOwned s.server := by
    refine
      Reachable.preserves ?_ ⟨_, serverRun⟩
        (LocksOwned.start bufferSize sampleRate)
    exact fun enabled owned => owned.step (Server.step_move enabled)
  have rings : RingsOwned s :=
    Reachable.preserves RingsOwned.step ⟨actions, run⟩
      (RingsOwned.start bufferSize sampleRate)
  refine not_deadlocked_of_rank (rank s) ?_ tasks
  intro task other waiting
  cases waiting with
  | connectionMixer here waits held =>
      have lower := rank_mixer_owner locks held
      simp only [rank, phaseOf_eq here, waits] at lower ⊢
      exact lower
  | @receiverMixer h receiver owner there waits held =>
      have lower := rank_mixer_owner locks held
      have idle : s.rings h = .idle := by
        by_contra busy
        have playing := rings.playing h busy
        simp [insideMixer, there, waits] at playing
      have high : rank s (.receiver h) = 3 := by
        simp [rank, idle, there, waits]
      rw [high]
      exact lower
  | @handles k owner c here waits held =>
      rw [rank_handles_owner locks held]
      simp only [rank, phaseOf_eq here]
      cases phase : c.phase with
      | openLockMixer id sel => simp
      | _ => simp [← phase, waits]
  | stopPlace here stopping there taken blamed =>
      have holding : hand s.server _ = some _ :=
        (hand_eq here).trans (congrArg inHand stopping)
      have free := stop_place_free serverRun holding there
      rw [taken] at free
      cases free
  | @ring h owner c asking held =>
      have inside := ((rings.owned c) owner).mpr held
      simp only [insideRing, decide_eq_true_eq] at inside
      simp [rank, asking, inside]

/-- Two streams are opened at once, and one waits for the mixer. -/
def twoOpening : List SystemAction :=
  [.server (.accept 0), .server (.accept 1),
    .server (.request 0 (.openStream (.mono 0)) .nil),
    .server
      (.request 1 (.openStream (.mono 0)) ⟨List.replicate 16 7, rfl⟩),
    .server (.lockMixer 0)]

theorem server_never_deadlocks_twoOpening :
    ∃ s,
      execute System.step (.start 256 48000) twoOpening = some s ∧
        Waits s (.connection 1) (.connection 0) ∧
        ∀ tasks, ¬ Deadlocked (Waits s) tasks := by
  refine ⟨_, rfl, ?_, ?_⟩
  · exact @Waits.connectionMixer _ 1 _ _ _ (.connection 0) rfl rfl rfl
  · exact
      @server_never_deadlocks 256 48000 twoOpening _
        (execute_eq_some_iff.mp rfl)

end Audiopipe.Control.DeadlockFreedom
