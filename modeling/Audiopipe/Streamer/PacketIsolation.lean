import Audiopipe.Foundation.EventTraces
import Audiopipe.Mixing.WriteThenRead
import Audiopipe.Streamer.ReceiverTasks

/-!
# Packets do not mix in a ring

The write of a packet locks one ring for one sample at a time and may be
suspended between any two samples.  What keeps the samples of two packets
apart is the guard of the global mixer.  So the attempts on a ring are a
sequence of blocks, one for each packet in the order of the locks.  A task
that is stopped within a packet leaves a block that breaks off.
-/

namespace Audiopipe.Streamer.PacketIsolation

open Audiopipe.Foundation.GuardedRuns
open Audiopipe.Foundation.EventTraces
open Audiopipe.Foundation.StridedLists
open Audiopipe.Mixing.TrackSelector
open Audiopipe.Mixing.RingTransfer
open Audiopipe.Mixing.TransferLaws
open Audiopipe.Mixing.WriteThenRead
open Audiopipe.Streamer.PacketFormat
open Audiopipe.Streamer.ReceiveLoop
open Audiopipe.Streamer.ReceiverTasks

variable {channelCount bufferSize : ℕ} {Task : Type}

/-! ## What happens at the locks -/

/-- What a task does with the lock of the mixer and under it. -/
inductive Event (Task : Type) (channelCount : ℕ) where
  | acquired (h : Task) (data : List F32)
  | attempted (h : Task) (c : Fin channelCount) (o : F32)
  | cancelled (h : Task)

/-- A payload that is no whole number of samples has none. -/
def events (wire : WireFormat) (s : Pool Task channelCount bufferSize) :
    PoolAction Task channelCount → List (Event Task channelCount)
  | .lockMixer h =>
      match s.phases h with
      | .lockingMixer packet =>
          [.acquired h ((wire.tryCastSlice packet.payload).getD [])]
      | _ => []
  | .push h =>
      match s.phases h with
      | .writing ⟨cursor, o :: _, _⟩ => [.attempted h cursor.channel o]
      | _ => []
  | .stop h => [.cancelled h]
  | _ => []

/-- The packet with which a task has acquired the lock. -/
def acquiredPacket : Event Task channelCount → Option (Task × List F32)
  | .acquired h data => some (h, data)
  | _ => none

/-- The attempt on the ring of channel `c`, and the task that made it. -/
def attemptOn (c : Fin channelCount) :
    Event Task channelCount → Option (Task × F32)
  | .attempted h c' o => if c' = c then some (h, o) else none
  | _ => none

/-- A packet, the task that plays it and how many samples it has tried. -/
structure Block (Task : Type) where
  task : Task
  data : List F32
  done : ℕ

namespace Block

def packet (b : Block Task) : Task × List F32 :=
  (b.task, b.data)

/-- What a block has tried to push into the ring of channel `c`. -/
def attempts (sels : Task → MixerTrackSelector) (c : Fin channelCount)
    (b : Block Task) : List (Task × F32) :=
  (share (sels b.task) c (b.data.take b.done)).map (Prod.mk b.task)

/-- The packet has been tried to its end. -/
def Whole (b : Block Task) : Prop :=
  b.done = b.data.length

end Block

variable {wire : WireFormat} {sels : Task → MixerTrackSelector}

/-- The task of a block stands in the middle of it with these locals. -/
structure StandsIn (sels : Task → MixerTrackSelector) (b : Block Task)
    (locals : Writing channelCount) : Prop where
  rest : locals.rest = b.data.drop b.done
  bounded : b.done ≤ b.data.length
  resolved :
    getChannel channelCount (sels b.task) = .ok locals.cursor.track
  cycle : locals.cursor.cycle = (sels b.task).channelCount
  counter :
    locals.cursor.ch =
      (locals.cursor.track.advance locals.cursor.cycle)^[b.done] 0

/-- Before a further sample the packet has not been tried to its end. -/
theorem StandsIn.short
    {b : Block Task} {cursor : TrackCursor channelCount}
    {o : F32} {rest : List F32} {length : ℕ}
    (stands : StandsIn sels b ⟨cursor, o :: rest, length⟩) :
    b.done < b.data.length := by
  have nonempty : b.data.drop b.done ≠ [] := by
    rw [← stands.rest]
    exact List.cons_ne_nil o rest
  exact List.length_lt_of_drop_ne_nil nonempty

/-- The next sample of a packet, and what it adds to the attempts. -/
theorem StandsIn.pushed
    {b : Block Task} {cursor : TrackCursor channelCount}
    {o : F32} {rest : List F32} {length : ℕ}
    (stands : StandsIn sels b ⟨cursor, o :: rest, length⟩)
    (mixer : Mixer F32 channelCount bufferSize) :
    StandsIn sels { b with done := b.done + 1 }
        ⟨(writeSample cursor mixer o).1, rest, length⟩ ∧
      ∀ c : Fin channelCount,
        Block.attempts sels c { b with done := b.done + 1 } =
          b.attempts sels c ++
            if cursor.channel = c then [(b.task, o)] else [] := by
  rcases writeSample_cursor cursor mixer o with
    ⟨sameTrack, sameCycle, nextCounter⟩
  have early := stands.short
  have split := List.drop_eq_getElem_cons early
  rw [← stands.rest] at split
  injection split with head tail
  have longer :
      b.data.take (b.done + 1) = b.data.take b.done ++ [o] := by
    rw [head]
    exact List.take_succ_eq_append_getElem early
  constructor
  · constructor
    · exact tail
    · exact early
    · rw [sameTrack]
      exact stands.resolved
    · rw [sameCycle]
      exact stands.cycle
    · rw [nextCounter, sameTrack, sameCycle, Function.iterate_succ_apply',
        ← stands.counter]
      rfl
  · intro c
    have stood :
        (cursor.track.advance (sels b.task).channelCount)^[
            (b.data.take b.done).length] 0 =
          cursor.ch := by
      rw [List.length_take, Nat.min_eq_left stands.bounded, ← stands.cycle]
      exact stands.counter.symm
    have resolved :
        getChannel channelCount (sels b.task) = .ok cursor.track :=
      stands.resolved
    unfold Block.attempts
    rw [longer, ← addressed_eq_share resolved, addressed_append, stood,
      ← addressed_eq_share resolved, List.map_append]
    by_cases here : cursor.channel = c
    · have picked : cursor.track.pick cursor.ch = c := here
      simp [addressed, here, picked]
    · have notPicked : cursor.track.pick cursor.ch ≠ c := here
      simp [addressed, here, notPicked]

/-! ## The invariant -/

/-- The packet under way, if there is one; its task alone holds the lock. -/
inductive UnderWay (sels : Task → MixerTrackSelector)
    (s : Pool Task channelCount bufferSize) :
    Option (Block Task) → Prop where
  | idle (outside : ∀ h, (s.phases h).holdsMixer = false) :
      UnderWay sels s none
  | playing (b : Block Task) (locals : Writing channelCount)
      (writing : s.phases b.task = .writing locals)
      (held : s.lock = some (.task b.task))
      (alone : ∀ h, (s.phases h).holdsMixer = true → h = b.task)
      (stands : StandsIn sels b locals) :
      UnderWay sels s (some b)

/-- A past packet was played to its end, or its task stopped within it. -/
def Closed (history : List (Event Task channelCount))
    (s : Pool Task channelCount bufferSize) (b : Block Task) : Prop :=
  b.Whole ∨
    b.done < b.data.length ∧ .cancelled b.task ∈ history ∧
      ∃ result, s.phases b.task = .ended result

/-- What broke off was the last packet of its task. -/
def LastIfBroken (blocks : List (Block Task)) : Prop :=
  blocks.Pairwise fun earlier later =>
    earlier.task = later.task → earlier.Whole

/-- The history is that of the past packets and of the one under way. -/
structure Isolated (sels : Task → MixerTrackSelector)
    (history : List (Event Task channelCount))
    (s : Pool Task channelCount bufferSize)
    (past : List (Block Task)) (current : Option (Block Task)) :
    Prop where
  acquired :
    (past ++ current.toList).map Block.packet =
      history.filterMap acquiredPacket
  attempted :
    ∀ c,
      history.filterMap (attemptOn c) =
        (past ++ current.toList).flatMap (Block.attempts sels c)
  closed : ∀ b ∈ past, Closed history s b
  order : LastIfBroken past
  underWay : UnderWay sels s current

variable {history : List (Event Task channelCount)}
variable {s next : Pool Task channelCount bufferSize}
variable {past : List (Block Task)} {current : Option (Block Task)}

/-- The task that writes is the one whose packet is under way. -/
theorem UnderWay.of_writing
    (underWay : UnderWay sels s current) {h : Task}
    {locals : Writing channelCount}
    (writing : s.phases h = .writing locals) :
    ∃ b, current = some b ∧ b.task = h ∧ s.lock = some (.task h) ∧
      (∀ other, (s.phases other).holdsMixer = true → other = h) ∧
      StandsIn sels b locals := by
  have inside : (s.phases h).holdsMixer = true := by
    rw [writing]
    rfl
  cases underWay with
  | idle outside =>
      rw [outside h] at inside
      cases inside
  | playing b locals' writing' held alone stands =>
      cases alone h inside
      rw [writing] at writing'
      cases writing'
      exact ⟨b, rfl, rfl, held, alone, stands⟩

/-- While the lock is free, no packet is under way. -/
theorem UnderWay.of_free
    (underWay : UnderWay sels s current) (free : s.lock = none) :
    current = none ∧ ∀ h, (s.phases h).holdsMixer = false := by
  cases underWay with
  | idle outside => exact ⟨rfl, outside⟩
  | playing b locals writing held alone stands =>
      rw [free] at held
      cases held

theorem alone_of_outside
    (outside : ∀ h, (s.phases h).holdsMixer = false)
    (h other : Task) (inside : (s.phases other).holdsMixer = true) :
    other = h := by
  rw [outside other] at inside
  cases inside

/-- A packet whose task has not ended can follow the past ones. -/
theorem LastIfBroken.followed
    (order : LastIfBroken past) (closed : ∀ b ∈ past, Closed history s b)
    {b : Block Task}
    (alive : ∀ result, s.phases b.task ≠ .ended result) :
    LastIfBroken (past ++ [b]) := by
  unfold LastIfBroken
  rw [List.pairwise_append]
  refine ⟨order, List.pairwise_singleton .., ?_⟩
  intro earlier member later last same
  rw [List.mem_singleton] at last
  subst last
  rcases closed earlier member with whole | ⟨_, _, result, ended⟩
  · exact whole
  · rw [same] at ended
    exact (alive result ended).elim

/-- The packets of a pool are in order, the one under way included. -/
theorem Isolated.order_all
    (isolated : Isolated sels history s past current) :
    LastIfBroken (past ++ current.toList) := by
  have closed := isolated.closed
  have order := isolated.order
  cases isolated.underWay with
  | idle outside =>
      rw [Option.toList_none, List.append_nil]
      exact order
  | playing b locals writing held alone stands =>
      apply order.followed closed
      intro result ended
      rw [writing] at ended
      cases ended

/-- A past packet stays closed while ended tasks stay ended. -/
theorem Closed.mono {b : Block Task}
    {emitted : List (Event Task channelCount)}
    (closed : Closed history s b)
    (stays :
      ∀ h result, s.phases h = .ended result →
        next.phases h = .ended result) :
    Closed (history ++ emitted) next b := by
  rcases closed with whole | ⟨short, cancelled, result, ended⟩
  · exact .inl whole
  · exact
      .inr
        ⟨short, List.mem_append_left emitted cancelled, result,
          stays _ result ended⟩

/--
A step aside: no task goes into the write or out of it, and a task that holds
the lock keeps it.
-/
structure Aside (s next : Pool Task channelCount bufferSize) : Prop where
  phases :
    ∀ h, next.phases h = s.phases h ∨
      (s.phases h).holdsMixer = false ∧
        (next.phases h).holdsMixer = false ∧
        ∀ result, s.phases h ≠ .ended result
  lock : ∀ h, s.lock = some (.task h) → next.lock = some (.task h)

theorem Aside.holdsMixer (aside : Aside s next) (h : Task) :
    (next.phases h).holdsMixer = (s.phases h).holdsMixer := by
  rcases aside.phases h with same | ⟨before, after, _⟩
  · rw [same]
  · rw [before, after]

theorem Aside.ended (aside : Aside s next) (h : Task) (result : TaskEnd)
    (ended : s.phases h = .ended result) :
    next.phases h = .ended result := by
  rcases aside.phases h with same | ⟨_, _, alive⟩
  · rw [same]
    exact ended
  · exact (alive result ended).elim

/-- A step aside that shows no lock and no attempt keeps the invariant. -/
theorem Isolated.aside
    (isolated : Isolated sels history s past current)
    (aside : Aside s next) {emitted : List (Event Task channelCount)}
    (noPacket : emitted.filterMap acquiredPacket = [])
    (noAttempt : ∀ c, emitted.filterMap (attemptOn c) = []) :
    Isolated sels (history ++ emitted) next past current where
  acquired := by
    rw [List.filterMap_append, noPacket, List.append_nil]
    exact isolated.acquired
  attempted := by
    intro c
    rw [List.filterMap_append, noAttempt c, List.append_nil]
    exact isolated.attempted c
  closed := fun b member => (isolated.closed b member).mono aside.ended
  order := isolated.order
  underWay := by
    cases isolated.underWay with
    | idle outside =>
        apply UnderWay.idle
        intro h
        rw [aside.holdsMixer]
        exact outside h
    | playing b locals writing held alone stands =>
        have stillWriting : next.phases b.task = .writing locals := by
          rcases aside.phases b.task with same | ⟨outside, _, _⟩
          · rw [same]
            exact writing
          · rw [writing] at outside
            cases outside
        apply UnderWay.playing b locals stillWriting (aside.lock _ held)
          _ stands
        intro h inside
        rw [aside.holdsMixer] at inside
        exact alone h inside

/-- Before the first step there are no packets. -/
theorem Isolated.initially
    (sels : Task → MixerTrackSelector)
    (mixer : Mixer F32 channelCount bufferSize) :
    Isolated sels [] (Pool.start Task mixer) [] none where
  acquired := rfl
  attempted := fun _ => rfl
  closed := fun _ member => (List.not_mem_nil member).elim
  order := .nil
  underWay := .idle fun _ => rfl

/-! ## The steps -/

/-- A packet of which nothing has been tried adds no attempts. -/
theorem Block.attempts_untried
    (sels : Task → MixerTrackSelector) (c : Fin channelCount)
    (h : Task) (data : List F32) :
    Block.attempts sels c ⟨h, data, 0⟩ = [] := by
  unfold Block.attempts
  rw [List.take_zero]
  cases sels h with
  | mono m => simp [share]
  | stereo l r => simp [share, everyNth]

/-- A step that moves no task. -/
theorem Aside.standing
    (same : next.phases = s.phases)
    (lock : ∀ h, s.lock = some (.task h) → next.lock = some (.task h)) :
    Aside s next where
  phases := by
    intro h
    left
    rw [same]
  lock := lock

/-- The history with one more packet, of which nothing has been tried. -/
theorem Isolated.begun
    (isolated : Isolated sels history s past none)
    (h : Task) (data : List F32) :
    (past ++ [Block.mk h data 0]).map Block.packet =
        (history ++ [Event.acquired h data]).filterMap acquiredPacket ∧
      ∀ c,
        (history ++ [Event.acquired h data]).filterMap (attemptOn c) =
          (past ++ [Block.mk h data 0]).flatMap
            (Block.attempts sels c) := by
  have acquired := isolated.acquired
  have attempted := isolated.attempted
  rw [Option.toList_none, List.append_nil] at acquired attempted
  constructor
  · rw [List.filterMap_append, ← acquired, List.map_append]
    rfl
  · intro c
    rw [List.filterMap_append, attempted c, List.flatMap_append]
    simp [attemptOn, Block.attempts_untried]

/-- The packet under way becomes a past one. -/
theorem Isolated.close
    {b : Block Task}
    (isolated : Isolated sels history s past (some b))
    {emitted : List (Event Task channelCount)}
    (noPacket : emitted.filterMap acquiredPacket = [])
    (noAttempt : ∀ c, emitted.filterMap (attemptOn c) = [])
    (pastClosed : ∀ b' ∈ past, Closed (history ++ emitted) next b')
    (closed : Closed (history ++ emitted) next b)
    (outside : ∀ h, (next.phases h).holdsMixer = false) :
    Isolated sels (history ++ emitted) next (past ++ [b]) none where
  acquired := by
    rw [List.filterMap_append, noPacket, List.append_nil,
      ← isolated.acquired, Option.toList_none, List.append_nil]
    rfl
  attempted := by
    intro c
    rw [List.filterMap_append, noAttempt c, List.append_nil,
      isolated.attempted c, Option.toList_none, List.append_nil]
    rfl
  closed := by
    intro b' member
    rcases List.mem_append.mp member with earlier | last
    · exact pastClosed b' earlier
    · cases List.mem_singleton.mp last
      exact closed
  order := isolated.order_all
  underWay := .idle outside

variable [DecidableEq Task]

/-- A task outside of the write that comes to another await outside. -/
theorem Aside.moved
    {h : Task} {phase : TaskPhase channelCount}
    (outside : (s.phases h).holdsMixer = false)
    (alive : ∀ result, s.phases h ≠ .ended result)
    (stillOutside : phase.holdsMixer = false) :
    Aside s (s.moveTo h phase) where
  phases := by
    intro h'
    by_cases same : h' = h
    · subst same
      right
      simp only [Pool.moveTo_phases_self]
      exact ⟨outside, stillOutside, alive⟩
    · left
      exact s.moveTo_phases_of_ne same phase
  lock := fun _ held => held

/-- Ended tasks stay ended when another one moves. -/
theorem moved_ended
    {h : Task} {phase : TaskPhase channelCount}
    (alive : ∀ result, s.phases h ≠ .ended result)
    (h' : Task) (result : TaskEnd) (ended : s.phases h' = .ended result) :
    (s.moveTo h phase).phases h' = .ended result := by
  have other : h' ≠ h := by
    intro same
    rw [same] at ended
    exact alive result ended
  rw [s.moveTo_phases_of_ne other]
  exact ended

/-- No task but the one that moves comes inside. -/
theorem moved_alone
    {h : Task} {phase : TaskPhase channelCount}
    (alone : ∀ other, (s.phases other).holdsMixer = true → other = h)
    (other : Task)
    (inside : ((s.moveTo h phase).phases other).holdsMixer = true) :
    other = h := by
  by_contra different
  rw [s.moveTo_phases_of_ne different] at inside
  exact different (alone other inside)

/-- When the only task inside leaves, nobody is inside. -/
theorem moved_outside
    {h : Task} {phase : TaskPhase channelCount}
    (alone : ∀ other, (s.phases other).holdsMixer = true → other = h)
    (outside : phase.holdsMixer = false) (other : Task) :
    ((s.moveTo h phase).phases other).holdsMixer = false := by
  by_contra inside
  cases moved_alone alone other (Bool.eq_true_of_not_eq_false inside)
  rw [s.moveTo_phases_self] at inside
  exact inside outside

/-- One step of the tasks. -/
theorem Isolated.step
    (inRange : ∀ h, (sels h).InRange channelCount)
    (isolated : Isolated sels history s past current)
    {action : PoolAction Task channelCount}
    (enabled : Pool.step wire sels s action = some next) :
    ∃ past' current',
      Isolated sels (history ++ events wire s action) next past'
        current' := by
  cases Pool.step_move enabled with
  | received h bytes waiting =>
      refine ⟨past, current, isolated.aside (Aside.moved ?_ ?_ ?_) rfl ?_⟩
      · rw [waiting]
        rfl
      · simp [waiting]
      · exact Pool.received_holdsMixer wire bytes
      · intro c
        rfl
  | recvError h waiting =>
      have aside : Aside s s := .standing rfl fun h' held => held
      exact ⟨past, current, isolated.aside aside rfl fun c => rfl⟩
  | stopped h waiting outside =>
      refine
        ⟨past, current, isolated.aside (Aside.moved outside ?_ rfl) rfl ?_⟩
      · intro result ended
        rw [ended] at waiting
        cases waiting
      · intro c
        rfl
  | otherLocked free =>
      have aside : Aside s { s with lock := some .other } := by
        refine Aside.standing rfl ?_
        intro h held
        rw [free] at held
        cases held
      exact ⟨past, current, isolated.aside aside rfl fun c => rfl⟩
  | otherUnlocked held =>
      have aside : Aside s { s with lock := none } := by
        refine Aside.standing rfl ?_
        intro h held'
        rw [held] at held'
        cases held'
      exact ⟨past, current, isolated.aside aside rfl fun c => rfl⟩
  | played c =>
      have aside : Aside s { s with mixer := playSample s.mixer c } :=
        .standing rfl fun h held => held
      exact ⟨past, current, isolated.aside aside rfl fun c => rfl⟩
  | unresolved h packet data e waiting free cast resolved =>
      rcases (getChannel_isOk_iff (sels h)).mpr (inRange h) with
        ⟨track, found⟩
      rw [found] at resolved
      cases resolved
  | opened h packet data track waiting free cast resolved =>
      rcases isolated.underWay.of_free free with ⟨rfl, outside⟩
      have alive : ∀ result, s.phases h ≠ .ended result := by
        simp [waiting]
      have emitted :
          events wire s (.lockMixer h) = [.acquired h data] := by
        simp [events, waiting, cast]
      rw [emitted]
      refine
        ⟨past, some ⟨h, data, 0⟩, (isolated.begun h data).1,
          (isolated.begun h data).2, ?_, isolated.order, ?_⟩
      · intro b member
        exact (isolated.closed b member).mono (moved_ended alive)
      · exact
          .playing _ _ (s.moveTo_phases_self _ _) rfl
            (moved_alone (alone_of_outside outside h))
            ⟨rfl, Nat.zero_le _, resolved, rfl, rfl⟩
  | uncast h packet waiting free cast =>
      rcases isolated.underWay.of_free free with ⟨rfl, outside⟩
      have alive : ∀ result, s.phases h ≠ .ended result := by
        simp [waiting]
      have emitted :
          events wire s (.lockMixer h) = [.acquired h []] := by
        simp [events, waiting, cast]
      have order : LastIfBroken (past ++ [⟨h, [], 0⟩]) :=
        isolated.order.followed isolated.closed alive
      rw [emitted]
      refine
        ⟨past ++ [⟨h, [], 0⟩], none, ?_, ?_, ?_, order, .idle ?_⟩
      · rw [Option.toList_none, List.append_nil]
        exact (isolated.begun h []).1
      · rw [Option.toList_none, List.append_nil]
        exact (isolated.begun h []).2
      · intro b member
        rcases List.mem_append.mp member with earlier | last
        · exact (isolated.closed b earlier).mono (moved_ended alive)
        · cases List.mem_singleton.mp last
          exact .inl rfl
      · exact moved_outside (alone_of_outside outside h) rfl
  | pushed h cursor o rest length writing =>
      rcases isolated.underWay.of_writing writing with
        ⟨b, rfl, rfl, held, alone, stands⟩
      have alive : ∀ result, s.phases b.task ≠ .ended result := by
        simp [writing]
      have emitted :
          events wire s (.push b.task) =
            [.attempted b.task cursor.channel o] := by
        simp [events, writing]
      rcases stands.pushed s.mixer with ⟨stands', attempts⟩
      rw [emitted]
      refine
        ⟨past, some { b with done := b.done + 1 }, ?_, ?_, ?_,
          isolated.order, ?_⟩
      · rw [List.filterMap_append, ← isolated.acquired]
        simp [acquiredPacket, Block.packet]
      · intro c
        rw [List.filterMap_append, isolated.attempted c]
        simp only [Option.toList_some, List.flatMap_append,
          List.flatMap_singleton, attempts c, List.append_assoc]
        congr 2
        by_cases here : cursor.channel = c
        · simp [attemptOn, here]
        · simp [attemptOn, here]
      · intro b' member
        exact (isolated.closed b' member).mono (moved_ended alive)
      · exact
          .playing _ _ (s.moveTo_phases_self _ _) held (moved_alone alone)
            stands'
  | finished h cursor length writing =>
      rcases isolated.underWay.of_writing writing with
        ⟨b, rfl, rfl, held, alone, stands⟩
      have alive : ∀ result, s.phases b.task ≠ .ended result := by
        simp [writing]
      have whole : b.Whole :=
        Nat.le_antisymm stands.bounded
          (List.drop_eq_nil_iff.mp stands.rest.symm)
      refine
        ⟨past ++ [b], none,
          isolated.close rfl (fun c => rfl) ?_ (.inl whole) ?_⟩
      · intro b' member
        exact (isolated.closed b' member).mono (moved_ended alive)
      · exact moved_outside alone (Pool.assertCounts_holdsMixer ..)
  | cancelled h cursor o rest length writing =>
      rcases isolated.underWay.of_writing writing with
        ⟨b, rfl, rfl, held, alone, stands⟩
      have alive : ∀ result, s.phases b.task ≠ .ended result := by
        simp [writing]
      have ended :
          (s.moveTo b.task (.ended .stopped)).phases b.task =
            .ended .stopped :=
        s.moveTo_phases_self _ _
      refine
        ⟨past ++ [b], none,
          isolated.close rfl (fun c => rfl) ?_ (.inr ?_) ?_⟩
      · intro b' member
        exact (isolated.closed b' member).mono (moved_ended alive)
      · exact
          ⟨stands.short,
            List.mem_append_right _ (List.mem_singleton_self _), _, ended⟩
      · exact moved_outside alone rfl

/-! ## Whole runs -/

/--
For receiver tasks with any selectors in range, on one mixer and in any order
of their steps, the attempts on every ring are the blocks of the packets in
the order in which their tasks acquired the lock of the mixer.  The block of
a packet is what it has for the ring, or the beginning of that: if its task
was cancelled within it, which is then the last one of that task, or if it is
the packet under way.
-/
theorem packets_isolated
    (wire : WireFormat) {sels : Task → MixerTrackSelector}
    (inRange : ∀ h, (sels h).InRange channelCount)
    {mixer : Mixer F32 channelCount bufferSize}
    {actions : List (PoolAction Task channelCount)}
    {s : Pool Task channelCount bufferSize}
    (run :
      Run (Pool.step wire sels) (Pool.start Task mixer) actions s) :
    ∃ (past : List (Block Task)) (current : Option (Block Task)),
      (past ++ current.toList).map Block.packet =
          (trace (Pool.step wire sels) (events wire)
            (Pool.start Task mixer) actions).filterMap acquiredPacket ∧
        (∀ c,
          (trace (Pool.step wire sels) (events wire)
              (Pool.start Task mixer) actions).filterMap (attemptOn c) =
            (past ++ current.toList).flatMap (Block.attempts sels c)) ∧
        (∀ b ∈ past ++ current.toList, ∀ c : Fin channelCount,
          share (sels b.task) c (b.data.take b.done) <+:
            share (sels b.task) c b.data) ∧
        (∀ b ∈ past,
          b.Whole ∨
            b.done < b.data.length ∧
              .cancelled b.task ∈
                trace (Pool.step wire sels) (events wire)
                  (Pool.start Task mixer) actions) ∧
        LastIfBroken (past ++ current.toList) ∧
        ∀ b ∈ current,
          s.lock = some (.task b.task) ∧ b.done ≤ b.data.length := by
  have stepKeeps :
      ∀ {history : List (Event Task channelCount)}
        {s next : Pool Task channelCount bufferSize}
        {action : PoolAction Task channelCount},
        True → Pool.step wire sels s action = some next →
          (∃ past current, Isolated sels history s past current) →
            ∃ past current,
              Isolated sels (history ++ events wire s action) next past
                current := by
    rintro history s next action _ enabled ⟨past, current, isolated⟩
    exact isolated.step inRange enabled
  rcases
    trace_preserves @stepKeeps run
      ⟨[], none, Isolated.initially sels mixer⟩ with
    ⟨past, current, isolated⟩
  rw [List.nil_append] at isolated
  refine
    ⟨past, current, isolated.acquired, isolated.attempted, ?_, ?_,
      isolated.order_all, ?_⟩
  · intro b _ c
    exact share_take_prefix (inRange b.task) c b.data b.done
  · intro b member
    rcases isolated.closed b member with whole | ⟨short, cancelled, _⟩
    · exact .inl whole
    · exact .inr ⟨short, cancelled⟩
  · intro b isCurrent
    cases isCurrent
    cases isolated.underWay with
    | playing b locals writing held alone stands =>
        exact ⟨held, stands.bounded⟩

/-- A stop after the first sample of a packet, and the packet of another. -/
def cutShort : List (PoolAction Bool 2) :=
  [.datagram false (serialize (frameOf ⟨1⟩ ⟨2⟩)),
    .datagram true (serialize (frameOf ⟨3⟩ ⟨4⟩)),
    .lockMixer false, .push false, .stop false,
    .lockMixer true, .push true, .push true, .finish true]

theorem packets_isolated_cutShort :
    ∃ (past : List (Block Bool)) (current : Option (Block Bool)),
      (past ++ current.toList).map Block.packet =
          [(false, [⟨1⟩, ⟨2⟩]), (true, [⟨3⟩, ⟨4⟩])] ∧
        (past ++ current.toList).flatMap
            (Block.attempts (fun _ => .stereo 0 1) (0 : Fin 2)) =
          [(false, ⟨1⟩), (true, ⟨3⟩)] := by
  let sels : Bool → MixerTrackSelector := fun _ => .stereo 0 1
  let empty := Pool.start Bool (emptyMixer F32 2 4 44100)
  let both :=
    (empty.moveTo false (.lockingMixer (frameOf ⟨1⟩ ⟨2⟩))).moveTo true
      (.lockingMixer (frameOf ⟨3⟩ ⟨4⟩))
  have inRange : ∀ h, (sels h).InRange 2 := fun _ => ⟨by decide, by decide⟩
  have first :
      Pool.step bincodeWire sels empty
          (.datagram false (serialize (frameOf ⟨1⟩ ⟨2⟩))) =
        some (empty.moveTo false (.lockingMixer (frameOf ⟨1⟩ ⟨2⟩))) := by
    simp only [Pool.step, empty, Pool.start, received_frameOf]
  have second :
      Pool.step bincodeWire sels
          (empty.moveTo false (.lockingMixer (frameOf ⟨1⟩ ⟨2⟩)))
          (.datagram true (serialize (frameOf ⟨3⟩ ⟨4⟩))) =
        some both := by
    simp [Pool.step, empty, Pool.start, Pool.moveTo, received_frameOf, both]
  have executed :
      ∃ s,
        execute (Pool.step bincodeWire sels) both (cutShort.drop 2) =
          some s :=
    ⟨_, rfl⟩
  rcases executed with ⟨s, executed⟩
  have run : Run (Pool.step bincodeWire sels) empty cutShort s :=
    .next trivial first
      (.next trivial second (execute_eq_some_iff.mp executed))
  rcases packets_isolated bincodeWire inRange run with
    ⟨past, current, acquired, attempted, _⟩
  refine ⟨past, current, acquired.trans ?_, (attempted 0).symm.trans ?_⟩
  · rw [cutShort, trace_cons first, trace_cons second]
    rfl
  · rw [cutShort, trace_cons first, trace_cons second]
    decide

end Audiopipe.Streamer.PacketIsolation
