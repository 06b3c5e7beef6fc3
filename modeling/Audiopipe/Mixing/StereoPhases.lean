import Audiopipe.Mixing.StereoSessions
import Mathlib.Algebra.Group.Even

/-!
# Where a stereo writer and a whole-mixer reader stand

The local invariants of the two calls of a session.  Between two frames the
sides are level; within a frame one side is ahead of the other, and the phase
says what has happened to it.  Each iteration of a call takes its phase to the
next one if it does not split the frame, and the phases survive the steps of
the other call.
-/

namespace Audiopipe.Mixing.StereoPhases

open Audiopipe.Foundation.BoundedQueues
open Audiopipe.Mixing.TrackSelector
open Audiopipe.Mixing.RingTransfer
open Audiopipe.Mixing.TransferLaws
open Audiopipe.Mixing.ConcurrentCalls
open Audiopipe.Mixing.StereoSessions

variable {α : Type} {channelCount bufferSize : ℕ}

/-! ## The phases of the two calls -/

section Phases

variable (session : Session channelCount)
variable (history : List (Event α channelCount))

/-- As many samples have entered the left ring as the right one. -/
def WriterLevel : Prop :=
  (accepted session.l history).length =
    (accepted session.r history).length

/-- As many samples have left the first ring as the second one. -/
def ReaderLevel : Prop :=
  (delivered session.first history).length =
    (delivered session.second history).length

/-- Where the writer stands between two of its iterations. -/
inductive WriterPhase : Option (Task α channelCount) → Prop where
  | absent
      (level : WriterLevel session history) :
      WriterPhase none
  | between (cursor : TrackCursor channelCount) (rest : List α)
      (track : cursor.track = .stereo session.l session.r)
      (cycle : cursor.cycle = 2) (even : cursor.ch = 0)
      (whole : Even rest.length)
      (known :
        ∀ frame ∈ stereoFrames rest, frame ∈ writtenFrames history)
      (level : WriterLevel session history) :
      WriterPhase (some (.writing cursor rest))
  | refusedLeft (cursor : TrackCursor channelCount)
      (o : α) (rest : List α)
      (track : cursor.track = .stereo session.l session.r)
      (cycle : cursor.cycle = 2) (odd : cursor.ch = 1)
      (whole : Even rest.length)
      (known :
        ∀ frame ∈ stereoFrames rest, frame ∈ writtenFrames history)
      (refused : LastRefused session.l history)
      (level : WriterLevel session history) :
      WriterPhase (some (.writing cursor (o :: rest)))
  | acceptedLeft (cursor : TrackCursor channelCount)
      (x o : α) (rest front : List α)
      (track : cursor.track = .stereo session.l session.r)
      (cycle : cursor.cycle = 2) (odd : cursor.ch = 1)
      (whole : Even rest.length)
      (known :
        ∀ frame ∈ stereoFrames rest, frame ∈ writtenFrames history)
      (taken : ¬ LastRefused session.l history)
      (ahead : accepted session.l history = front ++ [x])
      (behind :
        front.length = (accepted session.r history).length)
      (frame : (x, o) ∈ writtenFrames history) :
      WriterPhase (some (.writing cursor (o :: rest)))

variable [Sample α]

/--
Where the reader stands in frame `frame` of its buffer, when it has put out
`pos` samples of that frame.
-/
inductive ReaderPlace (output : List α) (frame pos : ℕ) : Prop where
  | before
      (early : pos ≤ session.first)
      (level : ReaderLevel session history)
  | starvedFirst
      (entered : session.first < pos) (early : pos ≤ session.second)
      (starved : LastStarved session.first history)
      (silent :
        output[frame * channelCount + session.first]? =
          some Sample.EQUILIBRIUM)
      (level : ReaderLevel session history)
  | poppedFirst (u : α) (front : List α)
      (entered : session.first < pos) (early : pos ≤ session.second)
      (taken : ¬ LastStarved session.first history)
      (written :
        output[frame * channelCount + session.first]? = some u)
      (ahead : delivered session.first history = front ++ [u])
      (behind :
        front.length = (delivered session.second history).length)
  | after
      (passed : session.second < pos)
      (paired :
        PairedAt session (writtenFrames history) output frame)
      (level : ReaderLevel session history)

/-- Where the reader stands between two of its iterations. -/
inductive ReaderPhase : Option (Task α channelCount) → Prop where
  | absent
      (level : ReaderLevel session history) :
      ReaderPhase none
  | reading (cursor : MixerCursor) (output : List α)
      (remaining frame pos total : ℕ)
      (counter : cursor.ch = frame * channelCount + pos)
      (filled : output.length = frame * channelCount + pos)
      (inside : pos < channelCount)
      (whole :
        frame * channelCount + pos + remaining = total * channelCount)
      (paired :
        ∀ past < frame,
          PairedAt session (writtenFrames history) output past)
      (place : ReaderPlace session history output frame pos) :
      ReaderPhase (some (.readingMixer cursor output remaining))

end Phases

/-- A writer that can take a new call is between two frames. -/
theorem WriterPhase.level_of_finished
    {session : Session channelCount}
    {history : List (Event α channelCount)}
    {slot : Option (Task α channelCount)}
    (phase : WriterPhase session history slot)
    (finished : ∀ task, slot = some task → task.finished = true) :
    WriterLevel session history := by
  cases phase with
  | absent level => exact level
  | between _ _ _ _ _ _ _ level => exact level
  | refusedLeft => simpa [Task.finished] using finished _ rfl
  | acceptedLeft => simpa [Task.finished] using finished _ rfl

/-- A reader that can take a new call is between two frames. -/
theorem ReaderPhase.level_of_finished [Sample α]
    {session : Session channelCount}
    {history : List (Event α channelCount)}
    {slot : Option (Task α channelCount)}
    (phase : ReaderPhase session history slot)
    (finished : ∀ task, slot = some task → task.finished = true) :
    ReaderLevel session history := by
  cases phase with
  | absent level => exact level
  | reading cursor output remaining frame pos total counter filled
      inside whole paired place =>
      have done : remaining = 0 := by
        simpa [Task.finished] using finished _ rfl
      have positive : 0 < channelCount :=
        Nat.lt_of_le_of_lt (Nat.zero_le _) inside
      have atStart : pos = 0 := by
        have remainder := congrArg (· % channelCount) whole
        simpa [done, Nat.mod_eq_of_lt inside] using remainder
      cases place with
      | before early level => exact level
      | starvedFirst entered => omega
      | poppedFirst u front entered => omega
      | after passed => omega

/-- A later history with the same left and right pushes keeps the phase. -/
theorem WriterPhase.transport
    {session : Session channelCount}
    {history later : List (Event α channelCount)}
    {slot : Option (Task α channelCount)}
    (sameLeft : accepted session.l later = accepted session.l history)
    (sameRight : accepted session.r later = accepted session.r history)
    (sameOutcomes :
      pushOutcomes session.l later = pushOutcomes session.l history)
    (grown :
      ∀ frame ∈ writtenFrames history, frame ∈ writtenFrames later)
    (phase : WriterPhase session history slot) :
    WriterPhase session later slot := by
  have sameLevel :
      WriterLevel session history → WriterLevel session later := by
    intro level
    unfold WriterLevel at level ⊢
    rw [sameLeft, sameRight]
    exact level
  have sameRefusal :
      LastRefused session.l later ↔ LastRefused session.l history := by
    unfold LastRefused
    rw [sameOutcomes]
  cases phase with
  | absent level => exact .absent (sameLevel level)
  | between cursor rest track cycle even whole known level =>
      exact
        .between cursor rest track cycle even whole
          (fun frame member => grown frame (known frame member))
          (sameLevel level)
  | refusedLeft cursor o rest track cycle odd whole known refused level =>
      exact
        .refusedLeft cursor o rest track cycle odd whole
          (fun frame member => grown frame (known frame member))
          (sameRefusal.mpr refused) (sameLevel level)
  | acceptedLeft cursor x o rest front track cycle odd whole known
      taken ahead behind frame =>
      exact
        .acceptedLeft cursor x o rest front track cycle odd whole
          (fun frame member => grown frame (known frame member))
          (sameRefusal.not.mpr taken) (sameLeft.trans ahead)
          (by rw [sameRight]; exact behind) (grown _ frame)

/-- A later history with the same pops keeps the place of the reader. -/
theorem ReaderPlace.transport [Sample α]
    {session : Session channelCount}
    {history later : List (Event α channelCount)}
    {output : List α} {frame pos : ℕ}
    (sameFirst :
      delivered session.first later = delivered session.first history)
    (sameSecond :
      delivered session.second later = delivered session.second history)
    (sameOutcomes :
      popOutcomes session.first later =
        popOutcomes session.first history)
    (grown :
      ∀ pair ∈ writtenFrames history, pair ∈ writtenFrames later)
    (place : ReaderPlace session history output frame pos) :
    ReaderPlace session later output frame pos := by
  have sameLevel :
      ReaderLevel session history → ReaderLevel session later := by
    intro level
    unfold ReaderLevel at level ⊢
    rw [sameFirst, sameSecond]
    exact level
  have sameStarvation :
      LastStarved session.first later ↔
        LastStarved session.first history := by
    unfold LastStarved
    rw [sameOutcomes]
  cases place with
  | before early level => exact .before early (sameLevel level)
  | starvedFirst entered early starved silent level =>
      exact
        .starvedFirst entered early (sameStarvation.mpr starved) silent
          (sameLevel level)
  | poppedFirst u front entered early taken written ahead behind =>
      exact
        .poppedFirst u front entered early (sameStarvation.not.mpr taken)
          written (sameFirst.trans ahead)
          (by rw [sameSecond]; exact behind)
  | after passed paired level =>
      exact .after passed (paired.grow grown) (sameLevel level)

/-- A later history with the same pops keeps the phase of the reader. -/
theorem ReaderPhase.transport [Sample α]
    {session : Session channelCount}
    {history later : List (Event α channelCount)}
    {slot : Option (Task α channelCount)}
    (sameFirst :
      delivered session.first later = delivered session.first history)
    (sameSecond :
      delivered session.second later = delivered session.second history)
    (sameOutcomes :
      popOutcomes session.first later =
        popOutcomes session.first history)
    (grown :
      ∀ pair ∈ writtenFrames history, pair ∈ writtenFrames later)
    (phase : ReaderPhase session history slot) :
    ReaderPhase session later slot := by
  cases phase with
  | absent level =>
      refine .absent ?_
      unfold ReaderLevel at level ⊢
      rw [sameFirst, sameSecond]
      exact level
  | reading cursor output remaining frame pos total counter filled
      inside whole paired place =>
      exact
        .reading cursor output remaining frame pos total counter filled
          inside whole
          (fun past earlier => (paired past earlier).grow grown)
          (place.transport sameFirst sameSecond sameOutcomes grown)

/-! ## The iterations of the writer -/

/-- A value that has no partner yet does not show in the pairs. -/
theorem zip_snoc_left
    {first second : List α} {x : α}
    (level : first.length = second.length) :
    (first ++ [x]).zip second = first.zip second := by
  have split :
      (first ++ [x]).zip (second ++ []) =
        first.zip second ++ [x].zip [] :=
    List.zip_append level
  simpa using split

section Writer

variable {session : Session channelCount}
variable {history : List (Event α channelCount)}
variable {cursor : TrackCursor channelCount} {o : α} {rest : List α}

/-- The first push of a frame. -/
theorem WriterPhase.write_left
    (mixer : Mixer α channelCount bufferSize)
    (track : cursor.track = .stereo session.l session.r)
    (cycle : cursor.cycle = 2) (even : cursor.ch = 0)
    (whole : Even (o :: rest).length)
    (known :
      ∀ frame ∈ stereoFrames (o :: rest),
        frame ∈ writtenFrames history)
    (level : WriterLevel session history)
    (pairs : PushesPaired session history) :
    PushesPaired session
        (history ++ [pushEvent mixer cursor.channel o]) ∧
      WriterPhase session
        (history ++ [pushEvent mixer cursor.channel o])
        (some (.writing (writeSample cursor mixer o).1 rest)) := by
  have channel : cursor.channel = session.l := by
    simp [TrackCursor.channel, track, even]
  have nextCh : cursor.nextCh = 1 := by
    simp [TrackCursor.nextCh, track, cycle, even, MixerTrack.advance]
  cases rest with
  | nil => simp at whole
  | cons o' rest =>
      have wholeRest : Even rest.length := by
        simpa [Nat.even_add_one] using whole
      have knownRest :
          ∀ frame ∈ stereoFrames rest,
            frame ∈ writtenFrames history := by
        intro frame member
        exact known frame (List.mem_cons_of_mem _ member)
      have knownFrame : (o, o') ∈ writtenFrames history :=
        known _ (List.mem_cons_self ..)
      rw [channel]
      cases pushed : (mixer.rings session.l).tryPush o with
      | some ring =>
          have event : pushEvent mixer session.l o = .pushed session.l o := by
            simp [pushEvent, pushed]
          have wrote : (writeSample cursor mixer o).1 = cursor.hit := by
            simp [writeSample, channel, pushed]
          have left :
              accepted session.l
                  (history ++ [Event.pushed session.l o]) =
                accepted session.l history ++ [o] := by
            simp [accepted]
          have right :
              accepted session.r
                  (history ++ [Event.pushed session.l o]) =
                accepted session.r history := by
            simp [accepted, session.sides]
          have written :
              writtenFrames (history ++ [Event.pushed session.l o]) =
                writtenFrames history := by
            simp [writtenFrames]
          rw [event, wrote]
          constructor
          · unfold PushesPaired
            rw [left, right, written, zip_snoc_left level]
            exact pairs
          · exact
              .acceptedLeft cursor.hit o o' rest
                (accepted session.l history) track cycle nextCh
                wholeRest (by rw [written]; exact knownRest)
                (by simp [LastRefused, pushOutcomes])
                left (by rw [right]; exact level)
                (by rw [written]; exact knownFrame)
      | none =>
          have event :
              pushEvent mixer session.l o = .refused session.l o := by
            simp [pushEvent, pushed]
          have wrote : (writeSample cursor mixer o).1 = cursor.miss := by
            simp [writeSample, channel, pushed]
          have same :
              ∀ c, accepted c (history ++ [Event.refused session.l o]) =
                accepted c history := by
            intro c
            simp [accepted]
          have written :
              writtenFrames (history ++ [Event.refused session.l o]) =
                writtenFrames history := by
            simp [writtenFrames]
          rw [event, wrote]
          constructor
          · unfold PushesPaired
            rw [same, same, written]
            exact pairs
          · exact
              .refusedLeft cursor.miss o' rest track cycle nextCh
                wholeRest (by rw [written]; exact knownRest)
                (by simp [LastRefused, pushOutcomes])
                (by unfold WriterLevel; rw [same, same]; exact level)

/-- The second push of a frame whose first push was refused. -/
theorem WriterPhase.write_right_refused
    (mixer : Mixer α channelCount bufferSize)
    (track : cursor.track = .stereo session.l session.r)
    (cycle : cursor.cycle = 2) (odd : cursor.ch = 1)
    (whole : Even rest.length)
    (known :
      ∀ frame ∈ stereoFrames rest, frame ∈ writtenFrames history)
    (level : WriterLevel session history)
    (full : (mixer.rings session.r).IsFull)
    (pairs : PushesPaired session history) :
    PushesPaired session
        (history ++ [pushEvent mixer cursor.channel o]) ∧
      WriterPhase session
        (history ++ [pushEvent mixer cursor.channel o])
        (some (.writing (writeSample cursor mixer o).1 rest)) := by
  have channel : cursor.channel = session.r := by
    simp [TrackCursor.channel, track, odd]
  have nextCh : cursor.nextCh = 0 := by
    simp [TrackCursor.nextCh, track, cycle, odd, MixerTrack.advance]
  have refused : (mixer.rings session.r).tryPush o = none :=
    (BoundedFifo.tryPush_eq_none_iff _ _).mpr full
  have event : pushEvent mixer session.r o = .refused session.r o := by
    simp [pushEvent, refused]
  have wrote : (writeSample cursor mixer o).1 = cursor.miss := by
    simp [writeSample, channel, refused]
  have same :
      ∀ c, accepted c (history ++ [Event.refused session.r o]) =
        accepted c history := by
    intro c
    simp [accepted]
  have written :
      writtenFrames (history ++ [Event.refused session.r o]) =
        writtenFrames history := by
    simp [writtenFrames]
  rw [channel, event, wrote]
  constructor
  · unfold PushesPaired
    rw [same, same, written]
    exact pairs
  · exact
      .between cursor.miss rest track cycle nextCh whole
        (by rw [written]; exact known)
        (by unfold WriterLevel; rw [same, same]; exact level)

/-- The second push of a frame whose first push was accepted. -/
theorem WriterPhase.write_right_accepted
    (mixer : Mixer α channelCount bufferSize)
    {x : α} {front : List α}
    (track : cursor.track = .stereo session.l session.r)
    (cycle : cursor.cycle = 2) (odd : cursor.ch = 1)
    (whole : Even rest.length)
    (known :
      ∀ frame ∈ stereoFrames rest, frame ∈ writtenFrames history)
    (ahead : accepted session.l history = front ++ [x])
    (behind : front.length = (accepted session.r history).length)
    (frame : (x, o) ∈ writtenFrames history)
    (room : ¬ (mixer.rings session.r).IsFull)
    (pairs : PushesPaired session history) :
    PushesPaired session
        (history ++ [pushEvent mixer cursor.channel o]) ∧
      WriterPhase session
        (history ++ [pushEvent mixer cursor.channel o])
        (some (.writing (writeSample cursor mixer o).1 rest)) := by
  have channel : cursor.channel = session.r := by
    simp [TrackCursor.channel, track, odd]
  have nextCh : cursor.nextCh = 0 := by
    simp [TrackCursor.nextCh, track, cycle, odd, MixerTrack.advance]
  obtain ⟨ring, pushed⟩ :
      ∃ ring, (mixer.rings session.r).tryPush o = some ring :=
    Option.ne_none_iff_exists'.mp
      (fun refused =>
        room ((BoundedFifo.tryPush_eq_none_iff _ _).mp refused))
  have event : pushEvent mixer session.r o = .pushed session.r o := by
    simp [pushEvent, pushed]
  have wrote : (writeSample cursor mixer o).1 = cursor.hit := by
    simp [writeSample, channel, pushed]
  have left :
      accepted session.l (history ++ [Event.pushed session.r o]) =
        front ++ [x] := by
    simp [accepted, session.sides.symm, ← ahead]
  have right :
      accepted session.r (history ++ [Event.pushed session.r o]) =
        accepted session.r history ++ [o] := by
    simp [accepted]
  have written :
      writtenFrames (history ++ [Event.pushed session.r o]) =
        writtenFrames history := by
    simp [writtenFrames]
  rw [channel, event, wrote]
  constructor
  · intro pair member
    rw [left, right, List.zip_append behind] at member
    rw [written]
    rcases List.mem_append.mp member with older | newest
    · have stillOlder :
          pair ∈
            (accepted session.l history).zip
              (accepted session.r history) := by
        rw [ahead, zip_snoc_left behind]
        exact older
      exact pairs pair stillOlder
    · rw [List.mem_singleton.mp newest]
      exact frame
  · exact
      .between cursor.hit rest track cycle nextCh whole
        (by rw [written]; exact known)
        (by
          unfold WriterLevel
          rw [left, right, List.length_append, List.length_append,
            behind]
          rfl)

end Writer

/-! ## The iterations of the reader -/

section Reader

variable {session : Session channelCount}
variable {history : List (Event α channelCount)}
variable {output : List α} {frame pos : ℕ}
variable [Sample α]

theorem popOrSilence_of_empty
    {ring : BoundedFifo α bufferSize} (empty : ring.IsEmpty) :
    popOrSilence ring = Sample.EQUILIBRIUM := by
  have nothing : ring.contents = [] := empty
  rw [popOrSilence_eq, nothing]
  rfl

theorem popOrSilence_of_contents
    {ring : BoundedFifo α bufferSize} {v : α} {stored : List α}
    (contents : ring.contents = v :: stored) :
    popOrSilence ring = v := by
  rw [popOrSilence_eq, contents]
  rfl

/-- A sample between the two sides changes nothing for the frame. -/
theorem ReaderPlace.skip
    (value : α)
    (notFirst : pos ≠ session.first) (notSecond : pos ≠ session.second)
    (place : ReaderPlace session history output frame pos) :
    ReaderPlace session history (output ++ [value]) frame (pos + 1) := by
  have keep :
      ∀ {index : ℕ} {u : α},
        output[index]? = some u → (output ++ [value])[index]? = some u := by
    intro index u found
    rw [List.getElem?_append_left
      (List.getElem?_eq_some_iff.mp found).1]
    exact found
  cases place with
  | before early level => exact .before (by omega) level
  | starvedFirst entered early starved silent level =>
      exact .starvedFirst (by omega) (by omega) starved (keep silent) level
  | poppedFirst u front entered early taken written ahead behind =>
      exact
        .poppedFirst u front (by omega) (by omega) taken (keep written)
          ahead behind
  | after passed paired level =>
      exact .after (by omega) (paired.extend [value]) level

/-- The pop of the first side of a frame. -/
theorem ReaderPlace.read_first
    (mixer : Mixer α channelCount bufferSize)
    (filled : output.length = frame * channelCount + session.first)
    (place :
      ReaderPlace session history output frame session.first) :
    ReaderPlace session
      (history ++ [popEvent mixer session.first])
      (output ++ [popOrSilence (mixer.rings session.first)])
      frame (session.first + 1) := by
  have order : (session.first : ℕ) < session.second :=
    session.first_lt_second
  have level : ReaderLevel session history := by
    cases place with
    | before early level => exact level
    | starvedFirst entered => omega
    | poppedFirst u front entered => omega
    | after passed => omega
  have sameSecond :
      delivered session.second
          (history ++ [popEvent mixer session.first]) =
        delivered session.second history :=
    delivered_popEvent_of_ne mixer session.first_lt_second.ne
  have written :
      ∀ value : α,
        (output ++ [value])[frame * channelCount + session.first]? =
          some value := by
    intro value
    rw [← filled]
    exact List.getElem?_concat_length
  unfold ReaderLevel at level
  cases contents : (mixer.rings session.first).contents with
  | nil =>
      rcases history_of_starved history contents with ⟨starved, same⟩
      rw [popOrSilence_of_empty contents]
      exact
        .starvedFirst (Nat.lt_succ_self _) order starved (written _)
          (by unfold ReaderLevel; rw [same, same]; exact level)
  | cons v stored =>
      rcases history_of_popped history contents with ⟨taken, appended⟩
      rw [popOrSilence_of_contents contents]
      exact
        .poppedFirst v (delivered session.first history)
          (Nat.lt_succ_self _) order taken (written _) appended
          (by rw [sameSecond]; exact level)

/--
The pop of the second side of a frame: if it meets the fate of the first one,
the frame is paired.
-/
theorem ReaderPlace.read_second
    {mixer : Mixer α channelCount bufferSize}
    (conserved : SidesConserved session mixer history)
    (pairs : PushesPaired session history)
    (unsplit :
      (mixer.rings session.second).IsEmpty ↔
        LastStarved session.first history)
    (filled : output.length = frame * channelCount + session.second)
    (place :
      ReaderPlace session history output frame session.second) :
    ReaderPlace session
      (history ++ [popEvent mixer session.second])
      (output ++ [popOrSilence (mixer.rings session.second)])
      frame (session.second + 1) := by
  have order : (session.first : ℕ) < session.second :=
    session.first_lt_second
  have sameFirst :
      delivered session.first
          (history ++ [popEvent mixer session.second]) =
        delivered session.first history :=
    delivered_popEvent_of_ne mixer session.first_lt_second.ne'
  have sameFrames :
      writtenFrames (history ++ [popEvent mixer session.second]) =
        writtenFrames history := by
    simp [writtenFrames_append]
  have secondAt :
      ∀ value : α,
        (output ++ [value])[frame * channelCount + session.second]? =
          some value := by
    intro value
    rw [← filled]
    exact List.getElem?_concat_length
  have firstAt :
      ∀ {u : α} (value : α),
        output[frame * channelCount + session.first]? = some u →
          (output ++ [value])[frame * channelCount + session.first]? =
            some u := by
    intro u value found
    rw [List.getElem?_append_left
      (List.getElem?_eq_some_iff.mp found).1]
    exact found
  cases place with
  | before early => omega
  | after passed => omega
  | starvedFirst entered early starved silent level =>
      have empty : (mixer.rings session.second).IsEmpty :=
        unsplit.mpr starved
      rcases history_of_starved history empty with ⟨_, same⟩
      rw [popOrSilence_of_empty empty]
      refine .after (Nat.lt_succ_self _) ?_ ?_
      · exact
          .of_sides (firstAt _ silent) (secondAt _)
            (fun _ => Or.inr ⟨rfl, rfl⟩) (fun _ => Or.inr ⟨rfl, rfl⟩)
      · unfold ReaderLevel at level ⊢
        rw [same, same]
        exact level
  | poppedFirst u front entered early taken written ahead behind =>
      obtain ⟨v, stored, contents⟩ :
          ∃ v stored,
            (mixer.rings session.second).contents = v :: stored :=
        List.exists_cons_of_ne_nil
          (fun empty => taken (unsplit.mp empty))
      rcases history_of_popped history contents with ⟨_, appended⟩
      have firstAccepted :
          (accepted session.first history)[front.length]? = some u := by
        rw [← conserved.first, ahead]
        simp
      have secondAccepted :
          (accepted session.second history)[front.length]? = some v := by
        rw [← conserved.second, contents, behind]
        simp
      rcases pairs.at_index firstAccepted secondAccepted with
        ⟨forward, backward⟩
      rw [popOrSilence_of_contents contents]
      refine .after (Nat.lt_succ_self _) ?_ ?_
      · rw [sameFrames]
        exact
          .of_sides (firstAt _ written) (secondAt _) forward backward
      · unfold ReaderLevel
        rw [sameFirst, appended, ahead, List.length_append,
          List.length_append, behind]
        rfl

/-- One pop moves the reader to the next sample of its frame. -/
theorem ReaderPlace.advance
    {mixer : Mixer α channelCount bufferSize} {c : Fin channelCount}
    (conserved : SidesConserved session mixer history)
    (pairs : PushesPaired session history)
    (unsplit :
      c = session.second →
        ((mixer.rings session.second).IsEmpty ↔
          LastStarved session.first history))
    (filled : output.length = frame * channelCount + c)
    (place : ReaderPlace session history output frame c) :
    ReaderPlace session
      (history ++ [popEvent mixer c])
      (output ++ [popOrSilence (mixer.rings c)])
      frame (c + 1) := by
  by_cases isFirst : c = session.first
  · subst isFirst
    exact place.read_first mixer filled
  · by_cases isSecond : c = session.second
    · subst isSecond
      exact place.read_second conserved pairs (unsplit rfl) filled
    · have carried :
          ReaderPlace session (history ++ [popEvent mixer c])
            output frame c :=
        place.transport
          (delivered_popEvent_of_ne mixer isFirst)
          (delivered_popEvent_of_ne mixer isSecond)
          (popOutcomes_popEvent_of_ne mixer isFirst)
          (fun pair member => by simpa [writtenFrames_append] using member)
      exact
        carried.skip _ (fun equal => isFirst (Fin.ext equal))
          (fun equal => isSecond (Fin.ext equal))

/-- One iteration of a read call, which may complete a frame. -/
theorem ReaderPhase.advance
    {mixer : Mixer α channelCount bufferSize}
    {cursor moved : MixerCursor} {remaining total : ℕ}
    {c : Fin channelCount}
    (conserved : SidesConserved session mixer history)
    (pairs : PushesPaired session history)
    (unsplit :
      c = session.second →
        ((mixer.rings session.second).IsEmpty ↔
          LastStarved session.first history))
    (counter : cursor.ch = frame * channelCount + c)
    (filled : output.length = frame * channelCount + c)
    (whole :
      frame * channelCount + c + (remaining + 1) = total * channelCount)
    (paired :
      ∀ past < frame,
        PairedAt session (writtenFrames history) output past)
    (place : ReaderPlace session history output frame c)
    (next : moved.ch = cursor.ch + 1) :
    ReaderPhase session (history ++ [popEvent mixer c])
      (some
        (.readingMixer moved
          (output ++ [popOrSilence (mixer.rings c)]) remaining)) := by
  have advanced := place.advance conserved pairs unsplit filled
  have sameFrames :
      writtenFrames (history ++ [popEvent mixer c]) =
        writtenFrames history := by
    simp [writtenFrames_append]
  have pairedPast :
      ∀ past < frame,
        PairedAt session
          (writtenFrames (history ++ [popEvent mixer c]))
          (output ++ [popOrSilence (mixer.rings c)]) past := by
    intro past earlier
    rw [sameFrames]
    exact (paired past earlier).extend _
  by_cases more : (c : ℕ) + 1 < channelCount
  · exact
      .reading moved _ remaining frame (c + 1) total
        (by rw [next, counter, Nat.add_assoc])
        (by rw [List.length_append, filled]; rfl)
        more (by omega) pairedPast advanced
  · have last : (c : ℕ) + 1 = channelCount := by omega
    have frameEnd :
        (frame + 1) * channelCount = frame * channelCount + c + 1 := by
      rw [Nat.succ_mul, Nat.add_assoc, last]
    have beyond : (session.second : ℕ) < c + 1 := by
      rw [last]
      exact session.second.isLt
    have completed :
        PairedAt session
            (writtenFrames (history ++ [popEvent mixer c]))
            (output ++ [popOrSilence (mixer.rings c)]) frame ∧
          ReaderLevel session (history ++ [popEvent mixer c]) := by
      cases advanced with
      | before early =>
          have order := session.first_lt_second
          omega
      | starvedFirst entered early => omega
      | poppedFirst u front entered early => omega
      | after passed paired level => exact ⟨paired, level⟩
    exact
      .reading moved _ remaining (frame + 1) 0 total
        (by rw [next, counter, frameEnd, Nat.add_zero])
        (by rw [List.length_append, filled, frameEnd]; rfl)
        (by omega) (by omega)
        (fun past earlier => by
          rcases Nat.lt_succ_iff_lt_or_eq.mp earlier with before | here
          · exact pairedPast past before
          · rw [here]
            exact completed.1)
        (.before (Nat.zero_le _) completed.2)

end Reader

end Audiopipe.Mixing.StereoPhases
