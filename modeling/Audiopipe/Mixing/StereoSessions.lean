import Audiopipe.Mixing.ConcurrentCalls
import Mathlib.Data.Fin.Basic

/-!
# Stereo sessions and their histories

One call slot writes whole stereo frames to two different channels, another
reads whole frames of the mixer.  Both lock one ring at a time, so the reader
can run between the two pushes of a frame, and the writer between the two
pops of one.

A frame is split when its two sides meet different fates: one side of a
written frame is refused and the other is not, or one side of an output frame
is starved and the other is not.
-/

namespace Audiopipe.Mixing.StereoSessions

open Audiopipe.Foundation.BoundedQueues
open Audiopipe.Mixing.TrackSelector
open Audiopipe.Mixing.RingTransfer
open Audiopipe.Mixing.TransferLaws
open Audiopipe.Mixing.ConcurrentCalls

variable {α : Type} {channelCount bufferSize : ℕ}

/-! ## Sessions -/

/-- A writer of the pair `(l, r)` and a reader of the whole mixer. -/
structure Session (channelCount : ℕ) where
  writer : ℕ
  reader : ℕ
  apart : writer ≠ reader
  l : Fin channelCount
  r : Fin channelCount
  sides : l ≠ r

namespace Session

variable (session : Session channelCount)

def sel : MixerTrackSelector := .stereo session.l session.r

/-- The side that the reader visits first in a frame. -/
def first : Fin channelCount := min session.l session.r

/-- The side that the reader visits last in a frame. -/
def second : Fin channelCount := max session.l session.r

theorem first_lt_second : session.first < session.second := by
  unfold first second
  exact min_lt_max.mpr session.sides

/--
The calls of a session: the writer writes buffers of whole stereo frames, the
reader reads buffers of whole frames of the mixer.
-/
def Calls (action : Action α) : Prop :=
  match action with
  | .start id call =>
      (id = session.writer ∧
        ∃ inputBuffer : List α, Even inputBuffer.length ∧
          (call = .writeToMixerAsync inputBuffer session.sel ∨
            call = .writeToMixerSync inputBuffer session.sel)) ∨
      (id = session.reader ∧
        ∃ frames, call = .readFromMixerSync (frames * channelCount))
  | .advance _ => True

end Session

/-- The frames of an interleaved stereo buffer. -/
def stereoFrames : List α → List (α × α)
  | left :: right :: rest => (left, right) :: stereoFrames rest
  | _ => []

/-- The frames of all buffers that were given to write calls. -/
def writtenFrames :
    List (Event α channelCount) → List (α × α) :=
  List.flatMap fun
    | .started _ (.writeToMixerAsync inputBuffer _)
    | .started _ (.writeToMixerSync inputBuffer _) =>
        stereoFrames inputBuffer
    | _ => []

/-- Both sides of one written frame, or silence on both sides. -/
def Paired [Sample α] (written : List (α × α)) (left right : α) : Prop :=
  (left, right) ∈ written ∨
    (left = Sample.EQUILIBRIUM ∧ right = Sample.EQUILIBRIUM)

/-- Frame `frame` of an output buffer is paired at the sides of a session. -/
def PairedAt [Sample α]
    (session : Session channelCount) (written : List (α × α))
    (output : List α) (frame : ℕ) : Prop :=
  ∃ left right,
    output[frame * channelCount + session.l]? = some left ∧
      output[frame * channelCount + session.r]? = some right ∧
      Paired written left right

/-- Every complete frame that the reader has put out so far is paired. -/
def FramesPaired [Sample α]
    (session : Session channelCount)
    (pool : Pool α channelCount bufferSize) : Prop :=
  ∀ cursor output remaining,
    pool.tasks session.reader =
        some (.readingMixer cursor output remaining) →
      ∀ frame,
        (frame + 1) * channelCount ≤ output.length →
          PairedAt session (writtenFrames pool.history) output frame

/-! ## Unsplit frames -/

/-- The outcomes of the push attempts on the ring of `c`. -/
def pushOutcomes (c : Fin channelCount) :
    List (Event α channelCount) → List Bool :=
  List.filterMap fun
    | .pushed d _ => if d = c then some true else none
    | .refused d _ => if d = c then some false else none
    | _ => none

/-- The outcomes of the pop attempts on the ring of `c`. -/
def popOutcomes (c : Fin channelCount) :
    List (Event α channelCount) → List Bool :=
  List.filterMap fun
    | .popped d _ => if d = c then some true else none
    | .starved d => if d = c then some false else none
    | _ => none

/-- The last push attempt on the ring of `c` was refused. -/
def LastRefused (c : Fin channelCount)
    (history : List (Event α channelCount)) : Prop :=
  (pushOutcomes c history).getLast? = some false

/-- The last pop attempt on the ring of `c` was starved. -/
def LastStarved (c : Fin channelCount)
    (history : List (Event α channelCount)) : Prop :=
  (popOutcomes c history).getLast? = some false

instance (c : Fin channelCount) (history : List (Event α channelCount)) :
    Decidable (LastRefused c history) :=
  inferInstanceAs
    (Decidable ((pushOutcomes c history).getLast? = some false))

instance (c : Fin channelCount) (history : List (Event α channelCount)) :
    Decidable (LastStarved c history) :=
  inferInstanceAs
    (Decidable ((popOutcomes c history).getLast? = some false))

/--
The step splits no frame.  A push to the right ring finds it full exactly
when the left sample of the frame was refused, and a pop from the second of
the two rings finds it empty exactly when the first one was.
-/
def Unsplit
    (session : Session channelCount)
    (pool : Pool α channelCount bufferSize)
    (action : Action α) : Prop :=
  match action with
  | .start _ _ => True
  | .advance id =>
      match pool.tasks id with
      | some (.writing cursor (_ :: _)) =>
          cursor.channel = session.r →
            ((pool.mixer.rings session.r).IsFull ↔
              LastRefused session.l pool.history)
      | some (.readingMixer cursor _ (_ + 1)) =>
          cursor.ch % channelCount = session.second →
            ((pool.mixer.rings session.second).IsEmpty ↔
              LastStarved session.first pool.history)
      | _ => True

/-! ## Histories grow at the end -/

section Histories

variable (c : Fin channelCount) (history : List (Event α channelCount))

theorem accepted_append (events : List (Event α channelCount)) :
    accepted c (history ++ events) =
      accepted c history ++ accepted c events := by
  simp [accepted]

theorem delivered_append (events : List (Event α channelCount)) :
    delivered c (history ++ events) =
      delivered c history ++ delivered c events := by
  simp [delivered]

theorem pushOutcomes_append (events : List (Event α channelCount)) :
    pushOutcomes c (history ++ events) =
      pushOutcomes c history ++ pushOutcomes c events := by
  simp [pushOutcomes]

theorem popOutcomes_append (events : List (Event α channelCount)) :
    popOutcomes c (history ++ events) =
      popOutcomes c history ++ popOutcomes c events := by
  simp [popOutcomes]

theorem writtenFrames_append (events : List (Event α channelCount)) :
    writtenFrames (history ++ events) =
      writtenFrames history ++ writtenFrames events := by
  simp [writtenFrames]

end Histories

/-! ## What the start of a call adds to the histories -/

/-- A call that starts makes no attempt on any ring. -/
theorem histories_started
    (c : Fin channelCount) (history : List (Event α channelCount))
    (id : ℕ) (call : Call α) :
    accepted c (history ++ [.started id call]) = accepted c history ∧
      delivered c (history ++ [.started id call]) =
        delivered c history ∧
      pushOutcomes c (history ++ [.started id call]) =
        pushOutcomes c history ∧
      popOutcomes c (history ++ [.started id call]) =
        popOutcomes c history := by
  simp [accepted, delivered, pushOutcomes, popOutcomes]

/-- Both write calls of a session run the same loop on the same frames. -/
theorem Session.enter_write
    (session : Session channelCount) (id : ℕ)
    {call : Call α} {inputBuffer : List α}
    (written :
      call = .writeToMixerAsync inputBuffer session.sel ∨
        call = .writeToMixerSync inputBuffer session.sel) :
    call.enter =
        some
          (Task.writing (.start (.stereo session.l session.r) 2)
            inputBuffer) ∧
      writtenFrames [(.started id call : Event α channelCount)] =
        stereoFrames inputBuffer := by
  rcases written with rfl | rfl
  · simp [Call.enter, sel, MixerTrackSelector.channelCount, writtenFrames]
  · simp [Call.enter, sel, MixerTrackSelector.channelCount, writtenFrames]

/-! ## What an attempt adds to the histories -/

section Events

variable (mixer : Mixer α channelCount bufferSize)
variable (c d : Fin channelCount)

@[simp]
theorem delivered_pushEvent (o : α) :
    delivered c [pushEvent mixer d o] = [] := by
  unfold pushEvent
  cases (mixer.rings d).tryPush o <;> rfl

@[simp]
theorem popOutcomes_pushEvent (o : α) :
    popOutcomes c [pushEvent mixer d o] = [] := by
  unfold pushEvent
  cases (mixer.rings d).tryPush o <;> rfl

@[simp]
theorem writtenFrames_pushEvent (o : α) :
    writtenFrames [pushEvent mixer d o] = [] := by
  unfold pushEvent
  cases (mixer.rings d).tryPush o <;> rfl

@[simp]
theorem accepted_popEvent :
    accepted c [popEvent mixer d] = [] := by
  unfold popEvent
  cases (mixer.rings d).tryPop <;> rfl

@[simp]
theorem pushOutcomes_popEvent :
    pushOutcomes c [popEvent mixer d] = [] := by
  unfold popEvent
  cases (mixer.rings d).tryPop <;> rfl

@[simp]
theorem writtenFrames_popEvent :
    writtenFrames [popEvent mixer d] = [] := by
  unfold popEvent
  cases (mixer.rings d).tryPop <;> rfl

end Events

section Pops

variable {history : List (Event α channelCount)}

theorem delivered_popEvent_of_ne
    (mixer : Mixer α channelCount bufferSize)
    {c d : Fin channelCount} (different : c ≠ d) :
    delivered d (history ++ [popEvent mixer c]) =
      delivered d history := by
  unfold popEvent
  cases (mixer.rings c).tryPop with
  | none => simp [delivered]
  | some taken => simp [delivered, different]

theorem popOutcomes_popEvent_of_ne
    (mixer : Mixer α channelCount bufferSize)
    {c d : Fin channelCount} (different : c ≠ d) :
    popOutcomes d (history ++ [popEvent mixer c]) =
      popOutcomes d history := by
  unfold popEvent
  cases (mixer.rings c).tryPop with
  | none => simp [popOutcomes, different]
  | some taken => simp [popOutcomes, different]

variable (history) in
/-- A pop that finds nothing. -/
theorem history_of_starved
    {mixer : Mixer α channelCount bufferSize} {c : Fin channelCount}
    (empty : (mixer.rings c).IsEmpty) :
    LastStarved c (history ++ [popEvent mixer c]) ∧
      ∀ d, delivered d (history ++ [popEvent mixer c]) =
        delivered d history := by
  have failed : (mixer.rings c).tryPop = none :=
    (BoundedFifo.tryPop_eq_none_iff _).mpr empty
  have event : popEvent mixer c = .starved c := by
    simp [popEvent, failed]
  rw [event]
  constructor
  · simp [LastStarved, popOutcomes]
  · intro d
    simp [delivered]

variable (history) in
/-- A pop that finds the sample `v`. -/
theorem history_of_popped
    {mixer : Mixer α channelCount bufferSize} {c : Fin channelCount}
    {v : α} {stored : List α}
    (contents : (mixer.rings c).contents = v :: stored) :
    ¬ LastStarved c (history ++ [popEvent mixer c]) ∧
      delivered c (history ++ [popEvent mixer c]) =
        delivered c history ++ [v] := by
  have event : popEvent mixer c = .popped c v := by
    unfold popEvent
    cases popped : (mixer.rings c).tryPop with
    | none =>
        have empty : (mixer.rings c).IsEmpty :=
          (BoundedFifo.tryPop_eq_none_iff _).mp popped
        unfold BoundedFifo.IsEmpty at empty
        simp [empty] at contents
    | some taken =>
        have found := BoundedFifo.tryPop_eq_some popped
        rw [contents] at found
        rw [(List.cons.inj found).1]
  rw [event]
  constructor
  · simp [LastStarved, popOutcomes]
  · simp [delivered]

end Pops

/-! ## Relations between the histories -/

/-- Samples that entered the two rings pairwise belong to one frame. -/
def PushesPaired
    (session : Session channelCount)
    (history : List (Event α channelCount)) : Prop :=
  ∀ pair ∈ (accepted session.l history).zip (accepted session.r history),
    pair ∈ writtenFrames history

section Frames

variable [Sample α]
variable {session : Session channelCount}
variable {history : List (Event α channelCount)}
variable {output : List α} {frame : ℕ}

theorem PairedAt.grow
    {written later : List (α × α)}
    (grown : ∀ pair ∈ written, pair ∈ later)
    (paired : PairedAt session written output frame) :
    PairedAt session later output frame := by
  rcases paired with ⟨left, right, leftAt, rightAt, known | silent⟩
  · exact ⟨left, right, leftAt, rightAt, Or.inl (grown _ known)⟩
  · exact ⟨left, right, leftAt, rightAt, Or.inr silent⟩

/-- A frame is paired when its sides are, in whichever order they came. -/
theorem PairedAt.of_sides
    {written : List (α × α)} {u w : α}
    (firstAt : output[frame * channelCount + session.first]? = some u)
    (secondAt : output[frame * channelCount + session.second]? = some w)
    (forward : session.l < session.r → Paired written u w)
    (backward : session.r < session.l → Paired written w u) :
    PairedAt session written output frame := by
  rcases lt_or_gt_of_ne session.sides with order | order
  · have isFirst : session.first = session.l := min_eq_left order.le
    have isSecond : session.second = session.r := max_eq_right order.le
    rw [isFirst] at firstAt
    rw [isSecond] at secondAt
    exact ⟨u, w, firstAt, secondAt, forward order⟩
  · have isFirst : session.first = session.r := min_eq_right order.le
    have isSecond : session.second = session.l := max_eq_left order.le
    rw [isFirst] at firstAt
    rw [isSecond] at secondAt
    exact ⟨w, u, secondAt, firstAt, backward order⟩

/-- More output does not change a frame that is already there. -/
theorem PairedAt.extend
    {written : List (α × α)} (more : List α)
    (paired : PairedAt session written output frame) :
    PairedAt session written (output ++ more) frame := by
  rcases paired with ⟨left, right, leftAt, rightAt, known⟩
  have keep :
      ∀ {index : ℕ} {value : α},
        output[index]? = some value →
          (output ++ more)[index]? = some value := by
    intro index value found
    rw [List.getElem?_append_left
      (List.getElem?_eq_some_iff.mp found).1]
    exact found
  exact ⟨left, right, keep leftAt, keep rightAt, known⟩

end Frames

section Sides

variable {session : Session channelCount}
variable {history : List (Event α channelCount)}

/-- The conservation laws of the two rings, as the reader uses them. -/
def SidesConserved
    (session : Session channelCount)
    (mixer : Mixer α channelCount bufferSize)
    (history : List (Event α channelCount)) : Prop :=
  delivered session.l history ++ (mixer.rings session.l).contents =
      accepted session.l history ∧
    delivered session.r history ++ (mixer.rings session.r).contents =
      accepted session.r history

theorem SidesConserved.first
    {mixer : Mixer α channelCount bufferSize}
    (conserved : SidesConserved session mixer history) :
    delivered session.first history ++
        (mixer.rings session.first).contents =
      accepted session.first history := by
  rcases min_choice session.l session.r with isLeft | isRight
  · simpa only [Session.first, isLeft] using conserved.1
  · simpa only [Session.first, isRight] using conserved.2

theorem SidesConserved.second
    {mixer : Mixer α channelCount bufferSize}
    (conserved : SidesConserved session mixer history) :
    delivered session.second history ++
        (mixer.rings session.second).contents =
      accepted session.second history := by
  rcases max_choice session.l session.r with isLeft | isRight
  · simpa only [Session.second, isLeft] using conserved.1
  · simpa only [Session.second, isRight] using conserved.2

/-- Samples at one index of the two accepted histories form a frame. -/
theorem PushesPaired.at_index [Sample α]
    (pairs : PushesPaired session history) {index : ℕ} {u w : α}
    (firstAt : (accepted session.first history)[index]? = some u)
    (secondAt : (accepted session.second history)[index]? = some w) :
    (session.l < session.r → Paired (writtenFrames history) u w) ∧
      (session.r < session.l → Paired (writtenFrames history) w u) := by
  constructor
  · intro order
    have isFirst : session.first = session.l := min_eq_left order.le
    have isSecond : session.second = session.r := max_eq_right order.le
    rw [isFirst] at firstAt
    rw [isSecond] at secondAt
    have member :
        ((accepted session.l history).zip
          (accepted session.r history))[index]? = some (u, w) :=
      List.getElem?_zip_eq_some.mpr ⟨firstAt, secondAt⟩
    exact Or.inl (pairs _ (List.mem_of_getElem? member))
  · intro order
    have isFirst : session.first = session.r := min_eq_right order.le
    have isSecond : session.second = session.l := max_eq_left order.le
    rw [isFirst] at firstAt
    rw [isSecond] at secondAt
    have member :
        ((accepted session.l history).zip
          (accepted session.r history))[index]? = some (w, u) :=
      List.getElem?_zip_eq_some.mpr ⟨secondAt, firstAt⟩
    exact Or.inl (pairs _ (List.mem_of_getElem? member))

end Sides

end Audiopipe.Mixing.StereoSessions
