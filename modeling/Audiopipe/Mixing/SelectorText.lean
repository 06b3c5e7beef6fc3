import Audiopipe.Mixing.RingTransfer

/-!
# Selectors on the command line

A selector is given as text: one number for a mono track, two numbers with a
comma between them for a stereo track.  A text with more commas is taken for
the first two channels, whatever stands between the commas; any other text
that is not spelled so ends the program.
-/

namespace Audiopipe.Mixing.SelectorText

open Audiopipe.Mixing.TrackSelector
open Audiopipe.Mixing.RingTransfer

/-! ## Numbers -/

/-- The digits of a number that may have a plus sign in front. -/
def unsigned : List Char → List Char
  | '+' :: digits => digits
  | digits => digits

/-- `usize::from_str`: at least one digit, and a machine word in value. -/
def parseUsize (text : List Char) : Option ℕ :=
  let digits := unsigned text
  if digits ≠ [] ∧ digits.all Char.isDigit = true ∧
      Nat.ofDigitChars 10 digits 0 < UInt64.size then
    some (Nat.ofDigitChars 10 digits 0)
  else
    none

/-- No number is spelled with a comma. -/
theorem parseUsize_comma {text : List Char} (comma : ',' ∈ text) :
    parseUsize text = none := by
  have stays : ',' ∈ unsigned text := by
    unfold unsigned
    split
    · next digits =>
        rcases List.mem_cons.mp comma with plus | later
        · exact absurd plus (by decide)
        · exact later
    · exact comma
  refine if_neg fun spelled => ?_
  exact absurd (List.all_eq_true.mp spelled.2.1 ',' stays) (by decide)

/-- A number is read back from its decimal digits. -/
theorem parseUsize_toDigits {n : ℕ} (small : n < UInt64.size) :
    parseUsize (Nat.toDigits 10 n) = some n := by
  have digits : ∀ c ∈ Nat.toDigits 10 n, c.isDigit = true :=
    fun c member =>
      Nat.isDigit_of_mem_toDigits (by decide) (by decide) member
  have unsignedDigits : unsigned (Nat.toDigits 10 n) = Nat.toDigits 10 n := by
    unfold unsigned
    split
    · next rest spelled =>
        have plus := digits '+' (by rw [spelled]; exact List.mem_cons_self ..)
        exact absurd plus (by decide)
    · rfl
  have some : Nat.toDigits 10 n ≠ [] :=
    List.ne_nil_of_length_pos Nat.length_toDigits_pos
  simp only [parseUsize, unsignedDigits, Nat.ofDigitChars_ten_toDigits]
  exact if_pos ⟨some, List.all_eq_true.mpr digits, small⟩

/-! ## Selectors -/

/-- A number where one is expected; anything else panics. -/
def expectNumber (text : List Char) : Except (Abort Empty) ℕ :=
  match parseUsize text with
  | some n => .ok n
  | none => .error .panic

/-- `From<String>` of `MixerTrackSelector`. -/
def fromString (value : String) : Except (Abort Empty) MixerTrackSelector :=
  match value.toList.splitOn ',' with
  | [v] => do return .mono (← expectNumber v)
  | [l, r] => do
      let l ← expectNumber l
      let r ← expectNumber r
      return .stereo l r
  | _ => return .stereo 0 1

/-- The texts that stand for a selector. -/
inductive Spells : List Char → MixerTrackSelector → Prop where
  | mono (text : List Char) (c : ℕ) (number : parseUsize text = some c) :
      Spells text (.mono c)
  | stereo (left right : List Char) (l r : ℕ)
      (leftNumber : parseUsize left = some l)
      (rightNumber : parseUsize right = some r) :
      Spells (left ++ ',' :: right) (.stereo l r)
  | several (text : List Char) (commas : 2 ≤ text.count ',') :
      Spells text (.stereo 0 1)

/-- There is one part more than there are separators. -/
theorem length_splitOn (a : Char) (text : List Char) :
    (text.splitOn a).length = text.count a + 1 := by
  induction text with
  | nil => rfl
  | cons first rest induction =>
      rw [List.splitOn_cons_eq_if_modifyHead, List.count_cons]
      by_cases here : first = a
      · simp [here, induction]
      · simp [here, induction]

theorem not_comma_of_number {text : List Char} {n : ℕ}
    (number : parseUsize text = some n) :
    ',' ∉ text := by
  intro comma
  cases (parseUsize_comma comma).symm.trans number

theorem expectNumber_eq_ok_iff {text : List Char} {n : ℕ} :
    expectNumber text = .ok n ↔ parseUsize text = some n := by
  unfold expectNumber
  cases parseUsize text with
  | none => simp
  | some m => simp

/-- What `split` makes of a text with at most one comma, or more of them. -/
theorem splitOn_pair {left right : List Char}
    (notLeft : ',' ∉ left) (notRight : ',' ∉ right) :
    (left ++ ',' :: right).splitOn ',' = [left, right] := by
  rw [List.splitOn_append_cons_self_of_not_mem notLeft,
    List.splitOn_eq_singleton notRight]

/-- Every text is accepted as the selector that it stands for, or panics. -/
theorem fromString_eq_ok_iff (value : String) (sel : MixerTrackSelector) :
    fromString value = .ok sel ↔ Spells value.toList sel := by
  have joined :
      [','].intercalate (value.toList.splitOn ',') = value.toList :=
    List.intercalate_splitOn ','
  have counted := length_splitOn ',' value.toList
  unfold fromString
  generalize value.toList = text at joined counted ⊢
  constructor
  · intro accepted
    split at accepted
    · next v single =>
        rw [single] at joined
        cases number : expectNumber v with
        | error e =>
            rw [number] at accepted
            cases accepted
        | ok c =>
            rw [number] at accepted
            cases accepted
            have whole : v = text := by simpa using joined
            exact .mono text c (expectNumber_eq_ok_iff.mp (whole ▸ number))
    · next l r pair =>
        rw [pair] at joined
        cases leftNumber : expectNumber l with
        | error e =>
            rw [leftNumber] at accepted
            cases accepted
        | ok left =>
            cases rightNumber : expectNumber r with
            | error e =>
                rw [leftNumber, rightNumber] at accepted
                cases accepted
            | ok right =>
                rw [leftNumber, rightNumber] at accepted
                cases accepted
                have whole : l ++ ',' :: r = text := by
                  simpa [List.intercalate] using joined
                rw [← whole]
                exact
                  .stereo l r left right
                    (expectNumber_eq_ok_iff.mp leftNumber)
                    (expectNumber_eq_ok_iff.mp rightNumber)
    · next notOne notTwo =>
        cases accepted
        refine .several text ?_
        by_contra few
        cases parts : text.splitOn ',' with
        | nil => exact List.splitOn_ne_nil ',' text parts
        | cons first rest =>
            cases rest with
            | nil => exact notOne first parts
            | cons second rest =>
                cases rest with
                | nil => exact notTwo first second parts
                | cons third rest =>
                    rw [parts] at counted
                    simp only [List.length_cons] at counted
                    omega
  · intro spelled
    cases spelled with
    | mono text c number =>
        rw [List.splitOn_eq_singleton (not_comma_of_number number)]
        simp only [expectNumber_eq_ok_iff.mpr number]
        rfl
    | stereo left right l r leftNumber rightNumber =>
        rw [splitOn_pair (not_comma_of_number leftNumber)
          (not_comma_of_number rightNumber)]
        simp only [expectNumber_eq_ok_iff.mpr leftNumber,
          expectNumber_eq_ok_iff.mpr rightNumber]
        rfl
    | several text commas =>
        split
        · next v single =>
            rw [single] at counted
            simp only [List.length_cons, List.length_nil] at counted
            omega
        · next l r pair =>
            rw [pair] at counted
            simp only [List.length_cons, List.length_nil] at counted
            omega
        · rfl

/-! ## Writing a selector -/

/-- A selector as the help text of the option shows it. -/
def toText : MixerTrackSelector → String
  | .mono c => String.ofList (Nat.toDigits 10 c)
  | .stereo l r =>
      String.ofList (Nat.toDigits 10 l ++ ',' :: Nat.toDigits 10 r)

/-- The channels of a selector are machine words. -/
def Words (sel : MixerTrackSelector) : Prop :=
  ∀ c ∈ sel.channels, c < UInt64.size

instance (sel : MixerTrackSelector) : Decidable (Words sel) :=
  inferInstanceAs (Decidable (∀ c ∈ sel.channels, c < UInt64.size))

/-- A selector is read back from its text. -/
theorem fromString_toText {sel : MixerTrackSelector} (words : Words sel) :
    fromString (toText sel) = .ok sel := by
  rw [fromString_eq_ok_iff]
  cases sel with
  | mono c =>
      have small : c < UInt64.size := words c (List.mem_singleton_self c)
      rw [toText, String.toList_ofList]
      exact .mono _ c (parseUsize_toDigits small)
  | stereo l r =>
      have smallLeft : l < UInt64.size := words l (List.mem_cons_self ..)
      have smallRight : r < UInt64.size :=
        words r (List.mem_cons_of_mem _ (List.mem_singleton_self r))
      rw [toText, String.toList_ofList]
      exact
        .stereo _ _ l r (parseUsize_toDigits smallLeft)
          (parseUsize_toDigits smallRight)

/--
The option accepts exactly the texts that stand for a selector and panics at
all others, and it reads every selector back from its text.
-/
theorem selector_texts (value : String) (sel : MixerTrackSelector) :
    (fromString value = .ok sel ↔ Spells value.toList sel) ∧
      (fromString value = .error .panic ↔
        ∀ other, ¬ Spells value.toList other) ∧
      (Words sel → fromString (toText sel) = .ok sel) := by
  refine ⟨fromString_eq_ok_iff value sel, ?_, fromString_toText⟩
  constructor
  · intro panics other spelled
    rw [← fromString_eq_ok_iff, panics] at spelled
    cases spelled
  · intro unspelled
    cases outcome : fromString value with
    | ok other =>
        exact
          (unspelled other
            ((fromString_eq_ok_iff value other).mp outcome)).elim
    | error e =>
        cases e with
        | error never => exact never.elim
        | panic => rfl

theorem selector_texts_exchanged :
    fromString (toText (.stereo 3 1)) = .ok (.stereo 3 1) :=
  (selector_texts "3,1" (.stereo 3 1)).2.2 (by decide)

/-- Leading zeros and a plus sign are read, and so is any list of three. -/
example :
    fromString "+07" = .ok (.mono 7) ∧
      fromString "no,such,track" = .ok (.stereo 0 1) ∧
      fromString "0, 1" = .error .panic := by
  decide +kernel

end Audiopipe.Mixing.SelectorText
