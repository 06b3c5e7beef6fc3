import Mathlib.Data.List.Basic
import Mathlib.Data.Nat.Count
import Mathlib.Data.Nat.ModEq
import Mathlib.Logic.Nontrivial.Basic

/-!
# Strided sublists

`everyNth period skip values` keeps the values at the positions `skip`,
`skip + period`, `skip + 2 * period` and so on.  It is the column of an
interleaved list: with `period` columns, the column `skip` is the sublist
that de-interleaving has to produce.
-/

namespace Audiopipe.Foundation.StridedLists

universe u

variable {α : Type u}

/-- Skip `skip` values, keep one, then keep every `period`-th one. -/
def everyNth (period : ℕ) : ℕ → List α → List α
  | _, [] => []
  | 0, value :: rest => value :: everyNth period (period - 1) rest
  | skip + 1, _ :: rest => everyNth period skip rest

@[simp]
theorem everyNth_nil (period skip : ℕ) :
    everyNth period skip ([] : List α) = [] := by
  cases skip <;> rfl

@[simp]
theorem everyNth_zero_cons
    (period : ℕ) (value : α) (rest : List α) :
    everyNth period 0 (value :: rest) =
      value :: everyNth period (period - 1) rest :=
  rfl

@[simp]
theorem everyNth_succ_cons
    (period skip : ℕ) (value : α) (rest : List α) :
    everyNth period (skip + 1) (value :: rest) =
      everyNth period skip rest :=
  rfl

/-- The defining property: which position each kept value comes from. -/
theorem getElem?_everyNth
    {period : ℕ} (positive : 0 < period)
    (skip : ℕ) (values : List α) (index : ℕ) :
    (everyNth period skip values)[index]? =
      values[skip + index * period]? := by
  induction values generalizing skip index with
  | nil => simp
  | cons value rest induction =>
      cases skip with
      | zero =>
          cases index with
          | zero => simp
          | succ index =>
              have position :
                  0 + (index + 1) * period =
                    (period - 1 + index * period) + 1 := by
                rw [Nat.succ_mul]
                omega
              rw [everyNth_zero_cons, List.getElem?_cons_succ,
                induction, position, List.getElem?_cons_succ]
      | succ skip =>
          have position :
              skip + 1 + index * period =
                (skip + index * period) + 1 := by
            omega
          rw [everyNth_succ_cons, induction, position,
            List.getElem?_cons_succ]

/-- A value at the end belongs to the column that its position falls on. -/
theorem everyNth_append_singleton
    {period skip : ℕ} (near : skip < period)
    (values : List α) (value : α) :
    everyNth period skip (values ++ [value]) =
      everyNth period skip values ++
        if values.length % period = skip then [value] else [] := by
  induction values generalizing skip with
  | nil =>
      cases skip with
      | zero => simp
      | succ skip => simp
  | cons first rest induction =>
      have around :
          (rest.length + 1) % period =
            if rest.length % period = period - 1 then 0
            else rest.length % period + 1 := by
        have below :=
          Nat.mod_lt rest.length (Nat.zero_lt_of_lt near)
        rw [← Nat.mod_add_mod]
        split
        · next last =>
            have whole : rest.length % period + 1 = period := by omega
            rw [whole, Nat.mod_self]
        · exact Nat.mod_eq_of_lt (by omega)
      cases skip with
      | zero =>
          rw [List.cons_append, everyNth_zero_cons, everyNth_zero_cons,
            induction (by omega), List.cons_append, List.length_cons,
            around]
          congr 2
          by_cases last : rest.length % period = period - 1
          · simp [last]
          · simp [last]
      | succ skip =>
          rw [List.cons_append, everyNth_succ_cons, everyNth_succ_cons,
            induction (Nat.lt_of_succ_lt near), List.length_cons, around]
          congr 1
          by_cases last : rest.length % period = period - 1
          · have other : period - 1 ≠ skip := by omega
            simp [last, other]
          · simp [last]

/-- With a single column nothing is left out. -/
@[simp]
theorem everyNth_one (values : List α) :
    everyNth 1 0 values = values := by
  apply List.ext_getElem?
  intro index
  rw [getElem?_everyNth Nat.one_pos, Nat.zero_add, Nat.mul_one]

/-- Every column of a list of whole rows is as long as there are rows. -/
theorem length_everyNth
    {period skip rows : ℕ} (inside : skip < period)
    {values : List α} (whole : values.length = rows * period) :
    (everyNth period skip values).length = rows := by
  have positive : 0 < period := Nat.lt_of_le_of_lt (Nat.zero_le _) inside
  have occupied :
      ∀ index,
        index < (everyNth period skip values).length ↔ index < rows := by
    intro index
    rw [← not_iff_not, Nat.not_lt, Nat.not_lt,
      ← List.getElem?_eq_none_iff, getElem?_everyNth positive,
      List.getElem?_eq_none_iff, whole]
    constructor
    · intro beyond
      by_contra early
      have inRow : (index + 1) * period ≤ rows * period :=
        Nat.mul_le_mul_right _ (by omega)
      rw [Nat.succ_mul] at inRow
      omega
    · intro beyond
      have rowsBefore : rows * period ≤ index * period :=
        Nat.mul_le_mul_right _ beyond
      omega
  exact
    Nat.le_antisymm
      (Nat.le_of_not_lt fun long =>
        Nat.lt_irrefl _ ((occupied rows).mp long))
      (Nat.le_of_not_lt fun short =>
        Nat.lt_irrefl _ ((occupied _).mpr short))

/-- With two columns, the first one gets an odd value more. -/
theorem length_everyNth_two (values : List α) :
    (everyNth 2 0 values).length = (values.length + 1) / 2 ∧
      (everyNth 2 1 values).length = values.length / 2 := by
  induction values with
  | nil => simp
  | cons value rest induction =>
      rw [List.length_cons]
      constructor
      · change (everyNth 2 1 rest).length + 1 = _
        omega
      · change (everyNth 2 0 rest).length = _
        omega

/--
Counting the positions modulo the period finds the same values: `skip` is
the distance to the next position on column `column`.
-/
theorem everyNth_eq_filter
    {period column : ℕ} (start skip : ℕ) (values : List α)
    (near : skip < period) (aligned : (start + skip) % period = column) :
    everyNth period skip values =
      ((values.zipIdx start).filter
        fun entry => entry.2 % period == column).map Prod.fst := by
  induction values generalizing start skip with
  | nil => simp
  | cons value rest induction =>
      cases skip with
      | zero =>
          have here : start % period = column := aligned
          have again : (start + 1 + (period - 1)) % period = column := by
            have around : start + 1 + (period - 1) = start + period := by
              omega
            rw [around, Nat.add_mod_right, here]
          have rest := induction (start + 1) (period - 1) (by omega) again
          simp [here, rest]
      | succ skip =>
          have elsewhere : start % period ≠ column := by
            intro here
            have equal :
                (start + (skip + 1)) % period = (start + 0) % period :=
              aligned.trans here.symm
            have congruent : skip + 1 ≡ 0 [MOD period] :=
              Nat.ModEq.add_left_cancel' start equal
            have vanishes : skip + 1 = 0 :=
              Nat.ModEq.eq_of_lt_of_lt congruent near (by omega)
            omega
          have again : (start + 1 + skip) % period = column := by
            rw [← aligned]
            congr 1
            omega
          have rest := induction (start + 1) skip (by omega) again
          simp [elsewhere, rest]

/-! ## Chosen positions -/

/--
The values at chosen positions, when the first one has position `start`.
-/
def keepWhere (chosen : ℕ → Bool) (start : ℕ) (values : List α) : List α :=
  ((values.zipIdx start).filter fun entry => chosen entry.2).map Prod.fst

/-- Without its first value a list begins one position later. -/
theorem keepWhere_cons
    (chosen : ℕ → Bool) (start : ℕ) (value : α) (rest : List α) :
    keepWhere chosen start (value :: rest) =
      if chosen start then
        value :: keepWhere chosen (start + 1) rest
      else
        keepWhere chosen (start + 1) rest := by
  unfold keepWhere
  cases here : chosen start with
  | true => simp [here]
  | false => simp [here]

/-- As many values are kept as there are chosen positions. -/
theorem length_keepWhere
    (chosen : ℕ → Bool) (start : ℕ) (values : List α) :
    (keepWhere chosen start values).length =
      Nat.count (fun j => chosen (start + j) = true) values.length := by
  induction values generalizing start with
  | nil => rfl
  | cons value rest induction =>
      have shift :
          ∀ j, chosen (start + (j + 1)) = chosen (start + 1 + j) := by
        intro j
        rw [Nat.add_comm j, Nat.add_assoc]
      rw [keepWhere_cons, List.length_cons, Nat.count_succ']
      simp only [shift, Nat.add_zero]
      cases chosen start with
      | true => simp [induction]
      | false => simp [induction]

/-- A chosen value is kept behind those of the chosen positions before it. -/
theorem getElem?_keepWhere
    {chosen : ℕ → Bool} (start : ℕ) (values : List α) {i : ℕ}
    (here : chosen (start + i) = true) :
    (keepWhere chosen start values)[
        Nat.count (fun j => chosen (start + j) = true) i]? =
      values[i]? := by
  induction values generalizing start i with
  | nil => simp [keepWhere]
  | cons value rest induction =>
      cases i with
      | zero =>
          rw [Nat.add_zero] at here
          simp [keepWhere_cons, here]
      | succ i =>
          have shift :
              ∀ j, chosen (start + (j + 1)) = chosen (start + 1 + j) := by
            intro j
            rw [Nat.add_comm j, Nat.add_assoc]
          rw [shift] at here
          have later := induction (start + 1) here
          rw [keepWhere_cons, Nat.count_succ', List.getElem?_cons_succ]
          simp only [shift, Nat.add_zero]
          cases chosen start with
          | true => simpa using later
          | false => simpa using later

/-! ## Rows of chosen columns -/

/-- The values of a function of row and column, row by row. -/
def byRows {κ β : Type*} (rows : ℕ) (columns : List κ) (entry : ℕ → κ → β) :
    List β :=
  (List.range rows).flatMap fun row => columns.map (entry row)

/-- The rows behind the first one are the rows of the shifted function. -/
theorem byRows_succ {κ β : Type*}
    (rows : ℕ) (columns : List κ) (entry : ℕ → κ → β) :
    byRows (rows + 1) columns entry =
      columns.map (entry 0) ++
        byRows rows columns fun row => entry (row + 1) := by
  unfold byRows
  rw [List.range_succ_eq_map, List.flatMap_cons, List.flatMap_map]

/-- Only the entries in the given columns matter. -/
theorem byRows_congr {κ β : Type*}
    {columns : List κ} {entry other : ℕ → κ → β}
    (alike : ∀ row, ∀ column ∈ columns, entry row column = other row column)
    (rows : ℕ) :
    byRows rows columns entry = byRows rows columns other := by
  unfold byRows
  apply List.flatMap_congr
  intro row _
  exact List.map_congr_left (alike row)

/--
The chosen columns of an interleaved list, row by row and in the order in
which they are listed.
-/
def keepColumns (width rows : ℕ) (columns : List ℕ) (values : List α) :
    List α :=
  (List.range rows).flatMap fun row =>
    columns.filterMap fun column => values[row * width + column]?

/-- What is kept of a list whose entries are known. -/
theorem keepColumns_map {κ : Type*}
    {width rows : ℕ} {columns : List κ} {position : κ → ℕ}
    {values : List α} {entry : ℕ → κ → α}
    (known :
      ∀ row < rows,
        ∀ column ∈ columns,
          values[row * width + position column]? =
            some (entry row column)) :
    keepColumns width rows (columns.map position) values =
      byRows rows columns entry := by
  unfold keepColumns byRows
  apply List.flatMap_congr
  intro row early
  rw [List.filterMap_map, ← List.filterMap_eq_map]
  apply List.filterMap_congr
  intro column chosen
  exact known row (List.mem_range.mp early) column chosen

/-! ## When two columns begin alike -/

/-- A list that holds `marked` at one position and `other` elsewhere. -/
def markedAt (marked other : α) (length position : ℕ) : List α :=
  (List.range length).map fun index =>
    if index = position then marked else other

@[simp]
theorem length_markedAt (marked other : α) (length position : ℕ) :
    (markedAt marked other length position).length = length := by
  simp [markedAt]

theorem getElem?_markedAt
    {marked other : α} (different : other ≠ marked)
    {length position index : ℕ} (inside : index < length) :
    (markedAt marked other length position)[index]? = some marked ↔
      index = position := by
  have found :
      (markedAt marked other length position)[index]? =
        some (if index = position then marked else other) := by
    simp [markedAt, inside]
  rw [found]
  by_cases here : index = position
  · simp [here]
  · simp [here, different]

/--
Two columns of different periods have the same first `bound` entries in every
list of whole frames exactly when those entries come from the same positions.
-/
theorem take_everyNth_eq_iff [Nontrivial α]
    {period period' : ℕ} (positive : 0 < period) (positive' : 0 < period')
    {width : ℕ} (wide : 0 < width) (skip skip' bound : ℕ) :
    (∀ values : List α, width ∣ values.length →
        (everyNth period skip values).take bound =
          (everyNth period' skip' values).take bound) ↔
      ∀ index < bound, skip + index * period = skip' + index * period' := by
  constructor
  · intro alike index early
    rcases exists_pair_ne α with ⟨marked, other, different⟩
    have reach :
        skip + index * period <
          width * (skip + index * period + (skip' + index * period') + 1) :=
      Nat.lt_of_lt_of_le (by omega) (Nat.le_mul_of_pos_left _ wide)
    have reach' :
        skip' + index * period' <
          width * (skip + index * period + (skip' + index * period') + 1) :=
      Nat.lt_of_lt_of_le (by omega) (Nat.le_mul_of_pos_left _ wide)
    have equal :=
      congrArg (fun values => values[index]?)
        (alike
          (markedAt marked other
            (width *
              (skip + index * period + (skip' + index * period') + 1))
            (skip + index * period))
          (by simp))
    simp only [List.getElem?_take_of_lt early, getElem?_everyNth positive,
      getElem?_everyNth positive'] at equal
    have found := (getElem?_markedAt different.symm reach).mpr rfl
    rw [found] at equal
    exact ((getElem?_markedAt different.symm reach').mp equal.symm).symm
  · intro samePositions values _
    apply List.ext_getElem?
    intro index
    by_cases early : index < bound
    · rw [List.getElem?_take_of_lt early, List.getElem?_take_of_lt early,
        getElem?_everyNth positive, getElem?_everyNth positive',
        samePositions index early]
    · rw [List.getElem?_take_eq_none (by omega),
        List.getElem?_take_eq_none (by omega)]

end Audiopipe.Foundation.StridedLists
