import Mathlib.Algebra.Group.Nat.Defs
import Mathlib.Data.List.Basic

/-!
# Self-delimiting byte formats

A byte format writes a value as bytes and reads a value off the front of a
byte sequence.  Its two laws are fields: what was written is read back
whatever follows it, and a successful read does not depend on what comes
after the bytes it took.  Together they make every encoding prefix-free.

The combinators build formats of records, unions and sequences out of
simpler ones and inherit both laws.
-/

namespace Audiopipe.Foundation.ByteFormats

/-- A writer and a reader of values of one type. -/
structure ByteFormat (α : Type) where
  encode : α → List UInt8
  decode : List UInt8 → Option (α × List UInt8)
  decode_encode :
    ∀ (value : α) (rest : List UInt8),
      decode (encode value ++ rest) = some (value, rest)
  decode_extend :
    ∀ {bytes rest : List UInt8} {value : α} (more : List UInt8),
      decode bytes = some (value, rest) →
        decode (bytes ++ more) = some (value, rest ++ more)

variable {α β : Type}

namespace ByteFormat

/-- An encoding with nothing after it. -/
@[simp]
theorem decode_encode_self (format : ByteFormat α) (value : α) :
    format.decode (format.encode value) = some (value, []) := by
  have read := format.decode_encode value []
  rwa [List.append_nil] at read

/-- A cut-off encoding is not read as anything. -/
theorem decode_strict_prefix
    (format : ByteFormat α) {value : α} {front back : List UInt8}
    (whole : format.encode value = front ++ back)
    (cut : back ≠ []) :
    format.decode front = none := by
  by_contra readable
  rcases Option.ne_none_iff_exists'.mp readable with ⟨⟨other, rest⟩, read⟩
  have extended := format.decode_extend back read
  rw [← whole, format.decode_encode_self] at extended
  have leftover : [] = rest ++ back :=
    congrArg Prod.snd (Option.some.inj extended)
  exact cut (List.append_eq_nil_iff.mp leftover.symm).2

/-! ## Constant and fixed-size parts -/

/-- A constant text. -/
def literal (text : List UInt8) : ByteFormat Unit where
  encode := fun _ => text
  decode := fun bytes =>
    if text <+: bytes then some ((), bytes.drop text.length) else none
  decode_encode := by
    intro _ rest
    simp
  decode_extend := by
    intro bytes rest _ more read
    split at read
    · next found =>
        rcases found with ⟨after, rfl⟩
        cases read
        simp
    · cases read

/-- A given number of bytes. -/
def fixedBytes (count : ℕ) :
    ByteFormat { bytes : List UInt8 // bytes.length = count } where
  encode := Subtype.val
  decode := fun bytes =>
    if enough : count ≤ bytes.length then
      some
        (⟨bytes.take count, List.length_take_of_le enough⟩,
          bytes.drop count)
    else
      none
  decode_encode := by
    rintro ⟨taken, sized⟩ rest
    subst sized
    simp
  decode_extend := by
    intro bytes rest value more read
    split at read
    · next enough =>
        cases read
        have stillEnough : count ≤ (bytes ++ more).length := by
          rw [List.length_append]
          omega
        simp only [stillEnough, dif_pos,
          List.take_append_of_le_length enough,
          List.drop_append_of_le_length enough]
    · cases read

/-! ## Terminated texts -/

/-- The bytes before a terminator and the bytes after it. -/
def readUntil (terminator : UInt8) :
    List UInt8 → Option (List UInt8 × List UInt8)
  | [] => none
  | byte :: rest =>
      if byte = terminator then
        some ([], rest)
      else
        (readUntil terminator rest).map fun found =>
          (byte :: found.1, found.2)

theorem readUntil_append
    {terminator : UInt8} {text : List UInt8}
    (clean : terminator ∉ text) (rest : List UInt8) :
    readUntil terminator (text ++ terminator :: rest) =
      some (text, rest) := by
  induction text with
  | nil => simp [readUntil]
  | cons byte text induction =>
      rw [List.mem_cons, not_or] at clean
      have other : byte ≠ terminator := fun same => clean.1 same.symm
      simp [readUntil, other, induction clean.2]

theorem readUntil_extend
    {terminator : UInt8} {bytes text rest : List UInt8}
    (more : List UInt8)
    (read : readUntil terminator bytes = some (text, rest)) :
    readUntil terminator (bytes ++ more) = some (text, rest ++ more) := by
  induction bytes generalizing text with
  | nil => cases read
  | cons byte bytes induction =>
      by_cases here : byte = terminator
      · simp only [readUntil, here, if_true] at read
        cases read
        simp [readUntil, here]
      · simp only [readUntil, here, if_false, Option.map_eq_some_iff]
          at read
        rcases read with ⟨⟨inner, after⟩, readRest, equal⟩
        cases equal
        simp [readUntil, here, induction readRest]

/-- A text that never contains its terminator, with the terminator. -/
def terminated (terminator : UInt8)
    (text : α → List UInt8) (value? : List UInt8 → Option α)
    (inverse : ∀ value, value? (text value) = some value)
    (clean : ∀ value, terminator ∉ text value) :
    ByteFormat α where
  encode := fun value => text value ++ [terminator]
  decode := fun bytes => do
    let found ← readUntil terminator bytes
    let value ← value? found.1
    return (value, found.2)
  decode_encode := by
    intro value rest
    rw [List.append_assoc, List.singleton_append,
      readUntil_append (clean value)]
    simp [inverse]
  decode_extend := by
    intro bytes rest value more read
    rcases Option.bind_eq_some_iff.mp read with ⟨found, readText, read⟩
    rcases Option.bind_eq_some_iff.mp read with ⟨value', readValue, equal⟩
    cases equal
    simp [readUntil_extend more readText, readValue]

/-! ## Combinators -/

/-- One value after the other. -/
def pair (first : ByteFormat α) (second : ByteFormat β) :
    ByteFormat (α × β) where
  encode := fun value => first.encode value.1 ++ second.encode value.2
  decode := fun bytes => do
    let front ← first.decode bytes
    let back ← second.decode front.2
    return ((front.1, back.1), back.2)
  decode_encode := by
    intro value rest
    rw [List.append_assoc, first.decode_encode]
    simp [second.decode_encode]
  decode_extend := by
    intro bytes rest value more read
    rcases Option.bind_eq_some_iff.mp read with ⟨front, readFront, read⟩
    rcases Option.bind_eq_some_iff.mp read with ⟨back, readBack, equal⟩
    cases equal
    simp [first.decode_extend more readFront,
      second.decode_extend more readBack]

/-- A value whose format depends on the value before it. -/
def dependent {β : α → Type}
    (first : ByteFormat α) (second : (value : α) → ByteFormat (β value)) :
    ByteFormat (Sigma β) where
  encode := fun value =>
    first.encode value.1 ++ (second value.1).encode value.2
  decode := fun bytes => do
    let front ← first.decode bytes
    let back ← (second front.1).decode front.2
    return (⟨front.1, back.1⟩, back.2)
  decode_encode := by
    rintro ⟨value, later⟩ rest
    rw [List.append_assoc, first.decode_encode]
    simp [(second value).decode_encode]
  decode_extend := by
    intro bytes rest value more read
    rcases Option.bind_eq_some_iff.mp read with ⟨front, readFront, read⟩
    rcases Option.bind_eq_some_iff.mp read with ⟨back, readBack, equal⟩
    cases equal
    simp [first.decode_extend more readFront,
      (second front.1).decode_extend more readBack]

/-- Another type with the same texts; the reader may refuse a value. -/
def mapped (format : ByteFormat α)
    (forward : β → α) (backward : α → Option β)
    (inverse : ∀ value, backward (forward value) = some value) :
    ByteFormat β where
  encode := fun value => format.encode (forward value)
  decode := fun bytes => do
    let found ← format.decode bytes
    let value ← backward found.1
    return (value, found.2)
  decode_encode := by
    intro value rest
    simp [format.decode_encode, inverse]
  decode_extend := by
    intro bytes rest value more read
    rcases Option.bind_eq_some_iff.mp read with ⟨found, readFound, read⟩
    rcases Option.bind_eq_some_iff.mp read with ⟨value', readValue, equal⟩
    cases equal
    simp [format.decode_extend more readFound, readValue]

/-- No text starts a value of both formats. -/
def Disjoint (first : ByteFormat α) (second : ByteFormat β) : Prop :=
  ∀ bytes, (second.decode bytes).isSome → first.decode bytes = none

/-- A value of one of two formats that no text confuses. -/
def either (first : ByteFormat α) (second : ByteFormat β)
    (disjoint : first.Disjoint second) : ByteFormat (α ⊕ β) where
  encode := Sum.elim first.encode second.encode
  decode := fun bytes =>
    match first.decode bytes with
    | some found => some (.inl found.1, found.2)
    | none =>
        (second.decode bytes).map fun found => (.inr found.1, found.2)
  decode_encode := by
    intro value rest
    cases value with
    | inl value => simp [first.decode_encode]
    | inr value =>
        have other :
            first.decode (second.encode value ++ rest) = none :=
          disjoint _ (by simp [second.decode_encode])
        simp [other, second.decode_encode]
  decode_extend := by
    intro bytes rest value more read
    cases readFirst : first.decode bytes with
    | some found =>
        simp only [readFirst] at read
        cases read
        simp [first.decode_extend more readFirst]
    | none =>
        simp only [readFirst, Option.map_eq_some_iff] at read
        rcases read with ⟨found, readSecond, equal⟩
        cases equal
        have extended := second.decode_extend more readSecond
        have other : first.decode (bytes ++ more) = none :=
          disjoint _ (by simp [extended])
        simp [other, extended]

/-! ## Lists with a terminator -/

section Lists

variable (stop : UInt8) (item : ByteFormat α)

/-- Reads at most `fuel` items up to the terminator. -/
def readList : ℕ → List UInt8 → Option (List α × List UInt8)
  | 0, _ => none
  | _ + 1, [] => none
  | fuel + 1, first :: rest =>
      if first = stop then
        some ([], rest)
      else do
        let head ← item.decode (first :: rest)
        let tail ← readList fuel head.2
        return (head.1 :: tail.1, tail.2)

theorem readList_encode
    (distinct :
      ∀ value, ∃ first rest,
        item.encode value = first :: rest ∧ first ≠ stop)
    {values : List α} {fuel : ℕ} (enough : values.length < fuel)
    (rest : List UInt8) :
    readList stop item fuel
        (values.flatMap item.encode ++ stop :: rest) =
      some (values, rest) := by
  induction values generalizing fuel with
  | nil =>
      rcases Nat.exists_eq_add_of_lt enough with ⟨fuel, rfl⟩
      simp [readList]
  | cons value values induction =>
      rcases
          Nat.exists_eq_succ_of_ne_zero (Nat.ne_of_gt
            (Nat.lt_of_le_of_lt (Nat.zero_le _) enough)) with
        ⟨fuel, rfl⟩
      rcases distinct value with ⟨first, tail, starts, notStop⟩
      have read :=
        item.decode_encode value
          (values.flatMap item.encode ++ stop :: rest)
      rw [starts, List.cons_append] at read
      rw [List.flatMap_cons, List.append_assoc, starts, List.cons_append,
        readList, if_neg notStop, read]
      have remaining :=
        induction (Nat.lt_of_succ_lt_succ enough)
      simp [remaining]

theorem readList_extend
    {fuel fuel' : ℕ} (moreFuel : fuel ≤ fuel')
    {bytes rest : List UInt8} {values : List α} (more : List UInt8)
    (read : readList stop item fuel bytes = some (values, rest)) :
    readList stop item fuel' (bytes ++ more) =
      some (values, rest ++ more) := by
  induction fuel generalizing fuel' bytes values with
  | zero => cases read
  | succ fuel induction =>
      rcases
          Nat.exists_eq_succ_of_ne_zero (Nat.ne_of_gt
            (Nat.lt_of_lt_of_le (Nat.succ_pos fuel) moreFuel)) with
        ⟨fuel', rfl⟩
      cases bytes with
      | nil => cases read
      | cons first tail =>
          rw [List.cons_append]
          by_cases here : first = stop
          · rw [readList, if_pos here] at read ⊢
            cases read
            rfl
          · rw [readList, if_neg here] at read ⊢
            rcases Option.bind_eq_some_iff.mp read with
              ⟨head, readHead, read⟩
            rcases Option.bind_eq_some_iff.mp read with
              ⟨others, readOthers, equal⟩
            cases equal
            have extended := item.decode_extend more readHead
            rw [List.cons_append] at extended
            have remaining :=
              induction (Nat.le_of_succ_le_succ moreFuel) readOthers
            simp [extended, remaining]

end Lists

/-- Any number of items and a terminator that no item starts with. -/
def listUntil (stop : UInt8) (item : ByteFormat α)
    (distinct :
      ∀ value, ∃ first rest,
        item.encode value = first :: rest ∧ first ≠ stop) :
    ByteFormat (List α) where
  encode := fun values => values.flatMap item.encode ++ [stop]
  decode := fun bytes => readList stop item (bytes.length + 1) bytes
  decode_encode := by
    intro values rest
    rw [List.append_assoc, List.singleton_append]
    refine readList_encode stop item distinct ?_ rest
    have long : values.length ≤ (values.flatMap item.encode).length := by
      induction values with
      | nil => exact Nat.le_refl _
      | cons value values induction =>
          rcases distinct value with ⟨first, tail, starts, _⟩
          rw [List.flatMap_cons, starts, List.length_append,
            List.length_cons, List.length_cons]
          omega
    rw [List.length_append]
    omega
  decode_extend := by
    intro bytes rest values more read
    refine readList_extend stop item ?_ more read
    rw [List.length_append]
    omega

/-! ## Integers and blocks -/

/-- The `width` low bytes of a number, least significant first. -/
def littleEndianBytes : ℕ → ℕ → List UInt8
  | 0, _ => []
  | width + 1, number =>
      UInt8.ofNat (number % 256) :: littleEndianBytes width (number / 256)

/-- The number that bytes stand for, least significant first. -/
def readLittleEndian : List UInt8 → ℕ
  | [] => 0
  | byte :: rest => byte.toNat + 256 * readLittleEndian rest

@[simp]
theorem length_littleEndianBytes (width number : ℕ) :
    (littleEndianBytes width number).length = width := by
  induction width generalizing number with
  | zero => rfl
  | succ width induction => simp [littleEndianBytes, induction]

theorem readLittleEndian_bytes
    {width number : ℕ} (fits : number < 256 ^ width) :
    readLittleEndian (littleEndianBytes width number) = number := by
  induction width generalizing number with
  | zero =>
      have zero : number = 0 := by simpa using fits
      simp [littleEndianBytes, readLittleEndian, zero]
  | succ width induction =>
      have quotientFits : number / 256 < 256 ^ width := by
        rw [Nat.div_lt_iff_lt_mul (by decide), ← Nat.pow_succ]
        exact fits
      have low : (UInt8.ofNat (number % 256)).toNat = number % 256 := by
        rw [UInt8.toNat_ofNat']
        exact Nat.mod_mod_of_dvd _ (by decide)
      rw [littleEndianBytes, readLittleEndian, induction quotientFits,
        low]
      exact Nat.mod_add_div number 256

theorem readLittleEndian_lt (bytes : List UInt8) :
    readLittleEndian bytes < 256 ^ bytes.length := by
  induction bytes with
  | nil => simp [readLittleEndian]
  | cons byte rest induction =>
      have small : byte.toNat < 256 := byte.toNat_lt
      rw [readLittleEndian, List.length_cons, Nat.pow_succ]
      omega

/-- An unsigned integer of a fixed width, least significant byte first. -/
def littleEndian (width : ℕ) : ByteFormat (Fin (256 ^ width)) :=
  (fixedBytes width).mapped
    (fun number =>
      ⟨littleEndianBytes width number, length_littleEndianBytes _ _⟩)
    (fun bytes =>
      some
        ⟨readLittleEndian bytes.val, by
          have bound := readLittleEndian_lt bytes.val
          rwa [bytes.property] at bound⟩)
    (fun number => by
      simp [readLittleEndian_bytes number.isLt])

@[simp]
theorem length_littleEndian
    (width : ℕ) (number : Fin (256 ^ width)) :
    ((littleEndian width).encode number).length = width :=
  length_littleEndianBytes width number

/-- A block of bytes with its length in front. -/
def lengthPrefixed (width : ℕ) :
    ByteFormat { bytes : List UInt8 // bytes.length < 256 ^ width } :=
  ((littleEndian width).dependent fun count => fixedBytes count).mapped
    (fun bytes => ⟨⟨bytes.val.length, bytes.property⟩, ⟨bytes.val, rfl⟩⟩)
    (fun block =>
      some ⟨block.2.val, by rw [block.2.property]; exact block.1.isLt⟩)
    (fun _ => rfl)

@[simp]
theorem length_lengthPrefixed
    (width : ℕ)
    (bytes : { bytes : List UInt8 // bytes.length < 256 ^ width }) :
    ((lengthPrefixed width).encode bytes).length =
      width + bytes.val.length := by
  have block :
      (lengthPrefixed width).encode bytes =
        (littleEndian width).encode ⟨bytes.val.length, bytes.property⟩ ++
          bytes.val :=
    rfl
  rw [block, List.length_append, length_littleEndian]

end ByteFormat

end Audiopipe.Foundation.ByteFormats
