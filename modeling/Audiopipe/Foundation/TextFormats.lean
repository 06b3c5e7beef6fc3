import Audiopipe.Foundation.ByteFormats
import Mathlib.Data.Nat.Digits.Defs

/-!
# Formats of compact textual data

The parts that compact textual formats such as JSON are made of: values
between fixed texts, decimal and hexadecimal numbers, quoted strings.  Each is
a self-delimiting byte format.  The readers accept what the writers write and
nothing else: no white space, no other spelling of a number or a character.
-/

namespace Audiopipe.Foundation.TextFormats

open Audiopipe.Foundation.ByteFormats
open Audiopipe.Foundation.ByteFormats.ByteFormat

variable {α β γ : Type}

/-- The bytes of a fixed text. -/
def ascii (text : String) : List UInt8 :=
  text.toByteArray.data.toList

/-! ## Values between fixed texts -/

/-- A value with a fixed text in front. -/
def tagged (text : List UInt8) (format : ByteFormat α) : ByteFormat α :=
  ((literal text).pair format).mapped
    (fun value => ((), value)) (fun entry => some entry.2) (fun _ => rfl)

/-- A value with a fixed text behind. -/
def followed (format : ByteFormat α) (text : List UInt8) : ByteFormat α :=
  (format.pair (literal text)).mapped
    (fun value => (value, ())) (fun entry => some entry.1) (fun _ => rfl)

/-- The texts that a format reads start with `text`. -/
def StartsWith (text : List UInt8) (format : ByteFormat α) : Prop :=
  ∀ bytes, (format.decode bytes).isSome → text <+: bytes

theorem startsWith_literal (text : List UInt8) :
    StartsWith text (literal text) := by
  intro bytes readable
  by_contra absent
  simp [literal, absent] at readable

theorem startsWith_tagged (text : List UInt8) (format : ByteFormat α) :
    StartsWith text (tagged text format) := by
  intro bytes readable
  by_contra absent
  simp [tagged, mapped, pair, literal, absent] at readable

/-- Two texts of which neither starts the other. -/
def Apart (first second : List UInt8) : Prop :=
  ¬ first <+: second ∧ ¬ second <+: first

instance (first second : List UInt8) : Decidable (Apart first second) :=
  inferInstanceAs (Decidable (_ ∧ _))

/-- Formats of values that start differently are never confused. -/
theorem disjoint_of_apart
    {text text' : List UInt8}
    {first : ByteFormat α} {second : ByteFormat β}
    (apart : Apart text text')
    (starts : StartsWith text first) (starts' : StartsWith text' second) :
    first.Disjoint second := by
  intro bytes readable
  by_contra confused
  have front : text <+: bytes :=
    starts bytes (Option.isSome_iff_ne_none.mpr confused)
  have front' : text' <+: bytes := starts' bytes readable
  rcases List.prefix_or_prefix_of_prefix front front' with within | within
  · exact apart.1 within
  · exact apart.2 within

/-- A format is told apart from a union by telling it from both parts. -/
theorem disjoint_either
    {first : ByteFormat α} {second : ByteFormat β} {third : ByteFormat γ}
    {disjoint : second.Disjoint third}
    (fromSecond : first.Disjoint second) (fromThird : first.Disjoint third) :
    first.Disjoint (second.either third disjoint) := by
  intro bytes readable
  cases readSecond : second.decode bytes with
  | some found => exact fromSecond bytes (by simp [readSecond])
  | none =>
      refine fromThird bytes ?_
      simpa [ByteFormat.either, readSecond] using readable

/-! ## Decimal numbers -/

/-- The decimal digits of a number, most significant first. -/
def decimalDigits (number : ℕ) : List UInt8 :=
  if number = 0 then
    [48]
  else
    ((Nat.digits 10 number).map fun digit => UInt8.ofNat (48 + digit)).reverse

/-- Reads digits, but only those that `decimalDigits` writes. -/
def readDecimal (digits : List UInt8) : Option ℕ :=
  let number :=
    Nat.ofDigits 10 (digits.reverse.map fun digit => digit.toNat - 48)
  if decimalDigits number = digits then some number else none

theorem readDecimal_decimalDigits (number : ℕ) :
    readDecimal (decimalDigits number) = some number := by
  have value :
      Nat.ofDigits 10
          ((decimalDigits number).reverse.map
            fun digit => digit.toNat - 48) =
        number := by
    by_cases zero : number = 0
    · subst zero
      rfl
    · have digitsBack :
          ((Nat.digits 10 number).map fun digit =>
              UInt8.ofNat (48 + digit)).map
              (fun digit => digit.toNat - 48) =
            Nat.digits 10 number := by
        rw [List.map_map]
        refine (List.map_congr_left fun digit member => ?_).trans
          (List.map_id _)
        have small : digit < 10 := Nat.digits_lt_base (by decide) member
        change (UInt8.ofNat (48 + digit)).toNat - 48 = digit
        rw [UInt8.toNat_ofNat', Nat.mod_eq_of_lt (by omega)]
        omega
      simp only [decimalDigits, zero, if_false, List.reverse_reverse]
      rw [digitsBack, Nat.ofDigits_digits]
  simp only [readDecimal, value, if_true]

theorem decimalDigits_range
    {number : ℕ} {digit : UInt8} (member : digit ∈ decimalDigits number) :
    48 ≤ digit.toNat ∧ digit.toNat < 58 := by
  unfold decimalDigits at member
  split at member
  · rw [List.mem_singleton.mp member]
    decide
  · rcases List.mem_map.mp (List.mem_reverse.mp member) with
      ⟨value, memberValue, rfl⟩
    have small : value < 10 := Nat.digits_lt_base (by decide) memberValue
    rw [UInt8.toNat_ofNat', Nat.mod_eq_of_lt (by omega)]
    omega

/-- A decimal number with the byte that ends it, which is no digit. -/
def decimalUntil (terminator : UInt8)
    (noDigit : ¬ (48 ≤ terminator.toNat ∧ terminator.toNat < 58)) :
    ByteFormat ℕ :=
  terminated terminator decimalDigits readDecimal
    readDecimal_decimalDigits
    (fun _ member => noDigit (decimalDigits_range member))

/-! ## Hexadecimal blocks -/

/-- The lower-case hexadecimal digit of a number below sixteen. -/
def hexDigit (value : ℕ) : UInt8 :=
  if value < 10 then UInt8.ofNat (48 + value)
  else UInt8.ofNat (87 + value)

def readHexDigit (digit : UInt8) : Option ℕ :=
  if 48 ≤ digit.toNat ∧ digit.toNat < 58 then some (digit.toNat - 48)
  else if 97 ≤ digit.toNat ∧ digit.toNat < 103 then
    some (digit.toNat - 87)
  else none

theorem readHexDigit_hexDigit
    {value : ℕ} (small : value < 16) :
    readHexDigit (hexDigit value) = some value := by
  revert small value
  decide

/-- Two digits for each byte. -/
def hexText (bytes : List UInt8) : List UInt8 :=
  bytes.flatMap fun byte =>
    [hexDigit (byte.toNat / 16), hexDigit (byte.toNat % 16)]

def readHexText : List UInt8 → Option (List UInt8)
  | [] => some []
  | high :: low :: rest => do
      let highValue ← readHexDigit high
      let lowValue ← readHexDigit low
      let bytes ← readHexText rest
      return UInt8.ofNat (16 * highValue + lowValue) :: bytes
  | _ => none

theorem length_hexText (bytes : List UInt8) :
    (hexText bytes).length = 2 * bytes.length := by
  induction bytes with
  | nil => rfl
  | cons byte rest induction =>
      change (hexText rest).length + 2 = _
      rw [induction, List.length_cons]
      omega

theorem readHexText_hexText (bytes : List UInt8) :
    readHexText (hexText bytes) = some bytes := by
  induction bytes with
  | nil => rfl
  | cons byte rest induction =>
      have bound : byte.toNat < 256 := byte.toNat_lt
      have high :
          readHexDigit (hexDigit (byte.toNat / 16)) =
            some (byte.toNat / 16) :=
        readHexDigit_hexDigit (by omega)
      have low :
          readHexDigit (hexDigit (byte.toNat % 16)) =
            some (byte.toNat % 16) :=
        readHexDigit_hexDigit (by omega)
      have whole :
          UInt8.ofNat (16 * (byte.toNat / 16) + byte.toNat % 16) =
            byte := by
        rw [Nat.div_add_mod, UInt8.ofNat_toNat]
      change
        readHexText
            (hexDigit (byte.toNat / 16) :: hexDigit (byte.toNat % 16) ::
              hexText rest) =
          some (byte :: rest)
      simp only [readHexText, high, low, induction, Option.bind_eq_bind,
        Option.bind_some, Option.pure_def, whole]

/-- A given number of bytes as hexadecimal digits. -/
def hexBlock (count : ℕ) :
    ByteFormat { bytes : List UInt8 // bytes.length = count } :=
  (fixedBytes (2 * count)).mapped
    (fun bytes =>
      ⟨hexText bytes.val, by rw [length_hexText, bytes.property]⟩)
    (fun text =>
      (readHexText text.val).bind fun bytes =>
        if sized : bytes.length = count then some ⟨bytes, sized⟩ else none)
    (fun bytes => by
      simp [readHexText_hexText, bytes.property])

/-! ## Quoted strings -/

/-- The letters that stand for control characters after a backslash. -/
def shortEscape (byte : UInt8) : Option UInt8 :=
  if byte = 34 then some 34
  else if byte = 92 then some 92
  else if byte = 8 then some 98
  else if byte = 9 then some 116
  else if byte = 10 then some 110
  else if byte = 12 then some 102
  else if byte = 13 then some 114
  else none

def readShortEscape (letter : UInt8) : Option UInt8 :=
  if letter = 34 then some 34
  else if letter = 92 then some 92
  else if letter = 98 then some 8
  else if letter = 116 then some 9
  else if letter = 110 then some 10
  else if letter = 102 then some 12
  else if letter = 114 then some 13
  else none

theorem readShortEscape_shortEscape
    {byte letter : UInt8} (escaped : shortEscape byte = some letter) :
    readShortEscape letter = some byte ∧ letter ≠ 117 := by
  unfold shortEscape at escaped
  split_ifs at escaped with quote backslash b t n f r
  all_goals
    cases escaped
    subst_vars
    decide

/-- One byte of a string between quotes. -/
def escape (byte : UInt8) : List UInt8 :=
  match shortEscape byte with
  | some letter => [92, letter]
  | none =>
      if byte.toNat < 32 then
        [92, 117, 48, 48] ++ hexText [byte]
      else
        [byte]

/-- Reads one byte of a string between quotes. -/
def readEscape : List UInt8 → Option (UInt8 × List UInt8)
  | [] => none
  | first :: rest =>
      if first = 92 then
        match rest with
        | 117 :: 48 :: 48 :: high :: low :: rest => do
            let bytes ← readHexText [high, low]
            let byte ← bytes.head?
            return (byte, rest)
        | letter :: rest =>
            (readShortEscape letter).map fun byte => (byte, rest)
        | [] => none
      else if first = 34 ∨ first.toNat < 32 then
        none
      else
        some (first, rest)

theorem readEscape_escape (byte : UInt8) (rest : List UInt8) :
    readEscape (escape byte ++ rest) = some (byte, rest) := by
  unfold escape
  cases short : shortEscape byte with
  | some letter =>
      rcases readShortEscape_shortEscape short with ⟨back, notUnicode⟩
      simp [readEscape, notUnicode, back]
  | none =>
      by_cases control : byte.toNat < 32
      · have back := readHexText_hexText [byte]
        simp only [hexText, List.flatMap_cons, List.flatMap_nil,
          List.append_nil] at back
        simp [control, readEscape, hexText, back]
      · have notQuote : byte ≠ 34 := by
          rintro rfl
          simp [shortEscape] at short
        have notBackslash : byte ≠ 92 := by
          rintro rfl
          simp [shortEscape] at short
        simp [control, readEscape, notQuote, notBackslash]

theorem readEscape_extend
    {bytes rest : List UInt8} {byte : UInt8} (more : List UInt8)
    (read : readEscape bytes = some (byte, rest)) :
    readEscape (bytes ++ more) = some (byte, rest ++ more) := by
  cases bytes with
  | nil => cases read
  | cons first tail =>
      by_cases escaped : first = 92
      · subst escaped
        simp only [readEscape, if_true] at read
        split at read
        · next high low tail =>
            rcases Option.bind_eq_some_iff.mp read with
              ⟨bytes, readHex, read⟩
            rcases Option.bind_eq_some_iff.mp read with
              ⟨value, first, equal⟩
            cases equal
            simp [readEscape, readHex, first]
        · next letter tail _ =>
            rcases Option.map_eq_some_iff.mp read with ⟨value, known, equal⟩
            cases equal
            have notUnicode : letter ≠ 117 := by
              rintro rfl
              cases known
            simp [readEscape, notUnicode, known]
        · cases read
      · simp only [readEscape, escaped, if_false] at read
        split at read
        · cases read
        · next plain =>
            cases read
            simp [readEscape, escaped, plain]

/-- A byte of a string as it stands between quotes. -/
def escapedByte : ByteFormat UInt8 where
  encode := escape
  decode := readEscape
  decode_encode := readEscape_escape
  decode_extend := readEscape_extend

/-- What a string holds after its opening quote does not begin with one. -/
theorem escapedByte_ne_quote (byte : UInt8) :
    ∃ first rest,
      escapedByte.encode byte = first :: rest ∧ first ≠ 34 := by
  change ∃ first rest, escape byte = first :: rest ∧ first ≠ 34
  unfold escape
  cases short : shortEscape byte with
  | some letter => exact ⟨92, [letter], rfl, by decide⟩
  | none =>
      by_cases control : byte.toNat < 32
      · simp [control]
      · have notQuote : byte ≠ 34 := by
          rintro rfl
          simp [shortEscape] at short
        simp [control, notQuote]

/-- A quoted string of bytes. -/
def quotedBytes : ByteFormat (List UInt8) :=
  tagged [34] (listUntil 34 escapedByte escapedByte_ne_quote)

/-- A quoted string; bytes that are not text are refused. -/
def quotedString : ByteFormat String :=
  quotedBytes.mapped
    (fun text => text.toByteArray.data.toList)
    (fun bytes =>
      if valid : (ByteArray.mk bytes.toArray).IsValidUTF8 then
        some (String.ofByteArray (ByteArray.mk bytes.toArray) valid)
      else
        none)
    (fun text => by
      simp only [Array.toArray_toList]
      exact dif_pos text.isValidUTF8)

end Audiopipe.Foundation.TextFormats
