import Mathlib.Data.Int.Log
import Mathlib.Data.Rat.Floor
import Mathlib.Tactic.Positivity
import Redhawk.Library.Numerals

/-!
Numbers with a fraction as text, over exact rationals: the reading of the C library's `strtod`, the
decimal numbers that a whole text spells, and the rounding of a rational to the nearest double.

Infinity and NaN, which no rational denotes, are not read.
-/

namespace Redhawk.Library

open List

variable (number : ℚ)

def truncate : Int := if 0 ≤ number then ⌊number⌋ else ⌈number⌉

def modf : ℚ × Int := (number - truncate number, truncate number)

def roundHalfAway : Int := if 0 ≤ number then ⌊number + 1 / 2⌋ else ⌈number - 1 / 2⌉

def readMantissa (base : Nat) (text : Text) : Option (ℚ × Text) :=
  let whole := text.takeWhile (isDigitOf base)
  let behind := text.dropWhile (isDigitOf base)
  let (fraction, rest) :=
    match behind with
    | '.' :: rest => (rest.takeWhile (isDigitOf base), rest.dropWhile (isDigitOf base))
    | _ => ([], behind)
  if whole = [] ∧ fraction = [] then none
  else some (digitsValue base whole + digitsValue base fraction / base ^ fraction.length, rest)

def readExponent (mark : Char) : Text → Int × Text
  | [] => (0, [])
  | c :: rest =>
    let (negative, unsigned) := splitSign rest
    let digits := unsigned.takeWhile (isDigitOf 10)
    if c.toLower = mark ∧ digits ≠ [] then
      (signed negative (digitsValue 10 digits), unsigned.dropWhile (isDigitOf 10))
    else (0, c :: rest)

def readUnsigned (base : Nat) (mark : Char) (radix : ℚ) (text : Text) : Option (ℚ × Text) :=
  (readMantissa base text).map fun (mantissa, behind) =>
    let (exponent, rest) := readExponent mark behind
    (mantissa * radix ^ exponent, rest)

def readMagnitude (text : Text) : Option (ℚ × Text) :=
  match text with
  | '0' :: mark :: rest =>
    if mark.toLower = 'x' then (readUnsigned 16 'p' 2 rest).or (readUnsigned 10 'e' 10 text)
    else readUnsigned 10 'e' 10 text
  | _ => readUnsigned 10 'e' 10 text

def readRational (text : Text) : Option (ℚ × Text) :=
  let (negative, unsigned) := splitSign (text.dropWhile isSpace)
  (readMagnitude unsigned).map fun (magnitude, rest) =>
    (if negative then -magnitude else magnitude, rest)

theorem truncate_intCast (number : Int) : truncate number = number := by
  unfold truncate
  split
  · exact Int.floor_intCast number
  · exact Int.ceil_intCast number

theorem truncate_of_nonneg {number : ℚ} (positive : 0 ≤ number) : truncate number = ⌊number⌋ :=
  if_pos positive

theorem modf_bounds : -1 < (modf number).1 ∧ (modf number).1 < 1 := by
  simp only [modf, truncate]
  split
  · have lower := Int.floor_le number
    have upper := Int.lt_floor_add_one number
    constructor <;> linarith
  · have lower := Int.le_ceil number
    have upper := Int.ceil_lt_add_one number
    constructor <;> linarith

theorem modf_sum : (modf number).1 + (modf number).2 = number := by
  simp [modf]

theorem readMagnitude_plain {text : Text} (plain : ∀ mark rest, text = '0' :: mark :: rest → mark.toLower ≠ 'x') :
    readMagnitude text = readUnsigned 10 'e' 10 text := by
  unfold readMagnitude
  split
  · next mark rest => rw [if_neg (plain mark rest rfl)]
  · rfl

theorem isDigit_not_mark {c : Char} (digit : c.isDigit = true) : c.toLower ≠ 'x' := by
  have bounds : 48 ≤ c.toNat ∧ c.toNat ≤ 57 := by
    simpa [Char.isDigit, UInt32.le_iff_toNat_le] using digit
  have lower : c.toLower = c := by
    refine dif_neg ?_
    rintro ⟨upper, -⟩
    have : 65 ≤ c.toNat := UInt32.le_iff_toNat_le.mp upper
    omega
  rintro same
  rw [lower] at same
  rw [same] at digit
  exact absurd digit (by decide)

theorem readRational_digits {whole fraction : Text} (wholes : ∀ c ∈ whole, c.isDigit = true)
    (fractions : ∀ c ∈ fraction, c.isDigit = true) (nonempty : whole ≠ []) :
    readRational (whole ++ '.' :: fraction) =
      some ((digitsValue 10 whole : ℚ) + digitsValue 10 fraction / 10 ^ fraction.length, []) := by
  have plain : ∀ mark rest, whole ++ '.' :: fraction = '0' :: mark :: rest → mark.toLower ≠ 'x' := by
    intro mark rest same
    have member : mark ∈ whole ∨ mark = '.' := by
      cases whole with
      | nil => exact absurd rfl nonempty
      | cons first others =>
          have behind := (cons.inj same).2
          cases others with
          | nil => exact .inr (cons.inj behind).1.symm
          | cons second others =>
              rw [← (cons.inj behind).1]
              exact .inl (mem_cons_of_mem first mem_cons_self)
    rcases member with digit | rfl
    · exact isDigit_not_mark (wholes mark digit)
    · decide
  obtain ⟨taken, left⟩ := takeWhile_digits whole
    (fun c member => isDigitOf_of_isDigit (wholes c member))
    (show Stops 10 ('.' :: fraction) from stops_cons rfl fraction)
  obtain ⟨takenPart, leftPart⟩ :=
    takeWhile_digits _ (fun c member => isDigitOf_of_isDigit (fractions c member)) (stops_nil 10)
  rw [append_nil] at takenPart leftPart
  have mantissa : readMantissa 10 (whole ++ '.' :: fraction) =
      some ((digitsValue 10 whole : ℚ) + digitsValue 10 fraction / 10 ^ fraction.length, []) := by
    simp [readMantissa, taken, left, takenPart, leftPart, nonempty]
  rw [readRational, splitSign_digits wholes nonempty]
  simp [readMagnitude_plain plain, readUnsigned, mantissa, Option.map_some, readExponent, mul_one, Bool.false_eq_true]

inductive Double
  | finite (value : ℚ)
  | infinite (negative : Bool)
  | nan
deriving DecidableEq

def roundHalfEven (number : ℚ) : Int :=
  let below := ⌊number⌋
  if number - below < 1 / 2 then below
  else if 1 / 2 < number - below then below + 1
  else if below % 2 = 0 then below
  else below + 1

/-- The distance of the doubles about the number: 53 binary digits, fewer below the normal range. -/
def spacing (number : ℚ) : ℚ := 2 ^ (max (Int.log 2 |number|) (-1022) - 52)

def nearestDouble (number : ℚ) : Double :=
  let rounded := roundHalfEven (number / spacing number) * spacing number
  if 2 ^ 1024 ≤ |rounded| then .infinite (number < 0) else .finite rounded

/-- The decimal number, perhaps with a point and an exponent, that the whole text spells. -/
def spelled (text : Text) : Option ℚ :=
  let (negative, unsigned) := splitSign text
  match readUnsigned 10 'e' 10 unsigned with
  | some (magnitude, []) => some (if negative then -magnitude else magnitude)
  | _ => none

theorem spacing_whole (number : Int) : spacing number = 2 ^ ((Nat.log 2 number.natAbs : Int) - 52) := by
  have digits : Int.log 2 |(number : ℚ)| = Nat.log 2 number.natAbs := by
    rw [← Int.cast_abs, Int.abs_eq_natAbs, Int.cast_natCast, Int.log_natCast]
  rw [spacing, digits, max_eq_left (by omega)]

theorem readUnsigned_digits {digits : Text} (all : ∀ c ∈ digits, c.isDigit = true) (nonempty : digits ≠ []) :
    readUnsigned 10 'e' 10 digits = some ((digitsValue 10 digits : ℚ), []) := by
  obtain ⟨taken, left⟩ :=
    takeWhile_digits _ (fun c member => isDigitOf_of_isDigit (all c member)) (stops_nil 10)
  rw [append_nil] at taken left
  simp only [readUnsigned, readMantissa, taken, left, nonempty, false_and, if_false, Option.map_some,
    readExponent, zpow_zero, mul_one]
  simp [digitsValue]

theorem readExponent_other {mark c : Char} (other : c.toLower ≠ mark) (rest : Text) :
    readExponent mark (c :: rest) = (0, c :: rest) := by
  simp [readExponent, other]

theorem readUnsigned_sign {text behind : Text} (left : text.dropWhile (isDigitOf 10) = '-' :: behind) :
    (readUnsigned 10 'e' 10 text).all fun read => read.2 = '-' :: behind := by
  rw [readUnsigned]
  cases mantissa : readMantissa 10 text with
  | none => rfl
  | some read =>
      have unread : read.2 = '-' :: behind := by
        simp only [readMantissa, left] at mantissa
        split at mantissa
        · next point => exact absurd (cons.inj point).1 (by decide)
        · split at mantissa
          · cases mantissa
          · cases mantissa
            rfl
      simp only [Option.map_some, unread, Option.all_some]
      rw [readExponent_other (by decide)]
      simp

theorem spelled_sign {text behind : Text}
    (left : (splitSign text).2.dropWhile (isDigitOf 10) = '-' :: behind) : spelled text = none := by
  have unread := readUnsigned_sign left
  unfold spelled
  simp only []
  split
  · next magnitude read =>
      rw [read] at unread
      simp at unread
  · rfl

theorem mem_splitSign {text : Text} {c : Char} (member : c ∈ (splitSign text).2) : c ∈ text := by
  unfold splitSign at member
  split at member
  · exact mem_cons_of_mem _ member
  · exact mem_cons_of_mem _ member
  · exact member

theorem spelled_plain {text : Text} (plain : ∀ c ∈ text, c = '-' ∨ c.isDigit = true) :
    spelled text =
      if (splitSign text).2 ≠ [] ∧ (splitSign text).2.all Char.isDigit then
        some (signed (splitSign text).1 (digitsValue 10 (splitSign text).2))
      else none := by
  split
  · next digits =>
      unfold spelled
      simp only [readUnsigned_digits (all_eq_true.mp digits.2) digits.1]
      unfold signed
      split <;> simp
  · next other =>
      by_cases empty : (splitSign text).2 = []
      · unfold spelled
        simp only [empty]
        rfl
      · cases left : (splitSign text).2.dropWhile (isDigitOf 10) with
        | nil =>
            refine absurd ⟨empty, all_eq_true.mpr fun c member => isDigit_of_isDigitOf ?_⟩ other
            exact dropWhile_eq_nil_iff.mp left c member
        | cons c behind =>
            have member : c ∈ (splitSign text).2 :=
              (dropWhile_sublist _).subset (left ▸ mem_cons_self)
            have stop : isDigitOf 10 c = false := by
              have := head?_dropWhile_not (isDigitOf 10) (splitSign text).2
              rw [left] at this
              simpa using this
            rcases plain c (mem_splitSign member) with rfl | digit
            · exact spelled_sign left
            · rw [isDigitOf_of_isDigit digit] at stop
              cases stop

end Redhawk.Library
