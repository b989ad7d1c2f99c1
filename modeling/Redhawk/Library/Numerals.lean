import Mathlib.Algebra.Group.Int.Defs
import Mathlib.Algebra.Group.Nat.Defs
import Mathlib.Data.List.TakeWhile
import Mathlib.Tactic.Common

/-!
Integers as text: decimal printing, the reading of the C library's `strtol` family and the
extraction of an integer from a C++ stream.
-/

namespace Redhawk.Library

open List

abbrev Text := List Char

def isSpace (c : Char) : Bool := c = ' ' || (9 ≤ c.toNat && c.toNat ≤ 13)

def digitValue (c : Char) : Option Nat :=
  if 48 ≤ c.toNat ∧ c.toNat ≤ 57 then some (c.toNat - 48)
  else if 97 ≤ c.toNat ∧ c.toNat ≤ 122 then some (c.toNat - 87)
  else if 65 ≤ c.toNat ∧ c.toNat ≤ 90 then some (c.toNat - 55)
  else none

def isDigitOf (base : Nat) (c : Char) : Bool :=
  match digitValue c with
  | some digit => digit < base
  | none => false

def digitsValue (base : Nat) (digits : Text) : Nat :=
  digits.foldl (fun value c => base * value + (digitValue c).getD 0) 0

def decimal (number : Nat) : Text := Nat.toDigits 10 number

def printInteger (value : Int) : Text :=
  if value < 0 then '-' :: decimal value.natAbs else decimal value.natAbs

def splitSign : Text → Bool × Text
  | '-' :: rest => (true, rest)
  | '+' :: rest => (false, rest)
  | text => (false, text)

def signed (negative : Bool) (magnitude : Nat) : Int :=
  if negative then -magnitude else magnitude

def splitBase (base : Nat) (text : Text) : Nat × Text :=
  if base = 0 then
    match text with
    | '0' :: mark :: digit :: rest =>
      if (mark = 'x' ∨ mark = 'X') ∧ isDigitOf 16 digit then (16, digit :: rest) else (8, text)
    | '0' :: _ => (8, text)
    | _ => (10, text)
  else (base, text)

def clamp (low high value : Int) : Int :=
  if value < low then low else if high < value then high else value

/-- `strtol` and its like for a type with these bounds: the value and what is not read, which is the
whole text when no digits are found. -/
def readInteger (low high : Int) (base : Nat) (text : Text) : Int × Text :=
  let (negative, unsigned) := splitSign (text.dropWhile isSpace)
  let (base, numeral) := splitBase base unsigned
  let digits := numeral.takeWhile (isDigitOf base)
  if digits = [] then (0, text)
  else
    (clamp low high (signed negative (digitsValue base digits)), numeral.dropWhile (isDigitOf base))

/-- The extraction of an integer with these bounds, from zero on for an unsigned type, which wraps a
negative number: the value, whether it succeeds and what is left. -/
def extractInteger (low high : Int) (text : Text) : Int × Bool × Text :=
  let (negative, unsigned) := splitSign (text.dropWhile isSpace)
  let digits := unsigned.takeWhile (isDigitOf 10)
  let rest := unsigned.dropWhile (isDigitOf 10)
  let value := signed negative (digitsValue 10 digits)
  if digits = [] then (0, false, rest)
  else if low = 0 then
    if high < (digitsValue 10 digits : Int) then (high, false, rest) else (value % (high + 1), true, rest)
  else (clamp low high value, decide (low ≤ value ∧ value ≤ high), rest)

variable {c : Char}

theorem digitValue_of_isDigit (digit : c.isDigit = true) : digitValue c = some (c.toNat - 48) := by
  have bounds : 48 ≤ c.toNat ∧ c.toNat ≤ 57 := by
    simpa [Char.isDigit, UInt32.le_iff_toNat_le] using digit
  exact if_pos bounds

theorem isDigitOf_of_isDigit (digit : c.isDigit = true) : isDigitOf 10 c = true := by
  have bounds : 48 ≤ c.toNat ∧ c.toNat ≤ 57 := by
    simpa [Char.isDigit, UInt32.le_iff_toNat_le] using digit
  rw [isDigitOf, digitValue_of_isDigit digit]
  simp only [decide_eq_true_eq]
  omega

variable {number : Nat}

theorem isDigit_of_mem_decimal (member : c ∈ decimal number) : c.isDigit = true :=
  Nat.isDigit_of_mem_toDigits (by decide) (by decide) member

theorem decimal_digits {number : Nat} : ∀ c ∈ decimal number, isDigitOf 10 c = true := fun _ member =>
  isDigitOf_of_isDigit (isDigit_of_mem_decimal member)

variable {digits : Text}

theorem foldl_digits (all : ∀ c ∈ digits, c.isDigit = true) (start : Nat) :
    digits.foldl (fun value c => 10 * value + (digitValue c).getD 0) start =
      Nat.ofDigitChars 10 digits start := by
  induction digits generalizing start with
  | nil => rfl
  | cons c rest ih =>
      rw [foldl_cons, Nat.ofDigitChars_cons, digitValue_of_isDigit (all c mem_cons_self)]
      exact ih (fun later member => all later (mem_cons_of_mem c member)) _

theorem digitsValue_decimal (number : Nat) : digitsValue 10 (decimal number) = number := by
  rw [digitsValue, foldl_digits fun c member => isDigit_of_mem_decimal member, decimal,
    Nat.ofDigitChars_ten_toDigits]

@[simp] theorem decimal_ne_nil (number : Nat) : decimal number ≠ [] := Nat.toDigits_ne_nil

theorem decimal_zero_head {rest : Text} (starts : decimal number = '0' :: rest) : number = 0 := by
  induction number using Nat.strongRecOn generalizing rest with
  | ind number ih =>
      rw [decimal, Nat.toDigits_eq_if (by decide)] at starts
      split at starts
      · exact Nat.digitChar_eq_zero.mp (cons.inj starts).1
      · next large =>
          cases tens : Nat.toDigits 10 (number / 10) with
          | nil => exact absurd tens Nat.toDigits_ne_nil
          | cons first others =>
              rw [tens, cons_append] at starts
              rw [(cons.inj starts).1] at tens
              have none := ih (number / 10) (by omega) tens
              omega

theorem printInteger_ne_nil (value : Int) : printInteger value ≠ [] := by
  unfold printInteger
  split
  · exact cons_ne_nil _ _
  · exact decimal_ne_nil _

variable {value : Int}

theorem mem_printInteger (member : c ∈ printInteger value) : c = '-' ∨ c.isDigit = true := by
  unfold printInteger at member
  split at member
  · rcases mem_cons.mp member with sign | digit
    · exact .inl sign
    · exact .inr (isDigit_of_mem_decimal digit)
  · exact .inr (isDigit_of_mem_decimal member)

def Stops (base : Nat) (rest : Text) : Prop := ∀ c ∈ rest.head?, isDigitOf base c = false

theorem stops_nil (base : Nat) : Stops base [] := by simp [Stops]

theorem stops_cons {base : Nat} (stop : isDigitOf base c = false) (rest : Text) :
    Stops base (c :: rest) := by
  simpa [Stops] using stop

theorem takeWhile_digits {base : Nat} (digits : Text) {rest : Text}
    (all : ∀ c ∈ digits, isDigitOf base c = true) (stops : Stops base rest) :
    (digits ++ rest).takeWhile (isDigitOf base) = digits ∧
      (digits ++ rest).dropWhile (isDigitOf base) = rest := by
  rw [takeWhile_append_of_pos all, dropWhile_append_of_pos all]
  cases rest with
  | nil => simp
  | cons c others =>
      have stop := stops c rfl
      simp [stop]

theorem isDigit_not_space (digit : c.isDigit = true) : isSpace c = false := by
  have bounds : 48 ≤ c.toNat ∧ c.toNat ≤ 57 := by
    simpa [Char.isDigit, UInt32.le_iff_toNat_le] using digit
  have other : c ≠ ' ' := by
    rintro rfl
    exact absurd bounds.1 (by decide)
  simp only [isSpace, other, decide_false, Bool.false_or, Bool.and_eq_false_iff, decide_eq_false_iff_not]
  omega

theorem isDigit_not_sign (digit : c.isDigit = true) : c ≠ '-' ∧ c ≠ '+' := by
  constructor <;> rintro rfl <;> exact absurd digit (by decide)

theorem splitSign_other (sign : c ≠ '-' ∧ c ≠ '+') (rest : Text) :
    splitSign (c :: rest) = (false, c :: rest) := by
  unfold splitSign
  split
  · next same => exact absurd (cons.inj same).1 sign.1
  · next same => exact absurd (cons.inj same).1 sign.2
  · rfl

theorem splitSign_digits (all : ∀ c ∈ digits, c.isDigit = true) (nonempty : digits ≠ []) (rest : Text) :
    splitSign ((digits ++ rest).dropWhile isSpace) = (false, digits ++ rest) := by
  cases digits with
  | nil => exact absurd rfl nonempty
  | cons first others =>
      have digit := all first mem_cons_self
      rw [cons_append, dropWhile_cons_of_neg (by rw [isDigit_not_space digit]; simp),
        splitSign_other (isDigit_not_sign digit)]

theorem splitSign_decimal (number : Nat) (rest : Text) :
    splitSign ((decimal number ++ rest).dropWhile isSpace) = (false, decimal number ++ rest) :=
  splitSign_digits (fun _ member => isDigit_of_mem_decimal member) (decimal_ne_nil number) rest

theorem splitSign_printInteger (value : Int) (rest : Text) :
    splitSign ((printInteger value ++ rest).dropWhile isSpace) =
      (decide (value < 0), decimal value.natAbs ++ rest) := by
  unfold printInteger
  split
  · next negative =>
      rw [cons_append, dropWhile_cons_of_neg (by decide), splitSign, decide_eq_true negative]
  · next positive => rw [splitSign_decimal, decide_eq_false positive]

theorem signed_natAbs (value : Int) : signed (decide (value < 0)) value.natAbs = value := by
  unfold signed
  split
  · next negative =>
      have := of_decide_eq_true negative
      omega
  · next positive =>
      have : ¬value < 0 := by simpa using positive
      omega

variable {low high : Int}

theorem clamp_of_mem (lower : low ≤ value) (upper : value ≤ high) : clamp low high value = value := by
  rw [clamp, if_neg (by omega), if_neg (by omega)]

theorem extractInteger_printInteger (low high value : Int) {rest : Text} (stops : Stops 10 rest) :
    extractInteger low high (printInteger value ++ rest) =
      if low = 0 then
        if high < (value.natAbs : Int) then (high, false, rest) else (value % (high + 1), true, rest)
      else (clamp low high value, decide (low ≤ value ∧ value ≤ high), rest) := by
  obtain ⟨digits, left⟩ := takeWhile_digits _ (@decimal_digits value.natAbs) stops
  rw [extractInteger, splitSign_printInteger]
  simp [digits, left, decimal_ne_nil, digitsValue_decimal, signed_natAbs]

theorem extractInteger_fits (lower : low ≤ value) (upper : value ≤ high) {rest : Text} (stops : Stops 10 rest) :
    extractInteger low high (printInteger value ++ rest) = (value, true, rest) := by
  rw [extractInteger_printInteger low high value stops]
  split
  · rw [if_neg (by omega), Int.emod_eq_of_lt (by omega) (by omega)]
  · rw [clamp_of_mem lower upper, decide_eq_true ⟨lower, upper⟩]

theorem extractInteger_none (low high : Int) {text : Text} (behind : Text)
    (unsigned : (splitSign (text.dropWhile isSpace)).2 = behind) (stops : Stops 10 behind) :
    extractInteger low high text = (0, false, behind) := by
  obtain ⟨digits, left⟩ := takeWhile_digits [] (by simp) stops
  rw [nil_append] at digits left
  simp [extractInteger, unsigned, digits, left]

theorem isDigit_of_isDigitOf (digit : isDigitOf 10 c = true) : c.isDigit = true := by
  unfold isDigitOf digitValue at digit
  have bounds : 48 ≤ c.toNat ∧ c.toNat ≤ 57 := by
    split at digit
    · next value found =>
        have small : value < 10 := of_decide_eq_true digit
        split at found
        · assumption
        · split at found
          · cases found
            omega
          · split at found
            · cases found
              omega
            · cases found
    · cases digit
  simpa [Char.isDigit, UInt32.le_iff_toNat_le] using bounds

theorem extractInteger_char (lower : low ≤ 0) (upper : 9 ≤ high) (c : Char)
    {sign letter : Char} (isSign : sign = '+' ∨ sign = '-') (notDigit : isDigitOf 10 letter = false)
    (rest : Text) :
    (extractInteger low high (c :: sign :: letter :: rest)).1 =
      if c.isDigit then ((c.toNat - 48 : Nat) : Int) else 0 := by
  have notSpace : isSpace sign = false := by rcases isSign with rfl | rfl <;> rfl
  have signStops : Stops 10 (sign :: letter :: rest) :=
    stops_cons (by rcases isSign with rfl | rfl <;> rfl) _
  by_cases digit : c.isDigit = true
  · obtain ⟨digits, left⟩ :=
      takeWhile_digits [c] (by simpa using isDigitOf_of_isDigit digit) signStops
    rw [singleton_append] at digits left
    have value : digitsValue 10 [c] = c.toNat - 48 := by simp [digitsValue, digitValue_of_isDigit digit]
    have bounds : 48 ≤ c.toNat ∧ c.toNat ≤ 57 := by
      simpa [Char.isDigit, UInt32.le_iff_toNat_le] using digit
    rw [if_pos digit, extractInteger, dropWhile_cons_of_neg (by rw [isDigit_not_space digit]; simp),
      splitSign_other (isDigit_not_sign digit)]
    simp only [digits, left, value, signed, Bool.false_eq_true, if_false, cons_ne_nil]
    split
    · rw [if_neg (by omega)]
      exact Int.emod_eq_of_lt (by omega) (by omega)
    · exact clamp_of_mem (by omega) (by omega)
  · have stops : ∀ others, Stops 10 (c :: others) := fun others =>
      stops_cons (by
        by_contra found
        exact digit (isDigit_of_isDigitOf (by simpa using found))) others
    rw [if_neg digit]
    by_cases space : isSpace c = true
    · refine congrArg Prod.fst (extractInteger_none low high (letter :: rest) ?_ (stops_cons notDigit rest))
      rw [dropWhile_cons_of_pos space, dropWhile_cons_of_neg (by simp [notSpace])]
      rcases isSign with rfl | rfl <;> rfl
    · by_cases isSign : c = '-' ∨ c = '+'
      · refine congrArg Prod.fst (extractInteger_none low high _ ?_ signStops)
        rcases isSign with rfl | rfl <;> rfl
      · refine congrArg Prod.fst (extractInteger_none low high _ ?_ (stops (sign :: letter :: rest)))
        rw [dropWhile_cons_of_neg space, splitSign_other (by simpa using isSign)]

theorem readInteger_printInteger (low high value : Int) :
    readInteger low high 0 (printInteger value) = (clamp low high value, []) := by
  have split := splitSign_printInteger value []
  rw [append_nil, append_nil] at split
  obtain ⟨digits, left⟩ :=
    takeWhile_digits _ (@decimal_digits value.natAbs) (stops_nil 10)
  rw [append_nil] at digits left
  rw [readInteger, split]
  by_cases zero : value = 0
  · subst zero
    rfl
  · have plain : splitBase 0 (decimal value.natAbs) = (10, decimal value.natAbs) := by
      have notZero : ∀ rest, decimal value.natAbs ≠ '0' :: rest := fun rest same =>
        zero (Int.natAbs_eq_zero.mp (decimal_zero_head same))
      unfold splitBase
      rw [if_pos rfl]
      split
      · next same => exact absurd same (notZero _)
      · next same => exact absurd same (notZero _)
      · rfl
    simp [plain, digits, left, decimal_ne_nil, digitsValue_decimal, signed_natAbs]

theorem readInteger_digits (low high : Int) (all : ∀ c ∈ digits, c.isDigit = true)
    (nonempty : digits ≠ []) {rest : Text} (stops : Stops 10 rest) :
    readInteger low high 10 (digits ++ rest) = (clamp low high (digitsValue 10 digits), rest) := by
  obtain ⟨taken, left⟩ :=
    takeWhile_digits _ (fun c member => isDigitOf_of_isDigit (all c member)) stops
  have base : splitBase 10 (digits ++ rest) = (10, digits ++ rest) := rfl
  simp only [readInteger, splitSign_digits all nonempty, base, taken, left, nonempty, if_false]
  rfl

theorem readInteger_printed (low high value : Int) {rest : Text} (stops : Stops 10 rest) :
    readInteger low high 10 (printInteger value ++ rest) = (clamp low high value, rest) := by
  obtain ⟨taken, left⟩ := takeWhile_digits _ (@decimal_digits value.natAbs) stops
  have base : splitBase 10 (decimal value.natAbs ++ rest) = (10, decimal value.natAbs ++ rest) := rfl
  simp [readInteger, splitSign_printInteger, base, taken, left, decimal_ne_nil, digitsValue_decimal,
    signed_natAbs]

def padded (width : Nat) (value : Int) : Text := (printInteger value).leftpad width '0'

theorem isDigit_of_mem_padded {width : Nat} (member : c ∈ padded width number) : c.isDigit = true := by
  rcases mem_append.mp member with zero | digit
  · rw [(mem_replicate.mp zero).2]
    rfl
  · exact isDigit_of_mem_decimal digit

theorem padded_ne_nil (width number : Nat) : padded width number ≠ [] := by
  exact append_ne_nil_of_right_ne_nil _ (decimal_ne_nil _)

theorem foldl_zeros (count : Nat) (digits : Text) :
    digitsValue 10 (replicate count '0' ++ digits) = digitsValue 10 digits := by
  induction count with
  | zero => rfl
  | succ count ih =>
      rw [replicate_succ, cons_append, ← ih]
      rfl

theorem digitsValue_padded (width number : Nat) : digitsValue 10 (padded width number) = number := by
  rw [padded, leftpad, foldl_zeros, printInteger, if_neg (by omega)]
  exact digitsValue_decimal number

theorem length_padded {width : Nat} (positive : 0 < width) (fits : number < 10 ^ width) :
    (padded width number).length = width := by
  have short : (decimal number).length ≤ width :=
    (Nat.length_toDigits_le_iff (by decide) positive).mpr fits
  rw [padded, printInteger, if_neg (by omega)]
  simp only [leftpad, length_append, length_replicate, Int.natAbs_natCast]
  omega

theorem readInteger_padded (low high : Int) (width number : Nat) {rest : Text} (stops : Stops 10 rest) :
    readInteger low high 10 (padded width number ++ rest) = (clamp low high number, rest) := by
  rw [readInteger_digits low high (fun _ member => isDigit_of_mem_padded member)
    (padded_ne_nil width number) stops, digitsValue_padded]

theorem readInteger_ten (low high : Int) {text : Text}
    (plain : (splitSign (text.dropWhile isSpace)).2.head? ≠ some '0') :
    readInteger low high 10 text = readInteger low high 0 text := by
  have base : splitBase 0 (splitSign (text.dropWhile isSpace)).2 =
      (10, (splitSign (text.dropWhile isSpace)).2) := by
    generalize (splitSign (text.dropWhile isSpace)).2 = unsigned at plain
    unfold splitBase
    rw [if_pos rfl]
    split
    · exact absurd rfl plain
    · exact absurd rfl plain
    · rfl
  simp only [readInteger, base]
  rfl

end Redhawk.Library
