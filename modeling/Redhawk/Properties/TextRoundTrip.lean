import Redhawk.Properties.TextConversions

/-!
Which property values `string_to_any` reads back from what `any_to_string` prints
(`prop_helpers.cpp`).

An unsigned integer of 64 bits is read by the signed parser, a complex char or octet is printed as
characters and read as a number, and the least imaginary part has no negative in its own type.
-/

namespace Redhawk.Properties

open Library IntegerType

def RoundTrips : ExactValue → Prop
  | .integer .ulonglong value => value.1 ≤ longlong.high
  | .complexInteger .char real imag => real.1 = 0 ∧ imag.1 = 0
  | .complexInteger .octet real imag => real.1 = 0 ∧ imag.1 = 0
  | .complexInteger type _ imag => imag.1 < 0 → type.low < imag.1
  | _ => True

section Numerals

theorem cStr_printInteger (value : Int) : cStr (printInteger value) = printInteger value := by
  refine cStr_of_not_mem fun member => ?_
  rcases mem_printInteger member with same | digit
  · exact absurd same (by decide)
  · exact absurd digit (by decide)

end Numerals

section Simple

variable {Float Time : Type} (library : TextLibrary Float Time)

theorem stringToInteger_printInteger (type : IntegerType) (value : Int) :
    stringToInteger library type (printInteger value) =
      .ok (.integer type (type.cast (clamp longlong.low longlong.high value))) := by
  have ends : endsNumber library true (printInteger value) [] = true := by
    rw [endsNumber, cStr_printInteger]
    have nonempty : ([] : Text) ≠ printInteger value := (printInteger_ne_nil value).symm
    simp [nonempty]
  rw [stringToInteger, strtoll, cStr_printInteger, readInteger_printInteger]
  exact if_pos ends

theorem fits_longlong {type : IntegerType} (value : type.Value)
    (bounded : type = .ulonglong → value.1 ≤ longlong.high) :
    longlong.low ≤ value.1 ∧ value.1 ≤ longlong.high := by
  obtain ⟨number, lower, upper⟩ := value
  cases type <;>
    simp only [low, high, reduceCtorEq, IsEmpty.forall_iff, forall_const]
      at lower upper bounded ⊢ <;> omega

theorem integer_read_iff (type : IntegerType) (value : type.Value) :
    stringToInteger library type (printInteger value.1) = .ok (.integer type value) ↔
      (type = .ulonglong → value.1 ≤ longlong.high) := by
  rw [stringToInteger_printInteger]
  constructor
  · rintro same rfl
    have read : ulonglong.narrow (clamp longlong.low longlong.high value.1) = value.1 := by
      simp only [Except.ok.injEq, ExactValue.integer.injEq, heq_eq_eq, true_and] at same
      exact congrArg Subtype.val same
    by_contra above
    have clamped : clamp longlong.low longlong.high value.1 = longlong.high := by
      rw [clamp, if_neg, if_pos] <;> simp only [low, high] at * <;> omega
    rw [clamped, narrow_of_fits _ (by decide)] at read
    omega
  · intro bounded
    obtain ⟨lower, upper⟩ := fits_longlong value bounded
    rw [clamp_of_mem lower upper, cast_value]

theorem byteChar_toNat (value : Int) : ((byteChar value).toNat : Int) = value % 0x100 := by
  have valid : (value % 0x100).toNat.isValidChar := Or.inl (by omega)
  have same : (byteChar value).toNat = (value % 0x100).toNat := by
    rw [byteChar, Char.ofNat, dif_pos valid]
    rfl
  omega

theorem narrow_byte (value : char.Value) : char.narrow (value.1 % 0x100) = value.1 := by
  have bounds := value.2
  simp only [narrow, low, high, Int.reduceNeg,
    Int.reduceSub, Int.reduceAdd] at *
  omega

theorem char_read (value : char.Value) : char.cast (byteChar value.1).toNat = value :=
  Subtype.ext (by rw [byteChar_toNat]; exact narrow_byte value)

end Simple

section Complex

variable {Number : Type} {zero : Number} {extract : Text → Number × Bool × Text}
  {negate : Number → Except ConversionError Number}

theorem complex_real {a b : Number} {value : Text}
    (read : convertComplexStringToAny zero extract negate value = .ok (a, b)) :
    a = (extract value).1 := by
  unfold convertComplexStringToAny at read
  simp only [Except.map] at read
  split at read
  · cases read
  · cases read
    rfl

def NumberFirst (text : Text) : Prop :=
  ∃ c rest, text = c :: rest ∧ c ≠ 'j' ∧ (c = '-' → ∃ d others, rest = d :: others ∧ d ≠ 'j')

theorem NumberFirst.append {text : Text} (number : NumberFirst text) (rest : Text) :
    NumberFirst (text ++ rest) := by
  obtain ⟨c, behind, rfl, notJ, sign⟩ := number
  refine ⟨c, behind ++ rest, rfl, notJ, fun minus => ?_⟩
  obtain ⟨d, others, rfl, digit⟩ := sign minus
  exact ⟨d, others ++ rest, rfl, digit⟩

theorem NumberFirst.withoutReal_eq {value : Text} (number : NumberFirst value)
    (read : Char × Number) : withoutReal extract value read = read := by
  obtain ⟨c, behind, rfl, notJ, sign⟩ := number
  unfold withoutReal
  split
  · next same => exact absurd (List.cons.inj same).1 notJ
  · next same =>
      obtain ⟨minus, tail⟩ := List.cons.inj same
      obtain ⟨d, others, rfl, digit⟩ := sign minus
      exact absurd (List.cons.inj tail).1 digit
  · rfl

theorem numberFirst_decimal (number : Nat) : NumberFirst (decimal number) := by
  cases digits : decimal number with
  | nil => exact absurd digits (decimal_ne_nil number)
  | cons first others =>
      have digit : first.isDigit = true := isDigit_of_mem_decimal (digits ▸ List.mem_cons_self)
      refine ⟨first, others, rfl, ?_, fun minus => absurd minus (isDigit_not_sign digit).1⟩
      rintro rfl
      exact absurd digit (by decide)

theorem numberFirst_printInteger (value : Int) : NumberFirst (printInteger value) := by
  unfold printInteger
  split
  · obtain ⟨first, others, same, notJ, -⟩ := numberFirst_decimal value.natAbs
    exact ⟨'-', _, rfl, by decide, fun _ => ⟨first, others, same, notJ⟩⟩
  · exact numberFirst_decimal _

theorem complex_read {a b : Number} {real imag : Text} {sign : Char}
    (isSign : sign = '+' ∨ sign = '-') (number : NumberFirst real)
    (first : extract (real ++ sign :: 'j' :: imag) = (a, true, sign :: 'j' :: imag))
    (second : (extract imag).1 = b) :
    convertComplexStringToAny zero extract negate (real ++ sign :: 'j' :: imag) =
      (if sign = '-' then negate b else .ok b).map fun b => (a, b) := by
  have notSpace : isSpace sign = false := by rcases isSign with rfl | rfl <;> rfl
  have behind : signAndImag zero extract (sign :: 'j' :: imag) = (sign, b) := by
    rw [signAndImag, List.dropWhile_cons_of_neg (by simp [notSpace])]
    exact congrArg (Prod.mk sign) second
  have present : 'j' ∈ real ++ sign :: 'j' :: imag := by simp
  simp [convertComplexStringToAny, first, behind, (number.append _).withoutReal_eq, present]

theorem complex_unread {value rest : Text} (number : NumberFirst value)
    (fails : extract value = (zero, false, rest)) :
    convertComplexStringToAny zero extract negate value = .ok (zero, zero) := by
  simp [convertComplexStringToAny, fails, number.withoutReal_eq, Except.map]

section

variable {type : IntegerType} (wide : type ≠ .char ∧ type ≠ .octet)

include wide

theorem streamInteger_wide (value : Int) : streamInteger type value = printInteger value := by
  unfold streamInteger
  split
  · exact absurd rfl wide.1
  · exact absurd rfl wide.2
  · rfl

theorem readAs_wide : type.readAs = type := by
  unfold readAs
  split
  · exact absurd rfl wide.1
  · exact absurd rfl wide.2
  · rfl

theorem complexInteger_printed
    (real : type.Value) {sign : Char} (isSign : sign = '+' ∨ sign = '-') {b : Int} {imag : Text}
    (second : (extractInteger type.low type.high imag).1 = b) :
    complexInteger type (printInteger real.1 ++ sign :: 'j' :: imag) =
      (if sign = '-' then timesMinusOne type b else .ok b).map fun b =>
        .complexInteger type real (type.cast b) := by
  have stops : Stops 10 (sign :: 'j' :: imag) :=
    stops_cons (by rcases isSign with rfl | rfl <;> rfl) _
  have first := extractInteger_fits real.2.1 real.2.2 stops
  rw [complexInteger, readAs_wide wide, complex_read isSign (numberFirst_printInteger real.1) first second]
  cases (if sign = '-' then timesMinusOne type b else .ok b : Except ConversionError Int) with
  | error raised => rfl
  | ok b => simp only [Except.map, type.cast_value]

end

theorem extracted_fits {low high value : Int} (lower : low ≤ value) (upper : value ≤ high) :
    (extractInteger low high (printInteger value)).1 = value := by
  have printed := extractInteger_fits lower upper (stops_nil 10)
  rw [List.append_nil] at printed
  rw [printed]

theorem negative_fits {type : IntegerType} {value : Int} (negative : value < 0)
    (least : type.low < value) : type.low ≤ value * -1 ∧ value * -1 ≤ type.high := by
  cases type <;> simp only [low, high] at least ⊢ <;> omega

theorem timesMinusOne_back {type : IntegerType} {value : Int} (negative : value < 0)
    (fits : type.low < value ∧ value ≤ type.high) :
    timesMinusOne type (value * -1) = .ok value := by
  have least : ¬(type.overflows = true ∧ value * -1 = type.low) := by
    rintro ⟨-, same⟩
    omega
  have back : value * -1 * -1 = value := by omega
  rw [timesMinusOne, if_neg least, back, type.narrow_of_fits ⟨by omega, fits.2⟩]

section

variable {type : IntegerType} (wide : type ≠ .char ∧ type ≠ .octet) (real imag : type.Value)

include wide

theorem complex_least (negative : imag.1 < 0) (least : imag.1 = type.low) :
    (convertComplexAnyToString type real.1 imag.1 >>= complexInteger type) ≠
      .ok (.complexInteger type real imag) := by
  rw [convertComplexAnyToString, if_pos negative]
  by_cases overflows : type.overflows = true
  · rw [if_pos ⟨overflows, least⟩]
    intro same
    cases same
  · have short : type = .short := by
      cases type
      case short => rfl
      case char => exact absurd rfl wide.1
      case long | longlong => exact absurd rfl overflows
      all_goals
        simp only [low] at least
        omega
    subst short
    rw [if_neg fun both => overflows both.1, streamInteger_wide wide]
    -- The number behind the sign is one above the greatest of the type.
    have clamped : (extractInteger short.low short.high (printInteger (imag.1 * -1))).1 = 32767 := by
      rw [least]
      decide
    refine fun same => ?_
    rw [show (Except.ok (printInteger real.1 ++ '-' :: 'j' :: printInteger (imag.1 * -1)) >>=
      complexInteger .short) = _ from complexInteger_printed wide real (.inr rfl) clamped] at same
    have read : short.cast (short.narrow (-32767)) = imag := by
      simpa [timesMinusOne, overflows, Except.map] using same
    rw [← read] at least
    exact absurd least (by decide)

theorem complex_wide_iff :
    (convertComplexAnyToString type real.1 imag.1 >>= complexInteger type) =
      .ok (.complexInteger type real imag) ↔ (imag.1 < 0 → type.low < imag.1) := by
  constructor
  · intro same negative
    by_contra least
    exact complex_least wide real imag negative (by have := imag.2.1; omega) same
  · intro fits
    by_cases negative : imag.1 < 0
    · have least := fits negative
      have printed : convertComplexAnyToString type real.1 imag.1 =
          .ok (printInteger real.1 ++ '-' :: 'j' :: printInteger (imag.1 * -1)) := by
        rw [convertComplexAnyToString, if_pos negative, if_neg (by omega), streamInteger_wide wide]
      obtain ⟨lower, upper⟩ := negative_fits negative least
      rw [printed]
      refine (complexInteger_printed wide real (.inr rfl) (extracted_fits lower upper)).trans ?_
      rw [if_pos rfl, timesMinusOne_back negative ⟨least, imag.2.2⟩]
      simp only [Except.map, type.cast_value]
    · have printed : convertComplexAnyToString type real.1 imag.1 =
          .ok (printInteger real.1 ++ '+' :: 'j' :: printInteger imag.1) := by
        rw [convertComplexAnyToString, if_neg negative, streamInteger_wide wide, streamInteger_wide wide]
      rw [printed]
      refine (complexInteger_printed wide real (.inl rfl) (extracted_fits imag.2.1 imag.2.2)).trans ?_
      simp [Char.reduceEq, Except.map, type.cast_value]

end

end Complex

section Bytes

variable {type : IntegerType}

theorem complexByte_printed (byte : type = .char ∨ type = .octet) (real imag : Int) :
    ∃ sign tail, (sign = '+' ∨ sign = '-') ∧
      convertComplexAnyToString type real imag = .ok (byteChar real :: sign :: 'j' :: tail) := by
  have real' : streamInteger type real = [byteChar real] := by rcases byte with rfl | rfl <;> rfl
  have defined : ¬(type.overflows = true ∧ imag = type.low) := by
    rcases byte with rfl | rfl <;> simp [overflows]
  rw [convertComplexAnyToString, if_neg defined]
  split
  · rw [real']
    exact ⟨'-', _, .inr rfl, rfl⟩
  · rw [real']
    exact ⟨'+', _, .inl rfl, rfl⟩

theorem zero_unread (low high : Int) (sign : Char) (tail : Text) :
    convertComplexStringToAny 0 (extractInteger low high) (timesMinusOne type)
      ('\x00' :: sign :: 'j' :: tail) = .ok (0, 0) := by
  refine complex_unread ⟨_, _, rfl, by decide, fun minus => absurd minus (by decide)⟩
    (extractInteger_none low high ('\x00' :: sign :: 'j' :: tail) rfl (stops_cons rfl _))

theorem byte_not_read (byte : type = .char ∨ type = .octet) (real : type.Value)
    (digit : (byteChar real.1).isDigit = true) :
    type.narrow ((byteChar real.1).toNat - 48 : Nat) ≠ real.1 := by
  have bounds : 48 ≤ (byteChar real.1).toNat ∧ (byteChar real.1).toNat ≤ 57 := by
    simpa [Char.isDigit, UInt32.le_iff_toNat_le] using digit
  have value := byteChar_toNat real.1
  rcases byte with rfl | rfl <;>
    simp only [narrow, low, high, Int.reduceNeg,
      Int.reduceSub, Int.reduceAdd] at * <;> omega

theorem byteChar_zero {value : Int} (zero : value = 0) : byteChar value = '\x00' := by
  subst zero
  rfl

theorem complex_byte_iff (byte : type = .char ∨ type = .octet) (real imag : type.Value) :
    (convertComplexAnyToString type real.1 imag.1 >>= complexInteger type) =
      .ok (.complexInteger type real imag) ↔ real.1 = 0 ∧ imag.1 = 0 := by
  obtain ⟨sign, tail, isSign, printed⟩ := complexByte_printed byte real.1 imag.1
  have castZero : (type.cast 0).1 = 0 := type.narrow_of_fits (by rcases byte with rfl | rfl <;> decide)
  rw [printed]
  change complexInteger type _ = _ ↔ _
  rw [complexInteger]
  constructor
  · intro same
    cases read : convertComplexStringToAny 0 (extractInteger type.readAs.low type.readAs.high)
        (timesMinusOne type.readAs) (byteChar real.1 :: sign :: 'j' :: tail) with
    | error raised =>
        rw [read] at same
        cases same
    | ok parts =>
        rw [read] at same
        obtain ⟨rfl, rfl⟩ := same
        have first := complex_real read
        rw [extractInteger_char (by rcases byte with rfl | rfl <;> decide)
          (by rcases byte with rfl | rfl <;> decide) _ isSign rfl] at first
        have realZero : (type.cast parts.1).1 = 0 := by
          split at first
          · next digit => exact absurd (congrArg type.narrow first).symm (byte_not_read byte _ digit)
          · rw [first, castZero]
        rw [byteChar_zero realZero, zero_unread] at read
        cases read
        exact ⟨castZero, castZero⟩
  · rintro ⟨realZero, imagZero⟩
    rw [byteChar_zero realZero, zero_unread]
    have real' : real = type.cast 0 := Subtype.ext (realZero.trans castZero.symm)
    have imag' : imag = type.cast 0 := Subtype.ext (imagZero.trans castZero.symm)
    rw [real', imag']
    rfl

end Bytes

section RoundTrip

variable {Float Time : Type} (library : TextLibrary Float Time)

theorem map_exact_iff {read : Except ConversionError ExactValue} {value : ExactValue} :
    (read.map (.exact : ExactValue → PropertyValue Float Time) = .ok (.exact value)) ↔ read = .ok value := by
  cases read with
  | error raised => simp [Except.map]
  | ok found => simp [Except.map]

theorem integer_round_trip_iff (type : IntegerType) (value : type.Value) :
    (anyToString (.integer type value) >>= stringToAny library (.integer type)) =
      .ok (.exact (.integer type value)) ↔ RoundTrips (.integer type value) := by
  by_cases char : type = .char
  · subst char
    refine iff_of_true ?_ trivial
    exact congrArg (fun read => Except.ok (PropertyValue.exact (ExactValue.integer .char read)))
      (char_read value)
  · have printed : anyToString (.integer type value) = .ok (printInteger value.1) := by
      cases type <;> first | rfl | exact absurd rfl char
    have read : ∀ text, stringToAny library (.integer type) text =
        (stringToInteger library type text).map PropertyValue.exact := by
      intro text
      cases type <;> first | rfl | exact absurd rfl char
    have bounded : RoundTrips (.integer type value) ↔ (type = .ulonglong → value.1 ≤ longlong.high) := by
      cases type <;> simp [RoundTrips]
    rw [printed, bounded]
    change stringToAny library (.integer type) (printInteger value.1) = _ ↔ _
    rw [read, map_exact_iff, integer_read_iff]

theorem complex_round_trip_iff (type : IntegerType) (real imag : type.Value) :
    (anyToString (.complexInteger type real imag) >>= stringToAny library (.complexInteger type)) =
      .ok (.exact (.complexInteger type real imag)) ↔
      RoundTrips (.complexInteger type real imag) := by
  have reading : (anyToString (.complexInteger type real imag) >>=
      stringToAny library (.complexInteger type)) =
        (convertComplexAnyToString type real.1 imag.1 >>= complexInteger type).map
          PropertyValue.exact := by
    rw [anyToString]
    cases convertComplexAnyToString type real.1 imag.1 <;> rfl
  rw [reading, map_exact_iff]
  by_cases byte : type = .char ∨ type = .octet
  · rw [complex_byte_iff byte]
    rcases byte with rfl | rfl <;> rfl
  · rw [complex_wide_iff (not_or.mp byte)]
    cases type with
    | char => exact absurd (.inl rfl) byte
    | octet => exact absurd (.inr rfl) byte
    | _ => rfl

/-- Exactly which values are read back from their own text. -/
theorem round_trip_iff (value : ExactValue) :
    (anyToString value >>= stringToAny library value.type) = .ok (.exact value) ↔ RoundTrips value := by
  cases value with
  | boolean value => cases value <;> exact iff_of_true rfl trivial
  | integer type value => exact integer_round_trip_iff library type value
  | string value =>
      refine iff_of_true ?_ trivial
      exact congrArg (fun read => Except.ok (PropertyValue.exact (ExactValue.string read)))
        (Subtype.ext (cStr_of_not_mem value.2))
  | complexBoolean real imag => cases real <;> cases imag <;> exact iff_of_true rfl trivial
  | complexInteger type real imag => exact complex_round_trip_iff library type real imag

end RoundTrip

/-- The greatest unsigned integer of 64 bits is read as the greatest signed one. -/
theorem greatest_ulonglong_lost :
    (anyToString (.integer .ulonglong ⟨0xffffffffffffffff, by decide⟩) >>=
        stringToAny wholeNumbers (.integer .ulonglong)) =
      .ok (.exact (.integer .ulonglong ⟨0x7fffffffffffffff, by decide⟩)) ∧
    (anyToString (.integer .ulonglong ⟨0xffffffffffffffff, by decide⟩) >>=
        stringToAny wholeNumbers (.integer .ulonglong)) ≠
      .ok (.exact (.integer .ulonglong ⟨0xffffffffffffffff, by decide⟩)) := by
  have read : (anyToString (.integer .ulonglong ⟨0xffffffffffffffff, by decide⟩) >>=
      stringToAny wholeNumbers (.integer .ulonglong)) =
        .ok (.exact (.integer .ulonglong ⟨0x7fffffffffffffff, by decide⟩)) := by
    change (stringToInteger wholeNumbers .ulonglong (printInteger (0xffffffffffffffff))).map
      PropertyValue.exact = _
    rfl
  refine ⟨read, fun same => ?_⟩
  rw [read] at same
  simp at same

end Redhawk.Properties
