import Redhawk.Library.Numerals

/-!
Property values as text (`prop_helpers.cpp`): `any_to_string` and `string_to_any` for every property
type.

What the C library and the streams make of floating point texts is a parameter, and so are times.
-/

namespace Redhawk.Properties

open Library

inductive IntegerType
  | char
  | octet
  | short
  | ushort
  | long
  | ulong
  | longlong
  | ulonglong
deriving DecidableEq

namespace IntegerType

def low : IntegerType → Int
  | .char => -0x80
  | .short => -0x8000
  | .long => -0x80000000
  | .longlong => -0x8000000000000000
  | .octet | .ushort | .ulong | .ulonglong => 0

def high : IntegerType → Int
  | .char => 0x7f
  | .octet => 0xff
  | .short => 0x7fff
  | .ushort => 0xffff
  | .long => 0x7fffffff
  | .ulong => 0xffffffff
  | .longlong => 0x7fffffffffffffff
  | .ulonglong => 0xffffffffffffffff

abbrev Value (type : IntegerType) := { value : Int // type.low ≤ value ∧ value ≤ type.high }

def narrow (type : IntegerType) (value : Int) : Int :=
  (value - type.low) % (type.high - type.low + 1) + type.low

section

variable (type : IntegerType)

theorem low_le_high : type.low ≤ type.high := by cases type <;> decide

theorem narrow_fits (value : Int) : type.low ≤ type.narrow value ∧ type.narrow value ≤ type.high := by
  have ordered := type.low_le_high
  have positive : 0 < type.high - type.low + 1 := by omega
  have lower := Int.emod_nonneg (value - type.low) (Int.ne_of_gt positive)
  have upper := Int.emod_lt_of_pos (value - type.low) positive
  rw [narrow]
  omega

theorem narrow_of_fits {value : Int}
    (fits : type.low ≤ value ∧ value ≤ type.high) : type.narrow value = value := by
  rw [narrow, Int.emod_eq_of_lt (by omega) (by omega)]
  omega

theorem narrow_eq_iff {left right : Int} :
    type.narrow left = type.narrow right ↔ type.high - type.low + 1 ∣ left - right := by
  have shifted : left - type.low - (right - type.low) = left - right := by omega
  rw [narrow, narrow, Int.add_left_inj, Int.emod_eq_emod_iff_emod_sub_eq_zero, shifted,
    ← Int.dvd_iff_emod_eq_zero]

theorem narrow_dvd (value : Int) : type.high - type.low + 1 ∣ type.narrow value - value :=
  type.narrow_eq_iff.mp (type.narrow_of_fits (type.narrow_fits value))

def cast (type : IntegerType) (value : Int) : type.Value := ⟨type.narrow value, type.narrow_fits value⟩

theorem cast_value (value : type.Value) : type.cast value.1 = value :=
  Subtype.ext (type.narrow_of_fits value.2)

end

def overflows : IntegerType → Bool
  | .long | .longlong => true
  | _ => false

def name : IntegerType → String
  | .char => "char"
  | .octet => "octet"
  | .short => "short"
  | .ushort => "ushort"
  | .long => "long"
  | .ulong => "ulong"
  | .longlong => "longlong"
  | .ulonglong => "ulonglong"

end IntegerType

inductive FloatingType
  | float
  | double
deriving DecidableEq

def FloatingType.name : FloatingType → String
  | .float => "float"
  | .double => "double"

inductive PropertyType
  | boolean
  | integer (type : IntegerType)
  | floating (type : FloatingType)
  | string
  | complexBoolean
  | complexInteger (type : IntegerType)
  | complexFloating (type : FloatingType)
  | utctime
deriving DecidableEq

abbrev StringValue := { text : Text // '\x00' ∉ text }

inductive ExactValue
  | boolean (value : Bool)
  | integer (type : IntegerType) (value : type.Value)
  | string (value : StringValue)
  | complexBoolean (real imag : Bool)
  | complexInteger (type : IntegerType) (real imag : type.Value)
deriving DecidableEq

def ExactValue.type : ExactValue → PropertyType
  | .boolean _ => .boolean
  | .integer type _ => .integer type
  | .string _ => .string
  | .complexBoolean _ _ => .complexBoolean
  | .complexInteger type _ _ => .complexInteger type

inductive PropertyValue (Float Time : Type)
  | exact (value : ExactValue)
  | floating (type : FloatingType) (value : Float)
  | complexFloating (type : FloatingType) (real imag : Float)
  | utctime (value : Time)

/-- `overflow` stands for a result that the language leaves undefined. -/
inductive ConversionError
  | badConversion (value : Text) (type : String)
  | overflow
deriving DecidableEq

/-- `strtod` and `strtof`, the extraction of a floating point number from a stream and its
multiplication by -1, the time of the clock and the one a C string spells. -/
structure TextLibrary (Float Time : Type) where
  strto : FloatingType → Text → Float × Text
  extract : FloatingType → Text → Float × Bool × Text
  zero : Float
  negate : Float → Float
  now : Time
  scanTime : Text → Time

/-! Printing. -/

def byteChar (value : Int) : Char := Char.ofNat (value % 0x100).toNat

def streamBoolean (value : Bool) : Text := if value then ['1'] else ['0']

def streamInteger (type : IntegerType) (value : Int) : Text :=
  match type with
  | .char | .octet => [byteChar value]
  | _ => printInteger value

def convertComplexAnyToString (type : IntegerType) (real imag : Int) : Except ConversionError Text :=
  if imag < 0 then
    if type.overflows ∧ imag = type.low then .error .overflow
    else .ok (streamInteger type real ++ '-' :: 'j' :: printInteger (imag * -1))
  else .ok (streamInteger type real ++ '+' :: 'j' :: streamInteger type imag)

def anyToString : ExactValue → Except ConversionError Text
  | .boolean value => .ok (streamBoolean value)
  | .integer .octet value => .ok (printInteger value.1)
  | .integer type value => .ok (streamInteger type value.1)
  | .string value => .ok value.1
  | .complexBoolean real imag => .ok (streamBoolean real ++ '+' :: 'j' :: streamBoolean imag)
  | .complexInteger type real imag => convertComplexAnyToString type real.1 imag.1

/-! Reading. -/

variable (value : Text)

def cStr : Text := value.takeWhile (· ≠ '\x00')

theorem cStr_ends : '\x00' ∉ cStr value := fun member => by
  simpa using List.mem_takeWhile_imp member

theorem cStr_of_not_mem {text : Text} (absent : '\x00' ∉ text) : cStr text = text := by
  refine List.takeWhile_eq_self_iff.mpr fun c member => ?_
  simpa using fun same : c = '\x00' => absent (same ▸ member)

def strtoll (base : Nat) (value : Text) : Int × Text :=
  readInteger IntegerType.longlong.low IntegerType.longlong.high base (cStr value)

def isTrue : Bool :=
  value = "true".toList || value = "True".toList || value = "TRUE".toList || value = "1".toList

def isFalse : Bool :=
  value = "false".toList || value = "False".toList || value = "FALSE".toList || value = "0".toList

def IntegerType.readAs : IntegerType → IntegerType
  | .char => .long
  | .octet => .ulong
  | type => type

def extractBoolean (text : Text) : Bool × Bool × Text :=
  let (number, succeeds, rest) :=
    extractInteger IntegerType.longlong.low IntegerType.longlong.high text
  if number = 0 then (false, succeeds, rest)
  else if number = 1 then (true, succeeds, rest)
  else (true, false, rest)

def timesMinusOne (type : IntegerType) (value : Int) : Except ConversionError Int :=
  if type.overflows ∧ value = type.low then .error .overflow else .ok (type.narrow (value * -1))

section Complex

variable {Number : Type} (zero : Number) (extract : Text → Number × Bool × Text)

/-- `stream >> sign >> j >> B` behind the real part, where what cannot be read is left as it is. -/
def signAndImag (text : Text) : Char × Number :=
  match text.dropWhile isSpace with
  | [] => ('+', zero)
  | sign :: behindSign =>
    match behindSign.dropWhile isSpace with
    | [] => (sign, zero)
    | _ :: behindJ => (sign, (extract behindJ).1)

def withoutReal (value : Text) (read : Char × Number) : Char × Number :=
  match value with
  | 'j' :: second :: rest => (read.1, (extract (second :: rest)).1)
  | '-' :: 'j' :: rest => ('-', (extract rest).1)
  | _ => read

def convertComplexStringToAny (negate : Number → Except ConversionError Number) (value : Text) :
    Except ConversionError (Number × Number) :=
  let (a, succeeds, behindA) := extract value
  let read := if succeeds then signAndImag zero extract behindA else ('+', zero)
  let (sign, b) := withoutReal extract value read
  let negated := if sign = '-' then negate b else .ok b
  negated.map fun b => (a, if 'j' ∈ value then b else zero)

end Complex

def complexInteger (type : IntegerType) (value : Text) : Except ConversionError ExactValue :=
  (convertComplexStringToAny 0 (extractInteger type.readAs.low type.readAs.high)
    (timesMinusOne type.readAs) value).map fun number =>
      .complexInteger type (type.cast number.1) (type.cast number.2)

def complexBoolean : Except ConversionError ExactValue :=
  (convertComplexStringToAny false extractBoolean .ok value).map fun number =>
    .complexBoolean number.1 number.2

section Library

variable {Float Time : Type} (library : TextLibrary Float Time)

def complexFloating (type : FloatingType) (value : Text) :
    Except ConversionError (PropertyValue Float Time) :=
  (convertComplexStringToAny library.zero (library.extract type)
    (fun number => .ok (library.negate number)) value).map fun number =>
      .complexFloating type number.1 number.2

def convertTime (value : Text) : Time :=
  if value = "now".toList then library.now else library.scanTime (cStr value)

def endsNumber (fixedPoint : Bool) (value rest : Text) : Bool :=
  value = "(null)".toList || (rest ≠ cStr value && rest = []) ||
    (fixedPoint && (library.strto .double (cStr value)).2 = [])

def stringToInteger (type : IntegerType) (value : Text) : Except ConversionError ExactValue :=
  let (number, rest) := strtoll 0 value
  if endsNumber library true value rest then .ok (.integer type (type.cast number))
  else .error (.badConversion value type.name)

def stringToFloating (type : FloatingType) (value : Text) :
    Except ConversionError (PropertyValue Float Time) :=
  let (number, rest) := library.strto type (cStr value)
  if endsNumber library false value rest then .ok (.floating type number)
  else .error (.badConversion value type.name)

def stringToAny (type : PropertyType) (value : Text) : Except ConversionError (PropertyValue Float Time) :=
  match type with
  | .boolean => .ok (.exact (.boolean (isTrue value)))
  | .integer .char => .ok (.exact (.integer .char (IntegerType.char.cast (value.headD '\x00').toNat)))
  | .integer type => (stringToInteger library type value).map .exact
  | .floating type => stringToFloating library type value
  | .string => .ok (.exact (.string ⟨cStr value, cStr_ends value⟩))
  | .complexBoolean => (complexBoolean value).map .exact
  | .complexInteger type => (complexInteger type value).map .exact
  | .complexFloating type => complexFloating library type value
  | .utctime => .ok (.utctime (convertTime library value))

end Library

def wholeNumbers : TextLibrary Int Int where
  strto _ text := readInteger IntegerType.longlong.low IntegerType.longlong.high 10 text
  extract _ text := extractInteger IntegerType.longlong.low IntegerType.longlong.high text
  zero := 0
  negate number := -number
  now := 1
  scanTime _ := 0

end Redhawk.Properties
