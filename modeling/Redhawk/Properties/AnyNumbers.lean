import Redhawk.Library.Decimals
import Redhawk.Properties.TextConversions

/-!
`ossie::any::toNumber` (`AnyUtils.cpp`) for the integer targets.

The numeric converter checks ranges and cuts towards zero; the lexical cast to an unsigned type takes
a minus sign and wraps, and the one to double rounds to the nearest.
-/

namespace Redhawk.Properties

open Library

inductive AnyValue
  | boolean (value : Bool)
  | integer (type : IntegerType) (value : type.Value)
  | floating (type : FloatingType) (value : Double)
  | string (text : Text)
  | other
deriving DecidableEq

abbrev NumberType := { type : IntegerType // type ≠ .char }

inductive ThrownError
  | rangeError
  | badLexicalCast

variable (type : IntegerType)

def inRange (value : Int) : Bool := type.low ≤ value ∧ value ≤ type.high

def convertInteger (value : Int) : Except ThrownError type.Value :=
  if inRange type value then .ok (type.cast value) else .error .rangeError

def convertDouble : Double → Except ThrownError type.Value
  | .finite value => convertInteger type (truncate value)
  | .infinite _ | .nan => .error .rangeError

def infinityNames : List Text := ["inf".toList, "infinity".toList]

def lexicalCastDouble (text : Text) : Except ThrownError Double :=
  match spelled text with
  | some number => .ok (nearestDouble number)
  | none =>
    let (negative, unsigned) := splitSign (text.map Char.toLower)
    if unsigned ∈ infinityNames then .ok (.infinite negative)
    else if unsigned = "nan".toList then .ok .nan
    else .error .badLexicalCast

def lexicalCast (text : Text) : Except ThrownError type.Value :=
  let (negative, unsigned) := splitSign text
  let magnitude := digitsValue 10 unsigned
  if unsigned ≠ [] ∧ unsigned.all Char.isDigit then
    if type.low = 0 then
      if (magnitude : Int) ≤ type.high then .ok (type.cast (signed negative magnitude))
      else .error .badLexicalCast
    else if inRange type (signed negative magnitude) then .ok (type.cast (signed negative magnitude))
    else .error .badLexicalCast
  else .error .badLexicalCast

def hasOtherCharacters (text : Text) : Bool := text.any fun c => !(c = '-' || c.isDigit)

def stringToNumber (text : Text) : Except ThrownError type.Value :=
  if type = .octet ∨ hasOtherCharacters text then
    (lexicalCastDouble text).bind (convertDouble type)
  else lexicalCast type text

def anyToNumber (type : NumberType) : AnyValue → Except ThrownError (Option type.1.Value)
  | .boolean value => (convertInteger type value.toInt).map some
  | .integer .char _ => .ok none
  | .integer _ value => (convertInteger type value.1).map some
  | .floating _ value => (convertDouble type value).map some
  | .string text => (stringToNumber type text).map some
  | .other => .ok none

def toNumber (type : NumberType) (any : AnyValue) (value : type.1.Value) : Bool × type.1.Value :=
  match anyToNumber type any with
  | .ok (some converted) => (true, converted)
  | .ok none | .error _ => (false, value)

def AnyValue.denotes : AnyValue → Option ℚ
  | .boolean value => some value.toInt
  | .integer .char _ => none
  | .integer _ value => some value.1
  | .floating _ (.finite value) => some value
  | .floating _ _ => none
  | .string text => spelled text
  | .other => none

/-- Success gives the number cut towards zero; a number that does not fit fails, and failure leaves the
target as it was. -/
structure ExactOrFails (type : NumberType) (any : AnyValue) (before : type.1.Value)
    (result : Bool × type.1.Value) : Prop where
  succeeds : result.1 = true → ∃ number, any.denotes = some number ∧ truncate number = result.2.1
  outside : ∀ number, any.denotes = some number → inRange type (truncate number) = false → result.1 = false
  unchanged : result.1 = false → result.2 = before

/-- The strings whose number is kept: rounded to a double it does not pass a whole number, unless out of
the range, and no unsigned type reads a negative number of its range. -/
def KeepsNumber (type : NumberType) : AnyValue → Prop
  | .string text => ∀ number, spelled text = some number →
    if type.1 = .octet ∨ hasOtherCharacters text = true then
      ∀ double, nearestDouble number = .finite double → inRange type (truncate double) = true →
        truncate double = truncate number
    else type.1.low = 0 → ¬(-(type.1.high : ℚ) ≤ number ∧ number < 0)
  | _ => True

theorem exactOrFails_iff (type : NumberType) (any : AnyValue) (before : type.1.Value) :
    ExactOrFails type any before (toNumber type any before) ↔
      ∀ converted, anyToNumber type any = .ok (some converted) →
        ∃ number, any.denotes = some number ∧ truncate number = converted.1 := by
  unfold toNumber
  split
  · next converted result =>
      constructor
      · rintro ⟨succeeds, -, -⟩ other same
        rw [result] at same
        cases same
        exact succeeds rfl
      · intro exact
        obtain ⟨number, denotes, cut⟩ := exact converted result
        refine ⟨fun _ => ⟨number, denotes, cut⟩, fun other same outside => ?_, fun failed => ?_⟩
        · rw [denotes] at same
          cases same
          rw [cut, inRange, decide_eq_false_iff_not] at outside
          exact absurd converted.2 outside
        · cases failed
  · next result =>
      refine iff_of_true ⟨fun succeeds => ?_, fun _ _ _ => rfl, fun _ => rfl⟩ fun converted same => ?_
      · cases succeeds
      · rw [result] at same
        cases same
  · next result =>
      refine iff_of_true ⟨fun succeeds => ?_, fun _ _ _ => rfl, fun _ => rfl⟩ fun converted same => ?_
      · cases succeeds
      · rw [result] at same
        cases same

theorem convertInteger_ok {type : IntegerType} {value : Int} {converted : type.Value}
    (result : convertInteger type value = .ok converted) : converted.1 = value := by
  unfold convertInteger at result
  split at result
  · next fits =>
      cases result
      exact type.narrow_of_fits (of_decide_eq_true fits)
  · cases result

theorem convertDouble_ok {type : IntegerType} {value : Double} {converted : type.Value}
    (result : convertDouble type value = .ok converted) :
    ∃ number, value = .finite number ∧ truncate number = converted.1 := by
  cases value with
  | finite number => exact ⟨number, rfl, (convertInteger_ok result).symm⟩
  | infinite negative => cases result
  | nan => cases result

theorem map_some_ok {value : Type} {result : Except ThrownError value} {converted : value}
    (same : result.map some = .ok (some converted)) : result = .ok converted := by
  cases result with
  | error raised => cases same
  | ok found =>
      cases same
      rfl

variable {text : Text}

theorem lexicalCastDouble_none (none : spelled text = none) (type : IntegerType) (converted : type.Value) :
    (lexicalCastDouble text).bind (convertDouble type) ≠ .ok converted := by
  rw [lexicalCastDouble, none]
  simp only []
  split
  · exact fun same => by cases same
  · split
    · exact fun same => by cases same
    · exact fun same => by cases same

variable {number : ℚ}

theorem doubleText_iff (type : IntegerType) (spells : spelled text = some number) :
    (∀ converted, (lexicalCastDouble text).bind (convertDouble type) = .ok converted →
      truncate number = converted.1) ↔
      ∀ double, nearestDouble number = .finite double → inRange type (truncate double) = true →
        truncate double = truncate number := by
  have cast : lexicalCastDouble text = .ok (nearestDouble number) := by
    rw [lexicalCastDouble, spells]
  rw [cast]
  constructor
  · intro exact double nearest fits
    have result : convertDouble type (nearestDouble number) = .ok (type.cast (truncate double)) := by
      rw [nearest]
      exact if_pos fits
    exact ((exact _ result).trans (type.narrow_of_fits (of_decide_eq_true fits))).symm
  · intro kept converted result
    obtain ⟨double, nearest, cut⟩ := convertDouble_ok result
    have fits : inRange type (truncate double) = true := by
      rw [cut]
      exact decide_eq_true converted.2
    rw [← cut]
    exact (kept double nearest fits).symm

theorem plain_of_no_others (plain : hasOtherCharacters text = false) :
    ∀ c ∈ text, c = '-' ∨ c.isDigit = true := by
  intro c member
  have := List.any_eq_false.mp plain c member
  simpa [or_iff_not_imp_left] using this

theorem signed_natAbs_eq (negative : Bool) (magnitude : Nat) :
    (signed negative magnitude).natAbs = magnitude := by
  cases negative <;> simp [signed]

theorem plainText_iff {type : IntegerType} (plain : hasOtherCharacters text = false)
    (spells : spelled text = some number) :
    (∀ converted, lexicalCast type text = .ok converted → truncate number = converted.1) ↔
      (type.low = 0 → ¬(-(type.high : ℚ) ≤ number ∧ number < 0)) := by
  rw [spelled_plain (plain_of_no_others plain)] at spells
  split at spells
  · next digits =>
      cases spells
      have absolute := signed_natAbs_eq (splitSign text).1 (digitsValue 10 (splitSign text).2)
      have cast : lexicalCast type text =
          if type.low = 0 then
            if (digitsValue 10 (splitSign text).2 : Int) ≤ type.high then
              .ok (type.cast (signed (splitSign text).1 (digitsValue 10 (splitSign text).2)))
            else .error .badLexicalCast
          else if inRange type (signed (splitSign text).1 (digitsValue 10 (splitSign text).2)) then
            .ok (type.cast (signed (splitSign text).1 (digitsValue 10 (splitSign text).2)))
          else .error .badLexicalCast := if_pos digits
      rw [cast]
      generalize signed (splitSign text).1 (digitsValue 10 (splitSign text).2) = number at absolute ⊢
      rw [truncate_intCast]
      have bounds : (-(type.high : ℚ) ≤ (number : ℚ) ∧ (number : ℚ) < 0) ↔ -type.high ≤ number ∧ number < 0 := by
        norm_cast
      rw [bounds]
      by_cases unsigned : type.low = 0
      · rw [if_pos unsigned]
        constructor
        · rintro exact - ⟨lower, negative⟩
          rw [if_pos (by omega)] at exact
          have wrapped : number = type.narrow number := exact _ rfl
          have fits := (type.narrow_fits number).1
          omega
        · intro kept converted result
          split at result
          · cases result
            exact (type.narrow_of_fits (by omega)).symm
          · cases result
      · rw [if_neg unsigned]
        refine iff_of_true (fun converted result => ?_) fun zero => absurd zero unsigned
        split at result
        · next fits =>
            cases result
            exact (type.narrow_of_fits (of_decide_eq_true fits)).symm
        · cases result
  · cases spells

theorem stringToNumber_none {type : IntegerType} (none : spelled text = none)
    (converted : type.Value) : stringToNumber type text ≠ .ok converted := by
  unfold stringToNumber
  split
  · exact lexicalCastDouble_none none type converted
  · next plain =>
      have digits : hasOtherCharacters text = false := by simpa using (not_or.mp plain).2
      rw [spelled_plain (plain_of_no_others digits)] at none
      split at none
      · cases none
      · next other =>
          have cast : lexicalCast type text = .error .badLexicalCast := if_neg other
          rw [cast]
          exact fun same => by cases same

theorem stringToNumber_iff (type : NumberType) (spells : spelled text = some number) :
    (∀ converted, stringToNumber type text = .ok converted → truncate number = converted.1) ↔
      KeepsNumber type (.string text) := by
  have only : KeepsNumber type (.string text) ↔
      if type.1 = .octet ∨ hasOtherCharacters text = true then
        ∀ double, nearestDouble number = .finite double → inRange type (truncate double) = true →
          truncate double = truncate number
      else type.1.low = 0 → ¬(-(type.1.high : ℚ) ≤ number ∧ number < 0) := by
    constructor
    · exact fun kept => kept number spells
    · intro kept other same
      rw [spells] at same
      cases same
      exact kept
  rw [only, stringToNumber]
  split
  · exact doubleText_iff type.1 spells
  · next plain =>
      exact plainText_iff (by simpa using (not_or.mp plain).2) spells

/-- An Any is converted to the number it denotes or not at all, exactly where a string keeps its
number. -/
theorem toNumber_exact_iff (type : NumberType) (any : AnyValue) (before : type.1.Value) :
    ExactOrFails type any before (toNumber type any before) ↔ KeepsNumber type any := by
  rw [exactOrFails_iff]
  cases any with
  | boolean value =>
      refine iff_of_true (fun converted result => ⟨_, rfl, ?_⟩) trivial
      rw [truncate_intCast, convertInteger_ok (map_some_ok result)]
  | integer kind value =>
      refine iff_of_true (fun converted result => ?_) trivial
      cases kind with
      | char => cases result
      | _ =>
          refine ⟨_, rfl, ?_⟩
          rw [truncate_intCast, convertInteger_ok (map_some_ok result)]
  | floating kind value =>
      refine iff_of_true (fun converted result => ?_) trivial
      obtain ⟨number, rfl, cut⟩ := convertDouble_ok (map_some_ok result)
      exact ⟨number, rfl, cut⟩
  | string text =>
      cases spells : spelled text with
      | none =>
          refine iff_of_true (fun converted result => ?_) fun number same => ?_
          · exact absurd (map_some_ok result) (stringToNumber_none spells converted)
          · rw [spells] at same
            cases same
      | some number =>
          rw [← stringToNumber_iff type spells]
          constructor
          · intro exact converted result
            obtain ⟨found, denotes, cut⟩ := exact converted (congrArg (Except.map some) result)
            cases spells.symm.trans denotes
            exact cut
          · exact fun exact converted result => ⟨number, spells, exact converted (map_some_ok result)⟩
  | other => exact iff_of_true (fun converted result => by cases result) trivial

theorem nearestDouble_halfway : nearestDouble 9007199254740993 = .finite 9007199254740992 := by
  have wide : spacing 9007199254740993 = 2 := by
    have whole := spacing_whole 9007199254740993
    exact whole
  have half : roundHalfEven (9007199254740993 / 2) = 4503599627370496 := by
    have below : ⌊(9007199254740993 / 2 : ℚ)⌋ = 4503599627370496 := by
      norm_num
    rw [roundHalfEven, below]
    norm_num
  have product : ((4503599627370496 : Int) : ℚ) * 2 = 9007199254740992 := by norm_num
  have bounded : |(9007199254740992 : ℚ)| < 2 ^ 1024 :=
    (show |(9007199254740992 : ℚ)| < 2 ^ 54 by norm_num).trans
      (pow_lt_pow_right₀ (by norm_num) (by norm_num))
  rw [nearestDouble, wide, half, product, if_neg (not_le.mpr bounded)]

/-- A negative number is wrapped into an unsigned type, and 2^53 + 1 with a point in it is rounded. -/
theorem wrapped_and_rounded :
    ¬ExactOrFails ⟨.ushort, by decide⟩ (.string "-1".toList) ⟨7, by decide⟩
      (toNumber ⟨.ushort, by decide⟩ (.string "-1".toList) ⟨7, by decide⟩) ∧
    ¬ExactOrFails ⟨.longlong, by decide⟩ (.string "9007199254740993.0".toList) ⟨7, by decide⟩
      (toNumber ⟨.longlong, by decide⟩ (.string "9007199254740993.0".toList) ⟨7, by decide⟩) := by
  constructor
  · have reads : spelled "-1".toList = some (-1) := by decide +kernel
    have sign : splitSign "-1".toList = (true, ['1']) := rfl
    have digits : digitsValue 10 ['1'] = 1 := rfl
    have cast : IntegerType.ushort.cast (signed true 1) = ⟨65535, by decide⟩ :=
      Subtype.ext (by decide)
    intro exact
    obtain ⟨number, spells, cut⟩ := exact.succeeds rfl
    cases reads.symm.trans spells
    exact absurd cut (by decide)
  · have reads : spelled "9007199254740993.0".toList = some 9007199254740993 := by decide +kernel
    have cast : lexicalCastDouble "9007199254740993.0".toList = .ok (.finite 9007199254740992) := by
      rw [lexicalCastDouble, reads]
      exact congrArg Except.ok nearestDouble_halfway
    have through : stringToNumber .longlong "9007199254740993.0".toList = .ok ⟨9007199254740992, by decide⟩ := by
      rw [stringToNumber, if_pos (by decide), cast]
      change convertInteger .longlong (truncate 9007199254740992) = _
      rfl
    have result : toNumber ⟨.longlong, by decide⟩ (.string "9007199254740993.0".toList)
        ⟨7, by decide⟩ = (true, ⟨9007199254740992, by decide⟩) := by
      rw [toNumber, anyToNumber, through]
      rfl
    rw [result]
    intro exact
    obtain ⟨number, spells, cut⟩ := exact.succeeds rfl
    cases reads.symm.trans spells
    exact absurd cut (by decide)

end Redhawk.Properties
