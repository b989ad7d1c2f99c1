import Redhawk.Library.Lists
import Redhawk.Properties.TextConversions

/-!
`strings_to_any` and the converters of the sequences (`prop_helpers.cpp`), against `string_to_any` on
each string.

An element no converter assigns is left as the sequence was allocated, which is `none`.
-/

namespace Redhawk.Properties

open Library IntegerType List

section Sequences

variable {Float Time : Type} (library : TextLibrary Float Time)

def sequenceOf (convert : Text → PropertyValue Float Time) (values : List Text) :
    List (Option (PropertyValue Float Time)) :=
  values.map fun value => some (convert value)

def integerSequence (type : IntegerType) (read : Text → Int) (values : List Text) :
    List (Option (PropertyValue Float Time)) :=
  sequenceOf (fun value => .exact (.integer type (type.cast (read value)))) values

def complexSequence (convert : Text → Except ConversionError (PropertyValue Float Time))
    (values : List Text) : Except ConversionError (List (Option (PropertyValue Float Time))) :=
  values.mapM fun value => (convert value).map some

variable (values : List Text)

def stringsToBooleanSequence : List (Option (PropertyValue Float Time)) :=
  values.map fun value =>
    if isTrue value then some (.exact (.boolean true))
    else if isFalse value then some (.exact (.boolean false))
    else none

def stringsToCharSequence : List (Option (PropertyValue Float Time)) :=
  integerSequence .char (fun value => (value.headD '\x00').toNat) values

def stringsToDoubleSequence : List (Option (PropertyValue Float Time)) :=
  sequenceOf (fun value => .floating .double (library.strto .double (cStr value)).1) values

def stringsToFloatSequence : List (Option (PropertyValue Float Time)) :=
  sequenceOf (fun value => .floating .float (library.strto .float (cStr value)).1) values

def stringsToShortSequence : List (Option (PropertyValue Float Time)) :=
  integerSequence .short (fun value => short.narrow (strtoll 0 value).1) values

def stringsToLongSequence : List (Option (PropertyValue Float Time)) :=
  integerSequence .long (fun value => (strtoll 0 value).1) values

def stringsToLongLongSequence : List (Option (PropertyValue Float Time)) :=
  integerSequence .longlong (fun value => (strtoll 0 value).1) values

def stringsToUnsignedLongLongSequence : List (Option (PropertyValue Float Time)) :=
  integerSequence .ulonglong (fun value => (strtoll 0 value).1) values

def stringsToOctetSequence : List (Option (PropertyValue Float Time)) :=
  integerSequence .octet (fun value => short.narrow (strtoll 0 value).1) values

def stringsToUnsignedShortSequence : List (Option (PropertyValue Float Time)) :=
  integerSequence .ushort (fun value => ushort.narrow (strtoll 0 value).1) values

def stringsToUnsignedLongSequence : List (Option (PropertyValue Float Time)) :=
  integerSequence .ulong (fun value => ulonglong.narrow (strtoll 10 value).1) values

def stringsToStringSequence : List (Option (PropertyValue Float Time)) :=
  sequenceOf (fun value => .exact (.string ⟨cStr value, cStr_ends value⟩)) values

def stringsToUtctimeSequence : List (Option (PropertyValue Float Time)) :=
  sequenceOf (fun value => .utctime (convertTime library (cStr value))) values

def stringsToComplexBooleanSequence : Except ConversionError (List (Option (PropertyValue Float Time))) :=
  complexSequence (fun value => (complexBoolean value).map .exact) values

def complexIntegerSequence (type : IntegerType) (values : List Text) :
    Except ConversionError (List (Option (PropertyValue Float Time))) :=
  complexSequence (fun value => (complexInteger type value).map .exact) values

def stringsToComplexCharSequence : Except ConversionError (List (Option (PropertyValue Float Time))) :=
  complexIntegerSequence .char values

def stringsToComplexShortSequence : Except ConversionError (List (Option (PropertyValue Float Time))) :=
  complexIntegerSequence .short values

def stringsToComplexLongSequence : Except ConversionError (List (Option (PropertyValue Float Time))) :=
  complexIntegerSequence .long values

def stringsToComplexLongLongSequence : Except ConversionError (List (Option (PropertyValue Float Time))) :=
  complexIntegerSequence .longlong values

def stringsToComplexUnsignedLongLongSequence :
    Except ConversionError (List (Option (PropertyValue Float Time))) :=
  complexIntegerSequence .ulonglong values

def stringsToComplexOctetSequence : Except ConversionError (List (Option (PropertyValue Float Time))) :=
  complexIntegerSequence .octet values

def stringsToComplexUnsignedShortSequence :
    Except ConversionError (List (Option (PropertyValue Float Time))) :=
  complexIntegerSequence .ushort values

def stringsToComplexUnsignedLongSequence :
    Except ConversionError (List (Option (PropertyValue Float Time))) :=
  complexIntegerSequence .ulong values

def stringsToComplexDoubleSequence : Except ConversionError (List (Option (PropertyValue Float Time))) :=
  complexSequence (complexFloating library .double) values

def stringsToComplexFloatSequence : Except ConversionError (List (Option (PropertyValue Float Time))) :=
  complexSequence (complexFloating library .float) values

def stringsToAny (type : PropertyType) (values : List Text) :
    Except ConversionError (List (Option (PropertyValue Float Time))) :=
  match type with
  | .utctime => .ok (stringsToUtctimeSequence library values)
  | .boolean => .ok (stringsToBooleanSequence values)
  | .integer .char => .ok (stringsToCharSequence values)
  | .floating .double => .ok (stringsToDoubleSequence library values)
  | .integer .octet => .ok (stringsToOctetSequence values)
  | .integer .ushort => .ok (stringsToUnsignedShortSequence values)
  | .integer .short => .ok (stringsToShortSequence values)
  | .floating .float => .ok (stringsToFloatSequence library values)
  | .integer .ulong => .ok (stringsToUnsignedLongSequence values)
  | .integer .long => .ok (stringsToLongSequence values)
  | .integer .longlong => .ok (stringsToLongLongSequence values)
  | .integer .ulonglong => .ok (stringsToUnsignedLongLongSequence values)
  | .string => .ok (stringsToStringSequence values)
  | .complexFloating .float => stringsToComplexFloatSequence library values
  | .complexBoolean => stringsToComplexBooleanSequence values
  | .complexInteger .ulong => stringsToComplexUnsignedLongSequence values
  | .complexInteger .short => stringsToComplexShortSequence values
  | .complexInteger .octet => stringsToComplexOctetSequence values
  | .complexInteger .char => stringsToComplexCharSequence values
  | .complexInteger .ushort => stringsToComplexUnsignedShortSequence values
  | .complexFloating .double => stringsToComplexDoubleSequence library values
  | .complexInteger .long => stringsToComplexLongSequence values
  | .complexInteger .longlong => stringsToComplexLongLongSequence values
  | .complexInteger .ulonglong => stringsToComplexUnsignedLongLongSequence values

end Sequences

def startsWithZero (value : Text) : Bool :=
  (splitSign ((cStr value).dropWhile isSpace)).2.head? = some '0'

/-- The number is the same in base ten as in the base that a zero in front of it names. -/
def ReadsInTen (value : Text) : Prop :=
  startsWithZero value = false ∨ (2 : Int) ^ 32 ∣ (strtoll 10 value).1 - (strtoll 0 value).1

section Agreement

variable {Float Time : Type} (library : TextLibrary Float Time)

def ConvertsAlike (type : PropertyType) (value : Text) : Prop :=
  match type with
  | .boolean => isTrue value = true ∨ isFalse value = true
  | .integer .ulong => ReadsInTen value
  | .utctime => cStr value = "now".toList → value = "now".toList ∨ library.scanTime "now".toList = library.now
  | _ => True

def element (type : PropertyType) (value : Text) :
    Except ConversionError (Option (PropertyValue Float Time)) :=
  (stringsToAny library type [value]).map fun sequence => sequence.headD none

variable {convert : Text → Except ConversionError (PropertyValue Float Time)}

theorem element_complex (value : Text) :
    ((complexSequence convert [value]).map fun sequence => sequence.headD none) = (convert value).map some := by
  rw [complexSequence, mapM_cons]
  cases convert value <;> rfl

theorem complexSequence_eq (values : List Text) :
    complexSequence convert values = values.mapM fun value =>
      (complexSequence convert [value]).map fun sequence => sequence.headD none :=
  congrArg (fun converted => values.mapM converted)
    (funext fun value => (element_complex value).symm)

theorem map_eq_mapM {convert : Text → Option (PropertyValue Float Time)} (values : List Text) :
    (.ok (values.map convert) : Except ConversionError (List (Option (PropertyValue Float Time)))) =
      values.mapM fun value =>
        (Except.ok ([value].map convert)).map fun sequence => sequence.headD none := by
  exact (mapM_pure (m := Except ConversionError) (f := convert)).symm

theorem stringsToAny_eq (type : PropertyType) (values : List Text) :
    stringsToAny library type values = values.mapM (element library type) := by
  cases type with
  | boolean | string | utctime => exact map_eq_mapM values
  | integer type => cases type <;> exact map_eq_mapM values
  | floating type => cases type <;> exact map_eq_mapM values
  | complexBoolean => exact complexSequence_eq values
  | complexInteger type => cases type <;> exact complexSequence_eq values
  | complexFloating type => cases type <;> exact complexSequence_eq values

theorem ulong_reads_iff (value : Text) :
    ulong.cast (ulonglong.narrow (strtoll 10 value).1) =
      ulong.cast (strtoll 0 value).1 ↔ ReadsInTen value := by
  have wide := ulonglong.narrow_dvd (strtoll 10 value).1
  have same : ulong.cast (ulonglong.narrow (strtoll 10 value).1) =
      ulong.cast (strtoll 0 value).1 ↔
        (2 : Int) ^ 32 ∣ (strtoll 10 value).1 - (strtoll 0 value).1 := by
    rw [Subtype.ext_iff]
    change ulong.narrow _ = ulong.narrow _ ↔ _
    rw [narrow_eq_iff]
    simp only [low, high, Int.reducePow, Int.reduceSub, Int.reduceAdd] at *
    omega
  rw [same, ReadsInTen]
  refine ⟨.inr, fun reads => reads.elim (fun plain => ?_) id⟩
  have equal : strtoll 10 value = strtoll 0 value :=
    readInteger_ten _ _ (by simpa [startsWithZero] using plain)
  rw [equal, Int.sub_self]
  exact Int.dvd_zero _

variable {value : Text} {found : PropertyValue Float Time}

theorem stringToInteger_accepted {type : IntegerType}
    (accepted : (stringToInteger library type value).map PropertyValue.exact = .ok found) :
    found = .exact (.integer type (type.cast (strtoll 0 value).1)) := by
  unfold stringToInteger at accepted
  simp only [] at accepted
  split at accepted
  · exact (Except.ok.inj accepted).symm
  · cases accepted

theorem stringToFloating_accepted {type : FloatingType}
    (accepted : stringToFloating library type value = .ok found) :
    found = .floating type (library.strto type (cStr value)).1 := by
  unfold stringToFloating at accepted
  simp only [] at accepted
  split at accepted
  · exact (Except.ok.inj accepted).symm
  · cases accepted

theorem cast_narrow {type through : IntegerType}
    (divides : type.high - type.low + 1 ∣ through.high - through.low + 1) (value : Int) :
    type.cast (through.narrow value) = type.cast value :=
  Subtype.ext (type.narrow_eq_iff.mpr (Int.dvd_trans divides (through.narrow_dvd value)))

theorem integer_alike_iff (type : IntegerType)
    (accepted : stringToAny library (.integer type) value = .ok found) :
    element library (.integer type) value = .ok (some found) ↔ ConvertsAlike library (.integer type) value := by
  cases type with
  | char =>
      cases accepted
      exact iff_of_true rfl trivial
  | ulong =>
      rw [stringToInteger_accepted library accepted, ConvertsAlike, ← ulong_reads_iff]
      constructor
      · intro same
        simpa using Option.some.inj (Except.ok.inj same)
      · intro same
        exact congrArg (fun read => Except.ok (some (PropertyValue.exact (.integer .ulong read)))) same
  | short | ushort =>
      rw [stringToInteger_accepted library accepted]
      exact iff_of_true
        (congrArg (fun read => Except.ok (some (PropertyValue.exact (.integer _ read))))
          (cast_narrow (Int.dvd_refl _) _)) trivial
  | octet =>
      rw [stringToInteger_accepted library accepted]
      exact iff_of_true
        (congrArg (fun read => Except.ok (some (PropertyValue.exact (.integer .octet read))))
          (cast_narrow (by decide) _)) trivial
  | long | longlong | ulonglong =>
      rw [stringToInteger_accepted library accepted]
      exact iff_of_true rfl trivial

theorem utctime_alike_iff (value : Text) :
    convertTime library (cStr value) = convertTime library value ↔ ConvertsAlike library .utctime value := by
  have twice : cStr (cStr value) = cStr value := cStr_of_not_mem (cStr_ends value)
  rw [ConvertsAlike, convertTime, convertTime, twice]
  by_cases now : value = "now".toList
  · subst now
    exact iff_of_true rfl fun _ => .inl rfl
  · by_cases cut : cStr value = "now".toList
    · rw [if_pos cut, if_neg now, cut]
      exact ⟨fun same _ => .inr same.symm, fun alike => ((alike rfl).resolve_left now).symm⟩
    · rw [if_neg cut, if_neg now]
      exact iff_of_true rfl fun same => absurd same cut

theorem boolean_alike_iff (value : Text) :
    (element library .boolean value = .ok (some (.exact (.boolean (isTrue value))))) ↔
      ConvertsAlike library .boolean value := by
  have elements : element library .boolean value =
      .ok (if isTrue value then some (.exact (.boolean true))
        else if isFalse value then some (.exact (.boolean false)) else none) := rfl
  rw [elements, ConvertsAlike]
  cases isTrue value <;> cases isFalse value <;> simp

theorem element_alike_iff (type : PropertyType) (accepted : stringToAny library type value = .ok found) :
    element library type value = .ok (some found) ↔ ConvertsAlike library type value := by
  cases type with
  | boolean =>
      cases accepted
      exact boolean_alike_iff library value
  | integer type => exact integer_alike_iff library type accepted
  | floating type =>
      rw [stringToFloating_accepted library accepted]
      cases type <;> exact iff_of_true rfl trivial
  | string =>
      cases accepted
      exact iff_of_true rfl trivial
  | complexBoolean =>
      refine iff_of_true ?_ trivial
      exact (element_complex value).trans (congrArg (Except.map some) accepted)
  | complexInteger type =>
      refine iff_of_true ?_ trivial
      cases type <;>
        exact (element_complex value).trans (congrArg (Except.map some) accepted)
  | complexFloating type =>
      refine iff_of_true ?_ trivial
      cases type <;>
        exact (element_complex value).trans (congrArg (Except.map some) accepted)
  | utctime =>
      cases accepted
      rw [← utctime_alike_iff]
      constructor
      · intro same
        simpa using Option.some.inj (Except.ok.inj same)
      · intro same
        exact congrArg (fun read => Except.ok (some (PropertyValue.utctime read))) same

/-- The strings that are accepted are converted in a sequence as they are on their own, and every
element is set, exactly where each of them is converted alike. -/
theorem stringsToAny_alike_iff (type : PropertyType) {values : List Text}
    (accepted : ∀ value ∈ values, ∃ found, stringToAny library type value = .ok found) :
    (∃ found, stringsToAny library type values = .ok (found.map some) ∧
      Forall₂ (fun value result => stringToAny library type value = .ok result) values found) ↔
      ∀ value ∈ values, ConvertsAlike library type value := by
  have alike : ∀ value ∈ values, ∀ result, stringToAny library type value = .ok result →
      (element library type value = .ok (some result) ↔ ConvertsAlike library type value) :=
    fun value _ result converted => element_alike_iff library type converted
  simp only [stringsToAny_eq, mapM_eq_ok_iff, forall₂_map_right_iff]
  constructor
  · rintro ⟨found, elements, simple⟩ value member
    obtain ⟨place, bound, rfl⟩ := getElem_of_mem member
    have inFound : place < found.length := elements.length_eq ▸ bound
    exact (alike _ member _ (forall₂_iff_get.mp simple |>.2 place bound inFound)).mp
      (forall₂_iff_get.mp elements |>.2 place bound inFound)
  · intro each
    induction values with
    | nil => exact ⟨[], .nil, .nil⟩
    | cons value rest ih =>
        obtain ⟨result, converted⟩ := accepted value mem_cons_self
        obtain ⟨found, elements, simple⟩ :=
          ih (fun later member => accepted later (mem_cons_of_mem value member))
            (fun later member => alike later (mem_cons_of_mem value member))
            (fun later member => each later (mem_cons_of_mem value member))
        exact ⟨result :: found,
          .cons ((alike value mem_cons_self result converted).mpr
            (each value mem_cons_self)) elements, .cons converted simple⟩

end Agreement

theorem stringsToAny_alike_decimals :
    ∃ found, stringsToAny wholeNumbers (.integer .ulong) ["12".toList, " -3".toList] = .ok (found.map some) ∧
      Forall₂ (fun value result =>
        stringToAny wholeNumbers (.integer .ulong) value = .ok result)
          ["12".toList, " -3".toList] found := by
  refine (stringsToAny_alike_iff wholeNumbers (.integer .ulong) fun value member => ?_).mpr
    fun value member => ?_
  · rcases mem_cons.mp member with rfl | member
    · exact ⟨_, rfl⟩
    · rw [mem_singleton.mp member]
      exact ⟨_, rfl⟩
  · rcases mem_cons.mp member with rfl | member
    · exact .inl rfl
    · rw [mem_singleton.mp member]
      exact .inl rfl

/-- In a sequence a hexadecimal number is read as zero and an unknown boolean is not set. -/
theorem hexadecimal_and_unknown_boolean :
    stringToAny wholeNumbers (.integer .ulong) "0x10".toList = .ok (.exact (.integer .ulong ⟨16, by decide⟩)) ∧
    stringsToAny wholeNumbers (.integer .ulong) ["0x10".toList] =
      .ok [some (.exact (.integer .ulong ⟨0, by decide⟩))] ∧
    stringToAny wholeNumbers .boolean "yes".toList = .ok (.exact (.boolean false)) ∧
    stringsToAny wholeNumbers .boolean ["yes".toList] = .ok [none] :=
  ⟨rfl, rfl, rfl, rfl⟩

end Redhawk.Properties
