import Mathlib.Algebra.Order.Field.Rat
import Mathlib.Data.Rat.Lemmas

/-!
The capacity calls of a numeric property without callbacks: `NumericPropertyWrapper`, for each of the
types that it is made for.
-/

namespace Redhawk.Capacity

/-- The types `PropertyWrapperFactory` makes numeric properties of. -/
inductive NumericType
  | octet
  | short
  | ushort
  | long
  | ulong
  | longlong
  | ulonglong
  | float
  | double
deriving DecidableEq

def NumericType.integer : NumericType → Option (Bool × Nat)
  | .octet => some (false, 8)
  | .short => some (true, 16)
  | .ushort => some (false, 16)
  | .long => some (true, 32)
  | .ulong => some (false, 32)
  | .longlong => some (true, 64)
  | .ulonglong => some (false, 64)
  | .float | .double => none

def wrap : Bool → Nat → Int → Int
  | true, bits, value => value.bmod (2 ^ bits)
  | false, bits, value => value % (2 ^ bits : Nat)

def truncate (value : ℚ) : Int := value.num.tdiv value.den

def NumericType.narrow (type : NumericType) (value : ℚ) : ℚ :=
  match type.integer with
  | some (signed, bits) => wrap signed bits (truncate value)
  | none => value

theorem wrap_wrap (signed : Bool) (bits : Nat) (value : Int) :
    wrap signed bits (wrap signed bits value) = wrap signed bits value := by
  cases signed with
  | true => exact Int.bmod_bmod
  | false => exact Int.emod_emod_of_dvd _ (Int.dvd_refl _)

@[simp] theorem truncate_intCast (value : Int) : truncate value = value := by
  simp [truncate]

theorem NumericType.narrow_narrow (type : NumericType) (value : ℚ) :
    type.narrow (type.narrow value) = type.narrow value := by
  unfold NumericType.narrow
  split
  · rw [truncate_intCast, wrap_wrap]
  · rfl

structure Number (type : NumericType) where
  value : ℚ
  stored : type.narrow value = value
deriving DecidableEq

def Number.store (type : NumericType) (value : ℚ) : Number type :=
  ⟨type.narrow value, type.narrow_narrow value⟩

inductive NumberAny
  | number (value : ℚ)
  | string (text : String)
  | other
deriving DecidableEq

/-- `anyToNumber`: numbers are truncated, and refused out of the type's range. `stringToNumber` is what
the conversion of a string yields. -/
def toNumber (stringToNumber : (type : NumericType) → String → Option (Number type))
    (type : NumericType) : NumberAny → Option (Number type)
  | .number value =>
      let converted : ℚ := if type.integer.isSome then truncate value else value
      if stored : type.narrow converted = converted then some ⟨converted, stored⟩ else none
  | .string text => stringToNumber type text
  | .other => none

structure NumericPropertyWrapper (type : NumericType) where
  value : Number type
deriving DecidableEq

namespace NumericPropertyWrapper

variable {type : NumericType}

def allocate (self : NumericPropertyWrapper type) (capacity : Number type) :
    Bool × NumericPropertyWrapper type :=
  if self.value.value < capacity.value then (false, self)
  else (true, ⟨Number.store type (self.value.value - capacity.value)⟩)

def deallocate (self : NumericPropertyWrapper type) (capacity : Number type) :
    NumericPropertyWrapper type :=
  ⟨Number.store type (self.value.value + capacity.value)⟩

variable (stringToNumber : (type : NumericType) → String → Option (Number type))

/-- `PropertyWrapper::allocate`; a value that cannot be extracted is declined. -/
def allocateAny (self : NumericPropertyWrapper type) (any : NumberAny) :
    Bool × NumericPropertyWrapper type :=
  match toNumber stringToNumber type any with
  | none => (false, self)
  | some capacity => self.allocate capacity

def deallocateAny (self : NumericPropertyWrapper type) (any : NumberAny) : NumericPropertyWrapper type :=
  match toNumber stringToNumber type any with
  | none => self
  | some capacity => self.deallocate capacity

/-- An allocation that succeeds takes the amount, neither wrapping nor adding to the value, and giving
back the same amount restores the value. -/
def AllocatesExactly (self : NumericPropertyWrapper type) (any : NumberAny) : Prop :=
  (self.allocateAny stringToNumber any).1 = true →
    (∀ capacity, toNumber stringToNumber type any = some capacity →
      (self.allocateAny stringToNumber any).2.value.value = self.value.value - capacity.value) ∧
    (self.allocateAny stringToNumber any).2.value.value ≤ self.value.value ∧
    (self.allocateAny stringToNumber any).2.deallocateAny stringToNumber any = self

end NumericPropertyWrapper

section Arithmetic

variable {type : NumericType}

theorem NumericType.narrow_intCast {signed : Bool} {bits : Nat}
    (integer : type.integer = some (signed, bits)) (value : Int) :
    type.narrow value = wrap signed bits value := by
  unfold NumericType.narrow
  rw [integer]
  simp only [truncate_intCast]

theorem NumericType.narrow_real (real : type.integer = none) (value : ℚ) : type.narrow value = value := by
  unfold NumericType.narrow
  rw [real]

theorem Number.ext {left right : Number type} (values : left.value = right.value) : left = right := by
  cases left
  cases right
  subst values
  rfl

theorem Number.eq_intCast {signed : Bool} {bits : Nat} (integer : type.integer = some (signed, bits))
    (number : Number type) : ∃ value : Int, number.value = value ∧ wrap signed bits value = value := by
  have stored := number.stored
  unfold NumericType.narrow at stored
  rw [integer] at stored
  exact ⟨_, stored.symm, wrap_wrap ..⟩

theorem wrap_sub_of_le {signed : Bool} {bits : Nat} {value amount : Int}
    (stored : wrap signed bits value = value) (lower : 0 ≤ amount) (upper : amount ≤ value) :
    wrap signed bits (value - amount) = value - amount := by
  have width : 0 < 2 ^ bits := Nat.two_pow_pos bits
  cases signed with
  | true =>
      have high : value < ((2 ^ bits : Nat) + 1) / 2 := by
        have bound := Int.bmod_lt (x := value) width
        rwa [show value.bmod (2 ^ bits) = value from stored] at bound
      refine Int.bmod_eq_of_le ?_ ?_ <;> omega
  | false =>
      have high : value < (2 ^ bits : Nat) := by
        have bound := Int.emod_lt_of_pos value (b := (2 ^ bits : Nat)) (by omega)
        rwa [show value % (2 ^ bits : Nat) = value from stored] at bound
      refine Int.emod_eq_of_lt ?_ ?_ <;> omega

theorem wrap_add_wrap (signed : Bool) (bits : Nat) (value amount : Int) :
    wrap signed bits (wrap signed bits value + amount) = wrap signed bits (value + amount) := by
  cases signed with
  | true => exact Int.bmod_add_bmod
  | false => exact Int.emod_add_emod value _ amount

theorem NumericType.narrow_sub_of_le {value amount : Number type} (lower : 0 ≤ amount.value)
    (upper : amount.value ≤ value.value) :
    type.narrow (value.value - amount.value) = value.value - amount.value := by
  cases integer : type.integer with
  | none => exact NumericType.narrow_real integer _
  | some width =>
      obtain ⟨number, same, stored⟩ := value.eq_intCast integer
      obtain ⟨taken, same', -⟩ := amount.eq_intCast integer
      rw [same, same'] at upper ⊢
      rw [same'] at lower
      have wrapped := wrap_sub_of_le stored (by exact_mod_cast lower) (by exact_mod_cast upper)
      rw [← Int.cast_sub, NumericType.narrow_intCast integer, wrapped]

theorem Number.store_sub_add (value amount : Number type) :
    Number.store type ((Number.store type (value.value - amount.value)).value + amount.value) = value := by
  refine Number.ext ?_
  show type.narrow (type.narrow (value.value - amount.value) + amount.value) = value.value
  cases integer : type.integer with
  | none =>
      rw [NumericType.narrow_real integer, NumericType.narrow_real integer, sub_add_cancel]
  | some width =>
      obtain ⟨number, same, stored⟩ := value.eq_intCast integer
      obtain ⟨taken, same', -⟩ := amount.eq_intCast integer
      rw [same, same', ← Int.cast_sub, NumericType.narrow_intCast integer, ← Int.cast_add,
        NumericType.narrow_intCast integer, wrap_add_wrap, Int.sub_add_cancel, stored]

end Arithmetic

namespace NumericPropertyWrapper

variable {type : NumericType}

theorem allocatesExactly_iff (stringToNumber : (type : NumericType) → String → Option (Number type))
    (self : NumericPropertyWrapper type) (any : NumberAny) :
    self.AllocatesExactly stringToNumber any ↔
      ∀ capacity, toNumber stringToNumber type any = some capacity →
        capacity.value ≤ self.value.value → 0 ≤ capacity.value := by
  rw [AllocatesExactly, allocateAny]
  cases extracted : toNumber stringToNumber type any with
  | none => exact iff_of_true nofun nofun
  | some capacity =>
      simp only [Option.some.injEq, forall_eq', allocate]
      by_cases exceeds : self.value.value < capacity.value
      · rw [if_pos exceeds]
        exact iff_of_true nofun fun within => absurd exceeds (not_lt.mpr within)
      rw [if_neg exceeds]
      have within : capacity.value ≤ self.value.value := not_lt.mp exceeds
      simp only [forall_const, within]
      constructor
      · rintro ⟨taken, less, -⟩
        rw [taken] at less
        exact (sub_le_self_iff _).mp less
      · intro positive
        have taken := NumericType.narrow_sub_of_le positive within
        have back : deallocateAny stringToNumber
            ⟨Number.store type (self.value.value - capacity.value)⟩ any = self := by
          rw [deallocateAny, extracted]
          exact congrArg NumericPropertyWrapper.mk (Number.store_sub_add self.value capacity)
        refine ⟨taken, ?_, back⟩
        show type.narrow _ ≤ _
        rw [taken]
        exact sub_le_self _ positive

end NumericPropertyWrapper

end Redhawk.Capacity
