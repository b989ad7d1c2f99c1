import Mathlib.Algebra.Ring.Int.Defs
import Mathlib.Algebra.Ring.Nat
import Mathlib.Tactic.Common

/-!
The values a capacity can have, and the arithmetic `Device_impl` does on them.
-/

namespace Redhawk.Capacity

/-- The type codes `Device_impl` tells apart; every other one falls into its `default`. -/
inductive TypeCode
  | tk_ulong
  | tk_long
  | tk_short
  | other (kind : Nat)
deriving DecidableEq

def TypeCode.narrow : TypeCode → Int → Int
  | .tk_ulong, value => value % 2 ^ 32
  | .tk_long, value => value.bmod (2 ^ 32)
  | .tk_short, value => value.bmod (2 ^ 16)
  | .other _, value => value

theorem TypeCode.narrow_narrow (type : TypeCode) (value : Int) :
    type.narrow (type.narrow value) = type.narrow value := by
  cases type with
  | tk_ulong => simp [narrow]
  | tk_long => simp [narrow]
  | tk_short => simp [narrow]
  | other kind => rfl

@[simp] theorem TypeCode.narrow_zero (type : TypeCode) : type.narrow 0 = 0 := by
  cases type with
  | tk_ulong => rfl
  | tk_long => rfl
  | tk_short => rfl
  | other kind => rfl

theorem TypeCode.narrow_between {type : TypeCode} {low value high : Int}
    (lowStored : type.narrow low = low) (highStored : type.narrow high = high)
    (lower : low ≤ value) (upper : value ≤ high) : type.narrow value = value := by
  cases type with
  | tk_ulong =>
      simp only [narrow] at *
      omega
  | tk_long =>
      simp only [narrow, Int.bmod] at *
      omega
  | tk_short =>
      simp only [narrow, Int.bmod] at *
      omega
  | other kind => rfl

structure Any where
  type : TypeCode
  value : Int
  stored : type.narrow value = value
deriving DecidableEq

def Any.store (type : TypeCode) (value : Int) : Any :=
  ⟨type, type.narrow value, type.narrow_narrow value⟩

@[simp] theorem Any.store_type (type : TypeCode) (value : Int) :
    (Any.store type value).type = type := rfl

theorem Any.store_value {type : TypeCode} {value : Int} (fits : type.narrow value = value) :
    (Any.store type value).value = value := fits

theorem Any.ext {left right : Any} (types : left.type = right.type)
    (values : left.value = right.value) : left = right := by
  cases left
  cases right
  subst types values
  rfl

@[simp] theorem Any.store_self (any : Any) : Any.store any.type any.value = any :=
  Any.ext rfl any.stored

def isValidType (lhs rhs : Any) : Bool :=
  lhs.type = rhs.type

/-- `Device_impl::allocate`; `none` is its `false`. -/
def allocate (deviceCapacity resourceRequest : Any) : Option Any :=
  match deviceCapacity.type with
  | .tk_ulong | .tk_long | .tk_short =>
    if resourceRequest.value ≤ deviceCapacity.value then
      some (Any.store deviceCapacity.type (deviceCapacity.value - resourceRequest.value))
    else none
  | .other _ => none

def deallocate (deviceCapacity resourceRequest : Any) : Any :=
  match deviceCapacity.type with
  | .tk_ulong | .tk_long | .tk_short =>
    Any.store deviceCapacity.type (deviceCapacity.value + resourceRequest.value)
  | .other _ => deviceCapacity

inductive AnyComparisonType
  | FIRST_BIGGER
  | SECOND_BIGGER
  | BOTH_EQUAL
  | POSITIVE
  | NEGATIVE
  | ZERO
  | UNKNOWN
deriving DecidableEq

def compareAnys (first second : Any) : AnyComparisonType :=
  match first.type with
  | .tk_ulong | .tk_long | .tk_short =>
    if second.value < first.value then .FIRST_BIGGER
    else if first.value = second.value then .BOTH_EQUAL
    else .SECOND_BIGGER
  | .other _ => .UNKNOWN

def compareAnyToZero (first : Any) : AnyComparisonType :=
  match first.type with
  | .tk_ulong | .tk_long | .tk_short =>
    if 0 < first.value then .POSITIVE
    else if first.value = 0 then .ZERO
    else .NEGATIVE
  | .other _ => .UNKNOWN

def TypeCode.counts : TypeCode → Prop
  | .tk_ulong | .tk_long | .tk_short => True
  | .other _ => False

theorem allocate_some {deviceCapacity resourceRequest left : Any}
    (granted : allocate deviceCapacity resourceRequest = some left) :
    deviceCapacity.type.counts ∧ resourceRequest.value ≤ deviceCapacity.value ∧
      left = Any.store deviceCapacity.type (deviceCapacity.value - resourceRequest.value) := by
  unfold allocate at granted
  split at granted <;> rename_i kind <;> simp_all [TypeCode.counts]

theorem deallocate_counts {deviceCapacity : Any} (counts : deviceCapacity.type.counts)
    (resourceRequest : Any) : deallocate deviceCapacity resourceRequest =
      Any.store deviceCapacity.type (deviceCapacity.value + resourceRequest.value) := by
  unfold deallocate
  split <;> rename_i kind <;> simp_all [TypeCode.counts]

theorem deallocate_not_counts {deviceCapacity : Any} (opaqueType : ¬ deviceCapacity.type.counts)
    (resourceRequest : Any) : deallocate deviceCapacity resourceRequest = deviceCapacity := by
  unfold deallocate
  split <;> rename_i kind <;> simp_all [TypeCode.counts]

@[simp] theorem deallocate_type (deviceCapacity resourceRequest : Any) :
    (deallocate deviceCapacity resourceRequest).type = deviceCapacity.type := by
  unfold deallocate
  split <;> simp

theorem compareAnys_first_bigger {first second : Any} :
    compareAnys first second = .FIRST_BIGGER ↔ first.type.counts ∧ second.value < first.value := by
  unfold compareAnys
  split <;> rename_i kind <;> simp only [kind, TypeCode.counts, true_and, false_and] <;> grind

theorem compareAnys_second_bigger {first second : Any} :
    compareAnys first second = .SECOND_BIGGER ↔ first.type.counts ∧ first.value < second.value := by
  unfold compareAnys
  split <;> rename_i kind <;> simp only [kind, TypeCode.counts, true_and, false_and] <;> grind

end Redhawk.Capacity
