import Redhawk.Capacity.AllocationCallbacks
import Redhawk.Capacity.NumericProperty

/-!
One amount allocated or given back: when the capacity that is left is exact and within its bounds, in
the legacy calls and in the default allocation of a numeric property.
-/

namespace Redhawk.Capacity

open Redhawk.Library List

def valueOf (device : Device) (id : String) : Option Any :=
  (getPropertyFromId device.propTable id).map Property.value

/-- A property that the legacy calls calculate with, between zero and the capacity it had at first. -/
structure Offers (device : Device) (id : String) (property : Property) (original : Any) : Prop where
  found : getPropertyFromId device.propTable id = some property
  saved : (device.originalCap.filter fun saved => saved.id == id) = [⟨id, original⟩]
  counts : property.value.type.counts
  type : original.type = property.value.type
  lower : 0 ≤ property.value.value
  upper : property.value.value ≤ original.value

/-- The call fails and leaves the capacity alone, or it changes it by exactly the amount, within its
bounds. -/
def StaysBounded (current original : Any) (change : Int) (succeeded : Prop) (after : Option Any) : Prop :=
  (¬succeeded ∧ after = some current) ∨
    (succeeded ∧ ∃ left, after = some left ∧ left.value = current.value + change ∧
      0 ≤ left.value ∧ left.value ≤ original.value)

def AllocatesBounded (current original amount : Any) (id : String) (result : Reply × Device) : Prop :=
  StaysBounded current original (-amount.value) (result.1 = .returned true) (valueOf result.2 id) ∧
    ∀ left, valueOf result.2 id = some left → left.value ≤ current.value

def DeallocatesBounded (current original amount : Any) (id : String) (result : Reply × Device) : Prop :=
  StaysBounded current original amount.value (result.1 = .done) (valueOf result.2 id)

def Allocating (device : Device) (property : Property) (capacities : Properties) : Prop :=
  device.Admits capacities ∧ device.propertySetAccess = false ∧ property.isQueryable = true

def Deallocating (device : Device) (capacities : Properties) : Prop :=
  ¬Refused device capacities ∧ device.propertySetAccess = false

section Table

variable {device : Device} {id : String} {property : Property}

theorem valueOf_setValue (found : getPropertyFromId device.propTable id = some property) {value : Any}
    {after : Device} (table : after.propTable = device.propTable.setValue id value) :
    valueOf after id = some value := by
  have named := (getPropertyFromId_some.mp found).2
  simp [valueOf, table, getPropertyFromId_setValue, found, assign, named]

theorem query_find (found : getPropertyFromId device.propTable id = some property) :
    ((query device.propTable).find? fun current => current.id == id) =
      if property.isQueryable then some ⟨id, property.value⟩ else none := by
  obtain ⟨member, named⟩ := getPropertyFromId_some.mp found
  split
  · rename_i queryable
    have unique : ((query device.propTable).map DataType.id).Nodup := by
      have same : (query device.propTable).map DataType.id =
          (device.propTable.entries.filter Property.isQueryable).map Property.id := by
        rw [query, map_map]
        rfl
      rw [same]
      exact (filter_sublist.map _).nodup device.propTable.unique
    refine (find?_key unique).mpr ⟨mem_map.mpr ⟨property, ?_, ?_⟩, rfl⟩
    · exact mem_filter.mpr ⟨member, queryable⟩
    · rw [named]
  · rename_i hidden
    rw [find?_eq_none]
    intro current inside same
    obtain ⟨other, listed, rfl⟩ := mem_map.mp inside
    obtain ⟨entry, queryable⟩ := mem_filter.mp listed
    have equal := getPropertyFromId_some.mpr ⟨entry, beq_iff_eq.mp same⟩
    obtain rfl := Option.some.inj (equal.symm.trans found)
    exact hidden queryable

end Table

section Legacy

variable {device : Device} {id : String} {property : Property} {original amount : Any}

theorem allocateCapacity_unreached (found : getPropertyFromId device.propTable id = some property)
    (unreached : ¬Allocating device property [⟨id, amount⟩]) :
    (allocateCapacity device [⟨id, amount⟩] accepting).1 ≠ .returned true ∧
      (allocateCapacity device [⟨id, amount⟩] accepting).2 = device := by
  rw [allocateCapacity]
  split
  · exact ⟨by rintro ⟨⟩, rfl⟩
  rename_i notBusy
  rw [if_neg (cons_ne_nil _ _)]
  split
  · exact ⟨by rintro ⟨⟩, rfl⟩
  rename_i state
  rw [allocateCapacityLegacy]
  split
  · exact ⟨by rintro ⟨⟩, rfl⟩
  rename_i free
  split
  · exact ⟨by rintro ⟨⟩, rfl⟩
  rename_i valid
  simp only [Bool.not_eq_true] at notBusy free
  simp only [Bool.or_eq_true, Bool.not_eq_true', not_or, Bool.not_eq_false, Bool.not_eq_true] at state
  have hidden : property.isQueryable = false := by
    rw [← Bool.not_eq_true]
    exact fun queryable => unreached
      ⟨⟨notBusy, cons_ne_nil _ _, state.1, state.2, valid⟩, free, queryable⟩
  rw [reserve, query_find found, hidden]
  exact ⟨by rintro ⟨⟩, rfl⟩

theorem allocateCapacity_reached (offers : Offers device id property original)
    (type : amount.type = property.value.type)
    (reached : Allocating device property [⟨id, amount⟩]) :
    if amount.value ≤ property.value.value then
      (allocateCapacity device [⟨id, amount⟩] accepting).1 = .returned true ∧
        valueOf (allocateCapacity device [⟨id, amount⟩] accepting).2 id =
          some (Any.store property.value.type (property.value.value - amount.value))
    else allocateCapacity device [⟨id, amount⟩] accepting = (.returned false, device) := by
  obtain ⟨⟨notBusy, some, unlocked, enabled, valid⟩, free, queryable⟩ := reached
  have validType : isValidType property.value amount = true := by
    rw [isValidType, type, decide_eq_true_iff]
  have allocated : allocate property.value amount =
      if amount.value ≤ property.value.value
      then Option.some (Any.store property.value.type (property.value.value - amount.value))
      else none := by
    have counts := offers.counts
    unfold allocate
    cases code : property.value.type with
    | other kind =>
        rw [code] at counts
        exact counts.elim
    | tk_ulong => rfl
    | tk_long => rfl
    | tk_short => rfl
  rw [allocateCapacity, notBusy, if_neg some, unlocked, enabled, allocateCapacityLegacy, free, valid,
    notBusy, reserve, query_find offers.found, queryable]
  simp only [Bool.false_eq_true, if_false, if_true, Bool.not_true, Bool.or_self, validType, allocated]
  split
  · simp only [reserve, applyAllocations, accepting, store, if_true, ne_eq, not_true, if_false]
    exact ⟨trivial, valueOf_setValue offers.found rfl⟩
  · rfl

theorem allocatesBounded_iff (offers : Offers device id property original)
    (type : amount.type = property.value.type) :
    AllocatesBounded property.value original amount id (allocateCapacity device [⟨id, amount⟩] accepting) ↔
      (Allocating device property [⟨id, amount⟩] → 0 ≤ amount.value) := by
  have current : valueOf device id = some property.value := by rw [valueOf, offers.found]; rfl
  have unchanged (result : Reply × Device) (failed : result.1 ≠ .returned true)
      (same : result.2 = device) : AllocatesBounded property.value original amount id result := by
    rw [AllocatesBounded, same, current]
    refine ⟨.inl ⟨failed, rfl⟩, fun left equal => ?_⟩
    rw [← Option.some.inj equal]
  by_cases reached : Allocating device property [⟨id, amount⟩]
  · have outcome := allocateCapacity_reached offers type reached
    simp only [reached, forall_const]
    split at outcome
    · obtain ⟨granted, left⟩ := outcome
      rw [AllocatesBounded, StaysBounded, left, granted]
      constructor
      · rintro ⟨⟨failed, -⟩ | ⟨-, value, same, taken, -, -⟩, less⟩
        · exact absurd rfl failed
        · have bound := less value same
          omega
      · intro positive
        have taken : (Any.store property.value.type (property.value.value - amount.value)).value =
            property.value.value - amount.value :=
          property.value.type.narrow_between (TypeCode.narrow_zero _) property.value.stored
            (by omega) (by omega)
        have upper := offers.upper
        refine ⟨.inr ⟨rfl, _, rfl, ?_, ?_, ?_⟩, fun value same => ?_⟩
        · rw [taken]
          rfl
        · omega
        · omega
        · rw [← Option.some.inj same]
          omega
    · rw [outcome]
      have lower := offers.lower
      exact iff_of_true (unchanged _ nofun rfl) (by omega)
  · obtain ⟨failed, same⟩ := allocateCapacity_unreached offers.found reached
    exact iff_of_true (unchanged _ failed same) fun reaches => absurd reaches reached

theorem deallocateCapacity_unreached (unreached : ¬Deallocating device [⟨id, amount⟩]) :
    (deallocateCapacity device [⟨id, amount⟩] accepting).1 ≠ .done ∧
      (deallocateCapacity device [⟨id, amount⟩] accepting).2 = device := by
  cases free : device.propertySetAccess with
  | false =>
      have refused : Refused device [⟨id, amount⟩] := by
        by_contra accepted
        exact unreached ⟨accepted, free⟩
      obtain ⟨exception, same⟩ := deallocateCapacity_refused refused free accepting
      rw [same]
      exact ⟨nofun, rfl⟩
  | true =>
      rw [deallocateCapacity]
      split
      · exact ⟨nofun, rfl⟩
      split
      · exact ⟨nofun, rfl⟩
      rw [deallocateCapacityLegacy, free]
      exact ⟨nofun, rfl⟩

theorem deallocateCapacity_reached (offers : Offers device id property original)
    (type : amount.type = property.value.type) (reached : Deallocating device [⟨id, amount⟩]) :
    if original.value < (Any.store property.value.type (property.value.value + amount.value)).value then
      (deallocateCapacity device [⟨id, amount⟩] accepting).1 ≠ .done ∧
        valueOf (deallocateCapacity device [⟨id, amount⟩] accepting).2 id = some property.value
    else (deallocateCapacity device [⟨id, amount⟩] accepting).1 = .done ∧
      valueOf (deallocateCapacity device [⟨id, amount⟩] accepting).2 id =
        some (Any.store property.value.type (property.value.value + amount.value)) := by
  obtain ⟨accepted, free⟩ := reached
  simp only [Refused, not_or, ne_eq, not_not, Bool.not_eq_true] at accepted
  obtain ⟨unlocked, enabled, busy, valid⟩ := accepted
  have validType : isValidType property.value amount = true := by
    rw [isValidType, type, decide_eq_true_iff]
  -- of the saved capacities only the property's own is compared
  have exceeded (value : Any) : (device.originalCap.filter fun saved =>
      saved.id == id && compareAnys value saved.value == .FIRST_BIGGER) =
        [(⟨id, original⟩ : DataType)].filter fun saved =>
          compareAnys value saved.value == .FIRST_BIGGER := by
    rw [← offers.saved, filter_filter]
    exact filter_congr fun _ _ => Bool.and_comm _ _
  rw [deallocateCapacity, unlocked, enabled, deallocateCapacityLegacy, free, valid, busy, release, offers.found]
  simp only [Bool.false_eq_true, if_false, validType, Bool.not_true, exceeded, deallocate_counts offers.counts]
  split
  · rename_i more
    have bigger : compareAnys (Any.store property.value.type (property.value.value + amount.value))
        original = .FIRST_BIGGER := compareAnys_first_bigger.mpr ⟨offers.counts, more⟩
    simp only [bigger, beq_self_eq_true, filter_cons_of_pos, filter_nil, ne_eq,
      cons_ne_nil, not_false_eq_true, if_true, release, not_true, if_false]
    refine ⟨by simp, ?_⟩
    simp [valueOf, offers.found]
  · rename_i within
    have smaller : (compareAnys (Any.store property.value.type (property.value.value + amount.value))
        original == .FIRST_BIGGER) = false := by
      rw [beq_eq_false_iff_ne]
      exact fun bigger => within (compareAnys_first_bigger.mp bigger).2
    simp only [smaller, filter_cons, filter_nil, Bool.false_eq_true, if_false, ne_eq,
      not_true, release, accepting, if_true, store]
    exact ⟨trivial, valueOf_setValue offers.found rfl⟩

theorem TypeCode.narrow_add_le {type : TypeCode} (counts : type.counts) {current amount original : Int}
    (currentStored : type.narrow current = current) (amountStored : type.narrow amount = amount)
    (lower : 0 ≤ current) (upper : current ≤ original)
    (wraps : type.narrow (current + amount) ≠ current + amount) :
    type.narrow (current + amount) ≤ original := by
  cases type with
  | other kind => exact counts.elim
  | tk_ulong =>
      simp only [TypeCode.narrow] at *
      omega
  | tk_long =>
      simp only [TypeCode.narrow, Int.bmod] at *
      omega
  | tk_short =>
      simp only [TypeCode.narrow, Int.bmod] at *
      omega

theorem deallocatesBounded_iff (offers : Offers device id property original)
    (type : amount.type = property.value.type) :
    DeallocatesBounded property.value original amount id
        (deallocateCapacity device [⟨id, amount⟩] accepting) ↔
      (Deallocating device [⟨id, amount⟩] → 0 ≤ property.value.value + amount.value ∧
        property.value.type.narrow (property.value.value + amount.value) =
          property.value.value + amount.value) := by
  by_cases reached : Deallocating device [⟨id, amount⟩]
  · have outcome := deallocateCapacity_reached offers type reached
    have stored : (Any.store property.value.type (property.value.value + amount.value)).value =
        property.value.type.narrow (property.value.value + amount.value) := rfl
    have amountStored : property.value.type.narrow amount.value = amount.value := by
      rw [← type]
      exact amount.stored
    have caught := TypeCode.narrow_add_le offers.counts property.value.stored amountStored
      offers.lower offers.upper
    have lower := offers.lower
    have upper := offers.upper
    simp only [reached, forall_const]
    rw [DeallocatesBounded, StaysBounded]
    split at outcome
    · rename_i more
      obtain ⟨failed, same⟩ := outcome
      refine iff_of_true (.inl ⟨failed, same⟩) ?_
      by_cases fits : property.value.type.narrow (property.value.value + amount.value) =
          property.value.value + amount.value
      · exact ⟨by omega, fits⟩
      · exact absurd (caught fits) (by omega)
    · rename_i within
      obtain ⟨done, left⟩ := outcome
      rw [left, done]
      constructor
      · rintro (⟨failed, -⟩ | ⟨-, value, same, taken, positive, -⟩)
        · exact absurd rfl failed
        · obtain rfl := Option.some.inj same
          exact ⟨by omega, taken⟩
      · rintro ⟨positive, fits⟩
        refine .inr ⟨rfl, _, rfl, ?_, ?_, ?_⟩ <;> rw [stored]
        · exact fits
        · omega
        · omega
  · obtain ⟨failed, same⟩ := deallocateCapacity_unreached reached
    refine iff_of_true (.inl ⟨failed, ?_⟩) fun reaches => absurd reaches reached
    rw [same, valueOf, offers.found]
    rfl

end Legacy

/-- An allocation keeps a capacity within its bounds unless the amount is negative, a deallocation
unless the sum is negative or does not fit its type; the default allocation of a numeric property is
exact unless it is asked for a negative amount that the value reaches. -/
theorem capacity_bounded_iff (device : Device) (id : String) (property : Property)
    (original amount : Any) {type : NumericType}
    (stringToNumber : (type : NumericType) → String → Option (Number type))
    (self : NumericPropertyWrapper type) (any : NumberAny) :
    (Offers device id property original → amount.type = property.value.type →
      (AllocatesBounded property.value original amount id (allocateCapacity device [⟨id, amount⟩] accepting) ↔
        (Allocating device property [⟨id, amount⟩] → 0 ≤ amount.value)) ∧
      (DeallocatesBounded property.value original amount id (deallocateCapacity device [⟨id, amount⟩] accepting) ↔
        (Deallocating device [⟨id, amount⟩] → 0 ≤ property.value.value + amount.value ∧
          property.value.type.narrow (property.value.value + amount.value) =
            property.value.value + amount.value))) ∧
    (self.AllocatesExactly stringToNumber any ↔
      ∀ capacity, toNumber stringToNumber type any = some capacity →
        capacity.value ≤ self.value.value → 0 ≤ capacity.value) :=
  ⟨fun offers type => ⟨allocatesBounded_iff offers type, deallocatesBounded_iff offers type⟩,
    NumericPropertyWrapper.allocatesExactly_iff stringToNumber self any⟩

theorem capacity_bounded_memory :
    AllocatesBounded (ten "memory").value (Any.store .tk_ulong 10) (Any.store .tk_ulong 3) "memory"
      (allocateCapacity (Device.start tens .UNLOCKED .ENABLED) [⟨"memory", Any.store .tk_ulong 3⟩] accepting) :=
  have offers : Offers (Device.start tens .UNLOCKED .ENABLED) "memory" (ten "memory")
      (Any.store .tk_ulong 10) :=
    ⟨by decide, by decide, trivial, rfl, by decide, by decide⟩
  have type : (Any.store .tk_ulong 3).type = (ten "memory").value.type := rfl
  ((capacity_bounded_iff (Device.start tens .UNLOCKED .ENABLED) "memory" (ten "memory")
    (Any.store .tk_ulong 10) (Any.store .tk_ulong 3) (fun _ _ => none)
    ⟨Number.store .long 10⟩ .other).1 offers type).1.mpr fun _ => by decide

def longs : PropertyMap :=
  ⟨[⟨"load", "readwrite", ["configure", "allocation"], "external", Any.store .tk_long 10⟩], by decide⟩

/-- Minus three of ten are allocated, and thirteen are left. -/
theorem negative_amount_adds :
    ¬AllocatesBounded (Any.store .tk_long 10) (Any.store .tk_long 10) (Any.store .tk_long (-3)) "load"
      (allocateCapacity (Device.start longs .UNLOCKED .ENABLED)
        [⟨"load", Any.store .tk_long (-3)⟩] accepting) := by
  rintro ⟨-, less⟩
  exact absurd (less (Any.store .tk_long 13) (by decide)) (by decide)

end Redhawk.Capacity
