import Redhawk.Capacity.LegacyCapacity
import Redhawk.Library.Lists
import Redhawk.Library.Runs
import Mathlib.Algebra.BigOperators.Group.List.Basic

/-!
The capacity of a device against a ledger of what its callers hold, over every run of legacy
calls.
-/

namespace Redhawk.Capacity

open Redhawk.Library List Option

def requested (capacities : Properties) (id : String) : Int :=
  ((capacities.filter fun capacity => capacity.id = id).map fun capacity =>
    capacity.value.value).sum

/-- A device, and what was allocated and not deallocated again on each of its properties. -/
structure Ledger where
  device : Device
  outstanding : String → Int

inductive Call
  | allocateCapacity (capacities : Properties) (outcome : Nat → SetOutcome)
  | deallocateCapacity (capacities : Properties) (outcome : Nat → SetOutcome)

def serve : Call → Ledger → Ledger
  | .allocateCapacity capacities outcome, ledger =>
    let result := allocateCapacity ledger.device capacities outcome
    { device := result.2
      outstanding := if result.1 = .returned true then
        fun id => ledger.outstanding id + requested capacities id else ledger.outstanding }
  | .deallocateCapacity capacities outcome, ledger =>
    let result := deallocateCapacity ledger.device capacities outcome
    { device := result.2
      outstanding := if result.1 = .done then
        fun id => ledger.outstanding id - requested capacities id else ledger.outstanding }

def opened (propTable : PropertyMap) (adminState : AdminType) (operationalState : OperationalType) : Ledger :=
  ⟨Device.start propTable adminState operationalState, fun _ => 0⟩

/-- The capacities are part of what is outstanding, and are not all empty. -/
structure Held (ledger : Ledger) (capacities : Properties) : Prop where
  allocatable : ∀ capacity ∈ capacities, ∃ property,
    getPropertyFromId ledger.device.propTable capacity.id = some property ∧
      property.isAllocatable ∧ isValidType property.value capacity.value
  positive : ∀ capacity ∈ capacities, 0 ≤ capacity.value.value
  within : ∀ id, requested capacities id ≤ ledger.outstanding id
  some_positive : ∃ capacity ∈ capacities, 0 < capacity.value.value

/-- Capacity and usage state agree with the ledger, and what is outstanding can be deallocated. -/
structure Consistent (ledger : Ledger) : Prop where
  capacity : ∀ property ∈ ledger.device.propTable.entries, property.isAllocatable →
    ∃ original ∈ ledger.device.originalCap, original.id = property.id ∧
      property.value.value = original.value.value - ledger.outstanding property.id
  usage : ledger.device.usageState = .IDLE ↔ ∀ id, ledger.outstanding id = 0
  releasable : ∀ capacities, Held ledger capacities → ∀ outcome, (∀ n, outcome n = .completes) →
    (deallocateCapacity ledger.device capacities outcome).1 = .done

def inUse (device : Device) (id : String) : Int :=
  match getPropertyFromId device.propTable id,
    device.originalCap.find? fun original => original.id == id with
  | some property, some original => original.value.value - property.value.value
  | _, _ => 0

def Refused (device : Device) (capacities : Properties) : Prop :=
  device.isLocked ∨ device.isDisabled ∨ device.isIdle ∨ validateCapacities device.propTable capacities ≠ none

def Careful : Call → Ledger → Prop
  | .allocateCapacity capacities outcome, ledger =>
    (∀ n, outcome n = .completes) ∧ (∀ capacity ∈ capacities, 0 ≤ capacity.value.value) ∧
      (ledger.device.isIdle → capacities ≠ [] → ∃ capacity ∈ capacities, 0 < capacity.value.value)
  | .deallocateCapacity capacities outcome, ledger =>
    Refused ledger.device capacities ∨
      (∀ n, outcome n = .completes) ∧ (∀ capacity ∈ capacities, 0 ≤ capacity.value.value) ∧
      (∀ capacity ∈ capacities, ∀ property,
        getPropertyFromId ledger.device.propTable capacity.id = some property →
          isValidType property.value capacity.value) ∧
      (∀ id, requested capacities id ≤ inUse ledger.device id) ∧
      ((∃ capacity ∈ capacities, requested capacities capacity.id < inUse ledger.device capacity.id) ∨
        ∀ id, requested capacities id = inUse ledger.device id)

@[simp] theorem requested_nil (id : String) : requested [] id = 0 := by
  simp [requested]

theorem requested_cons (capacity : DataType) (rest : Properties) (id : String) :
    requested (capacity :: rest) id =
      (if capacity.id = id then capacity.value.value else 0) + requested rest id := by
  by_cases same : capacity.id = id <;> simp [requested, same]

variable {capacities : Properties}

theorem requested_nonneg (positive : ∀ capacity ∈ capacities, 0 ≤ capacity.value.value) (id : String) :
    0 ≤ requested capacities id := by
  induction capacities with
  | nil => simp
  | cons capacity rest ih =>
      have tail := ih fun other member => positive other (mem_cons_of_mem _ member)
      have head := positive capacity mem_cons_self
      rw [requested_cons]
      split <;> omega

theorem le_requested (positive : ∀ capacity ∈ capacities, 0 ≤ capacity.value.value) :
    ∀ capacity ∈ capacities, capacity.value.value ≤ requested capacities capacity.id := by
  induction capacities with
  | nil => simp
  | cons first rest ih =>
      have restPositive : ∀ other ∈ rest, 0 ≤ other.value.value := fun other member =>
        positive other (mem_cons_of_mem _ member)
      intro capacity member
      have head := positive first mem_cons_self
      rw [requested_cons]
      rcases mem_cons.mp member with rfl | later
      · have tail := requested_nonneg restPositive capacity.id
        simp only [if_true]
        omega
      · have tail := ih restPositive capacity later
        split <;> omega

variable {id : String}

theorem requested_unnamed
    (unnamed : ∀ capacity ∈ capacities, capacity.id ≠ id) : requested capacities id = 0 := by
  induction capacities with
  | nil => simp
  | cons capacity rest ih =>
      rw [requested_cons, if_neg (unnamed capacity mem_cons_self),
        ih fun other member => unnamed other (mem_cons_of_mem _ member)]
      rfl

variable {propTable : PropertyMap}

theorem getPropertyFromId_some {property : Property} :
    getPropertyFromId propTable id = some property ↔ property ∈ propTable.entries ∧ property.id = id :=
  find?_key propTable.unique

theorem getPropertyFromId_setValue (propTable : PropertyMap) (id : String) (value : Any)
    (other : String) : getPropertyFromId (propTable.setValue id value) other =
      (getPropertyFromId propTable other).map (assign id value) := by
  simp only [getPropertyFromId, PropertyMap.setValue, find?_map]
  congr 2
  funext property
  simp

structure Moved (before after : PropertyMap) (delta : String → Int) : Prop where
  absent : ∀ id, getPropertyFromId before id = none → getPropertyFromId after id = none
  present : ∀ id property, getPropertyFromId before id = some property →
    ∃ moved, getPropertyFromId after id = some moved ∧
      moved.isAllocatable = property.isAllocatable ∧ moved.value.type = property.value.type ∧
      moved.value.value = property.value.value + delta id

variable {delta : String → Int}

theorem Moved.refl (propTable : PropertyMap) (still : ∀ id, delta id = 0) :
    Moved propTable propTable delta where
  absent _ none := none
  present id property found := ⟨property, found, rfl, rfl, by rw [still id, Int.add_zero]⟩

theorem Moved.trans {first second third : PropertyMap} {further both : String → Int}
    (move : Moved first second delta) (moveOn : Moved second third further)
    (sum : ∀ id, both id = delta id + further id) : Moved first third both where
  absent id none := moveOn.absent id (move.absent id none)
  present id property found := by
    obtain ⟨middle, foundMiddle, allocatable, type, value⟩ := move.present id property found
    obtain ⟨last, foundLast, allocatable', type', value'⟩ :=
      moveOn.present id middle foundMiddle
    exact ⟨last, foundLast, allocatable'.trans allocatable, type'.trans type, by
      rw [value', value, sum id, Int.add_assoc]⟩

theorem Moved.setValue {propTable : PropertyMap} {id : String} {property : Property} {value : Any}
    (found : getPropertyFromId propTable id = some property)
    (type : value.type = property.value.type) :
    Moved propTable (propTable.setValue id value) fun other =>
      if other = id then value.value - property.value.value else 0 where
  absent other none := by rw [getPropertyFromId_setValue, none, map_none]
  present other current foundOther := by
    refine ⟨assign id value current, by rw [getPropertyFromId_setValue, foundOther]; rfl, ?_⟩
    have named := (getPropertyFromId_some.mp foundOther).2
    by_cases same : other = id
    · subst same
      obtain rfl : current = property := some.inj (foundOther.symm.trans found)
      simp [assign, named, type, Property.isAllocatable]
    · have different : current.id ≠ id := fun equal => same (named.symm.trans equal)
      simp [assign, different, same]

theorem validateCapacities_none :
    validateCapacities propTable capacities = none ↔
      ∀ capacity ∈ capacities, ∃ property,
        getPropertyFromId propTable capacity.id = some property ∧ property.isAllocatable := by
  simp only [validateCapacities, ne_eq, filter_eq_nil_iff]
  constructor
  · intro valid capacity member
    split at valid
    · cases valid
    rename_i known
    split at valid
    · cases valid
    rename_i allocatable
    simp only [not_not] at known allocatable
    cases found : getPropertyFromId propTable capacity.id with
    | none => exact absurd (known capacity member) (by simp [found])
    | some property =>
        refine ⟨property, rfl, ?_⟩
        simpa [found] using allocatable capacity member
  · intro each
    have known : ∀ capacity ∈ capacities, ¬ (getPropertyFromId propTable capacity.id).isNone = true := by
      intro capacity member
      obtain ⟨property, found, _⟩ := each capacity member
      simp [found]
    have allocatable : ∀ capacity ∈ capacities,
        ¬ ((getPropertyFromId propTable capacity.id).any fun property =>
          !property.isAllocatable) = true := by
      intro capacity member
      obtain ⟨property, found, allocatable⟩ := each capacity member
      simp [found, allocatable]
    rw [if_neg (not_not.mpr known), if_neg (not_not.mpr allocatable)]

theorem find?_replaceFirst (id : String) (value : Any) (capacities : Properties) (other : String) :
    ((replaceFirst id value capacities).find? fun current => current.id == other) =
      if other = id then
        (capacities.find? fun current => current.id == id).map fun current =>
          { current with value }
      else capacities.find? fun current => current.id == other := by
  induction capacities with
  | nil => simp [replaceFirst]
  | cons first rest ih =>
      rw [replaceFirst]
      by_cases hit : first.id = id
      · by_cases same : other = id
        · simp [hit, same]
        · have miss : ¬ id = other := fun equal => same equal.symm
          simp [hit, same, miss]
      · rw [if_neg hit]
        by_cases same : other = id
        · subst same
          simpa [find?_cons, hit] using ih
        · simp only [same, if_false] at ih ⊢
          simp only [find?_cons, ih]

theorem reserve_cons {rest currentCapacities : Properties} {request : DataType} {list : List Allocation}
    (granted : reserve capacities (request :: rest) currentCapacities = .allocations list) :
    ∃ current left later, (currentCapacities.find? fun current => current.id == request.id) = some current ∧
      allocate current.value request.value = some left ∧
      reserve capacities rest (replaceFirst request.id left currentCapacities) = .allocations later ∧
      list = ⟨request, { current with value := left }⟩ :: later := by
  rw [reserve] at granted
  split at granted
  · cases granted
  rename_i current found
  split at granted
  · cases granted
  split at granted
  · cases granted
  rename_i left allocated
  split at granted
  · rename_i later reserved
    cases granted
    exact ⟨current, left, later, found, allocated, reserved, rfl⟩
  · rename_i failed notAllocations
    exact absurd granted (notAllocations list)

def Agrees (currentCapacities : Properties) (propTable : PropertyMap) : Prop :=
  ∀ id current, (currentCapacities.find? fun current => current.id == id) = some current →
    ∃ property, getPropertyFromId propTable id = some property ∧ property.value = current.value

theorem query_agrees (propTable : PropertyMap) : Agrees (query propTable) propTable := by
  intro id current found
  have member := mem_of_find?_eq_some found
  have named := find?_some found
  simp only [query, List.mem_map, mem_filter] at member
  obtain ⟨property, ⟨entry, _⟩, rfl⟩ := member
  exact ⟨property, getPropertyFromId_some.mpr ⟨entry, by simpa using named⟩, rfl⟩

theorem Agrees.replaceFirst {currentCapacities : Properties}
    (agrees : Agrees currentCapacities propTable) (id : String) (value : Any) :
    Agrees (replaceFirst id value currentCapacities) (propTable.setValue id value) := by
  intro other current found
  rw [find?_replaceFirst] at found
  rw [getPropertyFromId_setValue]
  by_cases same : other = id
  · subst same
    rw [if_pos rfl] at found
    obtain ⟨before, foundBefore, rfl⟩ := map_eq_some_iff.mp found
    obtain ⟨property, foundProperty, _⟩ := agrees other before foundBefore
    have named := (getPropertyFromId_some.mp foundProperty).2
    exact ⟨assign other value property, by rw [foundProperty]; rfl, by simp [assign, named]⟩
  · rw [if_neg same] at found
    obtain ⟨property, foundProperty, values⟩ := agrees other current found
    have named := (getPropertyFromId_some.mp foundProperty).2
    have different : property.id ≠ id := fun equal => same (named.symm.trans equal)
    exact ⟨property, by rw [foundProperty]; simp [assign, different], values⟩

variable {outcome : Nat → SetOutcome}

theorem applyAllocations_moves (completes : ∀ n, outcome n = .completes) (capacities : Properties) :
    ∀ rest currentCapacities list ii propTable, Agrees currentCapacities propTable →
      (∀ capacity ∈ rest, 0 ≤ capacity.value.value) →
      reserve capacities rest currentCapacities = .allocations list →
      (applyAllocations outcome list ii propTable).invalidProperties = [] ∧
      Moved propTable (applyAllocations outcome list ii propTable).propTable
        (fun id => -requested rest id) ∧
      ∀ capacity ∈ rest, ∃ property, getPropertyFromId propTable capacity.id = some property ∧
        property.value.type.counts := by
  intro rest
  induction rest with
  | nil =>
      intro currentCapacities list ii propTable _ _ granted
      simp only [reserve, Reserved.allocations.injEq] at granted
      subst granted
      exact ⟨rfl, Moved.refl propTable fun id => by simp, by simp⟩
  | cons request rest ih =>
      intro currentCapacities list ii propTable agrees positive granted
      obtain ⟨current, left, later, found, allocated, reserved, rfl⟩ := reserve_cons granted
      obtain ⟨property, foundProperty, values⟩ := agrees request.id current found
      obtain ⟨counts, enough, rfl⟩ := allocate_some allocated
      rw [← values] at counts enough reserved ⊢
      have requestPositive := positive request mem_cons_self
      have stored := Any.store_value (TypeCode.narrow_between
        (TypeCode.narrow_zero property.value.type) property.value.stored
        (show 0 ≤ property.value.value - request.value.value by omega) (by omega))
      have move := @Moved.setValue _ _ _
        (Any.store property.value.type (property.value.value - request.value.value))
        foundProperty rfl
      obtain ⟨valid, moves, countsRest⟩ := ih _ later (ii + 1) _
        (agrees.replaceFirst request.id _)
        (fun other member => positive other (mem_cons_of_mem _ member)) reserved
      simp only [applyAllocations, completes, store, if_true]
      refine ⟨valid, move.trans moves fun id => ?_, ?_⟩
      · rw [requested_cons, stored]
        by_cases same : request.id = id
        · simp only [same, if_true]
          omega
        · have differs : ¬ id = request.id := fun equal => same equal.symm
          simp only [same, differs, if_false]
          omega
      · intro capacity member
        rcases mem_cons.mp member with rfl | member
        · exact ⟨property, foundProperty, counts⟩
        · obtain ⟨moved, foundMoved, movedCounts⟩ := countsRest capacity member
          cases foundBefore : getPropertyFromId propTable capacity.id with
          | none =>
              rw [move.absent _ foundBefore] at foundMoved
              cases foundMoved
          | some before =>
              obtain ⟨after, foundAfter, _, type, _⟩ := move.present _ before foundBefore
              obtain rfl := some.inj (foundAfter.symm.trans foundMoved)
              exact ⟨before, rfl, type ▸ movedCounts⟩

def Fits (originalCap : Properties) (propTable : PropertyMap) (capacities : Properties) : Prop :=
  ∀ capacity ∈ capacities, 0 ≤ capacity.value.value ∧
    ∃ property bound, getPropertyFromId propTable capacity.id = some property ∧
      isValidType property.value capacity.value ∧
      (∀ original ∈ originalCap, original.id = capacity.id → original.value = bound) ∧
      bound.type = property.value.type ∧
      property.value.value + requested capacities capacity.id ≤ bound.value ∧
      (¬ property.value.type.counts → property.value = bound)

theorem Fits.head {originalCap rest : Properties} {request : DataType}
    (fits : Fits originalCap propTable (request :: rest)) :
    ∃ property, getPropertyFromId propTable request.id = some property ∧
      isValidType property.value request.value ∧
      (originalCap.filter fun original => original.id == request.id &&
        compareAnys (deallocate property.value request.value) original.value == .FIRST_BIGGER) = [] ∧
      (deallocate property.value request.value).value = property.value.value + request.value.value := by
  obtain ⟨positive, property, bound, found, valid, only, type, room, same⟩ :=
    fits request mem_cons_self
  have restPositive := requested_nonneg
    (fun other member => (fits other (mem_cons_of_mem _ member)).1) request.id
  rw [requested_cons, if_pos rfl] at room
  have exact : (deallocate property.value request.value).value = property.value.value + request.value.value := by
    by_cases counts : property.value.type.counts
    · rw [deallocate_counts counts]
      exact Any.store_value (TypeCode.narrow_between property.value.stored (type ▸ bound.stored)
        (by omega) (by omega))
    · rw [deallocate_not_counts counts]
      rw [same counts] at room ⊢
      omega
  refine ⟨property, found, valid, ?_, exact⟩
  rw [filter_eq_nil_iff]
  intro original member exceeded
  simp only [Bool.and_eq_true, beq_iff_eq, compareAnys_first_bigger] at exceeded
  rw [only original member exceeded.1, exact] at exceeded
  omega

theorem Fits.tail {originalCap rest : Properties} {propTable after : PropertyMap}
    {request : DataType} (fits : Fits originalCap propTable (request :: rest))
    (move : Moved propTable after fun id =>
      if id = request.id then request.value.value else 0) :
    Fits originalCap after rest := by
  intro capacity member
  obtain ⟨positive, property, bound, found, valid, only, type, room, same⟩ :=
    fits capacity (mem_cons_of_mem _ member)
  obtain ⟨moved, foundMoved, _, movedType, value⟩ := move.present _ _ found
  have restPositive := requested_nonneg
    (fun other member => (fits other (mem_cons_of_mem _ member)).1) capacity.id
  have headPositive := (fits request mem_cons_self).1
  rw [requested_cons] at room
  have together : moved.value.value + requested rest capacity.id =
      property.value.value +
        ((if request.id = capacity.id then request.value.value else 0) + requested rest capacity.id) := by
    rw [value]
    by_cases hit : request.id = capacity.id
    · simp only [hit, if_true]
      omega
    · have miss : ¬ capacity.id = request.id := fun equal => hit equal.symm
      simp only [hit, miss, if_false]
      omega
  refine ⟨positive, moved, bound, foundMoved, ?_, only, type.trans movedType.symm, by omega, ?_⟩
  · simpa [isValidType, movedType] using valid
  · intro opaqueType
    have unchanged := same (movedType ▸ opaqueType)
    refine Any.ext (movedType.trans type.symm) ?_
    rw [value]
    rw [unchanged] at room ⊢
    split
    · rename_i hit
      rw [if_pos hit.symm] at room
      omega
    · omega

theorem release_moves (completes : ∀ n, outcome n = .completes) (capacities originalCap : Properties) :
    ∀ rest ii released, Fits originalCap released.propTable rest →
      ∃ after, release capacities originalCap outcome rest ii released =
          (none, { released with
            propTable := after
            deallocations := released.deallocations ++ rest.map DataType.id }) ∧
        Moved released.propTable after (requested rest) := by
  intro rest
  induction rest with
  | nil =>
      intro ii released _
      exact ⟨released.propTable, by simp [release], Moved.refl _ fun id => requested_nil id⟩
  | cons request rest ih =>
      intro ii released fits
      obtain ⟨property, found, valid, none, exact⟩ := fits.head
      have move := @Moved.setValue _ _ _ (deallocate property.value request.value) found
        (deallocate_type _ _)
      simp only [exact, add_sub_cancel_left] at move
      obtain ⟨after, result, moves⟩ := ih (ii + 1)
        { released with
          propTable :=
            released.propTable.setValue request.id (deallocate property.value request.value)
          deallocations := released.deallocations ++ [request.id] }
        (fits.tail move)
      refine ⟨after, ?_, move.trans moves fun id => ?_⟩
      · rw [release, found]
        simp only [valid, Bool.not_true, Bool.false_eq_true, if_false, none, ne_eq, not_true,
          completes, store, if_true]
        rw [result]
        simp
      · rw [requested_cons]
        by_cases hit : request.id = id
        · simp [hit]
        · have miss : ¬ id = request.id := fun equal => hit equal.symm
          simp [hit, miss]

structure Sound (ledger : Ledger) : Prop where
  free : ledger.device.propertySetAccess = false
  enabled : ¬ ledger.device.isIdle → ¬ ledger.device.isLocked ∧ ¬ ledger.device.isDisabled
  originals : (ledger.device.originalCap.map DataType.id).Nodup
  known : ∀ original ∈ ledger.device.originalCap, ∃ property,
    getPropertyFromId ledger.device.propTable original.id = some property ∧ property.isAllocatable
  balanced : ∀ id property, getPropertyFromId ledger.device.propTable id = some property →
    property.isAllocatable → ∃ original ∈ ledger.device.originalCap, original.id = id ∧
      original.value.type = property.value.type ∧
      property.value.value = original.value.value - ledger.outstanding id ∧
      (¬ property.value.type.counts → ledger.outstanding id = 0)
  untouched : ∀ id, (∀ property, getPropertyFromId ledger.device.propTable id = some property →
    ¬ property.isAllocatable) → ledger.outstanding id = 0
  positive : ∀ id, 0 ≤ ledger.outstanding id
  usage : ledger.device.isIdle ↔ ∀ id, ledger.outstanding id = 0

variable {ledger : Ledger}

theorem Sound.inUse_eq (sound : Sound ledger) (id : String) :
    inUse ledger.device id = ledger.outstanding id := by
  unfold inUse
  split
  · rename_i property original found foundOriginal
    have named := find?_some foundOriginal
    have member := mem_of_find?_eq_some foundOriginal
    obtain ⟨known, foundKnown, allocatable⟩ := sound.known original member
    simp only [beq_iff_eq] at named
    obtain rfl : known = property := some.inj (foundKnown.symm.trans (named ▸ found))
    obtain ⟨bound, boundMember, boundNamed, _, value, _⟩ :=
      sound.balanced id known found allocatable
    obtain rfl : bound = original := some.inj
      (((find?_key sound.originals).mpr ⟨boundMember, boundNamed⟩).symm.trans foundOriginal)
    omega
  · rename_i unmatched
    symm
    apply sound.untouched
    intro property found allocatable
    obtain ⟨bound, boundMember, boundNamed, _⟩ := sound.balanced id property found allocatable
    exact unmatched property bound found
      ((find?_key sound.originals).mpr ⟨boundMember, boundNamed⟩)

theorem Sound.opened (propTable : PropertyMap) (adminState : AdminType)
    (operationalState : OperationalType) : Sound (opened propTable adminState operationalState) where
  free := rfl
  enabled busy := absurd rfl busy
  originals := by
    simp only [Capacity.opened, Device.start, originalCapacities, List.map_map, Function.comp_def]
    exact propTable.unique.sublist (filter_sublist.map _)
  known original member := by
    simp only [Capacity.opened, Device.start, originalCapacities, List.mem_map, mem_filter] at member ⊢
    obtain ⟨property, ⟨entry, allocatable⟩, rfl⟩ := member
    exact ⟨property, getPropertyFromId_some.mpr ⟨entry, rfl⟩, allocatable⟩
  balanced id property found allocatable := by
    obtain ⟨entry, rfl⟩ := getPropertyFromId_some.mp found
    refine ⟨⟨property.id, property.value⟩, ?_, rfl, rfl, (Int.sub_zero _).symm, fun _ => rfl⟩
    exact mem_map.mpr ⟨property, mem_filter.mpr ⟨entry, allocatable⟩, rfl⟩
  untouched _ _ := rfl
  positive _ := Int.le_refl 0
  usage := ⟨fun _ _ => rfl, fun _ => rfl⟩

variable {after : PropertyMap}

theorem Moved.absent_iff {before : PropertyMap} (move : Moved before after delta) {moved : Property}
    (found : getPropertyFromId after id = some moved) :
    ∃ property, getPropertyFromId before id = some property ∧
      moved.isAllocatable = property.isAllocatable ∧ moved.value.type = property.value.type ∧
      moved.value.value = property.value.value + delta id := by
  cases foundBefore : getPropertyFromId before id with
  | none =>
      rw [move.absent id foundBefore] at found
      cases found
  | some property =>
      obtain ⟨other, foundOther, facts⟩ := move.present id property foundBefore
      obtain rfl := some.inj (foundOther.symm.trans found)
      exact ⟨property, rfl, facts⟩

theorem Sound.update (sound : Sound ledger) {usageState : UsageType} {outstanding : String → Int}
    (move : Moved ledger.device.propTable after fun id => -delta id)
    (follows : ∀ id, outstanding id = ledger.outstanding id + delta id)
    (named : ∀ id, delta id ≠ 0 → ∃ property,
      getPropertyFromId ledger.device.propTable id = some property ∧ property.isAllocatable ∧
        property.value.type.counts)
    (enabled : ¬ ledger.device.isLocked ∧ ¬ ledger.device.isDisabled)
    (positive : ∀ id, 0 ≤ outstanding id)
    (usage : usageState = .IDLE ↔ ∀ id, outstanding id = 0) :
    Sound ⟨{ ledger.device with propTable := after, usageState }, outstanding⟩ where
  free := sound.free
  enabled _ := enabled
  originals := sound.originals
  known original member := by
    obtain ⟨property, found, allocatable⟩ := sound.known original member
    obtain ⟨moved, foundMoved, same, _⟩ := move.present _ property found
    exact ⟨moved, foundMoved, same ▸ allocatable⟩
  balanced id moved found allocatable := by
    obtain ⟨property, foundBefore, same, type, value⟩ := move.absent_iff found
    obtain ⟨original, member, originalNamed, originalType, balance, still⟩ :=
      sound.balanced id property foundBefore (same ▸ allocatable)
    refine ⟨original, member, originalNamed, originalType.trans type.symm, ?_, ?_⟩
    · have follow := follows id
      simp only
      omega
    · intro opaqueType
      rw [type] at opaqueType
      have unmoved : delta id = 0 := by
        by_contra moves
        obtain ⟨other, foundOther, _, counts⟩ := named id moves
        obtain rfl := some.inj (foundOther.symm.trans foundBefore)
        exact opaqueType counts
      simp [follows, still opaqueType, unmoved]
  untouched id none := by
    have unmoved : delta id = 0 := by
      by_contra moves
      obtain ⟨property, found, allocatable, _⟩ := named id moves
      obtain ⟨moved, foundMoved, same, _⟩ := move.present _ property found
      exact none moved foundMoved (same ▸ allocatable)
    have before := sound.untouched id fun property found allocatable => by
      obtain ⟨moved, foundMoved, same, _⟩ := move.present _ property found
      exact none moved foundMoved (same ▸ allocatable)
    simp [follows, before, unmoved]
  positive := positive
  usage := by simpa [Device.isIdle] using usage

theorem requested_pos (positive : ∀ capacity ∈ capacities, 0 ≤ capacity.value.value) {capacity : DataType}
    (member : capacity ∈ capacities) (some_positive : 0 < capacity.value.value) :
    0 < requested capacities capacity.id := by
  have least := le_requested positive capacity member
  omega

theorem requested_named (asked : requested capacities id ≠ 0) : ∃ capacity ∈ capacities, capacity.id = id := by
  by_contra unnamed
  push Not at unnamed
  exact asked (requested_unnamed unnamed)

variable {device : Device}

theorem allocateCapacity_granted (completes : ∀ n, outcome n = .completes)
    (positive : ∀ capacity ∈ capacities, 0 ≤ capacity.value.value) (free : ¬ device.propertySetAccess) :
    ((allocateCapacity device capacities outcome).2 = device ∧
      ((allocateCapacity device capacities outcome).1 = .returned true → capacities = [])) ∨
    ∃ after usageState, usageState ≠ .IDLE ∧ capacities ≠ [] ∧
      allocateCapacity device capacities outcome =
        (.returned true, { device with propTable := after, usageState }) ∧
      ¬ device.isLocked ∧ ¬ device.isDisabled ∧
      Moved device.propTable after (fun id => -requested capacities id) ∧
      ∀ capacity ∈ capacities, ∃ property,
        getPropertyFromId device.propTable capacity.id = some property ∧
          property.isAllocatable ∧ property.value.type.counts := by
  unfold allocateCapacity
  split
  · exact .inl ⟨rfl, by simp⟩
  split
  · rename_i empty
    exact .inl ⟨rfl, fun _ => empty⟩
  split
  · exact .inl ⟨rfl, by simp⟩
  rename_i notBusy nonempty open'
  simp only [Bool.or_eq_true, Bool.not_eq_true', not_or, Bool.not_eq_false, Bool.not_eq_true] at open'
  have unlocked : ¬ device.isLocked := by
    have state : device.adminState = .UNLOCKED := by simpa [Device.isUnlocked] using open'.1
    simp [Device.isLocked, state]
  unfold allocateCapacityLegacy
  split
  · contradiction
  split
  · exact .inl ⟨rfl, by simp⟩
  rename_i valid
  split
  · exact .inl ⟨rfl, by simp⟩
  · exact .inl ⟨rfl, by simp⟩
  rename_i list granted
  obtain ⟨applied, moves, counts⟩ := applyAllocations_moves completes capacities capacities _ list 0
    device.propTable (query_agrees device.propTable) positive granted
  refine .inr ⟨_, if list.any fun allocation =>
    compareAnyToZero allocation.newAlloc.value == .POSITIVE then .ACTIVE else .BUSY,
    ?_, nonempty, ?_, unlocked, by simp [open'.2], moves, ?_⟩
  · split <;> simp
  · simp [applied, ne_eq]
  · intro capacity member
    obtain ⟨property, found, allocatable⟩ := validateCapacities_none.mp valid capacity member
    obtain ⟨other, foundOther, otherCounts⟩ := counts capacity member
    obtain rfl := some.inj (foundOther.symm.trans found)
    exact ⟨other, found, allocatable, otherCounts⟩

theorem deallocateCapacity_refused (refused : Refused device capacities) (free : device.propertySetAccess = false)
    (outcome : Nat → SetOutcome) : ∃ exception,
      deallocateCapacity device capacities outcome = (.raised exception, device) := by
  unfold deallocateCapacity
  split
  · exact ⟨_, rfl⟩
  split
  · exact ⟨_, rfl⟩
  rename_i unlocked enabled
  unfold deallocateCapacityLegacy
  simp only [free, Bool.false_eq_true, if_false]
  cases valid : validateCapacities device.propTable capacities with
  | some invalid => exact ⟨invalid, rfl⟩
  | none =>
      have idle : device.isIdle = true := by
        rcases refused with locked | disabled | idle | invalid
        · exact absurd locked unlocked
        · exact absurd disabled enabled
        · exact idle
        · exact absurd valid invalid
      exact ⟨_, by simp only [idle, if_true]; rfl⟩

theorem deallocateCapacity_fits (completes : ∀ n, outcome n = .completes)
    (free : device.propertySetAccess = false) (accepted : ¬ Refused device capacities)
    (fits : Fits device.originalCap device.propTable capacities) :
    ∃ after, Moved device.propTable after (requested capacities) ∧
      deallocateCapacity device capacities outcome = (.done, { device with
        propTable := after
        usageState := if totalCap device.originalCap after (capacities.map DataType.id)
          then .IDLE else .ACTIVE }) := by
  obtain ⟨after, result, moves⟩ := release_moves completes capacities device.originalCap capacities
    0 ⟨device.propTable, [], [], []⟩ fits
  refine ⟨after, moves, ?_⟩
  simp only [Refused, not_or, ne_eq, not_not] at accepted
  obtain ⟨unlocked, enabled, busy, valid⟩ := accepted
  unfold deallocateCapacity deallocateCapacityLegacy
  simp [unlocked, enabled, busy, valid, free, result, Bool.false_eq_true, ne_eq, nil_append]

theorem Sound.fits (sound : Sound ledger)
    (valid : ∀ capacity ∈ capacities, ∃ property,
      getPropertyFromId ledger.device.propTable capacity.id = some property ∧
        property.isAllocatable ∧ isValidType property.value capacity.value)
    (positive : ∀ capacity ∈ capacities, 0 ≤ capacity.value.value)
    (within : ∀ id, requested capacities id ≤ ledger.outstanding id) :
    Fits ledger.device.originalCap ledger.device.propTable capacities := by
  intro capacity member
  obtain ⟨property, found, allocatable, validType⟩ := valid capacity member
  obtain ⟨original, originalMember, originalNamed, type, value, still⟩ :=
    sound.balanced capacity.id property found allocatable
  have bound := within capacity.id
  refine ⟨positive capacity member, property, original.value, found, validType, ?_, type, by omega, ?_⟩
  · intro other otherMember otherNamed
    have sameEntry : other = original := some.inj
      (((find?_key sound.originals).mpr ⟨otherMember, otherNamed⟩).symm.trans
        ((find?_key sound.originals).mpr ⟨originalMember, originalNamed⟩))
    rw [sameEntry]
  · intro opaqueType
    have nothing := still opaqueType
    exact Any.ext type.symm (by omega)

theorem totalCap_iff {originalCap : Properties} {ids : List String} :
    totalCap originalCap propTable ids ↔ ∀ id ∈ ids, ∀ original ∈ originalCap, original.id = id →
      ∀ property, getPropertyFromId propTable id = some property →
        ¬ (property.value.type.counts ∧ property.value.value < original.value.value) := by
  unfold totalCap
  rw [Bool.not_eq_true', List.any_eq_false]
  refine forall₂_congr fun id _ => ?_
  rw [Bool.not_eq_true, List.any_eq_false]
  refine forall₂_congr fun original _ => ?_
  cases found : getPropertyFromId propTable id with
  | none => simp
  | some property => simp [← compareAnys_second_bigger]

section

variable (sound : Sound ledger)

include sound

theorem Sound.totalCap_iff (moves : Moved ledger.device.propTable after (requested capacities))
    (valid : ∀ capacity ∈ capacities, ∃ property,
      getPropertyFromId ledger.device.propTable capacity.id = some property ∧ property.isAllocatable)
    (positive : ∀ capacity ∈ capacities, 0 ≤ capacity.value.value)
    (within : ∀ id, requested capacities id ≤ ledger.outstanding id) :
    totalCap ledger.device.originalCap after (capacities.map DataType.id) ↔
      ∀ capacity ∈ capacities, requested capacities capacity.id = ledger.outstanding capacity.id := by
  rw [Capacity.totalCap_iff, List.forall_mem_map]
  refine forall₂_congr fun capacity member => ?_
  obtain ⟨property, found, allocatable⟩ := valid capacity member
  obtain ⟨moved, foundMoved, _, movedType, movedValue⟩ := moves.present _ property found
  obtain ⟨original, originalMember, originalNamed, type, value, still⟩ :=
    sound.balanced capacity.id property found allocatable
  have bound := within capacity.id
  have least := requested_nonneg positive capacity.id
  constructor
  · intro total
    have reached := total original originalMember originalNamed moved foundMoved
    rw [movedType, not_and] at reached
    by_cases counts : property.value.type.counts
    · have full := reached counts
      omega
    · have nothing := still counts
      omega
  · intro all other otherMember otherNamed current foundCurrent below
    obtain rfl := some.inj (foundMoved.symm.trans foundCurrent)
    obtain rfl : other = original := some.inj
      (((find?_key sound.originals).mpr ⟨otherMember, otherNamed⟩).symm.trans
        ((find?_key sound.originals).mpr ⟨originalMember, originalNamed⟩))
    omega

theorem Sound.allocateCapacity (careful : Careful (.allocateCapacity capacities outcome) ledger) :
    Sound (serve (.allocateCapacity capacities outcome) ledger) := by
  obtain ⟨completes, positive, asks⟩ := careful
  have free : ¬ ledger.device.propertySetAccess := by simp [sound.free]
  rcases allocateCapacity_granted completes positive free with
    ⟨same, empty⟩ | ⟨after, usageState, busy, nonempty, result, unlocked, enabled, moves, named⟩
  · have unchanged : serve (.allocateCapacity capacities outcome) ledger = ledger := by
      simp only [serve, same]
      split
      · rename_i granted
        simp [empty granted]
      · rfl
    rw [unchanged]
    exact sound
  · simp only [serve, result, if_true]
    refine sound.update moves (fun _ => rfl) ?_ ⟨unlocked, enabled⟩ ?_ ?_
    · intro id asked
      obtain ⟨capacity, member, rfl⟩ := requested_named asked
      exact named capacity member
    · intro id
      have before := sound.positive id
      have more := requested_nonneg positive id
      omega
    · refine ⟨fun idle => absurd idle busy, fun nothing => ?_⟩
      have none : ∀ id, ledger.outstanding id = 0 ∧ requested capacities id = 0 := fun id => by
        have before := sound.positive id
        have more := requested_nonneg positive id
        have total := nothing id
        omega
      obtain ⟨capacity, member, more⟩ :=
        asks (sound.usage.mpr fun id => (none id).1) nonempty
      have asked := requested_pos positive member more
      have nothingAsked := (none capacity.id).2
      omega

theorem Sound.deallocateCapacity (careful : Careful (.deallocateCapacity capacities outcome) ledger) :
    Sound (serve (.deallocateCapacity capacities outcome) ledger) := by
  by_cases refused : Refused ledger.device capacities
  · obtain ⟨exception, result⟩ := deallocateCapacity_refused refused sound.free outcome
    simp only [serve, result, reduceCtorEq, if_false]
    exact sound
  obtain ⟨completes, positive, types, within, settles⟩ := careful.resolve_left refused
  simp only [sound.inUse_eq] at within settles
  have accepted := refused
  simp only [Refused, not_or, ne_eq, not_not] at accepted
  obtain ⟨unlocked, enabled, busy, valid⟩ := accepted
  have named := validateCapacities_none.mp valid
  have fits := sound.fits (fun capacity member => by
    obtain ⟨property, found, allocatable⟩ := named capacity member
    exact ⟨property, found, allocatable, types capacity member property found⟩) positive within
  obtain ⟨after, moves, result⟩ := deallocateCapacity_fits completes sound.free refused fits
  have total := sound.totalCap_iff moves named positive within
  simp only [serve, result, if_true]
  have moved : Moved ledger.device.propTable after fun id => -(-requested capacities id) := by
    simpa using moves
  refine sound.update moved (fun _ => rfl) ?_ ⟨unlocked, enabled⟩ ?_ ?_
  · intro id asked
    obtain ⟨capacity, member, rfl⟩ := requested_named (by omega : requested capacities id ≠ 0)
    obtain ⟨property, found, allocatable⟩ := named capacity member
    refine ⟨property, found, allocatable, ?_⟩
    by_contra opaqueType
    obtain ⟨_, _, _, _, _, still⟩ := sound.balanced capacity.id property found allocatable
    have nothing := still opaqueType
    have bound := within capacity.id
    have least := requested_nonneg positive capacity.id
    omega
  · intro id
    have bound := within id
    omega
  · rcases settles with ⟨capacity, member, below⟩ | all
    · have notTotal : ¬ totalCap ledger.device.originalCap after (capacities.map DataType.id) :=
        fun reached => absurd (total.mp reached capacity member) (by omega)
      simp only [notTotal, Bool.false_eq_true, if_false, reduceCtorEq, false_iff]
      intro nothing
      have left := nothing capacity.id
      omega
    · have reached := total.mpr fun capacity _ => all capacity.id
      simp only [reached, if_true, true_iff]
      intro id
      have exhausted := all id
      omega

theorem Sound.serve {call : Call} (careful : Careful call ledger) : Sound (serve call ledger) := by
  cases call with
  | allocateCapacity capacities outcome => exact sound.allocateCapacity careful
  | deallocateCapacity capacities outcome => exact sound.deallocateCapacity careful

theorem Sound.consistent : Consistent ledger where
  capacity property entry allocatable := by
    obtain ⟨original, member, named, _, value, _⟩ := sound.balanced property.id property
      (getPropertyFromId_some.mpr ⟨entry, rfl⟩) allocatable
    exact ⟨original, member, named, value⟩
  usage := by simpa [Device.isIdle] using sound.usage
  releasable capacities held outcome completes := by
    obtain ⟨capacity, member, more⟩ := held.some_positive
    have busy : ¬ ledger.device.isIdle := fun idle => by
      have asked := requested_pos held.positive member more
      have bound := held.within capacity.id
      have nothing := sound.usage.mp idle capacity.id
      omega
    have accepted : ¬ Refused ledger.device capacities := by
      rintro (locked | disabled | idle | invalid)
      · exact (sound.enabled busy).1 locked
      · exact (sound.enabled busy).2 disabled
      · exact busy idle
      · refine invalid (validateCapacities_none.mpr fun other otherMember => ?_)
        obtain ⟨property, found, allocatable, _⟩ := held.allocatable other otherMember
        exact ⟨property, found, allocatable⟩
    obtain ⟨after, _, result⟩ := deallocateCapacity_fits completes sound.free accepted
      (sound.fits held.allocatable held.positive held.within)
    rw [result]

end

/-- In every state of a run of careful calls, capacity, usage state and ledger agree. -/
theorem capacity_consistent (propTable : PropertyMap) (adminState : AdminType)
    (operationalState : OperationalType) (calls : List Call)
    (careful : Along serve Careful (opened propTable adminState operationalState) calls) :
    Consistent (run serve (opened propTable adminState operationalState) calls) :=
  (invariant_run Sound (fun _ _ sound allowed => sound.serve allowed)
    (Sound.opened propTable adminState operationalState) careful).consistent

def ten (id : String) : Property :=
  ⟨id, "readwrite", ["configure", "allocation"], "external", Any.store .tk_ulong 10⟩

def tens : PropertyMap := ⟨[ten "memory", ten "streams"], by decide⟩

def amount (id : String) (value : Int) : Properties := [⟨id, Any.store .tk_ulong value⟩]

def accepting : Nat → SetOutcome := fun _ => .completes

theorem capacity_consistent_released : Consistent (run serve (opened tens .UNLOCKED .ENABLED)
    [.allocateCapacity (amount "memory" 3) accepting, .deallocateCapacity (amount "memory" 2) accepting]) := by
  refine capacity_consistent tens .UNLOCKED .ENABLED _ ?_
  refine ⟨⟨fun _ => rfl, by decide, by decide⟩,
    .inr ⟨fun _ => rfl, by decide, ?_, ?_, .inl ⟨_, mem_cons_self, by decide⟩⟩, trivial⟩
  · intro capacity member property found
    obtain rfl := mem_singleton.mp member
    have types : ∀ property ∈ getPropertyFromId
        (allocateCapacity (Device.start tens .UNLOCKED .ENABLED) (amount "memory" 3)
          accepting).2.propTable "memory", isValidType property.value (Any.store .tk_ulong 2) := by
      decide
    exact types property found
  · intro id
    by_cases memory : id = "memory"
    · subst memory
      decide
    by_cases streams : id = "streams"
    · subst streams
      decide
    have other : ("memory" == id) = false ∧ ("streams" == id) = false := by
      simp [Ne.symm memory, Ne.symm streams]
    have unnamed : requested (amount "memory" 2) id = 0 :=
      requested_unnamed (by simpa [amount] using Ne.symm memory)
    have absent : getPropertyFromId (serve (.allocateCapacity (amount "memory" 3) accepting)
        (opened tens .UNLOCKED .ENABLED)).device.propTable id = none := by
      rw [getPropertyFromId, find?_eq_none]
      have ids : ∀ property ∈ (serve (.allocateCapacity (amount "memory" 3) accepting)
          (opened tens .UNLOCKED .ENABLED)).device.propTable.entries,
          property.id = "memory" ∨ property.id = "streams" := by decide
      intro property member named
      rcases ids property member with same | same
      · simp [same, other.1] at named
      · simp [same, other.2] at named
    simp [unnamed, inUse, absent]

theorem release_makes_idle : ¬ Consistent (run serve (opened tens .UNLOCKED .ENABLED)
    [.allocateCapacity (amount "memory" 3) accepting, .allocateCapacity (amount "streams" 4) accepting,
      .deallocateCapacity (amount "memory" 3) accepting]) := by
  intro consistent
  have idle : (run serve (opened tens .UNLOCKED .ENABLED)
    [.allocateCapacity (amount "memory" 3) accepting, .allocateCapacity (amount "streams" 4) accepting,
      .deallocateCapacity (amount "memory" 3) accepting]).device.usageState = .IDLE := by decide
  exact absurd (consistent.usage.mp idle "streams") (by decide)

end Redhawk.Capacity
