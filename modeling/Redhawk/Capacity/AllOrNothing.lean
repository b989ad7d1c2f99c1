import Redhawk.Capacity.AllocationCallbacks

/-!
A failed allocation leaves a device as it was: the legacy calls, whose clean-up waits for the mutex
that they hold or has nothing to give back, and the calls with callbacks.
-/

namespace Redhawk.Capacity

open Device List

def Granted (device : Device) (capacities : Properties) : Prop :=
  ∃ allocations, reserve capacities capacities (query device.propTable) = .allocations allocations

def LastSet (capacities : Properties) (outcome : Nat → SetOutcome) (i : Nat) (request : DataType) : Prop :=
  capacities[i]? = some request ∧ outcome i = .raisesAfter ∧
    ∀ j later, i < j → capacities[j]? = some later → later.id = request.id → outcome j ≠ .raisesAfter

def SetsNothing (capacities : Properties) (outcome : Nat → SetOutcome) : Prop :=
  ∀ i request, LastSet capacities outcome i request →
    request.value.type.narrow (requested (capacities.take (i + 1)) request.id) = 0

section Numbers

theorem TypeCode.narrow_sub (type : TypeCode) (first second : Int) :
    type.narrow (type.narrow first - second) = type.narrow (first - second) := by
  cases type with
  | tk_ulong => exact Int.emod_sub_emod _ _ _
  | tk_long => exact Int.bmod_sub_bmod
  | tk_short => exact Int.bmod_sub_bmod
  | other kind => rfl

theorem Any.store_sub_iff (any : Any) (amount : Int) :
    Any.store any.type (any.value - amount) = any ↔ any.type.narrow amount = 0 := by
  have stored := any.stored
  have same : Any.store any.type (any.value - amount) = any ↔ any.type.narrow (any.value - amount) = any.value :=
    ⟨fun equal => congrArg Any.value equal, fun equal => Any.ext rfl equal⟩
  rw [same]
  cases code : any.type with
  | tk_ulong =>
      rw [code] at stored
      simp only [TypeCode.narrow] at stored ⊢
      omega
  | tk_long =>
      rw [code] at stored
      simp only [TypeCode.narrow, Int.bmod] at stored ⊢
      omega
  | tk_short =>
      rw [code] at stored
      simp only [TypeCode.narrow, Int.bmod] at stored ⊢
      omega
  | other kind =>
      simp only [TypeCode.narrow]
      omega

end Numbers

section Reserve

theorem reserve_type {capacities rest currentCapacities : Properties} {request current : DataType}
    {list : List Allocation}
    (granted : reserve capacities (request :: rest) currentCapacities = .allocations list)
    (found : (currentCapacities.find? fun current => current.id == request.id) = some current) :
    current.value.type = request.value.type := by
  rw [reserve, found] at granted
  dsimp only at granted
  split at granted
  · cases granted
  · rename_i valid
    simpa [isValidType] using valid

theorem reserve_values {capacities rest currentCapacities : Properties} {list : List Allocation}
    (granted : reserve capacities rest currentCapacities = .allocations list) :
    list.map Allocation.request = rest ∧
      ∀ i allocation, list[i]? = some allocation → ∃ current,
        (currentCapacities.find? fun current => current.id == allocation.request.id) = some current ∧
          current.value.type = allocation.request.value.type ∧
          allocation.newAlloc.value = Any.store current.value.type
            (current.value.value - requested (rest.take (i + 1)) allocation.request.id) := by
  induction rest generalizing currentCapacities list with
  | nil =>
      rw [reserve, Reserved.allocations.injEq] at granted
      subst granted
      exact ⟨rfl, by rintro i allocation ⟨⟩⟩
  | cons request rest ih =>
      obtain ⟨current, left, later, found, allocated, reserved, rfl⟩ := reserve_cons granted
      have type := reserve_type granted found
      obtain ⟨-, -, rfl⟩ := allocate_some allocated
      obtain ⟨requests, each⟩ := ih reserved
      refine ⟨congrArg (request :: ·) requests, fun i allocation inside => ?_⟩
      rw [take_succ_cons, requested_cons]
      cases i with
      | zero =>
          obtain rfl := Option.some.inj inside
          refine ⟨current, found, type, ?_⟩
          simp
      | succ i =>
          obtain ⟨start, foundStart, typeStart, value⟩ := each i allocation inside
          rw [find?_replaceFirst] at foundStart
          by_cases same : allocation.request.id = request.id
          · rw [if_pos same, found, Option.map_some, Option.some.injEq] at foundStart
            subst foundStart
            refine ⟨current, by rw [same]; exact found, typeStart, ?_⟩
            rw [value, if_pos same.symm]
            refine Any.ext rfl ?_
            show current.value.type.narrow (current.value.type.narrow
              (current.value.value - request.value.value) - _) = current.value.type.narrow _
            rw [TypeCode.narrow_sub]
            congr 1
            omega
          · rw [if_neg same] at foundStart
            refine ⟨start, foundStart, typeStart, ?_⟩
            rw [value, if_neg (fun equal => same equal.symm), Int.zero_add]

end Reserve

section Apply

def settled (outcome : Nat → SetOutcome) (id : String) : List Allocation → Nat → Any → Any
  | [], _, value => value
  | allocation :: rest, ii, value => settled outcome id rest (ii + 1)
      (if outcome ii = .raisesAfter ∧ allocation.request.id = id then allocation.newAlloc.value
        else value)

variable {outcome : Nat → SetOutcome}

theorem settled_cases (id : String) (list : List Allocation) (ii : Nat) (value : Any) :
    ((∀ k allocation, list[k]? = some allocation → allocation.request.id = id →
        outcome (ii + k) ≠ .raisesAfter) ∧ settled outcome id list ii value = value) ∨
      ∃ k allocation, list[k]? = some allocation ∧ allocation.request.id = id ∧ outcome (ii + k) = .raisesAfter ∧
        (∀ j later, k < j → list[j]? = some later → later.request.id = id → outcome (ii + j) ≠ .raisesAfter) ∧
        settled outcome id list ii value = allocation.newAlloc.value := by
  induction list generalizing ii value with
  | nil => exact .inl ⟨fun k allocation inside => absurd inside (by simp), rfl⟩
  | cons head rest ih =>
      have shift (k : Nat) : ii + 1 + k = ii + (k + 1) := by omega
      rw [settled]
      rcases ih (ii + 1) (if outcome ii = .raisesAfter ∧ head.request.id = id then head.newAlloc.value
        else value) with ⟨none, same⟩ | ⟨k, allocation, inside, named, sets, last, same⟩
      · by_cases here : outcome ii = .raisesAfter ∧ head.request.id = id
        · refine .inr ⟨0, head, rfl, here.2, here.1, fun j later behind inside named => ?_, ?_⟩
          · obtain ⟨j, rfl⟩ : ∃ k, j = k + 1 := ⟨j - 1, by omega⟩
            rw [← shift]
            exact none j later inside named
          · rw [same, if_pos here]
        · refine .inl ⟨fun k allocation inside named => ?_, ?_⟩
          · cases k with
            | zero =>
                obtain rfl := Option.some.inj inside
                exact fun sets => here ⟨sets, named⟩
            | succ k =>
                rw [← shift]
                exact none k allocation inside named
          · rw [same, if_neg here]
      · refine .inr ⟨k + 1, allocation, inside, named, by rw [← shift]; exact sets,
          fun j later behind inside named => ?_, same⟩
        obtain ⟨j, rfl⟩ : ∃ k, j = k + 1 := ⟨j - 1, by omega⟩
        rw [← shift]
        exact last j later (by omega) inside named

theorem applyAllocations_lists (list : List Allocation) (ii : Nat) (propTable : PropertyMap) :
    ((applyAllocations outcome list ii propTable).cleanup = [] ↔
        ∀ k < list.length, outcome (ii + k) ≠ .completes) ∧
      ((applyAllocations outcome list ii propTable).invalidProperties = [] ↔
        ∀ k < list.length, outcome (ii + k) = .completes) := by
  induction list generalizing ii propTable with
  | nil => exact ⟨iff_of_true rfl nofun, iff_of_true rfl nofun⟩
  | cons head rest ih =>
      obtain ⟨cleanup, invalid⟩ := ih (ii + 1)
        (store (outcome ii) head.request.id head.newAlloc.value propTable)
      have shift (P : SetOutcome → Prop) : (∀ k < (head :: rest).length, P (outcome (ii + k))) ↔
          P (outcome ii) ∧ ∀ k < rest.length, P (outcome (ii + 1 + k)) := by
        constructor
        · intro all
          refine ⟨all 0 (Nat.zero_lt_succ _), fun k small => ?_⟩
          rw [Nat.add_assoc, Nat.add_comm 1]
          exact all (k + 1) (Nat.succ_lt_succ small)
        · rintro ⟨first, later⟩ (_ | k) small
          · exact first
          · have here := later k (Nat.lt_of_succ_lt_succ small)
            rwa [Nat.add_assoc, Nat.add_comm 1] at here
      rw [shift (· ≠ .completes), shift (· = .completes), ← cleanup, ← invalid, applyAllocations]
      by_cases done : outcome ii = .completes
      · simp [done]
      · simp [done]

theorem applyAllocations_settled {list : List Allocation} {ii : Nat}
    (fails : ∀ k < list.length, outcome (ii + k) ≠ .completes) (propTable : PropertyMap) :
    (applyAllocations outcome list ii propTable).propTable.entries =
      propTable.entries.map fun property =>
        { property with value := settled outcome property.id list ii property.value } := by
  induction list generalizing ii propTable with
  | nil => simp [applyAllocations, settled]
  | cons head rest ih =>
      have first : outcome ii ≠ .completes := fails 0 (Nat.zero_lt_succ _)
      have later : ∀ k < rest.length, outcome (ii + 1 + k) ≠ .completes := by
        intro k small
        rw [Nat.add_assoc, Nat.add_comm 1]
        exact fails (k + 1) (Nat.succ_lt_succ small)
      have tail := ih later (store (outcome ii) head.request.id head.newAlloc.value propTable)
      rw [applyAllocations, if_neg first]
      rw [tail]
      cases sets : outcome ii with
      | completes => exact absurd sets first
      | raisesBefore => simp [store, settled, sets]
      | raisesAfter =>
          simp only [store, PropertyMap.setValue, map_map]
          refine map_congr_left fun property _ => ?_
          by_cases named : property.id = head.request.id
          · simp [assign, settled, sets, named]
          · have other : ¬head.request.id = property.id := fun equal => named equal.symm
            simp [assign, settled, sets, named, other]

end Apply

section Legacy

variable {device : Device} {capacities : Properties} {outcome : Nat → SetOutcome}

theorem observed_eq_iff {device after : Device} {value : Property → Any}
    (entries : after.propTable.entries =
      device.propTable.entries.map fun property => { property with value := value property })
    (usage : after.usageState = device.usageState) : after.observed = device.observed ↔
      ∀ property ∈ device.propTable.entries, property.isAllocatable → value property = property.value := by
  have filtered (list : List Property) :
      (list.map fun property => { property with value := value property }).filter Property.isAllocatable =
        (list.filter Property.isAllocatable).map fun property =>
          { property with value := value property } := by
    rw [filter_map]
    rfl
  rw [observed, observed, usage, Prod.mk.injEq, and_iff_left rfl, originalCapacities,
    originalCapacities, entries, filtered, map_map, map_inj_left]
  constructor
  · intro same property member allocatable
    have equal := same property (mem_filter.mpr ⟨member, allocatable⟩)
    exact congrArg DataType.value equal
  · intro same property member
    obtain ⟨member, allocatable⟩ := mem_filter.mp member
    exact congrArg (DataType.mk property.id) (same property member allocatable)

theorem settled_iff {allocations : List Allocation} (valid : validateCapacities device.propTable
      capacities = none)
    (granted : reserve capacities capacities (query device.propTable) = .allocations allocations) :
    (∀ property ∈ device.propTable.entries, property.isAllocatable →
        settled outcome property.id allocations 0 property.value = property.value) ↔
      SetsNothing capacities outcome := by
  obtain ⟨requests, values⟩ := reserve_values granted
  have request_of {i : Nat} {allocation : Allocation} (inside : allocations[i]? = some allocation) :
      capacities[i]? = some allocation.request := by
    rw [← requests, getElem?_map, inside]
    rfl
  have allocation_of {i : Nat} {request : DataType} (inside : capacities[i]? = some request) :
      ∃ allocation, allocations[i]? = some allocation ∧ allocation.request = request := by
    rw [← requests, getElem?_map] at inside
    exact Option.map_eq_some_iff.mp inside
  -- the value left for the last request that was set, and what it would have to be
  have left_iff {i : Nat} {allocation : Allocation} (inside : allocations[i]? = some allocation)
      {property : Property} (member : property ∈ device.propTable.entries)
      (named : allocation.request.id = property.id) : allocation.newAlloc.value = property.value ↔
        allocation.request.value.type.narrow
          (requested (capacities.take (i + 1)) allocation.request.id) = 0 := by
    obtain ⟨current, found, type, value⟩ := values i allocation inside
    obtain ⟨property', found', same⟩ := query_agrees device.propTable _ _ found
    have here : getPropertyFromId device.propTable allocation.request.id = some property :=
      getPropertyFromId_some.mpr ⟨member, named.symm⟩
    obtain rfl := Option.some.inj (found'.symm.trans here)
    rw [value, ← type, ← same]
    exact Any.store_sub_iff property'.value _
  constructor
  · rintro same i request ⟨inside, sets, last⟩
    obtain ⟨allocation, listed, rfl⟩ := allocation_of inside
    obtain ⟨property, found, allocatable⟩ := validateCapacities_none.mp valid _
      (mem_of_getElem? inside)
    obtain ⟨member, named⟩ := getPropertyFromId_some.mp found
    have kept := same property member allocatable
    rcases @settled_cases outcome property.id allocations 0 property.value with
      ⟨none, -⟩ | ⟨k, other, listed', named', sets', last', value⟩
    · exact absurd (by rwa [Nat.zero_add]) (none i allocation listed named.symm)
    · rw [Nat.zero_add] at sets'
      rcases Nat.lt_trichotomy i k with before | rfl | behind
      · have never := last k other.request before (request_of listed') (named'.trans named)
        exact absurd sets' never
      · obtain rfl := Option.some.inj (listed.symm.trans listed')
        exact (left_iff listed member named').mp (value.symm.trans kept)
      · have never := last' i allocation behind listed named.symm
        rw [Nat.zero_add] at never
        exact absurd sets never
  · intro nothing property member allocatable
    rcases @settled_cases outcome property.id allocations 0 property.value with
      ⟨-, same⟩ | ⟨k, allocation, listed, named, sets, last, value⟩
    · exact same
    · rw [value]
      refine (left_iff listed member named).mpr (nothing k allocation.request
        ⟨request_of listed, by rwa [Nat.zero_add] at sets, fun j later behind inside same => ?_⟩)
      obtain ⟨other, listed', rfl⟩ := allocation_of inside
      have never := last j other behind listed' (same.trans named)
      rwa [Nat.zero_add] at never

theorem allocateCapacity_refused {device : Device} {capacities : Properties}
    (refused : ¬device.Admits capacities) : (allocateCapacity device capacities outcome).2 = device := by
  rw [allocateCapacity]
  split
  · rfl
  rename_i notBusy
  split
  · rfl
  rename_i some
  split
  · rfl
  rename_i state
  rw [allocateCapacityLegacy]
  split
  · rfl
  split
  · rfl
  rename_i valid
  simp only [Bool.not_eq_true] at notBusy
  simp only [Bool.or_eq_true, Bool.not_eq_true', not_or, Bool.not_eq_false, Bool.not_eq_true] at state
  exact absurd ⟨notBusy, some, state.1, state.2, valid⟩ refused

theorem cleanUp_blocked (unlocked : device.isLocked = false) (enabled : device.isDisabled = false)
    {propTable : PropertyMap} {held : Device}
    (holds : held = { device with propTable, propertySetAccess := true }) (some : capacities ≠ []) :
    cleanUp held capacities outcome = (false, held) := by
  have locked' : held.isLocked = false := by rw [holds]; exact unlocked
  have enabled' : held.isDisabled = false := by rw [holds]; exact enabled
  have access : held.propertySetAccess = true := by rw [holds]
  rw [cleanUp, if_neg some, deallocateCapacity, locked', enabled', deallocateCapacityLegacy, access]
  rfl

theorem legacy_allOrNothing_iff (device : Device) (capacities : Properties) (outcome : Nat → SetOutcome) :
    AllOrNothing device (allocateCapacity device capacities outcome).1.Fails
        (allocateCapacity device capacities outcome).2 ↔
      (device.Admits capacities → device.propertySetAccess = false → Granted device capacities →
        (∀ i < capacities.length, outcome i ≠ .completes) → SetsNothing capacities outcome) := by
  by_cases admits : device.Admits capacities
  · have everything := admits
    obtain ⟨notBusy, some, unlocked, enabled, valid⟩ := admits
    rw [allocateCapacity, notBusy, unlocked, enabled, allocateCapacityLegacy, valid]
    simp only [Bool.false_eq_true, if_false, if_neg some, Bool.not_true, Bool.or_self, notBusy]
    cases access : device.propertySetAccess with
    | true => exact iff_of_true (by rintro ⟨⟩) (by rintro _ ⟨⟩)
    | false =>
        cases granted : reserve capacities capacities (query device.propTable) with
        | raised | insufficient =>
            refine iff_of_true (fun _ => rfl) fun _ _ grants => ?_
            obtain ⟨list, same⟩ := grants
            rw [granted] at same
            cases same
        | allocations list =>
            have grants : Granted device capacities := ⟨list, granted⟩
            have length : list.length = capacities.length := by
              rw [← (reserve_values granted).1, length_map]
            obtain ⟨cleanup, invalid⟩ := @applyAllocations_lists outcome list 0 device.propTable
            simp only [Nat.zero_add, length] at cleanup invalid
            simp only
            by_cases done : (applyAllocations outcome list 0 device.propTable).invalidProperties = []
            · rw [if_neg (not_not.mpr done)]
              refine iff_of_true (by rintro ⟨⟩) fun _ _ _ fails => ?_
              have nonempty := length_pos_iff.mpr some
              exact absurd (invalid.mp done 0 nonempty) (fails 0 nonempty)
            · rw [if_pos done]
              by_cases nothing : (applyAllocations outcome list 0 device.propTable).cleanup = []
              · have fails := cleanup.mp nothing
                have entries := @applyAllocations_settled outcome list 0
                  (by rw [length]; simpa only [Nat.zero_add] using fails) device.propTable
                rw [cleanUp, if_pos nothing]
                have same := (@observed_eq_iff device { device with
                  propTable := (applyAllocations outcome list 0 device.propTable).propTable
                  propertySetAccess := false } _ entries rfl).trans (settled_iff valid granted)
                exact ⟨fun all _ _ _ _ => same.mp (all trivial),
                  fun nothingSet _ => same.mpr (nothingSet everything trivial grants fails)⟩
              · have locked : device.isLocked = false := by
                  rw [isUnlocked, beq_iff_eq] at unlocked
                  rw [isLocked, unlocked]
                  rfl
                rw [cleanUp_blocked locked enabled rfl nothing]
                exact iff_of_true (by rintro ⟨⟩) fun _ _ _ fails => absurd (cleanup.mpr fails) nothing
  · rw [allocateCapacity_refused admits]
    exact iff_of_true (fun _ => rfl) fun admitted => absurd admitted admits

end Legacy

/-- An allocation is all or nothing: a legacy one but where every step of a request that can be met
raises, and what was set before that is something; one with callbacks that can be undone, where the one
that fails leaves the device as it found it, and, if they are exact, only there. -/
theorem allocation_allOrNothing_iff (device : Device) (capacities : Properties) :
    (∀ outcome, AllOrNothing device (allocateCapacity device capacities outcome).1.Fails
        (allocateCapacity device capacities outcome).2 ↔
      (device.Admits capacities → device.propertySetAccess = false → Granted device capacities →
        (∀ i < capacities.length, outcome i ≠ .completes) → SetsNothing capacities outcome)) ∧
    ∀ impl : AllocationImpl, impl.Reversible →
      ((device.Admits capacities → impl.LeavesAsFound capacities device) →
        AllOrNothing device (impl.allocateCapacity device capacities).1.Fails
          (impl.allocateCapacity device capacities).2) ∧
      (impl.Exact → AllOrNothing device (impl.allocateCapacity device capacities).1.Fails
          (impl.allocateCapacity device capacities).2 →
        device.Admits capacities → impl.LeavesAsFound capacities device) :=
  ⟨legacy_allOrNothing_iff device capacities,
    fun _ reversible => AllocationImpl.allOrNothing_iff reversible device capacities⟩

def bookless : AllocationImpl := fun id =>
  { fromAny := fun _ => true
    allocator := some fun _ device => (if id = "streams" then .declined else .accepted, device)
    deallocator := some fun _ device => (.done, device) }

def bookless_reversible : bookless.Reversible where
  held base _ now := now = base
  nothing _ _ := Iff.rfl
  takes base capacities capacity device after held accepted := by
    have same : after = device := (congrArg Prod.snd accepted).symm
    rw [same]
    exact held
  gives _ _ _ _ held := held
  ends _ _ := nofun
  adminState _ _ := ⟨rfl, rfl⟩
  operationalState _ _ := ⟨rfl, rfl⟩
  properties _ _ _ := rfl

theorem bookless_allOrNothing :
    AllOrNothing (start tens .UNLOCKED .ENABLED)
      (bookless.allocateCapacity (start tens .UNLOCKED .ENABLED)
        (amount "memory" 3 ++ amount "streams" 4)).1.Fails
      (bookless.allocateCapacity (start tens .UNLOCKED .ENABLED)
        (amount "memory" 3 ++ amount "streams" 4)).2 :=
  ((allocation_allOrNothing_iff (start tens .UNLOCKED .ENABLED)
    (amount "memory" 3 ++ amount "streams" 4)).2 bookless bookless_reversible).1 fun _ => rfl

/-- A listener raises after the value was set: the call raises, and 7 of 10 are left. -/
theorem listener_keeps_allocation :
    ¬AllOrNothing (start tens .UNLOCKED .ENABLED)
      (allocateCapacity (start tens .UNLOCKED .ENABLED) (amount "memory" 3) fun _ => .raisesAfter).1.Fails
      (allocateCapacity (start tens .UNLOCKED .ENABLED) (amount "memory" 3) fun _ => .raisesAfter).2 := by
  intro all
  have reply : (allocateCapacity (start tens .UNLOCKED .ENABLED) (amount "memory" 3)
      fun _ => .raisesAfter).1 =
      .raised (.InvalidCapacity "Cannot allocate capacity" (amount "memory" 3)) := by decide +kernel
  have same := all (by rw [reply]; trivial)
  revert same
  decide +kernel

end Redhawk.Capacity
