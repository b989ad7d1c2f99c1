import Redhawk.Capacity.CapacityLedger

/-!
Capacity calls of a device whose properties have allocation callbacks: `allocateCapacityNew` and
`deallocateCapacityNew` of `Device_impl`, and `allocate` and `deallocate` of `PropertyWrapper`.
-/

namespace Redhawk.Capacity

/-- How an allocation callback ends; `not_implemented_error` is the default's. -/
inductive Answer
  | accepted
  | declined
  | notImplemented
  | raised
deriving DecidableEq

/-- How a deallocation callback ends; an exception that is not a `std::exception` is not caught. -/
inductive Release
  | done
  | notImplemented
  | raised
  | raisedOther
deriving DecidableEq

structure Callbacks where
  fromAny : Any → Bool
  allocator : Option (Any → Device → Answer × Device)
  deallocator : Option (Any → Device → Release × Device)

abbrev AllocationImpl := String → Callbacks

namespace AllocationImpl

variable (impl : AllocationImpl)

def allocate (capacity : DataType) (device : Device) : Answer × Device :=
  if (impl capacity.id).fromAny capacity.value then
    match (impl capacity.id).allocator with
    | none => (.notImplemented, device)
    | some allocator => allocator capacity.value device
  else (.declined, device)

def deallocate (capacity : DataType) (device : Device) : Release × Device :=
  if (impl capacity.id).fromAny capacity.value then
    match (impl capacity.id).deallocator with
    | none => (.notImplemented, device)
    | some deallocator => deallocator capacity.value device
  else (.done, device)

end AllocationImpl

inductive Ending
  | reply (reply : Reply)
  | callback
deriving DecidableEq

namespace AllocationImpl

variable (impl : AllocationImpl)

/-- The loop of `deallocateCapacityNew`: whether it came to its end, and the capacities that raised. -/
def deallocateEach : Properties → Device → (Bool × Properties) × Device
  | [], device => ((true, []), device)
  | capacity :: rest, device =>
      match impl.deallocate capacity device with
      | (.raisedOther, after) => ((false, []), after)
      | (.raised, after) =>
          let ((ended, invalidProps), last) := deallocateEach rest after
          ((ended, capacity :: invalidProps), last)
      | (_, after) => deallocateEach rest after

def deallocateCapacityNew (device : Device) (capacities : Properties) : Ending × Device :=
  match validateCapacities device.propTable capacities with
  | some invalid => (.reply (.raised invalid), device)
  | none =>
      let ((ended, invalidProps), after) := impl.deallocateEach capacities device
      if ended then
        if invalidProps ≠ [] then
          (.reply (.raised (.InvalidCapacity
            "Error occurred during deallocation for the following properties" invalidProps)), after)
        else (.reply .done, after)
      else (.callback, after)

def deallocateCapacity (device : Device) (capacities : Properties) : Ending × Device :=
  if device.isLocked then (.reply (.raised (.InvalidState "LOCKED")), device)
  else if device.isDisabled then (.reply (.raised (.InvalidState "DISABLED")), device)
  else impl.deallocateCapacityNew device capacities

def cleanUp (device : Device) (capacities : Properties) : Device :=
  if capacities = [] then device else (impl.deallocateCapacity device capacities).2

/-- The loop of `allocateCapacityNew`: the capacities that were allocated, how it ended if not with all
of them, and the device. -/
def allocateEach : Properties → Device → Properties × Option Ending × Device
  | [], device => ([], none, device)
  | capacity :: rest, device =>
      match impl.allocate capacity device with
      | (.accepted, after) =>
          let (allocations, ending, last) := allocateEach rest after
          (capacity :: allocations, ending, last)
      | (.raised, after) => ([], some .callback, after)
      | (_, after) => ([], some (.reply (.returned false)), after)

def allocateCapacityNew (device : Device) (capacities : Properties) : Ending × Device :=
  match validateCapacities device.propTable capacities with
  | some invalid => (.reply (.raised invalid), device)
  | none =>
      match impl.allocateEach capacities device with
      | (_, none, after) => (.reply (.returned true), after)
      | (allocations, some ending, after) => (ending, impl.cleanUp after allocations)

def allocateCapacity (device : Device) (capacities : Properties) : Ending × Device :=
  if device.isBusy then (.reply (.returned false), device)
  else if capacities = [] then (.reply (.returned true), device)
  else if !device.isUnlocked || device.isDisabled then
    (.reply (.raised (.InvalidState (if device.isLocked then "LOCKED"
      else if device.isDisabled then "DISABLED" else "SHUTTING_DOWN"))), device)
  else impl.allocateCapacityNew device capacities

end AllocationImpl

def Device.observed (device : Device) : Properties × UsageType :=
  (originalCapacities device.propTable, device.usageState)

def Reply.Fails : Reply → Prop
  | .returned result => result = false
  | .raised _ => True
  | .done | .blocked => False

def Ending.Fails : Ending → Prop
  | .reply given => given.Fails
  | .callback => True

def AllOrNothing (device : Device) (fails : Prop) (after : Device) : Prop :=
  fails → after.observed = device.observed

namespace AllocationImpl

/-- What callbacks are written for: a deallocation undoes an allocation of the same capacity, those
taken first being given back first. `held` says what a device is like that had `base` and since has
taken `capacities`. Callbacks leave alone the states that the device is administered by, and which
properties there are. -/
structure Reversible (impl : AllocationImpl) where
  held : Properties × UsageType → Properties → Properties × UsageType → Prop
  nothing : ∀ base now, held base [] now ↔ now = base
  takes : ∀ base capacities capacity device after, held base capacities device.observed →
    impl.allocate capacity device = (.accepted, after) → held base (capacities ++ [capacity]) after.observed
  gives : ∀ base capacity capacities device, held base (capacity :: capacities) device.observed →
    held base capacities (impl.deallocate capacity device).2.observed
  ends : ∀ capacity device, (impl.deallocate capacity device).1 ≠ .raisedOther
  adminState : ∀ capacity device, (impl.allocate capacity device).2.adminState = device.adminState ∧
    (impl.deallocate capacity device).2.adminState = device.adminState
  operationalState : ∀ capacity device,
    (impl.allocate capacity device).2.operationalState = device.operationalState ∧
      (impl.deallocate capacity device).2.operationalState = device.operationalState
  properties : ∀ capacity device capacities,
    validateCapacities (impl.allocate capacity device).2.propTable capacities =
      validateCapacities device.propTable capacities

def Exact (impl : AllocationImpl) : Prop := ∀ capacity first second,
  (impl.deallocate capacity first).2.observed = (impl.deallocate capacity second).2.observed →
    first.observed = second.observed

def LeavesAsFound (impl : AllocationImpl) : Properties → Device → Prop
  | [], _ => True
  | capacity :: rest, device =>
      match impl.allocate capacity device with
      | (.accepted, after) => LeavesAsFound impl rest after
      | (_, after) => after.observed = device.observed

end AllocationImpl

structure Device.Admits (device : Device) (capacities : Properties) : Prop where
  notBusy : device.isBusy = false
  some : capacities ≠ []
  unlocked : device.isUnlocked = true
  enabled : device.isDisabled = false
  valid : validateCapacities device.propTable capacities = none

namespace AllocationImpl

variable {impl : AllocationImpl}

theorem deallocateEach_cons (ends : ∀ capacity device, (impl.deallocate capacity device).1 ≠ .raisedOther)
    (capacity : DataType) (rest : Properties) (device : Device) :
    (impl.deallocateEach (capacity :: rest) device).2 =
        (impl.deallocateEach rest (impl.deallocate capacity device).2).2 ∧
      (impl.deallocateEach (capacity :: rest) device).1.1 =
        (impl.deallocateEach rest (impl.deallocate capacity device).2).1.1 := by
  have ends := ends capacity device
  rw [deallocateEach]
  split
  · rename_i outcome
    rw [outcome] at ends
    exact absurd rfl ends
  · rename_i outcome
    rw [outcome]
    exact ⟨rfl, rfl⟩
  · rename_i outcome
    rw [outcome]
    exact ⟨rfl, rfl⟩

variable {capacities : Properties} {device : Device}

theorem Reversible.gives_back (reversible : impl.Reversible) {base : Properties × UsageType}
    (held : reversible.held base capacities device.observed) :
    (impl.deallocateEach capacities device).2.observed = base := by
  induction capacities generalizing device with
  | nil => exact (reversible.nothing base _).mp held
  | cons capacity rest ih =>
      rw [(deallocateEach_cons reversible.ends capacity rest device).1]
      exact ih (reversible.gives base capacity rest device held)

theorem Reversible.apart (reversible : impl.Reversible) (exact' : impl.Exact)
    {first second : Device} (same : (impl.deallocateEach capacities first).2.observed =
      (impl.deallocateEach capacities second).2.observed) : first.observed = second.observed := by
  induction capacities generalizing first second with
  | nil => exact same
  | cons capacity rest ih =>
      rw [(deallocateEach_cons reversible.ends capacity rest first).1,
        (deallocateEach_cons reversible.ends capacity rest second).1] at same
      exact exact' capacity first second (ih same)

theorem Reversible.allocateEach (reversible : impl.Reversible) {base : Properties × UsageType}
    (capacities : Properties) {taken : Properties}
    (held : reversible.held base taken device.observed) :
    (impl.allocateEach capacities device).2.2.adminState = device.adminState ∧
    (impl.allocateEach capacities device).2.2.operationalState = device.operationalState ∧
    (∀ others, validateCapacities (impl.allocateEach capacities device).2.2.propTable others =
      validateCapacities device.propTable others) ∧
    (∀ capacity ∈ (impl.allocateEach capacities device).1, capacity ∈ capacities) ∧
    ((impl.allocateEach capacities device).2.1 = none ∧ impl.LeavesAsFound capacities device ∨
      ∃ (ending : Ending) (found : Device),
        (impl.allocateEach capacities device).2.1 = some ending ∧ ending.Fails ∧
        reversible.held base (taken ++ (impl.allocateEach capacities device).1) found.observed ∧
        (impl.LeavesAsFound capacities device ↔
          (impl.allocateEach capacities device).2.2.observed = found.observed)) := by
  induction capacities generalizing taken device with
  | nil =>
      exact ⟨rfl, rfl, fun _ => rfl, fun _ member => absurd member List.not_mem_nil, .inl ⟨rfl, trivial⟩⟩
  | cons capacity rest ih =>
      have admin := (reversible.adminState capacity device).1
      have operational := (reversible.operationalState capacity device).1
      have properties := reversible.properties capacity device
      have takes := reversible.takes base taken capacity device
      -- a callback that does not accept has taken nothing, and found what those before it left
      have stops (ending : Ending) (after : Device) (fails : ending.Fails) :
          (∀ other ∈ ([] : Properties), other ∈ capacity :: rest) ∧
            (some ending = none ∧ after.observed = device.observed ∨
              ∃ (failure : Ending) (found : Device), some ending = some failure ∧ failure.Fails ∧
                reversible.held base (taken ++ []) found.observed ∧
                (after.observed = device.observed ↔ after.observed = found.observed)) := by
        refine ⟨fun _ member => absurd member List.not_mem_nil, .inr ⟨ending, device, rfl, fails, ?_, Iff.rfl⟩⟩
        rw [List.append_nil]
        exact held
      rw [AllocationImpl.allocateEach, LeavesAsFound]
      generalize impl.allocate capacity device = result at admin operational properties takes
      obtain ⟨answer, after⟩ := result
      cases answer with
      | accepted =>
          obtain ⟨admin', operational', properties', listed, outcome⟩ := ih (takes after held rfl)
          refine ⟨admin'.trans admin, operational'.trans operational,
            fun others => (properties' others).trans (properties others), ?_, ?_⟩
          · intro other member
            rcases List.mem_cons.mp member with rfl | later
            · exact List.mem_cons_self ..
            · exact List.mem_cons_of_mem _ (listed other later)
          · rw [List.append_assoc] at outcome
            exact outcome
      | declined => exact ⟨admin, operational, properties, stops _ after rfl⟩
      | notImplemented => exact ⟨admin, operational, properties, stops _ after rfl⟩
      | raised => exact ⟨admin, operational, properties, stops _ after trivial⟩

theorem cleanUp_deallocates (unlocked : device.isLocked = false) (enabled : device.isDisabled = false)
    (valid : validateCapacities device.propTable capacities = none) :
    impl.cleanUp device capacities = (impl.deallocateEach capacities device).2 := by
  rw [cleanUp]
  split
  · rename_i empty
    rw [empty]
    rfl
  · rw [deallocateCapacity, unlocked, enabled, deallocateCapacityNew, valid]
    simp only [Bool.false_eq_true, if_false]
    split <;> first | rfl | (split <;> rfl)

theorem allocateCapacity_refused
    (refused : ¬device.Admits capacities) : (impl.allocateCapacity device capacities).2 = device := by
  rw [allocateCapacity]
  split
  · rfl
  rename_i notBusy
  split
  · rfl
  rename_i some
  split
  · rfl
  rename_i state
  rw [allocateCapacityNew]
  split
  · rfl
  rename_i valid
  simp only [Bool.not_eq_true] at notBusy
  simp only [Bool.or_eq_true, Bool.not_eq_true', not_or, Bool.not_eq_false, Bool.not_eq_true] at state
  exact absurd ⟨notBusy, some, state.1, state.2, valid⟩ refused

theorem allocateCapacity_admitted (reversible : impl.Reversible) (admits : device.Admits capacities) :
    impl.allocateCapacity device capacities = match impl.allocateEach capacities device with
      | (_, none, after) => (.reply (.returned true), after)
      | (allocations, some ending, after) =>
          (ending, (impl.deallocateEach allocations after).2) := by
  obtain ⟨notBusy, some, unlocked, enabled, valid⟩ := admits
  rw [allocateCapacity, notBusy, unlocked, enabled, allocateCapacityNew, valid]
  simp only [Bool.false_eq_true, if_false, if_neg some, Bool.not_true, Bool.or_self]
  obtain ⟨admin, operational, properties, listed, -⟩ := reversible.allocateEach capacities
    ((reversible.nothing device.observed device.observed).mpr rfl)
  generalize impl.allocateEach capacities device = result at admin operational properties listed
  obtain ⟨allocations, _ | ending, after⟩ := result
  · rfl
  · have unlocked' : after.isLocked = false := by
      rw [Device.isLocked, admin]
      rw [Device.isUnlocked, beq_iff_eq] at unlocked
      rw [unlocked]
      rfl
    have enabled' : after.isDisabled = false := by
      rw [Device.isDisabled, operational]
      exact enabled
    have valid' : validateCapacities after.propTable allocations = none := by
      rw [properties, validateCapacities_none]
      exact fun capacity member => validateCapacities_none.mp valid capacity (listed capacity member)
    simp only [cleanUp_deallocates unlocked' enabled' valid']

theorem allOrNothing_iff (reversible : impl.Reversible) (device : Device) (capacities : Properties) :
    ((device.Admits capacities → impl.LeavesAsFound capacities device) →
      AllOrNothing device (impl.allocateCapacity device capacities).1.Fails
        (impl.allocateCapacity device capacities).2) ∧
    (impl.Exact → AllOrNothing device (impl.allocateCapacity device capacities).1.Fails
        (impl.allocateCapacity device capacities).2 →
      device.Admits capacities → impl.LeavesAsFound capacities device) := by
  by_cases admits : device.Admits capacities
  · rw [allocateCapacity_admitted reversible admits]
    obtain ⟨-, -, -, -, outcome⟩ := reversible.allocateEach capacities
      ((reversible.nothing device.observed device.observed).mpr rfl)
    generalize impl.allocateEach capacities device = result at outcome
    obtain ⟨allocations, ending, after⟩ := result
    rcases outcome with ⟨none, asFound⟩ | ⟨failure, found, some, fails, held, asFound⟩
    · obtain rfl : ending = Option.none := none
      exact ⟨fun _ failed => (nomatch failed), fun _ _ _ => asFound⟩
    · obtain rfl : ending = Option.some failure := some
      refine ⟨fun leaves _ => ?_, fun exact' all _ => asFound.mpr ?_⟩
      · have same := asFound.mp (leaves admits)
        rw [← same] at held
        exact reversible.gives_back held
      · exact reversible.apart exact' ((all fails).trans (reversible.gives_back held).symm)
  · rw [allocateCapacity_refused admits]
    exact ⟨fun _ _ => rfl, fun _ _ admitted => absurd admitted admits⟩

end AllocationImpl

end Redhawk.Capacity
