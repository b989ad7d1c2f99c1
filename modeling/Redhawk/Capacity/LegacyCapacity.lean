import Redhawk.Capacity.AnyCapacity
import Mathlib.Data.List.Nodup

/-!
`Device_impl` as far as its legacy capacity calls read and write it.
-/

namespace Redhawk.Capacity

structure DataType where
  id : String
  value : Any
deriving DecidableEq

abbrev Properties := List DataType

structure Property where
  id : String
  mode : String
  kinds : List String
  action : String
  value : Any
deriving DecidableEq

def Property.isAllocatable (property : Property) : Bool :=
  property.kinds.contains "allocation"

def Property.isQueryable (property : Property) : Bool :=
  property.mode != "writeonly" &&
    property.kinds.any fun kind => kind == "property" || kind == "configure" ||
      kind == "execparam" || (kind == "allocation" && property.action == "external")

structure PropertyMap where
  entries : List Property
  unique : (entries.map Property.id).Nodup

def getPropertyFromId (propTable : PropertyMap) (id : String) : Option Property :=
  propTable.entries.find? fun property => property.id == id

def assign (id : String) (value : Any) (property : Property) : Property :=
  if property.id == id then { property with value } else property

@[simp] theorem assign_id (id : String) (value : Any) (property : Property) :
    (assign id value property).id = property.id := by
  unfold assign
  split <;> rfl

def PropertyMap.setValue (propTable : PropertyMap) (id : String) (value : Any) : PropertyMap where
  entries := propTable.entries.map (assign id value)
  unique := by
    have ids : (propTable.entries.map (assign id value)).map Property.id = propTable.entries.map Property.id := by
      simp [Function.comp_def]
    rw [ids]
    exact propTable.unique

inductive UsageType
  | IDLE
  | ACTIVE
  | BUSY
deriving DecidableEq

inductive AdminType
  | LOCKED
  | SHUTTING_DOWN
  | UNLOCKED
deriving DecidableEq

inductive OperationalType
  | ENABLED
  | DISABLED
deriving DecidableEq

structure Device where
  propTable : PropertyMap
  originalCap : Properties
  usageState : UsageType
  adminState : AdminType
  operationalState : OperationalType
  /-- A call that never returns still holds the mutex `propertySetAccess`. -/
  propertySetAccess : Bool

variable (device : Device)

def Device.isBusy : Bool := device.usageState == .BUSY

def Device.isIdle : Bool := device.usageState == .IDLE

def Device.isLocked : Bool := device.adminState == .LOCKED

def Device.isUnlocked : Bool := device.adminState == .UNLOCKED

def Device.isDisabled : Bool := device.operationalState == .DISABLED

def originalCapacities (propTable : PropertyMap) : Properties :=
  (propTable.entries.filter Property.isAllocatable).map fun property => ⟨property.id, property.value⟩

def Device.start (propTable : PropertyMap) (adminState : AdminType)
    (operationalState : OperationalType) : Device where
  propTable := propTable
  originalCap := originalCapacities propTable
  usageState := .IDLE
  adminState := adminState
  operationalState := operationalState
  propertySetAccess := false

inductive Exception
  | InvalidCapacity (msg : String) (capacities : Properties)
  | InvalidState (msg : String)
deriving DecidableEq

inductive Reply
  | returned (result : Bool)
  | done
  | raised (exception : Exception)
  /-- The call waits for a mutex that is never released. -/
  | blocked
deriving DecidableEq

/-- What `setValue`, the listeners and callbacks of a property, and its event port do. -/
inductive SetOutcome
  | completes
  | raisesBefore
  | raisesAfter
deriving DecidableEq

def store (outcome : SetOutcome) (id : String) (value : Any) (propTable : PropertyMap) : PropertyMap :=
  match outcome with
  | .completes | .raisesAfter => propTable.setValue id value
  | .raisesBefore => propTable

def validateCapacities (propTable : PropertyMap) (capacities : Properties) : Option Exception :=
  let unknownProperties := capacities.filter fun capacity =>
    (getPropertyFromId propTable capacity.id).isNone
  let nonAllocProperties := capacities.filter fun capacity =>
    (getPropertyFromId propTable capacity.id).any fun property => !property.isAllocatable
  if unknownProperties ≠ [] then some (.InvalidCapacity "Unknown properties" unknownProperties)
  else if nonAllocProperties ≠ [] then
    some (.InvalidCapacity "Not allocatable" nonAllocProperties)
  else none

def query (propTable : PropertyMap) : Properties :=
  (propTable.entries.filter Property.isQueryable).map fun property => ⟨property.id, property.value⟩

def replaceFirst (id : String) (value : Any) : Properties → Properties
  | [] => []
  | capacity :: rest =>
    if capacity.id = id then { capacity with value } :: rest
    else capacity :: replaceFirst id value rest

structure Allocation where
  request : DataType
  newAlloc : DataType
deriving DecidableEq

inductive Reserved
  | allocations (list : List Allocation)
  | insufficient
  | raised (exception : Exception)
deriving DecidableEq

def reserve (capacities : Properties) : Properties → Properties → Reserved
  | [], _ => .allocations []
  | request :: rest, currentCapacities =>
    match currentCapacities.find? fun current => current.id == request.id with
    | none =>
      .raised (.InvalidCapacity "Cannot allocate capacity. Invalid property ID" capacities)
    | some current =>
      if !isValidType current.value request.value then
        .raised (.InvalidCapacity "Cannot allocate capacity. Incorrect Data Type." capacities)
      else
        match allocate current.value request.value with
        | none => .insufficient
        | some left =>
          match reserve capacities rest (replaceFirst request.id left currentCapacities) with
          | .allocations list => .allocations (⟨request, { current with value := left }⟩ :: list)
          | failed => failed

structure Applied where
  propTable : PropertyMap
  invalidProperties : Properties
  cleanup : Properties

/-- The loop that applies the allocations; `outcome` says what happens at each of them. -/
def applyAllocations (outcome : Nat → SetOutcome) : List Allocation → Nat → PropertyMap → Applied
  | [], _, propTable => ⟨propTable, [], []⟩
  | allocation :: rest, ii, propTable =>
    let later := applyAllocations outcome rest (ii + 1)
      (store (outcome ii) allocation.request.id allocation.newAlloc.value propTable)
    if outcome ii = .completes then { later with cleanup := allocation.request :: later.cleanup }
    else { later with invalidProperties := allocation.request :: later.invalidProperties }

structure Released where
  propTable : PropertyMap
  overCaps : Properties
  invalidProps : Properties
  deallocations : List String

/-- The loop over the capacities to deallocate. The exception it may raise leaves the values that
were already set. -/
def release (capacities originalCap : Properties) (outcome : Nat → SetOutcome) :
    Properties → Nat → Released → Option Exception × Released
  | [], _, released => (none, released)
  | request :: rest, ii, released =>
    match getPropertyFromId released.propTable request.id with
    -- `validateCapacities` has found the property
    | none => release capacities originalCap outcome rest (ii + 1) released
    | some property =>
      if !isValidType property.value request.value then
        (some (.InvalidCapacity "Cannot deallocate capacity. Incorrect Data Type." capacities), released)
      else
        let newValue := deallocate property.value request.value
        let exceeded := originalCap.filter fun original =>
          original.id == request.id && compareAnys newValue original.value == .FIRST_BIGGER
        if exceeded ≠ [] then
          release capacities originalCap outcome rest (ii + 1)
            { released with
              overCaps := released.overCaps ++ List.replicate exceeded.length request }
        else
          release capacities originalCap outcome rest (ii + 1)
            { released with
              propTable := store (outcome ii) request.id newValue released.propTable
              invalidProps := if outcome ii = .completes then released.invalidProps
                else released.invalidProps ++ [request]
              deallocations := released.deallocations ++ [request.id] }

def totalCap (originalCap : Properties) (propTable : PropertyMap) (ids : List String) : Bool :=
  !ids.any fun id => originalCap.any fun original => original.id == id &&
    (getPropertyFromId propTable id).any fun property =>
      compareAnys property.value original.value == .SECOND_BIGGER

variable (capacities : Properties)

def deallocateCapacityLegacy (outcome : Nat → SetOutcome) : Reply × Device :=
  if device.propertySetAccess then (.blocked, device)
  else
    match validateCapacities device.propTable capacities with
    | some invalid => (.raised invalid, device)
    | none =>
      if device.isIdle then
        (.raised (.InvalidCapacity "Cannot deallocate capacity. System is IDLE." capacities), device)
      else
        let result := release capacities device.originalCap outcome capacities 0
          ⟨device.propTable, [], [], []⟩
        match result.1 with
        | some invalid => (.raised invalid, { device with propTable := result.2.propTable })
        | none =>
          let released := result.2
          let after := { device with
            propTable := released.propTable
            usageState := if totalCap device.originalCap released.propTable released.deallocations
              then .IDLE else .ACTIVE }
          if released.invalidProps ≠ [] then
            (.raised (.InvalidCapacity "Invalid capacity allocation Ids" released.invalidProps), after)
          else if released.overCaps ≠ [] then
            (.raised (.InvalidCapacity "Following properties exceeded original bounds" released.overCaps), after)
          else (.done, after)

def deallocateCapacity (outcome : Nat → SetOutcome) : Reply × Device :=
  if device.isLocked then (.raised (.InvalidState "LOCKED"), device)
  else if device.isDisabled then (.raised (.InvalidState "DISABLED"), device)
  else deallocateCapacityLegacy device capacities outcome

def cleanUp (outcome : Nat → SetOutcome) : Bool × Device :=
  if capacities = [] then (true, device)
  else
    let result := deallocateCapacity device capacities outcome
    (result.1 != .blocked, result.2)

def allocateCapacityLegacy (outcome : Nat → SetOutcome) : Reply × Device :=
  if device.propertySetAccess then (.blocked, device)
  else
    match validateCapacities device.propTable capacities with
    | some invalid => (.raised invalid, device)
    | none =>
      if device.isBusy then (.returned false, device)
      else
        match reserve capacities capacities (query device.propTable) with
        | .raised invalid => (.raised invalid, device)
        | .insufficient => (.returned false, device)
        | .allocations allocations =>
          let extraCap := allocations.any fun allocation =>
            compareAnyToZero allocation.newAlloc.value == .POSITIVE
          let applied := applyAllocations outcome allocations 0 device.propTable
          if applied.invalidProperties ≠ [] then
            -- the mutex is released only after the helper has cleaned up
            let cleaned := cleanUp
              { device with propTable := applied.propTable, propertySetAccess := true }
              applied.cleanup outcome
            if cleaned.1 then
              (.raised (.InvalidCapacity "Cannot allocate capacity" applied.invalidProperties),
                { cleaned.2 with propertySetAccess := false })
            else (.blocked, cleaned.2)
          else
            (.returned true,
              { device with
                propTable := applied.propTable
                usageState := if extraCap then .ACTIVE else .BUSY })

def allocateCapacity (outcome : Nat → SetOutcome) : Reply × Device :=
  if device.isBusy then (.returned false, device)
  else if capacities = [] then (.returned true, device)
  else if !device.isUnlocked || device.isDisabled then
    (.raised (.InvalidState (if device.isLocked then "LOCKED"
      else if device.isDisabled then "DISABLED" else "SHUTTING_DOWN")), device)
  else allocateCapacityLegacy device capacities outcome

end Redhawk.Capacity
