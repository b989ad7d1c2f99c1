import Redhawk.Allocation.DeviceRequests
import Mathlib.Algebra.BigOperators.Group.Multiset.Basic

/-!
The allocation manager: batches of requests served by the devices of the domain and then by other
domains, and deallocation by identifier. Beside its tables the state holds, as a ghost, what every
device was left holding on its behalf.
-/

namespace Redhawk.Allocation

structure AllocationType where
  requestingDomain : String
  sourceID : String
  allocationProperties : Properties
  allocatedDevice : DeviceRef
  allocationDeviceManager : Nat
  deriving DecidableEq, Repr

structure Response where
  requestID : String
  allocationID : Nat
  allocationProperties : Properties
  allocatedDevice : DeviceRef
  allocationDeviceManager : Nat
  deriving DecidableEq, Repr

/-- A remote allocation is deallocated through the manager that made it. -/
structure RemoteAllocationType where
  requestingDomain : String
  allocationProperties : Properties
  allocatedDevice : DeviceRef
  allocationDeviceManager : Nat
  allocationManager : Nat
  deriving DecidableEq, Repr

/-- The tables, keyed by allocation identifier. `nextID` stands for `generateUUID`: it issues an
identifier that this manager has not issued before. -/
structure AllocationManager where
  held : Multiset (DeviceRef × Properties)
  allocations : List (Nat × AllocationType)
  remoteAllocations : List (Nat × RemoteAllocationType)
  nextID : Nat

def AllocationManager.empty : AllocationManager := ⟨0, [], [], 0⟩

inductive Outcome (α : Type) where
  | returned (value : α)
  | raised
  | undefined

def setEntry {α : Type} (table : List (Nat × α)) (id : Nat) (entry : α) : List (Nat × α) :=
  (id, entry) :: table.filter fun e => e.1 ≠ id

def eraseEntry {α : Type} (table : List (Nat × α)) (id : Nat) : List (Nat × α) :=
  table.filter fun e => e.1 ≠ id

def Call.apply (held : Multiset (DeviceRef × Properties)) : Call → Multiset (DeviceRef × Properties)
  | .allocated device properties => (device, properties) ::ₘ held
  | .deallocated device properties => held.erase (device, properties)

def applyCalls (calls : List Call) (held : Multiset (DeviceRef × Properties)) :
    Multiset (DeviceRef × Properties) :=
  calls.foldl Call.apply held

def requestedDeviceIDs (answers : Answers) : List (Option DeviceRef) → Option (List String)
  | [] => some []
  | none :: rest => requestedDeviceIDs answers rest
  | some device :: rest =>
    match answers.identifier device with
    | none => none
    | some identifier => (requestedDeviceIDs answers rest).map (identifier :: ·)

inductive Served where
  | raised
  | undefined
  | unserved
  | satisfied (node : DeviceNode) (allocatedProperties : Properties)
  deriving DecidableEq, Repr

def serveRequest (devices : List DeviceNode) (request : Request) (answers : Answers) :
    Served × List Call :=
  match requestedDeviceIDs answers request.requestedDevices with
  | none => (.raised, [])
  | some requested =>
    if requested.length ≠ request.requestedDevices.length then (.unserved, [])
    else
      match devicesTried requested devices with
      | none => (.undefined, [])
      | some tried =>
        let result := allocateRequest request.allocationProperties answers.device tried
        match result.1 with
        | none => (.raised, result.2)
        | some none => (.unserved, result.2)
        | some (some (node, allocated)) => (.satisfied node allocated, result.2)

def assembleResponse (requestID : String) (allocation : Nat × AllocationType) : Response :=
  { requestID := requestID
    allocationID := allocation.1
    allocationProperties := allocation.2.allocationProperties
    allocatedDevice := allocation.2.allocatedDevice
    allocationDeviceManager := allocation.2.allocationDeviceManager }

namespace AllocationManager

def recordLocal (manager : AllocationManager) (localAllocations : List (Nat × AllocationType)) :
    AllocationManager :=
  { manager with
    allocations := localAllocations.foldl (fun table a => setEntry table a.1 a.2)
      manager.allocations }

/-- The loop of `allocateDevices` over the rest of the batch. What has been allocated is only
recorded behind it, so an exception in it loses that. -/
def allocateLoop (devices : List DeviceNode) (domainName : String) :
    List (Request × Answers) → List (Nat × AllocationType) → List Response → AllocationManager →
      Outcome (List Response) × AllocationManager
  | [], localAllocations, response, manager =>
    (.returned response, manager.recordLocal localAllocations)
  | (request, answers) :: rest, localAllocations, response, manager =>
    let served := serveRequest devices request answers
    let manager := { manager with held := applyCalls served.2 manager.held }
    match served.1 with
    | .raised => (.raised, manager)
    | .undefined => (.undefined, manager)
    | .unserved => allocateLoop devices domainName rest localAllocations response manager
    | .satisfied node allocated =>
      let allocation := (manager.nextID,
        { requestingDomain := domainName
          sourceID := request.sourceID
          allocationProperties := allocated
          allocatedDevice := node.device
          allocationDeviceManager := node.deviceManager : AllocationType })
      allocateLoop devices domainName rest (localAllocations ++ [allocation])
        (response ++ [assembleResponse request.requestID allocation])
        { manager with nextID := manager.nextID + 1 }

def allocateLocal (devices : List DeviceNode) (domainName : String)
    (requests : List (Request × Answers)) (manager : AllocationManager) :
    Outcome (List Response) × AllocationManager :=
  if requests = [] then (.returned [], manager)
  else allocateLoop devices domainName requests [] [] manager

def unfilledRequests (requests : List Request) (result : List Response) : List Request :=
  requests.filter fun request => !result.any fun response => response.requestID == request.requestID

def recordRemote (domainName : String) (allocationManager : Nat) (manager : AllocationManager)
    (response : Response) : AllocationManager :=
  { manager with
    remoteAllocations := setEntry manager.remoteAllocations response.allocationID
      { requestingDomain := domainName
        allocationProperties := response.allocationProperties
        allocatedDevice := response.allocatedDevice
        allocationDeviceManager := response.allocationDeviceManager
        allocationManager := allocationManager } }

/-- The loop over the other domains, each given by its manager and by what that answers to
`allocateLocal`, which is `none` where a call to the domain raises. -/
def remoteLoop (requests : Nat) (domainName : String) :
    List (Nat × (List Request → Option (List Response))) → List Request → List Response →
      AllocationManager → Outcome (List Response) × AllocationManager
  | [], _, result, manager => (.returned result, manager)
  | (allocationManager, answer) :: rest, remaining, result, manager =>
    if result.length = requests then (.returned result, manager)
    else
      let remaining := unfilledRequests remaining result
      match answer remaining with
      | none => (.raised, manager)
      | some newResult =>
        remoteLoop requests domainName rest remaining (result ++ newResult)
          (newResult.foldl (recordRemote domainName allocationManager) manager)

def allocate (devices : List DeviceNode) (domainName : String)
    (remotes : List (Nat × (List Request → Option (List Response))))
    (requests : List (Request × Answers)) (manager : AllocationManager) :
    Outcome (List Response) × AllocationManager :=
  let served := allocateLocal devices domainName requests manager
  match served.1 with
  | .raised => (.raised, served.2)
  | .undefined => (.undefined, served.2)
  | .returned result =>
    if result.length ≠ requests.length then
      remoteLoop requests.length domainName remotes (requests.map Prod.fst) result served.2
    else (.returned result, served.2)

end AllocationManager

structure ReleaseAnswers where
  objectExists : Bool
  deallocateCapacity : Nat → Bool

def releaseCalls (device : DeviceRef) (answers : ReleaseAnswers) : Nat → List Properties → List Call
  | _, [] => []
  | index, properties :: rest =>
    (if answers.deallocateCapacity index then [.deallocated device properties] else []) ++
      releaseCalls device answers (index + 1) rest

namespace AllocationManager

def deallocateLocal (manager : AllocationManager) (answers : ReleaseAnswers) (allocationID : Nat) :
    Option AllocationManager :=
  match manager.allocations.lookup allocationID with
  | none => none
  | some localAlloc =>
    let allocations := partitionProperties localAlloc.allocationProperties
    let calls := if answers.objectExists
      then releaseCalls localAlloc.allocatedDevice answers 0 allocations else []
    some { manager with
      held := applyCalls calls manager.held
      allocations := eraseEntry manager.allocations allocationID }

def deallocateRemote (manager : AllocationManager) (allocationID : Nat) : Option AllocationManager :=
  match manager.remoteAllocations.lookup allocationID with
  | none => none
  | some _ =>
    some { manager with remoteAllocations := eraseEntry manager.remoteAllocations allocationID }

def deallocateSingle (manager : AllocationManager) (answers : ReleaseAnswers)
    (allocationID : Nat) : Option AllocationManager :=
  match manager.deallocateLocal answers allocationID with
  | some after => some after
  | none => manager.deallocateRemote allocationID

/-- The manager after the identifiers are deallocated, and those that it did not know, which it
names in the exception it raises if there are any. -/
def deallocate (answers : Nat → ReleaseAnswers) :
    List Nat → AllocationManager → List Nat × AllocationManager
  | [], manager => ([], manager)
  | allocationID :: rest, manager =>
    match manager.deallocateSingle (answers allocationID) allocationID with
    | some after => deallocate answers rest after
    | none =>
      let next := deallocate answers rest manager
      (allocationID :: next.1, next.2)

end AllocationManager

end Redhawk.Allocation
