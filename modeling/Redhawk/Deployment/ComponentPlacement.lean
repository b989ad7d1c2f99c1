import Redhawk.Deployment.ComponentDeployments
import Redhawk.Library.SearchLoops

/-!
The placement of one component: `allocateComponent`, which tries the implementations of the component in
their order, and what it calls for each of them.
-/

namespace Redhawk.Deployment

open Redhawk.Library

structure AllocationResponse where
  requestID : String
  allocatedDevice : DeviceRef
  /-- The device answers when it is asked for its identifier. -/
  answers : Bool

/-- How the allocation manager answers a request for usesdevices. It can raise, where another domain
cannot be reached, when requests have already been granted. -/
inductive UsesDeviceAnswer
  | raised (granted : List String)
  | answered (responses : List AllocationResponse)

/-- What the responses leave of the usesdevices, and how many were recorded by the end or by the response
whose device did not answer. -/
structure Reconciled where
  recorded : Nat
  raised : Bool
  unassigned : List UsesDevice
  assignments : List UsesDeviceAssignment

def usesDeviceMap (usesDevices : List UsesDevice) : List UsesDevice :=
  usesDevices.foldl (fun map uses => map.filter (fun other => other.id != uses.id) ++ [uses]) []

def reconcile (map : List UsesDevice) : List AllocationResponse → Reconciled
  | [] => ⟨0, false, map, []⟩
  | response :: rest =>
    match map.find? fun uses => uses.id == response.requestID with
    | none =>
      let behind := reconcile map rest
      { behind with recorded := behind.recorded + 1 }
    | some uses =>
      if response.answers then
        let behind := reconcile (map.filter fun other => other.id != response.requestID) rest
        { behind with
          recorded := behind.recorded + 1
          assignments := ⟨uses, response.allocatedDevice⟩ :: behind.assignments }
      else ⟨1, true, map, []⟩

inductive UsesDevices
  | raised
  | unsatisfied (deviceAssignments : List UsesDeviceAssignment)
  | satisfied (deviceAssignments : List UsesDeviceAssignment) (allocations : List Nat)

def allocateUsesDevices (purpose : String → Purpose) (answer : UsesDeviceAnswer)
    (usesDevices : List UsesDevice) (allocator : Grants Purpose) : UsesDevices × Grants Purpose :=
  match answer with
  | .raised granted => (.raised, allocator.grant (granted.map purpose))
  | .answered responses =>
    let purposes := responses.map fun response => purpose response.requestID
    let reconciled := reconcile (usesDeviceMap usesDevices) responses
    let localAllocations := (allocator.ids purposes).take reconciled.recorded
    let granted := allocator.grant purposes
    if reconciled.raised then (.raised, granted.revoke localAllocations)
    else if reconciled.unassigned.isEmpty then
      (.satisfied reconciled.assignments localAllocations, granted)
    else (.unsatisfied reconciled.assignments, granted.revoke localAllocations)

def getFailedUsesDevices (usesDevices : List UsesDevice)
    (assignedDevices : List UsesDeviceAssignment) : List String :=
  (usesDevices.filter fun uses =>
    !assignedDevices.any fun assignment => uses.id == assignment.usesDevice.id).map UsesDevice.id

inductive PlacementError
  | usesDeviceFailure (context : String) (ids : List String)
  | placementFailure (name message : String)
  | createApplicationRequestError (componentId assignedDeviceId : String)
  /-- From one of the calls that are made. -/
  | raised

/-- A component is to be placed, with how everything that is asked for it answers. What is asked for an
implementation is asked by its position. -/
structure PlacementRequest where
  assignedDeviceId : String
  profiles : List SoftPkg
  fuel : Nat
  componentUsesDevices : UsesDeviceAnswer
  usesDevices : Nat → UsesDeviceAnswer
  devices : Nat → DeviceAnswer
  nic : Nat → NicAnswer
  allDevicesBusy : Bool

def checkPartitionMatching (deviceRequires : PropertyMap) (node : DeviceNode) : Bool :=
  deviceRequires.equals node.requiresProps

def requestedDevices (assignedDeviceId : String) (component : Component)
    (registeredDevices : List DeviceNode) : Except PlacementError (List DeviceNode) :=
  let devices :=
    if component.deviceRequires.isEmpty then registeredDevices
    else eraseLoop (checkPartitionMatching component.deviceRequires) [] registeredDevices
  if !component.deviceRequires.isEmpty && devices.isEmpty then
    .error (.placementFailure ("component " ++ component.instantiationId)
      "failed to satisfy devicerequires specification.")
  else if assignedDeviceId.isEmpty then .ok devices
  else
    match devices.find? fun node => assignedDeviceId == node.identifier with
    | none => .error (.createApplicationRequestError component.identifier assignedDeviceId)
    | some node => .ok [node]

/-- The state of the loop; `assignedDevices` are those of the component that the deployment has not
got yet. -/
structure Placing where
  helper : CreateHelper
  deployment : ComponentDeployment
  assignedDevices : List UsesDeviceAssignment

inductive PlacementOutcome
  | placed
  | failed (error : PlacementError)
  /-- The dependencies are followed without end. -/
  | unending

namespace Placing

variable (state : Placing)

def withAllocator (allocator : Grants Purpose) : Placing :=
  { state with helper := { state.helper with allocator := allocator } }

def release (allocations : List Nat) : Placing :=
  state.withAllocator (state.helper.allocator.revoke allocations)

def setImplementation (implementation : Implementation) : Placing :=
  { state with deployment := { state.deployment with implementation := some implementation } }

def transferUsesDeviceAssignments : Placing :=
  { state with
    deployment := { state.deployment with
      usesDeviceAssignments := state.deployment.usesDeviceAssignments ++ state.assignedDevices }
    assignedDevices := [] }

def setAssignedDevice (node : DeviceNode) : Placing :=
  { state with deployment := { state.deployment with assignedDevice := some node } }

def addDependencies (dependencies : List SoftPkgDeployment) : Placing :=
  { state with deployment := { state.deployment with
      dependencies := state.deployment.dependencies ++ dependencies } }

def setNicAssignment (interface : Option String) : Placing :=
  { state with deployment := { state.deployment with
      nicAssignment := interface.orElse fun _ => state.deployment.nicAssignment } }

def keep (node : DeviceNode) (implAllocations : List Nat)
    (implAssignedDevices : List UsesDeviceAssignment) : Placing :=
  { state with
    helper := { state.helper with
      executableDevices := rotateDeviceList state.helper.executableDevices node.identifier
      allocations := state.helper.allocations ++ implAllocations }
    deployment := { state.deployment with
      usesDeviceAssignments := state.deployment.usesDeviceAssignments ++ implAssignedDevices } }

end Placing

inductive DeviceResponse
  | raised (error : PlacementError)
  | refused
  | granted (allocationID : Nat) (node : DeviceNode)

section Loop

variable (request : PlacementRequest)

def allocateComponentToDevice (implementation : Implementation) (index : Nat) (state : Placing) :
    DeviceResponse × Placing :=
  match requestedDevices request.assignedDeviceId state.deployment.toComponent
    state.helper.registeredDevices with
  | .error error => (.raised error, state)
  | .ok devices =>
    match allocateDeployment implementation.processorDeps implementation.osDeps
      state.deployment.deviceRequires (.deployment index) (request.devices index) devices
      state.helper.allocator with
    | (.raised, allocator) => (.raised .raised, state.withAllocator allocator)
    | (.refused, allocator) => (.refused, state.withAllocator allocator)
    | (.granted allocationID node, allocator) =>
      match request.nic index with
      | none => (.raised .raised, state.withAllocator allocator)
      | some interface =>
        (.granted allocationID node, (state.withAllocator allocator).setNicAssignment interface)

def resolveOnDevice (implementation : Implementation) (node : DeviceNode) (implAllocations : List Nat)
    (implAssignedDevices : List UsesDeviceAssignment) (state : Placing) :
    Option PlacementOutcome × Placing :=
  match resolveSoftpkgDependencies request.profiles node request.fuel
    ⟨state.deployment.softpkg, implementation⟩ with
  | none => (some .unending, state)
  | some (.raised added) =>
    (some (.failed .raised), (state.addDependencies added).release implAllocations)
  | some (.missed added) => (none, (state.addDependencies added).release implAllocations)
  | some (.met added) =>
    (some .placed, (state.addDependencies added).keep node implAllocations implAssignedDevices)

def deployImplementation (implementation : Implementation) (index : Nat) (implAllocations : List Nat)
    (implAssignedDevices : List UsesDeviceAssignment) (state : Placing) :
    Option PlacementOutcome × Placing :=
  match allocateComponentToDevice request implementation index
    (state.setImplementation implementation).transferUsesDeviceAssignments with
  | (.raised error, state) => (some (.failed error), state.release implAllocations)
  | (.refused, state) => (none, state.release implAllocations)
  | (.granted allocationID node, state) =>
    resolveOnDevice request implementation node (implAllocations ++ [allocationID])
      implAssignedDevices (state.setAssignedDevice node)

/-- One iteration of the loop; `none` is `continue`. -/
def tryImplementation (choice : Implementation × Nat) (state : Placing) :
    Option PlacementOutcome × Placing :=
  match allocateUsesDevices (.usesDevice (some choice.2)) (request.usesDevices choice.2)
    choice.1.usesDevice state.helper.allocator with
  | (.raised, allocator) => (some (.failed .raised), state.withAllocator allocator)
  | (.unsatisfied _, allocator) => (none, state.withAllocator allocator)
  | (.satisfied implAssignedDevices implAllocations, allocator) =>
    deployImplementation request choice.1 choice.2 implAllocations implAssignedDevices
      (state.withAllocator allocator)

def tryImplementations (state : Placing) : PlacementOutcome × Placing :=
  match firstOf (tryImplementation request) state.deployment.softpkg.implementations.zipIdx state with
  | (some outcome, last) => (outcome, last)
  | (none, last) =>
    (.failed (.placementFailure ("component " ++ state.deployment.instantiationId)
      (if request.allDevicesBusy then "all executable devices (GPPs) in the Domain are busy"
       else "failed to satisfy device dependencies")), last)

def allocateComponent (helper : CreateHelper) (deployment : ComponentDeployment) :
    PlacementOutcome × Placing :=
  match allocateUsesDevices (.usesDevice none) request.componentUsesDevices
    deployment.softpkg.usesDevice helper.allocator with
  | (.raised, allocator) =>
    (.failed .raised, ⟨{ helper with allocator := allocator }, deployment, []⟩)
  | (.unsatisfied assignedDevices, allocator) =>
    (.failed (.usesDeviceFailure ("component '" ++ deployment.instantiationId ++ "'")
      (getFailedUsesDevices deployment.softpkg.usesDevice assignedDevices)),
      ⟨{ helper with allocator := allocator }, deployment, []⟩)
  | (.satisfied assignedDevices allocations, allocator) =>
    tryImplementations request
      ⟨{ helper with allocator := allocator, allocations := helper.allocations ++ allocations },
        deployment, assignedDevices⟩

end Loop

end Redhawk.Deployment
