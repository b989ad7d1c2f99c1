import Redhawk.Deployment.SoftPkgs
import Redhawk.Library.Grants

/-!
The deployments that `createHelper` fills in when it places components, what it keeps for itself while
it does, and its requests for a device.
-/

namespace Redhawk.Deployment

open Redhawk.Library

structure UsesDeviceAssignment where
  usesDevice : UsesDevice
  assignedDevice : DeviceRef

structure Component where
  identifier : String
  instantiationId : String
  softpkg : SoftPkg
  deviceRequires : PropertyMap

structure ComponentDeployment extends Component where
  implementation : Option Implementation
  assignedDevice : Option DeviceNode
  usesDeviceAssignments : List UsesDeviceAssignment
  dependencies : List SoftPkgDeployment
  nicAssignment : Option String

def createComponentDeployment (component : Component) : ComponentDeployment :=
  ⟨component, none, none, [], [], none⟩

/-- What an allocation is made for: a usesdevice, of the component or of one of its implementations, or
the deployment itself, in one of the attempts at it. -/
inductive Purpose
  | usesDevice (implementation : Option Nat) (requestID : String)
  | deployment (attempt : Nat)
deriving DecidableEq

structure CreateHelper where
  registeredDevices : List DeviceNode
  executableDevices : List DeviceNode
  /-- What the allocation manager holds, for this application and for others. -/
  allocator : Grants Purpose
  /-- What is released when the application is not created after all. -/
  allocations : List Nat

def rotateDeviceList (devices : List DeviceNode) (identifier : String) : List DeviceNode :=
  let position := devices.findIdx fun node => node.identifier == identifier
  devices.drop position ++ devices.take position

/-- The devices that have the capacity for a request; `none` where the request raises. -/
abbrev DeviceAnswer := Option (DeviceNode → Bool)

/-- What a device says of the NIC that was allocated on it; `none` where it does not answer. -/
abbrev NicAnswer := Option (Option String)

inductive AllocationResult
  | raised
  | refused
  | granted (allocationID : Nat) (node : DeviceNode)

section AllocateDeployment

variable (processorDeps : List String) (osDeps : List NameVersionPair) (deviceRequires : PropertyMap)

def matchesDevice (node : DeviceNode) : Bool :=
  checkProcessor processorDeps node.prf && checkOs osDeps node.prf &&
    node.requiresProps.equals deviceRequires

def allocateRequest (capacity : DeviceNode → Bool) (devices : List DeviceNode) : Option DeviceNode :=
  devices.find? fun node => matchesDevice processorDeps osDeps deviceRequires node && capacity node

def allocateDeployment (purpose : Purpose) (answer : DeviceAnswer) (devices : List DeviceNode)
    (allocator : Grants Purpose) : AllocationResult × Grants Purpose :=
  match answer with
  | none => (.raised, allocator)
  | some capacity =>
    match allocateRequest processorDeps osDeps deviceRequires capacity devices with
    | none => (.refused, allocator)
    | some node => (.granted allocator.next node, allocator.grant [purpose])

end AllocateDeployment

end Redhawk.Deployment
