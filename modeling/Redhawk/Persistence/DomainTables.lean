import Redhawk.Connections.DomainConnections

/-!
The tables that a domain manager keeps, and what the `serialize` functions write of them.
-/

namespace Redhawk.Persistence

open Connections

structure DeviceManagerNode where
  identifier : String
  label : String
  deviceManager : ObjRef

structure ServiceNode where
  service : ObjRef
  deviceManagerId : String
  name : String
  serviceId : String
  deriving DecidableEq

structure ComponentNode where
  identifier : String
  name : String
  softwareProfile : String
  namingContext : String
  implementationId : String
  isVisible : Bool
  loadedFiles : List String
  processId : Nat
  componentObject : Option ObjRef
  assignedDeviceId : String
  componentHostId : String

structure ExternalPropertyType where
  property_id : String
  component : Option ObjRef
  access : String

structure ApplicationNode where
  name : String
  profile : String
  identifier : String
  contextName : String
  context : Option ObjRef
  componentDevices : List (String × String)
  components : List ComponentNode
  assemblyControllerId : String
  connections : ConnectionList
  allocationIDs : List String
  startOrder : List String
  ports : List (String × Option ObjRef)
  properties : List (String × ExternalPropertyType)
  aware_application : Bool
  stop_timeout : BitVec 32

structure AllocationType (Any : Type) where
  allocationID : String
  requestingDomain : String
  sourceID : String
  allocationProperties : List (String × Any)
  allocatedDevice : Option ObjRef
  allocationDeviceManager : Option ObjRef

structure RemoteAllocationType (Any : Type) extends AllocationType Any where
  allocationManager : Option ObjRef

/-- The tables in memory. `identifiers` are the `identifier__` of the uses and the provides endpoint
of the connection with a record id. -/
structure DomainState (Any : Type) where
  deviceManagers : List DeviceManagerNode
  services : List ServiceNode
  connections : DomainConnections
  identifiers : String → String × String
  runningApplications : List ApplicationNode
  allocations : List (String × AllocationType Any)
  remoteAllocations : List (String × RemoteAllocationType Any)

structure StoredService where
  name : String
  service : ObjRef
  deviceManagerId : String

inductive StoredEndpoint
  | plain (kind : EndpointKind) (object_ : Option ObjRef)
  | PortEndpoint (supplier_ : StoredEndpoint) (name_ : String) (object_ : Option ObjRef)

structure StoredConnection where
  uses : StoredEndpoint
  provides : StoredEndpoint
  identifier : String
  connected : Bool

structure StoredApplication where
  identifier : String
  name : String
  profile : String
  contextName : String
  context : Option ObjRef
  componentDevices : List (String × String)
  components : List ComponentNode
  assemblyControllerId : String
  allocationIDs : List String
  connections : List StoredConnection
  startOrder : List String
  ports : List (String × Option ObjRef)
  properties : List (String × ExternalPropertyType)

structure AnyText where
  kind : Nat
  structName : String
  value : String

/-- `save` and `load` of an `Any`; a text that cannot be converted back raises. -/
structure AnyCodec (Any : Type) where
  save : Any → AnyText
  load : AnyText → Option Any

structure StoredAllocation where
  allocationID : String
  requestingDomain : String
  allocationProperties : List (String × AnyText)
  allocatedDevice : Option ObjRef
  allocationDeviceManager : Option ObjRef

structure StoredRemoteAllocation extends StoredAllocation where
  allocationManager : Option ObjRef

structure Store where
  deviceManagers : List DeviceManagerNode
  services : List StoredService
  connections : Option (List (String × List StoredConnection))
  applications : Option (List StoredApplication)
  localAllocations : List (String × StoredAllocation)
  remoteAllocations : List (String × StoredRemoteAllocation)

/-- The class `ObjectrefEndpoint` is not exported to the archive, which refuses it. -/
def saveEndpoint : Endpoint → Option StoredEndpoint
  | .plain (.ObjectrefEndpoint _) _ => none
  | .plain kind object_ => some (.plain kind object_)
  | .PortEndpoint supplier_ name_ _ object_ =>
    (saveEndpoint supplier_).map fun supplier => .PortEndpoint supplier name_ object_

def saveConnection (node : ConnectionNode) : Option StoredConnection :=
  match saveEndpoint node.uses, saveEndpoint node.provides with
  | some uses, some provides =>
    some { uses := uses, provides := provides, identifier := node.identifier
           connected := node.connected }
  | _, _ => none

def saveConnections (connections : ConnectionList) : Option (List StoredConnection) :=
  connections.mapM saveConnection

def saveConnectionTable (table : List (String × ConnectionList)) :
    Option (List (String × List StoredConnection)) :=
  table.mapM fun entry => (saveConnections entry.2).map fun stored => (entry.1, stored)

def saveService (node : ServiceNode) : StoredService :=
  { name := node.name, service := node.service, deviceManagerId := node.deviceManagerId }

def saveApplication (node : ApplicationNode) : Option StoredApplication :=
  (saveConnections node.connections).map fun stored =>
    { identifier := node.identifier
      name := node.name
      profile := node.profile
      contextName := node.contextName
      context := node.context
      componentDevices := node.componentDevices
      components := node.components
      assemblyControllerId := node.assemblyControllerId
      allocationIDs := node.allocationIDs
      connections := stored
      startOrder := node.startOrder
      ports := node.ports
      properties := node.properties }

section Allocations

variable {Any : Type} (codec : AnyCodec Any)

def saveAllocation (allocation : AllocationType Any) : StoredAllocation :=
  { allocationID := allocation.allocationID
    requestingDomain := allocation.requestingDomain
    allocationProperties := allocation.allocationProperties.map fun property =>
      (property.1, codec.save property.2)
    allocatedDevice := allocation.allocatedDevice
    allocationDeviceManager := allocation.allocationDeviceManager }

def saveRemoteAllocation (allocation : RemoteAllocationType Any) : StoredRemoteAllocation :=
  { saveAllocation codec allocation.toAllocationType with
    allocationManager := allocation.allocationManager }

def persist (state : DomainState Any) : Store :=
  { deviceManagers := state.deviceManagers
    services := state.services.map saveService
    connections := saveConnectionTable state.connections.connectionsByRequester
    applications := state.runningApplications.mapM saveApplication
    localAllocations := state.allocations.map fun entry => (entry.1, saveAllocation codec entry.2)
    remoteAllocations := state.remoteAllocations.map fun entry =>
      (entry.1, saveRemoteAllocation codec entry.2) }

end Allocations

end Redhawk.Persistence
