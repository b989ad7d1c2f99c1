import Redhawk.Persistence.DomainTables

/-!
`restoreState`: the tables are read back and rebuilt through the operations that register their
entries.
-/

namespace Redhawk.Persistence

open Connections

/-- What the memory of a field holds that nothing has written: of the port endpoints by port name,
of the applications by identifier. -/
structure Garbage where
  invalidPort_ : String → Bool
  aware_application : String → Bool
  stop_timeout : String → BitVec 32

/-- What restoring meets: the objects, the domain without its tables, what device managers answer,
and the reference under which an application is activated (`none` when that raises). -/
structure Environment where
  objects : Objects
  domain : Domain
  identifier : ObjRef → String
  label : ObjRef → String
  isResource : ObjRef → Bool
  deviceIsRegistered : String → Bool
  activate : String → Option ObjRef

def loadService (stored : StoredService) : ServiceNode :=
  { service := stored.service, deviceManagerId := stored.deviceManagerId, name := stored.name
    serviceId := "" }

def loadEndpoint (garbage : Garbage) : StoredEndpoint → Endpoint
  | .plain kind object_ => .plain kind object_
  | .PortEndpoint supplier_ name_ object_ =>
    .PortEndpoint (loadEndpoint garbage supplier_) name_ (garbage.invalidPort_ name_) object_

def loadConnection (garbage : Garbage) (stored : StoredConnection) : ConnectionNode :=
  { uses := loadEndpoint garbage stored.uses
    provides := loadEndpoint garbage stored.provides
    identifier := stored.identifier
    requesterId := ""
    connectionRecordId := ""
    connected := stored.connected }

def loadAndNarrow (domain : Domain) (object : Option ObjRef) : Option ObjRef :=
  object.filter domain.exists_

def loadApplication (garbage : Garbage) (domain : Domain) (stored : StoredApplication) : ApplicationNode :=
  { name := stored.name
    profile := stored.profile
    identifier := stored.identifier
    contextName := stored.contextName
    context := loadAndNarrow domain stored.context
    componentDevices := stored.componentDevices
    components := stored.components
    assemblyControllerId := stored.assemblyControllerId
    connections := stored.connections.map (loadConnection garbage)
    allocationIDs := stored.allocationIDs
    startOrder := stored.startOrder
    ports := stored.ports
    properties := stored.properties.map fun entry =>
      (entry.1, { entry.2 with component := loadAndNarrow domain entry.2.component })
    aware_application := garbage.aware_application stored.identifier
    stop_timeout := garbage.stop_timeout stored.identifier }

section Allocations

variable {Any : Type} (codec : AnyCodec Any) (domain : Domain)

def loadProperty (property : String × AnyText) : Option (String × Any) :=
  (codec.load property.2).map fun value => (property.1, value)

def loadAllocation (stored : StoredAllocation) : Option (AllocationType Any) :=
  (stored.allocationProperties.mapM (loadProperty codec)).map fun properties =>
    { allocationID := stored.allocationID
      requestingDomain := stored.requestingDomain
      sourceID := ""
      allocationProperties := properties
      allocatedDevice := loadAndNarrow domain stored.allocatedDevice
      allocationDeviceManager := loadAndNarrow domain stored.allocationDeviceManager }

def loadRemoteAllocation (stored : StoredRemoteAllocation) : Option (RemoteAllocationType Any) :=
  (loadAllocation codec domain stored.toStoredAllocation).map fun allocation =>
    { allocation with allocationManager := loadAndNarrow domain stored.allocationManager }

def loadTable {Stored Loaded : Type} (load : Stored → Option Loaded)
    (table : List (String × Stored)) : Option (List (String × Loaded)) :=
  table.mapM fun entry => (load entry.2).map fun loaded => (entry.1, loaded)

end Allocations

variable (env : Environment)

def addDeviceMgr (deviceMgr : ObjRef)
    (registeredDeviceManagers : List DeviceManagerNode) : List DeviceManagerNode :=
  if registeredDeviceManagers.any fun node => node.deviceManager == deviceMgr then
    registeredDeviceManagers
  else
    registeredDeviceManagers ++
      [{ identifier := env.identifier deviceMgr, label := env.label deviceMgr
         deviceManager := deviceMgr }]

def restoreDeviceManagers (stored : List DeviceManagerNode) : List DeviceManagerNode :=
  stored.foldl (fun registered node =>
    if env.domain.exists_ node.deviceManager then addDeviceMgr env node.deviceManager registered
    else registered) []

def storeServiceInDomainMgr (registeringService : ObjRef)
    (registeredDeviceMgr : ObjRef) (name serviceId : String)
    (registeredServices : List ServiceNode) : List ServiceNode :=
  if registeredServices.any fun node => node.name == name then registeredServices
  else
    registeredServices ++
      [{ service := registeringService, deviceManagerId := env.identifier registeredDeviceMgr
         name := name, serviceId := serviceId }]

def restoreService (deviceManagers : List DeviceManagerNode)
    (registeredServices : List ServiceNode) (node : ServiceNode) : List ServiceNode :=
  if env.domain.exists_ node.service then
    match deviceManagers.find? fun other => other.identifier == node.deviceManagerId with
    | some deviceManager =>
      storeServiceInDomainMgr env node.service deviceManager.deviceManager node.name node.serviceId
        registeredServices
    | none => registeredServices
  else registeredServices

def restoreServices (deviceManagers : List DeviceManagerNode)
    (stored : List StoredService) : List ServiceNode :=
  (stored.map loadService).foldl (restoreService env deviceManagers) []

def restoreConnectionList (objects : Objects) (garbage : Garbage) (deviceManagerId : String)
    (stored : List StoredConnection) (connections : DomainConnections) : DomainConnections :=
  stored.foldl (fun connections node =>
    (restoreConnection objects deviceManagerId (loadConnection garbage node) connections).2)
    connections

def restoreConnections (objects : Objects) (garbage : Garbage)
    (stored : List (String × List StoredConnection)) (connections : DomainConnections) :
    DomainConnections :=
  stored.foldl (fun connections entry =>
    restoreConnectionList objects garbage entry.1 entry.2 connections) connections

structure ApplicationComponent where
  identifier : String
  name : String
  softwareProfile : String
  namingContext : String
  implementationId : String
  isVisible : Bool
  loadedFiles : List String
  processId : Nat
  componentObject : Option ObjRef
  isResource : Bool
  assignedDevice : Option String
  assignedDeviceId : String
  /-- Where the host stands in the list of the components. -/
  componentHost : Option Nat

structure Application where
  identifier : String
  appName : String
  sadProfile : String
  waveformContextName : String
  waveformContext : Option ObjRef
  isAware : Bool
  stopTimeout : BitVec 32
  connections : ConnectionList
  componentDevices : List (String × String)
  allocationIDs : List String
  components : List ApplicationComponent
  assemblyController : Option Nat
  startOrder : List Nat
  ports : List (String × Option ObjRef)
  properties : List (String × ExternalPropertyType)

def findComponent (components : List ApplicationComponent) (identifier : String) : Option Nat :=
  components.findIdx? fun component => component.identifier == identifier

def restoreComponent (components : List ApplicationComponent)
    (compNode : ComponentNode) : List ApplicationComponent :=
  let component : ApplicationComponent :=
    { identifier := compNode.identifier
      name := compNode.name
      softwareProfile := compNode.softwareProfile
      namingContext := compNode.namingContext
      implementationId := compNode.implementationId
      isVisible := compNode.isVisible
      loadedFiles := compNode.loadedFiles
      processId := compNode.processId
      componentObject := compNode.componentObject
      isResource := compNode.componentObject.any env.isResource
      assignedDevice :=
        if env.deviceIsRegistered compNode.assignedDeviceId then some compNode.assignedDeviceId
        else none
      assignedDeviceId := compNode.assignedDeviceId
      componentHost := none }
  let host :=
    if compNode.componentHostId = "" then none
    else findComponent (components ++ [component]) compNode.componentHostId
  components ++ [{ component with componentHost := host }]

def setAssemblyController (components : List ApplicationComponent) (identifier : String) : Option Nat :=
  (findComponent components identifier).filter fun index =>
    (components[index]?).any fun component => component.isResource

def setStartOrder (components : List ApplicationComponent) (startOrder : List String) : List Nat :=
  startOrder.filterMap (findComponent components)

def restoreApplication (node : ApplicationNode) : Application :=
  let components := node.components.foldl (restoreComponent env) []
  { identifier := node.identifier
    appName := node.name
    sadProfile := node.profile
    waveformContextName := node.contextName
    waveformContext := node.context
    isAware := node.aware_application
    stopTimeout := node.stop_timeout
    connections := node.connections
    componentDevices := node.componentDevices
    allocationIDs := node.allocationIDs
    components := components
    assemblyController := setAssemblyController components node.assemblyControllerId
    startOrder := setStartOrder components node.startOrder
    ports := node.ports
    properties := node.properties }

def getProcessId (components : List ApplicationComponent) : Nat → Nat → Nat
  | 0, _ => 0
  | fuel + 1, index =>
    match components[index]? with
    | none => 0
    | some component =>
      match component.componentHost with
      | some host => getProcessId components fuel host
      | none => component.processId

def identifierAt (components : List ApplicationComponent) (index : Nat) : String :=
  (components[index]?).elim "" ApplicationComponent.identifier

def persistComponent (components : List ApplicationComponent) (index : Nat)
    (component : ApplicationComponent) : ComponentNode :=
  { identifier := component.identifier
    name := component.name
    softwareProfile := component.softwareProfile
    namingContext := component.namingContext
    implementationId := component.implementationId
    isVisible := component.isVisible
    loadedFiles := component.loadedFiles
    processId := getProcessId components components.length index
    componentObject := component.componentObject
    assignedDeviceId := component.assignedDevice.getD component.assignedDeviceId
    componentHostId := component.componentHost.elim "" (identifierAt components) }

def persistApplication (application : Application) : ApplicationNode :=
  { name := application.appName
    profile := application.sadProfile
    identifier := application.identifier
    contextName := application.waveformContextName
    context := application.waveformContext
    componentDevices := application.componentDevices
    components := application.components.mapIdx (persistComponent application.components)
    assemblyControllerId := application.assemblyController.elim "" (identifierAt application.components)
    connections := application.connections
    allocationIDs := application.allocationIDs
    startOrder := application.startOrder.map (identifierAt application.components)
    ports := application.ports
    properties := application.properties
    aware_application := application.isAware
    stop_timeout := application.stopTimeout }

def addApplication (application : Application) (reference : ObjRef)
    (restored : DomainConnections × List ApplicationNode) :
    DomainConnections × List ApplicationNode :=
  let domain := restored.1.domain
  let known : DomainConnections := { restored.1 with
    domain := { domain with
      applications := (domain.applications.filter fun entry => entry.1 ≠ application.identifier) ++
        [(application.identifier, reference)] } }
  (applicationRegistered env.objects application.identifier known, restored.2 ++ [persistApplication application])

def restoreApplications (nodes : List ApplicationNode)
    (connections : DomainConnections) : DomainConnections × List ApplicationNode :=
  nodes.foldl (fun restored node =>
    if objectExists env.domain node.context then
      match env.activate node.identifier with
      | some reference => addApplication env (restoreApplication env node) reference restored
      | none => restored
    else restored) (connections, [])

def restoreState {Any : Type} (codec : AnyCodec Any) (env : Environment) (garbage : Garbage)
    (db : Store) : DomainState Any :=
  let deviceManagers := restoreDeviceManagers env db.deviceManagers
  let services := restoreServices env deviceManagers db.services
  let start : DomainConnections :=
    { domain := { env.domain with services := services.map fun node => (node.name, node.service) }
      connectionsByRequester := []
      globalConnections := [] }
  let connections := restoreConnections env.objects garbage (db.connections.getD []) start
  let applications := restoreApplications env
    ((db.applications.getD []).map (loadApplication garbage env.domain)) connections
  let localAllocations := loadTable (loadAllocation codec env.domain) db.localAllocations
  let remoteAllocations := loadTable (loadRemoteAllocation codec env.domain) db.remoteAllocations
  { deviceManagers := deviceManagers
    services := services
    connections := applications.1
    identifiers := fun _ => ("", "")
    runningApplications := applications.2
    allocations := localAllocations.getD []
    remoteAllocations := if localAllocations.isNone then [] else remoteAllocations.getD [] }

end Redhawk.Persistence
