import Mathlib.Algebra.Ring.Nat
import Mathlib.Tactic.Common

/-!
The two sides of a connection: how an endpoint is looked up in the domain, and which references it
keeps.
-/

namespace Redhawk.Connections

abbrev ObjRef := Nat

structure Objects where
  isPort : ObjRef → Bool
  isPortSupplier : ObjRef → Bool
  /-- `none` if the call raises. -/
  getPort : ObjRef → String → Option (Option ObjRef)
  /-- The text of the `InvalidConnection` that a refused `connectPort` becomes. -/
  connectPort : ObjRef → ObjRef → String → Option String
  isA : ObjRef → String → Bool
  /-- What the event channel manager finds or creates under a name. -/
  channel : String → Option ObjRef
  fileManager : ObjRef
  domainManager : ObjRef

structure EventChannelNode where
  name : String
  connectionCount : Nat
deriving DecidableEq

inductive PortCall
  | connectPort (usesPort providesPort : ObjRef) (connectionId : String)
  | disconnectPort (usesPort : ObjRef) (connectionId : String)
deriving DecidableEq

/-- The tables of the domain manager that lookups read and write, and the calls its connections have
made on ports. -/
structure Domain where
  devices : List (String × ObjRef)
  services : List (String × ObjRef)
  applications : List (String × ObjRef)
  /-- Components of applications, and device managers. -/
  otherComponents : String → Option ObjRef
  names : String → Option ObjRef
  /-- The channels that the event channel manager knows. -/
  channelNames : List String
  /-- `_eventChannels` -/
  eventChannels : List EventChannelNode
  exists_ : ObjRef → Bool
  portCalls : List PortCall

def Domain.lookup (table : List (String × ObjRef)) (name : String) : Option ObjRef :=
  (table.find? fun entry => entry.1 == name).map Prod.snd

/-- The subclass of `ConnectionManager` that resolves an endpoint; a lookup that fails with an
exception is `none`. -/
structure Manager where
  exceptionsEnabled : Bool
  lookupComponentByInstantiationId : Domain → String → Option ObjRef
  resolveFindByNamingService : Domain → String → Option ObjRef
  resolveDeviceThatLoadedThisComponentRef : String → Option (Option ObjRef)
  resolveDeviceUsedByThisComponentRef : String → String → Option (Option ObjRef)
  resolveDeviceUsedByApplication : String → Option (Option ObjRef)

def domainConnectionManager : Manager where
  exceptionsEnabled := false
  lookupComponentByInstantiationId domain identifier :=
    (Domain.lookup domain.devices identifier).or (domain.otherComponents identifier)
  resolveFindByNamingService domain name := domain.names name
  resolveDeviceThatLoadedThisComponentRef _ := some none
  resolveDeviceUsedByThisComponentRef _ _ := some none
  resolveDeviceUsedByApplication _ := some none

def addToCount (channelName : String) (change : Nat → Nat) :
    List EventChannelNode → List EventChannelNode
  | [] => []
  | node :: rest =>
    if node.name = channelName then
      { node with connectionCount := change node.connectionCount } :: rest
    else node :: addToCount channelName change rest

/-- `connectionCount` is an unsigned int. -/
def incrementEventChannelConnections (channelName : String) (domain : Domain) : Domain :=
  { domain with
    eventChannels := addToCount channelName (fun count => (count + 1) % 2 ^ 32)
      domain.eventChannels }

def decrementEventChannelConnections (channelName : String) (domain : Domain) : Domain :=
  { domain with
    eventChannels := addToCount channelName (fun count => (count + (2 ^ 32 - 1)) % 2 ^ 32)
      domain.eventChannels }

def createEventChannel (objects : Objects) (channelName : String) (domain : Domain) :
    Option ObjRef × Domain :=
  match objects.channel channelName with
  | none => (none, domain)
  | some channel =>
    (some channel,
      { domain with
        channelNames := channelName :: domain.channelNames
        eventChannels :=
          if domain.exists_ channel && domain.eventChannels.all (fun node => node.name != channelName)
          then domain.eventChannels ++ [⟨channelName, 0⟩] else domain.eventChannels })

def channelNameOf (name : String) : String :=
  if name = "" then "IDM_Channel" else name

/-- `none` is a `LookupError`. -/
def lookupDomainObject (objects : Objects) (type name : String) (domain : Domain) :
    Option (Option ObjRef) × Domain :=
  if type = "filemanager" then (some (some objects.fileManager), domain)
  else if type = "log" then (some none, domain)
  else if type = "eventchannel" then
    let channelName := channelNameOf name
    let found := if channelName ∈ domain.channelNames then (objects.channel channelName, domain)
      else createEventChannel objects channelName domain
    (some found.1, incrementEventChannelConnections channelName found.2)
  else if type = "namingservice" then (some none, domain)
  else if type = "servicename" then
    ((Domain.lookup domain.services name).map some, domain)
  else if type = "servicetype" then
    ((domain.services.find? fun service =>
      domain.exists_ service.2 && objects.isA service.2 name).map fun service => some service.2, domain)
  else if type = "domainmanager" then (some (some objects.domainManager), domain)
  else if type = "application" then ((Domain.lookup domain.applications name).map some, domain)
  else (none, domain)

def Manager.catchLookupError (manager : Manager) (found : Option (Option ObjRef)) :
    Option (Option ObjRef) :=
  match found with
  | some object => some object
  | none => if manager.exceptionsEnabled then none else some none

def resolveDomainObject (objects : Objects) (manager : Manager) (type name : String)
    (domain : Domain) : Option (Option ObjRef) × Domain :=
  let found := lookupDomainObject objects type name domain
  (manager.catchLookupError found.1, found.2)

def resolveComponent (manager : Manager) (identifier : String) (domain : Domain) :
    Option (Option ObjRef) :=
  match manager.lookupComponentByInstantiationId domain identifier with
  | some target => some (some target)
  | none => manager.catchLookupError none

inductive DependencyType
  | COMPONENT
  | SERVICENAME
  | APPLICATION
deriving DecidableEq

inductive EndpointKind
  | ApplicationEndpoint (identifier : String)
  | ComponentEndpoint (identifier : String)
  | DeviceLoadedEndpoint (identifier : String)
  | DeviceUsedEndpoint (componentIdentifier usesIdentifier : String)
  | ApplicationUsesDeviceEndpoint (usesIdentifier : String)
  | FindByNamingServiceEndpoint (name : String)
  | FindByDomainFinderEndpoint (type name : String)
  | ServiceEndpoint (name : String)
  | EventChannelEndpoint (name : String)
  | ObjectrefEndpoint (objectref : Option ObjRef)
deriving DecidableEq

def EndpointKind.allowDeferral : EndpointKind → Bool
  | .ComponentEndpoint _ | .FindByDomainFinderEndpoint _ _ | .ServiceEndpoint _
  | .EventChannelEndpoint _ => true
  | _ => false

def EndpointKind.checkDependency (type : DependencyType) (identifier : String) :
    EndpointKind → Bool
  | .ApplicationEndpoint identifier_ => type == .APPLICATION && identifier == identifier_
  | .ComponentEndpoint identifier_ => type == .COMPONENT && identifier == identifier_
  | .FindByDomainFinderEndpoint _ name_ | .ServiceEndpoint name_ =>
    type == .SERVICENAME && identifier == name_
  | _ => false

def EndpointKind.description : EndpointKind → String
  | .ApplicationEndpoint identifier => "application '" ++ identifier ++ "'"
  | .ComponentEndpoint identifier => "component '" ++ identifier ++ "'"
  | .DeviceLoadedEndpoint identifier => "device that loaded component '" ++ identifier ++ "'"
  | .DeviceUsedEndpoint component uses =>
    "usesdevice '" ++ uses ++ "' for component '" ++ component ++ "'"
  | .ApplicationUsesDeviceEndpoint uses => "application usesdevice '" ++ uses ++ "'"
  | .FindByNamingServiceEndpoint name => "find by naming service '" ++ name ++ "'"
  | .FindByDomainFinderEndpoint type name =>
    "domain object type " ++ type ++ (if name = "" then "" else " '" ++ name ++ "'")
  | .ServiceEndpoint name => "service '" ++ name ++ "'"
  | .EventChannelEndpoint name => "event channel '" ++ name ++ "'"
  | .ObjectrefEndpoint _ => "object reference"

/-- `resolve_` of these classes; `none` is an exception. -/
def EndpointKind.resolve_ (objects : Objects) (manager : Manager) (domain : Domain) :
    EndpointKind → Option (Option ObjRef) × Domain
  | .ApplicationEndpoint identifier =>
    resolveDomainObject objects manager "application" identifier domain
  | .ComponentEndpoint identifier => (resolveComponent manager identifier domain, domain)
  | .DeviceLoadedEndpoint identifier =>
    (manager.resolveDeviceThatLoadedThisComponentRef identifier, domain)
  | .DeviceUsedEndpoint component uses =>
    (manager.resolveDeviceUsedByThisComponentRef component uses, domain)
  | .ApplicationUsesDeviceEndpoint uses => (manager.resolveDeviceUsedByApplication uses, domain)
  | .FindByNamingServiceEndpoint name => 
    (some (manager.resolveFindByNamingService domain name), domain)
  | .FindByDomainFinderEndpoint type name => resolveDomainObject objects manager type name domain
  | .ServiceEndpoint name => resolveDomainObject objects manager "servicename" name domain
  | .EventChannelEndpoint name => resolveDomainObject objects manager "eventchannel" name domain
  | .ObjectrefEndpoint objectref => (some objectref, domain)

inductive Endpoint
  | plain (kind : EndpointKind) (object_ : Option ObjRef)
  | PortEndpoint (supplier_ : Endpoint) (name_ : String) (invalidPort_ : Bool) (object_ : Option ObjRef)
deriving DecidableEq

def Endpoint.object : Endpoint → Option ObjRef
  | .plain _ object_ => object_
  | .PortEndpoint _ _ _ object_ => object_

def Endpoint.isResolved (endpoint : Endpoint) : Bool := endpoint.object.isSome

def Endpoint.allowDeferral : Endpoint → Bool
  | .plain kind _ => kind.allowDeferral
  | .PortEndpoint supplier_ _ invalidPort_ _ => !invalidPort_ && supplier_.allowDeferral

def Endpoint.checkDependency (type : DependencyType) (identifier : String) : Endpoint → Bool
  | .plain kind _ => kind.checkDependency type identifier
  | .PortEndpoint supplier_ _ _ _ => supplier_.checkDependency type identifier

def Endpoint.description : Endpoint → String
  | .plain kind _ => kind.description
  | .PortEndpoint supplier_ name_ _ _ => supplier_.description ++ " port '" ++ name_ ++ "'"

def Endpoint.release : Endpoint → Endpoint
  | .plain kind _ => .plain kind none
  | .PortEndpoint supplier_ name_ _ _ => .PortEndpoint supplier_.release name_ false none

/-- What a resolution leaves behind; the result `none` is an exception. -/
structure Resolved where
  result : Option (Option ObjRef)
  endpoint : Endpoint
  domain : Domain

def Endpoint.resolve (objects : Objects) (manager : Manager) : Endpoint → Domain → Resolved
  | .plain kind (some object), domain =>
    ⟨some (some object), .plain kind (some object), domain⟩
  | .plain kind none, domain =>
    let found := kind.resolve_ objects manager domain
    ⟨found.1, .plain kind found.1.join, found.2⟩
  | .PortEndpoint supplier_ name_ invalidPort_ (some object), domain =>
    ⟨some (some object), .PortEndpoint supplier_ name_ invalidPort_ (some object), domain⟩
  | .PortEndpoint supplier_ name_ invalidPort_ none, domain =>
    let supplier := supplier_.resolve objects manager domain
    match supplier.result with
    | none => ⟨none, .PortEndpoint supplier.endpoint name_ invalidPort_ none, supplier.domain⟩
    | some none =>
      ⟨some none, .PortEndpoint supplier.endpoint name_ invalidPort_ none, supplier.domain⟩
    | some (some supplierObject) =>
      if supplier.domain.exists_ supplierObject && objects.isPortSupplier supplierObject then
        match objects.getPort supplierObject name_ with
        | some port =>
          ⟨some port, .PortEndpoint supplier.endpoint name_ invalidPort_ port, supplier.domain⟩
        | none => ⟨some none, .PortEndpoint supplier.endpoint name_ true none, supplier.domain⟩
      else if manager.exceptionsEnabled then
        ⟨none, .PortEndpoint supplier.endpoint name_ invalidPort_ none, supplier.domain⟩
      else ⟨some none, .PortEndpoint supplier.endpoint name_ true none, supplier.domain⟩

inductive FindBy
  | namingService (name : String)
  | domainFinder (type name : String)
  | unknown

/-- How a `Port` element of a profile says where its supplier is. -/
inductive PortSupplier
  | findBy (findBy : FindBy)
  | componentInstantiationRef (refid : String)
  | deviceThatLoadedThisComponentRef (refid : String)
  | deviceUsedByThisComponentRef (refid usesrefid : String)
  | deviceUsedByApplication (usesrefid : String)
  | unknown

structure Port where
  supplier : PortSupplier
  id : String

inductive ProvidesSide
  | providesPort (port : Port)
  | findBy (findBy : FindBy)
  | componentSupportedInterface (port : Port)
  | unknown

def ParseFindBy : FindBy → Option Endpoint
  | .namingService name => some (.plain (.FindByNamingServiceEndpoint name) none)
  | .domainFinder type name =>
    if type = "servicename" then some (.plain (.ServiceEndpoint name) none)
    else if type = "eventchannel" then some (.plain (.EventChannelEndpoint name) none)
    else some (.plain (.FindByDomainFinderEndpoint type name) none)
  | .unknown => none

def ParsePortSupplier (port : Port) : Option Endpoint :=
  match port.supplier with
  | .findBy findBy => ParseFindBy findBy
  | .componentInstantiationRef refid => some (.plain (.ComponentEndpoint refid) none)
  | .deviceThatLoadedThisComponentRef refid => some (.plain (.DeviceLoadedEndpoint refid) none)
  | .deviceUsedByThisComponentRef refid usesrefid =>
    some (.plain (.DeviceUsedEndpoint refid usesrefid) none)
  | .deviceUsedByApplication usesrefid =>
    some (.plain (.ApplicationUsesDeviceEndpoint usesrefid) none)
  | .unknown => none

def ParsePort (port : Port) : Option Endpoint :=
  (ParsePortSupplier port).map fun supplier => .PortEndpoint supplier port.id false none

def ParseProvidesEndpoint : ProvidesSide → Option Endpoint
  | .providesPort port => ParsePort port
  | .findBy findBy => ParseFindBy findBy
  | .componentSupportedInterface port => ParsePortSupplier port
  | .unknown => none

/-- The endpoint of a request to the connection manager; the domain manager's own one has the
finder type `domainmanager`, and a device manager is not supported. -/
inductive EndpointRequestKind
  | ENDPOINT_APPLICATION (applicationId : String)
  | ENDPOINT_DEVICE (deviceId : String)
  | ENDPOINT_SERVICE (serviceName : String)
  | ENDPOINT_EVENTCHANNEL (channelName : String)
  | ENDPOINT_OBJECTREF (objectRef : Option ObjRef)
  | ENDPOINT_COMPONENT (componentId : String)
  | ENDPOINT_DOMAINMANAGER
  | ENDPOINT_DEVICEMANAGER

structure EndpointRequest where
  endpoint : EndpointRequestKind
  portName : String

def EndpointRequestKind.kind : EndpointRequestKind → Option EndpointKind
  | .ENDPOINT_APPLICATION applicationId => some (.ApplicationEndpoint applicationId)
  | .ENDPOINT_DEVICE deviceId => some (.ComponentEndpoint deviceId)
  | .ENDPOINT_SERVICE serviceName => some (.ServiceEndpoint serviceName)
  | .ENDPOINT_EVENTCHANNEL channelName => some (.EventChannelEndpoint channelName)
  | .ENDPOINT_OBJECTREF objectRef => some (.ObjectrefEndpoint objectRef)
  | .ENDPOINT_COMPONENT componentId => some (.ComponentEndpoint componentId)
  | .ENDPOINT_DOMAINMANAGER => some (.FindByDomainFinderEndpoint "domainmanager" "")
  | .ENDPOINT_DEVICEMANAGER => none

/-- `none` is an `InvalidPort` exception. -/
def requestToEndpoint (request : EndpointRequest) : Option Endpoint :=
  request.endpoint.kind.map fun kind =>
    if request.portName = "" then .plain kind none
    else .PortEndpoint (.plain kind none) request.portName false none

end Redhawk.Connections
