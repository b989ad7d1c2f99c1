import Redhawk.FileSystem.MountTable
import Redhawk.Persistence.DomainTables

/-!
Registering a device manager with the domain manager: the node in its list, the mount of its file
system, and the connections of its DCD.
-/

namespace Redhawk.Registration

open Connections FileSystem
open Persistence (ServiceNode StoredService StoredConnection saveService saveConnectionTable)

structure DeviceManagerConfiguration where
  name : String
  connections : List Connection

structure DeviceManagerNode extends Persistence.DeviceManagerNode where
  dcd : Option DeviceManagerConfiguration

structure DeviceNode where
  identifier : String
  deviceManagerId : String
  deriving DecidableEq

structure StoredTables where
  deviceManagers : List Persistence.DeviceManagerNode
  devices : List DeviceNode
  services : List StoredService
  connections : List (String × List StoredConnection)

structure DomainManager where
  registeredDeviceManagers : List DeviceManagerNode
  registeredDevices : List DeviceNode
  registeredServices : List ServiceNode
  mounts : List (MountPoint ObjRef)
  connections : DomainConnections
  stored : StoredTables
  stores : Nat

/-- `stores` says which call on the database does not raise, `uuid` what is generated for a
connection of the DCD. The applications that depend on a device or a service are released with it,
which may break connections. -/
structure Environment where
  objects : Objects
  stores : Nat → Bool
  uuid : Nat → String
  releaseApplications : String → DomainConnections → DomainConnections

inductive RemoteCall
  | identifier
  | identifierAlive
  | identifierLookup
  | identifierNode
  | labelNode
  | labelMount
  | fileSysMount
  | fileSysDcd
  | profileDcd
  deriving DecidableEq

/-- The device manager to be registered: `answers` says which calls do not raise, `preloaded` and
`loaded` what reading its DCD gives the first and the second time, nothing if that raises. -/
structure DeviceManager where
  reference : Option ObjRef
  identifier : String
  label : String
  fileSys : Option ObjRef
  answers : RemoteCall → Bool
  preloaded : Option DeviceManagerConfiguration
  loaded : Option DeviceManagerConfiguration

/-- An exception of the device manager that nothing catches is `corbaException`; `undefined` is the
erasure of the end of a list. -/
inductive Outcome
  | done
  | registerError
  | invalidObjectReference
  | corbaException
  | undefined
  deriving DecidableEq

def DeviceManager.mountPoint (label : String) : Path := '/' :: label.toList

def DeviceManager.node (deviceMgr : DeviceManager) (reference : ObjRef) : DeviceManagerNode where
  identifier := deviceMgr.identifier
  label := deviceMgr.label
  deviceManager := reference
  dcd := deviceMgr.preloaded

namespace DomainManager

variable (env : Environment)

def store (write : StoredTables → StoredTables) (self : DomainManager) : DomainManager :=
  { self with
    stored := if env.stores self.stores then write self.stored else self.stored
    stores := self.stores + 1 }

variable (self : DomainManager)

def storeDeviceManagers : DomainManager :=
  self.store env fun stored =>
    { stored with
      deviceManagers := self.registeredDeviceManagers.map DeviceManagerNode.toDeviceManagerNode }

def storeConnections : DomainManager :=
  self.store env fun stored =>
    match saveConnectionTable self.connections.connectionsByRequester with
    | some table => { stored with connections := table }
    | none => stored

def findDeviceManagerById (identifier : String) : Option DeviceManagerNode :=
  self.registeredDeviceManagers.find? fun node => node.identifier == identifier

variable (deviceMgr : DeviceManager)

def deviceMgrIsRegistered (reference : ObjRef) : Bool :=
  if deviceMgr.answers .identifierLookup then
    (self.findDeviceManagerById deviceMgr.identifier).isSome
  else self.registeredDeviceManagers.any fun node => node.deviceManager == reference

def addDeviceMgr (reference : ObjRef) (self : DomainManager) : Option DomainManager :=
  if self.deviceMgrIsRegistered deviceMgr reference then some self
  else if !deviceMgr.answers .identifierNode || !deviceMgr.answers .labelNode then none
  else
    some (storeDeviceManagers env
      { self with
        registeredDeviceManagers := self.registeredDeviceManagers ++ [deviceMgr.node reference] })

def removeDeviceManager (identifier : String) (self : DomainManager) : DomainManager :=
  storeDeviceManagers env
    { self with
      registeredDeviceManagers :=
        self.registeredDeviceManagers.eraseP fun node => node.identifier == identifier }

def localUnregisterDevice (device : DeviceNode) : DomainManager :=
  let broken := storeConnections env
    { self with connections := deviceUnregistered env.objects device.identifier self.connections }
  let released := env.releaseApplications device.identifier broken.connections
  let erased : DomainManager :=
    { broken with
      connections := setDevices
        (released.domain.devices.eraseP fun entry => entry.1 == device.identifier) released
      registeredDevices := broken.registeredDevices.erase device }
  erased.store env fun stored => { stored with devices := erased.registeredDevices }

def localUnregisterService (service : ServiceNode) : DomainManager :=
  let broken := storeConnections env
    { self with connections := serviceUnregistered env.objects service.name self.connections }
  let unlisted := setServices
    (broken.connections.domain.services.eraseP fun entry => entry.1 == service.name)
    broken.connections
  let erased : DomainManager :=
    { broken with
      connections := env.releaseApplications service.name unlisted
      registeredServices := broken.registeredServices.erase service }
  erased.store env fun stored =>
    { stored with services := erased.registeredServices.map saveService }

def removeDeviceManagerDevices (identifier : String) (self : DomainManager) : DomainManager :=
  (self.registeredDevices.filter fun device => device.deviceManagerId == identifier).foldl
    (localUnregisterDevice env) self

def removeDeviceManagerServices (identifier : String) (self : DomainManager) : DomainManager :=
  (self.registeredServices.filter fun service => service.deviceManagerId == identifier).foldl
    (localUnregisterService env) self

def unmountDeviceMgrFileSys (label : String) (self : DomainManager) : DomainManager :=
  { self with
    mounts :=
      match unmount (DeviceManager.mountPoint label) self.mounts with
      | .ok mounts => mounts
      | .error _ => self.mounts }

def localUnregisterDeviceManager (node : DeviceManagerNode) (self : DomainManager) : DomainManager :=
  let broken := storeConnections env
    { self with connections := deviceManagerUnregistered env.objects node.label self.connections }
  let alone := (broken.removeDeviceManagerDevices env node.identifier).removeDeviceManagerServices
    env node.identifier
  (alone.unmountDeviceMgrFileSys node.label).removeDeviceManager env node.identifier

def mountDeviceMgrFileSys (self : DomainManager) : Option DomainManager :=
  if !deviceMgr.answers .labelMount || !deviceMgr.answers .fileSysMount then none
  else
    match mount (DeviceManager.mountPoint deviceMgr.label) deviceMgr.fileSys self.mounts with
    | .ok mounts => some { self with mounts := mounts }
    | .error _ => none

def setDcd (identifier : String) (dcd : DeviceManagerConfiguration) (self : DomainManager) :
    DomainManager :=
  { self with
    registeredDeviceManagers := self.registeredDeviceManagers.modify
      (self.registeredDeviceManagers.findIdx fun node => node.identifier == identifier)
      fun node => { node with dcd := some dcd } }

def loadDcd (self : DomainManager) : Option (DeviceManagerConfiguration × DomainManager) :=
  if !deviceMgr.answers .fileSysDcd || !deviceMgr.answers .profileDcd then none
  else
    match self.findDeviceManagerById deviceMgr.identifier with
    | none => deviceMgr.loaded.map fun dcd => (dcd, self)
    | some node =>
      match node.dcd with
      | some dcd => some (dcd, self)
      | none => deviceMgr.loaded.map fun dcd => (dcd, self.setDcd deviceMgr.identifier dcd)

def addConnections (env : Environment) (name : String) :
    List Connection → Nat → DomainConnections → DomainConnections
  | [], _, connections => connections
  | connection :: rest, index, connections =>
    addConnections env name rest (index + 1)
      (addConnection env.objects name connection (env.uuid index) connections).2

def mountAndConnect (env : Environment) (deviceMgr : DeviceManager) (self : DomainManager) :
    Bool × DomainManager :=
  match self.mountDeviceMgrFileSys deviceMgr with
  | none => (false, self)
  | some mounted =>
    match mounted.loadDcd deviceMgr with
    | none => (false, mounted)
    | some (dcd, loaded) =>
      (true, storeConnections env
        { loaded with
          connections := addConnections env dcd.name dcd.connections 0 loaded.connections })

def registerNew (reference : ObjRef) (self : DomainManager) : DomainManager × Outcome :=
  match self.addDeviceMgr env deviceMgr reference with
  | none => (self, .corbaException)
  | some added =>
    match added.mountAndConnect env deviceMgr with
    | (true, next) => (next, .done)
    | (false, next) =>
      if (next.findDeviceManagerById deviceMgr.identifier).isSome then
        (next.removeDeviceManager env deviceMgr.identifier, .registerError)
      else (next, .undefined)

def localRegisterDeviceManager (self : DomainManager) : DomainManager × Outcome :=
  match deviceMgr.reference with
  | none => (self, .invalidObjectReference)
  | some reference =>
    if !deviceMgr.answers .identifier then (self, .corbaException)
    else
      match self.findDeviceManagerById deviceMgr.identifier with
      | none => self.registerNew env deviceMgr reference
      | some node =>
        if self.connections.domain.exists_ node.deviceManager &&
            deviceMgr.answers .identifierAlive then (self, .registerError)
        else
          (self.localUnregisterDeviceManager env node).registerNew env deviceMgr reference

end DomainManager

end Redhawk.Registration
