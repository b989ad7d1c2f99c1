import Redhawk.Connections.ConnectionNodes
import Mathlib.Data.List.Basic
import Mathlib.Data.Nat.Digits.Defs

/-!
`DomainConnectionManager`: the connections of each requester, and the table of their records.
-/

namespace Redhawk.Connections

abbrev ConnectionList := List ConnectionNode

structure DomainConnections where
  domain : Domain
  /-- `_connectionsByRequester`, in the order of the map. -/
  connectionsByRequester : List (String × ConnectionList)
  /-- `_globalConnections`: the requester and the connection identifier of each record. -/
  globalConnections : List (String × (String × String))

def insertRequester (requesterId : String) :
    List (String × ConnectionList) → List (String × ConnectionList)
  | [] => [(requesterId, [])]
  | entry :: rest =>
    if requesterId < entry.1 then (requesterId, []) :: entry :: rest
    else entry :: insertRequester requesterId rest

def ensureRequester (requesterId : String) (table : List (String × ConnectionList)) :
    List (String × ConnectionList) :=
  if requesterId ∈ table.map Prod.fst then table else insertRequester requesterId table

def onRequester (requesterId : String) (change : ConnectionList → ConnectionList)
    (table : List (String × ConnectionList)) : List (String × ConnectionList) :=
  table.map fun entry => if entry.1 = requesterId then (entry.1, change entry.2) else entry

def candidate (base : String) (counter : Nat) : String :=
  if counter = 0 then base else base ++ "_" ++ toString counter

def freshRecordId (taken : List String) (base : String) : Nat → Nat → String
  | 0, counter => candidate base counter
  | fuel + 1, counter =>
    if candidate base counter ∈ taken then freshRecordId taken base fuel (counter + 1)
    else candidate base counter

def connectionRecordIdFor (connections : DomainConnections) (requesterId : String)
    (connection : ConnectionNode) : String :=
  freshRecordId (connections.globalConnections.map Prod.fst)
    (requesterId ++ "_" ++ connection.identifier) connections.globalConnections.length 0

def addConnection_ (requesterId : String) (connection : ConnectionNode)
    (connections : DomainConnections) : String × DomainConnections :=
  let connectionRecordId := connectionRecordIdFor connections requesterId connection
  (connectionRecordId,
    { connections with
      globalConnections :=
        (connectionRecordId, (requesterId, connection.identifier)) :: connections.globalConnections
      connectionsByRequester :=
        onRequester requesterId (fun list => list ++ [{ connection with connectionRecordId }])
          (ensureRequester requesterId connections.connectionsByRequester) })

variable (objects : Objects)

def addConnection (deviceManagerId : String) (connection : Connection)
    (uuid : String) (connections : DomainConnections) :
    Except ConnectError String × DomainConnections :=
  match ParseConnection connection uuid with
  | none => (.ok "", connections)
  | some node =>
    let connecting := node.connect objects domainConnectionManager connections.domain
    let tried := { connections with domain := connecting.domain }
    match connecting.result with
    | .error error => (.error error, tried)
    | .ok connected =>
      if !connected && !connecting.node.allowDeferral then (.ok "", tried)
      else
        let added := addConnection_ deviceManagerId
          { connecting.node with requesterId := deviceManagerId } tried
        (.ok added.1, added.2)

def objectExists (domain : Domain) (object : Option ObjRef) : Bool :=
  object.any domain.exists_

def restoreConnection (deviceManagerId : String) (connection : ConnectionNode)
    (connections : DomainConnections) : String × DomainConnections :=
  if connection.connected && objectExists connections.domain connection.uses.object &&
      !objectExists connections.domain connection.provides.object then
    let broken := connection.disconnect objects connections.domain
    addConnection_ deviceManagerId broken.1 { connections with domain := broken.2 }
  else addConnection_ deviceManagerId connection connections

def connectRequest (usesEndpoint providesEndpoint : EndpointRequest)
    (requesterId connectionId uuid : String) (connections : DomainConnections) :
    Except Unit String × DomainConnections :=
  match requestToEndpoint usesEndpoint, requestToEndpoint providesEndpoint with
  | some uses, some provides =>
    let connection : ConnectionNode := {
      uses := uses
      provides := provides
      identifier := if connectionId = "" then uuid else connectionId
      requesterId := requesterId
      connectionRecordId := ""
      connected := false }
    let connecting := connection.connect objects domainConnectionManager connections.domain
    let tried := { connections with domain := connecting.domain }
    match connecting.result with
    | .error _ => (.error (), tried)
    | .ok _ =>
      let restored := restoreConnection objects requesterId connecting.node tried
      (.ok restored.1, restored.2)
  | _, _ => (.error (), connections)

def breakFirst (objects : Objects) (connectionId : String) :
    ConnectionList → Domain → ConnectionList × Domain
  | [], domain => ([], domain)
  | connection :: rest, domain =>
    if connection.identifier = connectionId then (rest, (connection.disconnect objects domain).2)
    else
      let later := breakFirst objects connectionId rest domain
      (connection :: later.1, later.2)

def breakFirstOf (objects : Objects) (requesterId connectionId : String) :
    List (String × ConnectionList) → Domain → List (String × ConnectionList) × Domain
  | [], domain => ([], domain)
  | entry :: rest, domain =>
    if entry.1 = requesterId then
      let broken := breakFirst objects connectionId entry.2 domain
      ((entry.1, broken.1) :: rest, broken.2)
    else
      let later := breakFirstOf objects requesterId connectionId rest domain
      (entry :: later.1, later.2)

def breakConnection (connectionRecordId : String)
    (connections : DomainConnections) : Except String Unit × DomainConnections :=
  match connections.globalConnections.find? fun entry => entry.1 == connectionRecordId with
  | none => (.error "Connection already broken", connections)
  | some (_, deviceManagerId, connectionId) =>
    let broken := breakFirstOf objects deviceManagerId connectionId
      connections.connectionsByRequester connections.domain
    (.ok (),
      { domain := broken.2
        connectionsByRequester := broken.1
        globalConnections :=
          connections.globalConnections.filter fun entry => entry.1 != connectionRecordId })

def disconnectAll (objects : Objects) : ConnectionList → Domain → Domain
  | [], domain => domain
  | connection :: rest, domain => disconnectAll objects rest (connection.disconnect objects domain).2

def deviceManagerUnregistered (objects : Objects) (deviceManagerName : String)
    (connections : DomainConnections) : DomainConnections :=
  match connections.connectionsByRequester.find? fun entry => entry.1 == deviceManagerName with
  | none => connections
  | some (_, connectionList) =>
    { domain := disconnectAll objects connectionList connections.domain
      connectionsByRequester :=
        connections.connectionsByRequester.filter fun entry => entry.1 != deviceManagerName
      globalConnections := connections.globalConnections.filter fun entry =>
        connectionList.all fun connection => entry.1 != connection.connectionRecordId }

def tryPending (objects : Objects) (type : DependencyType) (identifier : String) :
    ConnectionList → Domain → ConnectionList × Domain
  | [], domain => ([], domain)
  | connection :: rest, domain =>
    if connection.connected || !connection.checkDependency type identifier then
      let later := tryPending objects type identifier rest domain
      (connection :: later.1, later.2)
    else
      let connecting := connection.connect objects domainConnectionManager domain
      let later := tryPending objects type identifier rest connecting.domain
      match connecting.result with
      | .ok false =>
        if !connecting.node.allowDeferral then later else (connecting.node :: later.1, later.2)
      | .ok true | .error _ => (connecting.node :: later.1, later.2)

def breakDependent (objects : Objects) (type : DependencyType) (identifier : String) :
    ConnectionList → Domain → ConnectionList × Domain
  | [], domain => ([], domain)
  | connection :: rest, domain =>
    if connection.checkDependency type identifier then
      let broken := connection.disconnect objects domain
      let later := breakDependent objects type identifier rest broken.2
      if connection.allowDeferralOf type identifier then (broken.1 :: later.1, later.2) else later
    else
      let later := breakDependent objects type identifier rest domain
      (connection :: later.1, later.2)

def onEveryList (change : ConnectionList → Domain → ConnectionList × Domain) :
    List (String × ConnectionList) → Domain → List (String × ConnectionList) × Domain
  | [], domain => ([], domain)
  | entry :: rest, domain =>
    let changed := change entry.2 domain
    let later := onEveryList change rest changed.2
    ((entry.1, changed.1) :: later.1, later.2)

def onAll (change : ConnectionList → Domain → ConnectionList × Domain)
    (connections : DomainConnections) : DomainConnections :=
  let changed := onEveryList change connections.connectionsByRequester connections.domain
  { connections with domain := changed.2, connectionsByRequester := changed.1 }

def tryPendingConnections_ (type : DependencyType) (identifier : String) :
    DomainConnections → DomainConnections :=
  onAll (tryPending objects type identifier)

def breakConnections_ (type : DependencyType) (identifier : String) :
    DomainConnections → DomainConnections :=
  onAll (breakDependent objects type identifier)

def deviceRegistered (deviceId : String) : DomainConnections → DomainConnections :=
  tryPendingConnections_ objects .COMPONENT deviceId

def deviceUnregistered (deviceId : String) : DomainConnections → DomainConnections :=
  breakConnections_ objects .COMPONENT deviceId

def serviceRegistered (serviceName : String) : DomainConnections → DomainConnections :=
  tryPendingConnections_ objects .SERVICENAME serviceName

def serviceUnregistered (serviceName : String) : DomainConnections → DomainConnections :=
  breakConnections_ objects .SERVICENAME serviceName

def applicationRegistered (applicationId : String) : DomainConnections → DomainConnections :=
  tryPendingConnections_ objects .APPLICATION applicationId

def applicationUnregistered (applicationId : String) : DomainConnections → DomainConnections :=
  breakConnections_ objects .APPLICATION applicationId

def setDevices (devices : List (String × ObjRef)) (connections : DomainConnections) : DomainConnections :=
  { connections with domain := { connections.domain with devices } }

def setServices (services : List (String × ObjRef)) (connections : DomainConnections) :
    DomainConnections :=
  { connections with domain := { connections.domain with services } }

def unregisterDevice (identifier : String) (connections : DomainConnections) : DomainConnections :=
  if (Domain.lookup connections.domain.devices identifier).isNone then connections
  else
    let broken := deviceUnregistered objects identifier connections
    setDevices (broken.domain.devices.eraseP fun device => device.1 == identifier) broken

def storeDevice (identifier : String) (device : ObjRef)
    (connections : DomainConnections) : DomainConnections :=
  deviceRegistered objects identifier
    (setDevices (connections.domain.devices ++ [(identifier, device)]) connections)

def registerDevice (identifier : String) (device : ObjRef)
    (connections : DomainConnections) : DomainConnections :=
  match Domain.lookup connections.domain.devices identifier with
  | none => storeDevice objects identifier device connections
  | some registered =>
    if connections.domain.exists_ registered then connections
    else storeDevice objects identifier device (unregisterDevice objects identifier connections)

def unregisterService (name : String) (connections : DomainConnections) : DomainConnections :=
  if (Domain.lookup connections.domain.services name).isNone then connections
  else
    let broken := serviceUnregistered objects name connections
    setServices (broken.domain.services.eraseP fun service => service.1 == name) broken

def registerService (name : String) (service : ObjRef)
    (connections : DomainConnections) : DomainConnections :=
  if (Domain.lookup connections.domain.services name).isSome then connections
  else
    serviceRegistered objects name
      (setServices (connections.domain.services ++ [(name, service)]) connections)

end Redhawk.Connections
