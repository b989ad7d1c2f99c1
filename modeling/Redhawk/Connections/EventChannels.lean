import Redhawk.Connections.DeferredConnections

/-!
Who uses event channels: connections of the domain, connections of applications, and consumers that
register with a channel.
-/

namespace Redhawk.Connections

structure DomainState where
  connections : DomainConnections
  /-- The connections of applications, each with its application, in the order they were made. A
  creation that fails drops its connections as they are, so they stay here. -/
  applicationConnections : List (String × ConnectionNode)
  /-- `registeredConsumers`: the identifier and the channel name of each. -/
  registeredConsumers : List (String × String)

def DomainState.withDomain (domain : Domain) (state : DomainState) : DomainState :=
  { state with connections := { state.connections with domain } }

def appConnectionManager (lookups : Manager) : Manager :=
  { lookups with exceptionsEnabled := true }

variable (objects : Objects)

/-- `AppConnectionManager::resolveConnection`; an exception leaves the list as it is. -/
def resolveConnection (application : String) (lookups : Manager)
    (connection : Connection) (uuid : String) (state : DomainState) :
    Except ConnectError Bool × DomainState :=
  match ParseConnection connection uuid with
  | none => (.ok false, state)
  | some node =>
    let connecting :=
      node.connect objects (appConnectionManager lookups) state.connections.domain
    let tried := state.withDomain connecting.domain
    match connecting.result with
    | .ok true =>
      (.ok true, { tried with
        applicationConnections :=
          state.applicationConnections ++ [(application, connecting.node)] })
    | .ok false => (.ok false, tried)
    | .error error => (.error error, tried)

def releaseApplication (application : String) (state : DomainState) : DomainState :=
  let connections := (state.applicationConnections.filter fun entry => entry.1 == application).map
    Prod.snd
  { state.withDomain (disconnectAll objects connections.reverse state.connections.domain) with
    applicationConnections :=
      state.applicationConnections.filter fun entry => entry.1 != application }

inductive ChannelError
  | AlreadyConnected
  | InvalidObjectReference (msg : String)
  | InvalidEventChannelName
  | NotConnected
deriving DecidableEq

/-- `isChannel` says whether the found object narrows to a channel, `connects` whether the consumer
could be connected to it. -/
def registerWithEventChannel (registeringId eventChannelName : String)
    (isChannel connects : Bool) (state : DomainState) : Except ChannelError Unit × DomainState :=
  if registeringId ∈ state.registeredConsumers.map Prod.fst then (.error .AlreadyConnected, state)
  else
    let found := lookupDomainObject objects "eventchannel" eventChannelName state.connections.domain
    let looked := state.withDomain found.2
    if !(found.1.join.isSome && isChannel) then
      (.error (.InvalidObjectReference
        "The stored channel reference is invalid. Unable to register the consumer."), looked)
    else if connects then
      (.ok (), { looked with
        registeredConsumers := state.registeredConsumers ++ [(registeringId, eventChannelName)] })
    else
      (.error (.InvalidObjectReference
        ("A problem occurred while trying to create a connection between the consumer and the " ++
          "event channel. One of the references is invalid.")), looked)

def unregisterFromEventChannel (unregisteringId eventChannelName : String) (disconnects : Bool)
    (state : DomainState) : Except ChannelError Unit × DomainState :=
  if eventChannelName ∉ state.connections.domain.channelNames then
    (.error .InvalidEventChannelName, state)
  else if unregisteringId ∉ state.registeredConsumers.map Prod.fst then
    (.error .NotConnected, state)
  else if disconnects then
    (.ok (), { state with
      registeredConsumers :=
        state.registeredConsumers.filter fun consumer => consumer.1 != unregisteringId })
  else (.error .NotConnected, state)

def setApplications (applications : List (String × ObjRef)) (connections : DomainConnections) :
    DomainConnections :=
  { connections with domain := { connections.domain with applications } }

def addApplication (identifier : String) (application : ObjRef)
    (connections : DomainConnections) : DomainConnections :=
  applicationRegistered objects identifier
    (setApplications ((identifier, application) :: connections.domain.applications) connections)

def removeApplication (identifier : String) (connections : DomainConnections) : DomainConnections :=
  if (Domain.lookup connections.domain.applications identifier).isNone then connections
  else
    let broken := applicationUnregistered objects identifier connections
    setApplications
      (broken.domain.applications.filter fun application => application.1 != identifier) broken

inductive ChannelEvent
  | domainEvent (event : DomainEvent)
  | addApplication (identifier : String) (application : ObjRef)
  | removeApplication (identifier : String)
  | resolveConnection (application : String) (lookups : Manager) (connection : Connection) (uuid : String)
  | releaseApplication (application : String)
  | registerWithEventChannel (registeringId eventChannelName : String) (isChannel connects : Bool)
  | unregisterFromEventChannel (unregisteringId eventChannelName : String) (disconnects : Bool)

def onConnections (change : DomainConnections → DomainConnections) (state : DomainState) : DomainState :=
  { state with connections := change state.connections }

def channelStep : ChannelEvent → DomainState → DomainState
  | .domainEvent event => onConnections (process objects event)
  | .addApplication identifier application =>
    onConnections (addApplication objects identifier application)
  | .removeApplication identifier => onConnections (removeApplication objects identifier)
  | .resolveConnection application lookups connection uuid => fun state =>
    (resolveConnection objects application lookups connection uuid state).2
  | .releaseApplication application => releaseApplication objects application
  | .registerWithEventChannel registeringId eventChannelName isChannel connects => fun state =>
    (registerWithEventChannel objects registeringId eventChannelName isChannel connects state).2
  | .unregisterFromEventChannel unregisteringId eventChannelName disconnects => fun state =>
    (unregisterFromEventChannel unregisteringId eventChannelName disconnects state).2

def EndpointKind.channel : EndpointKind → Option String
  | .FindByDomainFinderEndpoint type name =>
    if type = "eventchannel" then some (channelNameOf name) else none
  | .EventChannelEndpoint name => some (channelNameOf name)
  | _ => none

def Endpoint.channel : Endpoint → Option String
  | .plain kind _ => kind.channel
  | .PortEndpoint .. => none

def ConnectionNode.on (channelName : String) (node : ConnectionNode) : Bool :=
  node.connected && node.provides.channel == some channelName

def load (channelName : String) (entries : List (String × ConnectionNode)) : Nat :=
  entries.countP fun entry => entry.2.on channelName

def consumersOn (channelName : String) (consumers : List (String × String)) : Nat :=
  consumers.countP fun consumer => channelNameOf consumer.2 == channelName

def DomainState.users (state : DomainState) (channelName : String) : Nat :=
  load channelName (listed state.connections.connectionsByRequester) +
    load channelName state.applicationConnections +
    consumersOn channelName state.registeredConsumers

def Domain.connectionCount (domain : Domain) (channelName : String) : Option Nat :=
  (domain.eventChannels.find? fun node => node.name == channelName).map
    EventChannelNode.connectionCount

end Redhawk.Connections
