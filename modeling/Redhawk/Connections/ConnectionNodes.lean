import Redhawk.Connections.Endpoints

/-!
A connection between two endpoints, made and broken through the uses port.
-/

namespace Redhawk.Connections

structure ConnectionNode where
  uses : Endpoint
  provides : Endpoint
  identifier : String
  requesterId : String
  connectionRecordId : String
  connected : Bool
deriving DecidableEq

structure Connection where
  usesPort : Port
  provides : ProvidesSide
  id : String

/-- `uuid` is what `generateUUID` returns, if it is called. -/
def ParseConnection (connection : Connection) (uuid : String) : Option ConnectionNode :=
  match ParsePort connection.usesPort with
  | none => none
  | some usesEndpoint =>
    match ParseProvidesEndpoint connection.provides with
    | none => none
    | some providesEndpoint =>
      some {
        uses := usesEndpoint
        provides := providesEndpoint
        identifier := if connection.id = "" then uuid else connection.id
        requesterId := ""
        connectionRecordId := ""
        connected := false }

namespace ConnectionNode

def allowDeferral (node : ConnectionNode) : Bool :=
  if !(node.uses.isResolved || node.uses.allowDeferral) then false
  else if !(node.provides.isResolved || node.provides.allowDeferral) then false
  else true

def allowDeferralOf (node : ConnectionNode) (type : DependencyType) (identifier : String) : Bool :=
  if node.uses.checkDependency type identifier && !node.uses.allowDeferral then false
  else if node.provides.checkDependency type identifier && !node.provides.allowDeferral then false
  else true

def checkDependency (node : ConnectionNode) (type : DependencyType) (identifier : String) : Bool :=
  node.uses.checkDependency type identifier || node.provides.checkDependency type identifier

end ConnectionNode

inductive ConnectError
  /-- A lookup raised, and exceptions are enabled. -/
  | LookupError
  | InvalidConnection (what : String)
deriving DecidableEq

structure Connecting where
  result : Except ConnectError Bool
  node : ConnectionNode
  domain : Domain

def ConnectionNode.connect (objects : Objects) (manager : Manager) (node : ConnectionNode)
    (domain : Domain) : Connecting :=
  if node.connected then ⟨.ok true, node, domain⟩
  else
    let uses := node.uses.resolve objects manager domain
    if uses.result.isNone && manager.exceptionsEnabled then
      ⟨.error .LookupError, { node with uses := uses.endpoint }, uses.domain⟩
    else
      let provides := node.provides.resolve objects manager uses.domain
      let resolved := { node with uses := uses.endpoint, provides := provides.endpoint }
      if provides.result.isNone && manager.exceptionsEnabled then
        ⟨.error .LookupError, resolved, provides.domain⟩
      else
        match uses.result.join, provides.result.join with
        | some usesObject, some providesPort =>
          if !(provides.domain.exists_ usesObject && objects.isPort usesObject) then
            ⟨.error (.InvalidConnection "Uses port is not a CF::Port"), resolved, provides.domain⟩
          else
            let called := { provides.domain with
              portCalls := provides.domain.portCalls ++ [.connectPort usesObject providesPort node.identifier] }
            match objects.connectPort usesObject providesPort node.identifier with
            | none => ⟨.ok true, { resolved with connected := true }, called⟩
            | some what => ⟨.error (.InvalidConnection what), resolved, called⟩
        | _, _ =>
          if resolved.allowDeferral then ⟨.ok false, resolved, provides.domain⟩
          else if !resolved.uses.isResolved && !resolved.uses.allowDeferral then
            ⟨.error (.InvalidConnection
              (resolved.uses.description ++ " cannot be resolved or deferred")), resolved,
              provides.domain⟩
          else
            ⟨.error (.InvalidConnection
              (resolved.provides.description ++ " cannot be resolved or deferred")), resolved,
              provides.domain⟩

def Endpoint.countedChannel : Endpoint → Option String
  | .plain (.FindByDomainFinderEndpoint type name) _ =>
    if type = "eventchannel" then some (channelNameOf name) else none
  | _ => none

def ConnectionNode.disconnect (objects : Objects) (node : ConnectionNode) (domain : Domain) :
    ConnectionNode × Domain :=
  if !node.connected then (node, domain)
  else
    let released := { node with
      uses := node.uses.release
      provides := node.provides.release
      connected := false }
    match node.uses.object with
    | none => (released, domain)
    | some usesPort =>
      if !(domain.exists_ usesPort && objects.isPort usesPort) then (released, domain)
      else
        let called := { domain with
          portCalls := domain.portCalls ++ [.disconnectPort usesPort node.identifier] }
        match released.provides.countedChannel with
        | some channelName => (released, decrementEventChannelConnections channelName called)
        | none => (released, called)

variable (objects : Objects)

@[simp] theorem connect_identifier (manager : Manager) (node : ConnectionNode)
    (domain : Domain) :
    (node.connect objects manager domain).node.identifier = node.identifier := by
  unfold ConnectionNode.connect
  grind

@[simp] theorem connect_connectionRecordId (manager : Manager)
    (node : ConnectionNode) (domain : Domain) :
    (node.connect objects manager domain).node.connectionRecordId = node.connectionRecordId := by
  unfold ConnectionNode.connect
  grind

@[simp] theorem disconnect_identifier (node : ConnectionNode)
    (domain : Domain) : (node.disconnect objects domain).1.identifier = node.identifier := by
  unfold ConnectionNode.disconnect
  grind

@[simp] theorem disconnect_connectionRecordId (node : ConnectionNode) (domain : Domain) :
    (node.disconnect objects domain).1.connectionRecordId = node.connectionRecordId := by
  unfold ConnectionNode.disconnect
  grind

end Redhawk.Connections
