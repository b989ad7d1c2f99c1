import Redhawk.Bulkio.PyAttachablePort
import Redhawk.Library.Runs

/-!
`OutAttachablePort` of `bulkio_attachable_port.cpp`, behind `updatingPortsLock`, and what the C++
and the Python port have in common: the operations, and how a port looks from outside.
-/

namespace Redhawk.Bulkio.Attachable

open Library Library.Code

variable {α Time : Type}

structure AttachableSriMapStruct (Time : Type) where
  sri : StreamSRI
  time : Time
  connections : List String

structure OutAttachablePort (Time : Type) where
  name : String
  outConnections : List (Nat × String)
  active : Bool
  filterTable : List ConnectionDescriptor
  currentSRIs : AList fun _ : String => AttachableSriMapStruct Time
  userId : String
  streamContainer : List Stream

namespace OutAttachablePort

def ownRules (port : OutAttachablePort Time) : List ConnectionDescriptor :=
  port.filterTable.filter fun entry => entry.portName == port.name

def getConnectedPort (connectionId : String) (port : OutAttachablePort Time) : Option Nat :=
  (port.outConnections.find? fun connection => connection.2 == connectionId).map Prod.fst

def connections (port : OutAttachablePort Time) : List (String × Nat) :=
  port.outConnections.map Prod.swap

def insertConnection (streamId connectionId : String) (port : OutAttachablePort Time) :
    OutAttachablePort Time :=
  match port.currentSRIs.lookup streamId with
  | none => port
  | some entry =>
      { port with
        currentSRIs := port.currentSRIs.insert streamId
          { entry with
            connections := connectionId :: entry.connections.filter (· != connectionId) } }

def eraseConnection (connectionId : String) (port : OutAttachablePort Time) : OutAttachablePort Time :=
  { port with
    currentSRIs := port.currentSRIs.keys.foldl (fun sris key => match sris.lookup key with
      | none => sris
      | some entry => sris.insert key
          { entry with connections := entry.connections.filter (· != connectionId) })
      port.currentSRIs }

def recordSRI (H : StreamSRI) (T : Time) (port : OutAttachablePort Time) : OutAttachablePort Time :=
  { port with
    currentSRIs := port.currentSRIs.insert H.streamID <|
      match port.currentSRIs.lookup H.streamID with
      | none => ⟨H, T, []⟩
      | some entry => ⟨H, entry.time, []⟩ }

end OutAttachablePort

abbrev AttachableCode (α Time β : Type) :=
  Code (OutAttachablePort Time) (RemoteCall α Time) Reply β

section Operations

variable (answer : Nat → RemoteCall α Time → Option Reply)

def onContainer {β : Type} (code : ContainerCode α Time β) : AttachableCode α Time β :=
  within OutAttachablePort.streamContainer
    (fun streams port => { port with streamContainer := streams }) code

/-- `pushSRI` to one connection, and the note that it has the SRI; exceptions are caught. -/
def sendSRI (object : Nat) (connectionId streamId : String) (sri : StreamSRI) (time : Time) :
    AttachableCode α Time Unit :=
  tryExcept
    ((remote answer (.pushSRI object sri (some time))).bind fun _ =>
      change (OutAttachablePort.insertConnection streamId connectionId))
    (Code.pure ())

def Stream.getConnectionIds (stream : Stream) : List String :=
  ((stream.streamAttachments.map StreamAttachment.connectionId).dedup).insertionSort (· ≤ ·)

def updateSRIForAllConnections : AttachableCode α Time Unit :=
  look.bind fun port => forEach port.streamContainer fun stream =>
    look.bind fun port => match port.currentSRIs.lookup stream.streamId with
      | none => Code.pure ()
      | some entry => forEach stream.getConnectionIds fun connId =>
          if entry.connections.contains connId then Code.pure ()
          else match port.getConnectedPort connId with
            | none => Code.pure ()
            | some object =>
                sendSRI answer object connId stream.streamId entry.sri entry.time

def connectPort (connection : Nat) (connectionId : String) : AttachableCode α Time Unit :=
  synchronized <| (remote answer (.narrow connection)).bind fun _ =>
    look.bind fun port =>
    (onContainer (connectStreams answer port.ownRules connectionId connection)).bind fun _ =>
    (change fun port =>
      { port with
        outConnections := port.outConnections ++ [(connection, connectionId)]
        active := true }).bind fun _ =>
    updateSRIForAllConnections answer

def disconnectPort (connectionId : String) : AttachableCode α Time Unit :=
  synchronized <|
    (tryExcept (onContainer (forEachStream (detachByConnectionId .cpp answer connectionId)))
      (Code.pure ())).bind fun _ =>
    change fun port =>
      let connections := port.outConnections.eraseP fun connection => connection.2 == connectionId
      OutAttachablePort.eraseConnection connectionId
        { port with
          outConnections := connections
          active := if connections.isEmpty then false else port.active }

def updateConnectionFilter (filterTable : List ConnectionDescriptor) : AttachableCode α Time Unit :=
  synchronized <|
    (change fun port => { port with filterTable := filterTable }).bind fun _ =>
    look.bind fun port =>
    (onContainer (applyFilter .cpp answer port.ownRules port.connections
      ((port.streamContainer.map Stream.streamId).dedup.insertionSort (· ≤ ·)))).bind fun _ =>
    updateSRIForAllConnections answer

def pushSRI (H : StreamSRI) (T : Time) : AttachableCode α Time Unit :=
  synchronized <| (change (OutAttachablePort.recordSRI H T)).bind fun _ =>
    look.bind fun port =>
    let push := fun connection : Nat × String =>
      sendSRI answer connection.1 connection.2 H.streamID H T
    if port.active then
      (forEach port.outConnections fun connection =>
        forEach port.ownRules fun entry =>
          if entry.connectionId == connection.2 && entry.streamId == H.streamID then
            push connection
          else Code.pure ()).bind fun _ =>
      if port.ownRules.isEmpty || port.outConnections.isEmpty then
        forEach port.outConnections push
      else Code.pure ()
    else Code.pure ()

def addStream (streamDef : StreamDefinition) : AttachableCode α Time Bool :=
  synchronized <| look.bind fun port =>
    if hasStreamId streamDef.id port.streamContainer then Code.pure false
    else
      tryExcept
        ((attachNewStream answer port.ownRules port.connections streamDef port.userId).bind fun atts =>
          (change fun port =>
            { port with
              streamContainer :=
                port.streamContainer ++ [⟨streamDef, port.userId, streamDef.id, atts⟩] }).bind
            fun _ => Code.pure true)
        (Code.pure false)

/-- The lock is free between the removal and `addStream`. -/
def updateStream (streamDef : StreamDefinition) : AttachableCode α Time Bool :=
  (synchronized <| look.bind fun port =>
    if hasStreamId streamDef.id port.streamContainer then
      (onContainer (removeStreamByStreamId .cpp answer streamDef.id)).bind fun _ => Code.pure true
    else Code.pure false).bind fun known =>
  if known then addStream answer streamDef else Code.pure false

def removeStream (streamId : String) : AttachableCode α Time Unit :=
  synchronized (onContainer (removeStreamByStreamId .cpp answer streamId))

end Operations

section Calls

/-- The operations that the ports of both languages have, but for `attach` and `detach`. -/
inductive AttachableCall (Time : Type)
  | connectPort (object : Nat) (connectionId : String)
  | disconnectPort (connectionId : String)
  | updateConnectionFilter (filterTable : List ConnectionDescriptor)
  | pushSRI (H : StreamSRI) (T : Time)
  | addStream (streamDef : StreamDefinition)
  | updateStream (streamDef : StreamDefinition)
  | removeStream (streamId : String)

variable (answer : Nat → RemoteCall α Time → Option Reply)

def perform : AttachableCall Time → AttachableCode α Time Unit
  | .connectPort object connectionId => connectPort answer object connectionId
  | .disconnectPort connectionId => disconnectPort answer connectionId
  | .updateConnectionFilter filterTable => updateConnectionFilter answer filterTable
  | .pushSRI H T => pushSRI answer H T
  | .addStream streamDef => (addStream answer streamDef).bind fun _ => Code.pure ()
  | .updateStream streamDef => (updateStream answer streamDef).bind fun _ => Code.pure ()
  | .removeStream streamId => removeStream answer streamId

def AttachableCall.toPython : AttachableCall Time → Py.PortCall α Time
  | .connectPort object connectionId => .connectPort (some object) connectionId
  | .disconnectPort connectionId => .disconnectPort connectionId
  | .updateConnectionFilter filterTable => .updateConnectionFilter (some filterTable)
  | .pushSRI H T => .pushSRI H (some T)
  | .addStream streamDef => .addStream streamDef
  | .updateStream streamDef => .updateStream streamDef
  | .removeStream streamId => .removeStream streamId

end Calls

end Redhawk.Bulkio.Attachable
