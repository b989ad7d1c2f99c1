import Redhawk.Bulkio.PyOutPort

/-!
`OutAttachablePort` of `output_ports.py` (SDDS and VITA49), and the public operations of all the
Python output ports. A remote exception of a detach has no effect on the port: its stream has no
port to report it to, because no code ever sets one.
-/

namespace Redhawk.Bulkio.Py

open Library Library.Code Attachable

variable {α Time : Type}

namespace OutPort

def hasStreamId (streamId : String) (port : OutPort α Time) : Bool :=
  Attachable.hasStreamId streamId port.streamContainer

def ownRules (port : OutPort α Time) : List ConnectionDescriptor :=
  port.filterTable.filter fun entry => entry.portName == port.name

def items (port : OutPort α Time) : List (String × Nat) :=
  port.outConnections.entries.map fun entry => (entry.1, entry.2)

end OutPort

section Attachments

variable (answer : Nat → RemoteCall α Time → Option Reply)

def onStreams {β : Type} (code : ContainerCode α Time β) : PortCode α Time β :=
  within OutPort.streamContainer (fun streams port => { port with streamContainer := streams }) code

def updateSRIForAllConnections : PortCode α Time Unit :=
  look.bind fun port => forEach port.streamContainer fun stream =>
    look.bind fun port => match port.sriDict.lookup stream.streamId with
      | none => Code.pure ()
      | some sriMap =>
          forEach (stream.streamAttachments.map StreamAttachment.connectionId) fun connId =>
            look.bind fun port =>
              let known := (port.sriDict.lookup stream.streamId).any fun sriMap =>
                sriMap.connections.contains connId
              match known, port.outConnections.lookup connId with
              | false, some object =>
                  (remote answer (.pushSRI object sriMap.sri sriMap.time)).bind fun _ =>
                  change (OutPort.addConnection stream.streamId connId)
              | _, _ => Code.pure ()

end Attachments

section Operations

variable (answer : Nat → RemoteCall α Time → Option Reply)

/-- Every exception inside the block becomes an `InvalidPort`. -/
def attachableConnectPort (connection : Option Nat) (connectionId : String) : PortCode α Time Unit :=
  (baseConnectPort answer connection connectionId).bind fun _ =>
  synchronized <| look.bind fun port => match port.outConnections.lookup connectionId with
    | none => raise
    | some object =>
        (onStreams (connectStreams answer port.ownRules connectionId object)).bind fun _ =>
        updateSRIForAllConnections answer

def attachableDisconnectPort (connectionId : String) : PortCode α Time Unit :=
  synchronized <|
    (tryExcept (onStreams (forEachStream (detachByConnectionId .python answer connectionId)))
      (Code.pure ())).bind fun _ =>
    look.bind fun port =>
    if connectionId ∈ port.outConnections then
      change fun port => OutPort.discardConnection connectionId
        { port with outConnections := port.outConnections.erase connectionId }
    else Code.pure ()

/-- `detach`, where an empty argument counts as none. `StreamAttachment.detach` takes no argument,
and to give it one raises. -/
def detach (attachId connectionId : String) : PortCode α Time Unit :=
  synchronized <|
    (if connectionId != "" then
      onStreams (forEachStream (detachByConnectionId .python answer connectionId))
      else Code.pure ()).bind fun _ =>
    (if attachId != "" then
      look.bind fun port =>
        if port.streamContainer.any fun stream =>
            stream.streamAttachments.any fun att => att.attachId == attachId then raise
        else Code.pure ()
      else Code.pure ()).bind fun _ =>
    if attachId == "" && connectionId == "" then
      (onStreams (forEachStream fun index => atStream index () fun stream =>
        forEach stream.streamAttachments (detachAttachment .python answer))).bind fun _ =>
      change fun port => { port with streamContainer := [] }
    else Code.pure ()

def addStream (streamDef : StreamDefinition) : PortCode α Time Bool :=
  synchronized <| look.bind fun port =>
    if port.hasStreamId streamDef.id then Code.pure false
    else
      (attachNewStream answer port.ownRules port.items streamDef "").bind fun atts =>
      (change fun port =>
        { port with
          streamContainer := port.streamContainer ++ [⟨streamDef, "", streamDef.id, atts⟩] }).bind
        fun _ =>
      Code.pure true

/-- `attach` takes no lock for the removal. -/
def attach (streamDef : StreamDefinition) : PortCode α Time Bool :=
  (onStreams (removeStreamByStreamId .python answer streamDef.id)).bind fun _ => addStream answer streamDef

/-- `updateStream` returns for an unknown stream without releasing the lock. -/
def updateStream (streamDef : StreamDefinition) : PortCode α Time Bool :=
  acquire.bind fun _ => look.bind fun port =>
    if port.hasStreamId streamDef.id then
      (onStreams (removeStreamByStreamId .python answer streamDef.id)).bind fun _ =>
      release.bind fun _ =>
      addStream answer streamDef
    else Code.pure false

def attachablePushSRI (H : StreamSRI) (T : Time) : PortCode α Time Unit :=
  synchronized <|
    (change fun port =>
      { port with sriDict := port.sriDict.insert H.streamID ⟨H, [], some T⟩ }).bind fun _ =>
    look.bind fun port =>
    let push := fun connection : (_ : String) × Nat =>
      tryExcept
        ((remote answer (.pushSRI connection.2 H (some T))).bind fun _ =>
          change (OutPort.addConnection H.streamID connection.1))
        (Code.pure ())
    (forEach port.outConnections.entries fun connection =>
      forEach port.ownRules fun entry =>
        if entry.connectionId == connection.1 && entry.streamId == H.streamID then push connection
        else Code.pure ()).bind fun _ =>
    if port.ownRules.isEmpty then forEach port.outConnections.entries push else Code.pure ()

def attachableUpdateConnectionFilter (filterTable : Option (List ConnectionDescriptor)) :
    PortCode α Time Unit :=
  synchronized <|
    (change fun port => { port with filterTable := filterTable.getD [] }).bind fun _ =>
    look.bind fun port =>
    (onStreams (applyFilter .python answer port.ownRules port.items
      (port.streamContainer.map Stream.streamId).dedup)).bind fun _ =>
    updateSRIForAllConnections answer

end Operations

section Calls

/-- The public operations; those of a stream name its object, and `depth` is what the interpreter
leaves for the recursion. -/
inductive PortCall (α Time : Type)
  | connectPort (connection : Option Nat) (connectionId : String)
  | disconnectPort (connectionId : String)
  | updateConnectionFilter (filterTable : Option (List ConnectionDescriptor))
  | pushSRI (H : StreamSRI) (T : Option Time)
  | pushPacket (data : List α) (T : Time) (EOS : Bool) (streamID : String)
  | createStream (stream : String ⊕ StreamSRI)
  | write (depth handle : Nat) (data : List α) (time : Time)
  | setMetadata (handle : Nat) (setter : MetadataChange)
  | setBufferSize (handle : Nat) (samples : Int)
  | flush (handle : Nat)
  | close (handle : Nat)
  | addStream (streamDef : StreamDefinition)
  | updateStream (streamDef : StreamDefinition)
  | attach (streamDef : StreamDefinition)
  | detach (attachId connectionId : String)
  | removeStream (streamId : String)

variable (clock : Clock Time) (answer : Nat → RemoteCall α Time → Option Reply)

def dispatch (attachable other : PortCode α Time Unit) : PortCode α Time Unit :=
  look.bind fun port => if port.kind = .attachable then attachable else other

def ofAttachable (body : PortCode α Time Bool) : PortCode α Time Unit :=
  dispatch (body.bind fun _ => Code.pure ()) raise

def perform : PortCall α Time → PortCode α Time Unit
  | .connectPort connection connectionId =>
      dispatch (attachableConnectPort answer connection connectionId)
        (baseConnectPort answer connection connectionId)
  | .disconnectPort connectionId =>
      dispatch (attachableDisconnectPort answer connectionId)
        (baseDisconnectPort clock answer connectionId)
  | .updateConnectionFilter filterTable =>
      dispatch (attachableUpdateConnectionFilter answer filterTable)
        (baseUpdateConnectionFilter filterTable)
  | .pushSRI H none => pushSRI clock answer H
  | .pushSRI H (some T) => dispatch (attachablePushSRI answer H T) raise
  | .pushPacket data T EOS streamID => pushPacket clock answer data T EOS streamID
  | .createStream stream => (createStream clock answer stream).bind fun _ => Code.pure ()
  | .write depth handle data time => write clock answer depth handle data time
  | .setMetadata handle setter => setMetadata clock answer handle setter
  | .setBufferSize handle samples => setBufferSize clock answer handle samples
  | .flush handle => look.bind fun port =>
      if port.kind.buffered then flush clock answer handle else raise
  | .close handle => close clock answer handle
  | .addStream streamDef => ofAttachable (addStream answer streamDef)
  | .updateStream streamDef => ofAttachable (updateStream answer streamDef)
  | .attach streamDef => ofAttachable (attach answer streamDef)
  | .detach attachId connectionId => dispatch (detach answer attachId connectionId) raise
  | .removeStream streamId => dispatch (onStreams (removeStreamByStreamId .python answer streamId)) raise

end Calls

end Redhawk.Bulkio.Py
