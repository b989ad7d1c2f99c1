import Redhawk.Bulkio.OutPortCore
import Redhawk.Library.LockedCode

/-!
The streams of an `OutAttachablePort` (SDDS and VITA49) with their attachments to remote ports:
`StreamAttachment`, `Stream` and `StreamContainer` of `bulkio_attachable_port.cpp` and of
`output_ports.py`. The two are the same code but for what `Language` tells apart. A stream keeps a
copy of its SRI and time as well, which nothing but getters reads; it is left out.
-/

namespace Redhawk.Bulkio.Attachable

open Library Library.Code

inductive Language
  | cpp | python
deriving DecidableEq

structure StreamDefinition where
  id : String
  details : String
deriving DecidableEq

structure StreamAttachment where
  connectionId : String
  attachId : String
  inputPort : Nat
deriving DecidableEq

structure Stream where
  streamDef : StreamDefinition
  name : String
  streamId : String
  streamAttachments : List StreamAttachment
deriving DecidableEq

/-- What an output port calls on the objects that it is connected to; an object is a number. -/
inductive RemoteCall (α Time : Type)
  | isA (object : Nat)
  | narrow (object : Nat)
  | pushSRI (object : Nat) (sri : StreamSRI) (time : Option Time)
  | pushPacket (object : Nat) (data : List α) (time : Time) (eos : Bool) (streamID : String)
  | attach (object : Nat) (stream : StreamDefinition) (name : String)
  | detach (object : Nat) (attachId : String)

inductive Reply
  | refuses
  | returns (attachId : String)
deriving DecidableEq

abbrev ContainerCode (α Time β : Type) := Code (List Stream) (RemoteCall α Time) Reply β

variable {α Time Data : Type}

def Stream.hasConnectionId (connectionId : String) (stream : Stream) : Bool :=
  stream.streamAttachments.any fun att => att.connectionId == connectionId

def hasStreamId (streamId : String) (streams : List Stream) : Bool :=
  streams.any fun stream => stream.streamId == streamId

def findByStreamId (streamId : String) (streams : List Stream) : Option Nat :=
  streams.findIdx? fun stream => stream.streamId == streamId

section Container

variable (language : Language) (answer : Nat → RemoteCall α Time → Option Reply)

def atStream {β : Type} (index : Nat) (absent : β) (body : Stream → ContainerCode α Time β) :
    ContainerCode α Time β :=
  look.bind fun streams => match streams[index]? with
    | none => Code.pure absent
    | some stream => body stream

def forEachStream (body : Nat → ContainerCode α Time Unit) : ContainerCode α Time Unit :=
  look.bind fun streams => forEach (List.range streams.length) body

/-- `StreamAttachment.detach`, which catches every exception. In C++ an attachment without an ID has
nothing to detach. -/
def detachAttachment (att : StreamAttachment) : ContainerCode α Time Unit :=
  if language = .cpp ∧ att.attachId = "" then Code.pure ()
  else tryExcept ((remote answer (.detach att.inputPort att.attachId)).bind fun _ => Code.pure ())
    (Code.pure ())

def detachWhere (chosen : StreamAttachment → Bool) (index : Nat) : ContainerCode α Time Unit :=
  atStream index () fun stream =>
    (forEach (stream.streamAttachments.filter chosen) (detachAttachment language answer)).bind
      fun _ =>
    change fun streams => streams.modify index fun stream =>
      { stream with streamAttachments := stream.streamAttachments.filter fun att => !chosen att }

def detachAll (index : Nat) : ContainerCode α Time Unit :=
  detachWhere language answer (fun _ => true) index

def detachByConnectionId (connectionId : String) (index : Nat) : ContainerCode α Time Unit :=
  detachWhere language answer (fun att =>
    att.connectionId == connectionId && (language = .cpp || att.attachId != "")) index

def newAttachment (streamDef : StreamDefinition) (name connectionId : String) (object : Nat) :
    Code Data (RemoteCall α Time) Reply StreamAttachment :=
  (remote answer (.attach object streamDef name)).bind fun reply =>
  Code.pure ⟨connectionId, match reply with
    | .refuses => ""
    | .returns attachId => attachId, object⟩

def createNewAttachment (connectionId : String) (object : Nat) (index : Nat) : ContainerCode α Time Unit :=
  atStream index () fun stream =>
    (newAttachment answer stream.streamDef stream.name connectionId object).bind fun att =>
    change fun streams => streams.modify index fun stream =>
      { stream with streamAttachments := stream.streamAttachments ++ [att] }

def addConnectionWhere (chosen : String → Bool) (connectionId : String) (object : Nat) :
    ContainerCode α Time Unit :=
  forEachStream fun index => atStream index () fun stream =>
    if chosen stream.streamId && !stream.hasConnectionId connectionId then
      createNewAttachment answer connectionId object index
    else Code.pure ()

def addConnectionToAllStreams (connectionId : String) (object : Nat) : ContainerCode α Time Unit :=
  addConnectionWhere answer (fun _ => true) connectionId object

def addConnectionToStream (connectionId : String) (object : Nat) (streamId : String) :
    ContainerCode α Time Unit :=
  addConnectionWhere answer (fun id => id == streamId) connectionId object

def attachExpected (att : String × Nat) (index : Nat) : ContainerCode α Time Unit :=
  atStream index () fun stream =>
    if stream.hasConnectionId att.1 then Code.pure ()
    else match language with
      | .cpp => tryExcept (createNewAttachment answer att.1 att.2 index) (Code.pure ())
      | .python => createNewAttachment answer att.1 att.2 index

def detachUnexpected (expectedConnectionIds : List String) (index : Nat) : ContainerCode α Time Unit :=
  atStream index () fun stream =>
    forEach ((stream.streamAttachments.map StreamAttachment.connectionId).filter fun connectionId =>
      !expectedConnectionIds.contains connectionId) fun connectionId =>
      detachByConnectionId language answer connectionId index

def updateAttachments (expected : List (String × Nat)) (index : Nat) : ContainerCode α Time Unit :=
  (forEach expected fun att => attachExpected language answer att index).bind fun _ =>
  detachUnexpected language answer (expected.map Prod.fst) index

def detachStreamId (streamId : String) : ContainerCode α Time Unit :=
  forEachStream fun index => atStream index () fun stream =>
    if stream.streamId == streamId then detachAll language answer index else Code.pure ()

def removeStreamByStreamId (streamId : String) : ContainerCode α Time Unit :=
  (detachStreamId language answer streamId).bind fun _ =>
  change fun streams => streams.filter fun stream => !(stream.streamId == streamId)

end Container

section Filtering

variable (language : Language) (answer : Nat → RemoteCall α Time → Option Reply)

/-- What `connectPort` does with the streams: it attaches those that an entry of the port's own rules
names, or all of them where no entry names the port. -/
def connectStreams (rules : List ConnectionDescriptor) (connectionId : String) (object : Nat) :
    ContainerCode α Time Unit :=
  (forEach rules fun entry =>
    if entry.connectionId == connectionId then
      addConnectionToStream answer connectionId object entry.streamId
    else Code.pure ()).bind fun _ =>
  if rules.isEmpty then addConnectionToAllStreams answer connectionId object else Code.pure ()

/-- The attachments of a new stream in `addStream`: one for each entry that names it with a live
connection, or one for each connection where no entry names the port. -/
def attachNewStream (rules : List ConnectionDescriptor) (connections : List (String × Nat))
    (streamDef : StreamDefinition) (name : String) :
    Code Data (RemoteCall α Time) Reply (List StreamAttachment) :=
  (foldEach connections (fun connection atts =>
    foldEach rules (fun entry atts =>
      if entry.connectionId == connection.1 && entry.streamId == streamDef.id then
        (newAttachment answer streamDef name connection.1 connection.2).bind fun att =>
        Code.pure (atts ++ [att])
      else Code.pure atts) atts) []).bind fun atts =>
  if rules.isEmpty then
    foldEach connections (fun connection atts =>
      (newAttachment answer streamDef name connection.1 connection.2).bind fun att =>
      Code.pure (atts ++ [att])) atts
  else Code.pure atts

def expectedAttachments (rules : List ConnectionDescriptor) (connections : List (String × Nat))
    (streamId : String) : List (String × Nat) :=
  rules.filterMap fun entry =>
    if entry.streamId == streamId then
      (connections.find? fun connection => connection.1 == entry.connectionId)
    else none

/-- What `updateConnectionFilter` does with the streams; `streamIds` are the keys of `streamsFound`
in the order of the map. -/
def applyFilter (rules : List ConnectionDescriptor) (connections : List (String × Nat))
    (streamIds : List String) : ContainerCode α Time Unit :=
  let expected := expectedAttachments rules connections
  let onStream := fun (body : Nat → ContainerCode α Time Unit) (streamId : String) =>
    look.bind fun streams => match findByStreamId streamId streams with
      | some index => body index
      | none => Code.pure ()
  (forEach (streamIds.filter fun streamId => !(expected streamId).isEmpty) fun streamId =>
    onStream (updateAttachments language answer (expected streamId)) streamId).bind fun _ =>
  if rules.isEmpty then
    forEach connections fun connection =>
      addConnectionToAllStreams answer connection.1 connection.2
  else
    forEach (streamIds.filter fun streamId => (expected streamId).isEmpty)
      (onStream (detachAll language answer))

end Filtering

end Redhawk.Bulkio.Attachable
