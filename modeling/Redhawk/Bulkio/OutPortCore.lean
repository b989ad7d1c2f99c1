import Redhawk.Bulkio.OutTransport

/-!
The C++ BULKIO output port of `bulkio_out_port.cpp` with its streams (`bulkio_out_stream.cpp`) and
its connections (`UsesPort.cpp`).

`updatingPortsLock` is not recursive. A function that takes it, or that can reach one that does, is
given `held`, whether the call it is part of has the lock already; to take it again ends the call
as `deadlocked`. Listeners, logging and statistics have no effect on the state and are left out.
-/

namespace Redhawk.Bulkio

structure ConnectionDescriptor where
  connectionId : String
  streamId : String
  portName : String
deriving DecidableEq

/-- `OutputStream::Impl` and `BufferedOutputStream::Impl`; XML and file streams leave the buffer
unused. `buffer` holds the first `_bufferOffset` samples of `_buffer`. -/
structure OutputStream (α : Type) where
  streamID : String
  sri : StreamSRI
  modcount : Nat := 0
  bufferSize : Nat := 0
  buffer : List α := []
  bufferTime : PrecisionUTCTime := .notSet
deriving DecidableEq

structure PortConnection (α : Type) where
  connectionId : String
  transport : Transport α

/-- `buffered` tells whether the streams are `BufferedOutputStream`s. `disconnected` is a history
variable, the connections taken down so far. -/
structure OutPort (α : Type) where
  name : String
  buffered : Bool
  active : Bool := false
  filterTable : List ConnectionDescriptor := []
  connections : List (PortConnection α) := []
  /-- Every stream object created so far; the stream map refers to them by position. -/
  objects : List (OutputStream α) := []
  streams : AList (fun _ : String => Nat) := ∅
  disconnected : List (PortConnection α) := []

/-- How far a call got: it returned (perhaps with an exception), it waits for the lock that it
holds itself, or it was still in a loop when it was last looked at. -/
inductive CallOutcome where
  | returned | deadlocked | unfinished
deriving DecidableEq

abbrev OutResult (α : Type) := CallOutcome × OutPort α

variable {α : Type}

def OutResult.andThen (call : OutResult α) (next : OutPort α → OutResult α) : OutResult α :=
  match call with
  | (.returned, port) => next port
  | (stuck, port) => (stuck, port)

section Metadata

inductive MetadataChange where
  | sri (sri : StreamSRI)
  | xstart (start : ℚ)
  | xdelta (delta : ℚ)
  | xunits (units : Int16)
  | subsize (size : Int32)
  | ystart (start : ℚ)
  | ydelta (delta : ℚ)
  | yunits (units : Int16)
  | complex (mode : Bool)
  | blocking (mode : Bool)
  | keywords (properties : List DataType)
  | setKeyword (name : String) (value : Any)
  | eraseKeyword (name : String)
deriving DecidableEq

def sriDiffers (current sri : StreamSRI) : Bool :=
  Sri.compareFields current sri ||| Sri.STREAMID != Sri.STREAMID

def setProperty (name : String) (value : Any) : List DataType → List DataType
  | [] => [⟨name, value⟩]
  | property :: rest =>
      if property.id == name then { property with value := value } :: rest
      else property :: setProperty name value rest

def MetadataChange.apply (streamID : String) (sri : StreamSRI) : MetadataChange → Option StreamSRI
  | .sri new => if sriDiffers sri new then some { new with streamID := streamID } else none
  | .xstart start => if sri.xstart != start then some { sri with xstart := start } else none
  | .xdelta delta => if sri.xdelta != delta then some { sri with xdelta := delta } else none
  | .xunits units => if sri.xunits != units then some { sri with xunits := units } else none
  | .subsize size => if sri.subsize != size then some { sri with subsize := size } else none
  | .ystart start => if sri.ystart != start then some { sri with ystart := start } else none
  | .ydelta delta => if sri.ydelta != delta then some { sri with ydelta := delta } else none
  | .yunits units => if sri.yunits != units then some { sri with yunits := units } else none
  | .complex mode =>
      let mode := if mode then 1 else 0
      if sri.mode != mode then some { sri with mode := mode } else none
  | .blocking mode => if sri.blocking != mode then some { sri with blocking := mode } else none
  | .keywords properties =>
      if Sri.compareKeywords sri.keywords properties then none
      else some { sri with keywords := properties }
  | .setKeyword name value =>
      let changed := some { sri with keywords := setProperty name value sri.keywords }
      match sri.keywords.find? fun property => property.id == name with
      | some property => if compareAnys property.value value then none else changed
      | none => changed
  | .eraseKeyword name =>
      if sri.keywords.any fun property => property.id == name then
        some { sri with keywords := sri.keywords.eraseP fun property => property.id == name }
      else none

end Metadata

namespace OutPort

section Streams

def updateObject (handle : Nat) (update : OutputStream α → OutputStream α) (port : OutPort α) :
    OutPort α :=
  { port with objects := port.objects.modify handle update }

def insertStream (sri : StreamSRI) (port : OutPort α) : OutPort α :=
  { port with
    objects := port.objects ++ [{ streamID := sri.streamID, sri := sri }]
    streams := port.streams.insert sri.streamID port.objects.length }

def registered (streamID : String) (port : OutPort α) : Option (Nat × OutputStream α) :=
  (port.streams.lookup streamID).bind fun handle =>
    port.objects[handle]?.map fun stream => (handle, stream)

def ensureStream (streamID : String) (port : OutPort α) : OutPort α :=
  match port.streams.lookup streamID with
  | some _ => port
  | none => port.insertStream (Sri.create streamID)

def isListed (port : OutPort α) : Bool :=
  port.filterTable.any fun filter => filter.portName == port.name

def isStreamRoutedToConnection (streamID connectionId : String) (port : OutPort α) : Bool :=
  (port.filterTable.any fun filter => filter.portName == port.name &&
    (filter.connectionId == connectionId && filter.streamId == streamID)) || !port.isListed

end Streams

section Sending

def sendOn (fuel : Nat) (data : List α) (T : PrecisionUTCTime) (eos : Bool) (handle : Nat)
    (stream : OutputStream α) (transport : Transport α) : Bool × Transport α :=
  match transport.pushSRI stream.streamID stream.sri stream.modcount handle with
  | (false, transport) => (true, { transport with alive := false })
  | (true, transport) =>
      match transport.pushPacket fuel data T eos stream.streamID (handle, stream.sri) with
      | (none, transport) => (false, transport)
      | (some .fatal, transport) => (true, { transport with alive := false })
      | (some _, transport) => (true, transport)

def sendOnAll (fuel : Nat) (data : List α) (T : PrecisionUTCTime) (eos : Bool) (handle : Nat)
    (stream : OutputStream α) (routed : String → Bool) :
    List (PortConnection α) → Bool × List (PortConnection α)
  | [] => (true, [])
  | connection :: rest =>
      if connection.transport.alive && routed connection.connectionId then
        match sendOn fuel data T eos handle stream connection.transport with
        | (true, transport) =>
            let (ended, rest) := sendOnAll fuel data T eos handle stream routed rest
            (ended, { connection with transport := transport } :: rest)
        | (false, transport) => (false, { connection with transport := transport } :: rest)
      else
        let (ended, rest) := sendOnAll fuel data T eos handle stream routed rest
        (ended, connection :: rest)

def sendOnConnections (fuel : Nat) (data : List α) (T : PrecisionUTCTime) (eos : Bool)
    (handle : Nat) (stream : OutputStream α) (port : OutPort α) : Bool × OutPort α :=
  if port.active then
    let (ended, connections) := sendOnAll fuel data T eos handle stream
      (fun connectionId => port.isStreamRoutedToConnection stream.streamID connectionId)
      port.connections
    (ended, { port with connections := connections })
  else (true, port)

def sendLocked (fuel : Nat) (data : List α) (T : PrecisionUTCTime) (eos : Bool)
    (streamID : String) (port : OutPort α) : OutResult α :=
  let port := port.ensureStream streamID
  match port.registered streamID with
  | none => (.returned, port)
  | some (handle, stream) =>
      match port.sendOnConnections fuel data T eos handle stream with
      | (true, port) =>
          (.returned, if eos then { port with streams := port.streams.erase streamID } else port)
      | (false, port) => (.unfinished, port)

def sendPacket (fuel : Nat) (held : Bool) (data : List α) (T : PrecisionUTCTime) (eos : Bool)
    (streamID : String) (port : OutPort α) : OutResult α :=
  if held then (.deadlocked, port) else port.sendLocked fuel data T eos streamID

end Sending

section StreamCalls

def flushBuffer (fuel : Nat) (held eos : Bool) (handle : Nat) (port : OutPort α) : OutResult α :=
  match port.objects[handle]? with
  | none => (.returned, port)
  | some stream =>
      (port.sendPacket fuel held stream.buffer stream.bufferTime eos stream.streamID).andThen
        fun port => (.returned, port.updateObject handle fun stream => { stream with buffer := [] })

def flush (fuel : Nat) (held : Bool) (handle : Nat) (port : OutPort α) : OutResult α :=
  match port.objects[handle]? with
  | none => (.returned, port)
  | some stream =>
      if stream.buffer.isEmpty then (.returned, port) else port.flushBuffer fuel held false handle

def modifyingStreamMetadata (fuel : Nat) (held : Bool) (handle : Nat) (port : OutPort α) : OutResult α :=
  if port.buffered then port.flush fuel held handle else (.returned, port)

def modify (fuel : Nat) (held : Bool) (handle : Nat) (change : MetadataChange) (port : OutPort α) :
    OutResult α :=
  match port.objects[handle]? with
  | none => (.returned, port)
  | some stream =>
      match change.apply stream.streamID stream.sri with
      | none => (.returned, port)
      | some sri =>
          (port.modifyingStreamMetadata fuel held handle).andThen fun port =>
            (.returned, port.updateObject handle fun stream =>
              { stream with sri := sri, modcount := stream.modcount + 1 })

def doBuffer (fuel : Nat) (handle : Nat) :
    Nat → List α → PrecisionUTCTime → OutPort α → OutResult α
  | 0, _, _, port => (.unfinished, port)
  | rounds + 1, data, time, port =>
      match port.objects[handle]? with
      | none => (.returned, port)
      | some stream =>
          let count := min data.length (stream.bufferSize - stream.buffer.length)
          let buffer := stream.buffer ++ data.take count
          let bufferTime := if stream.buffer.isEmpty then time else stream.bufferTime
          let port := port.updateObject handle fun stream =>
            { stream with buffer := buffer, bufferTime := bufferTime }
          let flushed : OutResult α := if stream.bufferSize ≤ buffer.length then
            port.flushBuffer fuel false false handle else (.returned, port)
          flushed.andThen fun port =>
            if count < data.length then
              doBuffer fuel handle rounds (data.drop count) (time.add (stream.sri.xdelta * count))
                port
            else (.returned, port)

def write (fuel : Nat) (handle : Nat) (data : List α) (time : PrecisionUTCTime)
    (port : OutPort α) : OutResult α :=
  match port.objects[handle]? with
  | none => (.returned, port)
  | some stream =>
      if !port.buffered || stream.bufferSize == 0 ||
          (stream.buffer.isEmpty && decide (stream.bufferSize ≤ data.length)) then
        port.sendPacket fuel false data time false stream.streamID
      else port.doBuffer fuel handle fuel data time

/-- The loop of `NumericOutputStream::_writeMultiple` for scalar data, on the timestamps from the
current one on. -/
def writeMultiple (fuel : Nat) (handle : Nat) (data : List α) :
    Nat → List (Nat × PrecisionUTCTime) → OutPort α → OutResult α
  | _, [], port => (.returned, port)
  | first, [(_, time)], port =>
      if first < data.length then port.write fuel handle (data.drop first) time
      else (.returned, port)
  | first, (_, time) :: next :: rest, port =>
      match port.objects[handle]? with
      | none => (.returned, port)
      | some stream =>
          if first < data.length then
            let offset := min next.1 data.length
            let last := if stream.sri.complex then offset * 2 else offset
            (port.write fuel handle ((data.take last).drop first) time).andThen
              (writeMultiple fuel handle data last (next :: rest))
          else (.returned, port)

def setBufferSize (fuel : Nat) (handle samples : Nat) (port : OutPort α) : OutResult α :=
  match port.objects[handle]? with
  | none => (.returned, port)
  | some stream =>
      if samples = stream.bufferSize then (.returned, port)
      else
        let port := port.updateObject handle fun stream => { stream with bufferSize := samples }
        if samples ≤ stream.buffer.length then port.flush fuel false handle else (.returned, port)

def close (fuel : Nat) (handle : Nat) (port : OutPort α) : OutResult α :=
  match port.objects[handle]? with
  | none => (.returned, port)
  | some stream =>
      if port.buffered && !stream.buffer.isEmpty then port.flushBuffer fuel false true handle
      else port.sendPacket fuel false [] .notSet true stream.streamID

end StreamCalls

section PortCalls

def pushSriOn (handle : Nat) (stream : OutputStream α) (routed : String → Bool)
    (connection : PortConnection α) : PortConnection α :=
  if connection.transport.alive && routed connection.connectionId then
    { connection with transport := (connection.transport.pushSRI stream.streamID stream.sri
        stream.modcount handle).2 }
  else connection

def pushSRI (fuel : Nat) (sri : StreamSRI) (port : OutPort α) : OutResult α :=
  let stored : OutResult α := match port.streams.lookup sri.streamID with
    | none => (.returned, port.insertStream sri)
    | some handle => port.modify fuel true handle (.sri sri)
  stored.andThen fun port =>
    match port.registered sri.streamID with
    | none => (.returned, port)
    | some (handle, stream) =>
        let routed := fun connectionId =>
          port.isStreamRoutedToConnection sri.streamID connectionId
        (.returned, if port.active then
          { port with connections := port.connections.map (pushSriOn handle stream routed) }
          else port)

def createStream (streamID : String) (port : OutPort α) : OutPort α :=
  port.ensureStream streamID

def createStreamFrom (fuel : Nat) (sri : StreamSRI) (port : OutPort α) : OutResult α :=
  match port.streams.lookup sri.streamID with
  | some handle => port.modify fuel true handle (.sri sri)
  | none => (.returned, port.insertStream sri)

def connectPort (connectionId : String) (remote : Remote) (port : OutPort α) : OutPort α :=
  if port.connections.any fun connection => connection.connectionId == connectionId then port
  else
    { port with
      connections := port.connections ++ [⟨connectionId, { remote := remote }⟩]
      active := true }

def source (port : OutPort α) (streamID : String) : Option (Nat × StreamSRI) :=
  (port.registered streamID).map fun (handle, stream) => (handle, stream.sri)

def disconnectPort (connectionId : String) (port : OutPort α) : OutPort α :=
  let matching := fun connection : PortConnection α => connection.connectionId == connectionId
  match port.connections.find? matching with
  | none => port
  | some connection =>
      let connections := port.connections.eraseP matching
      { port with
        connections := connections
        active := if connections.isEmpty then false else port.active
        disconnected := port.disconnected ++
          [{ connection with transport := connection.transport.disconnect port.source }] }

def updateConnectionFilter (filterTable : List ConnectionDescriptor) (port : OutPort α) : OutPort α :=
  { port with filterTable := filterTable }

end PortCalls

end OutPort

/-- A public call. Stream calls name the stream object that the caller's handle refers to. -/
inductive OutCall (α : Type) where
  | pushSRI (sri : StreamSRI)
  | pushPacket (data : List α) (T : PrecisionUTCTime) (eos : Bool) (streamID : String)
  | createStream (streamID : String)
  | createStreamFrom (sri : StreamSRI)
  | write (handle : Nat) (data : List α) (time : PrecisionUTCTime)
  | writeMultiple (handle : Nat) (data : List α) (times : List (Nat × PrecisionUTCTime))
  | modify (handle : Nat) (change : MetadataChange)
  | setBufferSize (handle samples : Nat)
  | flush (handle : Nat)
  | close (handle : Nat)
  | connectPort (connectionId : String) (remote : Remote)
  | disconnectPort (connectionId : String)
  | updateConnectionFilter (filterTable : List ConnectionDescriptor)

def OutPort.perform (fuel : Nat) (port : OutPort α) : OutCall α → OutResult α
  | .pushSRI sri => port.pushSRI fuel sri
  | .pushPacket data T eos streamID => port.sendPacket fuel false data T eos streamID
  | .createStream streamID => (.returned, port.createStream streamID)
  | .createStreamFrom sri => port.createStreamFrom fuel sri
  | .write handle data time => port.write fuel handle data time
  | .writeMultiple handle data times => port.writeMultiple fuel handle data 0 times
  | .modify handle change => port.modify fuel false handle change
  | .setBufferSize handle samples => port.setBufferSize fuel handle samples
  | .flush handle => port.flush fuel false handle
  | .close handle => port.close fuel handle
  | .connectPort connectionId remote => (.returned, port.connectPort connectionId remote)
  | .disconnectPort connectionId => (.returned, port.disconnectPort connectionId)
  | .updateConnectionFilter filterTable => (.returned, port.updateConnectionFilter filterTable)

def OutResult.perform (fuel : Nat) (call : OutCall α) (result : OutResult α) : OutResult α :=
  result.andThen fun port => port.perform fuel call

end Redhawk.Bulkio
