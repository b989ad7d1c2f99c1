import Redhawk.Bulkio.StreamContainer

/-!
The Python output port of `output_ports.py` and its streams (`output_streams.py`), as code that
runs behind `port_lock`. Listeners, logging and statistics have no effect on the lock or on what is
sent and are left out; the data of a write is what is left after its reformatting.
-/

namespace Redhawk.Bulkio.Py

open Library Library.Code Attachable

inductive PortKind
  | plain | numeric | bit | file | xml | attachable
deriving DecidableEq

def PortKind.buffered : PortKind → Bool
  | .numeric | .bit => true
  | _ => false

/-- The timestamps: `bulkio.timestamp.notSet()`, `tcstatus == TCS_VALID` and `time + seconds`. -/
structure Clock (Time : Type) where
  notSet : Time
  valid : Time → Bool
  advance : Time → ℚ → Time

structure SriMapStruct (Time : Type) where
  sri : StreamSRI
  connections : List String
  time : Option Time

/-- `OutputStream` and `BufferedOutputStream`; the others leave the buffer unused. -/
structure OutputStream (α Time : Type) where
  sri : StreamSRI
  sriModified : Bool
  buffer : List α
  bufferSize : Nat
  bufferTime : Time

/-- A stream object is its place in `objects`, which `_streams` and whoever created it go by. -/
structure OutPort (α Time : Type) where
  name : String
  kind : PortKind
  maxSamplesPerPush : Nat
  outConnections : AList fun _ : String => Nat
  sriDict : AList fun _ : String => SriMapStruct Time
  filterTable : List ConnectionDescriptor
  objects : List (OutputStream α Time)
  streams : AList fun _ : String => Nat
  streamContainer : List Stream

abbrev PortCode (α Time β : Type) := Code (OutPort α Time) (RemoteCall α Time) Reply β

variable {α Time : Type}

section Slices

def sliceTo (count : Int) (data : List α) : List α :=
  data.take (if 0 ≤ count then count else data.length + count).toNat

def sliceFrom (count : Int) (data : List α) : List α :=
  data.drop (if 0 ≤ count then count else data.length + count).toNat

end Slices

namespace OutPort

def isStreamRoutedToConnection (streamID connectionID : String) (port : OutPort α Time) : Bool :=
  let rules := port.filterTable.filter fun rule => rule.portName == port.name
  rules.isEmpty || rules.any fun rule =>
    rule.streamId == streamID && rule.connectionId == connectionID

def addConnection (streamID connId : String) (port : OutPort α Time) : OutPort α Time :=
  match port.sriDict.lookup streamID with
  | none => port
  | some entry =>
      { port with
        sriDict := port.sriDict.insert streamID
          { entry with connections := connId :: entry.connections.filter (· != connId) } }

def discardConnection (connectionId : String) (port : OutPort α Time) : OutPort α Time :=
  { port with
    sriDict := port.sriDict.keys.foldl (fun dict key => match dict.lookup key with
      | none => dict
      | some entry => dict.insert key
          { entry with connections := entry.connections.filter (· != connectionId) }) port.sriDict }

def updateObject (handle : Nat) (update : OutputStream α Time → OutputStream α Time)
    (port : OutPort α Time) : OutPort α Time :=
  { port with objects := port.objects.modify handle update }

def insertStream (clock : Clock Time) (sri : StreamSRI) (port : OutPort α Time) : OutPort α Time :=
  { port with
    objects := port.objects ++ [⟨sri, true, [], 0, clock.notSet⟩]
    streams := port.streams.insert sri.streamID port.objects.length }

end OutPort

section Sending

variable (clock : Clock Time) (answer : Nat → RemoteCall α Time → Option Reply)

def sendPacket (object : Nat) (data : List α) (T : Time) (EOS : Bool) (streamID : String) :
    PortCode α Time Unit :=
  (remote answer (.pushPacket object data T EOS streamID)).bind fun _ => Code.pure ()

def pushPacketTo (data : List α) (T : Time) (EOS : Bool) (streamID connId : String)
    (object : Nat) : PortCode α Time Unit :=
  look.bind fun port =>
    match port.sriDict.lookup streamID with
    | none => raise
    | some entry =>
        if entry.connections.contains connId then sendPacket answer object data T EOS streamID
        else if data.isEmpty then Code.pure ()
        else
          (remote answer (.pushSRI object entry.sri none)).bind fun _ =>
          (change (OutPort.addConnection streamID connId)).bind fun _ =>
          sendPacket answer object data T EOS streamID

def basePushPacket (data : List α) (T : Time) (EOS : Bool) (streamID : String) : PortCode α Time Unit :=
  look.bind fun port =>
  (forEach port.outConnections.entries fun connection =>
    if port.isStreamRoutedToConnection streamID connection.1 then
      tryExcept (pushPacketTo answer data T EOS streamID connection.1 connection.2) (Code.pure ())
    else Code.pure ()).bind fun _ =>
  if EOS then change fun port => { port with sriDict := port.sriDict.erase streamID }
  else Code.pure ()

def pushSubPackets (data : List α) (EOS : Bool) (streamID : String) (maxSamples itemSize : Nat)
    (xdelta : ℚ) : List Nat → Time → PortCode α Time Unit
  | [], _ => Code.pure ()
  | start :: starts, packetTime =>
      let last := start + maxSamples
      let pushSize := min last data.length - start
      (basePushPacket answer ((data.take last).drop start) packetTime
        (decide (data.length ≤ last) && EOS) streamID).bind fun _ =>
      pushSubPackets data EOS streamID maxSamples itemSize xdelta starts
        (if clock.valid packetTime then
          clock.advance packetTime ((pushSize / itemSize : Nat) * xdelta) else packetTime)

def numericPushPacket (data : List α) (T : Time) (EOS : Bool) (streamID : String) : PortCode α Time Unit :=
  look.bind fun port =>
  if data.length ≤ port.maxSamplesPerPush then basePushPacket answer data T EOS streamID
  else match port.sriDict.lookup streamID with
    | none => raise
    | some entry =>
        let itemSize := if entry.sri.mode ≠ 0 then 2 else 1
        let frameSize := if 0 < entry.sri.subsize then itemSize * entry.sri.subsize.toNatClampNeg
          else itemSize
        let maxSamples := port.maxSamplesPerPush / frameSize * frameSize
        -- A step of zero is an error of `xrange`.
        if maxSamples = 0 then raise
        else pushSubPackets clock answer data EOS streamID maxSamples itemSize entry.sri.xdelta
          ((List.range ((data.length + maxSamples - 1) / maxSamples)).map (· * maxSamples)) T

def pushPacketLocked (data : List α) (T : Time) (EOS : Bool) (streamID : String) : PortCode α Time Unit :=
  look.bind fun port => match port.kind with
    | .numeric | .bit => numericPushPacket clock answer data T EOS streamID
    | _ => basePushPacket answer data T EOS streamID

/-- `self.pushSRI(H)`; an attachable port's takes a time as well, and without one it raises. -/
def pushSRI (H : StreamSRI) : PortCode α Time Unit :=
  look.bind fun port =>
  if port.kind = .attachable then raise
  else synchronized <|
    (change fun port =>
      { port with sriDict := port.sriDict.insert H.streamID ⟨H, [], none⟩ }).bind fun _ =>
    (change fun port => if H.streamID ∈ port.streams then port
      else port.insertStream clock H).bind fun _ =>
    look.bind fun port =>
    forEach port.outConnections.entries fun connection =>
      if port.isStreamRoutedToConnection H.streamID connection.1 then
        tryExcept
          ((remote answer (.pushSRI connection.2 H none)).bind fun _ =>
            change (OutPort.addConnection H.streamID connection.1))
          (Code.pure ())
      else Code.pure ()

def defaultSRI (streamID : String) : StreamSRI :=
  ⟨1, 0, 1, 1, 0, 0, 0, 0, 0, streamID, false, []⟩

def pushPacket (data : List α) (T : Time) (EOS : Bool) (streamID : String) : PortCode α Time Unit :=
  look.bind fun port =>
  (if streamID ∈ port.sriDict then Code.pure ()
    else pushSRI clock answer (defaultSRI streamID)).bind fun _ =>
  synchronized <| (pushPacketLocked clock answer data T EOS streamID).bind fun _ =>
    if EOS then
      look.bind fun port =>
        if streamID ∈ port.streams then
          change fun port => { port with streams := port.streams.erase streamID }
        else raise
    else Code.pure ()

end Sending

section Connecting

variable (clock : Clock Time) (answer : Nat → RemoteCall α Time → Option Reply)

def baseConnectPort (connection : Option Nat) (connectionId : String) : PortCode α Time Unit :=
  match connection with
  | none => raise
  | some object =>
      (remote answer (.isA object)).bind fun valid =>
      if valid = .refuses then raise
      else
        (remote answer (.narrow object)).bind fun _ =>
        synchronized <| look.bind fun port =>
          if connectionId ∈ port.outConnections then raise
          else change fun port =>
            { port with outConnections := port.outConnections.insert connectionId object }

def baseDisconnectPort (connectionId : String) : PortCode α Time Unit :=
  synchronized <| look.bind fun port =>
    match port.outConnections.lookup connectionId with
    | none => raise
    | some object =>
        (change fun port =>
          { port with outConnections := port.outConnections.erase connectionId }).bind fun _ =>
        (forEach port.sriDict.keys fun streamID =>
          if port.isStreamRoutedToConnection streamID connectionId then
            tryExcept (sendPacket answer object [] clock.notSet true streamID) (Code.pure ())
          else Code.pure ()).bind fun _ =>
        change (OutPort.discardConnection connectionId)

def baseUpdateConnectionFilter (filterTable : Option (List ConnectionDescriptor)) : PortCode α Time Unit :=
  synchronized <| change fun port => { port with filterTable := filterTable.getD [] }

end Connecting

section Streams

/-- `omniORB.any.from_any`, up to what `==` tells apart: a boolean equals its number. -/
inductive PyValue
  | number (value : ℚ)
  | text (value : String)
  | other (typeCode value : String)
deriving DecidableEq

def fromAny : Any → PyValue
  | .boolean value => .number (if value then 1 else 0)
  | .char value => .text (String.singleton (Char.ofNat value.toNat))
  | .octet value => .number value.toNat
  | .ushort value => .number value.toNat
  | .short value => .number value.toInt
  | .float value => .number value
  | .double value => .number value
  | .ulong value => .number value.toNat
  | .long value => .number value.toInt
  | .longlong value => .number value.toInt
  | .ulonglong value => .number value.toNat
  | .string value => .text value
  | .other typeCode value => .other typeCode value

def compareKeywords (keywordsA keywordsB : List DataType) : Bool :=
  keywordsA.length == keywordsB.length &&
    (keywordsA.zip keywordsB).all fun (keyA, keyB) => keyA.value == keyB.value

def sriDiffers (a b : StreamSRI) : Bool :=
  a.hversion != b.hversion || a.xstart != b.xstart || a.xdelta != b.xdelta ||
    a.xunits != b.xunits || a.subsize != b.subsize || a.ystart != b.ystart ||
    a.ydelta != b.ydelta || a.yunits != b.yunits || a.mode != b.mode ||
    a.blocking != b.blocking || !compareKeywords a.keywords b.keywords

def changedSRI (sri : StreamSRI) : MetadataChange → Option StreamSRI
  | .sri new => if sriDiffers sri new then some { new with streamID := sri.streamID } else none
  | .xstart start => if sri.xstart != start then some { sri with xstart := start } else none
  | .xdelta delta => if sri.xdelta != delta then some { sri with xdelta := delta } else none
  | .xunits units => if sri.xunits != units then some { sri with xunits := units } else none
  | .subsize size => if sri.subsize != size then some { sri with subsize := size } else none
  | .ystart start => if sri.ystart != start then some { sri with ystart := start } else none
  | .ydelta delta => if sri.ydelta != delta then some { sri with ydelta := delta } else none
  | .yunits units => if sri.yunits != units then some { sri with yunits := units } else none
  | .complex mode =>
      let mode := if mode then 1 else 0
      if sri.mode != mode then some { sri with mode := mode } else none
  | .blocking mode => if sri.blocking != mode then some { sri with blocking := mode } else none
  | .keywords keywords =>
      if compareKeywords sri.keywords keywords then none
      else some { sri with keywords := keywords }
  | .setKeyword name value =>
      let changed := some { sri with keywords := setProperty name value sri.keywords }
      match sri.keywords.find? fun keyword => keyword.id == name with
      | some keyword => if fromAny keyword.value = fromAny value then none else changed
      | none => changed
  | .eraseKeyword name =>
      if sri.keywords.any fun keyword => keyword.id == name then
        some { sri with keywords := sri.keywords.eraseP fun keyword => keyword.id == name }
      else none

variable (clock : Clock Time) (answer : Nat → RemoteCall α Time → Option Reply)

def withStream {β : Type} (handle : Nat) (body : OutputStream α Time → PortCode α Time β) :
    PortCode α Time β :=
  look.bind fun port => match port.objects[handle]? with
    | none => raise
    | some stream => body stream

def send (handle : Nat) (data : List α) (time : Time) (eos : Bool) : PortCode α Time Unit :=
  withStream handle fun stream =>
    (if stream.sriModified then
      (pushSRI clock answer stream.sri).bind fun _ =>
      change (OutPort.updateObject handle fun stream => { stream with sriModified := false })
    else Code.pure ()).bind fun _ =>
    pushPacket clock answer data time eos stream.sri.streamID

def flushBuffer (handle : Nat) (eos : Bool) : PortCode α Time Unit :=
  withStream handle fun stream =>
    (send clock answer handle stream.buffer stream.bufferTime eos).bind fun _ =>
    change (OutPort.updateObject handle fun stream => { stream with buffer := [] })

def flush (handle : Nat) : PortCode α Time Unit :=
  withStream handle fun stream =>
    if stream.buffer.isEmpty then Code.pure () else flushBuffer clock answer handle false

def modifyingStreamMetadata (handle : Nat) : PortCode α Time Unit :=
  look.bind fun port =>
  (if port.kind.buffered then flush clock answer handle else Code.pure ()).bind fun _ =>
  change (OutPort.updateObject handle fun stream => { stream with sriModified := true })

def setMetadata (handle : Nat) (setter : MetadataChange) : PortCode α Time Unit :=
  withStream handle fun stream => match changedSRI stream.sri setter with
    | none => Code.pure ()
    | some sri =>
        (modifyingStreamMetadata clock answer handle).bind fun _ =>
        change (OutPort.updateObject handle fun stream => { stream with sri := sri })

def doBuffer (handle : Nat) : Nat → List α → Time → PortCode α Time Unit
  | 0, _, _ => raise
  | depth + 1, data, time =>
      withStream handle fun stream =>
        let count : Int := min data.length ((stream.bufferSize : Int) - stream.buffer.length)
        let bufferTime := if stream.buffer.isEmpty then time else stream.bufferTime
        let buffer := stream.buffer ++ sliceTo count data
        (change (OutPort.updateObject handle fun stream =>
          { stream with buffer := buffer, bufferTime := bufferTime })).bind fun _ =>
        (if stream.bufferSize ≤ buffer.length then flushBuffer clock answer handle false
          else Code.pure ()).bind fun _ =>
        if count < data.length then
          doBuffer handle depth (sliceFrom count data)
            (clock.advance time (stream.sri.xdelta * count))
        else Code.pure ()

def write (depth handle : Nat) (data : List α) (time : Time) : PortCode α Time Unit :=
  look.bind fun port => match port.kind with
    | .numeric | .bit => withStream handle fun stream =>
        if stream.bufferSize = 0 ∨ stream.buffer.isEmpty ∧ stream.bufferSize ≤ data.length then
          send clock answer handle data time false
        else doBuffer clock answer handle depth data time
    | .file | .xml => send clock answer handle data time false
    | .plain | .attachable => raise

def setBufferSize (handle : Nat) (samples : Int) : PortCode α Time Unit :=
  look.bind fun port =>
  if port.kind.buffered = false ∨ samples < 0 then raise
  else
    (change (OutPort.updateObject handle fun stream =>
      { stream with bufferSize := samples.toNat })).bind fun _ =>
    withStream handle fun stream =>
      if stream.bufferSize ≤ stream.buffer.length then flush clock answer handle
      else Code.pure ()

def close (handle : Nat) : PortCode α Time Unit :=
  withStream handle fun stream =>
    if stream.buffer.isEmpty then send clock answer handle [] clock.notSet true
    else flushBuffer clock answer handle true

def createStream (stream : String ⊕ StreamSRI) : PortCode α Time Nat :=
  synchronized <| look.bind fun port =>
    let sri := match stream with
      | .inl streamID => Sri.create streamID
      | .inr sri => sri
    match port.streams.lookup sri.streamID, stream with
    | some handle, .inl _ => Code.pure handle
    | some handle, .inr sri =>
        (setMetadata clock answer handle (.sri sri)).bind fun _ => Code.pure handle
    | none, _ =>
        (change (OutPort.insertStream clock sri)).bind fun _ => Code.pure port.objects.length

end Streams

end Redhawk.Bulkio.Py
