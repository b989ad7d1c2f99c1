import Mathlib.Algebra.Ring.Int.Defs
import Mathlib.Algebra.Ring.Nat
import Mathlib.Data.List.AList
import Redhawk.Bulkio.StreamMetadata

/-!
The C++ BULKIO input port of `bulkio_in_port.cpp`: the packet queue, the SRI table, the active
and pending input streams, and the functions that work on them.

Each public call runs to completion, except that `queuePacket` on a full blocking port leaves
its packet in `waiting`. Callbacks, logging, statistics and the wake-up of waiting readers have
no effect on the state and are left out.
-/

namespace Redhawk.Bulkio

/-- A queued packet. `serial` is a history variable, the time at which the packet was built. -/
structure Packet (α : Type) where
  buffer : List α
  T : PrecisionUTCTime
  eos : Bool
  sri : StreamSRI
  sriChanged : Bool
  inputQueueFlushed : Bool
  serial : Nat
deriving DecidableEq

def Packet.streamID {α : Type} (packet : Packet α) : String := packet.sri.streamID

def hasData {α : Type} (packet : Packet α) : Bool := !packet.buffer.isEmpty

inductive EosState where
  | none | received | reached | reported
deriving DecidableEq

/-- `InputStream::Impl`. `born` and `fetched` are history variables: the time of creation and
the packets taken from the port so far. -/
structure InputStream (α : Type) where
  streamID : String
  sri : StreamSRI
  eosState : EosState := .none
  enabled : Bool := true
  newstream : Bool := true
  born : Nat
  fetched : List (Packet α) := []
deriving DecidableEq

/-- `BufferedInputStream::Impl`. The streams of XML and file ports leave the buffer unused.
`deleted` is a history variable, the packets the stream has freed. -/
structure BufferedInputStream (α : Type) extends InputStream α where
  queue : List (Packet α) := []
  pending : Option (Packet α) := none
  samplesQueued : Nat := 0
  sampleOffset : Nat := 0
  deleted : List (Packet α) := []
deriving DecidableEq

/-- History variables of a port: what was handed out, what a queue flush deleted, and when an
end-of-stream was received for which stream ID. -/
structure History (α : Type) where
  clock : Nat := 0
  delivered : List (Packet α) := []
  dropped : List (Packet α) := []
  eosReceived : List (String × Nat) := []

/-- An entry of `currentHs`: an SRI with the stream ID it is filed under, and whether it has changed
since the last packet. -/
abbrev SriEntry (streamID : String) := { sri : StreamSRI // sri.streamID = streamID } × Bool

abbrev SriTable := AList SriEntry

abbrev StreamMap := AList fun _ : String => Nat

structure InPort (α : Type) where
  sriCmp : StreamSRI → StreamSRI → Bool := Sri.DefaultComparator
  maxQueue : Nat := 100
  breakBlock : Bool := false
  blocking : Bool := false
  packetQueue : List (Packet α) := []
  currentHs : SriTable := ∅
  /-- Every stream object created so far; the stream maps refer to them by position. -/
  objects : List (BufferedInputStream α) := []
  streams : StreamMap := ∅
  pendingStreams : List (String × Nat) := []
  /-- Packets of `queuePacket` calls that wait for room on a blocking port. -/
  waiting : List (Packet α) := []
  history : History α := {}

variable {α : Type}

section Flush

/-- Loop state of `_flushQueue`; `deleted` holds the packets freed, as they were then. -/
structure FlushState (α : Type) where
  lastPackets : List (Packet α)
  deleted : List (Packet α)

/-- The entry of `active_streams`: both places that write it have just pushed the packet to the
front of `last_packets`, so it is the first packet there with the stream ID. -/
def FlushState.activePacket (state : FlushState α) (streamID : String) : Option (Packet α) :=
  state.lastPackets.find? fun packet => packet.streamID == streamID

def updateActive (streamID : String) (update : Packet α → Packet α) :
    List (Packet α) → List (Packet α)
  | [] => []
  | packet :: rest =>
      if packet.streamID == streamID then update packet :: rest
      else packet :: updateActive streamID update rest

def swapsBuffer (packet active : Packet α) : Bool :=
  active.buffer.isEmpty && !packet.buffer.isEmpty

def leftOver (packet active : Packet α) : Packet α :=
  if swapsBuffer packet active then { packet with buffer := active.buffer } else packet

def absorb (packet active : Packet α) : Packet α :=
  let active' := if swapsBuffer packet active then
    { active with buffer := packet.buffer, T := packet.T } else active
  { active' with
    inputQueueFlushed := active.inputQueueFlushed || !(leftOver packet active).buffer.isEmpty
    sriChanged := active.sriChanged || packet.sriChanged }

def flushPacket (packet : Packet α) (state : FlushState α) : FlushState α :=
  match state.activePacket packet.streamID with
  | some active =>
      if packet.eos then
        { state with lastPackets := packet :: state.lastPackets }
      else
        { lastPackets := updateActive packet.streamID (absorb packet) state.lastPackets
          deleted := leftOver packet active :: state.deleted }
  | none => { state with lastPackets := packet :: state.lastPackets }

def flushQueue (packetQueue : List (Packet α)) : FlushState α :=
  packetQueue.foldr flushPacket ⟨[], []⟩

structure Room (α : Type) where
  packetQueue : List (Packet α)
  sriChanged : Bool
  flushToReport : Bool
  deleted : List (Packet α)

/-- The flush path of `queuePacket`: the reverse scan stops at the last packet of the stream,
which the incoming packet replaces unless it ends an instance. -/
def makeRoom (streamID : String) (sriChanged : Bool) (packetQueue : List (Packet α)) : Room α :=
  let flushed := flushQueue packetQueue
  let newestFirst := flushed.lastPackets.reverse
  match newestFirst.find? fun packet => packet.streamID == streamID with
  | some saved =>
      if saved.eos then ⟨flushed.lastPackets, sriChanged, false, flushed.deleted⟩
      else
        { packetQueue := (newestFirst.eraseP fun packet => packet.streamID == streamID).reverse
          sriChanged := saved.sriChanged
          flushToReport := true
          deleted := saved :: flushed.deleted }
  | none => ⟨flushed.lastPackets, sriChanged, false, flushed.deleted⟩

end Flush

namespace InPort

section Streams

def tick (port : InPort α) : InPort α :=
  { port with history := { port.history with clock := port.history.clock + 1 } }

def noteEos (streamID : String) (port : InPort α) : InPort α :=
  { port with history := { port.history with
      clock := port.history.clock + 1
      eosReceived := port.history.eosReceived ++ [(streamID, port.history.clock)] } }

def updateObject (handle : Nat) (update : BufferedInputStream α → BufferedInputStream α)
    (port : InPort α) : InPort α :=
  { port with objects := port.objects.modify handle update }

def closeStream (handle : Nat) (port : InPort α) : InPort α :=
  port.updateObject handle fun stream => { stream with eosState := .reported }

def createStream (streamID : String) (sri : StreamSRI) (port : InPort α) : InPort α :=
  let handle := port.objects.length
  let stream : BufferedInputStream α :=
    { streamID := sri.streamID, sri := sri, born := port.history.clock }
  let port := { port.tick with objects := port.objects ++ [stream] }
  match port.streams.lookup streamID with
  | none => { port with streams := port.streams.insert streamID handle }
  | some _ => { port with pendingStreams := port.pendingStreams ++ [(streamID, handle)] }

def removeStream (streamID : String) (port : InPort α) : InPort α :=
  let port := match port.streams.lookup streamID with
    | some current =>
        let port := port.closeStream current
        { port with streams := port.streams.erase streamID }
    | none => port
  match port.pendingStreams.find? fun entry => entry.1 == streamID with
  | some next =>
      { port with
        streams := port.streams.insert streamID next.2
        pendingStreams := port.pendingStreams.eraseP fun entry => entry.1 == streamID }
  | none => port

def streamEnabled (handle : Nat) (port : InPort α) : Bool :=
  match port.objects[handle]? with
  | some stream => stream.enabled
  | none => true

def acceptPacket (streamID : String) (eos : Bool) (port : InPort α) : Bool × InPort α :=
  match port.streams.lookup streamID with
  | none => (true, port)
  | some stream =>
      if port.streamEnabled stream then (true, port)
      else if port.pendingStreams.any fun entry => entry.1 == streamID then (true, port)
      else if eos then (false, port.removeStream streamID)
      else (false, port)

end Streams

section Push

def pushSRI (sri : StreamSRI) (port : InPort α) : InPort α :=
  let port := { port with blocking := port.blocking || sri.blocking }
  match port.currentHs.lookup sri.streamID with
  | none =>
      createStream sri.streamID sri
        { port with currentHs := port.currentHs.insert sri.streamID (⟨sri, rfl⟩, true) }
  | some current =>
      let eosCount := port.packetQueue.countP fun packet =>
        packet.streamID == sri.streamID && packet.eos
      let additionalStreams := 1 + port.pendingStreams.countP fun entry => entry.1 == sri.streamID
      if additionalStreams = eosCount then createStream sri.streamID sri port
      else if !port.sriCmp sri current.1.1 then
        { port with currentHs := port.currentHs.insert sri.streamID (⟨sri, rfl⟩, true) }
      else port

def handleEOS (streamID : String) (port : InPort α) : Bool :=
  match port.currentHs.lookup streamID with
  | some _ => !port.currentHs.entries.any fun entry => entry.2.1.1.blocking
  | none => true

def acknowledgeSRI (streamID : String) (port : InPort α) : InPort α :=
  match port.currentHs.lookup streamID with
  | some (sri, _) => { port with currentHs := port.currentHs.insert streamID (sri, false) }
  | none => port

def lookupSRI (streamID : String) (port : InPort α) : SriEntry streamID × InPort α :=
  match port.currentHs.lookup streamID with
  | some entry => (entry, port.acknowledgeSRI streamID)
  | none =>
      let sri := Sri.create streamID
      let port := { port with currentHs := port.currentHs.insert streamID (⟨sri, rfl⟩, false) }
      ((⟨sri, rfl⟩, true), port.createStream streamID sri)

def enqueue (packet : Packet α) (port : InPort α) : InPort α :=
  let port := { port with packetQueue := port.packetQueue ++ [packet] }
  if packet.eos then
    { port with
      currentHs := port.currentHs.erase packet.streamID
      history := { port.history with
        eosReceived := port.history.eosReceived ++ [(packet.streamID, packet.serial)] } }
  else port

def flushFor (packet : Packet α) (port : InPort α) : Packet α × InPort α :=
  let room := makeRoom packet.streamID packet.sriChanged port.packetQueue
  let port := { port with
    packetQueue := room.packetQueue
    history := { port.history with
      dropped := port.history.dropped ++ room.deleted.filter hasData } }
  ({ packet with sriChanged := room.sriChanged, inputQueueFlushed := room.flushToReport },
    if room.flushToReport then port.acknowledgeSRI packet.streamID else port)

def flushAndEnqueue (packet : Packet α) (port : InPort α) : InPort α :=
  let (packet, port) := port.flushFor packet
  port.enqueue packet

def buildPacket (data : List α) (T : PrecisionUTCTime) (eos : Bool) (streamID : String)
    (port : InPort α) : Packet α × InPort α :=
  let ((sri, sriChanged), port) := port.lookupSRI streamID
  let packet : Packet α := {
    buffer := data, T := T, eos := eos, sri := sri.1, sriChanged := sriChanged,
    inputQueueFlushed := false, serial := port.history.clock }
  (packet, port.tick)

def admitPacket (packet : Packet α) (port : InPort α) : InPort α :=
  if port.maxQueue ≤ port.packetQueue.length then
    if port.blocking then { port with waiting := port.waiting ++ [packet] }
    else port.flushAndEnqueue packet
  else port.enqueue packet

def queuePacket (data : List α) (T : PrecisionUTCTime) (eos : Bool) (streamID : String)
    (port : InPort α) : InPort α :=
  let (accepted, port) := port.acceptPacket streamID eos
  if !accepted then
    if eos then
      let turnOffBlocking := port.handleEOS streamID
      let port := port.noteEos streamID
      if turnOffBlocking then { port with blocking := false } else port
    else port
  else if port.maxQueue = 0 then
    if eos then port.noteEos streamID else port
  else if data.isEmpty && !eos then port
  else
    let (packet, port) := port.buildPacket data T eos streamID
    port.admitPacket packet

/-- A `queuePacket` call of the stream wakes up from its wait; it goes on only if there is room
in the queue. -/
def resumePush (streamID : String) (port : InPort α) : InPort α :=
  match port.waiting.find? fun packet => packet.streamID == streamID with
  | some packet =>
      if port.packetQueue.length < port.maxQueue then
        enqueue packet { port with
          waiting := port.waiting.eraseP fun packet => packet.streamID == streamID }
      else port
  | none => port

end Push

section Fetch

inductive Fetch (α : Type) where
  | packet (packet : Packet α)
  | null
  | waits

def requested (streamID : String) (packet : Packet α) : Bool :=
  streamID.isEmpty || packet.streamID == streamID

/-- `nextPacket` with an infinite or a zero timeout; a request whose time runs out ends like one
that does not wait. -/
def nextPacket (blocking : Bool) (streamID : String) (port : InPort α) : Fetch α × InPort α :=
  if port.breakBlock then (.null, port)
  else
    match port.packetQueue.find? (requested streamID) with
    | none => (if blocking then .waits else .null, port)
    | some packet =>
        let port := { port with
          packetQueue := port.packetQueue.eraseP (requested streamID)
          history := { port.history with delivered := port.history.delivered ++ [packet] } }
        if packet.eos && port.handleEOS packet.streamID then
          (.packet packet, { port with blocking := false })
        else (.packet packet, port)

def getPacket (blocking : Bool) (streamID : String) (port : InPort α) : Fetch α × InPort α :=
  match port.nextPacket blocking streamID with
  | (.packet packet, port) =>
      (.packet packet, if packet.eos then port.removeStream packet.streamID else port)
  | (.null, port) => (.null, port)
  | (.waits, port) => (.waits, port)

end Fetch

def discardQueued (streamID : String) : List (Packet α) → List (Packet α)
  | [] => []
  | packet :: rest =>
      if packet.streamID == streamID then
        if packet.eos then rest else discardQueued streamID rest
      else packet :: discardQueued streamID rest

def discardPacketsForStream (streamID : String) (port : InPort α) : InPort α :=
  { port with packetQueue := discardQueued streamID port.packetQueue }

def setMaxQueueDepth (newDepth : Int) (port : InPort α) : InPort α :=
  { port with maxQueue := (newDepth % 2 ^ 64).toNat }

def block (port : InPort α) : InPort α := { port with breakBlock := true }

def unblock (port : InPort α) : InPort α := { port with breakBlock := false }

def fresh (sriCmp : StreamSRI → StreamSRI → Bool) (maxQueue : Nat) : InPort α :=
  { sriCmp := sriCmp, maxQueue := maxQueue }

end InPort

end Redhawk.Bulkio
