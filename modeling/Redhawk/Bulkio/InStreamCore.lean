import Redhawk.Bulkio.InPortCore

/-!
The input streams of `bulkio_in_stream.cpp`: `InputStream` for ports whose packets are read one
by one, and `BufferedInputStream` for ports of numeric data. Their functions work on the stream
and the port it belongs to. Blocks of XML data keep no time stamp; here they do.

A blocking call that would wait for a packet ends with `waits`, in the state it waits in. The
call goes on from there as the same call made again would.
-/

namespace Redhawk.Bulkio

variable {α : Type}

structure SampleTimestamp where
  time : PrecisionUTCTime
  offset : Nat
  synthetic : Bool
deriving DecidableEq

structure DataBlock (α : Type) where
  sri : StreamSRI
  buffer : List α := []
  sriChangeFlags : Sri.Flags := Sri.NONE
  inputQueueFlushed : Bool := false
  timestamps : List SampleTimestamp := []
deriving DecidableEq

inductive Outcome (β : Type) where
  | returns (value : β)
  | waits
deriving DecidableEq

structure Reader (α : Type) where
  stream : BufferedInputStream α
  port : InPort α

namespace InputStream

def fetchPacket (blocking : Bool) (reader : Reader α) : InPort.Fetch α × Reader α :=
  if !reader.stream.enabled then (.null, reader)
  else if reader.stream.eosState != .none then (.null, reader)
  else
    match reader.port.nextPacket blocking reader.stream.streamID with
    | (.packet packet, port) =>
        let stream := { reader.stream with fetched := reader.stream.fetched ++ [packet] }
        (.packet packet, ⟨if packet.eos then { stream with eosState := .received } else stream, port⟩)
    | (.null, port) => (.null, ⟨reader.stream, port⟩)
    | (.waits, port) => (.waits, ⟨reader.stream, port⟩)

variable (reader : Reader α)

def reportIfEosReached : Reader α :=
  if reader.stream.eosState == .reached then
    ⟨{ reader.stream with eosState := .reported }, reader.port.removeStream reader.stream.streamID⟩
  else reader

def newStreamFlags : Sri.Flags :=
  Sri.STREAMID ||| Sri.XDELTA ||| Sri.YDELTA ||| Sri.KEYWORDS ||| Sri.MODE

def setBlockFlags (packet : Packet α) (block : DataBlock α) (stream : BufferedInputStream α) :
    DataBlock α × BufferedInputStream α :=
  let flags := if packet.sriChanged then Sri.compareFields stream.sri packet.sri else Sri.NONE
  let block := if packet.sriChanged then { block with sriChangeFlags := flags } else block
  let block := if stream.newstream then
    { block with sriChangeFlags := flags ||| newStreamFlags } else block
  let block := if packet.inputQueueFlushed then { block with inputQueueFlushed := true } else block
  (block, { stream with newstream := false })

def reachIfReceived : Reader α :=
  if reader.stream.eosState == .received then
    { reader with stream := { reader.stream with eosState := .reached } }
  else reader

def readPacket (blocking : Bool) (reader : Reader α) : Outcome (Option (DataBlock α)) × Reader α :=
  match fetchPacket blocking reader with
  | (.waits, reader) => (.waits, reader)
  | (.null, reader) => (.returns none, reportIfEosReached (reachIfReceived reader))
  | (.packet packet, reader) =>
      let reader := reachIfReceived reader
      if packet.eos && packet.buffer.isEmpty then (.returns none, reportIfEosReached reader)
      else
        let block : DataBlock α := { sri := packet.sri, buffer := packet.buffer,
                                     timestamps := [⟨packet.T, 0, false⟩] }
        let (block, stream) := setBlockFlags packet block reader.stream
        (.returns (some block), { reader with stream := { stream with sri := packet.sri } })

def enable : Reader α :=
  { reader with stream := { reader.stream with enabled := true } }

def disable : Reader α :=
  let reader := { reader with stream := { reader.stream with enabled := false } }
  if reader.stream.eosState == .none then
    { reader with port := reader.port.discardPacketsForStream reader.stream.streamID }
  else reader

def eos : Bool × Reader α :=
  let reader := reportIfEosReached reader
  (reader.stream.eosState == .reported, reader)

end InputStream

namespace BufferedInputStream

section Queue

def markLastEos : List (Packet α) → List (Packet α)
  | [] => []
  | [packet] => [{ packet with eos := true }]
  | packet :: rest => packet :: markLastEos rest

def queuePacket (packet : Packet α) (stream : BufferedInputStream α) : Bool × BufferedInputStream α :=
  if packet.eos && packet.buffer.isEmpty then
    let stream := { stream with deleted := stream.deleted ++ [packet] }
    if stream.queue.isEmpty then (false, { stream with eosState := .reached })
    else (false, { stream with queue := markLastEos stream.queue })
  else
    (true, { stream with
      samplesQueued := stream.samplesQueued + packet.buffer.length
      queue := stream.queue ++ [packet] })

def canBridge (packet : Packet α) : Bool := !(packet.sriChanged || packet.inputQueueFlushed)

def consumePacket (stream : BufferedInputStream α) : BufferedInputStream α :=
  match stream.queue with
  | [] => stream
  | front :: rest =>
      let stream := if front.eos then { stream with eosState := .reached } else stream
      let stream := { stream with queue := rest, deleted := stream.deleted ++ [front] }
      match stream.pending with
      | some pending =>
          if rest.isEmpty then { (queuePacket pending stream).2 with pending := none } else stream
      | none => stream

def consumeLoop : Nat → Nat → BufferedInputStream α → BufferedInputStream α
  | 0, _, stream => stream
  | fuel + 1, count, stream =>
      match stream.queue with
      | [] => stream
      | front :: _ =>
          if count = 0 then stream
          else
            let pass := min (front.buffer.length - stream.sampleOffset) count
            let stream := { stream with
              sampleOffset := stream.sampleOffset + pass
              samplesQueued := stream.samplesQueued - pass }
            if front.buffer.length ≤ stream.sampleOffset then
              consumeLoop fuel (count - pass) { consumePacket stream with sampleOffset := 0 }
            else consumeLoop fuel (count - pass) stream

def consumeData (count : Nat) (stream : BufferedInputStream α) : BufferedInputStream α :=
  consumeLoop (stream.queue.length + 2) count stream

end Queue

section Fetch

def fetchPacket (blocking : Bool) (reader : Reader α) : Outcome Bool × Reader α :=
  if reader.stream.pending.isSome then (.returns false, reader)
  else
    match InputStream.fetchPacket blocking reader with
    | (.waits, reader) => (.waits, reader)
    | (.null, reader) => (.returns false, reader)
    | (.packet packet, reader) =>
        if reader.stream.queue.isEmpty || canBridge packet then
          let (queued, stream) := queuePacket packet reader.stream
          (.returns queued, { reader with stream := stream })
        else
          (.returns false, { reader with stream := { reader.stream with pending := some packet } })

def nextSRI (blocking : Bool) (reader : Reader α) : Outcome (Option StreamSRI) × Reader α :=
  match reader.stream.queue with
  | front :: _ => (.returns (some front.sri), reader)
  | [] =>
      match fetchPacket blocking reader with
      | (.waits, reader) => (.waits, reader)
      | (.returns false, reader) => (.returns none, reader)
      | (.returns true, reader) => (.returns (reader.stream.queue.head?.map Packet.sri), reader)

def fetchLoop (requested : Nat) (blocking : Bool) : Nat → Reader α → Outcome Unit × Reader α
  | 0, reader => (.returns (), reader)
  | fuel + 1, reader =>
      if requested ≤ reader.stream.samplesQueued then (.returns (), reader)
      else
        match fetchPacket blocking reader with
        | (.waits, reader) => (.waits, reader)
        | (.returns false, reader) => (.returns (), reader)
        | (.returns true, reader) => fetchLoop requested blocking fuel reader

/-- Fetches packets until `requested` scalars are queued or none can be had. Each fetch that goes
on to the next takes a packet from the port. -/
def fetchUpTo (requested : Nat) (blocking : Bool) (reader : Reader α) : Outcome Unit × Reader α :=
  fetchLoop requested blocking (reader.port.packetQueue.length + 1) reader

end Fetch

section Read

def sampleTimestamp (sri : StreamSRI) (inputOffset outputOffset : Nat) (time : PrecisionUTCTime) :
    SampleTimestamp :=
  let time_offset := (inputOffset : ℚ) * sri.xdelta
  let time_offset := if sri.complex then time_offset / 2 else time_offset
  let outputOffset := if sri.complex then outputOffset / 2 else outputOffset
  if 0 < time_offset then ⟨time.add time_offset, outputOffset, true⟩
  else ⟨time, outputOffset, false⟩

def assemble (sri : StreamSRI) : Nat → Nat → Nat → List (Packet α) → List α × List SampleTimestamp
  | _, _, _, [] => ([], [])
  | count, packet_offset, data_offset, packet :: rest =>
      if count = 0 then ([], [])
      else
        let timestamp := sampleTimestamp sri packet_offset data_offset packet.T
        let pass := min (packet.buffer.length - packet_offset) count
        let copied := (packet.buffer.drop packet_offset).take pass
        if packet.buffer.length ≤ packet_offset + pass then
          let (buffer, timestamps) := assemble sri (count - pass) 0 (data_offset + pass) rest
          (copied ++ buffer, timestamp :: timestamps)
        else (copied, [timestamp])

def skip (count : Nat) (reader : Reader α) : Outcome Nat × Reader α :=
  match nextSRI true reader with
  | (.waits, reader) => (.waits, reader)
  | (.returns none, reader) => (.returns 0, reader)
  | (.returns (some sri), reader) =>
      let item_size := if sri.complex then 2 else 1
      match fetchUpTo (count * item_size) true reader with
      | (.waits, reader) => (.waits, reader)
      | (.returns _, reader) =>
          let count := min (count * item_size) reader.stream.samplesQueued
          (.returns (count / item_size), { reader with stream := consumeData count reader.stream })

def takeBlock (count : Nat) (front : Packet α) (rest : List (Packet α))
    (stream : BufferedInputStream α) : DataBlock α × BufferedInputStream α :=
  let (block, stream) := InputStream.setBlockFlags front { sri := front.sri } stream
  let stream := if front.sriChanged then { stream with sri := front.sri } else stream
  let stream := { stream with
    queue := { front with sriChanged := false, inputQueueFlushed := false } :: rest }
  if stream.sampleOffset + count ≤ front.buffer.length then
    ({ block with
        buffer := (front.buffer.drop stream.sampleOffset).take count
        timestamps := [sampleTimestamp front.sri stream.sampleOffset 0 front.T] }, stream)
  else
    let (buffer, timestamps) := assemble front.sri count stream.sampleOffset 0 (front :: rest)
    ({ block with buffer := buffer, timestamps := timestamps }, stream)

def readData (count consume : Nat) (reader : Reader α) : Outcome (Option (DataBlock α)) × Reader α :=
  match reader.stream.queue with
  | [] => (.returns none, reader)
  | front :: rest =>
      let (block, stream) := takeBlock count front rest reader.stream
      let consume := if block.sri.complex then consume / 2 else consume
      match skip consume { reader with stream := stream } with
      | (.waits, reader) => (.waits, reader)
      | (.returns _, reader) => (.returns (some block), reader)

def readPacket (blocking : Bool) (reader : Reader α) : Outcome (Option (DataBlock α)) × Reader α :=
  let fetched := if reader.stream.samplesQueued = 0 then fetchPacket blocking reader
    else (.returns true, reader)
  match fetched with
  | (.waits, reader) => (.waits, reader)
  | (.returns _, reader) =>
      if reader.stream.samplesQueued = 0 then
        (.returns none, InputStream.reportIfEosReached reader)
      else
        match reader.stream.queue with
        | [] => (.returns none, reader)
        | front :: _ =>
            let samples := front.buffer.length - reader.stream.sampleOffset
            readData samples samples reader

def finishRead (count consume : Nat) (blocking : Bool) (reader : Reader α) :
    Outcome (Option (DataBlock α)) × Reader α :=
  let requested := max consume count
  if reader.stream.samplesQueued = 0 then
    (.returns none, InputStream.reportIfEosReached reader)
  else if reader.stream.samplesQueued < requested then
    if !blocking && reader.stream.pending.isNone && reader.stream.eosState == .none then
      (.returns none, reader)
    else
      let consume := if consume = 0 then 0 else reader.stream.samplesQueued
      readData (min count reader.stream.samplesQueued) consume reader
  else readData (min count reader.stream.samplesQueued) consume reader

def read (count consume : Nat) (blocking : Bool) (reader : Reader α) :
    Outcome (Option (DataBlock α)) × Reader α :=
  match nextSRI blocking reader with
  | (.waits, reader) => (.waits, reader)
  | (.returns none, reader) => (.returns none, InputStream.reportIfEosReached reader)
  | (.returns (some sri), reader) =>
      let item_size := if sri.complex then 2 else 1
      match fetchUpTo (max (consume * item_size) (count * item_size)) blocking reader with
      | (.waits, reader) => (.waits, reader)
      | (.returns _, reader) => finishRead (count * item_size) (consume * item_size) blocking reader

def eos (reader : Reader α) : Bool × Reader α :=
  InputStream.eos (if reader.stream.queue.isEmpty then (fetchPacket false reader).2 else reader)

def disable (reader : Reader α) : Reader α :=
  let reader := InputStream.disable reader
  { reader with stream := { reader.stream with
      queue := []
      sampleOffset := 0
      samplesQueued := 0
      deleted := reader.stream.deleted ++ reader.stream.queue ++ reader.stream.pending.toList } }

end Read

end BufferedInputStream

end Redhawk.Bulkio
