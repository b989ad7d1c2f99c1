import Mathlib.Data.List.AList
import Mathlib.Data.List.Sort
import Redhawk.Bulkio.StreamMetadata

/-!
One connection of a C++ BULKIO output port: `OutputTransport` of `BulkioTransport.cpp` with the
packet cutting of `CorbaTransport.cpp`. What the remote port answers is a parameter.

A loop that may not end takes the number of rounds it is followed for; `none` is a call that has
not returned by then.
-/

namespace Redhawk.Bulkio

/-- How a call of the remote `pushPacket` ends: normally, with a `TransportTimeoutError`, with
another `TransportError`, or with a `FatalTransportError`. -/
inductive PushAnswer where
  | delivered | timeout | failed | fatal
deriving DecidableEq

/-- The remote end. `takesSri n` tells whether the n-th SRI push returns or raises a
`FatalTransportError`. `maxSamplesPerPush` is set where the transport is a `ChunkingTransport`. -/
structure Remote where
  maxSamplesPerPush : Option Nat := none
  takesSri : Nat → Bool := fun _ => true
  takesPacket : Nat → PushAnswer := fun _ => .delivered

/-- A call made on the remote port. `source` is a history variable: the stream object that the call
speaks for and the SRI in force, if the port has a stream of that ID. -/
inductive Push (α : Type) where
  | sri (sri : StreamSRI) (source : Nat) (delivered : Bool)
  | packet (data : List α) (T : PrecisionUTCTime) (eos : Bool) (streamID : String)
      (source : Option (Nat × StreamSRI)) (answer : PushAnswer)
deriving DecidableEq

abbrev VersionMap := AList fun _ : String => Nat

/-- `pushes` is a history variable, the calls made while the transport was alive, newest first. -/
structure Transport (α : Type) where
  remote : Remote
  alive : Bool := true
  sriVersions : VersionMap := ∅
  sriPushes : Nat := 0
  packetPushes : Nat := 0
  pushes : List (Push α) := []

def TCS_VALID : Int16 := 1

namespace Transport

variable {α : Type}

def sendSri (sri : StreamSRI) (source : Nat) (transport : Transport α) : Bool × Transport α :=
  let delivered := transport.remote.takesSri transport.sriPushes
  (delivered, { transport with
    sriPushes := transport.sriPushes + 1
    pushes := .sri sri source delivered :: transport.pushes })

def pushSRI (streamID : String) (sri : StreamSRI) (version source : Nat)
    (transport : Transport α) : Bool × Transport α :=
  let recorded := { transport with sriVersions := transport.sriVersions.insert streamID version }
  match transport.sriVersions.lookup streamID with
  | some existing =>
      if version = existing then (true, transport) else recorded.sendSri sri source
  | none => recorded.sendSri sri source

def deliver (data : List α) (T : PrecisionUTCTime) (eos : Bool) (streamID : String)
    (source : Option (Nat × StreamSRI)) (transport : Transport α) : PushAnswer × Transport α :=
  let answer := transport.remote.takesPacket transport.packetPushes
  let push := Push.packet data T eos streamID source answer
  (answer, { transport with
    packetPushes := transport.packetPushes + 1
    pushes := if transport.alive then push :: transport.pushes else transport.pushes })

def sendChunks (maxPushSize itemSize : Nat) (eos : Bool) (streamID : String) (source : Nat × StreamSRI) :
    Nat → List α → PrecisionUTCTime → Transport α → Option PushAnswer × Transport α
  | 0, _, _, transport => (none, transport)
  | fuel + 1, samples, packetTime, transport =>
      let pushSize := min samples.length maxPushSize
      let remaining := samples.drop pushSize
      let packetEOS := remaining.isEmpty && eos
      match transport.deliver (samples.take pushSize) packetTime packetEOS streamID (some source) with
      | (.delivered, transport) =>
          if remaining.isEmpty then (some .delivered, transport)
          else
            let next := if packetTime.tcstatus = TCS_VALID then
              packetTime.add ((pushSize / itemSize : Nat) * source.2.xdelta) else packetTime
            sendChunks maxPushSize itemSize eos streamID source fuel remaining next transport
      | (answer, transport) => (some answer, transport)

def itemSize (sri : StreamSRI) : Nat := if sri.complex then 2 else 1

theorem itemSize_pos (sri : StreamSRI) : 0 < itemSize sri := by
  simp only [itemSize]
  split <;> omega

def frameSize (sri : StreamSRI) : Nat :=
  if 0 < sri.subsize then itemSize sri * sri.subsize.toInt.toNat else itemSize sri

def sendPacket (fuel : Nat) (data : List α) (T : PrecisionUTCTime) (eos : Bool)
    (streamID : String) (source : Nat × StreamSRI) (transport : Transport α) :
    Option PushAnswer × Transport α :=
  match transport.remote.maxSamplesPerPush with
  | none =>
      let (answer, transport) := transport.deliver data T eos streamID (some source)
      (some answer, transport)
  | some maxSamplesPerPush =>
      let maxPushSize := maxSamplesPerPush / frameSize source.2 * frameSize source.2
      transport.sendChunks maxPushSize (itemSize source.2) eos streamID source fuel data T

def pushPacket (fuel : Nat) (data : List α) (T : PrecisionUTCTime) (eos : Bool)
    (streamID : String) (source : Nat × StreamSRI) (transport : Transport α) :
    Option PushAnswer × Transport α :=
  match transport.sendPacket fuel data T eos streamID source with
  | (some .delivered, transport) =>
      (some .delivered,
        if eos then { transport with sriVersions := transport.sriVersions.erase streamID }
        else transport)
  | result => result

def endStreams (source : String → Option (Nat × StreamSRI)) :
    List String → Transport α → Transport α
  | [], transport => { transport with sriVersions := ∅ }
  | streamID :: rest, transport =>
      match transport.deliver [] .notSet true streamID (source streamID) with
      | (.delivered, transport) | (.timeout, transport) => endStreams source rest transport
      | (_, transport) => transport

def disconnect (source : String → Option (Nat × StreamSRI)) (transport : Transport α) : Transport α :=
  transport.endStreams source (transport.sriVersions.keys.insertionSort (· ≤ ·))

end Transport

end Redhawk.Bulkio
