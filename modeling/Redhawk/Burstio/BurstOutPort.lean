import Mathlib.Data.List.Sort
import Mathlib.Data.String.Basic

/-!
The output port of the burst interfaces (`OutPortImpl.h`): its queues, the table of streams and the
tasks it leaves to its monitor thread.

A queue is named by a reference, so that an entry of the table can be an alias of the default queue
and can outlive the queue it names. The latency threshold of a new queue passes through a `float`,
which is a parameter.
-/

namespace Redhawk.Burstio

inductive RoutingModeType where
  | allInterleaved
  | allStreams
  | connectionStreams
deriving DecidableEq

structure BurstSRI where
  streamID : String
  mode : Nat
deriving DecidableEq

structure Burst (Elem Stamp : Type) where
  SRI : BurstSRI
  T : Stamp
  data : List Elem
  EOS : Bool
deriving DecidableEq

inductive QueueRef where
  | default
  | owned (index : Nat)
deriving DecidableEq

structure Queue (Elem Stamp : Type) where
  streamID : String
  maxBursts : Nat
  thresholdBytes : Nat
  thresholdLatency : Int
  bursts : List (Burst Elem Stamp) := []
  bytes : Nat := 0
  startTime : Option Int := none

inductive Task where
  | checkQueues
  | flush (queue : QueueRef)
deriving DecidableEq

structure Routing where
  mode : RoutingModeType := .allInterleaved
  routes : List (String × String) := []
  connections : List (String × Bool) := []

def Routing.isStreamRoutedToConnection (routing : Routing) (streamID connectionID : String) : Bool :=
  if routing.mode ≠ .connectionStreams then true
  else routing.routes.contains (streamID, connectionID)

def Routing.receivers (routing : Routing) (streamID : String) : List String :=
  (routing.connections.filter fun connection =>
    connection.2 && routing.isStreamRoutedToConnection streamID connection.1).map Prod.fst

structure Sent (Elem Stamp : Type) where
  bursts : List (Burst Elem Stamp)
  routing : Routing
  receivers : List String

/-- `inFlight` is the task the monitor thread has taken; the last five fields are history. -/
structure OutPort (Elem Stamp : Type) where
  queueAt : QueueRef → Queue Elem Stamp
  streamQueues : List (String × QueueRef) := []
  routing : Routing := {}
  pending : List Task := []
  running : Bool := false
  inFlight : Option Task := none
  destroyed : Bool := false
  created : Nat := 0
  deleted : List QueueRef := []
  misused : List QueueRef := []
  accepted : List (Burst Elem Stamp) := []
  sent : List (Sent Elem Stamp) := []

variable {Elem Stamp : Type}

/-- `thresholdBytes` stands for nine tenths of the ORB's largest message. -/
def OutPort.new (thresholdBytes : Nat) : OutPort Elem Stamp where
  queueAt := fun _ => {
    streamID := "(default)"
    maxBursts := 100
    thresholdBytes := thresholdBytes
    thresholdLatency := 10000 }

def OutPort.interleaved (port : OutPort Elem Stamp) : Bool :=
  port.routing.mode == .allInterleaved

variable (ref : QueueRef)

def OutPort.setQueue (queue : Queue Elem Stamp) (port : OutPort Elem Stamp) : OutPort Elem Stamp :=
  { port with queueAt := Function.update port.queueAt ref queue }

variable (port : OutPort Elem Stamp)

def OutPort.touch : OutPort Elem Stamp :=
  if ref ∈ port.deleted then { port with misused := ref :: port.misused } else port

def OutPort.scheduleCheck : OutPort Elem Stamp :=
  { port with pending := port.pending ++ [.checkQueues] }

def OutPort.executeThreadedFlush : OutPort Elem Stamp :=
  { port with pending := port.pending ++ [.flush ref] }

def OutPort.sendBursts (bursts : List (Burst Elem Stamp)) (streamID : String)
    (port : OutPort Elem Stamp) : OutPort Elem Stamp :=
  { port with sent := port.sent ++ [⟨bursts, port.routing, port.routing.receivers streamID⟩] }

def OutPort.sendQueue : OutPort Elem Stamp :=
  let queue := port.queueAt ref
  if queue.bursts.isEmpty then port
  else (port.sendBursts queue.bursts queue.streamID).setQueue ref
    { queue with bursts := [], bytes := 0, startTime := none }

def Queue.shouldFlush (queue : Queue Elem Stamp) (now : Int) : Bool :=
  if queue.maxBursts ≤ queue.bursts.length then true
  else if queue.thresholdBytes ≤ queue.bytes then true
  else match queue.startTime with
    | some startTime => decide (startTime + queue.thresholdLatency ≤ now)
    | none => false

def OutPort.flushQueue : OutPort Elem Stamp :=
  (port.touch ref).sendQueue ref

def OutPort.checkFlush (now : Int) (ref : QueueRef) (port : OutPort Elem Stamp) : OutPort Elem Stamp :=
  let port := port.touch ref
  if (port.queueAt ref).shouldFlush now then port.sendQueue ref else port

def OutPort.setMaxBursts (count : Nat) (port : OutPort Elem Stamp) : OutPort Elem Stamp :=
  let port := port.touch ref
  let queue := { port.queueAt ref with maxBursts := count }
  let port := port.setQueue ref queue
  if count ≤ queue.bursts.length then port.executeThreadedFlush ref else port

def OutPort.setByteThreshold (bytes : Nat) (port : OutPort Elem Stamp) : OutPort Elem Stamp :=
  let port := port.touch ref
  let queue := { port.queueAt ref with thresholdBytes := bytes }
  let port := port.setQueue ref queue
  if bytes ≤ queue.bytes then port.executeThreadedFlush ref else port

def OutPort.setLatencyThreshold (usec : Int) (port : OutPort Elem Stamp) : OutPort Elem Stamp :=
  let port := port.touch ref
  let queue := { port.queueAt ref with thresholdLatency := usec }
  let port := port.setQueue ref queue
  if queue.bursts.isEmpty then port else port.scheduleCheck

section Port

variable (elementSize : Nat) (throughFloat : Int → Int)

def Queue.push (burst : Burst Elem Stamp) (now : Int) (queue : Queue Elem Stamp) : Queue Elem Stamp :=
  { queue with
    startTime := if queue.bursts.isEmpty then some now else queue.startTime
    bursts := queue.bursts ++ [burst]
    bytes := queue.bytes + burst.data.length * elementSize }

/-- `Queue::queueBurst`; the clock is read once on entry and once for the thresholds. -/
def OutPort.pushQueue (ref : QueueRef) (burst : Burst Elem Stamp) (now later : Int)
    (port : OutPort Elem Stamp) : OutPort Elem Stamp :=
  let port := port.touch ref
  let port := if (port.queueAt ref).bursts.isEmpty then port.scheduleCheck else port
  let port := port.setQueue ref ((port.queueAt ref).push elementSize burst now)
  let port := { port with accepted := port.accepted ++ [burst] }
  if (port.queueAt ref).shouldFlush later then port.sendQueue ref else port

def OutPort.findStream (streamID : String) (port : OutPort Elem Stamp) : Option QueueRef :=
  (port.streamQueues.find? fun entry => entry.1 == streamID).map Prod.snd

def OutPort.addStream (streamID : String) (ref : QueueRef) (port : OutPort Elem Stamp) :
    OutPort Elem Stamp :=
  { port with
    streamQueues := port.streamQueues.orderedInsert (fun a b => a.1 ≤ b.1) (streamID, ref) }

def OutPort.eraseStream (streamID : String) (port : OutPort Elem Stamp) : OutPort Elem Stamp :=
  { port with streamQueues := port.streamQueues.filter fun entry => entry.1 != streamID }

def OutPort.deleteQueue (ref : QueueRef) (port : OutPort Elem Stamp) : OutPort Elem Stamp :=
  { port with deleted := ref :: port.deleted }

def OutPort.newQueue (streamID : String) (port : OutPort Elem Stamp) : OutPort Elem Stamp :=
  let settings := port.queueAt .default
  { port.setQueue (.owned port.created) {
      streamID := streamID
      maxBursts := settings.maxBursts
      thresholdBytes := settings.thresholdBytes
      thresholdLatency := throughFloat settings.thresholdLatency } with
    created := port.created + 1 }

def OutPort.getQueueForStream (streamID : String) (port : OutPort Elem Stamp) :
    QueueRef × OutPort Elem Stamp :=
  match port.findStream streamID with
  | some ref => (ref, port)
  | none =>
      if port.interleaved then (.default, port.addStream streamID .default)
      else
        let ref := QueueRef.owned port.created
        (ref, (port.newQueue throughFloat streamID).addStream streamID ref)

def OutPort.queueBurst (burst : Burst Elem Stamp) (isComplex : Bool) (now later : Int)
    (port : OutPort Elem Stamp) : OutPort Elem Stamp :=
  let streamID := burst.SRI.streamID
  let (ref, port) := port.getQueueForStream throughFloat streamID
  let mode := if isComplex then 1 else 0
  let port := port.pushQueue elementSize ref
    { burst with SRI := { burst.SRI with mode := mode } } now later
  if burst.EOS then
    let port :=
      if port.interleaved then port
      else
        let port := port.flushQueue ref
        port.deleteQueue ((port.findStream streamID).getD ref)
    port.eraseStream streamID
  else port

def OutPort.tableRefs (port : OutPort Elem Stamp) : List QueueRef :=
  port.streamQueues.map Prod.snd

def OutPort.visited (port : OutPort Elem Stamp) : List QueueRef :=
  if port.interleaved then [.default] else port.tableRefs

def OutPort.flush (port : OutPort Elem Stamp) : OutPort Elem Stamp :=
  port.visited.foldl (fun port ref => port.flushQueue ref) port

def OutPort.checkQueues (now : Int) (port : OutPort Elem Stamp) : OutPort Elem Stamp :=
  port.visited.foldl (fun port ref => port.checkFlush now ref) port

def OutPort.runInFlight (now : Int) (port : OutPort Elem Stamp) : OutPort Elem Stamp :=
  let done := { port with inFlight := none }
  match port.inFlight with
  | none => port
  | some .checkQueues => done.checkQueues now
  | some (.flush ref) => done.flushQueue ref

def OutPort.takeTask (index : Nat) (port : OutPort Elem Stamp) : OutPort Elem Stamp :=
  if port.running && port.inFlight.isNone then
    { port with inFlight := port.pending[index]?, pending := port.pending.eraseIdx index }
  else port

def OutPort.stop (now : Int) (port : OutPort Elem Stamp) : OutPort Elem Stamp :=
  { port.runInFlight now with running := false, pending := [] }.flush

def OutPort.destroy (port : OutPort Elem Stamp) : OutPort Elem Stamp :=
  let port :=
    if port.interleaved then port
    else port.tableRefs.foldl (fun port ref => port.deleteQueue ref) port
  { port with streamQueues := [], pending := [], destroyed := true }

inductive PortEvent (Elem Stamp : Type) where
  | pushBurst (burst : Burst Elem Stamp) (isComplex : Bool) (now later : Int)
  | getStreamPolicy (streamID : String)
  | setMaxBursts (policy : QueueRef) (count : Nat)
  | setByteThreshold (policy : QueueRef) (bytes : Nat)
  | setLatencyThreshold (policy : QueueRef) (usec : Int)
  | flushPolicy (policy : QueueRef)
  | setRoutingMode (mode : RoutingModeType)
  | setRoutes (routes : List (String × String))
  | setConnections (connections : List (String × Bool))
  | monitorTakes (index : Nat)
  | monitorRuns (now : Int)
  | start
  | stop (now : Int)
  | flush
  | destroy

def PortEvent.step (event : PortEvent Elem Stamp) (port : OutPort Elem Stamp) : OutPort Elem Stamp :=
  match event with
  | .pushBurst burst isComplex now later =>
      port.queueBurst elementSize throughFloat burst isComplex now later
  | .getStreamPolicy streamID => (port.getQueueForStream throughFloat streamID).2
  | .setMaxBursts policy count => port.setMaxBursts policy count
  | .setByteThreshold policy bytes => port.setByteThreshold policy bytes
  | .setLatencyThreshold policy usec => port.setLatencyThreshold policy usec
  | .flushPolicy policy => port.flushQueue policy
  | .setRoutingMode mode => { port with routing.mode := mode }
  | .setRoutes routes => { port with routing.routes := routes }
  | .setConnections connections => { port with routing.connections := connections }
  | .monitorTakes index => port.takeTask index
  | .monitorRuns now => port.runInFlight now
  | .start => { port with running := true }
  | .stop now => port.stop now
  | .flush => port.flush
  | .destroy => port.destroy

end Port

end Redhawk.Burstio
