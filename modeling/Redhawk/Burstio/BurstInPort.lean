import Mathlib.Data.Finset.Basic
import Redhawk.Burstio.BurstOutPort

/-!
The input port of the burst interfaces (`InPortImpl.h`): the queue of burst sequences, its two readers
and the streams that its statistics report.

A call is taken where it holds the mutex. A `pushBursts` that waits for room runs this part once more
each time it is woken; the readers leave the port alone while they wait, and are taken where the wait
is over.
-/

namespace Redhawk.Burstio

variable {Elem Stamp : Type}

inductive Mark (Elem Stamp : Type) where
  | accepted (burst : Burst Elem Stamp)
  | handedOut (burst : Burst Elem Stamp)
  | flushed (burst : Burst Elem Stamp)

/-- `queueOffset` counts the bursts of the first sequence that are gone; the log is history. -/
structure InPort (Elem Stamp : Type) where
  queue : List (List (Burst Elem Stamp)) := []
  queueOffset : Nat := 0
  queuedBursts : Nat := 0
  queueThreshold : Nat := 100
  blockOccurred : Bool := false
  started : Bool := false
  streamIDs : Finset String := ∅
  log : List (Mark Elem Stamp) := []

/-- A `pushBursts` that has the mutex waits, drops its bursts or queues them. -/
inductive Pushed where
  | waits
  | discarded
  | queued
deriving DecidableEq

namespace InPort

def record (marks : List (Mark Elem Stamp)) (port : InPort Elem Stamp) : InPort Elem Stamp :=
  { port with log := port.log ++ marks }

variable (port : InPort Elem Stamp)

def front : List (Burst Elem Stamp) :=
  (port.queue.headD []).drop port.queueOffset

def pending : List (Burst Elem Stamp) :=
  port.front ++ port.queue.tail.flatten

def openStreams : List (Burst Elem Stamp) → Finset String → Finset String
  | [], streamIDs => streamIDs
  | burst :: rest, streamIDs =>
    openStreams rest (if burst.EOS then streamIDs else insert burst.SRI.streamID streamIDs)

def setQueueThreshold (count : Nat) (port : InPort Elem Stamp) : InPort Elem Stamp :=
  if count = 0 then port else { port with queueThreshold := count }

/-- `reported` is set once the call has reported that it blocked. -/
def pushBursts (bursts : List (Burst Elem Stamp)) (reported : Bool) (port : InPort Elem Stamp) :
    Pushed × InPort Elem Stamp :=
  if port.started ∧ port.queueThreshold ≤ port.queuedBursts then
    (.waits, { port with blockOccurred := port.blockOccurred || !reported })
  else if !port.started then (.discarded, port)
  else
    let port := { port with streamIDs := openStreams bursts port.streamIDs }
    let port := port.record (bursts.map .accepted)
    if bursts.isEmpty then (.queued, port)
    else (.queued, { port with
      queue := port.queue ++ [bursts]
      queuedBursts := port.queuedBursts + bursts.length })

def ready : Bool := port.started && 0 < port.queuedBursts

def getBurst : Option (Burst Elem Stamp × Bool) × InPort Elem Stamp :=
  if !port.ready then (none, port)
  else match port.queue, port.front with
    | sequence :: rest, burst :: _ =>
      let packet := some (burst, port.blockOccurred)
      let port := { port with
        blockOccurred := false
        streamIDs := if burst.EOS then port.streamIDs.erase burst.SRI.streamID else port.streamIDs
        queuedBursts := port.queuedBursts - 1 }
      let port := port.record [.handedOut burst]
      if port.queueOffset + 1 = sequence.length then
        (packet, { port with queue := rest, queueOffset := 0 })
      else
        (packet, { port with
          queue := sequence.set port.queueOffset { burst with data := [] } :: rest
          queueOffset := port.queueOffset + 1 })
    | _, _ => (none, port)

def getBursts : List (Burst Elem Stamp) × InPort Elem Stamp :=
  if !port.ready then ([], port)
  else
    let bursts := if port.queueOffset = 0 then port.queue.headD [] else port.front
    (bursts, InPort.record (bursts.map .handedOut) { port with
      queue := port.queue.tail
      queueOffset := 0
      queuedBursts := port.queuedBursts - bursts.length })

def flush : InPort Elem Stamp :=
  if port.queue.isEmpty then port
  else { port.record (port.pending.map .flushed) with
    queue := []
    queueOffset := 0
    queuedBursts := 0 }

end InPort

inductive InPortEvent (Elem Stamp : Type) where
  | pushBursts (bursts : List (Burst Elem Stamp)) (reported : Bool)
  | getBurst
  | getBursts
  | blockOccurred
  | flush
  | start
  | stop
  | setQueueThreshold (count : Nat)

def InPortEvent.step (event : InPortEvent Elem Stamp) (port : InPort Elem Stamp) : InPort Elem Stamp :=
  match event with
  | .pushBursts bursts reported => (port.pushBursts bursts reported).2
  | .getBurst => port.getBurst.2
  | .getBursts => port.getBursts.2
  | .blockOccurred => { port with blockOccurred := false }
  | .flush => port.flush
  | .start => { port with started := true }
  | .stop => { port with started := false }
  | .setQueueThreshold count => port.setQueueThreshold count

end Redhawk.Burstio
