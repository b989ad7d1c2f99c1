import Redhawk.Bulkio.InStreamCore
import Redhawk.Library.Runs

/-!
The calls a port and its streams receive, as the events of a run, and the rules that carry a
property of the port or of a stream through every call on a stream.
-/

namespace Redhawk.Bulkio

open Library

variable {α : Type}

inductive StreamType where
  | plain | buffered
deriving DecidableEq

inductive StreamCall where
  | read
  | tryread
  | readSamples (count : Nat)
  | tryreadSamples (count : Nat)
  | readConsume (count consume : Nat)
  | tryreadConsume (count consume : Nat)
  | skip (count : Nat)
  | eos
  | enable
  | disable
deriving DecidableEq

def BufferedInputStream.call (reader : Reader α) : StreamCall → Reader α
  | .read => (readPacket true reader).2
  | .tryread => (readPacket false reader).2
  | .readSamples count => (read count count true reader).2
  | .tryreadSamples count => (read count count false reader).2
  | .readConsume count consume => (read count consume true reader).2
  | .tryreadConsume count consume => (read count consume false reader).2
  | .skip count => (skip count reader).2
  | .eos => (eos reader).2
  | .enable => InputStream.enable reader
  | .disable => disable reader

def InputStream.call (reader : Reader α) : StreamCall → Reader α
  | .read => (readPacket true reader).2
  | .tryread => (readPacket false reader).2
  | .eos => (eos reader).2
  | .enable => enable reader
  | .disable => disable reader
  | _ => reader

def StreamType.call (streamType : StreamType) (reader : Reader α) (call : StreamCall) : Reader α :=
  match streamType with
  | .plain => InputStream.call reader call
  | .buffered => BufferedInputStream.call reader call

inductive Call (α : Type) where
  | pushSRI (sri : StreamSRI)
  | queuePacket (data : List α) (T : PrecisionUTCTime) (eos : Bool) (streamID : String)
  | resumePush (streamID : String)
  | nextPacket (blocking : Bool) (streamID : String)
  | getPacket (blocking : Bool) (streamID : String)
  | setMaxQueueDepth (newDepth : Int)
  | block
  | unblock
  | stream (handle : Nat) (call : StreamCall)

namespace InPort

def callStream (streamType : StreamType) (handle : Nat) (call : StreamCall) (port : InPort α) : InPort α :=
  match port.objects[handle]? with
  | none => port
  | some stream =>
      let reader := streamType.call ⟨stream, port⟩ call
      reader.port.updateObject handle fun _ => reader.stream

def step (streamType : StreamType) (call : Call α) (port : InPort α) : InPort α :=
  match call with
  | .pushSRI sri => port.pushSRI sri
  | .queuePacket data T eos streamID => port.queuePacket data T eos streamID
  | .resumePush streamID => port.resumePush streamID
  | .nextPacket blocking streamID => (port.nextPacket blocking streamID).2
  | .getPacket blocking streamID => (port.getPacket blocking streamID).2
  | .setMaxQueueDepth newDepth => port.setMaxQueueDepth newDepth
  | .block => port.block
  | .unblock => port.unblock
  | .stream handle call => port.callStream streamType handle call

end InPort

section Rules

variable {Keeps : Reader α → Prop}

structure InputStream.Closed (Keeps : Reader α → Prop) : Prop where
  fetch : ∀ blocking reader, Keeps reader → Keeps (InputStream.fetchPacket blocking reader).2
  reach : ∀ reader, Keeps reader → Keeps (InputStream.reachIfReceived reader)
  report : ∀ reader, Keeps reader → Keeps (InputStream.reportIfEosReached reader)
  describe : ∀ reader sri newstream, Keeps reader →
    Keeps { reader with stream := { reader.stream with sri := sri, newstream := newstream } }
  enable : ∀ reader, Keeps reader → Keeps (InputStream.enable reader)

structure BufferedInputStream.Closed (Keeps : Reader α → Prop) : Prop where
  fetch : ∀ blocking reader, Keeps reader → Keeps (BufferedInputStream.fetchPacket blocking reader).2
  take : ∀ count front rest reader, Keeps reader → reader.stream.queue = front :: rest →
    Keeps { reader with stream := (takeBlock count front rest reader.stream).2 }
  consume : ∀ count reader, Keeps reader →
    Keeps { reader with stream := consumeData count reader.stream }
  report : ∀ reader, Keeps reader → Keeps (InputStream.reportIfEosReached reader)
  enable : ∀ reader, Keeps reader → Keeps (InputStream.enable reader)

namespace InputStream

theorem Closed.readPacket (closed : Closed Keeps) (blocking : Bool) (reader : Reader α)
    (keeps : Keeps reader) : Keeps (readPacket blocking reader).2 := by
  have fetched := closed.fetch blocking reader keeps
  simp only [InputStream.readPacket]
  rcases outcome : fetchPacket blocking reader with ⟨packet | _ | _, later⟩
  · rw [outcome] at fetched
    have settled := closed.reach later fetched
    dsimp only
    split
    · exact closed.report _ settled
    · exact closed.describe _ _ _ settled
  · rw [outcome] at fetched
    exact closed.report _ (closed.reach later fetched)
  · rw [outcome] at fetched
    exact fetched

theorem Closed.call (closed : Closed Keeps) (reader : Reader α) {call : StreamCall}
    (enabled : call ≠ .disable) (keeps : Keeps reader) : Keeps (InputStream.call reader call) := by
  cases call with
  | read => exact closed.readPacket true reader keeps
  | tryread => exact closed.readPacket false reader keeps
  | eos => exact closed.report reader keeps
  | enable => exact closed.enable reader keeps
  | disable => exact absurd rfl enabled
  | _ => exact keeps

end InputStream

namespace BufferedInputStream

section

variable (closed : Closed Keeps)
include closed

theorem Closed.fetchLoop (requested : Nat) (blocking : Bool) (fuel : Nat)
    (reader : Reader α) (keeps : Keeps reader) :
    Keeps (fetchLoop requested blocking fuel reader).2 := by
  induction fuel generalizing reader with
  | zero => exact keeps
  | succ fuel ih =>
      simp only [BufferedInputStream.fetchLoop]
      split
      · exact keeps
      · have fetched := closed.fetch blocking reader keeps
        rcases outcome : fetchPacket blocking reader with ⟨queued | _, later⟩ <;>
          rw [outcome] at fetched
        · cases queued
          · exact fetched
          · exact ih later fetched
        · exact fetched

theorem Closed.nextSRI (blocking : Bool) (reader : Reader α)
    (keeps : Keeps reader) : Keeps (nextSRI blocking reader).2 := by
  simp only [BufferedInputStream.nextSRI]
  split
  · exact keeps
  · have fetched := closed.fetch blocking reader keeps
    rcases outcome : fetchPacket blocking reader with ⟨queued | _, later⟩ <;>
      rw [outcome] at fetched
    · cases queued <;> exact fetched
    · exact fetched

theorem Closed.skip (count : Nat) (reader : Reader α) (keeps : Keeps reader) : Keeps (skip count reader).2 := by
  have known := closed.nextSRI true reader keeps
  simp only [BufferedInputStream.skip]
  rcases outcome : BufferedInputStream.nextSRI true reader with ⟨(_ | sri) | _, later⟩ <;> rw [outcome] at known
  · exact known
  · have fetched := closed.fetchLoop (count * if sri.complex then 2 else 1) true
      (later.port.packetQueue.length + 1) later known
    simp only [fetchUpTo]
    rcases filled : BufferedInputStream.fetchLoop (count * if sri.complex then 2 else 1) true
      (later.port.packetQueue.length + 1) later with ⟨_ | _, last⟩ <;> rw [filled] at fetched
    · exact closed.consume _ last fetched
    · exact fetched
  · exact known

variable (count consume : Nat)

theorem Closed.readData (reader : Reader α)
    (keeps : Keeps reader) : Keeps (readData count consume reader).2 := by
  simp only [BufferedInputStream.readData]
  split
  · exact keeps
  · rename_i front rest queue
    have taken := closed.take count front rest reader keeps queue
    have skipped := closed.skip (if (takeBlock count front rest reader.stream).1.sri.complex
      then consume / 2 else consume) _ taken
    rcases outcome : BufferedInputStream.skip
      (if (takeBlock count front rest reader.stream).1.sri.complex then consume / 2 else consume)
      { reader with stream := (takeBlock count front rest reader.stream).2 } with ⟨_ | _, last⟩ <;>
      rw [outcome] at skipped <;> exact skipped

variable (blocking : Bool) (reader : Reader α)

theorem Closed.readPacket (keeps : Keeps reader) : Keeps (readPacket blocking reader).2 := by
  have fetched : Keeps (if reader.stream.samplesQueued = 0 then fetchPacket blocking reader
      else (Outcome.returns true, reader)).2 := by
    split
    · exact closed.fetch blocking reader keeps
    · exact keeps
  simp only [BufferedInputStream.readPacket]
  rcases outcome : (if reader.stream.samplesQueued = 0 then fetchPacket blocking reader
      else (Outcome.returns true, reader)) with ⟨_ | _, later⟩ <;> rw [outcome] at fetched
  · dsimp only
    split
    · exact closed.report later fetched
    · split
      · exact fetched
      · exact closed.readData _ _ later fetched
  · exact fetched

theorem Closed.finishRead (keeps : Keeps reader) : Keeps (finishRead count consume blocking reader).2 := by
  simp only [BufferedInputStream.finishRead]
  split
  · exact closed.report reader keeps
  · split
    · split
      · exact keeps
      · exact closed.readData _ _ reader keeps
    · exact closed.readData _ _ reader keeps

theorem Closed.read (keeps : Keeps reader) : Keeps (read count consume blocking reader).2 := by
  have known := closed.nextSRI blocking reader keeps
  simp only [BufferedInputStream.read]
  rcases outcome : BufferedInputStream.nextSRI blocking reader with ⟨(_ | sri) | _, later⟩ <;> rw [outcome] at known
  · exact closed.report later known
  · have fetched := closed.fetchLoop (max (consume * if sri.complex then 2 else 1)
      (count * if sri.complex then 2 else 1)) blocking (later.port.packetQueue.length + 1) later known
    simp only [fetchUpTo]
    rcases filled : BufferedInputStream.fetchLoop (max (consume * if sri.complex then 2 else 1)
      (count * if sri.complex then 2 else 1)) blocking (later.port.packetQueue.length + 1) later
      with ⟨_ | _, last⟩ <;> rw [filled] at fetched
    · exact closed.finishRead _ _ blocking last fetched
    · exact fetched
  · exact known

theorem Closed.call {call : StreamCall} (enabled : call ≠ .disable) (keeps : Keeps reader) :
    Keeps (BufferedInputStream.call reader call) := by
  cases call with
  | read => exact closed.readPacket true reader keeps
  | tryread => exact closed.readPacket false reader keeps
  | readSamples count => exact closed.read count count true reader keeps
  | tryreadSamples count => exact closed.read count count false reader keeps
  | readConsume count consume => exact closed.read count consume true reader keeps
  | tryreadConsume count consume => exact closed.read count consume false reader keeps
  | skip count => exact closed.skip count reader keeps
  | eos =>
      refine closed.report _ ?_
      split
      · exact closed.fetch false reader keeps
      · exact keeps
  | enable => exact closed.enable reader keeps
  | disable => exact absurd rfl enabled

end

theorem consumeLoop_keeps (Keeps : BufferedInputStream α → Prop)
    (advance : ∀ offset queued stream, Keeps stream →
      Keeps { stream with sampleOffset := offset, samplesQueued := queued })
    (packet : ∀ stream, Keeps stream → Keeps (consumePacket stream))
    (fuel count : Nat) (stream : BufferedInputStream α) (keeps : Keeps stream) :
    Keeps (consumeLoop fuel count stream) := by
  induction fuel generalizing count stream with
  | zero => exact keeps
  | succ fuel ih =>
      simp only [consumeLoop]
      split
      · exact keeps
      · split
        · exact keeps
        · have advanced := fun offset queued => advance offset queued stream keeps
          split
          · exact ih _ _ (advance 0 _ _ (packet _ (advanced _ _)))
          · exact ih _ _ (advanced _ _)

end BufferedInputStream

end Rules

section Identity

def BufferedInputStream.identity (stream : BufferedInputStream α) :
    String × Nat × Bool × List (Packet α) :=
  (stream.streamID, stream.born, stream.enabled, stream.fetched)

namespace BufferedInputStream

@[simp] theorem queuePacket_identity (packet : Packet α) (stream : BufferedInputStream α) :
    (queuePacket packet stream).2.identity = stream.identity := by
  simp only [queuePacket]
  split
  · split <;> rfl
  · rfl

theorem consumePacket_identity (stream : BufferedInputStream α) :
    (consumePacket stream).identity = stream.identity := by
  simp only [consumePacket]
  split
  · rfl
  · split
    · split
      · rename_i front rest _ _ pending _ _
        exact (queuePacket_identity pending _).trans (by split <;> rfl)
      · split <;> rfl
    · split <;> rfl

theorem consumeData_identity (count : Nat) (stream : BufferedInputStream α) :
    (consumeData count stream).identity = stream.identity :=
  consumeLoop_keeps (fun later => later.identity = stream.identity)
    (fun _ _ _ same => same) (fun later same => (consumePacket_identity later).trans same) _ _ _ rfl

theorem takeBlock_identity (count : Nat) (front : Packet α) (rest : List (Packet α))
    (stream : BufferedInputStream α) :
    (takeBlock count front rest stream).2.identity = stream.identity := by
  simp only [takeBlock, InputStream.setBlockFlags]
  split <;> split <;> rfl

end BufferedInputStream

end Identity

section PortRule

theorem InPort.getPacket_keeps {Keeps : InPort α → Prop} {blocking : Bool} {streamID : String} {port : InPort α}
    (removed : ∀ other later, Keeps later → Keeps (later.removeStream other))
    (fetched : Keeps (port.nextPacket blocking streamID).2) :
    Keeps (port.getPacket blocking streamID).2 := by
  simp only [InPort.getPacket]
  rcases outcome : port.nextPacket blocking streamID with ⟨packet | _ | _, later⟩ <;>
    rw [outcome] at fetched
  · dsimp only
    split
    · exact removed _ later fetched
    · exact fetched
  · exact fetched
  · exact fetched

structure InPort.ReadClosed (streamID : String) (Keeps : InPort α → Prop) : Prop where
  nextPacket : ∀ blocking port, Keeps port → Keeps (port.nextPacket blocking streamID).2
  removeStream : ∀ port, Keeps port → Keeps (port.removeStream streamID)
  updateObject : ∀ handle update port, Keeps port → Keeps (port.updateObject handle update)

variable {streamID : String} {Keeps : InPort α → Prop}

def Reader.Reads (streamID : String) (Keeps : InPort α → Prop) (reader : Reader α) : Prop :=
  reader.stream.streamID = streamID ∧ Keeps reader.port

section

variable (closed : InPort.ReadClosed streamID Keeps)

include closed

theorem InPort.ReadClosed.fetchPacket (blocking : Bool)
    (reader : Reader α) (reads : reader.Reads streamID Keeps) :
    (InputStream.fetchPacket blocking reader).2.Reads streamID Keeps := by
  obtain ⟨rfl, keeps⟩ := reads
  have fetched := closed.nextPacket blocking reader.port keeps
  simp only [InputStream.fetchPacket]
  split
  · exact ⟨rfl, keeps⟩
  · split
    · exact ⟨rfl, keeps⟩
    · rcases outcome : reader.port.nextPacket blocking reader.stream.streamID with
        ⟨packet | _ | _, port⟩ <;> rw [outcome] at fetched
      · refine ⟨?_, fetched⟩
        dsimp only
        split <;> rfl
      · exact ⟨rfl, fetched⟩
      · exact ⟨rfl, fetched⟩

theorem InPort.ReadClosed.reportIfEosReached (reader : Reader α) (reads : reader.Reads streamID Keeps) :
    (InputStream.reportIfEosReached reader).Reads streamID Keeps := by
  obtain ⟨rfl, keeps⟩ := reads
  simp only [InputStream.reportIfEosReached]
  split
  · exact ⟨rfl, closed.removeStream _ keeps⟩
  · exact ⟨rfl, keeps⟩

theorem InPort.ReadClosed.plain : InputStream.Closed (Reader.Reads streamID Keeps) where
  fetch := closed.fetchPacket
  reach reader reads := by
    simp only [InputStream.reachIfReceived]
    split <;> exact reads
  report := closed.reportIfEosReached
  describe _ _ _ reads := reads
  enable _ reads := reads

theorem InPort.ReadClosed.buffered : BufferedInputStream.Closed (Reader.Reads streamID Keeps) where
  fetch blocking reader reads := by
    have fetched := closed.fetchPacket blocking reader reads
    simp only [BufferedInputStream.fetchPacket]
    split
    · exact reads
    · rcases outcome : InputStream.fetchPacket blocking reader with ⟨packet | _ | _, later⟩ <;>
        rw [outcome] at fetched
      · dsimp only
        split
        · have same := BufferedInputStream.queuePacket_identity packet later.stream
          exact ⟨(congrArg Prod.fst same).trans fetched.1, fetched.2⟩
        · exact fetched
      · exact fetched
      · exact fetched
  take count front rest reader reads _ :=
    ⟨(congrArg Prod.fst (BufferedInputStream.takeBlock_identity count front rest _)).trans reads.1, reads.2⟩
  consume count reader reads :=
    ⟨(congrArg Prod.fst (BufferedInputStream.consumeData_identity count _)).trans reads.1, reads.2⟩
  report := closed.reportIfEosReached
  enable _ reads := reads

theorem InPort.ReadClosed.callStream
    (streamType : StreamType) {handle : Nat} {call : StreamCall} (enabled : call ≠ .disable)
    {port : InPort α} {stream : BufferedInputStream α} (found : port.objects[handle]? = some stream)
    (same : stream.streamID = streamID) (keeps : Keeps port) :
    Keeps (port.callStream streamType handle call) := by
  simp only [InPort.callStream, found]
  apply closed.updateObject
  cases streamType with
  | plain => exact (closed.plain.call _ enabled ⟨same, keeps⟩).2
  | buffered => exact (closed.buffered.call _ enabled ⟨same, keeps⟩).2

end

end PortRule

end Redhawk.Bulkio
