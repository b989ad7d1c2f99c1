import Redhawk.Bulkio.OutPortCore
import Redhawk.Library.Runs

/-!
The output port against itself: which public calls try to take `updatingPortsLock` a second time.
-/

namespace Redhawk.Bulkio

open Library OutResult OutCall

variable {α : Type}

def OutResult.Deadlocked (result : OutResult α) : Prop := result.1 = .deadlocked

namespace OutPort

section Streams

@[simp] theorem not_deadlocked_returned (port : OutPort α) : ¬Deadlocked (.returned, port) := by
  simp [Deadlocked]

theorem deadlocked_andThen {call : OutResult α} {next : OutPort α → OutResult α} :
    (call.andThen next).Deadlocked ↔ call.Deadlocked ∨ call.1 = .returned ∧ (next call.2).Deadlocked := by
  obtain ⟨outcome, port⟩ := call
  cases outcome <;> simp [andThen, Deadlocked]

theorem deadlocked_andThen_of_free {call : OutResult α} {next : OutPort α → OutResult α}
    (free : ∀ port, ¬(next port).Deadlocked) :
    (call.andThen next).Deadlocked ↔ call.Deadlocked := by
  rw [deadlocked_andThen]
  constructor
  · rintro (first | ⟨_, second⟩)
    · exact first
    · exact absurd second (free _)
  · exact .inl

theorem not_deadlocked_sendLocked (fuel : Nat) (data : List α) (T : PrecisionUTCTime) (eos : Bool)
    (streamID : String) (port : OutPort α) :
    ¬(port.sendLocked fuel data T eos streamID).Deadlocked := by
  unfold sendLocked
  dsimp only
  split
  · exact not_deadlocked_returned _
  · split
    · exact not_deadlocked_returned _
    · simp [Deadlocked]

variable {fuel : Nat} {held : Bool} {port : OutPort α}

theorem deadlocked_sendPacket {data : List α} {T : PrecisionUTCTime} {eos : Bool} {streamID : String} :
    (port.sendPacket fuel held data T eos streamID).Deadlocked ↔ held = true := by
  unfold sendPacket
  cases held with
  | false => simp [not_deadlocked_sendLocked]
  | true => simp [Deadlocked]

variable {handle : Nat}

theorem deadlocked_flushBuffer {eos : Bool} :
    (port.flushBuffer fuel held eos handle).Deadlocked ↔
      held = true ∧ ∃ stream, port.objects[handle]? = some stream := by
  unfold flushBuffer
  cases port.objects[handle]? with
  | none => simp
  | some stream =>
      rw [deadlocked_andThen_of_free fun port => not_deadlocked_returned _, deadlocked_sendPacket]
      simp

theorem deadlocked_flush :
    (port.flush fuel held handle).Deadlocked ↔
      held = true ∧ ∃ stream, port.objects[handle]? = some stream ∧ stream.buffer ≠ [] := by
  unfold flush
  cases found : port.objects[handle]? with
  | none => simp
  | some stream =>
      by_cases empty : stream.buffer = []
      · simp [empty]
      · simp [empty, deadlocked_flushBuffer, found]

theorem deadlocked_modify {change : MetadataChange} :
    (port.modify fuel held handle change).Deadlocked ↔
      held = true ∧ port.buffered = true ∧ ∃ stream, port.objects[handle]? = some stream ∧
        stream.buffer ≠ [] ∧ (change.apply stream.streamID stream.sri).isSome = true := by
  unfold modify
  cases found : port.objects[handle]? with
  | none => simp
  | some stream =>
      dsimp only
      cases changed : change.apply stream.streamID stream.sri with
      | none => simp [changed]
      | some sri =>
          rw [deadlocked_andThen_of_free fun port => not_deadlocked_returned _]
          unfold modifyingStreamMetadata
          cases buffered : port.buffered with
          | false => simp
          | true => simp [deadlocked_flush, found, changed]

end Streams

section Writing

variable {fuel : Nat} {handle : Nat}

theorem not_deadlocked_doBuffer : ∀ (rounds : Nat) (data : List α) (time : PrecisionUTCTime)
    (port : OutPort α), ¬(port.doBuffer fuel handle rounds data time).Deadlocked := by
  intro rounds
  induction rounds with
  | zero => intro data time port; simp [doBuffer, Deadlocked]
  | succ rounds ih =>
      intro data time port
      unfold doBuffer
      cases port.objects[handle]? with
      | none => simp
      | some stream =>
          rw [deadlocked_andThen_of_free]
          · split
            · rw [deadlocked_flushBuffer]
              simp
            · simp
          · intro port
            split
            · exact ih _ _ port
            · simp

theorem not_deadlocked_write (data : List α) (time : PrecisionUTCTime) (port : OutPort α) :
    ¬(port.write fuel handle data time).Deadlocked := by
  unfold write
  cases port.objects[handle]? with
  | none => simp
  | some stream =>
      dsimp only
      split
      · rw [deadlocked_sendPacket]
        simp
      · exact not_deadlocked_doBuffer _ _ _ _

theorem not_deadlocked_writeMultiple (data : List α) :
    ∀ (times : List (Nat × PrecisionUTCTime)) (first : Nat) (port : OutPort α),
      ¬(port.writeMultiple fuel handle data first times).Deadlocked := by
  intro times
  induction times with
  | nil => intro first port; simp [writeMultiple]
  | cons time rest ih =>
      intro first port
      cases rest with
      | nil =>
          unfold writeMultiple
          split
          · exact not_deadlocked_write _ _ port
          · simp
      | cons next rest =>
          unfold writeMultiple
          cases port.objects[handle]? with
          | none => simp
          | some stream =>
              dsimp only
              split
              · rw [deadlocked_andThen_of_free fun port => ih _ port]
                exact not_deadlocked_write _ _ port
              · simp

theorem not_deadlocked_setBufferSize (samples : Nat) (port : OutPort α) :
    ¬(port.setBufferSize fuel handle samples).Deadlocked := by
  unfold setBufferSize
  cases port.objects[handle]? with
  | none => simp
  | some stream =>
      dsimp only
      split
      · simp
      · split
        · rw [deadlocked_flush]
          simp
        · simp

theorem not_deadlocked_close (port : OutPort α) : ¬(port.close fuel handle).Deadlocked := by
  unfold close
  cases port.objects[handle]? with
  | none => simp
  | some stream =>
      dsimp only
      split
      · rw [deadlocked_flushBuffer]
        simp
      · rw [deadlocked_sendPacket]
        simp

end Writing

section Registered

def ChangesUnsent (sri : StreamSRI) (port : OutPort α) : Prop :=
  port.buffered = true ∧ ∃ handle stream, port.registered sri.streamID = some (handle, stream) ∧
    stream.buffer ≠ [] ∧ sriDiffers stream.sri sri = true

variable {port : OutPort α}

theorem registered_of_lookup {streamID : String} {handle : Nat}
    (found : port.streams.lookup streamID = some handle) :
    port.registered streamID = port.objects[handle]?.map fun stream => (handle, stream) := by
  simp [registered, found]

variable {sri : StreamSRI}

theorem not_changesUnsent_of_lookup_none
    (absent : port.streams.lookup sri.streamID = none) : ¬port.ChangesUnsent sri := by
  rintro ⟨_, handle, stream, found, _⟩
  rw [registered, absent] at found
  cases found

variable {fuel : Nat}

theorem deadlocked_modify_sri {handle : Nat} (found : port.streams.lookup sri.streamID = some handle) :
    (port.modify fuel true handle (.sri sri)).Deadlocked ↔ port.ChangesUnsent sri := by
  rw [deadlocked_modify, ChangesUnsent, registered_of_lookup found]
  cases port.objects[handle]? with
  | none => simp
  | some stream =>
      have changes : ((MetadataChange.sri sri).apply stream.streamID stream.sri).isSome =
          sriDiffers stream.sri sri := by
        simp only [MetadataChange.apply]
        cases sriDiffers stream.sri sri <;> rfl
      constructor
      · rintro ⟨_, buffered, other, same, waiting, changed⟩
        obtain rfl := Option.some.inj same
        exact ⟨buffered, handle, stream, rfl, waiting, changes ▸ changed⟩
      · rintro ⟨buffered, position, other, same, waiting, differs⟩
        obtain ⟨rfl, rfl⟩ := Prod.mk.inj (Option.some.inj same)
        exact ⟨rfl, buffered, stream, rfl, waiting, changes ▸ differs⟩

theorem deadlocked_createStreamFrom : (port.createStreamFrom fuel sri).Deadlocked ↔ port.ChangesUnsent sri := by
  unfold createStreamFrom
  cases found : port.streams.lookup sri.streamID with
  | none => simp [not_changesUnsent_of_lookup_none found]
  | some handle => exact deadlocked_modify_sri found

theorem deadlocked_pushSRI : (port.pushSRI fuel sri).Deadlocked ↔ port.ChangesUnsent sri := by
  unfold pushSRI
  rw [deadlocked_andThen_of_free]
  · cases found : port.streams.lookup sri.streamID with
    | none => simp [not_changesUnsent_of_lookup_none found]
    | some handle => exact deadlocked_modify_sri found
  · intro port
    cases port.registered sri.streamID <;> simp

end Registered

end OutPort

def OutCall.storedSri : OutCall α → Option StreamSRI
  | .pushSRI sri | .createStreamFrom sri => some sri
  | _ => none

/-- A public call deadlocks with itself exactly if it stores, under the port's lock, an SRI that
changes a stream with data in its buffer. -/
theorem perform_not_deadlocked_iff (fuel : Nat) (port : OutPort α) (call : OutCall α) :
    (port.perform fuel call).1 ≠ .deadlocked ↔ ∀ sri, call.storedSri = some sri → ¬port.ChangesUnsent sri := by
  change ¬(port.perform fuel call).Deadlocked ↔ _
  cases call with
  | pushSRI sri => simp [OutPort.perform, storedSri, OutPort.deadlocked_pushSRI]
  | createStreamFrom sri =>
      simp [OutPort.perform, storedSri, OutPort.deadlocked_createStreamFrom]
  | pushPacket => simp [OutPort.perform, storedSri, OutPort.deadlocked_sendPacket]
  | write => simp [OutPort.perform, storedSri, OutPort.not_deadlocked_write]
  | writeMultiple => simp [OutPort.perform, storedSri, OutPort.not_deadlocked_writeMultiple]
  | modify => simp [OutPort.perform, storedSri, OutPort.deadlocked_modify]
  | setBufferSize => simp [OutPort.perform, storedSri, OutPort.not_deadlocked_setBufferSize]
  | flush => simp [OutPort.perform, storedSri, OutPort.deadlocked_flush]
  | close => simp [OutPort.perform, storedSri, OutPort.not_deadlocked_close]
  | createStream | connectPort | disconnectPort | updateConnectionFilter =>
      simp [OutPort.perform, storedSri]

/-- A stream with room for four samples holds two of them when its sample rate is changed through
the port. -/
theorem pushSRI_deadlocks_on_buffered :
    ¬∀ (fuel : Nat) (calls : List (OutCall Nat)),
      (run (perform fuel) (.returned, { name := "out", buffered := true }) calls).1 ≠
        .deadlocked := by
  intro free
  exact free 2 [.createStream "s", .setBufferSize 0 4, .write 0 [1, 2] .notSet,
    .pushSRI { Sri.create "s" with xdelta := 2 }] (by decide)

end Redhawk.Bulkio
