import Redhawk.Bulkio.OutPortCore
import Redhawk.Library.Lists

/-!
The buffer of a C++ `BufferedOutputStream` (`bulkio_out_stream.cpp`): the packets that its calls hand
to the port, whatever the port does with them.
-/

namespace Redhawk.Bulkio

open Library List

variable {α : Type}

/-- A packet as `_send` hands it to the port, with the SRI that the stream has then. -/
structure SentPacket (α : Type) where
  data : List α
  T : PrecisionUTCTime
  eos : Bool
  sri : StreamSRI
deriving DecidableEq

abbrev Sending (α : Type) := List (SentPacket α) × OutputStream α

namespace OutputStream

section Calls

def send (data : List α) (T : PrecisionUTCTime) (eos : Bool) (stream : OutputStream α) :
    SentPacket α := ⟨data, T, eos, stream.sri⟩

def flushBuffer (eos : Bool) (stream : OutputStream α) : Sending α :=
  ([stream.send stream.buffer stream.bufferTime eos], { stream with buffer := [] })

def flush (stream : OutputStream α) : Sending α :=
  if stream.buffer.isEmpty then ([], stream) else stream.flushBuffer false

def modify (change : MetadataChange) (stream : OutputStream α) : Sending α :=
  match change.apply stream.streamID stream.sri with
  | none => ([], stream)
  | some sri =>
      let (sent, stream) := stream.flush
      (sent, { stream with sri := sri, modcount := stream.modcount + 1 })

def doBuffer : Nat → List α → PrecisionUTCTime → OutputStream α → Sending α
  | 0, _, _, stream => ([], stream)
  | rounds + 1, data, time, stream =>
      let count := min data.length (stream.bufferSize - stream.buffer.length)
      let buffered := { stream with
        buffer := stream.buffer ++ data.take count
        bufferTime := if stream.buffer.isEmpty then time else stream.bufferTime }
      let (sent, after) := if stream.bufferSize ≤ buffered.buffer.length then
        buffered.flushBuffer false else ([], buffered)
      if count < data.length then
        let (later, last) :=
          doBuffer rounds (data.drop count) (time.add (stream.sri.xdelta * count)) after
        (sent ++ later, last)
      else (sent, after)

def passes (data : List α) (stream : OutputStream α) : Bool :=
  stream.bufferSize == 0 || (stream.buffer.isEmpty && decide (stream.bufferSize ≤ data.length))

def write (data : List α) (time : PrecisionUTCTime) (stream : OutputStream α) : Sending α :=
  if stream.passes data then ([stream.send data time false], stream)
  else doBuffer (data.length + 1) data time stream

def setBufferSize (samples : Nat) (stream : OutputStream α) : Sending α :=
  if samples = stream.bufferSize then ([], stream)
  else
    let resized := { stream with bufferSize := samples }
    if samples ≤ stream.buffer.length then resized.flush else ([], resized)

def close (stream : OutputStream α) : Sending α :=
  if !stream.buffer.isEmpty then stream.flushBuffer true
  else ([stream.send [] .notSet true], stream)

end Calls

end OutputStream

inductive BufferCall (α : Type) where
  | write (data : List α) (time : PrecisionUTCTime)
  | setBufferSize (samples : Nat)
  | flush
  | modify (change : MetadataChange)
deriving DecidableEq

namespace OutputStream

def perform (stream : OutputStream α) : BufferCall α → Sending α
  | .write data time => stream.write data time
  | .setBufferSize samples => stream.setBufferSize samples
  | .flush => stream.flush
  | .modify change => stream.modify change

def performAll : OutputStream α → List (BufferCall α) → Sending α
  | stream, [] => ([], stream)
  | stream, call :: rest =>
      let (sent, stream) := stream.perform call
      let (later, last) := stream.performAll rest
      (sent ++ later, last)

def written (streamID : String) : StreamSRI → List (BufferCall α) → List (α × StreamSRI)
  | _, [] => []
  | sri, .write data _ :: rest => data.map (·, sri) ++ written streamID sri rest
  | sri, .modify change :: rest =>
      written streamID ((change.apply streamID sri).getD sri) rest
  | sri, _ :: rest => written streamID sri rest

end OutputStream

def SentPacket.samples (packet : SentPacket α) : List (α × StreamSRI) :=
  packet.data.map (·, packet.sri)

namespace OutputStream

def remainder (stream : OutputStream α) : List (α × StreamSRI) := stream.buffer.map (·, stream.sri)

def Roomy (stream : OutputStream α) : Prop :=
  stream.buffer = [] ∨ stream.buffer.length < stream.bufferSize

structure Conserves (given : List (α × StreamSRI)) (stream : OutputStream α) (sending : Sending α) :
    Prop where
  samples : sending.1.flatMap SentPacket.samples ++ sending.2.remainder = stream.remainder ++ given
  open' : ∀ packet ∈ sending.1, packet.eos = false
  streamID : sending.2.streamID = stream.streamID
  roomy : sending.2.Roomy

section Steps

variable {stream : OutputStream α}

theorem flushBuffer_conserves (stream : OutputStream α) :
    Conserves [] stream (stream.flushBuffer false) := by
  refine ⟨?_, ?_, rfl, .inl rfl⟩
  · simp [flushBuffer, send, remainder, SentPacket.samples]
  · simp [flushBuffer, send]

theorem flush_conserves (stream : OutputStream α) : Conserves [] stream stream.flush := by
  simp only [OutputStream.flush]
  split
  · rename_i empty
    exact ⟨by simp, by simp, rfl, .inl (by simpa using empty)⟩
  · exact flushBuffer_conserves stream

theorem Roomy.room (roomy : stream.Roomy) (some : 0 < stream.bufferSize) :
    stream.buffer.length < stream.bufferSize := by
  rcases roomy with empty | room
  · rw [empty]
    exact some
  · exact room

theorem length_append_take {held data : List α} {count : Nat} (within : count ≤ data.length) :
    (held ++ data.take count).length = held.length + count := by
  rw [length_append, length_take, Nat.min_eq_left within]

theorem Roomy.doBuffer (roomy : stream.Roomy) {rounds : Nat} {data : List α}
    (enough : data.length < rounds) (some : 0 < stream.bufferSize) (time : PrecisionUTCTime) :
    Conserves (data.map (·, stream.sri)) stream (doBuffer rounds data time stream) ∧
      (OutputStream.doBuffer rounds data time stream).2.sri = stream.sri ∧
      (OutputStream.doBuffer rounds data time stream).2.bufferSize = stream.bufferSize ∧
      ∀ packet ∈ (OutputStream.doBuffer rounds data time stream).1, packet.data.length = stream.bufferSize := by
  induction rounds generalizing data stream time with
  | zero => omega
  | succ rounds ih =>
      have room := roomy.room some
      simp only [OutputStream.doBuffer]
      generalize taken : min data.length (stream.bufferSize - stream.buffer.length) = count
      have size := @length_append_take _ stream.buffer data count (by omega)
      rw [size]
      by_cases fills : stream.bufferSize ≤ stream.buffer.length + count
      · rw [if_pos fills]
        generalize (if stream.buffer.isEmpty then time else stream.bufferTime) = bufferTime
        by_cases more : count < data.length
        · -- the buffer is sent and the rest goes into a new one
          rw [if_pos more]
          have shorter : (data.drop count).length < rounds := by
            rw [length_drop]
            omega
          obtain ⟨conserves, sri, bufferSize, sizes⟩ := @ih
            { stream with buffer := [], bufferTime := bufferTime } (.inl rfl) (data.drop count) shorter
            some (time.add (stream.sri.xdelta * count))
          refine ⟨⟨?_, ?_, conserves.streamID, conserves.roomy⟩, sri, bufferSize, ?_⟩
          · have samples := conserves.samples
            simp only [remainder, map_nil, nil_append] at samples
            simp only [flushBuffer, send, cons_append, nil_append, flatMap_cons,
              append_assoc, remainder, samples, SentPacket.samples, ← map_append,
              take_append_drop]
          · simpa [flushBuffer, send] using conserves.open'
          · refine forall_mem_cons.mpr ⟨?_, sizes⟩
            simp only [send, size]
            omega
        · rw [if_neg more]
          have all : data.take count = data := take_of_length_le (by omega)
          refine ⟨⟨?_, ?_, rfl, .inl rfl⟩, rfl, rfl, ?_⟩
          · simp [flushBuffer, send, remainder, SentPacket.samples, all]
          · simp [flushBuffer, send]
          · refine forall_mem_cons.mpr ⟨?_, by simp⟩
            simp only [send, size]
            omega
      · have last : ¬count < data.length := by omega
        have all : data.take count = data := take_of_length_le (by omega)
        rw [if_neg fills, if_neg last]
        refine ⟨⟨?_, by simp, rfl, .inr ?_⟩, rfl, rfl, by simp⟩
        · simp [remainder, all]
        · dsimp only
          omega

theorem Roomy.write (roomy : stream.Roomy) (data : List α) (time : PrecisionUTCTime) :
    Conserves (data.map (·, stream.sri)) stream (stream.write data time) ∧
      (stream.write data time).2.sri = stream.sri := by
  simp only [OutputStream.write]
  split
  · rename_i passes
    have empty : stream.buffer = [] := by
      simp only [OutputStream.passes, Bool.or_eq_true, beq_iff_eq, Bool.and_eq_true, List.isEmpty_iff] at passes
      rcases passes with none | ⟨empty, _⟩
      · refine roomy.resolve_right fun room => ?_
        omega
      · exact empty
    refine ⟨⟨?_, ?_, rfl, roomy⟩, rfl⟩
    · simp [send, remainder, SentPacket.samples, empty]
    · simp [send]
  · rename_i buffers
    have some : 0 < stream.bufferSize := by
      simp only [OutputStream.passes, Bool.or_eq_true, beq_iff_eq, not_or] at buffers
      omega
    obtain ⟨conserves, sri, _⟩ := roomy.doBuffer (Nat.lt_succ_self data.length) some time
    exact ⟨conserves, sri⟩

theorem Roomy.setBufferSize (roomy : stream.Roomy) (samples : Nat) :
    Conserves [] stream (stream.setBufferSize samples) ∧ (stream.setBufferSize samples).2.sri = stream.sri := by
  simp only [OutputStream.setBufferSize]
  split
  · exact ⟨⟨by simp, by simp, rfl, roomy⟩, rfl⟩
  · split
    · obtain ⟨same, open', streamID, room⟩ := flush_conserves { stream with bufferSize := samples }
      refine ⟨⟨same, open', streamID, room⟩, ?_⟩
      simp only [OutputStream.flush]
      split <;> rfl
    · refine ⟨⟨by simp [remainder], by simp, rfl, .inr ?_⟩, rfl⟩
      dsimp only
      omega

theorem flush_emptied (stream : OutputStream α) : stream.flush.2.buffer = [] := by
  simp only [OutputStream.flush]
  split
  · rename_i empty
    simpa using empty
  · rfl

theorem Roomy.modify (roomy : stream.Roomy) (change : MetadataChange) :
    Conserves [] stream (stream.modify change) ∧ (stream.modify change).2.sri =
      (change.apply stream.streamID stream.sri).getD stream.sri := by
  simp only [OutputStream.modify]
  split
  · rename_i same
    rw [same]
    exact ⟨⟨by simp, by simp, rfl, roomy⟩, rfl⟩
  · rename_i sri changed
    obtain ⟨samples, open', streamID, _⟩ := flush_conserves stream
    have empty := flush_emptied stream
    simp only [remainder, empty, map_nil, append_nil] at samples
    rw [changed]
    refine ⟨⟨?_, open', streamID, .inl empty⟩, rfl⟩
    simp only [remainder, empty, map_nil, append_nil]
    exact samples

theorem Roomy.perform (roomy : stream.Roomy) (call : BufferCall α) (rest : List (BufferCall α)) :
    ∃ given, Conserves given stream (stream.perform call) ∧
      written stream.streamID stream.sri (call :: rest) =
        given ++ written stream.streamID (stream.perform call).2.sri rest := by
  cases call with
  | write data time =>
      obtain ⟨conserves, sri⟩ := roomy.write data time
      refine ⟨_, conserves, ?_⟩
      simp only [written, OutputStream.perform, sri]
  | setBufferSize samples =>
      obtain ⟨conserves, sri⟩ := roomy.setBufferSize samples
      refine ⟨_, conserves, ?_⟩
      simp [written, OutputStream.perform, sri]
  | flush =>
      have same : stream.flush.2.sri = stream.sri := by
        simp only [OutputStream.flush]
        split <;> rfl
      refine ⟨_, flush_conserves stream, ?_⟩
      simp [written, OutputStream.perform, same]
  | modify change =>
      obtain ⟨conserves, sri⟩ := roomy.modify change
      refine ⟨_, conserves, ?_⟩
      simp [written, OutputStream.perform, sri]

theorem Roomy.performAll (roomy : stream.Roomy) (calls : List (BufferCall α)) :
    Conserves (written stream.streamID stream.sri calls) stream (stream.performAll calls) := by
  induction calls generalizing stream with
  | nil => exact ⟨by simp [OutputStream.performAll, written], by simp [OutputStream.performAll], rfl, roomy⟩
  | cons call rest ih =>
      obtain ⟨given, first, writes⟩ := roomy.perform call rest
      obtain ⟨samples, open', streamID, last⟩ := ih first.roomy
      refine ⟨?_, ?_, streamID.trans first.streamID, last⟩
      · have now := first.samples
        rw [first.streamID] at samples
        rw [writes, ← append_assoc, ← now, append_assoc, ← samples]
        simp [OutputStream.performAll]
      · intro packet member
        rcases mem_append.mp member with now | later
        · exact first.open' packet now
        · exact open' packet later

theorem close_conserves (stream : OutputStream α) :
    stream.close.1.flatMap SentPacket.samples = stream.remainder ∧
      ∃ packet, stream.close.1 = [packet] ∧ packet.eos = true ∧ packet.data = stream.buffer := by
  cases buffer : stream.buffer with
  | nil => simp [OutputStream.close, buffer, send, SentPacket.samples, remainder]
  | cons first rest =>
      simp [OutputStream.close, buffer, flushBuffer, send, SentPacket.samples, remainder]

end Steps

/-- What is written comes out, each sample under the SRI it was written with, in packets as large as the
buffer wherever the buffer was filled, and with one end-of-stream at the end. -/
theorem buffering_conserves (streamID : String) (sri : StreamSRI) (calls : List (BufferCall α)) :
    let sending := performAll { streamID := streamID, sri := sri } calls
    let stream := sending.2
    (sending.1 ++ stream.close.1).flatMap SentPacket.samples = written streamID sri calls ∧
      (0 < stream.bufferSize → stream.buffer.length < stream.bufferSize) ∧
      (stream.bufferSize = 0 → stream.buffer = []) ∧
      (∀ data time, stream.passes data = false →
        ∀ packet ∈ (stream.write data time).1, packet.data.length = stream.bufferSize) ∧
      (∀ packet ∈ sending.1, packet.eos = false) ∧
      ∃ packet, stream.close.1 = [packet] ∧ packet.eos = true ∧ packet.data = stream.buffer := by
  intro sending stream
  have start : Roomy ({ streamID := streamID, sri := sri } : OutputStream α) := .inl rfl
  obtain ⟨samples, open', _, roomy⟩ := start.performAll calls
  obtain ⟨remains, closes⟩ := close_conserves stream
  refine ⟨?_, fun some => ?_, fun none => ?_, fun data time buffers => ?_, open', closes⟩
  · rw [flatMap_append, remains]
    simpa [remainder] using samples
  · rcases roomy with empty | room
    · rw [empty]
      exact some
    · exact room
  · refine roomy.resolve_right fun (room : stream.buffer.length < stream.bufferSize) => ?_
    omega
  · have some : 0 < stream.bufferSize := by
      simp only [passes, Bool.or_eq_false_iff, beq_eq_false_iff_ne] at buffers
      omega
    obtain ⟨_, _, _, sizes⟩ := roomy.doBuffer (Nat.lt_succ_self data.length) some time
    rw [OutputStream.write, buffers]
    exact sizes

theorem remainder_unbuffered :
    let stream := (performAll ({ streamID := "a", sri := Sri.create "a" } : OutputStream Nat)
      [.write [1, 2] .notSet]).2
    ¬stream.buffer.length < stream.bufferSize := by
  decide

end OutputStream

end Redhawk.Bulkio
