import Redhawk.Bulkio.OutStreamBuffer
import Redhawk.Bulkio.SampleTimes

/-!
The time stamps of the packets that a C++ `BufferedOutputStream` sends, when each write continues the
one before it.
-/

namespace Redhawk.Bulkio

open SentPacket PrecisionUTCTime List

variable {α : Type}

def SentPacket.stamp (packet : SentPacket α) : List α × PrecisionUTCTime := (packet.data, packet.T)

/-- Each write is stamped with the time at which the one before it ends, whatever else happens to the
stream but a change of `xdelta` or `mode`. -/
def Chained (streamID : String) : StreamSRI → ℚ → List (BufferCall α) → Prop
  | _, _, [] => True
  | sri, next, .write data time :: rest =>
      time.seconds = next ∧ Chained streamID sri (next + sri.scalarTime * data.length) rest
  | sri, next, .modify change :: rest =>
      let changed := (change.apply streamID sri).getD sri
      changed.xdelta = sri.xdelta ∧ changed.mode = sri.mode ∧ Chained streamID changed next rest
  | sri, next, _ :: rest => Chained streamID sri next rest

namespace OutputStream

def fits (data : List α) (stream : OutputStream α) : Bool :=
  stream.passes data || decide (stream.buffer.length + data.length ≤ stream.bufferSize)

def Unsplit : OutputStream α → List (BufferCall α) → Prop
  | _, [] => True
  | stream, call :: rest =>
      (∀ data time, call = .write data time → stream.fits data) ∧ Unsplit (stream.perform call).2 rest

def closed (stream : OutputStream α) (calls : List (BufferCall α)) : List (SentPacket α) :=
  (stream.performAll calls).1 ++ (stream.performAll calls).2.close.1

theorem closed_cons (stream : OutputStream α) (call : BufferCall α) (rest : List (BufferCall α)) :
    stream.closed (call :: rest) = (stream.perform call).1 ++ (stream.perform call).2.closed rest := by
  simp [closed, performAll]

def Timed (start : ℚ) (pushed : Nat) (stream : OutputStream α) : Prop :=
  stream.buffer ≠ [] → stream.bufferTime.seconds = start + stream.sri.scalarTime * pushed

structure Stamps (start : ℚ) (pushed : Nat) (stream : OutputStream α) (sending : Sending α) :
    Prop where
  packets : Stamped start stream.sri.scalarTime pushed (sending.1.map SentPacket.stamp)
  buffered : sending.2.Timed start (pushed + (sending.1.flatMap SentPacket.data).length)
  rate : sending.2.sri.scalarTime = stream.sri.scalarTime
  mode : sending.2.sri.mode = stream.sri.mode
  xdelta : sending.2.sri.xdelta = stream.sri.xdelta

theorem Conserves.count {given : List (α × StreamSRI)} {stream : OutputStream α}
    {sending : Sending α} (conserves : Conserves given stream sending) :
    (sending.1.flatMap SentPacket.data).length + sending.2.buffer.length =
      stream.buffer.length + given.length := by
  have lengths := congrArg length conserves.samples
  have same : (sending.1.flatMap SentPacket.samples).length = (sending.1.flatMap SentPacket.data).length := by
    simp [length_flatMap, SentPacket.samples]
  simp only [length_append, remainder, length_map, same] at lengths
  exact lengths

section Times

variable {stream : OutputStream α} {start : ℚ} {pushed : Nat}

theorem flushBuffer_stamps (timed : stream.Timed start pushed) (eos : Bool) :
    Stamps start pushed stream (stream.flushBuffer eos) :=
  ⟨⟨timed, trivial⟩, fun some => absurd rfl some, rfl, rfl, rfl⟩

theorem flush_stamps (timed : stream.Timed start pushed) : Stamps start pushed stream stream.flush := by
  simp only [OutputStream.flush]
  split
  · exact ⟨trivial, timed, rfl, rfl, rfl⟩
  · exact flushBuffer_stamps timed false

theorem flush_sri (stream : OutputStream α) : stream.flush.2.sri = stream.sri := by
  simp only [OutputStream.flush]
  split <;> rfl

theorem Roomy.doBuffer_stamps (roomy : stream.Roomy) (timed : stream.Timed start pushed)
    {rounds : Nat} {data : List α} (enough : data.length < rounds) (some : 0 < stream.bufferSize)
    {time : PrecisionUTCTime}
    (next : time.seconds = start + stream.sri.scalarTime * (pushed + stream.buffer.length : Nat))
    (whole : stream.sri.mode = 0 ∨ stream.buffer.length + data.length ≤ stream.bufferSize) :
    Stamps start pushed stream (OutputStream.doBuffer rounds data time stream) := by
  induction rounds generalizing data stream time pushed with
  | zero => omega
  | succ rounds ih =>
      have room := roomy.room some
      simp only [OutputStream.doBuffer]
      generalize taken : min data.length (stream.bufferSize - stream.buffer.length) = count
      -- the buffer with the new samples has the time of its first one, old or new
      have buffered : Timed start pushed { stream with
          buffer := stream.buffer ++ data.take count
          bufferTime := if stream.buffer.isEmpty then time else stream.bufferTime } := by
        rintro -
        cases buffer : stream.buffer with
        | nil => simpa [buffer] using next
        | cons first rest => exact timed (by simp [buffer])
      have size := @length_append_take _ stream.buffer data count (by omega)
      by_cases more : count < data.length
      · have full : stream.buffer.length + count = stream.bufferSize := by omega
        have real : stream.sri.mode = 0 := whole.resolve_right (by omega)
        rw [if_pos more, size, if_pos (by omega)]
        have first := flushBuffer_stamps buffered false
        have continues : (time.add (stream.sri.xdelta * count)).seconds =
            start + stream.sri.scalarTime * (pushed + stream.bufferSize + 0 : Nat) := by
          rw [add_seconds, next, StreamSRI.scalarTime_real real, ← full]
          push_cast
          ring
        have rest := @ih { stream with
            buffer := []
            bufferTime := if stream.buffer.isEmpty then time else stream.bufferTime }
          (pushed + stream.bufferSize) (.inl rfl) (fun some => absurd rfl some) (data.drop count)
          (by rw [length_drop]; omega) some _ continues (.inl real)
        refine ⟨stamped_append.mpr ⟨first.packets, ?_⟩, ?_, rest.rate, rest.mode, rest.xdelta⟩
        · simpa [flushBuffer, send, stamp, size, full] using rest.packets
        · have last := rest.buffered
          simp only [flushBuffer, send, flatMap_append, flatMap_cons, flatMap_nil,
            append_nil, length_append, size, full, ← Nat.add_assoc]
          simpa only [length_append, size, full] using last
      · rw [if_neg more]
        split
        · obtain ⟨packets, left, rate, mode, xdelta⟩ := flushBuffer_stamps buffered false
          exact ⟨packets, left, rate, mode, xdelta⟩
        · exact ⟨trivial, buffered, rfl, rfl, rfl⟩

theorem Roomy.write_stamps (roomy : stream.Roomy) (timed : stream.Timed start pushed)
    {data : List α} {time : PrecisionUTCTime}
    (next : time.seconds = start + stream.sri.scalarTime * (pushed + stream.buffer.length : Nat))
    (whole : stream.sri.mode = 0 ∨ stream.fits data) :
    Stamps start pushed stream (stream.write data time) := by
  simp only [OutputStream.write]
  split
  · rename_i passes
    have empty : stream.buffer = [] := by
      simp only [OutputStream.passes, Bool.or_eq_true, beq_iff_eq, Bool.and_eq_true, List.isEmpty_iff] at passes
      rcases passes with none | ⟨empty, _⟩
      · refine roomy.resolve_right fun room => ?_
        omega
      · exact empty
    refine ⟨⟨fun _ => ?_, trivial⟩, fun some => absurd empty some, rfl, rfl, rfl⟩
    simpa [empty, send] using next
  · rename_i buffers
    have some : 0 < stream.bufferSize := by
      simp only [OutputStream.passes, Bool.or_eq_true, beq_iff_eq, not_or] at buffers
      omega
    refine roomy.doBuffer_stamps timed (Nat.lt_succ_self _) some next (whole.imp_right fun fits => ?_)
    simpa [OutputStream.fits, buffers] using fits

theorem setBufferSize_stamps (timed : stream.Timed start pushed) (samples : Nat) :
    Stamps start pushed stream (stream.setBufferSize samples) := by
  simp only [OutputStream.setBufferSize]
  split
  · exact ⟨trivial, timed, rfl, rfl, rfl⟩
  · split
    · obtain ⟨packets, buffered, rate, mode, xdelta⟩ :=
        @flush_stamps _ { stream with bufferSize := samples } _ _ timed
      exact ⟨packets, buffered, rate, mode, xdelta⟩
    · exact ⟨trivial, timed, rfl, rfl, rfl⟩

theorem modify_stamps (timed : stream.Timed start pushed) (change : MetadataChange)
    (xdelta : ((change.apply stream.streamID stream.sri).getD stream.sri).xdelta = stream.sri.xdelta)
    (mode : ((change.apply stream.streamID stream.sri).getD stream.sri).mode = stream.sri.mode) :
    Stamps start pushed stream (stream.modify change) := by
  simp only [OutputStream.modify]
  cases changed : change.apply stream.streamID stream.sri with
  | none => exact ⟨trivial, timed, rfl, rfl, rfl⟩
  | some sri =>
      rw [changed] at xdelta mode
      have flushed := flush_stamps timed
      exact ⟨flushed.packets, fun some => absurd (flush_emptied stream) some,
        StreamSRI.scalarTime_congr xdelta mode, mode, xdelta⟩

theorem close_stamps (timed : stream.Timed start pushed) :
    Stamped start stream.sri.scalarTime pushed (stream.close.1.map stamp) := by
  simp only [OutputStream.close]
  split
  · exact (flushBuffer_stamps timed true).packets
  · exact ⟨fun some => absurd rfl some, trivial⟩

end Times

def Heads (time : PrecisionUTCTime) (sending : Sending α) : Prop :=
  (∃ first later, sending.1 = first :: later ∧ first.data ≠ [] ∧ first.T = time) ∨
    sending.1 = [] ∧ sending.2.buffer ≠ [] ∧ sending.2.bufferTime = time

section NextPacket

variable {stream : OutputStream α}

theorem flush_heads (some : stream.buffer ≠ []) : Heads stream.bufferTime stream.flush := by
  simp only [OutputStream.flush]
  split
  · exact .inr ⟨rfl, some, rfl⟩
  · exact .inl ⟨_, _, rfl, some, rfl⟩

theorem Roomy.doBuffer_heads (roomy : stream.Roomy) {rounds : Nat} {data : List α}
    (enough : data.length < rounds) (room : 0 < stream.bufferSize) (time : PrecisionUTCTime)
    (some : stream.buffer ≠ [] ∨ data ≠ []) :
    Heads (if stream.buffer.isEmpty then time else stream.bufferTime)
      (OutputStream.doBuffer rounds data time stream) := by
  cases rounds with
  | zero => omega
  | succ rounds =>
      simp only [OutputStream.doBuffer]
      generalize (if stream.buffer.isEmpty then time else stream.bufferTime) = bufferTime
      generalize taken : min data.length (stream.bufferSize - stream.buffer.length) = count
      have left : stream.buffer ++ data.take count ≠ [] := by
        rintro nothing
        obtain ⟨empty, none⟩ := append_eq_nil_iff.mp nothing
        have short : count = 0 ∨ data = [] := take_eq_nil_iff.mp none
        have written : data ≠ [] := some.resolve_left fun held => held empty
        have positive : 0 < data.length := length_pos_iff.mpr written
        rw [empty, length_nil] at taken
        rcases short with zero | nil
        · omega
        · exact written nil
      have size := @length_append_take _ stream.buffer data count (by omega)
      by_cases more : count < data.length
      · have full : stream.buffer.length + count = stream.bufferSize := by
          rcases roomy with empty | room
          · rw [empty, length_nil] at taken ⊢
            omega
          · omega
        rw [if_pos more, size, if_pos (by omega)]
        exact .inl ⟨_, _, rfl, left, rfl⟩
      · rw [if_neg more]
        split
        · exact .inl ⟨_, _, rfl, left, rfl⟩
        · exact .inr ⟨rfl, left, rfl⟩

theorem Roomy.perform_heads (roomy : stream.Roomy) (some : stream.buffer ≠ [])
    (call : BufferCall α) : Heads stream.bufferTime (stream.perform call) := by
  have held : stream.buffer.isEmpty = false := by simpa using some
  have room : stream.buffer.length < stream.bufferSize := roomy.resolve_left some
  cases call with
  | write data time =>
      have buffers : stream.passes data = false := by
        simp only [passes, held, Bool.false_and, Bool.or_false, beq_eq_false_iff_ne]
        omega
      have first := roomy.doBuffer_heads (Nat.lt_succ_self data.length) (by omega) time (.inl some)
      simpa [OutputStream.perform, OutputStream.write, buffers, held] using first
  | setBufferSize samples =>
      simp only [OutputStream.perform, OutputStream.setBufferSize]
      split
      · exact .inr ⟨rfl, some, rfl⟩
      · split
        · exact @flush_heads _ { stream with bufferSize := samples } some
        · exact .inr ⟨rfl, some, rfl⟩
  | flush => exact flush_heads some
  | modify change =>
      simp only [OutputStream.perform, OutputStream.modify]
      split
      · exact .inr ⟨rfl, some, rfl⟩
      · simp only [OutputStream.flush, held, Bool.false_eq_true, if_false]
        exact .inl ⟨stream.send stream.buffer stream.bufferTime false, [], rfl, some, rfl⟩

theorem Roomy.closed_heads (roomy : stream.Roomy) (some : stream.buffer ≠ [])
    (calls : List (BufferCall α)) : ∃ first later, stream.closed calls = first :: later ∧
      first.data ≠ [] ∧ first.T = stream.bufferTime := by
  induction calls generalizing stream with
  | nil =>
      have held : stream.buffer.isEmpty = false := by simpa using some
      refine ⟨stream.send stream.buffer stream.bufferTime true, [], ?_, some, rfl⟩
      simp [OutputStream.closed, OutputStream.performAll, OutputStream.close, held, flushBuffer]
  | cons call rest ih =>
      obtain ⟨_, conserves, _⟩ := roomy.perform call rest
      rw [closed_cons]
      rcases roomy.perform_heads some call with ⟨first, later, sent, data, T⟩ | ⟨none, left, T⟩
      · exact ⟨first, _, by rw [sent, cons_append], data, T⟩
      · obtain ⟨first, later, sent, data, time⟩ := ih conserves.roomy left
        exact ⟨first, later, by rw [none, nil_append, sent], data, time.trans T⟩

theorem Heads.closed {time : PrecisionUTCTime} {sending : Sending α} (heads : Heads time sending)
    (roomy : sending.2.Roomy) (calls : List (BufferCall α)) :
    ∃ first later, sending.1 ++ sending.2.closed calls = first :: later ∧ first.data ≠ [] ∧ first.T = time := by
  rcases heads with ⟨first, later, sent, data, T⟩ | ⟨none, left, T⟩
  · exact ⟨first, _, by rw [sent, cons_append], data, T⟩
  · obtain ⟨first, later, sent, data, time⟩ := roomy.closed_heads left calls
    exact ⟨first, later, by rw [none, nil_append, sent], data, time.trans T⟩

end NextPacket

theorem Roomy.split_misstamps {stream : OutputStream α} (roomy : stream.Roomy) {start : ℚ}
    {pushed : Nat} (ticks : stream.sri.xdelta ≠ 0) (pairs : stream.sri.mode ≠ 0) {data : List α}
    {time : PrecisionUTCTime} (split : stream.fits data = false)
    (next : time.seconds = start + stream.sri.scalarTime * (pushed + stream.buffer.length : Nat))
    (rest : List (BufferCall α)) :
    ¬Stamped start stream.sri.scalarTime pushed
      ((stream.closed (.write data time :: rest)).map stamp) := by
  obtain ⟨buffers, larger⟩ : stream.passes data = false ∧
      ¬stream.buffer.length + data.length ≤ stream.bufferSize := by simpa [fits] using split
  have some : 0 < stream.bufferSize := by
    simp only [passes, Bool.or_eq_false_iff, beq_eq_false_iff_ne] at buffers
    omega
  have room := roomy.room some
  let count := stream.bufferSize - stream.buffer.length
  let emptied : OutputStream α := { stream with
    buffer := []
    bufferTime := if stream.buffer.isEmpty then time else stream.bufferTime }
  have emptiedRoomy : emptied.Roomy := .inl rfl
  have enough : (data.drop count).length < data.length := by
    rw [length_drop]
    omega
  have left : data.drop count ≠ [] := by
    intro nothing
    have none := drop_eq_nil_iff.mp nothing
    omega
  have size : (stream.buffer ++ data.take count).length = stream.bufferSize := by
    rw [length_append, length_take]
    omega
  -- the first packet fills the buffer, and the rest of the write goes on from there
  have writes : (stream.write data time) =
      (stream.send (stream.buffer ++ data.take count) emptied.bufferTime false ::
        (OutputStream.doBuffer data.length (data.drop count) (time.add (stream.sri.xdelta * count)) emptied).1,
        (OutputStream.doBuffer data.length (data.drop count)
          (time.add (stream.sri.xdelta * count)) emptied).2) := by
    have taken : min data.length (stream.bufferSize - stream.buffer.length) = count := by omega
    rw [OutputStream.write, buffers, if_neg Bool.false_ne_true, OutputStream.doBuffer]
    simp only [taken]
    rw [if_pos (by omega : count < data.length), size, if_pos (le_refl _)]
    rfl
  have heads := emptiedRoomy.doBuffer_heads enough some (time.add (stream.sri.xdelta * count))
    (.inr left)
  have leftRoomy := (emptiedRoomy.doBuffer enough some (time.add (stream.sri.xdelta * count))).1.roomy
  obtain ⟨second, later, sent, data', T⟩ := heads.closed leftRoomy rest
  rw [closed_cons, OutputStream.perform, writes, cons_append, sent]
  rintro ⟨_, second', _⟩
  have late := second' data'
  have count' : (count : ℚ) = stream.bufferSize - stream.buffer.length := by
    rw [← Nat.cast_sub (by omega)]
  have positive : (0 : ℚ) < count := by exact_mod_cast (by omega : 0 < count)
  have stamped : second.T = time.add (stream.sri.xdelta * count) := T
  have wrong : stream.sri.xdelta * count = 0 := by
    simp only [send, size, stamped, add_seconds, next,
      StreamSRI.scalarTime_complex pairs, Nat.cast_add] at late
    rw [count'] at late ⊢
    linarith
  rcases mul_eq_zero.mp wrong with zero | none
  · exact ticks zero
  · linarith

theorem Roomy.closed_stamps {stream : OutputStream α} (roomy : stream.Roomy) {start next : ℚ}
    {pushed : Nat} (timed : stream.Timed start pushed) (ticks : stream.sri.xdelta ≠ 0)
    (reached : next = start + stream.sri.scalarTime * (pushed + stream.buffer.length : Nat))
    {calls : List (BufferCall α)} (chained : Chained stream.streamID stream.sri next calls) :
    Stamped start stream.sri.scalarTime pushed ((stream.closed calls).map stamp) ↔
      stream.sri.mode = 0 ∨ stream.Unsplit calls := by
  induction calls generalizing stream pushed next with
  | nil => exact iff_of_true (close_stamps timed) (.inr trivial)
  | cons call rest ih =>
      -- a step that stamps right leaves the run to the rest
      have follows {given : List (α × StreamSRI)}
          (conserves : Conserves given stream (stream.perform call))
          (stamps : Stamps start pushed stream (stream.perform call))
          (whole : stream.sri.mode = 0 ∨ ∀ data time, call = .write data time → stream.fits data)
          (later : Chained stream.streamID (stream.perform call).2.sri
            (next + stream.sri.scalarTime * given.length) rest) :
          Stamped start stream.sri.scalarTime pushed
            ((stream.closed (call :: rest)).map stamp) ↔
          stream.sri.mode = 0 ∨ stream.Unsplit (call :: rest) := by
        have count := conserves.count
        have total : pushed + stream.buffer.length + given.length =
            pushed + ((stream.perform call).1.flatMap data).length +
              (stream.perform call).2.buffer.length := by omega
        rw [← conserves.streamID] at later
        have tail := ih conserves.roomy stamps.buffered (by rw [stamps.xdelta]; exact ticks)
          (by rw [reached, stamps.rate, ← total]; push_cast; ring) later
        have lengths : ((stream.perform call).1.map stamp).flatMap Prod.fst =
            (stream.perform call).1.flatMap data := by
          simp [flatMap_map, stamp]
        rw [stamps.rate, stamps.mode] at tail
        rw [closed_cons, map_append, stamped_append, lengths, tail, Unsplit]
        constructor
        · rintro ⟨-, real | unsplit⟩
          · exact .inl real
          · exact whole.imp_right fun fits => ⟨fits, unsplit⟩
        · rintro (real | ⟨-, unsplit⟩)
          · exact ⟨stamps.packets, .inl real⟩
          · exact ⟨stamps.packets, .inr unsplit⟩
      cases call with
      | write data time =>
          obtain ⟨now, later⟩ := chained
          by_cases whole : stream.sri.mode = 0 ∨ stream.fits data
          · obtain ⟨conserves, sri⟩ := roomy.write data time
            refine follows conserves (roomy.write_stamps timed (now.trans reached) whole)
              (whole.imp_right fun fits _ _ same => ?_) ?_
            · cases same
              exact fits
            · rw [OutputStream.perform, sri, length_map]
              exact later
          · obtain ⟨pairs, split⟩ := not_or.mp whole
            refine iff_of_false ?_ ?_
            · exact roomy.split_misstamps ticks pairs (by simpa using split) (now.trans reached) rest
            · rintro (real | ⟨fits, _⟩)
              · exact pairs real
              · exact split (fits data time rfl)
      | setBufferSize samples =>
          obtain ⟨conserves, sri⟩ := roomy.setBufferSize samples
          refine follows conserves (setBufferSize_stamps timed samples) (.inr (by rintro _ _ ⟨⟩)) ?_
          rw [OutputStream.perform, sri, length_nil, Nat.cast_zero, mul_zero, add_zero]
          exact chained
      | flush =>
          refine follows (flush_conserves stream) (flush_stamps timed) (.inr (by rintro _ _ ⟨⟩)) ?_
          rw [OutputStream.perform, flush_sri, length_nil, Nat.cast_zero, mul_zero, add_zero]
          exact chained
      | modify change =>
          obtain ⟨xdelta, mode, later⟩ := chained
          obtain ⟨conserves, sri⟩ := roomy.modify change
          refine follows conserves (modify_stamps timed change xdelta mode) (.inr (by rintro _ _ ⟨⟩)) ?_
          rw [OutputStream.perform, sri, length_nil, Nat.cast_zero, mul_zero, add_zero]
          exact later

/-- In a run of writes that follow each other, flushes and resizes between them, every packet has the
time of its first sample just where no write of a complex stream is split. -/
theorem buffered_times_iff (streamID : String) (sri : StreamSRI) (ticks : 0 < sri.xdelta)
    (start : ℚ) (calls : List (BufferCall α)) (chained : Chained streamID sri start calls) :
    let stream : OutputStream α := { streamID := streamID, sri := sri }
    (∀ before packet after, stream.closed calls = before ++ packet :: after → packet.data ≠ [] →
      packet.T.seconds = start + sri.xdelta *
        ((before.flatMap data).length / Transport.itemSize sri : ℚ)) ↔
      sri.mode = 0 ∨ stream.Unsplit calls := by
  intro stream
  have roomy : stream.Roomy := .inl rfl
  have timed : stream.Timed start 0 := fun some => absurd rfl some
  have reached : start = start + stream.sri.scalarTime * (0 + stream.buffer.length : Nat) := by
    simp [stream]
  rw [← roomy.closed_stamps timed ticks.ne' reached chained, stamped_iff]
  have same (count : Nat) : stream.sri.scalarTime * (0 + count : Nat) =
      sri.xdelta * (count / Transport.itemSize sri : ℚ) := by
    rw [StreamSRI.scalarTime, Nat.zero_add]
    ring
  simp only [same]
  rfl

def straddling : List (BufferCall Nat) :=
  [.setBufferSize 4, .write [1, 2] .notSet, .write [3, 4, 5, 6] (notSet.add 1)]

def pairs : StreamSRI := { Sri.create "a" with mode := 1 }

/-- The third sample is sent as of second 3. -/
theorem straddling_misstamped : Chained "a" pairs 0 straddling ∧
    ¬∀ before packet after, ({ streamID := "a", sri := pairs } : OutputStream Nat).closed straddling =
        before ++ packet :: after → packet.data ≠ [] →
      packet.T.seconds = 0 + pairs.xdelta *
        ((before.flatMap data).length / Transport.itemSize pairs : ℚ) := by
  refine ⟨(by refine ⟨?_, ?_, trivial⟩ <;> decide +kernel), fun all => ?_⟩
  have second := all [⟨[1, 2, 3, 4], .notSet, false, pairs⟩]
    ⟨[5, 6], (notSet.add 1).add 2, true, pairs⟩ [] (by decide +kernel) (by decide)
  revert second
  decide +kernel

def straddlingReal : List (BufferCall Nat) :=
  [.setBufferSize 4, .write [1, 2] .notSet, .write [3, 4, 5, 6] (notSet.add 2)]

theorem straddlingReal_times : 0 < (Sri.create "a").xdelta ∧
    ∀ before packet after,
      ({ streamID := "a", sri := Sri.create "a" } : OutputStream Nat).closed straddlingReal =
        before ++ packet :: after → packet.data ≠ [] →
      packet.T.seconds = 0 + (Sri.create "a").xdelta *
        ((before.flatMap data).length / Transport.itemSize (Sri.create "a") : ℚ) :=
  ⟨by decide +kernel, (buffered_times_iff "a" (Sri.create "a") (by decide +kernel) 0 straddlingReal
    ⟨by decide +kernel, by decide +kernel, trivial⟩).mpr (.inl rfl)⟩

end OutputStream

end Redhawk.Bulkio
