import Redhawk.Bulkio.StreamTape

/-!
What the calls of a buffered stream return and consume, in terms of its tape and of the segment the
stream is in, over all runs of arrivals and calls.
-/

namespace Redhawk.Bulkio

open Library InputStream List

variable {α : Type}

namespace BufferedInputStream

section Blocks

theorem assemble_buffer (sri : StreamSRI) {count offset place : Nat} {packets : List (Packet α)}
    (within : ∀ front ∈ packets.head?, offset ≤ front.buffer.length) :
    (assemble sri count offset place packets).1 = ((data packets).drop offset).take count := by
  induction packets generalizing count offset place with
  | nil => simp [assemble]
  | cons packet rest ih =>
      have within : offset ≤ packet.buffer.length := within packet (by simp)
      simp only [assemble]
      by_cases nothing : count = 0
      · simp [nothing]
      · rw [if_neg nothing, data_cons, drop_append_of_le_length within, take_append, length_drop]
        split
        · have pass : min (packet.buffer.length - offset) count = packet.buffer.length - offset := by
            omega
          have all : (packet.buffer.drop offset).take count = packet.buffer.drop offset :=
            take_of_length_le (by rw [length_drop]; omega)
          rw [pass, ih (fun _ _ => Nat.zero_le _), all, take_of_length_le (by rw [length_drop])]
          rfl
        · have pass : min (packet.buffer.length - offset) count = count := by omega
          have none : count - (packet.buffer.length - offset) = 0 := by omega
          rw [pass, none]
          simp

section

variable (count : Nat) (front : Packet α) (rest : List (Packet α)) (stream : BufferedInputStream α)

theorem takeBlock_sri : (takeBlock count front rest stream).1.sri = front.sri := by
  simp only [takeBlock, setBlockFlags]
  split <;> split <;> split <;> split <;> rfl

theorem takeBlock_stream :
    (takeBlock count front rest stream).2 = { stream with
      sri := if front.sriChanged then front.sri else stream.sri
      newstream := false
      queue := { front with sriChanged := false, inputQueueFlushed := false } :: rest } := by
  simp only [takeBlock, setBlockFlags]
  split <;> split <;> simp [*]

end

theorem takeBlock_buffer {stream : BufferedInputStream α} (counted : stream.Counted)
    {front : Packet α} {rest : List (Packet α)} (queue : stream.queue = front :: rest) {count : Nat}
    (queued : count ≤ stream.samplesQueued) :
    (takeBlock count front rest stream).1.buffer = stream.tape.ahead.take count := by
  have samples := counted.samples
  have within := counted.offset front (by simp [queue])
  have room : count ≤ ((data stream.queue).drop stream.sampleOffset).length := by
    rw [length_drop]
    omega
  have assembled : (assemble front.sri count stream.sampleOffset 0 (front :: rest)).1 =
      ((data (front :: rest)).drop stream.sampleOffset).take count :=
    assemble_buffer front.sri (by simpa using within)
  have first : stream.sampleOffset + count ≤ front.buffer.length →
      (front.buffer.drop stream.sampleOffset).take count =
        ((data stream.queue).drop stream.sampleOffset).take count := by
    intro fits
    rw [queue, data_cons, drop_append_of_le_length within,
      take_append_of_le_length (by rw [length_drop]; omega)]
  simp only [tape, take_append_of_le_length room]
  simp only [takeBlock, setBlockFlags]
  cases front.sriChanged
  · simp only [Bool.false_eq_true, if_false]
    split
    · rename_i fits
      exact first fits
    · rw [queue]
      exact assembled
  · simp only [if_true]
    split
    · rename_i fits
      exact first fits
    · rw [queue]
      exact assembled

section

variable {reader : Reader α} {front : Packet α} {rest : List (Packet α)}
  (queue : reader.stream.queue = front :: rest)

include queue

theorem skip_queued {count : Nat} (queued : count * front.sri.itemSize ≤ reader.stream.samplesQueued) :
    (skip count reader).1 ≠ .waits ∧ (skip count reader).2 =
      { reader with stream := consumeData (count * front.sri.itemSize) reader.stream } := by
  have known : nextSRI true reader = (.returns (some front.sri), reader) := by
    simp only [nextSRI, queue]
  have fetched : fetchUpTo (count * front.sri.itemSize) true reader = (.returns (), reader) := by
    simp only [fetchUpTo, fetchLoop, if_pos queued]
  simp only [StreamSRI.itemSize] at fetched queued ⊢
  simp only [skip, known, fetched, Nat.min_eq_left queued]
  simp

theorem readData_queued {count consume : Nat} (queued : consume ≤ reader.stream.samplesQueued) :
    readData count consume reader = (.returns (some (takeBlock count front rest reader.stream).1),
      ⟨(takeBlock count front rest reader.stream).2.consumeData
        (consume / front.sri.itemSize * front.sri.itemSize), reader.port⟩) := by
  have described := takeBlock_stream count front rest reader.stream
  have samples : (if (takeBlock count front rest reader.stream).1.sri.complex then consume / 2
      else consume) = consume / front.sri.itemSize := by
    rw [takeBlock_sri, StreamSRI.itemSize]
    split <;> simp
  have within : consume / front.sri.itemSize * front.sri.itemSize ≤ reader.stream.samplesQueued :=
    Nat.le_trans (Nat.div_mul_le_self _ _) queued
  have next : (takeBlock count front rest reader.stream).2.queue =
      { front with sriChanged := false, inputQueueFlushed := false } :: rest := by rw [described]
  have room : consume / front.sri.itemSize * front.sri.itemSize ≤
      (takeBlock count front rest reader.stream).2.samplesQueued := by
    rw [described]
    exact within
  obtain ⟨returned, passed⟩ := @skip_queued α
    ⟨(takeBlock count front rest reader.stream).2, reader.port⟩ _ _ next _ room
  simp only [readData, queue, samples]
  rcases outcome : skip (consume / front.sri.itemSize)
    ⟨(takeBlock count front rest reader.stream).2, reader.port⟩ with ⟨_ | _, last⟩ <;>
    rw [outcome] at returned passed
  · exact congrArg (Prod.mk _) passed
  · exact absurd rfl returned

end

end Blocks

end BufferedInputStream

namespace Reader

def itemSize (reader : Reader α) : Nat :=
  (reader.segment.head?.map fun packet => packet.sri.itemSize).getD 1

def frontLeft (reader : Reader α) : Nat :=
  (reader.segment.head?.map fun packet => packet.buffer.length).getD 0 - reader.stream.sampleOffset

/-- The samples a read consumes, in scalars. Once the segment cannot satisfy the larger of its
counts, a read that consumes anything consumes what is left. -/
def consumption (count consume : Nat) (reader : Reader α) : Nat :=
  let item := reader.itemSize
  if max (count * item) (consume * item) ≤ reader.left then consume * item
  else if consume = 0 then 0
  else reader.left / item * item

def toConsume (count consume : Nat) (reader : Reader α) : Nat :=
  if max (count * reader.itemSize) (consume * reader.itemSize) ≤ reader.left then
    consume * reader.itemSize
  else if consume = 0 then 0
  else reader.left

/-- How a read goes about its work: it fetches packets, and unless it has to wait or finds nothing,
takes a block of `size` scalars from the front. -/
inductive ReadsBy (size consume : Nat) (reader : Reader α) :
    Outcome (Option (DataBlock α)) × Reader α → Prop
  | waits {later} (fetches : Fetches reader later) : ReadsBy size consume reader (.waits, later)
  | nothing {later} (fetches : Fetches reader later) :
      ReadsBy size consume reader (.returns none, later)
  | ends {later} (fetches : Fetches reader later) :
      ReadsBy size consume reader (.returns none, reportIfEosReached later)
  | block {later front rest} (fetches : Fetches reader later)
      (queue : later.stream.queue = front :: rest) (queued : size ≤ later.stream.samplesQueued)
      (room : consume ≤ later.stream.samplesQueued) :
      ReadsBy size consume reader (BufferedInputStream.readData size consume later)

inductive SkipsBy (count : Nat) (reader : Reader α) : Outcome Nat × Reader α → Prop
  | waits {later} (fetches : Fetches reader later) : SkipsBy count reader (.waits, later)
  | nothing {later} (fetches : Fetches reader later) (none : reader.left = 0) :
      SkipsBy count reader (.returns 0, later)
  | passes {later} (fetches : Fetches reader later)
      (queued : min (count * reader.itemSize) reader.left ≤ later.stream.samplesQueued) :
      SkipsBy count reader (.returns (min (count * reader.itemSize) reader.left / reader.itemSize),
        ⟨later.stream.consumeData (min (count * reader.itemSize) reader.left), later.port⟩)

section Calls

variable {before after : Reader α}

section

variable (fetches : Fetches before after)

include fetches

theorem Fetches.head :
    after.segment.head?.map Packet.content = before.segment.head?.map Packet.content := by
  rw [← head?_map, fetches.segment, head?_map]

theorem Fetches.first {β : Type}
    (field : Packet α → β) (kept : ∀ packet : Packet α, field packet.content = field packet) :
    after.segment.head?.map field = before.segment.head?.map field := by
  have same := congrArg (Option.map field) fetches.head
  simpa only [Option.map_map, Function.comp_def, kept] using same

theorem Fetches.itemSize : after.itemSize = before.itemSize :=
  congrArg (Option.getD · 1) (fetches.first (fun packet => packet.sri.itemSize) fun _ => rfl)

theorem Fetches.frontLeft : after.frontLeft = before.frontLeft := by
  simp only [Reader.frontLeft, fetches.offset, fetches.first (fun packet => packet.buffer.length) fun _ => rfl]

end

variable {reader : Reader α}

theorem Ready.queued (ready : reader.Ready) : reader.stream.samplesQueued ≤ reader.tape.ahead.length := by
  have ahead := ready.counted.ahead
  simp only [tape, Tape.extend, length_append]
  omega

theorem Ready.report (ready : reader.Ready) :
    (reportIfEosReached reader).Ready ∧
      (reportIfEosReached reader).tape = reader.tape := by
  simp only [reportIfEosReached]
  split
  · obtain ⟨_, _, _, frame⟩ := InPort.removeStream_frame reader.stream.streamID reader.port
    rw [frame]
    exact ⟨⟨⟨ready.counted.samples, ready.counted.offset, ready.counted.pending⟩, ready.enabled,
      ready.running, ready.own⟩, rfl⟩
  · exact ⟨ready, rfl⟩

theorem Ready.consume (ready : reader.Ready) {count : Nat} (queued : count ≤ reader.stream.samplesQueued) :
    let later : Reader α :=
      { reader with stream := BufferedInputStream.consumeData count reader.stream }
    later.Ready ∧ later.tape = reader.tape.advance count := by
  obtain ⟨counted, moved⟩ := ready.counted.consumeData queued
  have identity := BufferedInputStream.consumeData_identity count reader.stream
  simp only [BufferedInputStream.identity, Prod.mk.injEq] at identity
  refine ⟨⟨counted, identity.2.2.1.trans ready.enabled, ready.running, ?_⟩, ?_⟩
  · intro packet member
    exact (ready.own packet member).trans identity.1.symm
  · have ahead := ready.counted.ahead
    have there : count ≤ reader.stream.tape.ahead.length := by omega
    simp only [tape, moved, Tape.advance_extend there]

theorem Ready.taken (ready : reader.Ready) {front : Packet α}
    {rest : List (Packet α)} (queue : reader.stream.queue = front :: rest) (count : Nat) :
    let later : Reader α :=
      { reader with stream := (BufferedInputStream.takeBlock count front rest reader.stream).2 }
    later.Ready ∧ later.tape = reader.tape := by
  have samples := ready.counted.samples
  have offset := ready.counted.offset front (by simp [queue])
  rw [BufferedInputStream.takeBlock_stream]
  refine ⟨⟨⟨?_, ?_, nofun⟩, ready.enabled, ready.running, ready.own⟩, ?_⟩
  · simpa [queue] using samples
  · simpa using offset
  · simp [tape, BufferedInputStream.tape, queue]

theorem Ready.front {front : Packet α} {rest : List (Packet α)}
    (queue : reader.stream.queue = front :: rest) : reader.itemSize = front.sri.itemSize := by
  simp [itemSize, segment, queue]

theorem Ready.finishRead (ready : reader.Ready) (count consume : Nat)
    (blocking : Bool) (filled : max (consume * reader.itemSize) (count * reader.itemSize) ≤
      reader.stream.samplesQueued ∨ reader.ahead = []) :
    reader.ReadsBy (min (count * reader.itemSize) reader.left) (reader.toConsume count consume)
      (BufferedInputStream.finishRead (count * reader.itemSize) (consume * reader.itemSize) blocking reader) := by
  have left := ready.left
  simp only [BufferedInputStream.finishRead]
  split
  · exact .ends ready.refl
  · obtain ⟨front, rest, queue⟩ : ∃ front rest, reader.stream.queue = front :: rest := by
      have samples := ready.counted.samples
      cases queue : reader.stream.queue with
      | nil =>
          simp only [queue, data_nil, length_nil] at samples
          omega
      | cons front rest => exact ⟨front, rest, rfl⟩
    have positive := front.sri.itemSize_pos
    rw [← Ready.front queue] at positive
    split
    · rename_i partly
      have last : reader.ahead = [] := filled.resolve_left (Nat.not_le.mpr partly)
      simp only [last, data_nil, length_nil, Nat.add_zero] at left
      split
      · exact .nothing ready.refl
      · have none : consume * reader.itemSize = 0 ↔ consume = 0 := by
          rw [Nat.mul_eq_zero]
          omega
        have short : ¬max (count * reader.itemSize) (consume * reader.itemSize) ≤ reader.left := by
          omega
        have consumed : reader.toConsume count consume =
            if consume * reader.itemSize = 0 then 0 else reader.stream.samplesQueued := by
          rw [toConsume, if_neg short, left]
          simp only [none]
        rw [← consumed, ← left]
        refine .block ready.refl queue (by omega) ?_
        rw [consumed]
        split <;> omega
    · have enough : max (count * reader.itemSize) (consume * reader.itemSize) ≤ reader.left := by
        omega
      have consumed : reader.toConsume count consume = consume * reader.itemSize := if_pos enough
      have size : min (count * reader.itemSize) reader.left =
          min (count * reader.itemSize) reader.stream.samplesQueued := by omega
      rw [consumed, size]
      exact .block ready.refl queue (by omega) (by omega)

theorem ReadsBy.fetched (fetches : Fetches before after)
    {size consume : Nat} {result : Outcome (Option (DataBlock α)) × Reader α}
    (reads : after.ReadsBy size consume result) : before.ReadsBy size consume result := by
  cases reads with
  | waits later => exact .waits (fetches.trans later)
  | nothing later => exact .nothing (fetches.trans later)
  | ends later => exact .ends (fetches.trans later)
  | block later queue queued room => exact .block (fetches.trans later) queue queued room

theorem Ready.known {later : Reader α} {sri : StreamSRI} (known : Fetches reader later)
    (described : later.stream.queue.head?.map Packet.sri = some sri) :
    reader.itemSize = sri.itemSize := by
  rw [← known.itemSize]
  cases queue : later.stream.queue with
  | nil => simp [queue] at described
  | cons front rest =>
      have same : front.sri = sri := by simpa [queue] using described
      rw [Ready.front queue, same]

theorem Ready.read (ready : reader.Ready) (count consume : Nat) (blocking : Bool) :
    reader.ReadsBy (min (count * reader.itemSize) reader.left) (reader.toConsume count consume)
      (BufferedInputStream.read count consume blocking reader) := by
  obtain ⟨known, _, described⟩ := ready.nextSRI blocking
  simp only [BufferedInputStream.read]
  rcases outcome : BufferedInputStream.nextSRI blocking reader with ⟨(_ | sri) | _, later⟩ <;>
    rw [outcome] at known described
  · exact .ends known
  · have item := Ready.known known (described sri rfl)
    obtain ⟨filled, enough⟩ := known.ready.fetchUpTo
      (max (consume * reader.itemSize) (count * reader.itemSize)) blocking
    have fetched := known.trans filled
    rw [StreamSRI.itemSize] at item
    dsimp only
    rw [← item]
    rcases outcome : BufferedInputStream.fetchUpTo
      (max (consume * reader.itemSize) (count * reader.itemSize)) blocking later with
      ⟨_ | _, last⟩ <;> rw [outcome] at filled enough fetched
    · have finished := fetched.ready.finishRead count consume blocking
        (by rw [fetched.itemSize]; exact enough rfl)
      have same : toConsume count consume last = reader.toConsume count consume := by
        simp only [toConsume, fetched.itemSize, fetched.left]
      rw [fetched.itemSize, fetched.left, same] at finished
      exact finished.fetched fetched
    · exact .waits fetched
  · exact .waits known

theorem Ready.readPacket (ready : reader.Ready) (blocking : Bool) :
    reader.ReadsBy reader.frontLeft reader.frontLeft
      (BufferedInputStream.readPacket blocking reader) := by
  have fetches : Fetches reader (if reader.stream.samplesQueued = 0 then
      BufferedInputStream.fetchPacket blocking reader else (Outcome.returns true, reader)).2 := by
    split
    · exact (ready.fetchPacket blocking).1
    · exact ready.refl
  simp only [BufferedInputStream.readPacket]
  rcases outcome : (if reader.stream.samplesQueued = 0 then
    BufferedInputStream.fetchPacket blocking reader else (Outcome.returns true, reader)) with
    ⟨_ | _, later⟩ <;> rw [outcome] at fetches
  · dsimp only at fetches ⊢
    split
    · exact .ends fetches
    · split
      · exact .nothing fetches
      · rename_i front rest queue
        have samples := fetches.ready.counted.samples
        simp only [queue, data_cons, length_append] at samples
        have size : front.buffer.length - later.stream.sampleOffset = reader.frontLeft := by
          rw [← fetches.frontLeft]
          simp [frontLeft, segment, queue]
        rw [size]
        exact .block fetches queue (by omega) (by omega)
  · exact .waits fetches

theorem Ready.skip (ready : reader.Ready) (count : Nat) :
    reader.SkipsBy count (BufferedInputStream.skip count reader) := by
  obtain ⟨known, nothing, described⟩ := ready.nextSRI true
  simp only [BufferedInputStream.skip]
  rcases outcome : BufferedInputStream.nextSRI true reader with ⟨(_ | sri) | _, later⟩ <;>
    rw [outcome] at known nothing described
  · exact .nothing known (known.left.symm.trans (nothing rfl))
  · have item := Ready.known known (described sri rfl)
    obtain ⟨filled, enough⟩ := known.ready.fetchUpTo (count * reader.itemSize) true
    have fetched := known.trans filled
    rw [StreamSRI.itemSize] at item
    dsimp only
    rw [← item]
    rcases outcome : BufferedInputStream.fetchUpTo (count * reader.itemSize) true later with
      ⟨_ | _, last⟩ <;> rw [outcome] at filled enough fetched
    · have left := fetched.ready.left
      rw [fetched.left] at left
      dsimp only at left enough
      have size : min (count * reader.itemSize) last.stream.samplesQueued =
          min (count * reader.itemSize) reader.left := by
        rcases enough rfl with queued | last
        · omega
        · simp only [last, data_nil, length_nil] at left
          omega
      dsimp only
      rw [size]
      exact .passes fetched (by omega)
    · exact .waits fetched
  · exact .waits known

end Calls

section Samples

/-- A block holds the next `size` scalars, and `consumed` of them are passed. Without a block nothing
is consumed. -/
def Delivers (size consumed : Nat) (reader : Reader α)
    (result : Outcome (Option (DataBlock α)) × Reader α) : Prop :=
  match result with
  | (.returns (some block), later) =>
      block.buffer = reader.tape.ahead.take size ∧ block.buffer.length = size ∧
        reader.segment.head?.map Packet.sri = some block.sri ∧
        later.tape = reader.tape.advance consumed
  | (_, later) => later.tape = reader.tape

def Skips (count : Nat) (reader : Reader α) (result : Outcome Nat × Reader α) : Prop :=
  match result with
  | (.returns skipped, later) =>
      skipped = min (count * reader.itemSize) reader.left / reader.itemSize ∧
        later.tape = reader.tape.advance (min (count * reader.itemSize) reader.left)
  | (.waits, later) => later.tape = reader.tape

variable {reader : Reader α}

theorem ReadsBy.delivers {size consume : Nat} {result : Outcome (Option (DataBlock α)) × Reader α}
    (reads : reader.ReadsBy size consume result) : result.2.Ready ∧
      reader.Delivers size (consume / reader.itemSize * reader.itemSize) result := by
  cases reads with
  | waits fetches => exact ⟨fetches.ready, fetches.tape⟩
  | nothing fetches => exact ⟨fetches.ready, fetches.tape⟩
  | ends fetches =>
      have reported := fetches.ready.report
      exact ⟨reported.1, reported.2.trans fetches.tape⟩
  | @block later front rest fetches queue queued room =>
      rw [BufferedInputStream.readData_queued queue room, ← fetches.itemSize, Ready.front queue]
      obtain ⟨taken, same⟩ := fetches.ready.taken queue size
      have within : consume / front.sri.itemSize * front.sri.itemSize ≤
          (BufferedInputStream.takeBlock size front rest later.stream).2.samplesQueued := by
        rw [BufferedInputStream.takeBlock_stream]
        exact Nat.le_trans (Nat.div_mul_le_self _ _) room
      obtain ⟨last, moved⟩ := taken.consume within
      have there := fetches.ready.counted.ahead
      have buffer : (BufferedInputStream.takeBlock size front rest later.stream).1.buffer =
          reader.tape.ahead.take size := by
        rw [BufferedInputStream.takeBlock_buffer fetches.ready.counted queue queued, ← fetches.tape]
        exact (take_append_of_le_length (by omega)).symm
      refine ⟨last, buffer, ?_, ?_, ?_⟩
      · have whole := fetches.ready.queued
        rw [buffer, length_take, ← fetches.tape]
        omega
      · rw [BufferedInputStream.takeBlock_sri, ← fetches.first Packet.sri fun _ => rfl]
        simp [segment, queue]
      · rw [moved, same, fetches.tape]

theorem SkipsBy.skips {count : Nat} {result : Outcome Nat × Reader α}
    (skips : reader.SkipsBy count result) : result.2.Ready ∧ reader.Skips count result := by
  cases skips with
  | waits fetches => exact ⟨fetches.ready, fetches.tape⟩
  | nothing fetches none =>
      refine ⟨fetches.ready, ?_, ?_⟩
      · simp [none]
      · simpa [none] using fetches.tape
  | passes fetches queued =>
      obtain ⟨last, moved⟩ := fetches.ready.consume queued
      exact ⟨last, rfl, by rw [← fetches.tape]; exact moved⟩

theorem itemSize_pos (reader : Reader α) : 0 < reader.itemSize := by
  simp only [itemSize]
  cases reader.segment.head? with
  | none => simp
  | some front => exact front.sri.itemSize_pos

theorem toConsume_whole (count consume : Nat) (reader : Reader α) :
    reader.toConsume count consume / reader.itemSize * reader.itemSize = reader.consumption count consume := by
  simp only [toConsume, consumption]
  split
  · rw [Nat.mul_div_cancel _ reader.itemSize_pos]
  · split <;> simp

theorem Ready.read_delivers (ready : reader.Ready) (count consume : Nat) (blocking : Bool) :
    let result := BufferedInputStream.read count consume blocking reader
    result.2.Ready ∧ reader.Delivers (min (count * reader.itemSize) reader.left)
      (reader.consumption count consume) result := by
  have delivers := (ready.read count consume blocking).delivers
  rw [toConsume_whole] at delivers
  exact delivers

end Samples

section Run

/-- What happens to one stream: its port takes in a packet, or one of its functions is called. -/
inductive Event (α : Type) where
  | arrives (packet : Packet α)
  | call (call : StreamCall)

def step : Event α → Reader α → Reader α
  | .arrives packet, reader =>
      { reader with port := { reader.port with packetQueue := reader.port.packetQueue ++ [packet] } }
  | .call call, reader => BufferedInputStream.call reader call

def allows : Event α → Reader α → Prop
  | .arrives packet, reader => packet.streamID = reader.stream.streamID
  | .call call, _ => call ≠ .disable

def arrivals : List (Event α) → List (Packet α)
  | [] => []
  | .arrives packet :: rest => packet :: arrivals rest
  | .call _ :: rest => arrivals rest

def opened (sri : StreamSRI) (sriCmp : StreamSRI → StreamSRI → Bool) (maxQueue : Nat) : Reader α :=
  ⟨{ streamID := sri.streamID, sri := sri, born := 0 }, InPort.fresh sriCmp maxQueue⟩

theorem ready_opened (sri : StreamSRI) (sriCmp : StreamSRI → StreamSRI → Bool) (maxQueue : Nat) :
    (opened sri sriCmp maxQueue : Reader α).Ready :=
  ⟨⟨rfl, by simp [opened], fun _ => rfl⟩, rfl, rfl, by simp [opened, InPort.fresh]⟩

section

variable {reader : Reader α} (ready : reader.Ready)

include ready

theorem Ready.enable : (enable reader).Ready :=
  ⟨⟨ready.counted.samples, ready.counted.offset, ready.counted.pending⟩, rfl, ready.running, ready.own⟩

theorem Ready.call {call : StreamCall}
    (enabled : call ≠ .disable) : (BufferedInputStream.call reader call).Ready ∧
      (BufferedInputStream.call reader call).tape.content = reader.tape.content := by
  have advanced : ∀ {size consumed : Nat} {result : Outcome (Option (DataBlock α)) × Reader α},
      reader.Delivers size consumed result → result.2.tape.content = reader.tape.content := by
    intro size consumed result delivers
    rcases result with ⟨(_ | block) | _, later⟩
    · exact congrArg Tape.content delivers
    · obtain ⟨_, _, _, moved⟩ := delivers
      rw [moved, Tape.content_advance]
    · exact congrArg Tape.content delivers
  have reads : ∀ count consume blocking, (BufferedInputStream.read count consume blocking reader).2.Ready ∧
      (BufferedInputStream.read count consume blocking reader).2.tape.content =
        reader.tape.content := fun count consume blocking =>
    (ready.read_delivers count consume blocking).imp id advanced
  cases call with
  | read => exact (ready.readPacket true).delivers.imp id advanced
  | tryread => exact (ready.readPacket false).delivers.imp id advanced
  | readSamples count => exact reads count count true
  | tryreadSamples count => exact reads count count false
  | readConsume count consume => exact reads count consume true
  | tryreadConsume count consume => exact reads count consume false
  | skip count =>
      obtain ⟨later, skips⟩ := (ready.skip count).skips
      refine ⟨later, ?_⟩
      simp only [BufferedInputStream.call]
      rcases outcome : BufferedInputStream.skip count reader with ⟨skipped | _, last⟩ <;>
        rw [outcome] at skips
      · rw [skips.2, Tape.content_advance]
      · exact congrArg Tape.content skips
  | eos =>
      have fetches : Fetches reader (if reader.stream.queue.isEmpty then
          (BufferedInputStream.fetchPacket false reader).2 else reader) := by
        split
        · exact (ready.fetchPacket false).1
        · exact ready.refl
      exact ⟨fetches.ready.report.1, by
        rw [← fetches.tape]
        exact congrArg Tape.content fetches.ready.report.2⟩
  | enable => exact ⟨ready.enable, rfl⟩
  | disable => exact absurd rfl enabled

theorem Ready.step {event : Event α}
    (allowed : allows event reader) : (step event reader).Ready ∧
      (Reader.step event reader).tape.content = reader.tape.content ++ data (arrivals [event]) := by
  cases event with
  | arrives packet =>
      refine ⟨⟨ready.counted, ready.enabled, ready.running, ?_⟩, ?_⟩
      · intro queued member
        rcases mem_append.mp member with old | new
        · exact ready.own queued old
        · rw [mem_singleton.mp new]
          exact allowed
      · simp [Reader.step, arrivals, tape, Tape.extend, Tape.content]
  | call call =>
      simp only [arrivals, data_nil, append_nil]
      exact ready.call allowed

end

theorem run_content {start : Reader α} {events : List (Event α)} (ready : start.Ready)
    (along : Along step allows start events) : (run step start events).Ready ∧
      (run step start events).tape.content = start.tape.content ++ data (arrivals events) := by
  induction events generalizing start with
  | nil => exact ⟨ready, by simp [arrivals]⟩
  | cons event rest ih =>
      obtain ⟨later, content⟩ := ready.step along.1
      obtain ⟨last, whole⟩ := ih later along.2
      refine ⟨last, ?_⟩
      rw [run_cons, whole, content]
      cases event <;> simp [arrivals]

structure Answers (reader : Reader α) : Prop where
  packet : ∀ blocking, reader.Delivers reader.frontLeft
    (reader.frontLeft / reader.itemSize * reader.itemSize)
    (BufferedInputStream.readPacket blocking reader)
  samples : ∀ count consume blocking, reader.Delivers (min (count * reader.itemSize) reader.left)
    (reader.consumption count consume) (BufferedInputStream.read count consume blocking reader)
  skip : ∀ count, reader.Skips count (BufferedInputStream.skip count reader)

end Run

end Reader

end Redhawk.Bulkio
