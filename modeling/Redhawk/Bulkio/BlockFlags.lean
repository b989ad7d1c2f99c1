import Redhawk.Bulkio.BufferedRead
import Redhawk.Bulkio.StreamSteps

/-!
What a reader of a buffered stream is told about its packets: the changes of the SRI and the queue
flushes that the port flags on them, as they come out in the flags of the blocks.
-/

namespace Redhawk.Bulkio

open Library BufferedInputStream Reader Sri List

variable {α : Type}

def Follows : StreamSRI → List (Packet α) → Prop
  | _, [] => True
  | sri, packet :: rest => (packet.sriChanged = false → packet.sri = sri) ∧ Follows packet.sri rest

def lastSRI : StreamSRI → List (Packet α) → StreamSRI
  | sri, [] => sri
  | _, packet :: rest => lastSRI packet.sri rest

section Follows

variable {sri : StreamSRI}

theorem follows_append {first second : List (Packet α)} :
    Follows sri (first ++ second) ↔ Follows sri first ∧ Follows (lastSRI sri first) second := by
  induction first generalizing sri with
  | nil => simp [Follows, lastSRI]
  | cons packet rest ih => simp [Follows, lastSRI, ih, and_assoc]

theorem lastSRI_append (sri : StreamSRI) (first second : List (Packet α)) :
    lastSRI sri (first ++ second) = lastSRI (lastSRI sri first) second := by
  induction first generalizing sri with
  | nil => rfl
  | cons packet rest ih => exact ih packet.sri

theorem follows_content (packets : List (Packet α)) :
    Follows sri (packets.map Packet.content) ↔ Follows sri packets := by
  induction packets generalizing sri with
  | nil => rfl
  | cons packet rest ih => exact and_congr Iff.rfl ih

theorem Follows.lastSRI {packets : List (Packet α)} (follows : Follows sri packets)
    (bridging : ∀ packet ∈ packets, canBridge packet = true) :
    lastSRI sri packets = sri := by
  induction packets generalizing sri with
  | nil => rfl
  | cons packet rest ih =>
      have unflagged := bridging packet (by simp)
      simp only [canBridge, Bool.not_eq_true', Bool.or_eq_false_iff] at unflagged
      have same := follows.1 unflagged.1
      have later := ih follows.2 fun packet member => bridging packet (mem_cons_of_mem _ member)
      exact later.trans same

end Follows

namespace BufferedInputStream

/-- Consuming samples frees the packets `passed` at the front of the queue, and with the last of them
a pending packet that has nothing but an end-of-stream. -/
structure Passes (passed dropped : List (Packet α)) (before after : BufferedInputStream α) :
    Prop where
  packets : before.queue ++ before.pending.toList = passed ++ dropped ++ (after.queue ++ after.pending.toList)
  deleted : after.deleted = before.deleted ++ passed ++ dropped
  queued : passed <+: before.queue
  ends : ∀ packet ∈ dropped, packet.eos = true ∧ packet.buffer = []
  behind : after.queue.tail <:+ before.queue.tail
  sri : after.sri = before.sri
  newstream : after.newstream = before.newstream

section Passes

theorem Passes.refl (stream : BufferedInputStream α) : Passes [] [] stream stream :=
  ⟨by simp, by simp, nil_prefix, by simp, suffix_rfl, rfl, rfl⟩

variable {stream : BufferedInputStream α} {front : Packet α}

theorem passes_consumePacket {rest : List (Packet α)} (queue : stream.queue = front :: rest) : ∃ dropped,
      Passes [front] dropped stream (consumePacket stream) ∧
      (rest ≠ [] → dropped = [] ∧ (consumePacket stream).queue = rest ∧
        (consumePacket stream).pending = stream.pending) := by
  obtain ⟨eosState, popped⟩ := consumePacket_cons queue
  rw [popped]
  cases waiting : stream.pending with
  | none =>
      refine ⟨[], ⟨?_, ?_, ?_, by simp, ?_, rfl, rfl⟩, fun _ => by simp⟩
      · simp [queue, waiting]
      · simp
      · simp [queue]
      · simpa [queue] using tail_suffix rest
  | some pending =>
      by_cases last : rest = []
      · subst last
        simp only [queuePacket, isEmpty_nil, if_true]
        by_cases final : (pending.eos && pending.buffer.isEmpty) = true
        · rw [if_pos final]
          refine ⟨[pending], ⟨?_, ?_, ?_, ?_, ?_, rfl, rfl⟩, fun more => absurd rfl more⟩
          · simp [queue, waiting]
          · simp
          · simp [queue]
          · simpa using final
          · simp
        · rw [if_neg final]
          refine ⟨[], ⟨?_, ?_, ?_, by simp, ?_, rfl, rfl⟩, fun more => absurd rfl more⟩
          · simp [queue, waiting]
          · simp
          · simp [queue]
          · simp
      · have more : rest.isEmpty = false := by simpa using last
        simp only [more, Bool.false_eq_true, if_false]
        refine ⟨[], ⟨?_, ?_, ?_, by simp, ?_, rfl, rfl⟩, fun _ => by simp⟩
        · simp [queue, waiting]
        · simp
        · simp [queue]
        · simpa [queue] using tail_suffix rest

theorem Passes.cons {rest passed dropped : List (Packet α)}
    {before middle after : BufferedInputStream α} (passes : Passes passed dropped middle after)
    (queue : before.queue = front :: rest)
    (deleted : middle.deleted = before.deleted ++ [front]) (remaining : middle.queue = rest)
    (pending : middle.pending = before.pending) (sri : middle.sri = before.sri)
    (newstream : middle.newstream = before.newstream) :
    Passes (front :: passed) dropped before after := by
  refine ⟨?_, ?_, ?_, passes.ends, ?_, passes.sri.trans sri, passes.newstream.trans newstream⟩
  · have packets := passes.packets
    rw [remaining, pending] at packets
    simp [queue, packets]
  · simp [passes.deleted, deleted]
  · have queued := passes.queued
    rw [remaining] at queued
    simpa [queue] using queued
  · have behind := passes.behind
    rw [remaining] at behind
    simpa [queue] using behind.trans (tail_suffix rest)

theorem Counted.passes {stream : BufferedInputStream α} (counted : stream.Counted)
    {fuel count : Nat} (queued : count ≤ stream.samplesQueued)
    (enough : stream.queue.length + stream.pending.toList.length < fuel) :
    ∃ passed dropped, Passes passed dropped stream (BufferedInputStream.consumeLoop fuel count stream) := by
  induction fuel generalizing count stream with
  | zero => omega
  | succ fuel ih =>
      by_cases nothing : count = 0
      · subst nothing
        rw [consumeLoop_zero]
        exact ⟨[], [], .refl stream⟩
      · simp only [BufferedInputStream.consumeLoop]
        split
        · exact ⟨[], [], .refl stream⟩
        · rename_i front rest queue
          have head : stream.queue.head? = some front := by simp [queue]
          have offset := counted.offset front head
          rw [if_neg nothing]
          generalize passed : min (front.buffer.length - stream.sampleOffset) count = pass
          have within : stream.sampleOffset + pass ≤ front.buffer.length := by omega
          obtain ⟨advanced, _, _⟩ := counted.advance head within
          by_cases done : front.buffer.length ≤ stream.sampleOffset + pass
          · obtain ⟨consumed, _, kept, shorter⟩ := advanced.consumePacket queue
              (Nat.le_antisymm within done)
            obtain ⟨dropped, first, remaining⟩ := passes_consumePacket (show
              ({ stream with
                  sampleOffset := stream.sampleOffset + pass
                  samplesQueued := stream.samplesQueued - pass } : BufferedInputStream α).queue =
                front :: rest from queue)
            rw [if_pos done]
            by_cases last : rest = []
            · have samples := counted.samples
              have all : count - pass = 0 := by
                simp only [queue, last, data_cons, data_nil, append_nil] at samples
                omega
              rw [all, consumeLoop_zero]
              exact ⟨[front], dropped, first.packets, first.deleted, first.queued, first.ends,
                first.behind, first.sri, first.newstream⟩
            · obtain ⟨rfl, remaining, pending⟩ := remaining last
              have room : count - pass ≤ stream.samplesQueued - pass := by omega
              obtain ⟨passed, dropped, later⟩ := ih consumed (Nat.le_trans room kept)
                (Nat.lt_of_lt_of_le shorter (Nat.le_of_lt_succ enough))
              refine ⟨front :: passed, dropped, later.cons queue ?_ remaining pending first.sri first.newstream⟩
              simpa using first.deleted
          · have all : count - pass = 0 := by omega
            rw [if_neg done, all, consumeLoop_zero]
            exact ⟨[], [], ⟨by simp, by simp, nil_prefix, by simp, suffix_rfl, rfl, rfl⟩⟩

theorem Counted.consumed (counted : stream.Counted) {count : Nat} (queued : count ≤ stream.samplesQueued) :
    ∃ passed dropped, Passes passed dropped stream (BufferedInputStream.consumeData count stream) := by
  refine counted.passes queued ?_
  cases stream.pending <;> simp

theorem consumeData_within {rest : List (Packet α)} (queue : stream.queue = front :: rest) {count : Nat}
    (within : count < front.buffer.length - stream.sampleOffset) :
    Passes [] [] stream (consumeData count stream) := by
  by_cases nothing : count = 0
  · rw [nothing, consumeData, consumeLoop_zero]
    exact .refl stream
  · have pass : min (front.buffer.length - stream.sampleOffset) count = count := by omega
    have more : ¬front.buffer.length ≤ stream.sampleOffset + count := by omega
    have kept : consumeData count stream = { stream with
        sampleOffset := stream.sampleOffset + count
        samplesQueued := stream.samplesQueued - count } := by
      show consumeLoop (stream.queue.length + 1 + 1) count stream = _
      generalize stream.queue.length + 1 = fuel
      simp only [consumeLoop]
      split
      · rename_i empty
        simp [queue] at empty
      · rename_i first others found
        rw [queue] at found
        cases found
        rw [if_neg nothing, pass, if_neg more, Nat.sub_self, consumeLoop_zero]
    rw [kept]
    exact ⟨by simp, by simp, nil_prefix, by simp, suffix_rfl, rfl, rfl⟩

end Passes

end BufferedInputStream

namespace BufferedInputStream

theorem handed_cases {stream : BufferedInputStream α} (free : stream.pending = none) (packet : Packet α) :
    let later := (handed packet stream).2
    (packet.eos = true ∧ packet.buffer = [] ∧ later.pending = none ∧
        later.queue.map Packet.content = stream.queue.map Packet.content ∧
        later.queue.dropLast = stream.queue.dropLast ∧
        later.deleted = stream.deleted ++ [packet]) ∨
      ((stream.queue = [] ∨ canBridge packet = true) ∧ later.pending = none ∧
        later.queue = stream.queue ++ [packet] ∧ later.deleted = stream.deleted) ∨
      (later.pending = some packet ∧ later.queue = stream.queue ∧ later.deleted = stream.deleted) := by
  simp only [handed]
  split
  · rename_i joins
    by_cases final : (packet.eos && packet.buffer.isEmpty) = true
    · left
      have ends : packet.eos = true ∧ packet.buffer = [] := by simpa using final
      simp only [queuePacket, if_pos final]
      split
      · exact ⟨ends.1, ends.2, free, rfl, rfl, rfl⟩
      · exact ⟨ends.1, ends.2, free, markLastEos_content _, markLastEos_dropLast _, rfl⟩
    · right
      left
      simp only [queuePacket, if_neg final]
      exact ⟨by simpa using joins, free, rfl, rfl⟩
  · exact .inr (.inr ⟨rfl, rfl, rfl⟩)

theorem takeBlock_flags (count : Nat) (front : Packet α) (rest : List (Packet α))
    (stream : BufferedInputStream α) :
    (takeBlock count front rest stream).1.sriChangeFlags =
        (if front.sriChanged then compareFields stream.sri front.sri else NONE) |||
          (if stream.newstream then InputStream.newStreamFlags else NONE) ∧
      (takeBlock count front rest stream).1.inputQueueFlushed = front.inputQueueFlushed := by
  simp only [takeBlock, InputStream.setBlockFlags]
  cases front.sriChanged <;> cases stream.newstream <;> cases front.inputQueueFlushed <;>
    simp [NONE] <;> split <;> simp

end BufferedInputStream

def Outcome.value {β : Type} : Outcome (Option β) → Option β
  | .returns value => value
  | .waits => none

def BufferedInputStream.returned (reader : Reader α) : StreamCall → Option (DataBlock α)
  | .read => (readPacket true reader).1.value
  | .tryread => (readPacket false reader).1.value
  | .readSamples count => (read count count true reader).1.value
  | .tryreadSamples count => (read count count false reader).1.value
  | .readConsume count consume => (read count consume true reader).1.value
  | .tryreadConsume count consume => (read count consume false reader).1.value
  | _ => none

/-- A skip that does not pass the whole of a packet with something to report, of which no block was
taken yet. -/
def Reader.Spares (count : Nat) (reader : Reader α) : Prop :=
  ∀ front ∈ reader.segment.head?, canBridge front = false →
    min (count * reader.itemSize) reader.left < reader.frontLeft

def Reader.packets (reader : Reader α) : List (Packet α) :=
  reader.stream.queue ++ reader.stream.pending.toList ++ reader.port.packetQueue

/-- A reader with what there is to know about its packets and blocks: the SRI of the newest packet,
whether an end-of-stream has arrived, the last block, and how many packets were freed when the call
that returned it ended. -/
structure Watch (α : Type) where
  reader : Reader α
  newest : StreamSRI
  ended : Bool := false
  block : Option (DataBlock α) := none
  mark : Nat := 0

namespace Watch

def shown (start : StreamSRI) (watch : Watch α) : StreamSRI :=
  (watch.block.map DataBlock.sri).getD start

def entered (watch : Watch α) : List (Packet α) :=
  (watch.reader.stream.deleted.drop watch.mark).filter hasData ++ watch.reader.segment.head?.toList

structure Told (start : StreamSRI) (watch : Watch α) : Prop where
  follows : Follows watch.reader.stream.sri watch.reader.packets
  newest : watch.ended = false → lastSRI watch.reader.stream.sri watch.reader.packets = watch.newest
  bridging : ∀ packet ∈ watch.reader.stream.queue.tail, canBridge packet = true
  unended : watch.ended = false → ∀ packet ∈ watch.reader.packets, packet.eos = false
  final : ∀ packet ∈ watch.reader.packets.dropLast, packet.eos = false
  shown : watch.reader.stream.sri = watch.shown start
  newstream : watch.reader.stream.newstream = watch.block.isNone
  mark : watch.mark ≤ watch.reader.stream.deleted.length
  silent : ∀ packet ∈ watch.reader.stream.deleted.drop watch.mark, hasData packet = true →
    canBridge packet = true

section Told

variable {start : StreamSRI} {watch : Watch α}

theorem Told.takes (told : watch.Told start) {packet : Packet α} {after : Reader α}
    (takes : Takes packet watch.reader after) :
    Told start { watch with reader := after } := by
  obtain ⟨_, sri, newstream⟩ := watch.reader.stream.handed_description packet
  have cases := handed_cases takes.free packet
  rw [← takes.stream] at sri newstream cases
  have before : watch.reader.packets = watch.reader.stream.queue ++ packet :: after.port.packetQueue := by
    simp [packets, takes.free, takes.queue]
  -- unless the packet is merged into the queue, the packets stay the same
  have kept : after.packets = watch.reader.packets →
      (∀ queued ∈ after.stream.queue.tail, canBridge queued = true) →
      after.stream.deleted = watch.reader.stream.deleted →
      Told start { watch with reader := after } := by
    intro same bridging deleted
    refine ⟨?_, ?_, bridging, ?_, ?_, sri.trans told.shown, newstream.trans told.newstream, ?_, ?_⟩
    · rw [same, sri]
      exact told.follows
    · rw [same, sri]
      exact told.newest
    · rw [same]
      exact told.unended
    · rw [same]
      exact told.final
    · rw [deleted]
      exact told.mark
    · rw [deleted]
      exact told.silent
  rcases cases with ⟨ends, empty, free, same, marked, deleted⟩ | ⟨joins, free, queue, deleted⟩ |
    ⟨waits, queue, deleted⟩
  · have last : after.port.packetQueue = [] := by
      by_contra more
      have unended := told.final packet (by
        rw [before, dropLast_append_of_ne_nil (by simp), dropLast_cons_of_ne_nil more]
        simp)
      simp [ends] at unended
    have remaining : after.packets = after.stream.queue := by simp [packets, free, last]
    have kept' : ∀ {old : Packet α}, old ∈ watch.reader.stream.queue → old ∈ watch.reader.packets.dropLast := by
      intro old member
      rw [before, last]
      simpa using member
    have follows := told.follows
    rw [before, follows_append, ← follows_content] at follows
    refine ⟨?_, fun open' => ?_, fun queued member => ?_, fun open' => ?_, fun queued member => ?_,
      sri.trans told.shown, newstream.trans told.newstream, ?_, ?_⟩
    · rw [remaining, sri, ← follows_content, same]
      exact follows.1
    · have unended := told.unended open' packet (by simp [before])
      simp [ends] at unended
    · have tails : after.stream.queue.tail.map Packet.content =
          watch.reader.stream.queue.tail.map Packet.content := by
        rw [map_tail, same, map_tail]
      have content := mem_map_of_mem member (f := Packet.content)
      rw [tails] at content
      obtain ⟨old, kept, equal⟩ := mem_map.mp content
      have bridges := told.bridging old kept
      exact (congrArg canBridge equal :) ▸ bridges
    · have unended := told.unended open' packet (by simp [before])
      simp [ends] at unended
    · rw [remaining, marked] at member
      exact told.final queued (kept' ((dropLast_sublist _).subset member))
    · rw [deleted, length_append]
      exact Nat.le_trans told.mark (Nat.le_add_right _ _)
    · rw [deleted, drop_append_of_le_length told.mark]
      intro freed member filled
      rcases mem_append.mp member with old | new
      · exact told.silent freed old filled
      · rw [mem_singleton.mp new] at filled
        simp [hasData, empty] at filled
  · refine kept ?_ ?_ deleted
    · rw [before]
      simp [packets, free, queue]
    · rw [queue]
      rcases joins with empty | bridges
      · simp [empty]
      · intro queued member
        cases old : watch.reader.stream.queue with
        | nil => simp [old] at member
        | cons front rest =>
            simp only [old, cons_append, tail_cons] at member
            rcases mem_append.mp member with earlier | new
            · exact told.bridging queued (by simpa [old] using earlier)
            · rw [mem_singleton.mp new]
              exact bridges
  · refine kept ?_ ?_ deleted
    · rw [before]
      simp [packets, waits, queue]
    · rw [queue]
      exact told.bridging

theorem Told.fetches (told : watch.Told start) {after : Reader α}
    (fetches : Fetches watch.reader after) : Told start { watch with reader := after } := by
  have steps := fetches.steps
  clear fetches
  induction steps with
  | refl => exact told
  | tail _ step ih =>
      obtain ⟨packet, takes⟩ := step
      exact Told.takes ih takes

theorem dropLast_suffix {β : Type} {first second : List β} {item : β}
    (member : item ∈ second.dropLast) : item ∈ (first ++ second).dropLast := by
  cases second with
  | nil => simp at member
  | cons head rest =>
      rw [dropLast_append_of_ne_nil (by simp)]
      exact mem_append_right _ member

theorem Told.passes (told : watch.Told start) {passed dropped : List (Packet α)} {later : BufferedInputStream α}
    (passes : Passes passed dropped watch.reader.stream later)
    (bridging : ∀ packet ∈ passed, canBridge packet = true) :
    Told start { watch with reader := ⟨later, watch.reader.port⟩ } := by
  generalize after : (⟨later, watch.reader.port⟩ : Reader α) = reader
  have before : watch.reader.packets = passed ++ (dropped ++ reader.packets) := by
    rw [← after]
    simp [packets, passes.packets]
  have follows := told.follows
  rw [before, follows_append, follows_append] at follows
  have sri := follows.1.lastSRI bridging
  -- an end-of-stream without data is the last packet of all
  have last : dropped = [] ∨ reader.packets = [] := by
    rcases dropped with _ | ⟨final, others⟩
    · exact .inl rfl
    · right
      by_contra more
      have unended := told.final final (by
        rw [before, dropLast_append_of_ne_nil (by simp), cons_append,
          dropLast_cons_of_ne_nil (by simp [more])]
        simp)
      simp [(passes.ends final (by simp)).1] at unended
  have stream : reader.stream = later := by rw [← after]
  refine ⟨?_, fun open' => ?_, ?_, fun open' => ?_, ?_, ?_, ?_, ?_, ?_⟩ <;> dsimp only
  · rw [stream, passes.sri]
    rcases last with rfl | none
    · rw [sri] at follows
      exact follows.2.2
    · rw [none]
      trivial
  · have none : dropped = [] := by
      rcases dropped with _ | ⟨final, others⟩
      · rfl
      · have unended := told.unended open' final (by simp [before])
        simp [(passes.ends final (by simp)).1] at unended
    rw [stream, passes.sri, ← told.newest open', before, none, lastSRI_append, sri]
    rfl
  · rw [stream]
    exact fun packet member => told.bridging packet (passes.behind.subset member)
  · exact fun packet member => told.unended open' packet (by simp [before, member])
  · intro packet member
    refine told.final packet ?_
    rw [before, ← append_assoc]
    exact dropLast_suffix member
  · rw [stream, passes.sri]
    exact told.shown
  · rw [stream, passes.newstream]
    exact told.newstream
  · rw [stream, passes.deleted, append_assoc, length_append]
    exact Nat.le_trans told.mark (Nat.le_add_right _ _)
  · rw [stream, passes.deleted, append_assoc, drop_append_of_le_length told.mark]
    intro packet member filled
    rcases mem_append.mp member with old | new
    · exact told.silent packet old filled
    · rcases mem_append.mp new with read | final
      · exact bridging packet read
      · simp [hasData, (passes.ends packet final).2] at filled

theorem Told.block (told : watch.Told start) {front : Packet α} {rest : List (Packet α)}
    (queue : watch.reader.stream.queue = front :: rest) (count : Nat) :
    Told start { watch with
      reader := ⟨(watch.reader.stream.takeBlock count front rest).2, watch.reader.port⟩
      block := some (watch.reader.stream.takeBlock count front rest).1 } := by
  have before : watch.reader.packets =
      front :: (rest ++ watch.reader.stream.pending.toList ++ watch.reader.port.packetQueue) := by
    simp [packets, queue]
  have follows := told.follows
  rw [before] at follows
  have current : (if front.sriChanged then front.sri else watch.reader.stream.sri) = front.sri := by
    split
    · rfl
    · rename_i unflagged
      exact (follows.1 (by simpa using unflagged)).symm
  have newest := told.newest
  have unended := told.unended
  have final := told.final
  have bridging := told.bridging
  rw [before] at newest unended final
  rw [queue] at bridging
  refine ⟨?_, fun open' => ?_, ?_, fun open' => ?_, ?_, ?_, ?_, ?_, ?_⟩ <;>
    simp only [takeBlock_stream, packets, current]
  · exact ⟨fun _ => rfl, follows.2⟩
  · exact newest open'
  · exact bridging
  · intro packet member
    rcases mem_cons.mp member with rfl | later
    · exact unended open' front (by simp)
    · exact unended open' packet (mem_cons_of_mem _ later)
  · intro packet member
    rcases behind : rest ++ watch.reader.stream.pending.toList ++ watch.reader.port.packetQueue with
      _ | ⟨second, others⟩
    · simp only [cons_append, behind] at member
      simp at member
    · simp only [cons_append, behind, dropLast_cons_cons] at member final
      rcases mem_cons.mp member with rfl | later
      · exact final front (by simp)
      · exact final packet (mem_cons_of_mem _ later)
  · exact (takeBlock_sri count front rest watch.reader.stream).symm
  · rfl
  · exact told.mark
  · exact told.silent

theorem Told.report (told : watch.Told start) :
    Told start { watch with reader := InputStream.reportIfEosReached watch.reader } := by
  simp only [InputStream.reportIfEosReached]
  split
  · obtain ⟨_, _, _, frame⟩ :=
      InPort.removeStream_frame watch.reader.stream.streamID watch.reader.port
    rw [frame]
    exact ⟨told.follows, told.newest, told.bridging, told.unended, told.final, told.shown,
      told.newstream, told.mark, told.silent⟩
  · exact told

end Told

structure Reports (start : StreamSRI) (block : DataBlock α) (later : BufferedInputStream α)
    (watch : Watch α) : Prop where
  sri : later.sri = block.sri
  flags : block.sriChangeFlags =
    (if watch.entered.any Packet.sriChanged then compareFields (watch.shown start) block.sri
      else NONE) |||
    (if watch.block.isNone then InputStream.newStreamFlags else NONE)
  unchanged : watch.entered.any Packet.sriChanged = false → block.sri = watch.shown start
  flushed : block.inputQueueFlushed = watch.entered.any Packet.inputQueueFlushed

section Answers

variable {start : StreamSRI} {watch : Watch α}

def answered (block : Option (DataBlock α)) (reader : Reader α) (watch : Watch α) : Watch α :=
  match block with
  | none => { watch with reader := reader }
  | some block => { watch with
      reader := reader, block := some block, mark := reader.stream.deleted.length }

theorem Told.entered_any (told : watch.Told start) {later : Reader α}
    (fetches : Fetches watch.reader later) {front : Packet α} {rest : List (Packet α)}
    (queue : later.stream.queue = front :: rest) (flag : Packet α → Bool)
    (kept : ∀ packet : Packet α, flag packet.content = flag packet)
    (bridges : ∀ packet, canBridge packet = true → flag packet = false) :
    watch.entered.any flag = flag front := by
  have head : some (flag front) = watch.reader.segment.head?.map flag := by
    rw [← fetches.first flag kept]
    simp [Reader.segment, queue]
  have passed : ((watch.reader.stream.deleted.drop watch.mark).filter hasData).any flag = false := by
    rw [any_eq_false]
    intro packet member
    obtain ⟨freed, filled⟩ := mem_filter.mp member
    simpa using bridges packet (told.silent packet freed filled)
  have first : watch.reader.segment.head?.toList.any flag = flag front := by
    cases found : watch.reader.segment.head? with
    | none => simp [found] at head
    | some packet =>
        rw [found, Option.map_some, Option.some.injEq] at head
        simp [head]
  rw [entered, any_append, passed, first, Bool.false_or]

theorem Told.reads (told : watch.Told start) {size consume : Nat}
    {result : Outcome (Option (DataBlock α)) × Reader α}
    (reads : watch.reader.ReadsBy size consume result) :
    Told start (watch.answered result.1.value result.2) ∧
      ∀ block, result.1.value = some block → watch.Reports start block result.2.stream := by
  cases reads with
  | waits fetches => exact ⟨told.fetches fetches, by simp [Outcome.value]⟩
  | nothing fetches => exact ⟨told.fetches fetches, by simp [Outcome.value]⟩
  | ends fetches => exact ⟨(told.fetches fetches).report, by simp [Outcome.value]⟩
  | @block later front rest fetches queue queued room =>
      have fetched := told.fetches fetches
      have taken := fetched.block queue size
      have ready := (fetches.ready.taken queue size).1
      have sri := BufferedInputStream.takeBlock_sri size front rest later.stream
      have described := BufferedInputStream.takeBlock_stream size front rest later.stream
      obtain ⟨flags, flushed⟩ := BufferedInputStream.takeBlock_flags size front rest later.stream
      rw [BufferedInputStream.readData_queued queue room]
      generalize later.stream.takeBlock size front rest = result at *
      obtain ⟨block, stream⟩ := result
      dsimp only at taken ready sri described flags flushed ⊢
      have within : consume / front.sri.itemSize * front.sri.itemSize ≤ stream.samplesQueued := by
        rw [described]
        exact Nat.le_trans (Nat.div_mul_le_self _ _) room
      obtain ⟨passed, dropped, passes⟩ := ready.counted.consumed within
      -- the block has reported what was flagged, so only bridging packets are passed
      have bridging : ∀ packet ∈ passed, BufferedInputStream.canBridge packet = true := by
        intro packet member
        have there := passes.queued.subset member
        rw [described] at there
        rcases mem_cons.mp there with rfl | behind
        · rfl
        · exact fetched.bridging packet (by simpa [queue] using behind)
      have last := taken.passes passes bridging
      refine ⟨⟨last.follows, last.newest, last.bridging, last.unended, last.final, last.shown,
        last.newstream, Nat.le_refl _, by simp [answered, Outcome.value]⟩, ?_⟩
      rintro _ ⟨⟩
      have changed := told.entered_any fetches queue Packet.sriChanged (fun _ => rfl) fun packet
        bridges => by
          simp only [canBridge, Bool.not_eq_true', Bool.or_eq_false_iff] at bridges
          exact bridges.1
      have flush := told.entered_any fetches queue Packet.inputQueueFlushed (fun _ => rfl) fun packet
        bridges => by
          simp only [canBridge, Bool.not_eq_true', Bool.or_eq_false_iff] at bridges
          exact bridges.2
      have follows := fetched.follows
      simp only [packets, queue, cons_append] at follows
      refine ⟨last.shown, ?_, ?_, ?_⟩
      · rw [flags, changed, sri, fetched.shown, fetched.newstream]
        rfl
      · rw [changed, sri]
        exact fun unflagged => (follows.1 unflagged).trans fetched.shown
      · rw [flushed, flush]

theorem Told.skips (told : watch.Told start) {count : Nat} {result : Outcome Nat × Reader α}
    (skips : watch.reader.SkipsBy count result) (spares : watch.reader.Spares count) :
    Told start { watch with reader := result.2 } := by
  cases skips with
  | waits fetches => exact told.fetches fetches
  | nothing fetches none => exact told.fetches fetches
  | @passes later fetches queued =>
      have fetched := told.fetches fetches
      cases queue : later.stream.queue with
      | nil =>
          obtain ⟨passed, dropped, passes⟩ := fetches.ready.counted.consumed queued
          have nothing : passed = [] := by
            have front := passes.queued
            rw [queue] at front
            simpa using front
          exact fetched.passes passes (by simp [nothing])
      | cons front rest =>
          cases bridges : BufferedInputStream.canBridge front with
          | true =>
              obtain ⟨passed, dropped, passes⟩ := fetches.ready.counted.consumed queued
              refine fetched.passes passes fun packet member => ?_
              have there := passes.queued.subset member
              rw [queue] at there
              rcases mem_cons.mp there with rfl | behind
              · exact bridges
              · exact fetched.bridging packet (by simpa [queue] using behind)
          | false =>
              -- a flagged packet is only entered
              have head : watch.reader.segment.head?.map canBridge = some false := by
                rw [← fetches.first canBridge fun _ => rfl]
                simp [Reader.segment, queue, bridges]
              obtain ⟨first, found, flagged⟩ := Option.map_eq_some_iff.mp head
              have within := spares first found flagged
              rw [← fetches.frontLeft] at within
              have size : later.frontLeft = front.buffer.length - later.stream.sampleOffset := by
                simp [Reader.frontLeft, Reader.segment, queue]
              rw [size] at within
              exact fetched.passes (BufferedInputStream.consumeData_within queue within) (by simp)

end Answers

section Run

def step : Reader.Event α → Watch α → Watch α
  | .arrives packet, watch => { watch with
      reader := Reader.step (.arrives packet) watch.reader
      newest := packet.sri
      ended := packet.eos }
  | .call call, watch => watch.answered (BufferedInputStream.returned watch.reader call)
      (BufferedInputStream.call watch.reader call)

/-- The packets of one instance, of which the port flags each whose SRI differs from the one before,
and calls other than `disable` and than a skip over something that was not reported. -/
def allows : Reader.Event α → Watch α → Prop
  | .arrives packet, watch =>
      packet.streamID = watch.reader.stream.streamID ∧ watch.ended = false ∧
        (packet.sriChanged = false → packet.sri = watch.newest)
  | .call call, watch => call ≠ .disable ∧ ∀ count, call = .skip count → watch.reader.Spares count

def opened (sri : StreamSRI) (sriCmp : StreamSRI → StreamSRI → Bool) (maxQueue : Nat) : Watch α :=
  { reader := Reader.opened sri sriCmp maxQueue, newest := sri }

variable {start : StreamSRI} {watch : Watch α}

theorem Told.arrives (told : watch.Told start) {packet : Packet α}
    (allowed : allows (.arrives packet) watch) : Told start (step (.arrives packet) watch) := by
  obtain ⟨_, unended, flagged⟩ := allowed
  have after : (Reader.step (.arrives packet) watch.reader).packets = watch.reader.packets ++ [packet] := by
    simp [Reader.packets, Reader.step]
  refine ⟨?_, ?_, told.bridging, ?_, ?_, told.shown, told.newstream, told.mark, told.silent⟩ <;>
    simp only [step, after]
  · refine follows_append.mpr ⟨told.follows, fun unflagged => ?_, trivial⟩
    exact (flagged unflagged).trans (told.newest unended).symm
  · exact fun _ => lastSRI_append _ _ _
  · intro last queued member
    rcases mem_append.mp member with old | new
    · exact told.unended unended queued old
    · rw [mem_singleton.mp new]
      exact last
  · simpa using told.unended unended

theorem Told.call (told : watch.Told start) (ready : watch.reader.Ready) {call : StreamCall}
    (allowed : allows (.call call) watch) : Told start (step (.call call) watch) := by
  obtain ⟨enabled, spares⟩ := allowed
  cases call with
  | read => exact (told.reads (ready.readPacket true)).1
  | tryread => exact (told.reads (ready.readPacket false)).1
  | readSamples count => exact (told.reads (ready.read count count true)).1
  | tryreadSamples count => exact (told.reads (ready.read count count false)).1
  | readConsume count consume => exact (told.reads (ready.read count consume true)).1
  | tryreadConsume count consume => exact (told.reads (ready.read count consume false)).1
  | skip count => exact told.skips (ready.skip count) (spares count rfl)
  | eos =>
      have fetches : Fetches watch.reader (if watch.reader.stream.queue.isEmpty then
          (BufferedInputStream.fetchPacket false watch.reader).2 else watch.reader) := by
        split
        · exact (ready.fetchPacket false).1
        · exact ready.refl
      exact (told.fetches fetches).report
  | enable =>
      exact ⟨told.follows, told.newest, told.bridging, told.unended, told.final, told.shown,
        told.newstream, told.mark, told.silent⟩
  | disable => exact absurd rfl enabled

theorem Told.reports (told : watch.Told start) (ready : watch.reader.Ready) {call : StreamCall}
    {block : DataBlock α} (returned : BufferedInputStream.returned watch.reader call = some block) :
    watch.Reports start block (BufferedInputStream.call watch.reader call).stream := by
  cases call with
  | read => exact (told.reads (ready.readPacket true)).2 block returned
  | tryread => exact (told.reads (ready.readPacket false)).2 block returned
  | readSamples count => exact (told.reads (ready.read count count true)).2 block returned
  | tryreadSamples count => exact (told.reads (ready.read count count false)).2 block returned
  | readConsume count consume => exact (told.reads (ready.read count consume true)).2 block returned
  | tryreadConsume count consume =>
      exact (told.reads (ready.read count consume false)).2 block returned
  | skip | eos | enable | disable => cases returned

theorem answered_reader (block : Option (DataBlock α)) (reader : Reader α) (watch : Watch α) :
    (watch.answered block reader).reader = reader := by
  cases block <;> rfl

theorem ready_step {event : Reader.Event α} (ready : watch.reader.Ready)
    (allowed : allows event watch) : (step event watch).reader.Ready := by
  cases event with
  | arrives packet => exact (@Reader.Ready.step α _ ready (.arrives packet) allowed.1).1
  | call call =>
      rw [step, answered_reader]
      exact (ready.call allowed.1).1

/-- Every block of a run reports the changes and flushes flagged since the last one. -/
theorem blocks_report (sri : StreamSRI) (sriCmp : StreamSRI → StreamSRI → Bool) (maxQueue : Nat)
    (events : List (Event α))
    (along : Along step allows (opened sri sriCmp maxQueue) events) (call : StreamCall)
    (block : DataBlock α) :
    let watch := run step (opened sri sriCmp maxQueue) events
    BufferedInputStream.returned watch.reader call = some block →
      watch.Reports sri block (BufferedInputStream.call watch.reader call).stream := by
  intro watch returned
  obtain ⟨ready, told⟩ := invariant_run (fun watch : Watch α => watch.reader.Ready ∧ watch.Told sri)
    (fun event watch inv allowed => by
      refine ⟨ready_step inv.1 allowed, ?_⟩
      cases event with
      | arrives packet => exact inv.2.arrives allowed
      | call call => exact inv.2.call inv.1 allowed)
    ⟨Reader.ready_opened sri sriCmp maxQueue, by
      constructor <;> simp [opened, Reader.opened, Reader.packets, InPort.fresh, Follows, lastSRI, shown]⟩
    along
  exact told.reports ready returned

theorem blocks_report_update :
    let sri := create "a"
    let events : List (Reader.Event Nat) := [
      .arrives ⟨[1, 2], .notSet, false, sri, true, false, 0⟩, .call (.readSamples 1),
      .arrives ⟨[3], .notSet, false, { sri with xdelta := 2 }, true, true, 1⟩, .call (.skip 1)]
    let watch := run step (opened sri DefaultComparator 100) events
    let block : DataBlock Nat :=
      ⟨{ sri with xdelta := 2 }, [3], XDELTA, true, [⟨.notSet, 0, false⟩]⟩
    BufferedInputStream.returned watch.reader .tryread = some block ∧
      watch.Reports sri block (BufferedInputStream.call watch.reader .tryread).stream := by
  intro sri events watch block
  have along : Along step allows (opened sri DefaultComparator 100) events := by
    refine ⟨⟨rfl, rfl, nofun⟩, ⟨nofun, nofun⟩, ⟨rfl, rfl, nofun⟩, ⟨nofun, ?_⟩, trivial⟩
    rintro _ ⟨⟩ front found flagged
    obtain rfl := Option.some.inj found
    exact absurd flagged (by decide)
  have returned : BufferedInputStream.returned watch.reader .tryread = some block := by
    decide +kernel
  exact ⟨returned, blocks_report sri DefaultComparator 100 events along .tryread block returned⟩

/-- The first block of a stream does not report all fields, and a skip over the whole of a packet whose
SRI has changed loses the change: the block after it has the new SRI and no flags. -/
theorem blocks_miss_changes :
    let sri := create "a"
    let changed := { sri with xdelta := 2 }
    let packets : List (Reader.Event Nat) := [.arrives ⟨[1], .notSet, false, sri, true, false, 0⟩,
      .arrives ⟨[2], .notSet, false, changed, true, false, 1⟩,
      .arrives ⟨[3], .notSet, false, changed, false, false, 2⟩]
    let first := run step (opened sri DefaultComparator 100) packets
    let second := run step first [.call .tryread, .call (.skip 1)]
    let fields := HVERSION ||| XSTART ||| XDELTA ||| XUNITS ||| SUBSIZE |||
      YSTART ||| YDELTA ||| YUNITS ||| MODE ||| STREAMID ||| BLOCKING |||
      KEYWORDS
    (BufferedInputStream.returned first.reader .tryread).map DataBlock.sriChangeFlags ≠ some fields ∧
      second.block.map DataBlock.sri = some sri ∧
      (BufferedInputStream.returned second.reader .tryread).map
        (fun block => (block.sri, block.sriChangeFlags)) = some (changed, NONE) := by
  decide +kernel

end Run

end Watch

end Redhawk.Bulkio
