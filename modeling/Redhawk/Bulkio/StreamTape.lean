import Redhawk.Bulkio.InPortFrames
import Redhawk.Bulkio.PortCalls
import Redhawk.Library.Lists

/-!
The samples of a buffered stream as one tape, whatever buffer holds its packets. Fetches move packets
from the port to the stream and leave the tape and the current segment as they are; consuming
samples advances the tape.
-/

namespace Redhawk.Bulkio

open Library Packet List Option

variable {α : Type}

def data (packets : List (Packet α)) : List α := packets.flatMap buffer

@[simp] theorem data_nil : data ([] : List (Packet α)) = [] := rfl

@[simp] theorem data_cons (packet : Packet α) (rest : List (Packet α)) :
    data (packet :: rest) = packet.buffer ++ data rest := rfl

@[simp] theorem data_append (first second : List (Packet α)) :
    data (first ++ second) = data first ++ data second := by
  simp [data]

def Packet.content (packet : Packet α) : Packet α := { packet with eos := false }

theorem data_content (packets : List (Packet α)) : data (packets.map content) = data packets := by
  simp [data, flatMap_map, content]

theorem data_congr {first second : List (Packet α)}
    (same : first.map content = second.map content) : data first = data second := by
  rw [← data_content, same, data_content]

def StreamSRI.itemSize (sri : StreamSRI) : Nat := if sri.complex then 2 else 1

theorem StreamSRI.itemSize_pos (sri : StreamSRI) : 0 < sri.itemSize := by
  simp only [itemSize]
  split <;> omega

namespace BufferedInputStream

def tape (stream : BufferedInputStream α) : Tape α :=
  ⟨data stream.deleted ++ (data stream.queue).take stream.sampleOffset,
    (data stream.queue).drop stream.sampleOffset ++ data stream.pending.toList⟩

structure Counted (stream : BufferedInputStream α) : Prop where
  samples : stream.samplesQueued + stream.sampleOffset = (data stream.queue).length
  offset : ∀ front ∈ stream.queue.head?, stream.sampleOffset ≤ front.buffer.length
  pending : stream.queue = [] → stream.pending = none

section Consume

variable {stream : BufferedInputStream α}

theorem Counted.ahead (counted : stream.Counted) :
    stream.tape.ahead.length = stream.samplesQueued + (data stream.pending.toList).length := by
  have samples := counted.samples
  simp only [tape, length_append, length_drop]
  omega

theorem Counted.advance (counted : stream.Counted) {pass : Nat}
    {front : Packet α} (head : stream.queue.head? = some front)
    (within : stream.sampleOffset + pass ≤ front.buffer.length) :
    Counted { stream with
        sampleOffset := stream.sampleOffset + pass
        samplesQueued := stream.samplesQueued - pass } ∧
      tape { stream with
        sampleOffset := stream.sampleOffset + pass
        samplesQueued := stream.samplesQueued - pass } = stream.tape.advance pass ∧
      pass ≤ stream.samplesQueued := by
  obtain ⟨rest, queue⟩ : ∃ rest, stream.queue = front :: rest := by
    cases queue : stream.queue with
    | nil => simp [queue] at head
    | cons first rest =>
        simp only [queue, head?_cons, some.injEq] at head
        exact ⟨rest, by rw [head]⟩
  have samples := counted.samples
  have front' : (data stream.queue).length = front.buffer.length + (data rest).length := by
    simp [queue]
  have room : pass ≤ ((data stream.queue).drop stream.sampleOffset).length := by
    rw [length_drop]
    omega
  refine ⟨⟨?_, ?_, counted.pending⟩, ?_, by omega⟩
  · show stream.samplesQueued - pass + (stream.sampleOffset + pass) = (data stream.queue).length
    omega
  · rintro first (same : stream.queue.head? = some first)
    rw [head] at same
    cases same
    exact within
  · simp [tape, Tape.advance, take_append_of_le_length room, drop_append_of_le_length room, take_add]

theorem consumePacket_cons {front : Packet α}
    {rest : List (Packet α)} (queue : stream.queue = front :: rest) : ∃ eosState : EosState,
    let popped := { stream with
      eosState := eosState, queue := rest, deleted := stream.deleted ++ [front] }
    consumePacket stream =
      match stream.pending with
      | some pending =>
          if rest.isEmpty then { (queuePacket pending popped).2 with pending := none } else popped
      | none => popped := by
  simp only [consumePacket, queue]
  cases front.eos with
  | true => exact ⟨.reached, rfl⟩
  | false => exact ⟨stream.eosState, rfl⟩

theorem Counted.consumePacket (counted : stream.Counted)
    {front : Packet α} {rest : List (Packet α)} (queue : stream.queue = front :: rest)
    (done : stream.sampleOffset = front.buffer.length) :
    let consumed := { consumePacket stream with sampleOffset := 0 }
    consumed.Counted ∧ consumed.tape = stream.tape ∧ stream.samplesQueued ≤ consumed.samplesQueued ∧
      consumed.queue.length + consumed.pending.toList.length <
        stream.queue.length + stream.pending.toList.length := by
  have samples := counted.samples
  simp only [queue, data_cons, length_append, done] at samples
  have left : stream.samplesQueued = (data rest).length := by omega
  obtain ⟨eosState, popped⟩ := consumePacket_cons queue
  rw [popped]
  cases waiting : stream.pending with
  | none =>
      refine ⟨⟨?_, ?_, fun _ => rfl⟩, ?_, Nat.le_refl _, ?_⟩
      · simpa using left
      · simp
      · simp [tape, queue, done, waiting]
      · simp [queue]
  | some pending =>
      by_cases last : rest = []
      · subst last
        have none : stream.samplesQueued = 0 := by simpa using left
        simp only [queuePacket, isEmpty_nil, if_true]
        by_cases final : (pending.eos && pending.buffer.isEmpty) = true
        · have empty : pending.buffer = [] := by simp_all
          rw [if_pos final]
          refine ⟨⟨?_, ?_, fun _ => rfl⟩, ?_, Nat.le_refl _, ?_⟩
          · simpa using none
          · simp
          · simp [tape, queue, done, waiting, empty]
          · simp [queue]
        · rw [if_neg final]
          refine ⟨⟨?_, ?_, fun _ => rfl⟩, ?_, Nat.le_add_right _ _, ?_⟩
          · simp [none]
          · simp
          · simp [tape, queue, done, waiting]
          · simp [queue]
      · have more : rest.isEmpty = false := by simpa using last
        simp only [more, Bool.false_eq_true, if_false]
        refine ⟨⟨?_, ?_, fun empty => absurd empty last⟩, ?_, Nat.le_refl _, ?_⟩
        · simpa using left
        · simp
        · simp [tape, queue, done, waiting]
        · simp [queue]

@[simp] theorem consumeLoop_zero (fuel : Nat) (stream : BufferedInputStream α) :
    consumeLoop fuel 0 stream = stream := by
  cases fuel with
  | zero => rfl
  | succ fuel =>
      simp only [consumeLoop, if_true]
      split <;> rfl

theorem Counted.consumeLoop (counted : stream.Counted) {fuel count : Nat} (queued : count ≤ stream.samplesQueued)
    (enough : stream.queue.length + stream.pending.toList.length < fuel) :
    (consumeLoop fuel count stream).Counted ∧
      (consumeLoop fuel count stream).tape = stream.tape.advance count := by
  induction fuel generalizing count stream with
  | zero => omega
  | succ fuel ih =>
      by_cases nothing : count = 0
      · subst nothing
        simpa using counted
      · simp only [BufferedInputStream.consumeLoop]
        split
        · rename_i queue
          have samples := counted.samples
          simp only [queue, data_nil, length_nil] at samples
          omega
        · rename_i front rest queue
          have head : stream.queue.head? = some front := by simp [queue]
          have offset := counted.offset front head
          rw [if_neg nothing]
          generalize passed : min (front.buffer.length - stream.sampleOffset) count = pass
          have within : stream.sampleOffset + pass ≤ front.buffer.length := by omega
          obtain ⟨advanced, moved, _⟩ := counted.advance head within
          have whole : (stream.tape.advance pass).advance (count - pass) = stream.tape.advance count := by
            rw [Tape.advance_advance]
            congr 1
            omega
          by_cases done : front.buffer.length ≤ stream.sampleOffset + pass
          · obtain ⟨consumed, same, kept, shorter⟩ := advanced.consumePacket queue
              (Nat.le_antisymm within done)
            have room : count - pass ≤ stream.samplesQueued - pass := by omega
            obtain ⟨later, tape⟩ := ih consumed (Nat.le_trans room kept)
              (Nat.lt_of_lt_of_le shorter (Nat.le_of_lt_succ enough))
            rw [if_pos done]
            exact ⟨later, by rw [tape, same, moved, whole]⟩
          · have all : count - pass = 0 := by omega
            rw [if_neg done, all, consumeLoop_zero]
            rw [all, Tape.advance_zero] at whole
            exact ⟨advanced, moved.trans whole⟩

theorem Counted.consumeData (counted : stream.Counted) {count : Nat} (queued : count ≤ stream.samplesQueued) :
    (consumeData count stream).Counted ∧ (consumeData count stream).tape = stream.tape.advance count := by
  refine counted.consumeLoop queued ?_
  cases stream.pending <;> simp

end Consume

def bridged : Bool → List (Packet α) → List (Packet α)
  | _, [] => []
  | first, packet :: rest =>
      if packet.eos && packet.buffer.isEmpty then []
      else if first || canBridge packet then
        packet :: if packet.eos then [] else bridged false rest
      else []

section Queue

theorem markLastEos_content (packets : List (Packet α)) :
    (markLastEos packets).map content = packets.map content := by
  induction packets with
  | nil => rfl
  | cons packet rest ih =>
      cases rest with
      | nil => rfl
      | cons second rest =>
          simp only [markLastEos, map_cons] at ih ⊢
          rw [ih]

variable {stream : BufferedInputStream α}

theorem Counted.queuePacket (counted : stream.Counted) (free : stream.pending = none) (packet : Packet α) :
    (queuePacket packet stream).2.Counted ∧
      (queuePacket packet stream).2.tape = stream.tape.extend packet.buffer := by
  have samples := counted.samples
  have within : stream.sampleOffset ≤ (data stream.queue).length := by omega
  simp only [BufferedInputStream.queuePacket]
  split
  · have none : packet.buffer = [] := by simp_all
    split
    · exact ⟨⟨counted.samples, counted.offset, counted.pending⟩, by simp [tape, none]⟩
    · have same := data_congr (markLastEos_content stream.queue)
      refine ⟨⟨?_, ?_, fun _ => free⟩, by simp [tape, none, same]⟩
      · rw [same]
        exact samples
      · intro front head
        have first : (markLastEos stream.queue).head?.map content = stream.queue.head?.map content := by
          rw [← head?_map, markLastEos_content, head?_map]
        rw [mem_def.mp head] at first
        cases old : stream.queue.head? with
        | none => simp [old] at first
        | some before =>
            simp only [old, map_some, some.injEq] at first
            have kept := counted.offset before old
            have same : front.buffer = before.buffer := (congrArg buffer first :)
            rw [same]
            exact kept
  · refine ⟨⟨?_, ?_, fun _ => free⟩, ?_⟩
    · simp only [data_append, data_cons, data_nil, append_nil, length_append]
      omega
    · intro front head
      cases queue : stream.queue with
      | nil =>
          simp only [queue, data_nil, length_nil] at within
          exact Nat.le_trans within (Nat.zero_le _)
      | cons first rest =>
          simp only [queue, cons_append, head?_cons, mem_some] at head
          subst head
          exact counted.offset first (by simp [queue])
    · simp [tape, free, Tape.extend, data_append, data_cons, data_nil,
        take_append_of_le_length within, drop_append_of_le_length within]

/-- The queue after a packet was taken or kept back, with the packets ahead that can still join it. -/
def Segment (packet : Packet α) (rest : List (Packet α)) (stream : BufferedInputStream α)
    (result : Bool × BufferedInputStream α) : Prop :=
  let ahead := if result.2.pending.isNone && result.2.eosState == .none then
    bridged result.2.queue.isEmpty rest else []
  (result.2.queue ++ ahead).map content =
      (stream.queue ++ bridged stream.queue.isEmpty (packet :: rest)).map content ∧
    (result.1 = false → ahead = [] ∧ result.2.queue.isEmpty = stream.queue.isEmpty) ∧
    (result.1 = true → result.2.queue ≠ [])

theorem queuePacket_segment {packet : Packet α}
    (joins : stream.queue.isEmpty || canBridge packet) (free : stream.pending = none)
    (state : stream.eosState = if packet.eos then .received else .none) (rest : List (Packet α)) :
    Segment packet rest stream (queuePacket packet stream) := by
  simp only [Segment, queuePacket, bridged]
  by_cases final : (packet.eos && packet.buffer.isEmpty) = true
  · have received : stream.eosState = .received := by simp_all
    rw [if_pos final, if_pos final]
    cases queue : stream.queue.isEmpty with
    | true => simpa using queue
    | false =>
        have more : (markLastEos stream.queue).isEmpty = stream.queue.isEmpty := by
          rw [← isEmpty_map, markLastEos_content, isEmpty_map]
        simp [received, markLastEos_content, more, queue]
  · rw [if_neg final, if_neg final, if_pos joins, state]
    have more : (stream.queue ++ [packet]).isEmpty = false := by simp
    cases packet.eos with
    | true => simp
    | false => simp [more, free]

def taken (packet : Packet α) (stream : BufferedInputStream α) : BufferedInputStream α :=
  { stream with
    fetched := stream.fetched ++ [packet]
    eosState := if packet.eos then .received else .none }

def handed (packet : Packet α) (stream : BufferedInputStream α) : Bool × BufferedInputStream α :=
  if stream.queue.isEmpty || canBridge packet then queuePacket packet (stream.taken packet)
  else (false, { stream.taken packet with pending := some packet })

theorem Counted.handed (counted : stream.Counted) (free : stream.pending = none) (packet : Packet α) :
    (handed packet stream).2.Counted ∧ (handed packet stream).2.tape = stream.tape.extend packet.buffer := by
  simp only [BufferedInputStream.handed]
  split
  · have still : (stream.taken packet).Counted :=
      ⟨counted.samples, counted.offset, counted.pending⟩
    exact still.queuePacket free packet
  · rename_i apart
    have full : stream.queue ≠ [] := by
      intro empty
      simp [empty] at apart
    exact ⟨⟨counted.samples, counted.offset, fun empty => absurd empty full⟩,
      by simp [tape, taken, free, Tape.extend]⟩

variable (packet : Packet α)

theorem handed_identity (stream : BufferedInputStream α) :
    (handed packet stream).2.identity =
      (stream.streamID, stream.born, stream.enabled, stream.fetched ++ [packet]) := by
  simp only [handed]
  split
  · exact queuePacket_identity packet _
  · rfl

theorem queuePacket_description (stream : BufferedInputStream α) :
    (queuePacket packet stream).2.sampleOffset = stream.sampleOffset ∧
      (queuePacket packet stream).2.sri = stream.sri ∧
      (queuePacket packet stream).2.newstream = stream.newstream := by
  simp only [queuePacket]
  split
  · split <;> exact ⟨rfl, rfl, rfl⟩
  · exact ⟨rfl, rfl, rfl⟩

theorem handed_description (stream : BufferedInputStream α) :
    (handed packet stream).2.sampleOffset = stream.sampleOffset ∧ (handed packet stream).2.sri = stream.sri ∧
      (handed packet stream).2.newstream = stream.newstream := by
  simp only [handed]
  split
  · exact queuePacket_description packet (stream.taken packet)
  · exact ⟨rfl, rfl, rfl⟩

theorem handed_segment (free : stream.pending = none) (packet : Packet α) (rest : List (Packet α)) :
    Segment packet rest stream (handed packet stream) := by
  simp only [handed]
  split
  · rename_i joins
    have joins : ((stream.taken packet).queue.isEmpty || canBridge packet) = true := joins
    exact queuePacket_segment joins free rfl rest
  · rename_i apart
    have closed : stream.queue.isEmpty = false ∧ canBridge packet = false := by simpa using apart
    have nothing : bridged stream.queue.isEmpty (packet :: rest) = [] := by
      simp only [bridged, closed.1, closed.2]
      split <;> rfl
    simp [Segment, nothing, taken]

end Queue

end BufferedInputStream

namespace Reader

def tape (reader : Reader α) : Tape α := reader.stream.tape.extend (data reader.port.packetQueue)

def ahead (reader : Reader α) : List (Packet α) :=
  if reader.stream.pending.isNone && reader.stream.eosState == .none then
    BufferedInputStream.bridged reader.stream.queue.isEmpty reader.port.packetQueue
  else []

def segment (reader : Reader α) : List (Packet α) := reader.stream.queue ++ reader.ahead

def left (reader : Reader α) : Nat := (data reader.segment).length - reader.stream.sampleOffset

/-- A stream in use, whose port runs and holds packets of the stream only. -/
structure Ready (reader : Reader α) : Prop where
  counted : reader.stream.Counted
  enabled : reader.stream.enabled = true
  running : reader.port.breakBlock = false
  own : ∀ packet ∈ reader.port.packetQueue, packet.streamID = reader.stream.streamID

structure Takes (packet : Packet α) (before after : Reader α) : Prop where
  queue : before.port.packetQueue = packet :: after.port.packetQueue
  running : after.port.breakBlock = before.port.breakBlock
  unended : before.stream.eosState = .none
  free : before.stream.pending = none
  stream : after.stream = (before.stream.handed packet).2

structure Fetches (before after : Reader α) : Prop where
  steps : Relation.ReflTransGen (fun first second => ∃ packet, Takes packet first second) before after
  ready : after.Ready
  tape : after.tape = before.tape
  offset : after.stream.sampleOffset = before.stream.sampleOffset
  segment : after.segment.map content = before.segment.map content

section Fetch

theorem Fetches.trans {first second third : Reader α} (before : Fetches first second)
    (after : Fetches second third) : Fetches first third :=
  ⟨before.steps.trans after.steps, after.ready, after.tape.trans before.tape, after.offset.trans before.offset,
    after.segment.trans before.segment⟩

variable {reader : Reader α}

theorem Ready.refl (ready : reader.Ready) : Fetches reader reader :=
  ⟨.refl, ready, rfl, rfl, rfl⟩

theorem Fetches.left {before after : Reader α} (fetches : Fetches before after) :
    after.left = before.left := by
  simp only [Reader.left, fetches.offset, data_congr fetches.segment]

theorem Ready.left (ready : reader.Ready) :
    reader.left = reader.stream.samplesQueued + (data reader.ahead).length := by
  have samples := ready.counted.samples
  simp only [Reader.left, segment, data_append, length_append]
  omega

theorem nextPacket_front {port : InPort α} {packet : Packet α} {rest : List (Packet α)}
    {streamID : String} (running : port.breakBlock = false)
    (queue : port.packetQueue = packet :: rest) (own : packet.streamID = streamID)
    (blocking : Bool) : ∃ after : InPort α,
      port.nextPacket blocking streamID = (.packet packet, after) ∧
        after.packetQueue = rest ∧ after.breakBlock = false := by
  have asked : InPort.requested streamID packet = true := by simp [InPort.requested, own]
  have found : port.packetQueue.find? (InPort.requested streamID) = some packet := by
    rw [queue, find?_cons_of_pos asked]
  have removed : port.packetQueue.eraseP (InPort.requested streamID) = rest := by
    rw [queue, eraseP_cons_of_pos asked]
  simp only [InPort.nextPacket, running, found, removed, Bool.false_eq_true, if_false]
  split
  · exact ⟨_, rfl, rfl, rfl⟩
  · exact ⟨_, rfl, rfl, rfl⟩

theorem Ready.inputFetch (ready : reader.Ready) (blocking : Bool) :
    (∃ fetch, InputStream.fetchPacket blocking reader = (fetch, reader) ∧ (∀ packet, fetch ≠ .packet packet) ∧
      (reader.stream.eosState ≠ .none ∨ reader.port.packetQueue = [])) ∨
    ∃ packet rest after, reader.port.packetQueue = packet :: rest ∧
      reader.stream.eosState = .none ∧ after.packetQueue = rest ∧ after.breakBlock = false ∧
      InputStream.fetchPacket blocking reader = (.packet packet,
        ⟨{ reader.stream with
            fetched := reader.stream.fetched ++ [packet]
            eosState := if packet.eos then .received else .none }, after⟩) := by
  simp only [InputStream.fetchPacket, ready.enabled, Bool.not_true, Bool.false_eq_true, if_false]
  by_cases unended : reader.stream.eosState = .none
  · rw [unended]
    rcases queue : reader.port.packetQueue with _ | ⟨packet, rest⟩
    · left
      simp only [InPort.nextPacket, ready.running, queue, find?_nil]
      cases blocking
      · exact ⟨.null, rfl, by simp, .inr trivial⟩
      · exact ⟨.waits, rfl, by simp, .inr trivial⟩
    · right
      have own := ready.own packet (by simp [queue])
      obtain ⟨after, fetched, remaining, running⟩ :=
        nextPacket_front ready.running queue own blocking
      refine ⟨packet, rest, after, rfl, rfl, remaining, running, ?_⟩
      rw [fetched]
      cases ends : packet.eos <;> simp [ends]
  · left
    exact ⟨.null, by simp [unended], by simp, .inl unended⟩

theorem Takes.fetches {packet : Packet α} {before after : Reader α}
    (takes : Takes packet before after) (ready : before.Ready) : Fetches before after := by
  obtain ⟨counted, moved⟩ := ready.counted.handed takes.free packet
  have identity := before.stream.handed_identity packet
  have segment := (BufferedInputStream.handed_segment takes.free packet after.port.packetQueue).1
  rw [← takes.stream] at counted moved identity segment
  simp only [BufferedInputStream.identity, Prod.mk.injEq] at identity
  refine ⟨.single ⟨packet, takes⟩, ⟨counted, identity.2.2.1.trans ready.enabled,
    takes.running.trans ready.running, ?_⟩, ?_, ?_, ?_⟩
  · intro queued member
    rw [identity.1]
    exact ready.own queued (by simp [takes.queue, member])
  · simp only [tape, moved, takes.queue, data_cons, Tape.extend_extend]
  · rw [takes.stream]
    exact (before.stream.handed_description packet).1
  · simp only [Reader.segment, ahead, takes.free, takes.unended, takes.queue]
    exact segment

theorem Ready.fetchPacket (ready : reader.Ready) (blocking : Bool) :
    let result := BufferedInputStream.fetchPacket blocking reader
    Fetches reader result.2 ∧
      (result.1 = .returns false → result.2.ahead = [] ∧
        result.2.stream.queue.isEmpty = reader.stream.queue.isEmpty) ∧
      (result.1 = .returns true → result.2.stream.queue ≠ [] ∧
        result.2.port.packetQueue.length < reader.port.packetQueue.length) := by
  cases waiting : reader.stream.pending with
  | some pending =>
      simp only [BufferedInputStream.fetchPacket, waiting, isSome_some, if_true]
      exact ⟨ready.refl, fun _ => ⟨by simp [ahead, waiting], trivial⟩, by simp⟩
  | none =>
      rcases ready.inputFetch blocking with ⟨fetch, same, never, nothing⟩ |
        ⟨packet, rest, port, queue, unended, remaining, running, fetched⟩
      · have last : reader.ahead = [] := by
          rcases nothing with ended | empty
          · simp [ahead, ended]
          · simp [ahead, empty, BufferedInputStream.bridged]
        simp only [BufferedInputStream.fetchPacket, waiting, isSome_none,
          Bool.false_eq_true, if_false, same]
        cases fetch with
        | packet packet => exact absurd rfl (never packet)
        | null => exact ⟨ready.refl, fun _ => ⟨last, rfl⟩, by simp⟩
        | waits => exact ⟨ready.refl, by simp, by simp⟩
      · have takes : Takes packet reader ⟨(reader.stream.handed packet).2, port⟩ :=
          ⟨by rw [queue, remaining], running.trans ready.running.symm, unended, waiting, rfl⟩
        have result : BufferedInputStream.fetchPacket blocking reader =
            (.returns (reader.stream.handed packet).1, ⟨(reader.stream.handed packet).2, port⟩) := by
          simp only [BufferedInputStream.fetchPacket, waiting, fetched, BufferedInputStream.handed,
            BufferedInputStream.taken, isSome_none, Bool.false_eq_true, if_false]
          split <;> rfl
        obtain ⟨_, ended, more⟩ := BufferedInputStream.handed_segment waiting packet rest
        rw [result]
        refine ⟨takes.fetches ready, fun failed => ?_, fun queued => ?_⟩
        · rw [Outcome.returns.injEq] at failed
          have last := ended failed
          rw [← remaining] at last
          exact last
        · rw [Outcome.returns.injEq] at queued
          exact ⟨more queued, by simp [remaining, queue]⟩

theorem Ready.fetchLoop (ready : reader.Ready) (requested : Nat)
    (blocking : Bool) {fuel : Nat} (enough : reader.port.packetQueue.length < fuel) :
    let result := BufferedInputStream.fetchLoop requested blocking fuel reader
    Fetches reader result.2 ∧ (result.1 = .returns () →
      requested ≤ result.2.stream.samplesQueued ∨ result.2.ahead = []) := by
  induction fuel generalizing reader with
  | zero => omega
  | succ fuel ih =>
      simp only [BufferedInputStream.fetchLoop]
      split
      · rename_i queued
        exact ⟨ready.refl, fun _ => .inl queued⟩
      · obtain ⟨fetches, ended, more⟩ := ready.fetchPacket blocking
        rcases outcome : BufferedInputStream.fetchPacket blocking reader with
          ⟨(_ | _) | _, later⟩ <;> rw [outcome] at fetches ended more
        · exact ⟨fetches, fun _ => .inr (ended rfl).1⟩
        · obtain ⟨later', queued⟩ := ih fetches.ready (by have shorter := (more rfl).2; omega)
          exact ⟨fetches.trans later', queued⟩
        · exact ⟨fetches, by simp⟩

theorem Ready.fetchUpTo (ready : reader.Ready) (requested : Nat) (blocking : Bool) :
    let result := BufferedInputStream.fetchUpTo requested blocking reader
    Fetches reader result.2 ∧ (result.1 = .returns () →
      requested ≤ result.2.stream.samplesQueued ∨ result.2.ahead = []) :=
  ready.fetchLoop requested blocking (Nat.lt_succ_self _)

theorem Ready.nextSRI (ready : reader.Ready) (blocking : Bool) :
    let result := BufferedInputStream.nextSRI blocking reader
    Fetches reader result.2 ∧ (result.1 = .returns none → result.2.left = 0) ∧
      ∀ sri, result.1 = .returns (some sri) → result.2.stream.queue.head?.map Packet.sri = some sri := by
  simp only [BufferedInputStream.nextSRI]
  split
  · rename_i queue
    refine ⟨ready.refl, by simp, ?_⟩
    rintro _ ⟨⟩
    simp [queue]
  · rename_i queue
    obtain ⟨fetches, ended, more⟩ := ready.fetchPacket blocking
    rcases outcome : BufferedInputStream.fetchPacket blocking reader with
      ⟨(_ | _) | _, later⟩ <;> rw [outcome] at fetches ended more
    · refine ⟨fetches, fun _ => ?_, by simp⟩
      obtain ⟨nothing, empty⟩ := ended rfl
      have empty : later.stream.queue = [] := by simpa [queue] using empty
      simp [Reader.left, segment, nothing, empty]
    · have full := (more rfl).1
      cases front : later.stream.queue with
      | nil => exact absurd front full
      | cons packet rest =>
          refine ⟨fetches, by simp [front], fun sri same => ?_⟩
          simpa [front] using same
    · exact ⟨fetches, by simp, by simp⟩

end Fetch

end Reader

end Redhawk.Bulkio
