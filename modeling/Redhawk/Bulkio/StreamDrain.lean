import Redhawk.Bulkio.BlockFlags
import Redhawk.Bulkio.StreamRuns

/-!
Reading a buffered stream until it is empty. Each `tryread` takes the rest of one packet, and
consumes as many whole samples of it as there are.
-/

namespace Redhawk.Bulkio

open Library BufferedInputStream List Option

variable {α : Type}

namespace BufferedInputStream

structure Stocked (stream : BufferedInputStream α) : Prop where
  samples : stream.samplesQueued + stream.sampleOffset = (data stream.queue).length
  offset : ∀ front ∈ stream.queue.head?, stream.sampleOffset < front.buffer.length
  queued : ∀ packet ∈ stream.queue, packet.buffer ≠ []
  pending : ∀ packet ∈ stream.pending, packet.Filled
  ends : stream.eosState = .none → ∀ packet ∈ stream.queue ++ stream.pending.toList, packet.eos = false

def Waits (stream : BufferedInputStream α) : Prop := stream.queue = [] → stream.pending = none

section Stock

variable {stream : BufferedInputStream α}

theorem Stocked.front (stocked : stream.Stocked)
    {front : Packet α} {rest : List (Packet α)} (queue : stream.queue = front :: rest) :
    stream.sampleOffset < front.buffer.length ∧ stream.samplesQueued =
      front.buffer.length - stream.sampleOffset + (data rest).length := by
  have offset := stocked.offset front (by simp [queue])
  have samples := stocked.samples
  simp only [queue, data_cons, length_append] at samples
  exact ⟨offset, by omega⟩

theorem Stocked.empty (stocked : stream.Stocked)
    (queue : stream.queue = []) : stream.samplesQueued = 0 ∧ stream.sampleOffset = 0 := by
  have samples := stocked.samples
  simp only [queue, data_nil, length_nil] at samples
  omega

theorem Stocked.queuePacket (stocked : stream.Stocked) {packet : Packet α} (filled : packet.Filled)
    (ends : packet.eos = true → stream.eosState ≠ .none) (free : stream.pending = none) :
    (queuePacket packet stream).2.Stocked := by
  have samples := stocked.samples
  simp only [BufferedInputStream.queuePacket]
  split
  · have last : packet.eos = true := by simp_all
    split
    · exact ⟨stocked.samples, stocked.offset, stocked.queued, stocked.pending, by rintro ⟨⟩⟩
    · have same := markLastEos_content stream.queue
      have kept : ∀ {β : Type} (field : Packet α → β),
          (∀ packet : Packet α, field packet.content = field packet) →
          (markLastEos stream.queue).map field = stream.queue.map field := by
        intro β field unmarked
        have mapped := congrArg (map field) same
        simpa only [List.map_map, Function.comp_def, unmarked] using mapped
      refine ⟨?_, ?_, ?_, stocked.pending, fun none => absurd none (ends last)⟩
      · rw [data_congr same]
        exact samples
      · intro front head
        have buffers := congrArg head? (kept Packet.buffer fun _ => rfl)
        simp only [head?_map, mem_def.mp head, map_some] at buffers
        cases old : stream.queue.head? with
        | none => simp [old] at buffers
        | some before =>
            have offset := stocked.offset before old
            simp only [old, map_some, some.injEq] at buffers
            rw [buffers]
            exact offset
      · intro queued member
        have buffer : queued.buffer ∈ (markLastEos stream.queue).map Packet.buffer :=
          mem_map_of_mem member
        rw [kept Packet.buffer fun _ => rfl] at buffer
        obtain ⟨before, old, buffers⟩ := mem_map.mp buffer
        rw [← buffers]
        exact stocked.queued before old
  · rename_i open'
    have useful : packet.buffer ≠ [] := by
      intro empty
      rcases filled with data | last
      · exact data empty
      · simp [empty, last] at open'
    refine ⟨?_, ?_, ?_, stocked.pending, ?_⟩
    · simp only [data_append, data_cons, data_nil, append_nil, length_append]
      omega
    · intro front head
      cases queue : stream.queue with
      | nil =>
          have nothing := (stocked.empty queue).2
          simp only [queue, nil_append, head?_cons, mem_some] at head
          subst head
          rw [nothing]
          exact length_pos_of_ne_nil useful
      | cons first rest =>
          simp only [queue, cons_append, head?_cons, mem_some] at head
          subst head
          exact (stocked.front queue).1
    · exact forall_mem_concat.mpr ⟨stocked.queued, useful⟩
    · intro none queued member
      have open' : ∀ queued ∈ stream.queue, queued.eos = false := fun queued member =>
        stocked.ends none queued (mem_append_left _ member)
      simp only [free, toList_none, append_nil] at member
      rcases mem_append.mp member with old | new
      · exact open' queued old
      · rw [mem_singleton.mp new]
        by_contra marked
        exact ends (by simpa using marked) none

theorem Stocked.handed (stocked : stream.Stocked)
    {packet : Packet α} (filled : packet.Filled) (unended : stream.eosState = .none)
    (free : stream.pending = none) : (handed packet stream).2.Stocked := by
  have open' := stocked.ends unended
  have taken : (stream.taken packet).Stocked :=
    ⟨stocked.samples, stocked.offset, stocked.queued, stocked.pending, fun _ => open'⟩
  have marked : packet.eos = true → (stream.taken packet).eosState ≠ .none := by
    intro last
    simp [BufferedInputStream.taken, last]
  simp only [BufferedInputStream.handed]
  split
  · exact taken.queuePacket filled marked free
  · refine ⟨stocked.samples, stocked.offset, stocked.queued, ?_, ?_⟩
    · rintro _ ⟨⟩
      exact filled
    · intro none queued member
      rcases mem_append.mp member with old | new
      · exact open' queued (mem_append_left _ old)
      · rw [mem_singleton.mp new]
        by_contra last
        exact marked (by simpa using last) none

def popFront (stream : BufferedInputStream α) (front : Packet α) (rest : List (Packet α)) :
    BufferedInputStream α :=
  { stream with
    eosState := if front.eos then .reached else stream.eosState
    queue := rest
    sampleOffset := 0
    samplesQueued := stream.samplesQueued - (front.buffer.length - stream.sampleOffset)
    deleted := stream.deleted ++ [front] }

def passFront (stream : BufferedInputStream α) (front : Packet α) : BufferedInputStream α :=
  { consumePacket { stream with
      sampleOffset := front.buffer.length
      samplesQueued := stream.samplesQueued - (front.buffer.length - stream.sampleOffset) } with
    sampleOffset := 0 }

variable {front : Packet α} {rest : List (Packet α)}

theorem passFront_cases (queue : stream.queue = front :: rest) :
    ((rest = [] → stream.pending = none) ∧ passFront stream front = popFront stream front rest) ∨
    ∃ pending, stream.pending = some pending ∧ rest = [] ∧
      (((pending.eos && pending.buffer.isEmpty) = true ∧
        passFront stream front = { popFront stream front rest with
          eosState := .reached
          pending := none
          deleted := stream.deleted ++ [front] ++ [pending] }) ∨
      ((pending.eos && pending.buffer.isEmpty) = false ∧
        passFront stream front = { popFront stream front rest with
          queue := [pending]
          pending := none
          samplesQueued := (popFront stream front rest).samplesQueued + pending.buffer.length })) := by
  rcases stream with ⟨base, packets, pending, samplesQueued, sampleOffset, deleted⟩
  cases queue
  cases pending with
  | none =>
      left
      refine ⟨fun _ => rfl, ?_⟩
      cases ends : front.eos <;> simp [passFront, consumePacket, popFront, ends]
  | some pending =>
      rcases rest with _ | ⟨second, rest⟩
      · right
        refine ⟨pending, rfl, rfl, ?_⟩
        cases final : pending.eos && pending.buffer.isEmpty <;> cases ends : front.eos <;>
          simp [passFront, consumePacket, popFront, queuePacket, final, ends]
      · left
        refine ⟨by rintro ⟨⟩, ?_⟩
        cases ends : front.eos <;> simp [passFront, consumePacket, popFront, ends]

theorem Stocked.passFront (stocked : stream.Stocked)
    {front : Packet α} {rest : List (Packet α)} (queue : stream.queue = front :: rest) :
    (passFront stream front).Stocked := by
  obtain ⟨_, queued⟩ := stocked.front queue
  have others : ∀ packet ∈ rest, packet.buffer ≠ [] := fun packet member =>
    stocked.queued packet (by simp [queue, member])
  have unended : (popFront stream front rest).eosState = .none → stream.eosState = .none := by
    simp only [popFront]
    split
    · nofun
    · exact id
  have behind : (popFront stream front rest).eosState = .none →
      ∀ packet ∈ rest ++ stream.pending.toList, packet.eos = false := by
    intro none packet member
    refine stocked.ends (unended none) packet ?_
    rw [queue, cons_append]
    exact mem_cons_of_mem _ member
  rcases passFront_cases queue with ⟨_, stays⟩ | ⟨pending, waiting, rfl, ⟨_, ends⟩ | ⟨open', joins⟩⟩
  · rw [stays]
    refine ⟨?_, ?_, others, stocked.pending, behind⟩
    · simp only [popFront]
      omega
    · exact fun packet first =>
        length_pos_of_ne_nil (others packet (mem_of_mem_head? first))
  · rw [ends]
    refine ⟨?_, by simp [popFront], by simp [popFront], by simp, by simp⟩
    simp only [popFront, data_nil, length_nil] at queued ⊢
    omega
  · have useful : pending.buffer ≠ [] := by
      intro empty
      rcases stocked.pending pending waiting with data | last
      · exact data empty
      · simp [empty, last] at open'
    rw [joins]
    refine ⟨?_, ?_, ?_, by simp, ?_⟩
    · simp only [popFront, data_cons, data_nil, length_nil, append_nil] at queued ⊢
      omega
    · rintro _ ⟨⟩
      exact length_pos_of_ne_nil useful
    · intro packet member
      rw [mem_singleton.mp member]
      exact useful
    · intro none packet member
      simp only [toList_none, append_nil, mem_singleton] at member
      subst member
      exact behind none packet (by simp [waiting])

theorem Waits.passFront (queue : stream.queue = front :: rest) : (passFront stream front).Waits := by
  rcases passFront_cases queue with ⟨free, stays⟩ | ⟨_, _, _, ⟨_, ends⟩ | ⟨_, joins⟩⟩
  · rw [stays]
    exact free
  · rw [ends]
    exact fun _ => rfl
  · rw [joins]
    exact fun _ => rfl

theorem Stocked.advance (stocked : stream.Stocked)
    {front : Packet α} {rest : List (Packet α)} (queue : stream.queue = front :: rest) {pass : Nat}
    (short : stream.sampleOffset + pass < front.buffer.length) :
    Stocked { stream with
      sampleOffset := stream.sampleOffset + pass
      samplesQueued := stream.samplesQueued - pass } := by
  have samples := stocked.samples
  obtain ⟨_, queued⟩ := stocked.front queue
  refine ⟨?_, ?_, stocked.queued, stocked.pending, stocked.ends⟩
  · dsimp only
    omega
  · intro first head
    simp only [queue, head?_cons, mem_some] at head
    subst head
    exact short

theorem consumeLoop_succ (queue : stream.queue = front :: rest)
    (offset : stream.sampleOffset < front.buffer.length) {fuel count : Nat} :
    consumeLoop (fuel + 1) count stream =
      if count < front.buffer.length - stream.sampleOffset then
        { stream with
          sampleOffset := stream.sampleOffset + count
          samplesQueued := stream.samplesQueued - count }
      else consumeLoop fuel (count - (front.buffer.length - stream.sampleOffset))
        (passFront stream front) := by
  simp only [consumeLoop]
  split
  · rename_i empty
    simp [queue] at empty
  · rename_i first others found
    rw [queue] at found
    cases found
    by_cases nothing : count = 0
    · have short : count < front.buffer.length - stream.sampleOffset := by omega
      rw [if_pos nothing, if_pos short]
      simp [nothing]
    · rw [if_neg nothing]
      by_cases short : count < front.buffer.length - stream.sampleOffset
      · have pass : min (front.buffer.length - stream.sampleOffset) count = count := by omega
        have more : ¬front.buffer.length ≤ stream.sampleOffset + count := by omega
        rw [if_pos short, pass, if_neg more, Nat.sub_self, consumeLoop_zero]
      · have pass : min (front.buffer.length - stream.sampleOffset) count =
            front.buffer.length - stream.sampleOffset := by omega
        have done : stream.sampleOffset + (front.buffer.length - stream.sampleOffset) =
            front.buffer.length := by omega
        rw [if_neg short, pass, done, if_pos (Nat.le_refl _)]
        rfl

theorem Stocked.consumeLoop (stocked : stream.Stocked)
    (fuel count : Nat) : (consumeLoop fuel count stream).Stocked ∧
      (stream.Waits → (consumeLoop fuel count stream).Waits) := by
  induction fuel generalizing count stream with
  | zero => exact ⟨stocked, id⟩
  | succ fuel ih =>
      cases queue : stream.queue with
      | nil =>
          have idle : consumeLoop (fuel + 1) count stream = stream := by
            simp only [consumeLoop, queue]
          rw [idle]
          exact ⟨stocked, id⟩
      | cons front rest =>
          obtain ⟨offset, _⟩ := stocked.front queue
          rw [consumeLoop_succ queue offset]
          split
          · exact ⟨stocked.advance queue (by omega), id⟩
          · obtain ⟨later, waits⟩ := ih (stocked.passFront queue)
              (count - (front.buffer.length - stream.sampleOffset))
            exact ⟨later, fun _ => waits (Waits.passFront queue)⟩

theorem queuePacket_pending (packet : Packet α) (stream : BufferedInputStream α) :
    (queuePacket packet stream).2.pending = stream.pending := by
  simp only [queuePacket]
  split
  · split <;> rfl
  · rfl

theorem Waits.handed (free : stream.pending = none) (packet : Packet α) : (handed packet stream).2.Waits := by
  simp only [BufferedInputStream.handed]
  split
  · intro _
    rw [queuePacket_pending]
    exact free
  · rename_i apart
    intro (empty : stream.queue = [])
    simp [empty] at apart

theorem Stocked.takeBlock (stocked : stream.Stocked) (count : Nat)
    {front : Packet α} {rest : List (Packet α)} (queue : stream.queue = front :: rest) :
    (takeBlock count front rest stream).2.Stocked ∧
      (takeBlock count front rest stream).2.Waits := by
  rw [takeBlock_stream]
  refine ⟨⟨?_, ?_, ?_, stocked.pending, ?_⟩, by simp [Waits]⟩
  · have samples := stocked.samples
    simp only [queue, data_cons] at samples ⊢
    exact samples
  · rintro _ ⟨⟩
    exact (stocked.front queue).1
  · intro packet member
    rcases mem_cons.mp member with rfl | later
    · exact stocked.queued front (by simp [queue])
    · exact stocked.queued packet (by simp [queue, later])
  · intro none packet member
    rcases mem_cons.mp member with rfl | later
    · exact stocked.ends none front (by simp [queue])
    · exact stocked.ends none packet (by
        rw [queue]
        exact mem_cons_of_mem _ later)

theorem stocked_lasting : Lasting (fun _ => True) (Stocked (α := α)) where
  opened _ _ _ := ⟨rfl, by simp, by simp, by simp, by simp⟩
  reported _ stocked :=
    ⟨stocked.samples, stocked.offset, stocked.queued, stocked.pending, by simp⟩
  handed _ _ stocked filled unended free := stocked.handed filled unended free
  taken count _ _ _ stocked queue := (stocked.takeBlock count queue).1
  consumed _ _ stocked := (stocked.consumeLoop _ _).1
  enabled _ stocked :=
    ⟨stocked.samples, stocked.offset, stocked.queued, stocked.pending, stocked.ends⟩
  disabled _ stocked _ := by
    refine ⟨rfl, by simp [disabled], by simp [disabled],
      stocked.pending, fun none packet member => stocked.ends none packet ?_⟩
    exact mem_append_right _ member

theorem waits_lasting : Lasting (fun stream => stream.pending = none)
    (fun stream : BufferedInputStream α => stream.Stocked ∧ stream.Waits) where
  opened streamID sri born := ⟨stocked_lasting.opened streamID sri born, fun _ => rfl⟩
  reported stream holds := ⟨stocked_lasting.reported stream holds.1, holds.2⟩
  handed packet _ holds filled unended free := ⟨holds.1.handed filled unended free, .handed free packet⟩
  taken count _ _ _ holds queue := holds.1.takeBlock count queue
  consumed _ _ holds := ⟨(holds.1.consumeLoop _ _).1, (holds.1.consumeLoop _ _).2 holds.2⟩
  enabled stream holds := ⟨stocked_lasting.enabled stream holds.1, holds.2⟩
  disabled stream holds free := ⟨stocked_lasting.disabled stream holds.1 trivial, fun _ => free⟩

end Stock

end BufferedInputStream

def untilEos : List (Packet α) → List (Packet α)
  | [] => []
  | packet :: rest => packet :: if packet.eos then [] else untilEos rest

/-- What is left to read of packets of which the first was read up to an offset: for each packet
whether its data is complex, and the number of scalars. -/
def remains : Nat → List (Packet α) → List (Bool × Nat)
  | _, [] => []
  | offset, packet :: rest =>
      if packet.buffer.length ≤ offset then remains 0 rest
      else (packet.sri.complex, packet.buffer.length - offset) :: remains 0 rest

namespace Reader

def fetchable (reader : Reader α) : List (Packet α) :=
  if !reader.stream.enabled || reader.port.breakBlock || reader.stream.eosState != .none then []
  else untilEos (reader.port.packetQueue.filter (InPort.requested reader.stream.streamID))

def received (reader : Reader α) : List (Packet α) :=
  reader.stream.queue ++ reader.stream.pending.toList ++ reader.fetchable

def unreadParts (reader : Reader α) : List (Bool × Nat) :=
  remains reader.stream.sampleOffset reader.received

def unread (reader : Reader α) : Nat := (reader.unreadParts.map Prod.snd).sum

end Reader

section Parts

theorem remains_front {offset : Nat} {front : Packet α} (rest : List (Packet α))
    (within : offset < front.buffer.length) : remains offset (front :: rest) =
      (front.sri.complex, front.buffer.length - offset) :: remains 0 rest := by
  simp only [remains]
  rw [if_neg (by omega)]

theorem remains_pos {offset : Nat} {packets : List (Packet α)} :
    ∀ part ∈ remains offset packets, 0 < part.2 := by
  induction packets generalizing offset with
  | nil => simp [remains]
  | cons packet rest ih =>
      simp only [remains]
      split
      · exact ih
      · refine forall_mem_cons.mpr ⟨?_, ih⟩
        omega

def passPart : List (Bool × Nat) → List (Bool × Nat)
  | [] => []
  | (complex, left) :: rest => if complex && left % 2 == 1 then (complex, 1) :: rest else rest

def passParts : Nat → List (Bool × Nat) → List (Bool × Nat)
  | 0, parts => parts
  | times + 1, parts => passParts times (passPart parts)

def PartsDrain (parts : List (Bool × Nat)) : Prop :=
  (∀ times, passParts times parts ≠ [] →
    ((passParts (times + 1) parts).map Prod.snd).sum < ((passParts times parts).map Prod.snd).sum) ∧
  ∃ times, passParts times parts = []

theorem PartsDrain.pass {parts : List (Bool × Nat)} (drain : PartsDrain parts) :
    PartsDrain (passPart parts) := by
  obtain ⟨less, times, empty⟩ := drain
  refine ⟨fun times => less (times + 1), ?_⟩
  cases times with
  | zero =>
      simp only [passParts] at empty
      exact ⟨0, by simp [passParts, passPart, empty]⟩
  | succ times => exact ⟨times, empty⟩

theorem partsDrain_iff {parts : List (Bool × Nat)} (positive : ∀ part ∈ parts, 0 < part.2) :
    PartsDrain parts ↔ ∀ part ∈ parts, part.1 = true → part.2 % 2 = 0 := by
  constructor
  · intro drain
    induction parts with
    | nil => simp
    | cons part rest ih =>
        obtain ⟨complex, left⟩ := part
        by_cases odd : (complex && left % 2 == 1) = true
        · -- the last scalar stays for good
          obtain ⟨rfl, last⟩ : complex = true ∧ left % 2 = 1 := by simpa using odd
          have stuck := drain.1 1
          simp [passParts, passPart, last] at stuck
        · have later := drain.pass
          simp only [passPart, odd, if_false, Bool.false_eq_true] at later
          refine forall_mem_cons.mpr ⟨fun mode => ?_,
            ih (fun part member => positive part (mem_cons_of_mem _ member)) later⟩
          dsimp only at mode ⊢
          simp only [mode, Bool.true_and, beq_iff_eq] at odd
          omega
  · intro even
    induction parts with
    | nil =>
        have none : ∀ times, passParts times [] = [] := by
          intro times
          induction times with
          | zero => rfl
          | succ times ih => exact ih
        exact ⟨fun times more => absurd (none times) more, 0, rfl⟩
    | cons part rest ih =>
        obtain ⟨complex, left⟩ := part
        obtain ⟨first, others⟩ := forall_mem_cons.mp even
        obtain ⟨some, behind⟩ := forall_mem_cons.mp positive
        have whole : ¬(complex && left % 2 == 1) = true := by
          intro odd
          simp only [Bool.and_eq_true, beq_iff_eq] at odd
          have none := first odd.1
          omega
        obtain ⟨less, times, empty⟩ := ih behind others
        have next : passPart ((complex, left) :: rest) = rest := by simp only [passPart, if_neg whole]
        refine ⟨fun times more => ?_, times + 1, by rw [passParts, next, empty]⟩
        cases times with
        | zero =>
            simp only [passParts, next, map_cons, sum_cons]
            omega
        | succ times =>
            have later : ∀ times, passParts (times + 1) ((complex, left) :: rest) =
                passParts times rest := fun times => by rw [passParts, next]
            rw [later] at more
            rw [later, later]
            exact less times more

end Parts

namespace Reader

section Reads

variable {reader : Reader α}

theorem parts_front (stocked : reader.stream.Stocked) {front : Packet α}
    {rest : List (Packet α)} (queue : reader.stream.queue = front :: rest) :
    reader.unreadParts =
      (front.sri.complex, front.buffer.length - reader.stream.sampleOffset) ::
        remains 0 (rest ++ reader.stream.pending.toList ++ reader.fetchable) := by
  simp only [unreadParts, received, queue, cons_append]
  exact remains_front _ (stocked.front queue).1

theorem fetchable_congr {before after : BufferedInputStream α} (port : InPort α)
    (enabled : after.enabled = before.enabled) (streamID : after.streamID = before.streamID)
    (unended : after.eosState = .none ↔ before.eosState = .none) :
    fetchable ⟨after, port⟩ = fetchable ⟨before, port⟩ := by
  simp only [fetchable, enabled, streamID]
  by_cases none : before.eosState = .none
  · rw [none, unended.mpr none]
  · have ended : ¬after.eosState = .none := fun same => none (unended.mp same)
    simp [none, ended]

theorem parts_passFront {stream : BufferedInputStream α} (stocked : stream.Stocked) (port : InPort α)
    {front : Packet α} {rest : List (Packet α)} (queue : stream.queue = front :: rest) :
    unreadParts ⟨stream.passFront front, port⟩ =
      remains 0 (rest ++ stream.pending.toList ++ fetchable ⟨stream, port⟩) := by
  have popped : (stream.popFront front rest).eosState = .none ↔ stream.eosState = .none := by
    simp only [popFront]
    split
    · rename_i last
      refine ⟨nofun, fun none => ?_⟩
      have open' := stocked.ends none front (by simp [queue])
      rw [last] at open'
      cases open'
    · exact Iff.rfl
  rcases passFront_cases queue with
    ⟨_, stays⟩ | ⟨pending, waiting, rfl, ⟨final, ends⟩ | ⟨_, joins⟩⟩
  · rw [stays, unreadParts, received, @fetchable_congr α stream (stream.popFront front rest) port rfl rfl popped]
    rfl
  · have last : pending.eos = true ∧ pending.buffer = [] := by simpa using final
    have ended : ¬stream.eosState = .none := by
      intro none
      have open' := stocked.ends none pending (by simp [waiting])
      rw [last.1] at open'
      cases open'
    have nothing : fetchable ⟨stream, port⟩ = [] := by simp [fetchable, ended]
    rw [ends, unreadParts, received, nothing, waiting]
    simp [fetchable, popFront, remains, last.2]
  · rw [joins, unreadParts, received, waiting]
    rw [show fetchable ⟨{ stream.popFront front [] with
      queue := [pending]
      pending := none
      samplesQueued := (stream.popFront front []).samplesQueued + pending.buffer.length }, port⟩ =
        fetchable ⟨stream, port⟩ from fetchable_congr port rfl rfl popped]
    rfl

theorem readPacket_queued (stocked : reader.stream.Stocked) {front : Packet α}
    {rest : List (Packet α)} (queue : reader.stream.queue = front :: rest) (blocking : Bool) :
    ∃ block, (readPacket blocking reader).1 = .returns (some block) ∧
      (readPacket blocking reader).2.unreadParts = passPart reader.unreadParts := by
  obtain ⟨offset, queued⟩ := stocked.front queue
  have some : ¬reader.stream.samplesQueued = 0 := by omega
  generalize size : front.buffer.length - reader.stream.sampleOffset = left at queued
  have read := @readData_queued _ _ _ _ queue left left (by omega)
  have result : readPacket blocking reader = readData left left reader := by
    simp only [readPacket, if_neg some]
    split
    · rename_i empty
      simp [queue] at empty
    · rename_i first others found
      rw [queue] at found
      cases found
      rw [size]
  rw [result, read]
  refine ⟨_, rfl, ?_⟩
  have taken := (stocked.takeBlock left queue).1
  have described := takeBlock_stream left front rest reader.stream
  generalize (takeBlock left front rest reader.stream).2 = stream at taken described
  have next : stream.queue =
      { front with sriChanged := false, inputQueueFlushed := false } :: rest := by rw [described]
  have there : stream.sampleOffset = reader.stream.sampleOffset := by rw [described]
  have same : fetchable ⟨stream, reader.port⟩ = reader.fetchable := by
    rw [described]
    rfl
  have behind : rest ++ stream.pending.toList = rest ++ reader.stream.pending.toList := by
    rw [described]
  have within : stream.sampleOffset < front.buffer.length := by omega
  rw [parts_front stocked queue, size, ← same, ← behind]
  have consumed : stream.consumeData (left / front.sri.itemSize * front.sri.itemSize) = _ :=
    consumeLoop_succ next within
  rw [consumed]
  by_cases odd : (front.sri.complex && left % 2 == 1) = true
  · obtain ⟨complex, last⟩ : front.sri.complex = true ∧ left % 2 = 1 := by simpa using odd
    have pair : front.sri.itemSize = 2 := by simp [StreamSRI.itemSize, complex]
    have one : front.buffer.length - (stream.sampleOffset + left / 2 * 2) = 1 := by omega
    rw [pair, if_pos (by dsimp only; omega), passPart, if_pos odd, unreadParts, received]
    rw [next, cons_append, cons_append, remains_front _ (by dsimp only; omega)]
    rw [one]
    rfl
  · have whole : left / front.sri.itemSize * front.sri.itemSize = left := by
      cases complex : front.sri.complex with
      | false => simp [StreamSRI.itemSize, complex]
      | true =>
          have even : left % 2 = 0 := by
            simp only [complex, Bool.true_and, beq_iff_eq] at odd
            omega
          simp only [StreamSRI.itemSize, complex, if_true]
          omega
    have none : left - (front.buffer.length - stream.sampleOffset) = 0 := by omega
    rw [whole, if_neg (by dsimp only; omega), passPart, if_neg odd]
    rw [none, consumeLoop_zero, parts_passFront taken reader.port next]

variable {packet : Packet α}

theorem fetchable_offered (offers : offered reader = some packet) :
    reader.fetchable = packet :: if packet.eos then [] else
      untilEos ((reader.port.packetQueue.eraseP
        (InPort.requested reader.stream.streamID)).filter
          (InPort.requested reader.stream.streamID)) := by
  obtain ⟨_, enabled, unended, running, found⟩ := offered_some.mp offers
  rw [← head?_filter] at found
  rw [filter_eraseP, fetchable, enabled, unended, running]
  cases own : reader.port.packetQueue.filter (InPort.requested reader.stream.streamID) with
  | nil => simp [own] at found
  | cons first rest =>
      have same : first = packet := by simpa [own] using found
      subst same
      simp [untilEos]

theorem fetchable_none (free : reader.stream.pending = none)
    (nothing : offered reader = none) : reader.fetchable = [] := by
  simp only [fetchable]
  split
  · rfl
  · rename_i open'
    have clear : closed reader = false := by
      rw [closed_false]
      simp_all
    rw [offered, clear, if_neg Bool.false_ne_true, ← head?_filter,
      head?_eq_none_iff] at nothing
    rw [nothing]
    rfl

theorem report_parts (reader : Reader α) (none : reader.unreadParts = []) :
    (InputStream.reportIfEosReached reader).unreadParts = [] := by
  simp only [InputStream.reportIfEosReached]
  split
  · rename_i reached
    have ended : reader.stream.eosState = .reached := by simpa using reached
    have nothing : reader.fetchable = [] := by simp [fetchable, ended]
    rw [unreadParts, received, nothing] at none
    simpa [unreadParts, received, fetchable] using none
  · exact none

theorem handed_empty {stream : BufferedInputStream α} (queue : stream.queue = [])
    (empty : (stream.handed packet).2.queue = []) :
    (stream.handed packet).2.eosState = .reached := by
  simp only [handed, queue, isEmpty_nil, Bool.true_or, if_true,
    queuePacket, taken] at empty ⊢
  split
  · rfl
  · rename_i more
    rw [if_neg more] at empty
    cases empty

theorem parts_fetched (stocked : reader.stream.Stocked) (queue : reader.stream.queue = [])
    (offers : offered reader = some packet) :
    unreadParts ⟨(reader.stream.handed packet).2,
      (reader.port.nextPacket false reader.stream.streamID).2⟩ = reader.unreadParts := by
  obtain ⟨free, enabled, unended, running, found⟩ := offered_some.mp offers
  have offset := (stocked.empty queue).2
  have remaining : ∃ after : InPort α, after.breakBlock = false ∧ after.packetQueue =
      reader.port.packetQueue.eraseP (InPort.requested reader.stream.streamID) ∧
      (reader.port.nextPacket false reader.stream.streamID).2 = after := by
    rcases InPort.nextPacket_cases false reader.stream.streamID reader.port with
      ⟨fetch, same, never⟩ | ⟨_, _, next⟩
    · have taken := nextPacket_found running found false
      rw [same] at taken
      exact absurd taken (never packet)
    · rw [next]
      refine ⟨_, ?_, ?_, rfl⟩
      · exact running
      · rfl
  obtain ⟨after, open', rest, same⟩ := remaining
  rw [same]
  have before : reader.unreadParts = remains 0 (packet :: if packet.eos then [] else
      untilEos (after.packetQueue.filter (InPort.requested reader.stream.streamID))) := by
    rw [unreadParts, received, queue, free, offset, fetchable_offered offers, rest]
    rfl
  rw [before]
  simp only [handed, queue, isEmpty_nil, Bool.true_or, if_true,
    queuePacket, taken]
  by_cases final : (packet.eos && packet.buffer.isEmpty) = true
  · have last : packet.eos = true ∧ packet.buffer = [] := by simpa using final
    simp [unreadParts, received, fetchable, free, last.1, remains, last.2]
  · rw [if_neg final]
    cases ends : packet.eos with
    | true => simp [unreadParts, received, fetchable, free, offset]
    | false => simp [unreadParts, received, fetchable, free, offset, enabled, open']

theorem tryread_parts (stocked : reader.stream.Stocked) (waits : reader.stream.Waits)
    (filled : ∀ packet ∈ reader.port.packetQueue, packet.Filled) :
    (reader.unreadParts = [] → (readPacket false reader).1 = .returns none) ∧
    (reader.unreadParts ≠ [] → ∃ block, (readPacket false reader).1 = .returns (some block)) ∧
    (readPacket false reader).2.unreadParts = passPart reader.unreadParts := by
  cases queue : reader.stream.queue with
  | cons front rest =>
      obtain ⟨block, returned, parts⟩ := readPacket_queued stocked queue false
      refine ⟨fun none => ?_, fun _ => ⟨block, returned⟩, parts⟩
      rw [parts_front stocked queue] at none
      cases none
  | nil =>
      have free := waits queue
      have empty := (stocked.empty queue).1
      rcases fetchPacket_cases false reader with
        ⟨nothing, same⟩ | ⟨packet, offers, fetched⟩
      · have none : reader.unreadParts = [] := by
          rw [unreadParts, received, queue, free, fetchable_none free nothing]
          rfl
        have result : readPacket false reader =
            (.returns .none, InputStream.reportIfEosReached reader) := by
          simp [readPacket, empty, same, idle]
        rw [result, none]
        exact ⟨fun _ => rfl, fun some => absurd rfl some, report_parts reader none⟩
      · obtain ⟨_, _, unended, _, found⟩ := offered_some.mp offers
        have useful := filled packet (mem_of_find?_eq_some found)
        have parts := parts_fetched stocked queue offers
        have stocked' := stocked.handed useful unended free
        generalize later : (⟨(reader.stream.handed packet).2,
          (reader.port.nextPacket false reader.stream.streamID).2⟩ : Reader α) = after at fetched parts
        have stock : after.stream.Stocked := by
          rw [← later]
          exact stocked'
        have free' : after.stream.queue = [] → after.stream.pending = none := by
          rw [← later]
          exact Waits.handed free packet
        rw [← parts]
        cases queue' : after.stream.queue with
        | nil =>
            have ended : after.stream.eosState = .reached := by
              rw [← later] at queue' ⊢
              exact handed_empty queue queue'
            have none : after.unreadParts = [] := by
              rw [unreadParts, received, queue', free' queue']
              simp [fetchable, ended, remains]
            have result : readPacket false reader =
                (.returns .none, InputStream.reportIfEosReached after) := by
              simp [readPacket, empty, fetched, (stock.empty queue').1]
            rw [result, none]
            exact ⟨fun _ => rfl, fun some => absurd rfl some, report_parts after none⟩
        | cons front rest =>
            have some : ¬after.stream.samplesQueued = 0 := by
              have queued := stock.front queue'
              omega
            have result : readPacket false reader = readPacket false after := by
              simp [readPacket, empty, fetched, if_neg some]
            obtain ⟨block, returned, passed⟩ := readPacket_queued stock queue' false
            rw [result]
            refine ⟨fun none => ?_, fun _ => ⟨block, returned⟩, passed⟩
            rw [parts_front stock queue'] at none
            cases none

end Reads

section Drain

def tryreads : Nat → Reader α → Reader α
  | 0, reader => reader
  | times + 1, reader => tryreads times (readPacket false reader).2

/-- Every `tryread` that returns a block gets on, and after finitely many a null block says that every
scalar was consumed. -/
def Drains (reader : Reader α) : Prop :=
  (∀ times block,
    (readPacket false (tryreads times reader)).1 = .returns (some block) →
      (tryreads (times + 1) reader).unread < (tryreads times reader).unread) ∧
  ∃ times, (readPacket false (tryreads times reader)).1 = .returns none ∧
    (tryreads (times + 1) reader).unread = 0

def Stands (reader : Reader α) : Prop :=
  InPort.Serves (fun stream : BufferedInputStream α => stream.Stocked ∧ stream.Waits) reader

variable {reader : Reader α}

theorem Stands.tryreads (stands : reader.Stands) (times : Nat) :
    (tryreads times reader).Stands ∧
      (Reader.tryreads times reader).unreadParts = passParts times reader.unreadParts := by
  induction times generalizing reader with
  | zero => exact ⟨stands, rfl⟩
  | succ times ih =>
      have next := (InPort.serves_closed waits_lasting).readPacket false reader stands
      obtain ⟨_, _, parts⟩ := tryread_parts stands.good.1 stands.good.2 stands.filled
      obtain ⟨later, passed⟩ := ih next
      rw [parts] at passed
      exact ⟨later, passed⟩

theorem unread_zero : reader.unread = 0 ↔ reader.unreadParts = [] := by
  refine ⟨fun none => ?_, fun none => by rw [unread, none]; rfl⟩
  have positive := @remains_pos α reader.stream.sampleOffset reader.received
  cases parts : reader.unreadParts with
  | nil => rfl
  | cons part rest =>
      have some := positive part (by rw [← unreadParts, parts]; simp)
      rw [unread, parts, map_cons, sum_cons] at none
      omega

theorem Stands.drains_iff (stands : reader.Stands) : reader.Drains ↔ PartsDrain reader.unreadParts := by
  have answers : ∀ times, ((Reader.tryreads times reader).unreadParts = [] →
        (readPacket false (Reader.tryreads times reader)).1 = .returns none) ∧
      ((Reader.tryreads times reader).unreadParts ≠ [] → ∃ block,
        (readPacket false (Reader.tryreads times reader)).1 = .returns (some block)) := by
    intro times
    obtain ⟨later, _⟩ := stands.tryreads times
    obtain ⟨none, some, _⟩ := tryread_parts later.good.1 later.good.2 later.filled
    exact ⟨none, some⟩
  have parts : ∀ times, (Reader.tryreads times reader).unreadParts =
      passParts times reader.unreadParts := fun times => (stands.tryreads times).2
  constructor
  · rintro ⟨less, times, returned, _⟩
    refine ⟨fun times more => ?_, times, ?_⟩
    · rw [← parts] at more
      obtain ⟨block, returned⟩ := (answers times).2 more
      have decreased := less times block returned
      rw [unread, unread, parts, parts] at decreased
      exact decreased
    · rw [← parts]
      by_contra more
      obtain ⟨block, some⟩ := (answers times).2 more
      rw [some] at returned
      cases returned
  · rintro ⟨less, times, empty⟩
    refine ⟨fun times block returned => ?_, times, ?_, ?_⟩
    · have more : passParts times reader.unreadParts ≠ [] := by
        rw [← parts]
        intro none
        rw [(answers times).1 none] at returned
        cases returned
      rw [unread, unread, parts, parts]
      exact less times more
    · exact (answers times).1 (by rw [parts, empty])
    · have still : ∀ times parts, passParts (times + 1) parts = passPart (passParts times parts) := by
        intro times
        induction times with
        | zero => exact fun _ => rfl
        | succ times ih => exact fun parts => ih (passPart parts)
      rw [unread_zero, parts, still, empty]
      rfl

end Drain

end Reader

/-- A draining loop ends if and only if no packet of complex data has an odd number of scalars left. -/
theorem draining_ends_iff (sriCmp : StreamSRI → StreamSRI → Bool) (maxQueue : Nat) {calls : List (Call α)}
    (allowed : Along (InPort.step .buffered) (InPort.DisablesAllowed fun stream => stream.pending = none)
      (InPort.fresh sriCmp maxQueue) calls)
    {handle : Nat} {stream : BufferedInputStream α}
    (found : (run (InPort.step .buffered) (InPort.fresh sriCmp maxQueue) calls).objects[handle]? = some stream) :
    let reader : Reader α := ⟨stream, run (InPort.step .buffered) (InPort.fresh sriCmp maxQueue) calls⟩
    reader.Drains ↔ ∀ part ∈ reader.unreadParts, part.1 = true → part.2 % 2 = 0 := by
  obtain ⟨all, filled⟩ := InPort.run_streams waits_lasting sriCmp maxQueue allowed
  have stands : Reader.Stands ⟨stream, run (InPort.step .buffered) (InPort.fresh sriCmp maxQueue) calls⟩ :=
    ⟨all stream (mem_of_getElem? found), all, filled.queued⟩
  exact stands.drains_iff.trans (partsDrain_iff remains_pos)

theorem draining_ends_even :
    let sri := { Sri.create "a" with mode := 1 }
    let calls : List (Call Nat) := [.pushSRI sri, .queuePacket [1, 2, 3, 4] .notSet false "a",
      .queuePacket [5, 6] .notSet true "a"]
    let port := run (InPort.step .buffered) (InPort.fresh Sri.DefaultComparator 100) calls
    let reader : Reader Nat := ⟨{ streamID := "a", sri := sri, born := 0 }, port⟩
    port.objects[0]? = some reader.stream ∧ reader.unread = 6 ∧ reader.Drains := by
  intro sri calls port reader
  have found : port.objects[0]? = some reader.stream := by decide
  refine ⟨found, by decide, (draining_ends_iff Sri.DefaultComparator 100 ?_ found).mpr ?_⟩
  · exact ⟨trivial, trivial, trivial, trivial⟩
  · decide

/-- Of three scalars of complex data the last one is returned again and again. -/
theorem draining_stalls :
    let sri := { Sri.create "a" with mode := 1 }
    let calls : List (Call Nat) := [.pushSRI sri, .queuePacket [1, 2, 3] .notSet false "a"]
    let port := run (InPort.step .buffered) (InPort.fresh Sri.DefaultComparator 100) calls
    let reader : Reader Nat := ⟨{ streamID := "a", sri := sri, born := 0 }, port⟩
    port.objects[0]? = some reader.stream ∧ ¬reader.Drains := by
  intro sri calls port reader
  refine ⟨by decide, fun drains => ?_⟩
  rcases returned : (readPacket false (reader.tryreads 1)).1 with (_ | block) | _
  · exact absurd (congrArg Outcome.value returned) (by decide +kernel)
  · exact absurd (drains.1 1 block returned) (by decide +kernel)
  · exact absurd (congrArg Outcome.value returned) (by decide +kernel)

end Redhawk.Bulkio
