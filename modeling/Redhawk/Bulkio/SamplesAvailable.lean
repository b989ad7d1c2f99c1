import Redhawk.Bulkio.StreamDrain
import Redhawk.Bulkio.StreamMatching

/-!
The number of samples that a buffered stream says can be read, against what a `tryread` returns.
-/

namespace Redhawk.Bulkio

open Library BufferedInputStream List Option

variable {α : Type}

def scanSamples (streamID : String) : Bool → Nat → Nat → List (Packet α) → Nat
  | _, samples, item_size, [] => samples / item_size
  | firstPacket, samples, item_size, packet :: rest =>
      if packet.streamID != streamID then scanSamples streamID firstPacket samples item_size rest
      else if (packet.sriChanged || packet.inputQueueFlushed) && !firstPacket then samples / item_size
      else scanSamples streamID false (samples + packet.buffer.length)
        (if packet.sri.complex then 2 else item_size) rest

def InPort.samplesAvailable (streamID : String) (firstPacket : Bool) (port : InPort α) : Nat :=
  scanSamples streamID firstPacket 0 1 port.packetQueue

def InputStream.samplesAvailable (first : Bool) (reader : Reader α) : Nat :=
  if reader.stream.eosState == .none then
    reader.port.samplesAvailable reader.stream.streamID first
  else 0

def BufferedInputStream.samplesAvailable (reader : Reader α) : Nat :=
  let queued := match reader.stream.queue with
    | front :: _ =>
        if front.sri.complex then reader.stream.samplesQueued / 2 else reader.stream.samplesQueued
    | [] => reader.stream.samplesQueued
  if reader.stream.pending.isNone then
    queued + InputStream.samplesAvailable reader.stream.queue.isEmpty reader
  else queued

section Scan

def countedFrom : Bool → List (Packet α) → List (Packet α)
  | _, [] => []
  | first, packet :: rest =>
      if !canBridge packet && !first then [] else packet :: countedFrom false rest

theorem scanSamples_counted (streamID : String) (first : Bool) (samples item_size : Nat)
    (packets : List (Packet α)) : scanSamples streamID first samples item_size packets =
      (samples + (data (countedFrom first (forStream streamID packets))).length) /
        (if (countedFrom first (forStream streamID packets)).any fun packet => packet.sri.complex then 2
          else item_size) := by
  induction packets generalizing first samples item_size with
  | nil => simp [scanSamples, countedFrom, forStream]
  | cons packet rest ih =>
      by_cases own : packet.streamID = streamID
      · subst own
        rw [forStream_cons_same]
        simp only [scanSamples, bne_self_eq_false, Bool.false_eq_true, if_false, countedFrom,
          canBridge, Bool.not_not]
        split
        · simp
        · rw [ih]
          cases complex : packet.sri.complex with
          | true => simp [complex, Nat.add_assoc]
          | false => simp [complex, Nat.add_assoc]
      · rw [forStream_cons_other own]
        simp only [scanSamples, bne_iff_ne, ne_eq, own, not_false_eq_true, if_true]
        exact ih first samples item_size

theorem data_bridged {first : Bool} {packets : List (Packet α)}
    (ends : ∀ packet ∈ (countedFrom first packets).dropLast, packet.eos = false) :
    data (bridged first packets) = data (countedFrom first packets) := by
  induction packets generalizing first with
  | nil => rfl
  | cons packet rest ih =>
      simp only [bridged, countedFrom] at ends ⊢
      by_cases apart : (!canBridge packet && !first) = true
      · have parted : canBridge packet = false ∧ first = false := by
          simpa using apart
        simp only [parted.1, parted.2, Bool.or_self, Bool.false_eq_true, if_false]
        split <;> rfl
      · rw [if_neg apart] at ends ⊢
        have joins : (first || canBridge packet) = true := by
          cases first <;> simp_all
        cases behind : countedFrom false rest with
        | nil =>
            have none : data (bridged false rest) = [] := by
              rw [ih (by rw [behind]; simp), behind]
              rfl
            split
            · rename_i final
              have empty : packet.buffer = [] := (by simpa using final : _ ∧ _).2
              simp [empty]
            · split
              · rfl
              · simp [none]
        | cons second others =>
            rw [behind, dropLast_cons_cons, forall_mem_cons] at ends
            rw [ends.1, if_neg (by simp), if_pos joins, if_neg (by simp), data_cons, data_cons,
              ih (by rw [behind]; exact ends.2), behind]

end Scan

namespace Reader

def coming (reader : Reader α) : List (Packet α) :=
  if closed reader then []
  else bridged reader.stream.queue.isEmpty
    (reader.port.packetQueue.filter (InPort.requested reader.stream.streamID))

def available (reader : Reader α) : Nat :=
  reader.stream.samplesQueued + (data reader.coming).length

structure Gathers (before after : Reader α) : Prop where
  stocked : after.stream.Stocked
  filled : ∀ packet ∈ after.port.packetQueue, packet.Filled
  available : after.available = before.available
  segment : (after.stream.queue ++ after.coming).map Packet.content =
    (before.stream.queue ++ before.coming).map Packet.content

section Gather

theorem Gathers.trans {first second third : Reader α} (before : Gathers first second)
    (after : Gathers second third) : Gathers first third :=
  ⟨after.stocked, after.filled, after.available.trans before.available, after.segment.trans before.segment⟩

variable {reader : Reader α}

theorem gathers_refl (stocked : reader.stream.Stocked)
    (filled : ∀ packet ∈ reader.port.packetQueue, packet.Filled) : Gathers reader reader :=
  ⟨stocked, filled, rfl, rfl⟩

theorem coming_none (nothing : offered reader = none) : reader.coming = [] := by
  simp only [coming]
  split
  · rfl
  · rename_i open'
    rw [offered, if_neg open', ← head?_filter, head?_eq_none_iff] at nothing
    rw [nothing]
    rfl

section

variable (stocked : reader.stream.Stocked) (filled : ∀ packet ∈ reader.port.packetQueue, packet.Filled)

include stocked filled

theorem fetchPacket_gathers :
    let result := fetchPacket false reader
    Gathers reader result.2 ∧
      ((result.1 = .returns false ∧ result.2.coming = [] ∧
          (reader.stream.queue = [] → result.2.stream.queue = [])) ∨
        (result.1 = .returns true ∧ result.2.stream.queue ≠ [] ∧
          result.2.port.packetQueue.length < reader.port.packetQueue.length)) := by
  have shorter := @fetchPacket_length α false reader
  rcases fetchPacket_cases false reader with
    ⟨nothing, same⟩ | ⟨packet, offers, fetched⟩
  · rw [same]
    refine ⟨gathers_refl stocked filled, .inl ⟨?_, coming_none nothing, id⟩⟩
    simp [idle]
  · obtain ⟨free, enabled, unended, running, found⟩ := offered_some.mp offers
    have useful := filled packet (mem_of_find?_eq_some found)
    have stocked' := stocked.handed useful unended free
    have identity := reader.stream.handed_identity packet
    obtain ⟨offset, _, _⟩ := reader.stream.handed_description packet
    obtain ⟨blocking, history, next⟩ := nextPacket_next running found false
    have own : reader.port.packetQueue.filter (InPort.requested reader.stream.streamID) =
        packet :: (reader.port.packetQueue.eraseP (InPort.requested reader.stream.streamID)).filter
          (InPort.requested reader.stream.streamID) := by
      rw [← head?_filter] at found
      rw [filter_eraseP]
      cases listed : reader.port.packetQueue.filter (InPort.requested reader.stream.streamID) with
      | nil => simp [listed] at found
      | cons first rest =>
          have same : first = packet := by simpa [listed] using found
          rw [same, tail_cons]
    obtain ⟨segment, ended, more⟩ := handed_segment free packet
      ((reader.port.packetQueue.eraseP (InPort.requested reader.stream.streamID)).filter
        (InPort.requested reader.stream.streamID))
    rw [fetched, next] at shorter
    rw [fetched, next]
    simp only [BufferedInputStream.identity, Prod.mk.injEq] at identity
    have coming : coming ⟨(BufferedInputStream.handed packet reader.stream).2, { reader.port with
        packetQueue := reader.port.packetQueue.eraseP (InPort.requested reader.stream.streamID)
        blocking := blocking
        history := history }⟩ =
        if (BufferedInputStream.handed packet reader.stream).2.pending.isNone &&
            (BufferedInputStream.handed packet reader.stream).2.eosState == .none then
          BufferedInputStream.bridged (BufferedInputStream.handed packet reader.stream).2.queue.isEmpty
            ((reader.port.packetQueue.eraseP (InPort.requested reader.stream.streamID)).filter
              (InPort.requested reader.stream.streamID))
        else [] := by
      simp only [Reader.coming, BufferedInputStream.closed, identity.1, identity.2.2.1, enabled, running]
      cases (BufferedInputStream.handed packet reader.stream).2.pending <;>
        cases (BufferedInputStream.handed packet reader.stream).2.eosState <;> rfl
    rw [← coming] at segment ended
    have before : reader.coming = BufferedInputStream.bridged reader.stream.queue.isEmpty
        (packet :: (reader.port.packetQueue.eraseP
          (InPort.requested reader.stream.streamID)).filter
            (InPort.requested reader.stream.streamID)) := by
      have clear := closed_false.mpr ⟨free, enabled, unended, running⟩
      rw [Reader.coming, clear, if_neg Bool.false_ne_true, own]
    rw [← before] at segment
    refine ⟨⟨stocked', fun queued member => filled queued (eraseP_sublist.subset member), ?_, segment⟩, ?_⟩
    · have same := congrArg length (data_congr segment)
      simp only [data_append, length_append] at same
      have samples := stocked.samples
      have samples' := stocked'.samples
      simp only [available]
      omega
    · cases queued : (handed packet reader.stream).1 with
      | false =>
          obtain ⟨none, empty⟩ := ended queued
          refine .inl ⟨rfl, none, fun queue => ?_⟩
          rw [queue] at empty
          simpa using empty
      | true =>
          refine .inr ⟨rfl, more queued, shorter ?_⟩
          rw [queued]

theorem fetchLoop_gathers (requested : Nat) {fuel : Nat} (enough : reader.port.packetQueue.length < fuel) :
    ∃ later, fetchLoop requested false fuel reader = (.returns (), later) ∧
      Gathers reader later ∧
      (requested ≤ later.stream.samplesQueued ∨ later.stream.samplesQueued = reader.available) := by
  induction fuel generalizing reader with
  | zero => omega
  | succ fuel ih =>
      simp only [fetchLoop]
      split
      · rename_i queued
        exact ⟨reader, rfl, gathers_refl stocked filled, .inl queued⟩
      · obtain ⟨gathers, ⟨failed, none, _⟩ | ⟨got, _, shorter⟩⟩ := fetchPacket_gathers stocked filled
        · rcases outcome : fetchPacket false reader with ⟨result, later⟩
          rw [outcome] at gathers failed none
          subst failed
          refine ⟨later, rfl, gathers, .inr ?_⟩
          have all := gathers.available
          simp only [available, none, data_nil, length_nil, Nat.add_zero] at all ⊢
          exact all
        · rcases outcome : fetchPacket false reader with ⟨result, later⟩
          rw [outcome] at gathers got shorter
          subst got
          obtain ⟨last, loop, gathers', queued⟩ :=
            ih gathers.stocked gathers.filled (by omega)
          refine ⟨last, loop, gathers.trans gathers', ?_⟩
          rw [gathers.available] at queued
          exact queued

end

end Gather

def counted (reader : Reader α) : List (Packet α) :=
  if reader.stream.pending.isNone && reader.stream.eosState == .none then
    countedFrom reader.stream.queue.isEmpty
      (forStream reader.stream.streamID reader.port.packetQueue)
  else []

section Read

def nextItem (reader : Reader α) : Nat :=
  ((reader.stream.queue ++ reader.coming).head?.map fun packet => packet.sri.itemSize).getD 1

theorem nextItem_pos (reader : Reader α) : 0 < reader.nextItem := by
  simp only [nextItem]
  cases (reader.stream.queue ++ reader.coming).head? with
  | none => exact Nat.one_pos
  | some packet => exact packet.sri.itemSize_pos

variable {reader : Reader α}

theorem nextItem_front {front : Packet α} {rest : List (Packet α)}
    (queue : reader.stream.queue = front :: rest) : reader.nextItem = front.sri.itemSize := by
  simp [nextItem, queue]

theorem Gathers.nextItem {before after : Reader α} (gathers : Gathers before after) :
    after.nextItem = before.nextItem := by
  have first := congrArg head? gathers.segment
  simp only [head?_map] at first
  have same := congrArg (Option.map fun packet : Packet α => packet.sri.itemSize) first
  simp only [Option.map_map, Function.comp_def, Packet.content] at same
  simp only [Reader.nextItem, same]

theorem readData_gives {reader : Reader α} (stocked : reader.stream.Stocked) {front : Packet α}
    {rest : List (Packet α)} (queue : reader.stream.queue = front :: rest) {count consume : Nat}
    (room : count ≤ reader.stream.samplesQueued) (within : consume ≤ reader.stream.samplesQueued) :
    ∃ block, (readData count consume reader).1 = .returns (some block) ∧
      block.sri = front.sri ∧ block.buffer.length = count := by
  have counted : reader.stream.Counted :=
    ⟨stocked.samples, fun first head => Nat.le_of_lt (stocked.offset first head), by simp [queue]⟩
  have ahead := counted.ahead
  rw [readData_queued queue within]
  refine ⟨_, rfl, takeBlock_sri count front rest reader.stream, ?_⟩
  rw [takeBlock_buffer counted queue room, length_take]
  omega

theorem finish_gives (stocked : reader.stream.Stocked) {front : Packet α}
    {rest : List (Packet α)} (queue : reader.stream.queue = front :: rest) {requested all : Nat}
    (positive : 0 < requested) (bound : reader.stream.samplesQueued ≤ all)
    (queued : requested ≤ reader.stream.samplesQueued ∨ reader.stream.samplesQueued = all) :
    let result := (finishRead requested requested false reader).1
    (requested ≤ all → ∃ block, result = .returns (some block) ∧ block.sri = front.sri ∧
      block.buffer.length = requested) ∧
    ∀ block, result = .returns (some block) → block.sri = front.sri ∧ block.buffer.length ≤ all := by
  have queue_pos : 0 < reader.stream.samplesQueued := by
    have front := stocked.front queue
    omega
  simp only [finishRead, Nat.max_self]
  rw [if_neg (by omega)]
  split
  · refine ⟨fun enough => by omega, fun block returned => ?_⟩
    split at returned
    · cases returned
    · rw [if_neg (by omega)] at returned
      obtain ⟨taken, result, sri, size⟩ :=
        @readData_gives _ reader stocked _ _ queue (min requested reader.stream.samplesQueued)
          reader.stream.samplesQueued (Nat.min_le_right _ _) (Nat.le_refl _)
      rw [result] at returned
      cases returned
      exact ⟨sri, by omega⟩
  · obtain ⟨taken, result, sri, size⟩ :=
      @readData_gives _ reader stocked _ _ queue (min requested reader.stream.samplesQueued)
        requested (Nat.min_le_right _ _) (by omega)
    rw [result]
    refine ⟨fun _ => ⟨taken, rfl, sri, by omega⟩, fun block returned => ?_⟩
    cases returned
    exact ⟨sri, by omega⟩

theorem tryread_gives (stocked : reader.stream.Stocked)
    (filled : ∀ packet ∈ reader.port.packetQueue, packet.Filled) {count : Nat} (positive : 0 < count) :
    let result := (read count count false reader).1
    (count * reader.nextItem ≤ reader.available → ∃ block, result = .returns (some block) ∧
      block.sri.itemSize = reader.nextItem ∧ block.buffer.length = count * reader.nextItem) ∧
    ∀ block, result = .returns (some block) →
      block.sri.itemSize = reader.nextItem ∧ block.buffer.length ≤ reader.available := by
  -- with the SRI known, the read gathers what it asks for and takes its block
  have known : ∀ {first : Reader α} {front : Packet α} {rest : List (Packet α)},
      Gathers reader first → first.stream.queue = front :: rest →
      nextSRI false reader = (.returns (some front.sri), first) →
      let result := (read count count false reader).1
      (count * reader.nextItem ≤ reader.available → ∃ block, result = .returns (some block) ∧
        block.sri.itemSize = reader.nextItem ∧ block.buffer.length = count * reader.nextItem) ∧
      ∀ block, result = .returns (some block) →
        block.sri.itemSize = reader.nextItem ∧ block.buffer.length ≤ reader.available := by
    intro first front rest gathers queue sri
    have item : (if front.sri.complex then 2 else 1) = reader.nextItem := by
      rw [← gathers.nextItem, nextItem_front queue]
      rfl
    obtain ⟨later, fetched, gathers', queued⟩ := fetchLoop_gathers gathers.stocked gathers.filled
      (count * reader.nextItem) (Nat.lt_succ_self _)
    rw [gathers.available] at queued
    have all := gathers.trans gathers'
    obtain ⟨front', rest', queue'⟩ : ∃ front' rest', later.stream.queue = front' :: rest' := by
      apply exists_cons_of_ne_nil
      intro empty
      have none := (gathers'.stocked.empty empty).1
      have some := (gathers.stocked.front queue).1
      have samples := (gathers.stocked.front queue).2
      have asks := Nat.mul_pos positive reader.nextItem_pos
      have bound : first.stream.samplesQueued ≤ first.available := Nat.le_add_right _ _
      rw [gathers.available] at bound
      omega
    have given := finish_gives gathers'.stocked queue' (Nat.mul_pos positive reader.nextItem_pos)
      (by rw [← all.available]; exact Nat.le_add_right _ _) queued
    have item' : front'.sri.itemSize = reader.nextItem := by
      rw [← all.nextItem, nextItem_front queue']
    simp only [BufferedInputStream.read, sri, item, Nat.max_self, BufferedInputStream.fetchUpTo, fetched]
    refine ⟨fun enough => ?_, fun block returned => ?_⟩
    · obtain ⟨block, returned, sri, size⟩ := given.1 enough
      exact ⟨block, returned, by rw [sri, item'], size⟩
    · obtain ⟨sri, size⟩ := given.2 block returned
      exact ⟨by rw [sri, item'], size⟩
  cases queue : reader.stream.queue with
  | cons front rest =>
      refine known (gathers_refl stocked filled) queue ?_
      simp only [BufferedInputStream.nextSRI, queue]
  | nil =>
      obtain ⟨gathers, ⟨failed, none, empty⟩ | ⟨got, more, _⟩⟩ := fetchPacket_gathers stocked filled
      · rcases outcome : BufferedInputStream.fetchPacket false reader with ⟨result, later⟩
        rw [outcome] at gathers failed none empty
        subst failed
        have nothing : later.stream.samplesQueued = 0 := (gathers.stocked.empty (empty queue)).1
        have all := gathers.available
        have item := reader.nextItem_pos
        have asks := Nat.mul_pos positive item
        simp only [available, none, nothing, data_nil, length_nil] at all
        simp only [BufferedInputStream.read, BufferedInputStream.nextSRI, queue, outcome]
        refine ⟨fun enough => ?_, by rintro _ ⟨⟩⟩
        simp only [available] at enough
        omega
      · rcases outcome : BufferedInputStream.fetchPacket false reader with ⟨result, later⟩
        rw [outcome] at gathers got more
        subst got
        obtain ⟨front, rest, found⟩ := exists_cons_of_ne_nil more
        refine known gathers found ?_
        simp only [nextSRI, queue, outcome]
        rw [found]
        rfl

end Read

/-- What `samplesAvailable` counts can be read: the port lets the stream have the packets it counts,
none of them follows an end, and their data is of one mode and comes in whole samples. -/
structure Promised (reader : Reader α) : Prop where
  fetchable : reader.counted ≠ [] → closed reader = false
  own : ∀ packet ∈ reader.port.packetQueue,
    InPort.requested reader.stream.streamID packet = true → packet.streamID = reader.stream.streamID
  ends : ∀ packet ∈ reader.counted.dropLast, packet.eos = false
  mode : ∀ first ∈ (reader.stream.queue ++ reader.counted).head?, ∀ packet ∈ reader.counted,
    packet.sri.complex = first.sri.complex
  even : ∀ first ∈ (reader.stream.queue ++ reader.counted).head?, first.sri.complex = true →
    reader.stream.samplesQueued % 2 = 0 ∨ (data reader.counted).length % 2 = 0

section Promise

variable {reader : Reader α}

theorem samplesAvailable_counted (reader : Reader α) :
    samplesAvailable reader =
      reader.stream.samplesQueued /
          ((reader.stream.queue.head?.map fun packet => packet.sri.itemSize).getD 1) +
        (data reader.counted).length /
          (if reader.counted.any fun packet => packet.sri.complex then 2 else 1) := by
  have queued : (match reader.stream.queue with
      | front :: _ =>
          if front.sri.complex then reader.stream.samplesQueued / 2 else reader.stream.samplesQueued
      | [] => reader.stream.samplesQueued) = reader.stream.samplesQueued /
        ((reader.stream.queue.head?.map fun packet => packet.sri.itemSize).getD 1) := by
    cases reader.stream.queue with
    | nil => simp
    | cons front rest =>
        simp only [head?_cons, map_some, getD_some, StreamSRI.itemSize]
        split <;> simp
  simp only [samplesAvailable, queued, InputStream.samplesAvailable,
    InPort.samplesAvailable, scanSamples_counted, counted, Nat.zero_add]
  by_cases free : reader.stream.pending.isNone = true
  · by_cases unended : reader.stream.eosState = .none
    · simp [free, unended]
    · simp [free, unended]
  · simp [free]

theorem Promised.coming (promised : reader.Promised) : (reader.coming = [] ∧ reader.counted = []) ∨
    (reader.coming = bridged reader.stream.queue.isEmpty
        (forStream reader.stream.streamID reader.port.packetQueue) ∧
      reader.counted = countedFrom reader.stream.queue.isEmpty
        (forStream reader.stream.streamID reader.port.packetQueue)) := by
  have own : reader.port.packetQueue.filter (InPort.requested reader.stream.streamID) =
      forStream reader.stream.streamID reader.port.packetQueue := by
    refine filter_congr fun packet member => ?_
    by_cases same : packet.streamID = reader.stream.streamID
    · simp [InPort.requested, same]
    · have other : InPort.requested reader.stream.streamID packet = false := by
        rw [← Bool.not_eq_true]
        exact fun asked => same (promised.own packet member asked)
      rw [other]
      simp [same]
  cases shut : closed reader with
  | true =>
      left
      refine ⟨by simp [Reader.coming, shut], ?_⟩
      by_contra some
      rw [promised.fetchable some] at shut
      cases shut
  | false =>
      right
      obtain ⟨free, _, unended, _⟩ := closed_false.mp shut
      refine ⟨?_, by simp [counted, free, unended]⟩
      rw [Reader.coming, shut, if_neg Bool.false_ne_true, own]

theorem Promised.data (promised : reader.Promised) : data reader.coming = Bulkio.data reader.counted := by
  have ends := promised.ends
  rcases promised.coming with ⟨none, nothing⟩ | ⟨bridged, counted⟩
  · rw [none, nothing]
  · rw [counted] at ends
    rw [bridged, counted, data_bridged ends]

theorem bridged_head {first : Bool} {packets : List (Packet α)} (some : bridged first packets ≠ []) :
    (bridged first packets).head? = (countedFrom first packets).head? := by
  cases packets with
  | nil => rfl
  | cons packet rest =>
      simp only [bridged] at some ⊢
      split at some
      · exact absurd rfl some
      · split at some
        · have counts : ¬(!canBridge packet && !first) = true := by
            cases first <;> simp_all
          simp [countedFrom, *]
        · exact absurd rfl some

section

variable (promised : reader.Promised) {first : Packet α}
  (head : (reader.stream.queue ++ reader.counted).head? = some first)

include promised head

theorem Promised.nextItem (some : reader.stream.queue = [] → Bulkio.data reader.counted ≠ []) :
    reader.nextItem = first.sri.itemSize := by
  cases queue : reader.stream.queue with
  | cons front rest =>
      rw [queue] at head
      cases head
      exact nextItem_front queue
  | nil =>
      rw [queue, nil_append] at head
      have same : reader.coming.head? = reader.counted.head? := by
        rcases promised.coming with ⟨_, nothing⟩ | ⟨bridged, counted⟩
        · simp [nothing] at head
        · rw [bridged, counted]
          refine bridged_head fun none => some queue ?_
          rw [← promised.data, bridged, none]
          rfl
      simp [Reader.nextItem, queue, same, head]

theorem Promised.counts :
    (Bulkio.data reader.counted).length /
      (if reader.counted.any fun packet => packet.sri.complex then 2 else 1) =
        (Bulkio.data reader.counted).length / first.sri.itemSize := by
  have mode := promised.mode first head
  cases counted : reader.counted with
  | nil => simp
  | cons packet rest =>
      rw [counted] at mode
      have same : (packet :: rest).any (fun packet => packet.sri.complex) = first.sri.complex := by
        rw [Bool.eq_iff_iff, List.any_eq_true]
        refine ⟨fun ⟨other, member, complex⟩ => ?_, fun complex => ⟨packet, by simp, ?_⟩⟩
        · rw [← mode other member]
          exact complex
        · rw [mode packet (by simp)]
          exact complex
      rw [same, StreamSRI.itemSize]

end

theorem Promised.count (promised : reader.Promised) (stocked : reader.stream.Stocked)
    (some : 0 < samplesAvailable reader) :
    samplesAvailable reader * reader.nextItem ≤ reader.available ∧
      reader.available < (samplesAvailable reader + 1) * reader.nextItem := by
  have scanned := samplesAvailable_counted reader
  have available : reader.available = reader.stream.samplesQueued + (Bulkio.data reader.counted).length := by
    rw [Reader.available, promised.data]
  have more : reader.stream.queue = [] → Bulkio.data reader.counted ≠ [] := by
    intro queue none
    rw [none, (stocked.empty queue).1] at scanned
    simp at scanned
    omega
  cases head : (reader.stream.queue ++ reader.counted).head? with
  | none =>
      obtain ⟨queue, none⟩ := append_eq_nil_iff.mp (head?_eq_none_iff.mp head)
      exact absurd (by rw [none]; rfl) (more queue)
  | some first =>
      have item := promised.nextItem head more
      have even := promised.even first head
      have queued : reader.stream.samplesQueued /
          ((reader.stream.queue.head?.map fun packet => packet.sri.itemSize).getD 1) =
            reader.stream.samplesQueued / first.sri.itemSize := by
        cases queue : reader.stream.queue with
        | nil => simp [(stocked.empty queue).1]
        | cons front rest =>
            rw [queue] at head
            cases head
            rfl
      have counts := promised.counts head
      rw [queued, counts] at scanned
      rw [scanned, available, item]
      simp only [StreamSRI.itemSize]
      split
      · rename_i complex
        have whole := even complex
        omega
      · simp

end Promise

def KeepsPromise (reader : Reader α) : Prop :=
  let n := samplesAvailable reader
  0 < n →
    (∃ block, (read n n false reader).1 = .returns (some block) ∧
      block.buffer.length = n * block.sri.itemSize) ∧
    ∀ m, n < m → ∀ block, (read m m false reader).1 = .returns (some block) →
      block.buffer.length / block.sri.itemSize ≤ n

theorem Promised.keeps {reader : Reader α} (promised : reader.Promised)
    (stocked : reader.stream.Stocked) (filled : ∀ packet ∈ reader.port.packetQueue, packet.Filled) :
    reader.KeepsPromise := by
  intro positive
  obtain ⟨enough, short⟩ := promised.count stocked positive
  refine ⟨?_, fun m more block returned => ?_⟩
  · obtain ⟨block, returned, item, size⟩ := (tryread_gives stocked filled positive).1 enough
    exact ⟨block, returned, by rw [size, item]⟩
  · obtain ⟨item, size⟩ := (tryread_gives stocked filled (Nat.lt_of_le_of_lt (Nat.zero_le _) more)).2
      block returned
    rw [item]
    have bound := Nat.lt_of_le_of_lt size short
    exact Nat.le_of_lt_succ ((Nat.div_lt_iff_lt_mul reader.nextItem_pos).mpr bound)

theorem KeepsPromise.some {reader : Reader α} (keeps : reader.KeepsPromise) {n : Nat}
    (available : samplesAvailable reader = n) (positive : 0 < n) :
    (read n n false reader).1 ≠ .returns none := by
  subst available
  obtain ⟨block, returned, _⟩ := (keeps positive).1
  rw [returned]
  simp

theorem KeepsPromise.most {reader : Reader α} (keeps : reader.KeepsPromise) {n m : Nat}
    (available : samplesAvailable reader = n) (positive : 0 < n) (more : n < m) :
    ∀ block ∈ (read m m false reader).1.value,
      block.buffer.length / block.sri.itemSize ≤ n := by
  subst available
  intro block member
  rcases returned : (read m m false reader).1 with (_ | other) | _ <;>
    rw [returned] at member <;> cases member
  exact (keeps positive).2 m more block returned

end Reader

/-- The number of samples that are available is kept in every state that is reached. -/
theorem samplesAvailable_kept (sriCmp : StreamSRI → StreamSRI → Bool) (maxQueue : Nat)
    (calls : List (Call α)) {handle : Nat} {stream : BufferedInputStream α}
    (found : (run (InPort.step .buffered) (InPort.fresh sriCmp maxQueue) calls).objects[handle]? = some stream) :
    let reader : Reader α := ⟨stream, run (InPort.step .buffered) (InPort.fresh sriCmp maxQueue) calls⟩
    reader.Promised → reader.KeepsPromise := by
  intro reader promised
  have free : Along (InPort.step .buffered) (InPort.DisablesAllowed fun _ => True)
      (InPort.fresh sriCmp maxQueue) calls := by
    refine (along_true (InPort.step .buffered) _ calls).mono fun call port _ => ?_
    simp only [InPort.DisablesAllowed]
    split
    · exact fun _ _ => trivial
    · trivial
  obtain ⟨all, filled⟩ := InPort.run_streams stocked_lasting sriCmp maxQueue free
  exact promised.keeps (all stream (mem_of_getElem? found)) filled.queued

theorem samplesAvailable_kept_complex :
    let sri := { Sri.create "a" with mode := 1 }
    let calls : List (Call Nat) := [.pushSRI sri, .queuePacket [1, 2] .notSet false "a",
      .stream 0 (.tryreadConsume 1 0), .queuePacket [3, 4, 5] .notSet true "a"]
    let port := run (InPort.step .buffered) (InPort.fresh Sri.DefaultComparator 100) calls
    ∃ stream, port.objects[0]? = some stream ∧
      samplesAvailable ⟨stream, port⟩ = 2 ∧ Reader.KeepsPromise ⟨stream, port⟩ := by
  intro sri calls port
  let stream := port.objects[0]?.get (by decide +kernel)
  have found : port.objects[0]? = some stream := (some_get _).symm
  have promised : Reader.Promised ⟨stream, port⟩ :=
    ⟨fun _ => by decide +kernel, by decide +kernel, by decide +kernel, by decide +kernel,
      by decide +kernel⟩
  exact ⟨stream, found, by decide +kernel,
    samplesAvailable_kept Sri.DefaultComparator 100 calls found promised⟩

/-- A stopped port lets nothing be read, a disabled stream reads nothing, a stream without an ID reads the
packets of any stream, and odd counts of complex scalars make one more sample together. -/
theorem samplesAvailable_estimates :
    let reached (calls : List (Call Nat)) :=
      run (InPort.step .buffered) (InPort.fresh Sri.DefaultComparator 100) calls
    let breaks (calls : List (Call Nat)) := ∃ stream, (reached calls).objects[0]? = some stream ∧
      ¬Reader.KeepsPromise ⟨stream, reached calls⟩
    breaks [.pushSRI (Sri.create "a"), .queuePacket [1, 2] .notSet false "a", .block] ∧
    breaks [.pushSRI (Sri.create "a"), .queuePacket [1] .notSet true "a", .pushSRI (Sri.create "a"),
      .queuePacket [2, 3] .notSet false "a", .stream 0 .disable] ∧
    breaks [.pushSRI (Sri.create ""), .pushSRI (Sri.create "b"), .queuePacket [1] .notSet false "b",
      .nextPacket false "b", .queuePacket [2] .notSet false "", .queuePacket [3] .notSet false "b"] ∧
    breaks [.pushSRI { Sri.create "a" with mode := 1 }, .queuePacket [1, 2, 3] .notSet false "a",
      .stream 0 (.tryreadConsume 1 0), .queuePacket [4] .notSet false "a"] := by
  intro reached breaks
  refine ⟨⟨(reached _).objects[0]?.get (by decide +kernel), (some_get _).symm, ?_⟩,
    ⟨(reached _).objects[0]?.get (by decide +kernel), (some_get _).symm, ?_⟩,
    ⟨(reached _).objects[0]?.get (by decide +kernel), (some_get _).symm, ?_⟩,
    ⟨(reached _).objects[0]?.get (by decide +kernel), (some_get _).symm, ?_⟩⟩
  · exact fun keeps => @Reader.KeepsPromise.some _ _ keeps 2 (by decide +kernel) (by decide)
      (by decide +kernel)
  · exact fun keeps => @Reader.KeepsPromise.some _ _ keeps 2 (by decide +kernel) (by decide)
      (by decide +kernel)
  · exact fun keeps => absurd (@Reader.KeepsPromise.most _ _ keeps 1 2 (by decide +kernel) (by decide)
      (by decide)) (by decide +kernel)
  · exact fun keeps => absurd (@Reader.KeepsPromise.most _ _ keeps 1 2 (by decide +kernel) (by decide)
      (by decide)) (by decide +kernel)

end Redhawk.Bulkio
