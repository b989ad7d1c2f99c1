import Redhawk.Bulkio.FlushStructure
import Redhawk.Bulkio.StreamViews
import Redhawk.Library.Lists

/-!
Reports of queue flushes. A packet is flagged exactly if a flush dropped data of its stream since
the packet before it. The flag of a packet that a flush merges into an empty end-of-stream is lost,
since its data is not dropped.
-/

namespace Redhawk.Bulkio

open Library InPort BufferedInputStream List

variable {α : Type}

section Tracked

/-- The lost packet was pushed after the packets `before` the target, and not after the target. -/
def LostBetween (before : List (Packet α)) (target lost : Packet α) : Prop :=
  lost.serial ≤ target.serial ∧ ∀ earlier ∈ before, earlier.serial < lost.serial

def SerialOrder (packets : List (Packet α)) : Prop :=
  packets.Pairwise fun earlier later => earlier.serial < later.serial

structure FlushTracked (dropped packets : List (Packet α)) : Prop where
  sorted : SerialOrder packets
  flagged : ∀ before target after, packets = before ++ target :: after →
    (target.inputQueueFlushed = true ↔ ∃ lost ∈ dropped, LostBetween before target lost)
  covered : ∀ lost ∈ dropped, ∃ packet ∈ packets, lost.serial ≤ packet.serial
  data : ∀ lost ∈ dropped, hasData lost = true

variable {packet : Packet α}

theorem serialOrder_split {before after : List (Packet α)} (sorted : SerialOrder (before ++ packet :: after)) :
    (∀ earlier ∈ before, earlier.serial < packet.serial) ∧ ∀ later ∈ after, packet.serial < later.serial := by
  rw [SerialOrder, pairwise_append, pairwise_cons] at sorted
  exact ⟨fun earlier member => sorted.2.2 earlier member packet (by simp), sorted.2.1.1⟩

variable {packets : List (Packet α)}

theorem serialOrder_of_map {packets' : List (Packet α)} (sorted : SerialOrder packets)
    (kept : (packets'.map Packet.serial).Sublist (packets.map Packet.serial)) :
    SerialOrder packets' := by
  rw [SerialOrder, ← pairwise_map (f := Packet.serial) (R := (· < ·))] at sorted ⊢
  exact sorted.sublist kept

variable {dropped : List (Packet α)}

theorem FlushTracked.congr {dropped' : List (Packet α)}
    (tracked : FlushTracked dropped packets) (same : ∀ lost, lost ∈ dropped' ↔ lost ∈ dropped) :
    FlushTracked dropped' packets := by
  refine ⟨tracked.sorted, ?_, ?_, ?_⟩
  · intro before target after split
    simp only [tracked.flagged before target after split, same]
  · intro lost member
    exact tracked.covered lost ((same lost).mp member)
  · intro lost member
    exact tracked.data lost ((same lost).mp member)

theorem absorb_flushed (packet active : Packet α) : (absorb packet active).inputQueueFlushed =
    (active.inputQueueFlushed || hasData (leftOver packet active)) := rfl

theorem leftOver_serial (packet active : Packet α) : (leftOver packet active).serial = packet.serial := by
  simp only [leftOver]
  split <;> rfl

theorem leftOver_hasData {active : Packet α} (data : hasData packet = true) :
    hasData (leftOver packet active) = !swapsBuffer packet active := by
  simp only [leftOver]
  split
  · rename_i swaps
    have empty : active.buffer = [] := by
      simp only [swapsBuffer, Bool.and_eq_true, List.isEmpty_iff] at swaps
      exact swaps.1
    simp [hasData, empty, swaps]
  · rename_i keeps
    simp [data, keeps]

theorem lostBetween_append {new before : List (Packet α)} {target : Packet α}
    (outside : ∀ lost ∈ new, ¬LostBetween before target lost) :
    (∃ lost ∈ dropped ++ new, LostBetween before target lost) ↔
      ∃ lost ∈ dropped, LostBetween before target lost := by
  constructor
  · rintro ⟨lost, member, between⟩
    rcases mem_append.mp member with old | fresh
    · exact ⟨lost, old, between⟩
    · exact absurd between (outside lost fresh)
  · rintro ⟨lost, member, between⟩
    exact ⟨lost, mem_append_left _ member, between⟩

theorem FlushTracked.absorb {front rest : List (Packet α)} {active : Packet α}
    (tracked : FlushTracked dropped (front ++ packet :: active :: rest))
    (data : hasData packet = true)
    (unflagged : swapsBuffer packet active = true → packet.inputQueueFlushed = false) :
    FlushTracked (dropped ++ [leftOver packet active].filter hasData)
      (front ++ Bulkio.absorb packet active :: rest) := by
  have sorted := tracked.sorted
  obtain ⟨_, packetLater⟩ := serialOrder_split sorted
  have packetActive : packet.serial < active.serial := packetLater active (by simp)
  have lostHere : ∀ lost ∈ [leftOver packet active].filter hasData, lost.serial = packet.serial := by
    intro lost member
    rw [mem_singleton.mp (mem_of_mem_filter member), leftOver_serial]
  refine ⟨serialOrder_of_map sorted (by simp), ?_, ?_, ?_⟩
  · intro before target after split
    rcases split_cases split with ⟨between, rfl, rfl⟩ | ⟨rfl, rfl, rfl⟩ | ⟨between, rfl, rfl⟩
    · have around : SerialOrder (before ++ target :: (between ++ packet :: active :: rest)) := by
        simpa using sorted
      obtain ⟨_, targetLater⟩ := serialOrder_split around
      rw [tracked.flagged before target (between ++ packet :: active :: rest) (by simp), lostBetween_append]
      intro lost member inside
      have order := targetLater packet (by simp)
      have bound := inside.1
      rw [lostHere lost member] at bound
      omega
    · have first := tracked.flagged before packet (active :: after) rfl
      have second := tracked.flagged (before ++ [packet]) active after (by simp)
      rw [absorb_flushed, leftOver_hasData data]
      cases swaps : swapsBuffer packet active with
      | false =>
          have reported : LostBetween before (Bulkio.absorb packet active) (leftOver packet active) :=
            ⟨by rw [leftOver_serial, absorb_serial]; omega, by
              rw [leftOver_serial]
              exact (serialOrder_split sorted).1⟩
          have logged : hasData (leftOver packet active) = true := by
            rw [leftOver_hasData data, swaps]
            rfl
          simp only [Bool.not_false, Bool.or_true, true_iff]
          exact ⟨_, by simp [logged], reported⟩
      | true =>
          have silent : hasData (leftOver packet active) = false := by
            rw [leftOver_hasData data, swaps]
            rfl
          rw [filter_cons_of_neg (by simp [silent]), filter_nil, append_nil,
            Bool.not_true, Bool.or_false, second]
          refine exists_congr fun lost => and_congr_right fun member => ?_
          have notBefore : ¬LostBetween before packet lost := fun inside => by
            have flag := first.mpr ⟨lost, member, inside⟩
            simp [unflagged swaps] at flag
          constructor
          · exact fun inside => ⟨by simpa using inside.1, fun earlier here =>
              inside.2 earlier (by simp [here])⟩
          · intro inside
            refine ⟨by simpa using inside.1, fun earlier here => ?_⟩
            rcases mem_append.mp here with old | last
            · exact inside.2 earlier old
            · rw [mem_singleton.mp last]
              by_contra above
              exact notBefore ⟨by omega, inside.2⟩
    · rw [tracked.flagged (front ++ packet :: active :: between) target after (by simp), lostBetween_append]
      · refine exists_congr fun lost => and_congr_right fun _ => and_congr_right fun _ => ?_
        constructor
        · intro inside earlier member
          rcases mem_append.mp member with old | later
          · exact inside earlier (by simp [old])
          · rcases mem_cons.mp later with rfl | there
            · simpa using inside active (by simp)
            · exact inside earlier (by simp [there])
        · intro inside earlier member
          have last := inside (Bulkio.absorb packet active) (by simp)
          rw [absorb_serial] at last
          simp only [mem_append, mem_cons] at member
          rcases member with old | rfl | rfl | there
          · exact inside earlier (by simp [old])
          · omega
          · exact last
          · exact inside earlier (by simp [there])
      · intro lost member inside
        have order := inside.2 (Bulkio.absorb packet active) (by simp)
        rw [lostHere lost member, absorb_serial] at order
        omega
  · intro lost member
    have merged : lost.serial ≤ active.serial →
        ∃ kept ∈ front ++ Bulkio.absorb packet active :: rest, lost.serial ≤ kept.serial :=
      fun bound => ⟨Bulkio.absorb packet active, by simp, by simpa using bound⟩
    rcases mem_append.mp member with old | fresh
    · obtain ⟨kept, here, bound⟩ := tracked.covered lost old
      simp only [mem_append, mem_cons] at here
      rcases here with early | rfl | rfl | late
      · exact ⟨kept, by simp [early], bound⟩
      · exact merged (by omega)
      · exact merged bound
      · exact ⟨kept, by simp [late], bound⟩
    · exact merged (by rw [lostHere lost fresh]; omega)
  · intro lost member
    rcases mem_append.mp member with old | fresh
    · exact tracked.data lost old
    · exact (mem_filter.mp fresh).2

theorem FlushTracked.append (tracked : FlushTracked dropped packets)
    (latest : ∀ earlier ∈ packets, earlier.serial < packet.serial)
    (unflagged : packet.inputQueueFlushed = false) :
    FlushTracked dropped (packets ++ [packet]) := by
  refine ⟨?_, ?_, ?_, tracked.data⟩
  · rw [SerialOrder, pairwise_append]
    exact ⟨tracked.sorted, pairwise_singleton _ _, fun earlier member last here => by
      rw [mem_singleton.mp here]
      exact latest earlier member⟩
  · intro before target after split
    rcases split_cases split with ⟨between, rfl, rfl⟩ | ⟨rfl, rfl, rfl⟩ | ⟨between, _, impossible⟩
    · exact tracked.flagged before target between rfl
    · simp only [unflagged, Bool.false_eq_true, false_iff]
      rintro ⟨lost, member, inside⟩
      obtain ⟨kept, here, bound⟩ := tracked.covered lost member
      have after := inside.2 kept here
      omega
    · simp at impossible
  · intro lost member
    obtain ⟨kept, here, bound⟩ := tracked.covered lost member
    exact ⟨kept, mem_append_left _ here, bound⟩

theorem FlushTracked.replaceLast {front : List (Packet α)} {saved : Packet α}
    (packet : Packet α) (tracked : FlushTracked dropped (front ++ [saved])) (data : hasData saved = true)
    (latest : saved.serial < packet.serial) (flagged : packet.inputQueueFlushed = true) :
    FlushTracked (dropped ++ [saved]) (front ++ [packet]) := by
  have early := (serialOrder_split tracked.sorted).1
  refine ⟨?_, ?_, ?_, ?_⟩
  · rw [SerialOrder, pairwise_append]
    refine ⟨tracked.sorted.sublist (sublist_append_left _ _), pairwise_singleton _ _,
      fun earlier member last here => ?_⟩
    have order := early earlier member
    rw [mem_singleton.mp here]
    omega
  · intro before target after split
    rcases split_cases split with ⟨between, rfl, rfl⟩ | ⟨rfl, rfl, rfl⟩ | ⟨between, _, impossible⟩
    · rw [tracked.flagged before target (between ++ [saved]) (by simp), lostBetween_append]
      intro lost member inside
      have order := early target (by simp)
      have bound := inside.1
      rw [mem_singleton.mp member] at bound
      omega
    · simp only [flagged, true_iff]
      exact ⟨saved, by simp, by omega, early⟩
    · simp at impossible
  · intro lost member
    refine ⟨packet, by simp, ?_⟩
    rcases mem_append.mp member with old | fresh
    · obtain ⟨kept, here, bound⟩ := tracked.covered lost old
      rcases mem_append.mp here with before | last
      · have order := early kept before
        omega
      · rw [mem_singleton.mp last] at bound
        omega
    · rw [mem_singleton.mp fresh]
      omega
  · exact forall_mem_concat.mpr ⟨tracked.data, data⟩

end Tracked

section Collapse

def HidesFlush (packets : List (Packet α)) : Prop :=
  ∃ front flagged ending back, packets = front ++ flagged :: ending :: back ∧
    flagged.inputQueueFlushed = true ∧ flagged.eos = false ∧ ending.eos = true ∧ ending.buffer = []

def UsefulPackets (packets : List (Packet α)) : Prop :=
  ∀ packet ∈ packets, packet.buffer ≠ [] ∨ packet.eos = true

variable {packets : List (Packet α)}

theorem collapse_useful (useful : UsefulPackets packets) :
    UsefulPackets (collapse packets).lastPackets := by
  induction packets with
  | nil => exact useful
  | cons packet rest ih =>
      obtain ⟨here, later⟩ := forall_mem_cons.mp useful
      have merged := ih later
      rw [collapse_cons]
      cases ends : packet.eos with
      | true =>
          rw [mergeFront_eos ends]
          exact forall_mem_cons.mpr ⟨here, merged⟩
      | false =>
          rcases kept : (collapse rest).lastPackets with _ | ⟨active, others⟩
          · rw [mergeFront_first packet kept]
            exact forall_mem_cons.mpr ⟨here, by simp⟩
          · rw [kept] at merged
            rw [mergeFront_absorb ends kept]
            obtain ⟨data, others⟩ := forall_mem_cons.mp merged
            refine forall_mem_cons.mpr ⟨?_, others⟩
            rw [absorb_eos]
            rcases data with data | ended
            · have keeps : swapsBuffer packet active = false := by simp [swapsBuffer, data]
              exact .inl (by simpa [Bulkio.absorb, keeps] using data)
            · exact .inr ended

theorem collapse_empty {others : List (Packet α)} {active : Packet α}
    (useful : UsefulPackets packets) (kept : (collapse packets).lastPackets = active :: others)
    (empty : active.buffer = []) :
    ∃ ending back, packets = ending :: back ∧ ending.eos = true ∧ ending.buffer = [] := by
  rcases packets with _ | ⟨packet, rest⟩
  · simp at kept
  · obtain ⟨here, later⟩ := forall_mem_cons.mp useful
    rw [collapse_cons] at kept
    cases ends : packet.eos with
    | true =>
        rw [mergeFront_eos ends] at kept
        obtain ⟨rfl, _⟩ := cons.inj kept
        exact ⟨packet, rest, rfl, ends, empty⟩
    | false =>
        have data : packet.buffer ≠ [] := by simpa [ends] using here
        rcases merged : (collapse rest).lastPackets with _ | ⟨active', others'⟩
        · rw [mergeFront_first packet merged] at kept
          obtain ⟨rfl, _⟩ := cons.inj kept
          exact absurd empty data
        · rw [mergeFront_absorb ends merged] at kept
          obtain ⟨rfl, _⟩ := cons.inj kept
          cases swaps : swapsBuffer packet active' with
          | true => simp [Bulkio.absorb, swaps, data] at empty
          | false =>
              have empty' : active'.buffer = [] := by simpa [Bulkio.absorb, swaps] using empty
              simp [swapsBuffer, empty', data] at swaps

theorem FlushTracked.collapse {dropped front : List (Packet α)}
    (tracked : FlushTracked dropped (front ++ packets)) (useful : UsefulPackets packets)
    (visible : ¬HidesFlush packets) :
    FlushTracked (dropped ++ (collapse packets).deleted.filter hasData)
      (front ++ (collapse packets).lastPackets) := by
  induction packets generalizing front with
  | nil => simpa using tracked
  | cons packet rest ih =>
      obtain ⟨here, later⟩ := forall_mem_cons.mp useful
      have visibleRest : ¬HidesFlush rest := by
        rintro ⟨before, flagged, ending, back, rfl, hides⟩
        exact visible ⟨packet :: before, flagged, ending, back, rfl, hides⟩
      have start : FlushTracked dropped ((front ++ [packet]) ++ rest) := by simpa using tracked
      have merged := ih start later visibleRest
      rw [collapse_cons]
      cases ends : packet.eos with
      | true =>
          rw [mergeFront_eos ends, mergeFront_eos_deleted ends]
          simpa using merged
      | false =>
          rcases kept : (Bulkio.collapse rest).lastPackets with _ | ⟨active, others⟩
          · rw [mergeFront_first packet kept, mergeFront, kept]
            simpa [kept] using merged
          · have data : hasData packet = true := by
              simpa [hasData, ends] using here
            rw [kept, append_assoc, singleton_append] at merged
            rw [mergeFront_absorb ends kept, mergeFront_absorb_deleted ends kept]
            refine (merged.absorb data fun swaps => ?_).congr fun lost => ?_
            · simp only [swapsBuffer, Bool.and_eq_true, List.isEmpty_iff] at swaps
              obtain ⟨ending, back, rfl, ended, empty⟩ := collapse_empty later kept swaps.1
              by_contra flagged
              rw [Bool.not_eq_false] at flagged
              exact visible ⟨[], packet, ending, back, rfl, flagged, ends, ended, empty⟩
            · simp only [mem_append, mem_filter, mem_cons, not_mem_nil]
              tauto

end Collapse

section View

def StreamView.packets (view : StreamView α) : List (Packet α) := view.delivered ++ view.queue

structure FlushReported (view : StreamView α) : Prop where
  idle : view.waiting = []
  tracked : FlushTracked view.dropped view.packets
  bounded : ∀ packet ∈ view.packets, packet.serial < view.clock
  useful : UsefulPackets view.queue
  endings : ∀ time, time ∈ view.endings ↔ ∃ packet ∈ view.packets, packet.eos = true ∧ packet.serial = time

variable {view : StreamView α}

theorem FlushReported.later (reported : FlushReported view)
    (entry : Option (StreamSRI × Bool)) {clock : Nat} (later : view.clock ≤ clock) :
    FlushReported { view with entry := entry, clock := clock } where
  idle := reported.idle
  tracked := reported.tracked
  bounded packet member := Nat.lt_of_lt_of_le (reported.bounded packet member) later
  useful := reported.useful
  endings := reported.endings

theorem FlushReported.handOut (reported : FlushReported view)
    {front back : List (Packet α)} (queue : view.queue = front ++ back) :
    FlushReported (view.handOut front back) := by
  have same : (view.handOut front back).packets = view.packets := by
    simp [StreamView.packets, StreamView.handOut, queue]
  have useful := reported.useful
  rw [queue] at useful
  exact ⟨reported.idle, by rw [same]; exact reported.tracked, by rw [same]; exact reported.bounded,
    fun packet member => useful packet (mem_append_right _ member),
    by rw [same]; exact reported.endings⟩

theorem FlushReported.merge (reported : FlushReported view)
    (visible : ¬HidesFlush view.queue) : FlushReported view.merge where
  idle := reported.idle
  tracked := reported.tracked.collapse reported.useful visible
  bounded packet member := by
    simp only [StreamView.packets, StreamView.merge, mem_append] at member
    rcases member with handed | queued
    · exact reported.bounded packet (mem_append_left _ handed)
    · have serial : packet.serial ∈ view.queue.map Packet.serial :=
        (collapse_order view.queue).subset (mem_map_of_mem queued)
      obtain ⟨source, found, same⟩ := mem_map.mp serial
      have bound := reported.bounded source (mem_append_right _ found)
      rw [same] at bound
      exact bound
  useful := collapse_useful reported.useful
  endings time := by
    have endings : ∀ serial, (∃ packet ∈ (collapse view.queue).lastPackets, packet.eos = true ∧
        packet.serial = serial) ↔ ∃ packet ∈ view.queue, packet.eos = true ∧
        packet.serial = serial := fun serial => by
      have same := congrArg (serial ∈ ·) (collapse_endings view.queue)
      simpa [and_assoc] using same
    simp [StreamView.packets, StreamView.merge, or_and_right, exists_or, endings, reported.endings]

variable {packet : Packet α}

theorem FlushReported.enqueue
    (idle : view.waiting = []) (tracked : FlushTracked view.dropped (view.packets ++ [packet]))
    (useful : UsefulPackets (view.queue ++ [packet]))
    (bounded : ∀ earlier ∈ view.packets, earlier.serial < view.clock)
    (latest : packet.serial < view.clock)
    (endings : ∀ time, time ∈ view.endings ↔ ∃ earlier ∈ view.packets, earlier.eos = true ∧
      earlier.serial = time) : FlushReported (view.enqueue packet) := by
  have same : (view.enqueue packet).packets = view.packets ++ [packet] := by
    simp [StreamView.packets, StreamView.enqueue]
  refine ⟨idle, by rw [same]; exact tracked, ?_, useful, ?_⟩
  · intro other member
    rw [same] at member
    rcases mem_append.mp member with old | new
    · exact bounded other old
    · rw [mem_singleton.mp new]
      exact latest
  · intro time
    rw [same]
    simp only [StreamView.enqueue]
    cases ends : packet.eos with
    | true =>
        simp only [if_true, mem_append, mem_singleton, endings, or_and_right, exists_or,
          exists_eq_left, ends, true_and]
        exact or_congr Iff.rfl eq_comm
    | false => simp [endings, or_and_right, exists_or, ends]

theorem FlushReported.push {streamID : String}
    (reported : FlushReported view) (built : BuiltPacket streamID view packet) :
    FlushReported ((view.acknowledge packet).enqueue packet) := by
  have earlier : ∀ other ∈ view.packets, other.serial < packet.serial := fun other member =>
    Nat.lt_of_lt_of_le (reported.bounded other member) built.serial
  refine .enqueue reported.idle (reported.tracked.append earlier built.unflushed) ?_ ?_
    (Nat.lt_succ_self _) reported.endings
  · exact forall_mem_concat.mpr ⟨reported.useful, built.useful⟩
  · exact fun other member => Nat.lt_succ_of_lt (earlier other member)

theorem FlushReported.flush {streamID : String} (reported : FlushReported view) (visible : ¬HidesFlush view.queue)
    (built : BuiltPacket streamID view packet) :
    FlushReported (((view.acknowledge packet).makeRoom packet.sriChanged).enqueue { packet with
      sriChanged := (replaceOpen packet.sriChanged (collapse view.queue)).sriChanged
      inputQueueFlushed :=
        (replaceOpen packet.sriChanged (collapse view.queue)).flushToReport }) := by
  have merged := reported.merge visible
  have mergedQueue : view.merge.packets = view.delivered ++ (collapse view.queue).lastPackets := rfl
  have earlier : ∀ other ∈ view.merge.packets, other.serial < packet.serial := fun other member =>
    Nat.lt_of_lt_of_le (merged.bounded other member) built.serial
  rcases replaceOpen_cases packet.sriChanged view.queue with
    ⟨_, room⟩ | ⟨front, saved, _, kept, _, continues, room⟩
  · simp only [StreamView.makeRoom, StreamView.acknowledge, room]
    refine .enqueue reported.idle (merged.tracked.append earlier rfl) ?_ ?_
      (Nat.lt_succ_self _) merged.endings
    · exact forall_mem_concat.mpr ⟨merged.useful, built.useful⟩
    · exact fun other member => Nat.lt_succ_of_lt (earlier other member)
  · rw [kept, ← append_assoc] at mergedQueue
    have savedHere : saved ∈ view.merge.packets := by rw [mergedQueue]; simp
    have data : hasData saved = true := by
      have nonempty := merged.useful saved (by simp [StreamView.merge, kept])
      simpa [continues, hasData] using nonempty
    have tracked := merged.tracked
    rw [mergedQueue] at tracked
    simp only [StreamView.makeRoom, StreamView.acknowledge, room]
    have replaced := tracked.replaceLast { packet with
      sriChanged := saved.sriChanged, inputQueueFlushed := true } data (earlier saved savedHere) rfl
    refine .enqueue reported.idle (replaced.congr fun lost => ?_) ?_ ?_ (Nat.lt_succ_self _) ?_
    · simp only [StreamView.merge, mem_append, mem_filter, mem_cons, not_mem_nil, or_false]
      constructor
      · rintro (old | ⟨rfl | new, here⟩)
        · exact .inl (.inl old)
        · exact .inr rfl
        · exact .inl (.inr ⟨new, here⟩)
      · rintro ((old | new) | rfl)
        · exact .inl old
        · exact .inr ⟨.inr new.1, new.2⟩
        · exact .inr ⟨.inl rfl, data⟩
    · intro other member
      rcases mem_append.mp member with old | new
      · exact merged.useful other (by
          simp only [StreamView.merge, kept]
          exact mem_append_left _ old)
      · rw [mem_singleton.mp new]
        exact built.useful
    · intro other member
      refine Nat.lt_succ_of_lt (earlier other ?_)
      rw [mergedQueue]
      exact mem_append_left _ member
    · intro time
      have same := merged.endings time
      rw [mergedQueue] at same
      refine Iff.trans same ?_
      simp [continues, or_and_right, exists_or, StreamView.packets]

/-- What a run must keep to for its flushes to be reported: a non-blocking port with room for a
packet, and no flush that merges a flagged packet into an empty end-of-stream. -/
def ShowsFlushes (call : Call α) (port : InPort α) : Prop :=
  match call with
  | .pushSRI sri => sri.blocking = false
  | .queuePacket data _ eos _ => PushFlushes data eos port → ∀ streamID, ¬HidesFlush (port.view streamID).queue
  | .setMaxQueueDepth newDepth => 0 < (newDepth % 2 ^ 64).toNat
  | .stream _ call => call ≠ .disable
  | _ => True

end View

section Port

/-- A port that no push blocks on and no stream refuses packets of. -/
structure OpenPort (port : InPort α) : Prop where
  nonblocking : port.blocking = false
  depth : 0 < port.maxQueue
  enabled : ∀ stream ∈ port.objects, stream.enabled = true

variable {port : InPort α}

section

variable (isOpen : OpenPort port)
include isOpen

theorem OpenPort.of_same {later : InPort α}
    (blocking : later.blocking = port.blocking) (depth : later.maxQueue = port.maxQueue)
    (objects : ∀ stream ∈ later.objects, stream.enabled = true) : OpenPort later :=
  ⟨blocking.trans isOpen.nonblocking, by rw [depth]; exact isOpen.depth, objects⟩

variable (streamID : String)

theorem OpenPort.removeStream : OpenPort (port.removeStream streamID) := by
  have objects := removeStream_objects streamID port
  obtain ⟨_, _, _, frame⟩ := removeStream_frame streamID port
  refine isOpen.of_same (by rw [frame]) (by rw [frame]) ?_
  rw [objects]
  split
  · refine forall_mem_modify (fun stream enabled => ?_) _ isOpen.enabled
    exact enabled
  · exact isOpen.enabled

theorem OpenPort.createStream (sri : StreamSRI) : OpenPort (port.createStream streamID sri) := by
  have objects := createStream_objects streamID sri port
  obtain ⟨_, _, _, frame⟩ := createStream_frame streamID sri port
  refine isOpen.of_same (by rw [frame]) (by rw [frame]) ?_
  rw [objects]
  intro stream member
  rcases mem_append.mp member with old | new
  · exact isOpen.enabled stream old
  · rw [mem_singleton.mp new]

theorem OpenPort.accepts (eos : Bool) : port.acceptPacket streamID eos = (true, port) := by
  simp only [acceptPacket]
  split
  · rfl
  · rename_i handle _
    have enabled : port.streamEnabled handle = true := by
      simp only [streamEnabled]
      split
      · rename_i stream found
        exact isOpen.enabled stream (mem_of_getElem? found)
      · rfl
    simp [enabled]

theorem OpenPort.nextPacket (blocking : Bool)
    (streamID : String) : OpenPort (port.nextPacket blocking streamID).2 := by
  rcases InPort.nextPacket_cases blocking streamID port with ⟨_, same, _⟩ | ⟨packet, _, fetched⟩
  · rw [same]
    exact isOpen
  · rw [fetched]
    exact ⟨by simp [isOpen.nonblocking], isOpen.depth, isOpen.enabled⟩

theorem OpenPort.enqueue (packet : Packet α) : OpenPort (port.enqueue packet) := by
  simp only [InPort.enqueue]
  split <;> exact ⟨isOpen.nonblocking, isOpen.depth, isOpen.enabled⟩

theorem OpenPort.queuePacket (data : List α) (T : PrecisionUTCTime) (eos : Bool) (streamID : String) :
    OpenPort (port.queuePacket data T eos streamID) := by
  rcases InPort.queuePacket_cases data T eos streamID port with
    ⟨refused, _⟩ | ⟨_, _, result⟩ | ⟨_, _, _, result⟩
  · rw [isOpen.accepts] at refused
    simp at refused
  · rw [result]
    split <;> exact ⟨isOpen.nonblocking, isOpen.depth, isOpen.enabled⟩
  · have built : OpenPort (port.buildPacket data T eos streamID).2 := by
      simp only [InPort.buildPacket, InPort.lookupSRI, InPort.tick]
      split
      · simp only [InPort.acknowledgeSRI]
        split <;> exact ⟨isOpen.nonblocking, isOpen.depth, isOpen.enabled⟩
      · have created : OpenPort (InPort.createStream streamID (Sri.create streamID) { port with
            currentHs := port.currentHs.insert streamID (⟨Sri.create streamID, rfl⟩, false) }) := by
          refine OpenPort.createStream ?_ _ _
          exact ⟨isOpen.nonblocking, isOpen.depth, isOpen.enabled⟩
        exact ⟨created.nonblocking, created.depth, created.enabled⟩
    rw [result]
    simp only [admitPacket, built.nonblocking]
    split
    · simp only [Bool.false_eq_true, if_false, InPort.flushAndEnqueue]
      refine OpenPort.enqueue ?_ _
      simp only [InPort.flushFor, InPort.acknowledgeSRI]
      split
      · split <;> exact ⟨built.nonblocking, built.depth, built.enabled⟩
      · exact ⟨built.nonblocking, built.depth, built.enabled⟩
    · exact built.enqueue _

theorem OpenPort.pushSRI {sri : StreamSRI}
    (nonblocking : sri.blocking = false) : OpenPort (port.pushSRI sri) := by
  have raised : OpenPort { port with blocking := port.blocking || sri.blocking } :=
    ⟨by simp [isOpen.nonblocking, nonblocking], isOpen.depth, isOpen.enabled⟩
  simp only [InPort.pushSRI]
  split
  · refine OpenPort.createStream ?_ _ _
    exact ⟨raised.nonblocking, raised.depth, raised.enabled⟩
  · split
    · exact raised.createStream _ _
    · split <;> exact ⟨raised.nonblocking, raised.depth, raised.enabled⟩

end

def OpenReader (reader : Reader α) : Prop := reader.stream.enabled = true ∧ OpenPort reader.port

theorem openReader_fetch (blocking : Bool) (reader : Reader α) (isOpen : OpenReader reader) :
    OpenReader (InputStream.fetchPacket blocking reader).2 := by
  have fetched := isOpen.2.nextPacket blocking reader.stream.streamID
  simp only [InputStream.fetchPacket]
  split
  · exact isOpen
  · split
    · exact isOpen
    · rcases outcome : reader.port.nextPacket blocking reader.stream.streamID with
        ⟨packet | _ | _, port⟩ <;> rw [outcome] at fetched
      · refine ⟨?_, fetched⟩
        dsimp only
        split <;> exact isOpen.1
      · exact ⟨isOpen.1, fetched⟩
      · exact ⟨isOpen.1, fetched⟩

theorem openReader_report (reader : Reader α) (isOpen : OpenReader reader) :
    OpenReader (InputStream.reportIfEosReached reader) := by
  simp only [InputStream.reportIfEosReached]
  split
  · exact ⟨isOpen.1, isOpen.2.removeStream _⟩
  · exact isOpen

theorem openReader_plain : InputStream.Closed (OpenReader (α := α)) where
  fetch := openReader_fetch
  reach reader isOpen := by
    simp only [InputStream.reachIfReceived]
    split <;> exact isOpen
  report := openReader_report
  describe _ _ _ isOpen := isOpen
  enable _ isOpen := ⟨rfl, isOpen.2⟩

theorem openReader_identity {stream stream' : BufferedInputStream α}
    (same : stream'.identity = stream.identity) (isOpen : OpenReader ⟨stream, port⟩) :
    OpenReader ⟨stream', port⟩ :=
  ⟨(congrArg (fun identity => identity.2.2.1) same).trans isOpen.1, isOpen.2⟩

theorem openReader_buffered : Closed (OpenReader (α := α)) where
  fetch blocking reader isOpen := by
    have fetched := openReader_fetch blocking reader isOpen
    simp only [fetchPacket]
    split
    · exact isOpen
    · rcases outcome : InputStream.fetchPacket blocking reader with ⟨packet | _ | _, later⟩ <;>
        rw [outcome] at fetched
      · dsimp only
        split
        · exact openReader_identity (queuePacket_identity packet _) fetched
        · exact fetched
      · exact fetched
      · exact fetched
  take count front rest reader isOpen _ :=
    openReader_identity (takeBlock_identity count front rest _) isOpen
  consume count reader isOpen :=
    openReader_identity (consumeData_identity count _) isOpen
  report := openReader_report
  enable _ isOpen := ⟨rfl, isOpen.2⟩

theorem OpenPort.callStream (isOpen : OpenPort port) (streamType : StreamType)
    (handle : Nat) {call : StreamCall} (enabled : call ≠ .disable) :
    OpenPort (port.callStream streamType handle call) := by
  simp only [InPort.callStream]
  split
  · exact isOpen
  · rename_i stream found
    have start : OpenReader ⟨stream, port⟩ :=
      ⟨isOpen.enabled stream (mem_of_getElem? found), isOpen⟩
    have finish : OpenReader (streamType.call ⟨stream, port⟩ call) := by
      cases streamType with
      | plain => exact openReader_plain.call _ enabled start
      | buffered => exact openReader_buffered.call _ enabled start
    exact ⟨finish.2.nonblocking, finish.2.depth,
      InPort.forall_mem_modify (fun _ _ => finish.1) _ finish.2.enabled⟩

theorem OpenPort.step {port : InPort α} (isOpen : OpenPort port) (streamType : StreamType)
    {call : Call α} (shows : ShowsFlushes call port) : OpenPort (port.step streamType call) := by
  cases call with
  | pushSRI sri => exact isOpen.pushSRI shows
  | queuePacket data T eos streamID => exact isOpen.queuePacket data T eos streamID
  | resumePush streamID =>
      simp only [InPort.step, InPort.resumePush]
      split
      · split
        · refine OpenPort.enqueue ?_ _
          exact ⟨isOpen.nonblocking, isOpen.depth, isOpen.enabled⟩
        · exact isOpen
      · exact isOpen
  | nextPacket blocking streamID => exact isOpen.nextPacket blocking streamID
  | getPacket blocking streamID =>
      exact getPacket_keeps (fun other _ kept => kept.removeStream other)
        (isOpen.nextPacket blocking streamID)
  | setMaxQueueDepth newDepth => exact ⟨isOpen.nonblocking, shows, isOpen.enabled⟩
  | block => exact ⟨isOpen.nonblocking, isOpen.depth, isOpen.enabled⟩
  | unblock => exact ⟨isOpen.nonblocking, isOpen.depth, isOpen.enabled⟩
  | stream handle call => exact isOpen.callStream streamType handle shows

theorem FlushReported.step {streamID : String} {port : InPort α} {call : Call α}
    {later : StreamView α} (isOpen : OpenPort port) (reported : FlushReported (port.view streamID))
    (shows : ShowsFlushes call port) (effect : Effect streamID port call later) :
    FlushReported later := by
  cases effect with
  | unchanged _ clock later => exact reported.later _ later
  | discarded data T refused =>
      rcases refused with refused | shallow
      · rw [isOpen.accepts] at refused
        simp at refused
      · have depth := isOpen.depth
        omega
  | fetched _ front back queue => exact reported.handOut queue
  | listed sri clock _ later => exact reported.later _ later
  | merged _ _ _ _ clock flushes later =>
      have merged := reported.merge (shows flushes streamID)
      exact merged.later _ later
  | waits packet _ blocking => simp [isOpen.nonblocking] at blocking
  | enqueued packet built => exact reported.push built
  | flushed packet built flushes => exact reported.flush (shows flushes streamID) built
  | resumed packet rest waiting => simp [reported.idle] at waiting

end Port

section Runs

def StreamView.instanceAt (time : Nat) (view : StreamView α) : Nat :=
  view.endings.countP fun ending => decide (ending < time)

/-- The dropped packet held data of the target's stream instance, and was pushed after the packet
of this instance that was delivered last and not after the target. -/
def DroppedSince (view : StreamView α) (before : List (Packet α)) (target lost : Packet α) : Prop :=
  lost.buffer ≠ [] ∧ view.instanceAt lost.serial = view.instanceAt target.serial ∧
    (∀ earlier ∈ before, view.instanceAt earlier.serial = view.instanceAt target.serial →
      earlier.serial < lost.serial) ∧ lost.serial ≤ target.serial

def ReportsFlushes (view : StreamView α) : Prop :=
  ∀ before target after, view.delivered = before ++ target :: after →
    (target.inputQueueFlushed = true ↔ ∃ lost ∈ view.dropped, DroppedSince view before target lost)

theorem FlushReported.reports {view : StreamView α} (reported : FlushReported view) :
    ReportsFlushes view := by
  intro before target after delivered
  have packets : view.packets = before ++ target :: (after ++ view.queue) := by
    simp [StreamView.packets, delivered]
  have sorted := reported.tracked.sorted
  rw [packets] at sorted
  obtain ⟨early, late⟩ := serialOrder_split sorted
  rw [reported.tracked.flagged before target (after ++ view.queue) packets]
  refine exists_congr fun lost => and_congr_right fun member => ?_
  have data : lost.buffer ≠ [] := by
    simpa [hasData] using reported.tracked.data lost member
  constructor
  · rintro ⟨bound, between⟩
    refine ⟨data, ?_, fun earlier here _ => between earlier here, bound⟩
    refine (countP_before_eq_iff _ bound).mpr fun time ends inside => ?_
    obtain ⟨packet, here, _, rfl⟩ := (reported.endings time).mp ends
    rw [packets] at here
    rcases mem_append.mp here with old | new
    · have order := between packet old
      omega
    · rcases mem_cons.mp new with rfl | after
      · omega
      · have order := late packet after
        omega
  · rintro ⟨_, same, between, bound⟩
    refine ⟨bound, fun earlier here => ?_⟩
    -- an instance that ended between the two packets would part the dropped one from the target
    by_contra before
    refine before (between earlier here ?_)
    refine (countP_before_eq_iff _ (Nat.le_of_lt (early earlier here))).mpr fun time ends inside => ?_
    exact (countP_before_eq_iff _ bound).mp same time ends ⟨by omega, inside.2⟩

theorem flushReported_fresh (sriCmp : StreamSRI → StreamSRI → Bool) (maxQueue : Nat) (streamID : String) :
    FlushReported ((fresh sriCmp maxQueue : InPort α).view streamID) where
  idle := rfl
  tracked := ⟨.nil, by simp [StreamView.packets, view, fresh],
    by simp [view, fresh], by simp [view, fresh]⟩
  bounded := by simp [StreamView.packets, view, fresh]
  useful := by simp [UsefulPackets, view, fresh]
  endings := by simp [StreamView.packets, view, fresh]

/-- Flush reports are exact in a run in which no flush hides one. -/
theorem flushes_reported (sriCmp : StreamSRI → StreamSRI → Bool) (maxQueue : Nat)
    (depth : 0 < maxQueue) (streamType : StreamType) (calls : List (Call α))
    (shows : Along (step streamType) ShowsFlushes (fresh sriCmp maxQueue) calls)
    (streamID : String) :
    ReportsFlushes
      ((run (step streamType) (fresh sriCmp maxQueue) calls).view streamID) := by
  have kept := invariant_run
    (fun port : InPort α => OpenPort port ∧ FlushReported (port.view streamID))
    (fun call port kept shows => ⟨kept.1.step streamType shows,
      kept.2.step kept.1 shows (step_effect streamID streamType (fun handle disables => by
        rw [disables] at shows
        exact shows rfl) port)⟩)
    ⟨⟨rfl, depth, by simp [fresh]⟩, flushReported_fresh sriCmp maxQueue streamID⟩ shows
  exact kept.2.reports

theorem flushes_reported_replaced :
    let calls : List (Call Nat) := [.pushSRI (Sri.create "a"), .queuePacket [1] .notSet false "a",
      .queuePacket [2] .notSet false "a", .nextPacket true "a"]
    ReportsFlushes ((run (step .buffered) (fresh Sri.DefaultComparator 1) calls).view "a") := by
  intro calls
  refine flushes_reported Sri.DefaultComparator 1 (by decide) .buffered calls
    ⟨rfl, fun flushes => ?_, fun _ streamID hides => ?_, trivial, trivial⟩ "a"
  · exact absurd flushes.2.2.1 (by decide)
  · obtain ⟨front, flagged, ending, back, queue, _⟩ := hides
    have short := congrArg length queue
    have bound : (forStream streamID (run (step .buffered)
        (fresh Sri.DefaultComparator 1) (calls.take 2)).packetQueue).length ≤ 1 :=
      length_filter_le _ _
    simp only [length_append, length_cons] at short
    have same : ((run (step .buffered) (fresh Sri.DefaultComparator 1)
        (calls.take 2)).view streamID).queue.length = front.length + (back.length + 1 + 1) := short
    simp only [view] at same
    omega

/-- Two packets are dropped for the third, which the end of the stream then takes over: it comes out
with the third packet's data and without its flag. -/
theorem flush_hides_flush :
    let calls : List (Call Nat) := [.pushSRI (Sri.create "a"), .queuePacket [1] .notSet false "a",
      .queuePacket [2] .notSet false "a", .queuePacket [3] .notSet false "a",
      .queuePacket [] .notSet true "a", .queuePacket [4] .notSet false "b", .nextPacket true "a"]
    ¬ReportsFlushes ((run (step .buffered) (fresh Sri.DefaultComparator 2) calls).view "a") := by
  intro calls reports
  have flagged := (reports [] _ [] rfl).mpr ⟨_, mem_cons_self, by decide, by decide, by simp, by decide⟩
  exact absurd flagged (by decide)

end Runs

end Redhawk.Bulkio
