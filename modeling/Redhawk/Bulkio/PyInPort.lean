import Redhawk.Bulkio.QueueFlush

/-!
The packet queue of the Python input ports where a stream ID is used again: the discard for a
disabled stream, and the flush that a push to a full queue causes.
-/

namespace Redhawk.Bulkio.PyIn

open List

variable {α : Type}

/-- The loop of `_flushQueue`, with the latest of `saved_packets` first. -/
structure Saved (α : Type) where
  sriChanged : List String
  packets : List (Packet α)

def savePacket (packet : Packet α) (sriChanged : Bool) (packets : List (Packet α)) : List (Packet α) :=
  match packets.find? fun saved => saved.streamID == packet.streamID with
  | none => { packet with sriChanged := sriChanged } :: packets
  | some previous =>
      if previous.eos then
        { packet with sriChanged := sriChanged, inputQueueFlushed := !packet.eos || hasData packet } :: packets
      else if packet.eos && !hasData packet then
        updateActive packet.streamID (fun previous => { previous with eos := true }) packets
      else
        { packet with sriChanged := sriChanged || previous.sriChanged, inputQueueFlushed := true } ::
          packets.eraseP fun saved => saved.streamID == packet.streamID

def flushPacket (saved : Saved α) (packet : Packet α) : Saved α :=
  -- what `discard` returns is never true, so the end of a stream does not take over the change
  let sriChanged :=
    if packet.eos then saved.sriChanged.filter (· != packet.streamID)
    else if packet.sriChanged then packet.streamID :: saved.sriChanged
    else saved.sriChanged
  ⟨sriChanged, savePacket packet
    (packet.sriChanged || !packet.eos && sriChanged.contains packet.streamID) saved.packets⟩

def flushQueue (queue : List (Packet α)) : List (Packet α) := (queue.foldl flushPacket ⟨[], []⟩).packets.reverse

def isOpen (streamID : String) (packet : Packet α) : Bool := packet.streamID == streamID && !packet.eos

/-- What a push makes of a full queue. -/
def flushAndAppend (packet : Packet α) (queue : List (Packet α)) : List (Packet α) :=
  match (flushQueue queue).find? (isOpen packet.streamID) with
  | none => flushQueue queue ++ [packet]
  | some queued => (flushQueue queue).eraseP (isOpen packet.streamID) ++
      [{ packet with inputQueueFlushed := true, sriChanged := packet.sriChanged || queued.sriChanged }]

section Instances

def addTo (groups : List (List (Packet α))) (packet : Packet α) : List (List (Packet α)) :=
  match groups with
  | [] => [[packet]]
  | latest :: earlier =>
      if latest.any Packet.eos then [packet] :: latest :: earlier else (packet :: latest) :: earlier

/-- The instances of a stream, the latest first, and so are their packets. -/
def instances (packets : List (Packet α)) : List (List (Packet α)) := packets.foldl addTo []

/-- One packet is what is left of an instance. -/
structure Kept (group : List (Packet α)) (packet : Packet α) : Prop where
  ending : packet.eos = group.any Packet.eos
  ownData : ∃ source ∈ group, packet.buffer = source.buffer ∧ packet.T = source.T
  dropped : packet.inputQueueFlushed →
    1 < group.countP hasData ∨ ∃ queued ∈ group, queued.inputQueueFlushed

def FlushKeeps (queue : List (Packet α)) : Prop :=
  ∀ streamID, Forall₂ Kept (instances (forStream streamID queue)) (forStream streamID (flushQueue queue)).reverse

/-- The push that flushes drops no more than an open packet of its stream, and is flagged for no other
reason. -/
def PushKeeps (incoming : Packet α) (queue : List (Packet α)) : Prop :=
  ∃ last, flushAndAppend incoming queue = (flushQueue queue).eraseP (isOpen incoming.streamID) ++ [last] ∧
    last.buffer = incoming.buffer ∧ last.eos = incoming.eos ∧
      (last.inputQueueFlushed → incoming.inputQueueFlushed ∨
        ∃ dropped ∈ flushQueue queue, isOpen incoming.streamID dropped ∧ hasData dropped)

/-- One packet with data, and no flag. -/
def Single (group : List (Packet α)) : Prop :=
  group.countP hasData = 1 ∧ ∀ queued ∈ group, queued.inputQueueFlushed = false

/-- What the loop has made of an instance; `later` ones follow another instance of their stream. -/
structure Merged (later : Bool) (group : List (Packet α)) (packet : Packet α) : Prop where
  filled : ∀ queued ∈ group, queued.eos || hasData queued
  ending : packet.eos = group.any Packet.eos
  ownData : ∃ source ∈ group, packet.buffer = source.buffer ∧ packet.T = source.T
  data : hasData packet = group.any hasData
  flagged : if later then packet.inputQueueFlushed = hasData packet
    else packet.inputQueueFlushed →
      1 < group.countP hasData ∨ ∃ queued ∈ group, queued.inputQueueFlushed

inductive Follows : List (List (Packet α)) → List (Packet α) → Prop
  | nil : Follows [] []
  | cons {group groups packet packets} (merged : Merged (!groups.isEmpty) group packet)
      (rest : Follows groups packets) : Follows (group :: groups) (packet :: packets)

variable {later : Bool} {group packets : List (Packet α)} {groups : List (List (Packet α))}
  {packet stored : Packet α} {streamID : String}

theorem Merged.start (filled : packet.eos || hasData packet) (sriChanged flag : Bool)
    (same : flag = if later then !packet.eos || hasData packet else packet.inputQueueFlushed) :
    Merged later [packet] { packet with sriChanged := sriChanged, inputQueueFlushed := flag } := by
  constructor <;> grind [hasData]

theorem Merged.hasData_open (merged : Merged later group stored) (stays : stored.eos = false) :
    hasData stored = true := by
  obtain ⟨filled, ending, ⟨source, member, buffer, _⟩, _, _⟩ := merged
  grind [hasData]

theorem Merged.end (merged : Merged later group stored) (ends : packet.eos = true)
    (empty : hasData packet = false) : Merged later (packet :: group) { stored with eos := true } := by
  obtain ⟨filled, ending, ⟨source, member, buffer, _⟩, _, _⟩ := merged
  constructor <;> grind [hasData]

theorem Merged.replace (merged : Merged later group stored) (stays : stored.eos = false)
    (data : hasData packet = true) (sriChanged : Bool) :
    Merged later (packet :: group) { packet with sriChanged := sriChanged, inputQueueFlushed := true } := by
  have more := countP_pos_iff.mpr (any_eq_true.mp (merged.data.symm.trans (merged.hasData_open stays)))
  obtain ⟨filled, ending, ⟨source, member, buffer, _⟩, _, _⟩ := merged
  constructor <;> grind [hasData]

theorem Follows.savePacket
    (follows : Follows groups (forStream streamID packets)) (filled : packet.eos || hasData packet)
    (sriChanged : Bool) :
    Follows (if packet.streamID = streamID then addTo groups packet else groups)
      (forStream streamID (savePacket packet sriChanged packets)) := by
  rw [PyIn.savePacket]
  by_cases same : packet.streamID = streamID
  · subst same
    have first : packets.find? (fun saved => saved.streamID == packet.streamID) =
        (forStream packet.streamID packets).head? := by rw [forStream, head?_filter]
    have front (sriChanged flag : Bool) (packets : List (Packet α)) : forStream packet.streamID
        ({ packet with sriChanged := sriChanged, inputQueueFlushed := flag } :: packets) =
          { packet with sriChanged := sriChanged, inputQueueFlushed := flag } :: forStream packet.streamID packets :=
      forStream_cons_same _ packets
    rw [if_pos rfl, first]
    generalize kept : forStream packet.streamID packets = mine at follows ⊢
    cases follows with
    | nil =>
        rw [head?_nil]
        dsimp only
        rw [front, kept]
        exact .cons (.start filled _ _ rfl) .nil
    | @cons group groups previous rest merged follows =>
        rw [head?_cons, addTo, ← merged.ending]
        dsimp only
        split
        next ends =>
          rw [front, kept]
          exact .cons (.start filled _ _ rfl) (.cons merged follows)
        next stays =>
          rw [Bool.not_eq_true] at stays
          split
          next ends =>
            obtain ⟨ends, empty⟩ := Bool.and_eq_true_iff.mp ends
            rw [updateActive_forStream_same packet.streamID _ fun _ => by rfl, kept, modifyHead_cons]
            exact .cons (merged.end ends (by simpa using empty)) follows
          next more =>
            have data : hasData packet = true := by cases ends : packet.eos <;> simp_all
            rw [front, eraseP_forStream_same, kept, tail_cons]
            exact .cons (merged.replace stays data _) follows
  · have ended := updateActive_forStream_other same
      (fun saved : Packet α => { saved with eos := true }) (fun _ => rfl) packets
    have erased := eraseP_forStream_other same packets
    rw [if_neg same]
    grind [forStream, Packet.streamID]

theorem follows_flushQueue (streamID : String) (queue : List (Packet α))
    (filled : ∀ packet ∈ queue, packet.eos || hasData packet) :
    Follows (instances (forStream streamID queue)) (forStream streamID (flushQueue queue)).reverse := by
  have loop (groups) (saved : Saved α) (follows : Follows groups (forStream streamID saved.packets)) :
      Follows ((forStream streamID queue).foldl addTo groups)
        (forStream streamID (queue.foldl flushPacket saved).packets) := by
    induction queue generalizing groups saved with
    | nil => exact follows
    | cons packet rest ih =>
        obtain ⟨filled, others⟩ := forall_mem_cons.mp filled
        have next := follows.savePacket filled (packet.sriChanged || !packet.eos &&
          (flushPacket saved packet).sriChanged.contains packet.streamID)
        have tail := ih others _ (flushPacket saved packet) next
        by_cases same : packet.streamID = streamID
        · rw [if_pos same] at tail
          rwa [← same, forStream_cons_same, same]
        · rw [if_neg same] at tail
          rwa [forStream_cons_other same]
  rw [flushQueue, reverse_forStream, reverse_reverse]
  exact loop [] ⟨[], []⟩ .nil

theorem kept_iff (merged : Merged later group stored) : Kept group stored ↔ (later → ¬Single group) := by
  have counted : hasData stored = true ↔ 0 < group.countP hasData := by
    rw [merged.data, countP_pos_iff, any_eq_true]
  obtain ⟨_, ending, ownData, _, _⟩ := merged
  exact ⟨fun ⟨_, _, dropped⟩ => by grind [Single], fun several => ⟨ending, ownData, by grind [Single]⟩⟩

theorem Follows.kept_iff (follows : Follows groups packets) :
    Forall₂ Kept groups packets ↔ ∀ group ∈ groups.dropLast, ¬Single group := by
  induction follows with
  | nil => simp
  | @cons group groups packet packets merged follows ih =>
      rw [forall₂_cons, PyIn.kept_iff merged, ih]
      cases groups <;> simp

theorem Follows.filled (follows : Follows groups packets) :
    ∀ packet ∈ packets, packet.eos || hasData packet := by
  induction follows with
  | nil => simp
  | cons merged rest ih =>
      refine forall_mem_cons.mpr ⟨?_, ih⟩
      cases ends : Packet.eos _ with
      | true => rfl
      | false => exact merged.hasData_open ends

theorem flushQueue_filled {queue : List (Packet α)} (queued : ∀ packet ∈ queue, packet.eos || hasData packet) :
    ∀ packet ∈ flushQueue queue, packet.eos || hasData packet := fun packet member =>
  (follows_flushQueue packet.streamID queue queued).filled packet (by simpa [forStream] using member)

theorem pushKeeps {queue : List (Packet α)} (queued : ∀ packet ∈ queue, packet.eos || hasData packet)
    (incoming : Packet α) : PushKeeps incoming queue := by
  unfold PushKeeps flushAndAppend
  cases found : (flushQueue queue).find? (isOpen incoming.streamID) with
  | none =>
      refine ⟨incoming, ?_, rfl, rfl, .inl⟩
      rw [eraseP_of_forall_not (find?_eq_none.mp found)]
  | some dropped =>
      have stays : isOpen incoming.streamID dropped = true := find?_some found
      have filled := flushQueue_filled queued dropped (mem_of_find?_eq_some found)
      refine ⟨_, rfl, rfl, rfl, fun _ => .inr ⟨dropped, mem_of_find?_eq_some found, stays, ?_⟩⟩
      simp_all [isOpen]

theorem flushAndAppend_filled {queue : List (Packet α)} (queued : ∀ packet ∈ queue, packet.eos || hasData packet)
    (filled : packet.eos || hasData packet) :
    ∀ queued ∈ flushAndAppend packet queue, queued.eos || hasData queued := by
  obtain ⟨last, same, buffer, eos, _⟩ := pushKeeps queued packet
  rw [same, forall_mem_append, forall_mem_singleton, hasData, buffer, eos]
  exact ⟨fun packet member => flushQueue_filled queued packet (mem_of_mem_eraseP member), filled⟩

end Instances

structure Port (α : Type) where
  queue : List (Packet α)
  /-- A `deque` becomes a list with a discard. -/
  isDeque : Bool
  maxSize : Int
  filled : ∀ packet ∈ queue, packet.eos || hasData packet

namespace Port

def discardPacketsForStream (streamID : String) (port : Port α) : Port α where
  queue := port.queue.filter fun packet => packet.streamID != streamID
  isDeque := false
  maxSize := port.maxSize
  filled packet member := port.filled packet (mem_of_mem_filter member)

/-- Without a stream ID the first packet is fetched, with a `popleft` that a list does not have. -/
def fetchPacket (streamID : String) (port : Port α) : Option (Option (Packet α) × Port α) :=
  let wanted := fun packet : Packet α => streamID.isEmpty || packet.streamID == streamID
  if streamID.isEmpty && !port.isDeque && !port.queue.isEmpty then none
  else some (port.queue.find? wanted,
    { port with
      queue := port.queue.eraseP wanted
      filled := fun packet member => port.filled packet (mem_of_mem_eraseP member) })

/-- The push of a packet that was built with the SRI of its stream, as far as it concerns the queue. -/
def queuePacket (packet : Packet α) (blocking : Bool) (port : Port α) : Port α :=
  if filled : packet.eos || hasData packet then
    if port.maxSize = 0 then port
    else if 0 ≤ port.maxSize ∧ port.maxSize ≤ port.queue.length then
      -- a blocking call waits
      if blocking then port else
        { port with
          queue := flushAndAppend packet port.queue
          isDeque := true
          filled := flushAndAppend_filled port.filled filled }
    else
      { port with
        queue := port.queue ++ [packet]
        filled := forall_mem_append.mpr ⟨port.filled, forall_mem_singleton.mpr filled⟩ }
  else port

inductive Operation (α : Type) where
  | getPacket (streamID : String)
  | pushPacket (packet : Packet α) (blocking : Bool)

def step (port : Port α) : Operation α → Option (Port α)
  | .getPacket streamID => (port.fetchPacket streamID).map Prod.snd
  | .pushPacket packet blocking => some (port.queuePacket packet blocking)

def Works (port : Port α) : Prop := ∀ operations : List (Operation α), (operations.foldlM step port).isSome

/-- Without the packets of a stream up to the first that ends it. -/
def withoutInstance (streamID : String) : List (Packet α) → List (Packet α)
  | [] => []
  | packet :: rest =>
      if packet.streamID = streamID then if packet.eos then rest else withoutInstance streamID rest
      else packet :: withoutInstance streamID rest

theorem discard_iff (streamID : String) (queue : List (Packet α)) :
    queue.filter (fun packet => packet.streamID != streamID) = withoutInstance streamID queue ↔
      queue.Pairwise fun ending later => ending.streamID = streamID → ending.eos → later.streamID ≠ streamID := by
  induction queue with
  | nil => simp [withoutInstance]
  | cons packet rest ih =>
      rw [withoutInstance, pairwise_cons, ← ih]
      by_cases same : packet.streamID = streamID
      · cases ends : packet.eos with
        | false => simp [same]
        | true =>
            have none (others : ∀ later ∈ rest, later.streamID ≠ streamID) :
                rest.filter (fun packet => packet.streamID != streamID) = withoutInstance streamID rest :=
              ih.mpr (pairwise_of_forall_mem_list fun _ _ later member _ _ => others later member)
            simpa [same, filter_eq_self] using none
      · simp [same]

theorem works_iff (port : Port α) (isList : port.isDeque = false) :
    port.Works ↔ port.queue = [] ∧ port.maxSize = 0 := by
  refine ⟨fun works => ?_, fun nothing operations => ?_⟩
  · have first := works [.getPacket ""]
    have empty : port.queue = [] := by
      by_contra some
      simp [step, fetchPacket, isList, some] at first
    refine ⟨empty, ?_⟩
    by_contra open_
    have second := works [.pushPacket ⟨[], .notSet, true, Sri.create "", false, false, 0⟩ false, .getPacket ""]
    have room : ¬(0 ≤ port.maxSize ∧ port.maxSize ≤ port.queue.length) := by
      rw [empty, length_nil]
      omega
    simp [step, queuePacket, fetchPacket, isList, open_, room] at second
  · obtain ⟨queue, isDeque, maxSize, filled⟩ := port
    obtain ⟨rfl, rfl⟩ : queue = [] ∧ maxSize = 0 := nothing
    induction operations with
    | nil => rfl
    | cons operation rest ih =>
        have stays : step ⟨[], isDeque, 0, filled⟩ operation = some ⟨[], isDeque, 0, filled⟩ := by
          cases operation <;> simp [step, fetchPacket, queuePacket]
        rw [foldlM_cons, stays]
        exact ih

/-- Exactly when a discard and a flush keep to the boundaries of the streams. -/
theorem stream_boundaries_iff (port : Port α) (streamID : String) :
    ((port.discardPacketsForStream streamID).queue = withoutInstance streamID port.queue ↔
        port.queue.Pairwise fun ending later =>
          ending.streamID = streamID → ending.eos → later.streamID ≠ streamID) ∧
      ((port.discardPacketsForStream streamID).Works ↔
        (∀ packet ∈ port.queue, packet.streamID = streamID) ∧ port.maxSize = 0) ∧
      (∀ incoming, PushKeeps incoming port.queue) ∧
      (FlushKeeps port.queue ↔
        ∀ streamID, ∀ group ∈ (instances (forStream streamID port.queue)).dropLast, ¬Single group) := by
  refine ⟨discard_iff _ _, ?_, pushKeeps port.filled,
    forall_congr' fun streamID => (follows_flushQueue _ _ port.filled).kept_iff⟩
  rw [works_iff _ rfl]
  simp [discardPacketsForStream]

def sent (eos : Bool) : Packet Unit := ⟨[()], .notSet, eos, Sri.create "a", false, false, 0⟩

def reused : Port Unit := ⟨[sent true, sent false], true, 100, by decide⟩

/-- The packet of the second instance is discarded with the first, the next packet cannot be fetched
from a list, and a flush flags the second instance although nothing is dropped. -/
theorem second_instance_lost :
    (reused.discardPacketsForStream "a").queue ≠ withoutInstance "a" reused.queue ∧
      ¬(reused.discardPacketsForStream "a").Works ∧ ¬FlushKeeps reused.queue := by
  refine ⟨fun same => absurd (congrArg length same) (by decide), fun works => ?_, fun keeps => ?_⟩
  · exact absurd (works [.pushPacket (sent true) false, .getPacket ""]) (by decide)
  · have single := (follows_flushQueue "a" _ reused.filled).kept_iff.mp (keeps "a")
    exact single [sent false] (by decide) (by unfold Single; decide)

end Port

end Redhawk.Bulkio.PyIn
