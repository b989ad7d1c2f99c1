import Redhawk.Bulkio.QueueFlush

/-!
The structure a queue flush keeps: every end-of-stream, one packet for each stream instance with
the instance's latest data, and the order of these packets.
-/

namespace Redhawk.Bulkio

open Packet List

variable {α : Type}

def instances : List (Packet α) → List (List (Packet α))
  | [] => []
  | packet :: rest =>
      if packet.eos then [packet] :: instances rest
      else
        match instances rest with
        | [] => [[packet]]
        | group :: groups => (packet :: group) :: groups

def openInstance (packets : List (Packet α)) : List (Packet α) :=
  packets.rtakeWhile fun packet => !packet.eos

def endedInstances (packets : List (Packet α)) : List (Packet α) :=
  packets.rdropWhile fun packet => !packet.eos

def dataPacket (group : List (Packet α)) : Option (Packet α) :=
  (group.reverse.find? hasData).or group.getLast?

structure KeptFrom (group : List (Packet α)) (packet : Packet α) : Prop where
  lastPacket : group.getLast?.map (fun last => (last.serial, last.eos)) = some (packet.serial, packet.eos)
  ownData : packet.buffer = [] ∨ ∃ source ∈ group, packet.buffer = source.buffer ∧ packet.T = source.T
  latestData : (dataPacket group).map (fun source => (source.buffer, source.T)) = some (packet.buffer, packet.T)

/-- What a flush and the push that caused it should keep of the packets queued `before`, the
incoming one included, in the queue `after`. -/
structure FlushKeeps (before after : List (Packet α)) : Prop where
  endings : (after.filter eos).map serial = (before.filter eos).map serial
  order : (after.map serial).Sublist (before.map serial)
  onePacketEach : ∀ streamID,
    Forall₂ KeptFrom (instances (forStream streamID before)) (forStream streamID after)

def LosesData (packet : Packet α) (packetQueue : List (Packet α)) : Prop :=
  packet.buffer = [] ∧ ∃ queued ∈ openInstance (forStream packet.streamID packetQueue), queued.buffer ≠ []

section Instances

theorem instances_ended (front rest : List (Packet α)) (ended : ∀ h : front ≠ [], (front.getLast h).eos = true) :
    instances (front ++ rest) = instances front ++ instances rest := by
  induction front with
  | nil => rfl
  | cons packet front ih =>
      by_cases last : front = []
      · subst last
        have ends : packet.eos = true := ended (by simp)
        simp [instances, ends]
      · have inner := ih fun h => by simpa [getLast_cons h] using ended (by simp)
        by_cases ends : packet.eos = true
        · simp [instances, ends, inner]
        · rcases groups : instances front with _ | ⟨group, others⟩
          · rcases front with _ | ⟨second, front⟩
            · exact absurd rfl last
            · simp only [instances] at groups
              split at groups
              · simp at groups
              · split at groups <;> simp at groups
          · simp [instances, ends, inner, groups]

theorem instances_open (packets : List (Packet α)) (nonempty : packets ≠ [])
    (stillOpen : ∀ packet ∈ packets.dropLast, packet.eos = false) : instances packets = [packets] := by
  induction packets with
  | nil => exact absurd rfl nonempty
  | cons packet rest ih =>
      by_cases last : rest = []
      · subst last
        simp [instances]
      · rw [dropLast_cons_of_ne_nil last] at stillOpen
        have continues : packet.eos = false := stillOpen packet (by simp)
        have inner := ih last fun other member => stillOpen other (by simp [member])
        simp [instances, continues, inner]

end Instances

section Merge

theorem KeptFrom.single (packet : Packet α) : KeptFrom [packet] packet where
  lastPacket := rfl
  ownData := .inr ⟨packet, by simp, rfl, rfl⟩
  latestData := by
    cases data : hasData packet <;> simp [dataPacket, data]

variable {group : List (Packet α)} {packet : Packet α}

theorem KeptFrom.group_ne_nil (kept : KeptFrom group packet) : group ≠ [] := by
  rintro rfl
  simpa using kept.lastPacket

theorem dataPacket_of_any (data : group.any hasData = true) :
    ∃ source, hasData source = true ∧ ∀ front, dataPacket (front ++ group) = some source := by
  rcases found : group.reverse.find? hasData with _ | source
  · have absent : ∀ packet ∈ group, hasData packet = false := by
      simpa using find?_eq_none.mp found
    obtain ⟨packet, member, present⟩ := any_eq_true.mp data
    simp [absent packet member] at present
  · exact ⟨source, find?_some found, fun front => by
      simp [dataPacket, find?_append, found]⟩

theorem dataPacket_of_none (data : group.any hasData = false) : dataPacket group = group.getLast? := by
  have absent : group.reverse.find? hasData = none := by
    simpa using data
  simp [dataPacket, absent]

theorem dataPacket_cons_of_none (data : group.any hasData = false) (present : hasData packet = true) :
    dataPacket (packet :: group) = some packet := by
  have absent : group.reverse.find? hasData = none := by
    simpa using data
  simp [dataPacket, find?_append, absent, present]

theorem KeptFrom.buffer_of_none
    (kept : KeptFrom group packet) (data : group.any hasData = false) : packet.buffer = [] := by
  rcases kept.ownData with empty | ⟨source, member, buffer, _⟩
  · exact empty
  · have absent : hasData source = false := by simpa using any_eq_false.mp data source member
    rw [buffer]
    simpa [hasData] using absent

theorem KeptFrom.buffer_of_any
    (kept : KeptFrom group packet) (data : group.any hasData = true) : packet.buffer ≠ [] := by
  obtain ⟨source, present, found⟩ := dataPacket_of_any data
  have same := kept.latestData
  rw [← nil_append group, found []] at same
  simp only [Option.map_some, Option.some.injEq, Prod.mk.injEq] at same
  rw [← same.1]
  simpa [hasData] using present

theorem KeptFrom.absorb {active : Packet α}
    (kept : KeptFrom group active) : KeptFrom (packet :: group) (absorb packet active) where
  lastPacket := by
    rw [getLast?_cons_of_ne_nil kept.group_ne_nil, absorb_serial, absorb_eos]
    exact kept.lastPacket
  ownData := by
    simp only [Bulkio.absorb]
    split
    · exact .inr ⟨packet, by simp, rfl, rfl⟩
    · rcases kept.ownData with empty | ⟨source, member, same⟩
      · exact .inl empty
      · exact .inr ⟨source, by simp [member], same⟩
  latestData := by
    cases data : group.any hasData with
    | true =>
        obtain ⟨source, present, found⟩ := dataPacket_of_any data
        have keeps : swapsBuffer packet active = false := by
          simp [swapsBuffer, kept.buffer_of_any data]
        have same := kept.latestData
        rw [← nil_append group, found []] at same
        rw [← singleton_append, found [packet]]
        simpa [Bulkio.absorb, keeps] using same
    | false =>
        have empty := kept.buffer_of_none data
        cases present : hasData packet with
        | true =>
            have swaps : swapsBuffer packet active = true := by
              simpa [swapsBuffer, empty, hasData] using present
            simp [dataPacket_cons_of_none data present, Bulkio.absorb, swaps]
        | false =>
            have keeps : swapsBuffer packet active = false := by
              simpa [swapsBuffer, empty, hasData] using present
            have none : (packet :: group).any hasData = false := by simp [present, data]
            rw [dataPacket_of_none none, getLast?_cons_of_ne_nil kept.group_ne_nil,
              ← dataPacket_of_none data]
            simpa [Bulkio.absorb, keeps] using kept.latestData

theorem collapse_kept (packets : List (Packet α)) :
    Forall₂ KeptFrom (instances packets) (collapse packets).lastPackets := by
  induction packets with
  | nil => exact .nil
  | cons packet rest ih =>
      rw [collapse_cons]
      cases ends : packet.eos with
      | true =>
          rw [mergeFront_eos ends]
          simpa [instances, ends] using ⟨KeptFrom.single packet, ih⟩
      | false =>
          rcases groups : instances rest with _ | ⟨group, others⟩
          · rw [groups] at ih
            have first := forall₂_nil_left_iff.mp ih
            rw [mergeFront_first packet first]
            simpa [instances, ends, groups] using KeptFrom.single packet
          · rw [groups] at ih
            obtain ⟨active, kept, keptFrom, keptRest, merged⟩ := forall₂_cons_left_iff.mp ih
            rw [mergeFront_absorb ends merged]
            simpa [instances, ends, groups] using ⟨keptFrom.absorb, keptRest⟩

end Merge

section Order

theorem updateActive_map {β : Type} (field : Packet α → β) (streamID : String)
    (update : Packet α → Packet α) (kept : ∀ packet, field (update packet) = field packet)
    (packets : List (Packet α)) :
    (updateActive streamID update packets).map field = packets.map field := by
  induction packets with
  | nil => rfl
  | cons packet rest ih =>
      simp only [updateActive]
      split
      · simp [kept]
      · simp [ih]

variable (streamID : String)

theorem updateActive_endings (packet : Packet α) (packets : List (Packet α)) :
    ((updateActive streamID (absorb packet) packets).filter eos).map serial =
      (packets.filter eos).map serial := by
  induction packets with
  | nil => rfl
  | cons active rest ih =>
      simp only [updateActive]
      split
      · cases ends : active.eos <;> simp [ends]
      · cases ends : active.eos <;> simp [ends, ih]

theorem flushQueue_order (packetQueue : List (Packet α)) :
    ((flushQueue packetQueue).lastPackets.map serial).Sublist (packetQueue.map serial) := by
  induction packetQueue with
  | nil => exact .slnil
  | cons packet rest ih =>
      change ((flushPacket packet (flushQueue rest)).lastPackets.map serial).Sublist _
      simp only [flushPacket]
      split
      · split
        · exact ih.cons_cons _
        · rw [updateActive_map _ _ _ (by simp)]
          exact ih.cons _
      · exact ih.cons_cons _

theorem flushQueue_endings (packetQueue : List (Packet α)) :
    ((flushQueue packetQueue).lastPackets.filter eos).map serial =
      (packetQueue.filter eos).map serial := by
  induction packetQueue with
  | nil => rfl
  | cons packet rest ih =>
      change ((flushPacket packet (flushQueue rest)).lastPackets.filter eos).map _ = _
      simp only [flushPacket]
      cases ends : packet.eos with
      | true => split <;> simp [ends, ih]
      | false =>
          split
          · simpa [ends, updateActive_endings] using ih
          · simpa [ends] using ih

theorem eraseP_endings {found : Packet α → Bool} {packets : List (Packet α)} {saved : Packet α}
    (first : packets.find? found = some saved) (continues : saved.eos = false) :
    (packets.eraseP found).filter eos = packets.filter eos := by
  induction packets with
  | nil => rfl
  | cons packet rest ih =>
      by_cases here : found packet = true
      · have same : packet = saved := by simpa [here] using first
        subst same
        simp [here, continues]
      · have later : rest.find? found = some saved := by simpa [here] using first
        simp [here, filter_cons, ih later]

theorem makeRoom_order (sriChanged : Bool) (packetQueue : List (Packet α)) :
    ((makeRoom streamID sriChanged packetQueue).packetQueue.map serial).Sublist
      (packetQueue.map serial) := by
  have flushed := flushQueue_order packetQueue
  simp only [makeRoom]
  split
  · split
    · exact flushed
    · have erased := (eraseP_sublist (p := fun packet : Packet α => packet.streamID == streamID)
        (l := (flushQueue packetQueue).lastPackets.reverse)).reverse
      rw [reverse_reverse] at erased
      exact (erased.map serial).trans flushed
  · exact flushed

theorem makeRoom_endings (sriChanged : Bool) (packetQueue : List (Packet α)) :
    ((makeRoom streamID sriChanged packetQueue).packetQueue.filter eos).map serial =
      (packetQueue.filter eos).map serial := by
  have flushed := flushQueue_endings packetQueue
  simp only [makeRoom]
  split
  · split
    · exact flushed
    · rename_i saved first continues
      have kept := eraseP_endings first (by simpa using continues)
      simpa [filter_reverse, kept] using flushed
  · exact flushed

end Order

section Incoming

theorem endedInstances_append (packets : List (Packet α)) :
    endedInstances packets ++ openInstance packets = packets :=
  rdropWhile_append_rtakeWhile ..

variable {packets : List (Packet α)}

theorem endedInstances_getLast (nonempty : endedInstances packets ≠ []) :
    ((endedInstances packets).getLast nonempty).eos = true := by
  have ends := rdropWhile_last_not (fun packet : Packet α => !packet.eos) packets nonempty
  rw [Bool.not_eq_true, Bool.not_eq_false'] at ends
  exact ends

theorem openInstance_eos {packet : Packet α} (member : packet ∈ openInstance packets) : packet.eos = false := by
  simpa using mem_rtakeWhile_imp member

theorem collapse_split (packets : List (Packet α)) :
    (collapse packets).lastPackets =
      (collapse (endedInstances packets)).lastPackets ++ (collapse (openInstance packets)).lastPackets := by
  rw [← collapse_ended _ _ endedInstances_getLast, endedInstances_append]

theorem collapse_endedInstances_eos {saved : Packet α}
    (last : (collapse (endedInstances packets)).lastPackets.getLast? = some saved) :
    saved.eos = true := by
  have same := collapse_getLast eos (by simp) (endedInstances packets)
  rw [last] at same
  obtain ⟨final, found, ends⟩ := Option.map_eq_some_iff.mp same.symm
  obtain ⟨nonempty, rfl⟩ := mem_getLast?_eq_getLast found
  rw [← ends]
  exact endedInstances_getLast nonempty

theorem collapse_openInstance (nonempty : openInstance packets ≠ []) :
    ∃ saved, (collapse (openInstance packets)).lastPackets = [saved] ∧ saved.eos = false := by
  have kept := collapse_kept (openInstance packets)
  rw [instances_open _ nonempty fun packet member =>
    openInstance_eos (dropLast_subset _ member)] at kept
  obtain ⟨saved, none, _, rest, merged⟩ := forall₂_cons_left_iff.mp kept
  rw [forall₂_nil_left_iff.mp rest] at merged
  have same := collapse_getLast eos (by simp) (openInstance packets)
  rw [merged, getLast?_eq_some_getLast nonempty] at same
  have ends : saved.eos = ((openInstance packets).getLast nonempty).eos := by simpa using same
  exact ⟨saved, merged, ends.trans (openInstance_eos (getLast_mem nonempty))⟩

variable (sriChanged : Bool)

section

variable (packets : List (Packet α))

theorem replaceOpen_cases :
    (openInstance packets = [] ∧ replaceOpen sriChanged (collapse packets) =
        ⟨(collapse packets).lastPackets, sriChanged, false, (collapse packets).deleted⟩) ∨
      ∃ front saved, openInstance packets ≠ [] ∧ (collapse packets).lastPackets = front ++ [saved] ∧
        (collapse (openInstance packets)).lastPackets = [saved] ∧ saved.eos = false ∧
        replaceOpen sriChanged (collapse packets) =
          ⟨front, saved.sriChanged, true, saved :: (collapse packets).deleted⟩ := by
  have parts := collapse_split packets
  by_cases empty : openInstance packets = []
  · rw [empty, collapse_nil, append_nil] at parts
    refine .inl ⟨empty, ?_⟩
    simp only [replaceOpen]
    split
    · rename_i saved last
      rw [parts] at last
      simp [collapse_endedInstances_eos last]
    · rfl
  · obtain ⟨saved, merged, continues⟩ := collapse_openInstance empty
    rw [merged] at parts
    exact .inr ⟨_, saved, empty, parts, merged, continues, by simp [replaceOpen, parts, continues]⟩

theorem replaceOpen_packetQueue :
    (replaceOpen sriChanged (collapse packets)).packetQueue =
      (collapse (endedInstances packets)).lastPackets := by
  have parts := collapse_split packets
  rcases replaceOpen_cases sriChanged packets with
    ⟨empty, room⟩ | ⟨front, saved, _, kept, merged, _, room⟩
  · rw [room, parts, empty, collapse_nil, append_nil]
  · rw [merged, kept] at parts
    rw [room]
    exact append_cancel_right parts

theorem replaceOpen_subset :
    (replaceOpen sriChanged (collapse packets)).packetQueue ⊆ (collapse packets).lastPackets := by
  rcases replaceOpen_cases sriChanged packets with ⟨_, room⟩ | ⟨front, saved, _, kept, _, _, room⟩
  · rw [room]
    exact Subset.refl _
  · rw [room, kept]
    exact subset_append_left _ _

theorem instances_incoming (incoming : Packet α) :
    instances (packets ++ [incoming]) =
      instances (endedInstances packets) ++ [openInstance packets ++ [incoming]] := by
  have last : instances (openInstance packets ++ [incoming]) = [openInstance packets ++ [incoming]] := by
    refine instances_open _ (by simp) fun packet member => ?_
    rw [dropLast_concat] at member
    exact openInstance_eos member
  rw [← last, ← instances_ended _ _ endedInstances_getLast, ← append_assoc, endedInstances_append]

end

theorem incoming_keptFrom (group : List (Packet α)) {incoming queued : Packet α}
    (serial : queued.serial = incoming.serial) (eos : queued.eos = incoming.eos)
    (buffer : queued.buffer = incoming.buffer) (time : queued.T = incoming.T) :
    KeptFrom (group ++ [incoming]) queued ↔ ¬(incoming.buffer = [] ∧ ∃ packet ∈ group, packet.buffer ≠ []) := by
  constructor
  · rintro kept ⟨empty, packet, member, data⟩
    have some : (group ++ [incoming]).any hasData = true :=
      any_eq_true.mpr ⟨packet, by simp [member], by simpa [hasData] using data⟩
    exact kept.buffer_of_any some (by rw [buffer, empty])
  · intro keeps
    refine ⟨by simp [serial, eos], .inr ⟨incoming, by simp, buffer, time⟩, ?_⟩
    cases present : hasData incoming with
    | true => simp [dataPacket, present, buffer, time]
    | false =>
        have empty : incoming.buffer = [] := by simpa [hasData] using present
        have none : (group ++ [incoming]).any hasData = false := by
          simp only [any_append, any_cons, present, any_nil, Bool.or_false, any_eq_false]
          intro packet member data
          exact keeps ⟨empty, packet, member, by simpa [hasData] using data⟩
        rw [dataPacket_of_none none]
        simp [buffer, time]

theorem forall₂_concat {β γ : Type} {related : β → γ → Prop} {front : List β} {front' : List γ}
    (fronts : Forall₂ related front front') (last : β) (last' : γ) :
    Forall₂ related (front ++ [last]) (front' ++ [last']) ↔ related last last' := by
  induction fronts with
  | nil => simp
  | cons here _ ih => simp [here, ih]

end Incoming

section Flush

theorem flushAndEnqueue_packetQueue (packet : Packet α) (port : InPort α) :
    (port.flushAndEnqueue packet).packetQueue =
      (makeRoom packet.streamID packet.sriChanged port.packetQueue).packetQueue ++
        [(port.flushFor packet).1] := by
  have room : (port.flushFor packet).2.packetQueue =
      (makeRoom packet.streamID packet.sriChanged port.packetQueue).packetQueue := by
    simp only [InPort.flushFor, InPort.acknowledgeSRI]
    split
    · split <;> rfl
    · rfl
  rw [← room]
  simp only [InPort.flushAndEnqueue, InPort.enqueue]
  split <;> rfl

/-- A flush keeps the stream structure of the queue and the latest data of each instance, unless
an empty end-of-stream takes the place of the data of its own instance. -/
theorem flushAndEnqueue_keeps_iff (packet : Packet α) (port : InPort α) :
    FlushKeeps (port.packetQueue ++ [packet]) (port.flushAndEnqueue packet).packetQueue ↔
      ¬LosesData packet port.packetQueue := by
  have queue := flushAndEnqueue_packetQueue packet port
  obtain ⟨queued, incoming⟩ : ∃ queued, queued = (port.flushFor packet).1 := ⟨_, rfl⟩
  have serial : queued.serial = packet.serial := by rw [incoming]; rfl
  have eos : queued.eos = packet.eos := by rw [incoming]; rfl
  have buffer : queued.buffer = packet.buffer := by rw [incoming]; rfl
  have time : queued.T = packet.T := by rw [incoming]; rfl
  have streamID : queued.streamID = packet.streamID := by rw [incoming]; rfl
  rw [← incoming] at queue
  have here : Forall₂ KeptFrom
      (instances (forStream packet.streamID (port.packetQueue ++ [packet])))
      (forStream packet.streamID (port.flushAndEnqueue packet).packetQueue) ↔
        ¬LosesData packet port.packetQueue := by
    have room : forStream packet.streamID
        (makeRoom packet.streamID packet.sriChanged port.packetQueue).packetQueue =
          (collapse (endedInstances (forStream packet.streamID port.packetQueue))).lastPackets := by
      have same := makeRoom_forStream_same packet.streamID packet.sriChanged port.packetQueue
      rw [← replaceOpen_packetQueue packet.sriChanged, ← same]
      rfl
    have one : forStream packet.streamID [packet] = [packet] := by simp [forStream]
    have one' : forStream packet.streamID [queued] = [queued] := by simp [forStream, streamID]
    rw [queue, forStream_append, forStream_append, one, one', room, instances_incoming,
      forall₂_concat (collapse_kept _), incoming_keptFrom _ serial eos buffer time]
    rfl
  constructor
  · intro keeps
    exact here.mp (keeps.onePacketEach packet.streamID)
  · intro safe
    refine ⟨?_, ?_, fun other => ?_⟩
    · rw [queue, filter_append, map_append, filter_append, map_append, makeRoom_endings]
      cases ends : packet.eos <;> simp [ends, eos, serial]
    · rw [queue, map_append, map_append]
      exact (makeRoom_order ..).append (by simp [serial])
    · by_cases same : packet.streamID = other
      · subst same
        exact here.mpr safe
      · have room := (makeRoom_forStream_other same packet.sriChanged port.packetQueue).1
        have none : forStream other [packet] = [] := by simp [forStream, same]
        have none' : forStream other [queued] = [] := by simp [forStream, streamID, same]
        rw [queue, forStream_append, forStream_append, none, none', room, append_nil, append_nil]
        exact collapse_kept _

/-- One packet of data is queued when the end of its stream finds the queue full. -/
theorem flushAndEnqueue_loses_data :
    let queued : Packet Nat := ⟨[7], .notSet, false, Sri.create "a", false, false, 0⟩
    let ending : Packet Nat := ⟨[], .notSet, true, Sri.create "a", false, false, 1⟩
    let port : InPort Nat := { maxQueue := 1, packetQueue := [queued] }
    ¬FlushKeeps (port.packetQueue ++ [ending]) (port.flushAndEnqueue ending).packetQueue := by
  intro queued ending port keeps
  have kept : Forall₂ KeptFrom [[queued, ending]] [{ ending with inputQueueFlushed := true }] :=
    keeps.onePacketEach "a"
  obtain ⟨first, _⟩ := forall₂_cons.mp kept
  have emptied : some ([7], queued.T) = some ([], ending.T) := first.latestData
  simp at emptied

end Flush

end Redhawk.Bulkio
