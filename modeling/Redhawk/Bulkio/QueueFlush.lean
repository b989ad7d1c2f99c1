import Mathlib.Data.List.DropRight
import Redhawk.Bulkio.InPortCore

/-!
What a flush of the port queue keeps. Seen through one stream ID, `_flushQueue` merges each
packet that ends no instance into the packet after it, so it works on every stream by itself.
-/

namespace Redhawk.Bulkio

open List

variable {α : Type}

def forStream (streamID : String) (packets : List (Packet α)) : List (Packet α) :=
  packets.filter fun packet => packet.streamID == streamID

@[simp] theorem forStream_nil (streamID : String) : forStream streamID ([] : List (Packet α)) = [] :=
  rfl

@[simp] theorem forStream_append (streamID : String) (front back : List (Packet α)) :
    forStream streamID (front ++ back) = forStream streamID front ++ forStream streamID back :=
  filter_append ..

theorem forStream_cons_same (packet : Packet α) (packets : List (Packet α)) :
    forStream packet.streamID (packet :: packets) = packet :: forStream packet.streamID packets := by
  simp [forStream]

theorem forStream_cons_other {streamID : String} {packet : Packet α} (other : packet.streamID ≠ streamID)
    (packets : List (Packet α)) :
    forStream streamID (packet :: packets) = forStream streamID packets := by
  simp [forStream, other]

theorem mem_forStream {streamID : String} {packet : Packet α} {packets : List (Packet α)} :
    packet ∈ forStream streamID packets ↔ packet ∈ packets ∧ packet.streamID = streamID := by
  simp [forStream]

section Merge

section

variable (packet active : Packet α)

@[simp] theorem absorb_serial : (absorb packet active).serial = active.serial := by
  simp only [absorb]
  split <;> rfl

@[simp] theorem absorb_eos : (absorb packet active).eos = active.eos := by
  simp only [absorb]
  split <;> rfl

@[simp] theorem absorb_sri : (absorb packet active).sri = active.sri := by
  simp only [absorb]
  split <;> rfl

@[simp] theorem absorb_streamID : (absorb packet active).streamID = active.streamID := by
  simp [Packet.streamID]

@[simp] theorem leftOver_streamID : (leftOver packet active).streamID = packet.streamID := by
  simp only [leftOver]
  split <;> rfl

end

def mergeFront (packet : Packet α) (state : FlushState α) : FlushState α :=
  match state.lastPackets with
  | [] => { state with lastPackets := [packet] }
  | active :: rest =>
      if packet.eos then { state with lastPackets := packet :: active :: rest }
      else ⟨absorb packet active :: rest, leftOver packet active :: state.deleted⟩

def collapse (packets : List (Packet α)) : FlushState α := packets.foldr mergeFront ⟨[], []⟩

def FlushState.forStream (streamID : String) (state : FlushState α) : FlushState α :=
  ⟨Bulkio.forStream streamID state.lastPackets, Bulkio.forStream streamID state.deleted⟩

theorem activePacket_forStream (streamID : String) (state : FlushState α) :
    state.activePacket streamID = (forStream streamID state.lastPackets).head? := by
  simp [FlushState.activePacket, forStream]

theorem updateActive_forStream_same (streamID : String) (update : Packet α → Packet α)
    (keepsID : ∀ packet, (update packet).streamID = packet.streamID) (packets : List (Packet α)) :
    forStream streamID (updateActive streamID update packets) =
      (forStream streamID packets).modifyHead update := by
  induction packets with
  | nil => rfl
  | cons packet rest ih =>
      by_cases same : packet.streamID = streamID
      · simp [forStream, updateActive, same, keepsID]
      · simp only [updateActive, beq_iff_eq, same, if_false]
        rw [forStream_cons_other same, forStream_cons_other same, ih]

theorem updateActive_forStream_other {streamID other : String} (different : streamID ≠ other)
    (update : Packet α → Packet α) (keepsID : ∀ packet, (update packet).streamID = packet.streamID)
    (packets : List (Packet α)) :
    forStream other (updateActive streamID update packets) = forStream other packets := by
  induction packets with
  | nil => rfl
  | cons packet rest ih =>
      by_cases same : packet.streamID = streamID
      · have outside : packet.streamID ≠ other := by rw [same]; exact different
        simp only [updateActive, beq_iff_eq, same, if_true]
        rw [forStream_cons_other (by rw [keepsID]; exact outside), forStream_cons_other outside]
      · simp only [updateActive, beq_iff_eq, same, if_false]
        by_cases here : packet.streamID = other
        · subst here
          rw [forStream_cons_same, forStream_cons_same, ih]
        · rw [forStream_cons_other here, forStream_cons_other here, ih]

theorem flushPacket_forStream_same (packet : Packet α) (state : FlushState α) :
    (flushPacket packet state).forStream packet.streamID =
      mergeFront packet (state.forStream packet.streamID) := by
  simp only [flushPacket, activePacket_forStream, FlushState.forStream, mergeFront]
  rcases kept : forStream packet.streamID state.lastPackets with _ | ⟨active, rest⟩
  · simp [forStream_cons_same, kept]
  · by_cases ends : packet.eos = true
    · simp [ends, forStream_cons_same, kept]
    · have deleted : forStream packet.streamID (leftOver packet active :: state.deleted) =
          leftOver packet active :: forStream packet.streamID state.deleted := by
        simpa using forStream_cons_same (leftOver packet active) state.deleted
      simp [ends, updateActive_forStream_same, kept, deleted]

variable {packet : Packet α}

theorem flushPacket_forStream_other {streamID : String}
    (other : packet.streamID ≠ streamID) (state : FlushState α) :
    (flushPacket packet state).forStream streamID = state.forStream streamID := by
  simp only [flushPacket, FlushState.forStream]
  cases state.activePacket packet.streamID with
  | none => simp [forStream_cons_other other]
  | some active =>
      by_cases ends : packet.eos = true
      · simp [ends, forStream_cons_other other]
      · have outside : (leftOver packet active).streamID ≠ streamID := by simpa using other
        simp [ends, updateActive_forStream_other other, forStream_cons_other outside]

theorem flushQueue_forStream (streamID : String) (packetQueue : List (Packet α)) :
    (flushQueue packetQueue).forStream streamID = collapse (forStream streamID packetQueue) := by
  induction packetQueue with
  | nil => rfl
  | cons packet rest ih =>
      change (flushPacket packet (flushQueue rest)).forStream streamID = _
      by_cases same : packet.streamID = streamID
      · subst same
        rw [flushPacket_forStream_same, ih, forStream_cons_same]
        rfl
      · rw [flushPacket_forStream_other same, ih, forStream_cons_other same]

variable {state : FlushState α}

theorem mergeFront_first (packet : Packet α) (first : state.lastPackets = []) :
    (mergeFront packet state).lastPackets = [packet] := by
  simp [mergeFront, first]

theorem mergeFront_eos (ends : packet.eos = true) (state : FlushState α) :
    (mergeFront packet state).lastPackets = packet :: state.lastPackets := by
  rcases kept : state.lastPackets with _ | ⟨active, rest⟩ <;> simp [mergeFront, kept, ends]

section

variable {active : Packet α} {rest : List (Packet α)} (continues : packet.eos = false)
  (kept : state.lastPackets = active :: rest)

include continues kept

theorem mergeFront_absorb : (mergeFront packet state).lastPackets = absorb packet active :: rest := by
  simp [mergeFront, kept, continues]

theorem mergeFront_absorb_deleted :
    (mergeFront packet state).deleted = leftOver packet active :: state.deleted := by
  simp [mergeFront, kept, continues]

end

theorem mergeFront_eos_deleted (ends : packet.eos = true) (state : FlushState α) :
    (mergeFront packet state).deleted = state.deleted := by
  rcases kept : state.lastPackets with _ | ⟨active, rest⟩ <;> simp [mergeFront, kept, ends]

@[simp] theorem collapse_nil : collapse ([] : List (Packet α)) = ⟨[], []⟩ := rfl

theorem collapse_cons (packet : Packet α) (rest : List (Packet α)) :
    collapse (packet :: rest) = mergeFront packet (collapse rest) := rfl

theorem collapse_ne_nil (packet : Packet α) (rest : List (Packet α)) :
    (collapse (packet :: rest)).lastPackets ≠ [] := by
  simp only [collapse_cons, mergeFront]
  split
  · simp
  · split <;> simp

theorem collapse_getLast {β : Type} (field : Packet α → β)
    (kept : ∀ packet active, field (absorb packet active) = field active)
    (packets : List (Packet α)) :
    (collapse packets).lastPackets.getLast?.map field = packets.getLast?.map field := by
  induction packets with
  | nil => rfl
  | cons packet rest ih =>
      rw [collapse_cons]
      rcases rest with _ | ⟨next, rest⟩
      · rfl
      · rw [getLast?_cons_cons, ← ih]
        rcases merged : (collapse (next :: rest)).lastPackets with _ | ⟨active, others⟩
        · exact absurd merged (collapse_ne_nil next rest)
        · cases ends : packet.eos with
          | true => rw [mergeFront_eos ends, merged, getLast?_cons_cons]
          | false =>
              rw [mergeFront_absorb ends merged]
              cases others with
              | nil => simp [kept]
              | cons other others => rw [getLast?_cons_cons, getLast?_cons_cons]

theorem collapse_ended (front rest : List (Packet α))
    (ended : ∀ nonempty : front ≠ [], (front.getLast nonempty).eos = true) :
    (collapse (front ++ rest)).lastPackets = (collapse front).lastPackets ++ (collapse rest).lastPackets := by
  induction front with
  | nil => rfl
  | cons packet front ih =>
      rw [cons_append, collapse_cons, collapse_cons]
      rcases front with _ | ⟨next, front⟩
      · have ends : packet.eos = true := ended (by simp)
        rw [mergeFront_eos ends, mergeFront_eos ends]
        rfl
      · have inner := ih fun h => by simpa [getLast_cons h] using ended (by simp)
        cases ends : packet.eos with
        | true => rw [mergeFront_eos ends, mergeFront_eos ends, inner, cons_append]
        | false =>
            rcases merged : (collapse (next :: front)).lastPackets with _ | ⟨active, others⟩
            · exact absurd merged (collapse_ne_nil next front)
            · rw [merged] at inner
              rw [mergeFront_absorb ends merged, mergeFront_absorb ends inner]
              rfl

def marks (packets : List (Packet α)) : List (Nat × Bool) :=
  packets.map fun packet => (packet.serial, packet.eos)

variable (packets : List (Packet α))

theorem collapse_marks : (marks (collapse packets).lastPackets).Sublist (marks packets) := by
  induction packets with
  | nil => exact .slnil
  | cons packet rest ih =>
      rw [collapse_cons]
      cases ends : packet.eos with
      | true =>
          rw [mergeFront_eos ends]
          exact ih.cons_cons _
      | false =>
          rcases kept : (collapse rest).lastPackets with _ | ⟨active, others⟩
          · rw [mergeFront_first packet kept]
            exact (nil_sublist _).cons_cons _
          · rw [kept] at ih
            rw [mergeFront_absorb ends kept, marks, map_cons, absorb_serial, absorb_eos]
            exact ih.cons _

theorem collapse_order :
    ((collapse packets).lastPackets.map Packet.serial).Sublist (packets.map Packet.serial) := by
  have kept := (collapse_marks packets).map Prod.fst
  simpa [marks, Function.comp_def] using kept

theorem collapse_endings :
    ((collapse packets).lastPackets.filter Packet.eos).map Packet.serial =
      (packets.filter Packet.eos).map Packet.serial := by
  induction packets with
  | nil => rfl
  | cons packet rest ih =>
      rw [collapse_cons]
      cases ends : packet.eos with
      | true =>
          rw [mergeFront_eos ends]
          simp [ends, ih]
      | false =>
          rcases kept : (collapse rest).lastPackets with _ | ⟨active, others⟩
          · rw [kept] at ih
            rw [mergeFront_first packet kept]
            simpa [ends] using ih
          · rw [kept] at ih
            rw [mergeFront_absorb ends kept, filter_cons_of_neg (a := packet) (by simp [ends]), ← ih]
            cases activeEnds : active.eos <;> simp [activeEnds]

end Merge

section MakeRoom

def replaceOpen (sriChanged : Bool) (flushed : FlushState α) : Room α :=
  match flushed.lastPackets.getLast? with
  | some saved =>
      if saved.eos then ⟨flushed.lastPackets, sriChanged, false, flushed.deleted⟩
      else ⟨flushed.lastPackets.dropLast, saved.sriChanged, true, saved :: flushed.deleted⟩
  | none => ⟨flushed.lastPackets, sriChanged, false, flushed.deleted⟩

def Room.forStream (streamID : String) (room : Room α) : Room α :=
  { room with
    packetQueue := Bulkio.forStream streamID room.packetQueue
    deleted := Bulkio.forStream streamID room.deleted }

variable (streamID : String) (packets : List (Packet α))

theorem eraseP_forStream_same :
    forStream streamID (packets.eraseP fun packet => packet.streamID == streamID) =
      (forStream streamID packets).tail := by
  induction packets with
  | nil => rfl
  | cons packet rest ih =>
      by_cases same : packet.streamID = streamID
      · simp [forStream, same]
      · simpa [forStream, same] using ih

theorem eraseP_forStream_other {streamID other : String} (different : streamID ≠ other)
    (packets : List (Packet α)) :
    forStream other (packets.eraseP fun packet => packet.streamID == streamID) = forStream other packets := by
  induction packets with
  | nil => rfl
  | cons packet rest ih =>
      by_cases same : packet.streamID = streamID
      · simp [forStream, same, different]
      · simp only [forStream] at ih
        simp [forStream, same, filter_cons, ih]

theorem reverse_forStream : forStream streamID packets.reverse = (forStream streamID packets).reverse := by
  simp [forStream]

theorem find?_reverse_forStream :
    packets.reverse.find? (fun packet => packet.streamID == streamID) =
      (forStream streamID packets).getLast? := by
  simp [forStream]

theorem makeRoom_forStream_same (sriChanged : Bool) (packetQueue : List (Packet α)) :
    (makeRoom streamID sriChanged packetQueue).forStream streamID =
      replaceOpen sriChanged (collapse (forStream streamID packetQueue)) := by
  rw [← flushQueue_forStream]
  simp only [makeRoom, find?_reverse_forStream, replaceOpen, FlushState.forStream, Room.forStream]
  rcases last : (forStream streamID (flushQueue packetQueue).lastPackets).getLast? with _ | saved
  · rfl
  · have belongs : saved.streamID = streamID :=
      (mem_forStream.mp (mem_of_getLast? last)).2
    by_cases ends : saved.eos = true
    · simp [ends]
    · have deleted : forStream streamID (saved :: (flushQueue packetQueue).deleted) =
          saved :: forStream streamID (flushQueue packetQueue).deleted := by
        subst belongs
        exact forStream_cons_same _ _
      simp [ends, reverse_forStream, eraseP_forStream_same, deleted]

theorem makeRoom_forStream_other {streamID other : String} (different : streamID ≠ other)
    (sriChanged : Bool) (packetQueue : List (Packet α)) :
    forStream other (makeRoom streamID sriChanged packetQueue).packetQueue =
        (collapse (forStream other packetQueue)).lastPackets ∧
      forStream other (makeRoom streamID sriChanged packetQueue).deleted =
        (collapse (forStream other packetQueue)).deleted := by
  rw [← flushQueue_forStream]
  simp only [makeRoom, find?_reverse_forStream, FlushState.forStream]
  rcases last : (forStream streamID (flushQueue packetQueue).lastPackets).getLast? with _ | saved
  · exact ⟨rfl, rfl⟩
  · have belongs : saved.streamID = streamID :=
      (mem_forStream.mp (mem_of_getLast? last)).2
    by_cases ends : saved.eos = true
    · simp [ends]
    · have outside : saved.streamID ≠ other := by rw [belongs]; exact different
      simp [ends, reverse_forStream, eraseP_forStream_other different, forStream_cons_other outside]

end MakeRoom

end Redhawk.Bulkio
