import Redhawk.Bulkio.QueueFlush

/-!
What the functions of the input port change and what they leave alone, stated once for each
function, and how they move the packets of one stream.
-/

namespace Redhawk.Bulkio

variable {α : Type}

namespace InPort

section Frames

variable (streamID : String)

theorem createStream_frame (sri : StreamSRI) (port : InPort α) :
    ∃ objects streams pendingStreams, port.createStream streamID sri = { port with
      objects := objects
      streams := streams
      pendingStreams := pendingStreams
      history := { port.history with clock := port.history.clock + 1 } } := by
  simp only [createStream, tick]
  split
  · exact ⟨_, _, _, rfl⟩
  · exact ⟨_, _, _, rfl⟩

variable (port : InPort α)

theorem removeStream_frame :
    ∃ objects streams pendingStreams, port.removeStream streamID = { port with
      objects := objects
      streams := streams
      pendingStreams := pendingStreams } := by
  simp only [removeStream, closeStream, updateObject]
  split
  · split <;> exact ⟨_, _, _, rfl⟩
  · split <;> exact ⟨_, _, _, rfl⟩

theorem acceptPacket_frame (eos : Bool) (port : InPort α) :
    ∃ objects streams pendingStreams, (port.acceptPacket streamID eos).2 = { port with
      objects := objects
      streams := streams
      pendingStreams := pendingStreams } := by
  simp only [acceptPacket]
  split
  · exact ⟨_, _, _, rfl⟩
  · split
    · exact ⟨_, _, _, rfl⟩
    · split
      · exact ⟨_, _, _, rfl⟩
      · split
        · exact removeStream_frame streamID port
        · exact ⟨_, _, _, rfl⟩

theorem lookupSRI_frame :
    ∃ objects streams pendingStreams clock, port.history.clock ≤ clock ∧
      (port.lookupSRI streamID).2 = { port with
        currentHs := port.currentHs.insert streamID ((port.lookupSRI streamID).1.1, false)
        objects := objects
        streams := streams
        pendingStreams := pendingStreams
        history := { port.history with clock := clock } } := by
  simp only [lookupSRI]
  split
  · rename_i entry found
    refine ⟨port.objects, port.streams, port.pendingStreams, _, Nat.le_refl _, ?_⟩
    simp only [acknowledgeSRI, found]
  · obtain ⟨objects, streams, pendingStreams, created⟩ := createStream_frame streamID
      (Sri.create streamID)
      { port with
        currentHs := port.currentHs.insert streamID (⟨Sri.create streamID, rfl⟩, false) }
    exact ⟨objects, streams, pendingStreams, _, Nat.le_succ _, created⟩

theorem lookupSRI_entry :
    port.currentHs.lookup streamID = some (port.lookupSRI streamID).1 ∨
      (port.currentHs.lookup streamID = none ∧
        (port.lookupSRI streamID).1 = (⟨Sri.create streamID, rfl⟩, true)) := by
  simp only [lookupSRI]
  split
  · rename_i found
    exact .inl found
  · rename_i found
    exact .inr ⟨found, rfl⟩

theorem nextPacket_cases (blocking : Bool) (streamID : String) (port : InPort α) :
    (∃ fetch, port.nextPacket blocking streamID = (fetch, port) ∧ ∀ packet, fetch ≠ .packet packet) ∨
    ∃ packet, port.packetQueue.find? (requested streamID) = some packet ∧
      port.nextPacket blocking streamID = (.packet packet, { port with
        packetQueue := port.packetQueue.eraseP (requested streamID)
        blocking := port.blocking && !(packet.eos && port.handleEOS packet.streamID)
        history := { port.history with delivered := port.history.delivered ++ [packet] } }) := by
  simp only [nextPacket]
  split
  · exact .inl ⟨.null, rfl, by simp⟩
  · split
    · exact .inl ⟨_, rfl, by split <;> simp⟩
    · rename_i packet found
      refine .inr ⟨packet, found, ?_⟩
      cases ends : packet.eos && port.handleEOS packet.streamID with
      | true =>
          have same : (packet.eos && handleEOS packet.streamID { port with
              packetQueue := port.packetQueue.eraseP (requested streamID)
              history := { port.history with delivered := port.history.delivered ++ [packet] } }) =
                true := ends
          rw [if_pos same]
          simp
      | false =>
          have same : ¬(packet.eos && handleEOS packet.streamID { port with
              packetQueue := port.packetQueue.eraseP (requested streamID)
              history := { port.history with delivered := port.history.delivered ++ [packet] } }) = true := by
            rw [Bool.not_eq_true]
            exact ends
          rw [if_neg same]
          simp

theorem acceptPacket_accepted {streamID : String} {eos : Bool} {port : InPort α}
    (accepted : (port.acceptPacket streamID eos).1 = true) :
    port.acceptPacket streamID eos = (true, port) := by
  simp only [acceptPacket] at accepted ⊢
  split at accepted
  · rfl
  · split at accepted
    · rename_i enabled
      simp [enabled]
    · split at accepted
      · rename_i pending
        simp [pending]
      · split at accepted <;> simp at accepted

theorem handleEOS_frame (streamID other : String) (eos : Bool) (port : InPort α) :
    (port.acceptPacket other eos).2.handleEOS streamID = port.handleEOS streamID := by
  obtain ⟨_, _, _, frame⟩ := acceptPacket_frame other eos port
  rw [frame]
  rfl

theorem queuePacket_cases (data : List α) (T : PrecisionUTCTime) (eos : Bool) (streamID : String)
    (port : InPort α) :
    ((port.acceptPacket streamID eos).1 = false ∧ port.queuePacket data T eos streamID =
        if eos then { (port.acceptPacket streamID eos).2.noteEos streamID with
          blocking := port.blocking && !port.handleEOS streamID }
        else (port.acceptPacket streamID eos).2) ∨
    ((port.acceptPacket streamID eos) = (true, port) ∧ (port.maxQueue = 0 ∨ (data = [] ∧ eos = false)) ∧
      port.queuePacket data T eos streamID = if eos then port.noteEos streamID else port) ∨
    ((port.acceptPacket streamID eos) = (true, port) ∧ 0 < port.maxQueue ∧ (data ≠ [] ∨ eos = true) ∧
      port.queuePacket data T eos streamID =
        (port.buildPacket data T eos streamID).2.admitPacket (port.buildPacket data T eos streamID).1) := by
  cases accepted : (port.acceptPacket streamID eos).1 with
  | false =>
      refine .inl ⟨rfl, ?_⟩
      obtain ⟨_, _, _, frame⟩ := acceptPacket_frame streamID eos port
      have same := handleEOS_frame streamID streamID eos port
      simp only [queuePacket, accepted, same]
      cases eos with
      | false => rfl
      | true => cases port.handleEOS streamID <;> simp [frame, noteEos]
  | true =>
      have same := acceptPacket_accepted accepted
      right
      by_cases none : port.maxQueue = 0
      · exact .inl ⟨same, .inl none, by simp [queuePacket, same, none]⟩
      · by_cases empty : data = [] ∧ eos = false
        · obtain ⟨rfl, rfl⟩ := empty
          exact .inl ⟨same, .inr ⟨rfl, rfl⟩, by simp [queuePacket, same]⟩
        · refine .inr ⟨same, by omega, by
            rw [not_and_or, Bool.not_eq_false] at empty
            exact empty, ?_⟩
          have kept : ¬(data.isEmpty && !eos) = true := by simpa using empty
          simp only [queuePacket, same, none, if_false, kept]
          rfl

end Frames

section Objects

theorem createStream_objects (streamID : String) (sri : StreamSRI) (port : InPort α) :
    (port.createStream streamID sri).objects = port.objects ++
      [{ streamID := sri.streamID, sri := sri, born := port.history.clock }] := by
  simp only [createStream, tick]
  split <;> rfl

theorem removeStream_objects (streamID : String) (port : InPort α) :
    (port.removeStream streamID).objects =
      match port.streams.lookup streamID with
      | some current => port.objects.modify current fun stream =>
          { stream with eosState := .reported }
      | none => port.objects := by
  simp only [removeStream, closeStream, updateObject]
  cases port.streams.lookup streamID with
  | none => dsimp only; split <;> rfl
  | some current => dsimp only; split <;> rfl

theorem forall_mem_modify {Good : BufferedInputStream α → Prop}
    {update : BufferedInputStream α → BufferedInputStream α}
    (kept : ∀ stream, Good stream → Good (update stream)) (handle : Nat)
    {objects : List (BufferedInputStream α)} (good : ∀ stream ∈ objects, Good stream) :
    ∀ stream ∈ objects.modify handle update, Good stream := by
  intro stream member
  obtain ⟨index, bound, rfl⟩ := List.mem_iff_getElem.mp member
  rw [List.getElem_modify]
  split
  · exact kept _ (good _ (List.getElem_mem _))
  · exact good _ (List.getElem_mem _)

end Objects

end InPort

section Moves

theorem forStream_first {found : Packet α → Bool}
    (byID : ∀ packet other : Packet α, packet.streamID = other.streamID → found packet = found other)
    {packets : List (Packet α)} {packet : Packet α} (first : packets.find? found = some packet)
    (streamID : String) :
    forStream streamID (packet :: packets.eraseP found) = forStream streamID packets := by
  induction packets with
  | nil => simp at first
  | cons head rest ih =>
      by_cases here : found head = true
      · have same : head = packet := by simpa [here] using first
        subst same
        rw [List.eraseP_cons_of_pos here]
      · have later : rest.find? found = some packet := by simpa [here] using first
        have different : head.streamID ≠ packet.streamID := fun same => by
          rw [byID head packet same] at here
          exact here (List.find?_some later)
        rw [List.eraseP_cons_of_neg here]
        by_cases belongs : head.streamID = streamID
        · have outside : packet.streamID ≠ streamID := by rw [← belongs]; exact different.symm
          have moved := ih later
          rw [forStream_cons_other outside] at moved ⊢
          subst belongs
          rw [forStream_cons_same, forStream_cons_same, moved]
        · have moved := ih later
          simp only [forStream, List.filter_cons, beq_iff_eq, belongs, if_false] at moved ⊢
          exact moved

theorem requested_byID (streamID : String) (packet other : Packet α) (same : packet.streamID = other.streamID) :
    InPort.requested streamID packet = InPort.requested streamID other := by
  simp [InPort.requested, same]

end Moves

end Redhawk.Bulkio
