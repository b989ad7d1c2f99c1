import Redhawk.Bulkio.PortLedger

/-!
The ends of streams. A stream of the active map is open, or its end is in the queue, or it has
recorded the end, and it fetches no packet of a later stream of its ID.
-/

namespace Redhawk.Bulkio

open Library

variable {α : Type}

namespace InPort

/-- The end the stream is waiting for is in the queue: the first one received after its creation. -/
def EndQueued (stream : BufferedInputStream α) (port : InPort α) : Prop :=
  ∃ packet ∈ port.packetQueue, packet.streamID = stream.streamID ∧ packet.eos = true ∧
    Ledger.OwnEnd (port.view stream.streamID).endings stream.born packet.serial

structure RetiresStreams (port : InPort α) : Prop where
  active : ∀ streamID handle stream, port.streams.lookup streamID = some handle →
    port.objects[handle]? = some stream →
      (∀ ending ∈ (port.view streamID).endings, ending ≤ stream.born) ∨
        port.EndQueued stream ∨ stream.eosState = .received ∨ stream.eosState = .reached
  apart : ∀ stream ∈ port.objects, ∀ packet ∈ stream.fetched,
    ∀ ending ∈ (port.view stream.streamID).endings, stream.born < ending → packet.serial ≤ ending

theorem retirable_fresh (sriCmp : StreamSRI → StreamSRI → Bool) (maxQueue : Nat) (streamID : String) :
    ((InPort.fresh sriCmp maxQueue : InPort α).ledger streamID).Retirable where
  served := trivial
  sorted := .nil
  before packet member := by simp [ledger, view, InPort.fresh, marks] at member
  single := Nat.zero_le _
  endedBefore ending member := by simp [ledger, view, InPort.fresh] at member
  passedBefore fetched member := by simp [ledger, passed, InPort.fresh] at member
  apart fetched member := by simp [ledger, passed, InPort.fresh] at member

theorem Retirable.retires {streamType : StreamType} {port : InPort α} (maps : StreamMaps streamType port)
    (retirable : ∀ streamID, (port.ledger streamID).Retirable) : port.RetiresStreams where
  active streamID handle stream active found := by
    have front : (port.handles streamID).head? = some handle := by rw [← maps.headed, active]
    obtain ⟨listed, here, named, unreported⟩ := maps.listed streamID handle
      (List.mem_of_mem_head? front)
    obtain rfl : stream = listed := Option.some.inj (found.symm.trans here)
    subst named
    cases state : stream.eosState with
    | received => exact .inr (.inr (.inl rfl))
    | reached => exact .inr (.inr (.inr rfl))
    | reported => exact absurd state unreported
    | none =>
        have line : (port.ledger stream.streamID).unfinished =
            stream.born :: port.behindActive stream.streamID := by
          have split := unfinished_active front found
          rw [if_pos state] at split
          exact split
        have served := (retirable stream.streamID).served
        rw [line] at served
        cases queue : (port.ledger stream.streamID).queued with
        | nil =>
            rw [queue] at served
            exact .inl served.2.2
        | cons first rest =>
            rw [queue] at served
            rcases served.1 with unended | ⟨own, member, ownEnd⟩
            · exact .inl unended
            · have queued : (port.ledger stream.streamID).queued =
                  ((port.view stream.streamID).queue.filter Packet.eos).map Packet.serial :=
                ends_marks _
              rw [← queue, queued] at member
              obtain ⟨packet, inside, rfl⟩ := List.mem_map.mp member
              obtain ⟨queued, ends⟩ := List.mem_filter.mp inside
              obtain ⟨packets, owned⟩ := mem_forStream.mp queued
              exact .inr (.inl ⟨packet, packets, owned, ends, ownEnd⟩)
  apart stream member packet fetched ending received later :=
    (retirable stream.streamID).apart (stream.born, packet.serial)
      ⟨stream, member, rfl, packet, fetched, rfl⟩ ending received later

end InPort

theorem streams_retired (sriCmp : StreamSRI → StreamSRI → Bool) (maxQueue : Nat)
    (streamType : StreamType) (calls : List (Call α))
    (keeps : Along (InPort.step streamType) (InPort.KeepsLedgers Ledger.retireRules)
      (InPort.fresh sriCmp maxQueue) calls) :
    (run (InPort.step streamType) (InPort.fresh sriCmp maxQueue) calls).RetiresStreams := by
  have kept := fun streamID => InPort.run_ledgers Ledger.Retirable
    (fun _ _ retirable step => retirable.step step) sriCmp maxQueue
    (InPort.retirable_fresh sriCmp maxQueue streamID) keeps
  exact InPort.Retirable.retires (kept "").1 fun streamID => (kept streamID).2

theorem streams_retired_disabled :
    let calls : List (Call Nat) := [.pushSRI (Sri.create "a"), .queuePacket [1] .notSet false "a",
      .stream 0 .disable, .queuePacket [] .notSet true "a"]
    (run (InPort.step .buffered) (InPort.fresh Sri.DefaultComparator 2) calls).RetiresStreams := by
  intro calls
  refine streams_retired Sri.DefaultComparator 2 .buffered calls
    ⟨trivial, ⟨rfl, nofun⟩, ⟨⟨by decide, ?_⟩, fun _ => ?_⟩,
      ⟨rfl, fun _ => ⟨fun _ => rfl, fun accepted => ?_⟩⟩, trivial⟩
  · intro stream found unnamed
    obtain rfl := Option.some.inj found
    exact absurd unnamed (by decide)
  · intro stream found _
    obtain rfl := Option.some.inj found
    rfl
  · exact absurd accepted (by decide)

/-- The stream is disabled while its end is queued. The end is purged with the other packets, and the
stream stays in the active map as if it were open. -/
theorem disabled_stream_not_retired :
    let calls : List (Call Nat) := [.pushSRI (Sri.create "a"), .queuePacket [1] .notSet true "a",
      .stream 0 .disable]
    ¬(run (InPort.step .buffered) (InPort.fresh Sri.DefaultComparator 2) calls).RetiresStreams := by
  intro calls retires
  rcases retires.active "a" 0 _ rfl rfl with unended | ⟨packet, member, _⟩ | received | reached
  · exact absurd (unended _ (List.mem_singleton.mpr rfl)) (by decide)
  · exact absurd member List.not_mem_nil
  · exact absurd received (by decide)
  · exact absurd reached (by decide)

end Redhawk.Bulkio
