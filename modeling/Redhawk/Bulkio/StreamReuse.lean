import Redhawk.Bulkio.PortLedger

/-!
Reuse of stream IDs. A push of an SRI creates a stream exactly if the last instance of its ID has
ended.
-/

namespace Redhawk.Bulkio

open Library

variable {α : Type}

namespace InPort

def IsOpen (streamID : String) (port : InPort α) : Prop :=
  ∃ stream ∈ port.objects, stream.streamID = streamID ∧
    ∀ ending ∈ (port.view streamID).endings, ending < stream.born

def CreatesStream (sri : StreamSRI) (port : InPort α) : Prop :=
  ∃ stream, stream.streamID = sri.streamID ∧ (port.pushSRI sri).objects = port.objects ++ [stream] ∧
    match port.streams.lookup sri.streamID with
    | none => (port.pushSRI sri).streams = port.streams.insert sri.streamID port.objects.length ∧
        (port.pushSRI sri).pendingStreams = port.pendingStreams
    | some _ => (port.pushSRI sri).streams = port.streams ∧
        (port.pushSRI sri).pendingStreams = port.pendingStreams ++ [(sri.streamID, port.objects.length)]

def KeepsStreams (sri : StreamSRI) (port : InPort α) : Prop :=
  (port.pushSRI sri).objects = port.objects ∧ (port.pushSRI sri).streams = port.streams ∧
    (port.pushSRI sri).pendingStreams = port.pendingStreams

def ReusesStreamIDs (port : InPort α) : Prop :=
  ∀ sri : StreamSRI, (¬port.IsOpen sri.streamID → port.CreatesStream sri) ∧
    (port.IsOpen sri.streamID → port.KeepsStreams sri)

variable {port : InPort α}

theorem pushSRI_creates {sri : StreamSRI}
    (absent : port.currentHs.lookup sri.streamID = none) : port.CreatesStream sri := by
  refine ⟨{ streamID := sri.streamID, sri := sri, born := port.history.clock }, rfl, ?_⟩
  simp only [pushSRI, absent, createStream, tick]
  cases port.streams.lookup sri.streamID <;> exact ⟨rfl, rfl, rfl⟩

theorem pushSRI_keeps {sri : StreamSRI} {current : SriEntry sri.streamID}
    (listed : port.currentHs.lookup sri.streamID = some current)
    (ahead : (port.ledger sri.streamID).queued.length < (port.unfinished sri.streamID).length) :
    port.KeepsStreams sri := by
  have line := unfinished_length sri.streamID port
  rw [queued_length] at ahead
  have differs : ¬(1 + port.pendingStreams.countP fun entry => entry.1 == sri.streamID) =
      port.packetQueue.countP fun packet => packet.streamID == sri.streamID && packet.eos := by
    omega
  simp only [KeepsStreams, pushSRI, listed, differs, if_false]
  split <;> exact ⟨rfl, rfl, rfl⟩

theorem reusable_fresh (sriCmp : StreamSRI → StreamSRI → Bool) (maxQueue : Nat)
    (streamID : String) : ((InPort.fresh sriCmp maxQueue : InPort α).ledger streamID).Reusable where
  isOpen listed := by simp [ledger, view, InPort.fresh] at listed
  ended _ birth born := by simp [ledger, births, InPort.fresh] at born
  counted := Nat.zero_le _
  single := Nat.zero_le _
  waits packet member := by simp [ledger, view, InPort.fresh, marks] at member
  born birth born := by simp [ledger, births, InPort.fresh] at born
  endedBefore ending member := by simp [ledger, view, InPort.fresh] at member

theorem Reusable.reuses (reusable : ∀ streamID, (port.ledger streamID).Reusable) : port.ReusesStreamIDs := by
  intro sri
  have kept := reusable sri.streamID
  cases found : port.currentHs.lookup sri.streamID with
  | none =>
      refine ⟨fun _ => pushSRI_creates found, ?_⟩
      rintro ⟨stream, member, named, later⟩
      have unlisted : (port.ledger sri.streamID).listed = false := by simp [ledger, view, found]
      obtain ⟨ending, received, after⟩ := kept.ended unlisted stream.born ⟨stream, member, named, rfl⟩
      have before := later ending received
      omega
  | some current =>
      have listed : (port.ledger sri.streamID).listed = true := by simp [ledger, view, found]
      have counted := kept.counted
      rw [listed, if_pos rfl] at counted
      refine ⟨fun closed => ?_, fun _ => pushSRI_keeps found counted⟩
      obtain ⟨birth, ⟨stream, member, named, born⟩, later⟩ := kept.isOpen listed
      refine absurd ⟨stream, member, named, ?_⟩ closed
      rw [born]
      exact later

end InPort

theorem streamIDs_reused (sriCmp : StreamSRI → StreamSRI → Bool) (maxQueue : Nat)
    (streamType : StreamType) (calls : List (Call α))
    (keeps : Along (InPort.step streamType) (InPort.KeepsLedgers Ledger.reuseRules)
      (InPort.fresh sriCmp maxQueue) calls) :
    (run (InPort.step streamType) (InPort.fresh sriCmp maxQueue) calls).ReusesStreamIDs := by
  refine InPort.Reusable.reuses fun streamID => ?_
  exact (InPort.run_ledgers Ledger.Reusable (fun _ _ reusable step => reusable.step step) sriCmp
    maxQueue (InPort.reusable_fresh sriCmp maxQueue streamID) keeps).2

theorem streamIDs_reused_twice :
    let calls : List (Call Nat) := [.pushSRI (Sri.create "a"), .queuePacket [1] .notSet true "a",
      .pushSRI (Sri.create "a"), .stream 0 .tryread, .stream 0 .eos]
    (run (InPort.step .buffered) (InPort.fresh Sri.DefaultComparator 2) calls).ReusesStreamIDs := by
  intro calls
  refine streamIDs_reused Sri.DefaultComparator 2 .buffered calls
    ⟨trivial, ⟨rfl, fun _ => ⟨fun refused => ?_, fun _ shallow => ?_⟩⟩, trivial, ⟨⟨by decide, ?_⟩, nofun⟩,
      ⟨⟨by decide, ?_⟩, nofun⟩, trivial⟩
  · exact absurd refused (by decide)
  · exact absurd shallow (by decide)
  · intro stream found unnamed
    obtain rfl := Option.some.inj found
    exact absurd unnamed (by decide)
  · intro stream found unnamed
    obtain rfl := Option.some.inj found
    exact absurd unnamed (by decide)

/-- The end of a disabled stream is discarded, but the stream's SRI stays in the table: pushed again,
the SRI creates no stream. -/
theorem disabled_streamID_not_reused :
    let calls : List (Call Nat) := [.pushSRI (Sri.create "a"), .stream 0 .disable,
      .queuePacket [] .notSet true "a"]
    ¬(run (InPort.step .buffered) (InPort.fresh Sri.DefaultComparator 2) calls).ReusesStreamIDs := by
  intro calls reuses
  have ended : ¬(run (InPort.step .buffered) (InPort.fresh Sri.DefaultComparator 2) calls).IsOpen "a" := by
    rintro ⟨stream, member, _, later⟩
    obtain rfl := List.mem_singleton.mp member
    exact absurd (later _ (List.mem_singleton.mpr rfl)) (by decide)
  obtain ⟨stream, _, objects, _⟩ := (reuses (Sri.create "a")).1 ended
  have more := congrArg List.length objects
  rw [List.length_append, List.length_singleton] at more
  exact absurd more (by decide)

end Redhawk.Bulkio
