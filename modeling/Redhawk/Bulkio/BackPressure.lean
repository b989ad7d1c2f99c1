import Redhawk.Bulkio.InPortFrames
import Redhawk.Bulkio.PortCalls

/-!
Back-pressure of the input port. While a stream in the SRI table asks for blocking, the port has to
block its pushers instead of flushing the queue.
-/

namespace Redhawk.Bulkio

open Library

variable {α : Type}

section Table

def BlockingListed (table : SriTable) : Prop :=
  ∃ entry ∈ table.entries, entry.2.1.1.blocking = true

instance (table : SriTable) : Decidable (BlockingListed table) :=
  inferInstanceAs (Decidable (∃ entry ∈ table.entries, entry.2.1.1.blocking = true))

variable {streamID : String} {table : SriTable}

theorem blockingListed_insert {entry : SriEntry streamID}
    (listed : BlockingListed (table.insert streamID entry)) :
    entry.1.1.blocking = true ∨ BlockingListed table := by
  obtain ⟨other, member, blocking⟩ := listed
  rcases List.mem_cons.mp member with rfl | old
  · exact .inl blocking
  · exact .inr ⟨other, (List.kerase_sublist streamID table.entries).subset old, blocking⟩

theorem blockingListed_erase (listed : BlockingListed (table.erase streamID)) : BlockingListed table := by
  obtain ⟨other, member, blocking⟩ := listed
  exact ⟨other, (List.kerase_sublist streamID table.entries).subset member, blocking⟩

theorem blockingListed_lookup {entry : SriEntry streamID}
    (found : table.lookup streamID = some entry) (blocking : entry.1.1.blocking = true) :
    BlockingListed table :=
  ⟨⟨streamID, entry⟩, AList.mem_lookup_iff.mp found, blocking⟩

end Table

namespace InPort

/-- Receiving the end of the stream would turn blocking off against the SRI table, in which the
stream has no entry. -/
def Unblocks (streamID : String) (port : InPort α) : Prop :=
  port.currentHs.lookup streamID = none ∧ BlockingListed port.currentHs

instance (streamID : String) (port : InPort α) : Decidable (port.Unblocks streamID) :=
  inferInstanceAs (Decidable (_ ∧ _))

def BackPressure (port : InPort α) : Prop := BlockingListed port.currentHs → port.blocking = true

theorem handleEOS_blocks {streamID : String} {port : InPort α} (keeps : ¬port.Unblocks streamID)
    (listed : BlockingListed port.currentHs) : port.handleEOS streamID = false := by
  simp only [handleEOS]
  split
  · obtain ⟨entry, member, blocking⟩ := listed
    rw [Bool.not_eq_false', List.any_eq_true]
    exact ⟨entry, member, blocking⟩
  · rename_i absent
    exact absurd ⟨absent, listed⟩ keeps

section Push

variable {streamID : String} {port : InPort α}

theorem acknowledgeSRI_listed (listed : BlockingListed (port.acknowledgeSRI streamID).currentHs) :
    BlockingListed port.currentHs := by
  simp only [acknowledgeSRI] at listed
  split at listed
  · rename_i sri sriChanged found
    rcases blockingListed_insert listed with blocking | old
    · exact blockingListed_lookup found blocking
    · exact old
  · exact listed

theorem acknowledgeSRI_blocking (streamID : String) (port : InPort α) :
    (port.acknowledgeSRI streamID).blocking = port.blocking := by
  simp only [acknowledgeSRI]
  split <;> rfl

section

variable (pressure : port.BackPressure)
include pressure

theorem BackPressure.acknowledgeSRI : (port.acknowledgeSRI streamID).BackPressure := by
  intro listed
  rw [acknowledgeSRI_blocking]
  exact pressure (acknowledgeSRI_listed listed)

theorem BackPressure.enqueue (packet : Packet α) : (port.enqueue packet).BackPressure := by
  simp only [InPort.enqueue]
  split
  · exact fun listed => pressure (blockingListed_erase listed)
  · exact pressure

theorem BackPressure.createStream
    (streamID : String) (sri : StreamSRI) : (port.createStream streamID sri).BackPressure := by
  obtain ⟨_, _, _, frame⟩ := createStream_frame streamID sri port
  rw [frame]
  exact pressure

theorem BackPressure.removeStream (streamID : String) : (port.removeStream streamID).BackPressure := by
  obtain ⟨_, _, _, frame⟩ := removeStream_frame streamID port
  rw [frame]
  exact pressure

theorem BackPressure.acceptPacket
    (streamID : String) (eos : Bool) : (port.acceptPacket streamID eos).2.BackPressure := by
  obtain ⟨_, _, _, frame⟩ := acceptPacket_frame streamID eos port
  rw [frame]
  exact pressure

theorem BackPressure.pushSRI (sri : StreamSRI) : (port.pushSRI sri).BackPressure := by
  have raised : BackPressure { port with blocking := port.blocking || sri.blocking } := by
    intro listed
    simp [pressure listed]
  have listed : BackPressure { port with
      blocking := port.blocking || sri.blocking
      currentHs := port.currentHs.insert sri.streamID (⟨sri, rfl⟩, true) } := by
    intro listed
    rcases blockingListed_insert listed with blocking | old
    · simp only at blocking
      simp [blocking]
    · simp [pressure old]
  simp only [InPort.pushSRI]
  split
  · exact listed.createStream _ _
  · split
    · exact raised.createStream _ _
    · split
      · exact listed
      · exact raised

end

theorem lookupSRI_listed (listed : BlockingListed (port.lookupSRI streamID).2.currentHs) :
    BlockingListed port.currentHs := by
  obtain ⟨_, _, _, _, _, frame⟩ := lookupSRI_frame streamID port
  rw [frame] at listed
  rcases blockingListed_insert listed with blocking | old
  · rcases lookupSRI_entry streamID port with found | ⟨_, default⟩
    · exact blockingListed_lookup found blocking
    · rw [default] at blocking
      simp [Sri.create] at blocking
  · exact old

section

variable (pressure : port.BackPressure)

include pressure

theorem BackPressure.buildPacket (data : List α) (T : PrecisionUTCTime) (eos : Bool) (streamID : String) :
    (port.buildPacket data T eos streamID).2.BackPressure := by
  intro listed
  have before := pressure (lookupSRI_listed listed)
  obtain ⟨_, _, _, _, _, frame⟩ := lookupSRI_frame streamID port
  simp only [InPort.buildPacket, tick, frame]
  exact before

theorem BackPressure.admitPacket (packet : Packet α) : (port.admitPacket packet).BackPressure := by
  simp only [InPort.admitPacket]
  split
  · split
    · exact pressure
    · refine BackPressure.enqueue ?_ _
      split
      · refine BackPressure.acknowledgeSRI ?_
        exact pressure
      · exact pressure
  · exact pressure.enqueue packet

theorem BackPressure.queuePacket (data : List α) (T : PrecisionUTCTime) {eos : Bool}
    (keeps : eos = true → (port.acceptPacket streamID eos).1 = false → ¬port.Unblocks streamID) :
    (port.queuePacket data T eos streamID).BackPressure := by
  rcases queuePacket_cases data T eos streamID port with
    ⟨refused, result⟩ | ⟨_, _, result⟩ | ⟨_, _, _, result⟩
  · rw [result]
    cases eos with
    | true =>
        obtain ⟨_, _, _, frame⟩ := acceptPacket_frame streamID true port
        intro listed
        have before : BlockingListed port.currentHs := by simpa [frame, noteEos] using listed
        simp [pressure before, handleEOS_blocks (keeps rfl refused) before]
    | false => exact pressure.acceptPacket streamID false
  · rw [result]
    split
    · exact pressure
    · exact pressure
  · rw [result]
    exact (pressure.buildPacket data T eos streamID).admitPacket _

theorem BackPressure.resumePush (streamID : String) : (port.resumePush streamID).BackPressure := by
  simp only [InPort.resumePush]
  split
  · split
    · refine BackPressure.enqueue ?_ _
      exact pressure
    · exact pressure
  · exact pressure

end

end Push

section Fetch

def FetchKeepsBlocking (streamID : String) (port : InPort α) : Prop :=
  ∀ packet, port.packetQueue.find? (requested streamID) = some packet → port.breakBlock = false →
    packet.eos = true → ¬port.Unblocks packet.streamID

variable {port : InPort α} {streamID : String}

theorem BackPressure.nextPacket (pressure : port.BackPressure) (blocking : Bool)
    (keeps : port.FetchKeepsBlocking streamID) :
    (port.nextPacket blocking streamID).2.BackPressure := by
  rcases nextPacket_cases blocking streamID port with ⟨_, same, _⟩ | ⟨packet, found, fetched⟩
  · rw [same]
    exact pressure
  · rw [fetched]
    intro listed
    have before : port.blocking = true := pressure listed
    cases ends : packet.eos with
    | false => simp [before]
    | true =>
        have unbroken : port.breakBlock = false := by
          by_contra broken
          have null : port.nextPacket blocking streamID = (.null, port) := by
            simp [InPort.nextPacket, broken]
          rw [null] at fetched
          simp at fetched
        have kept := keeps packet found unbroken ends
        simp [before, handleEOS_blocks kept listed]

theorem BackPressure.getPacket (pressure : port.BackPressure) (blocking : Bool)
    (keeps : port.FetchKeepsBlocking streamID) :
    (port.getPacket blocking streamID).2.BackPressure :=
  getPacket_keeps (fun other _ kept => kept.removeStream other) (pressure.nextPacket blocking keeps)

def ReadsKeepBlocking (streamID : String) (port : InPort α) : Prop :=
  ∀ packet ∈ port.packetQueue, requested streamID packet = true → packet.eos = true →
    ¬port.Unblocks packet.streamID

theorem readsKeepBlocking_closed (streamID : String) : ReadClosed streamID fun port : InPort α =>
    port.ReadsKeepBlocking streamID ∧ port.BackPressure where
  nextPacket blocking port kept := by
    obtain ⟨keeps, pressure⟩ := kept
    refine ⟨?_, pressure.nextPacket blocking fun packet found _ ends =>
      keeps packet (List.mem_of_find?_eq_some found) (List.find?_some found) ends⟩
    rcases nextPacket_cases blocking streamID port with ⟨_, same, _⟩ | ⟨packet, _, fetched⟩
    · rw [same]
      exact keeps
    · rw [fetched]
      intro other member
      exact keeps other (List.mem_of_mem_eraseP member)
  removeStream port kept := by
    obtain ⟨keeps, pressure⟩ := kept
    refine ⟨?_, pressure.removeStream streamID⟩
    obtain ⟨_, _, _, frame⟩ := removeStream_frame streamID port
    rw [frame]
    exact keeps
  updateObject _ _ _ kept := kept

theorem nextPacket_unblocks {packet : Packet α}
    (blocking : Bool) (found : port.packetQueue.find? (requested streamID) = some packet)
    (unbroken : port.breakBlock = false) (ends : packet.eos = true)
    (unblocks : port.Unblocks packet.streamID) :
    ¬(port.nextPacket blocking streamID).2.BackPressure := by
  intro pressure
  rcases nextPacket_cases blocking streamID port with ⟨fetch, same, never⟩ | ⟨taken, first, fetched⟩
  · simp [InPort.nextPacket, unbroken, found] at same
    split at same
    · exact never packet (congrArg Prod.fst same).symm
    · exact never packet (congrArg Prod.fst same).symm
  · obtain rfl : packet = taken := Option.some.inj (found.symm.trans first)
    have turned : port.handleEOS packet.streamID = true := by
      simp [handleEOS, unblocks.1]
    rw [fetched] at pressure
    have blocked := pressure unblocks.2
    simp [ends, turned] at blocked

end Fetch

section Calls

/-- The calls that keep back-pressure: no end of a stream is taken from the queue, or discarded for a
disabled stream, that has no entry in the table while another stream there asks for blocking. -/
def KeepsBlocking (call : Call α) (port : InPort α) : Prop :=
  match call with
  | .queuePacket _ _ eos streamID =>
      eos = true → (port.acceptPacket streamID eos).1 = false → ¬port.Unblocks streamID
  | .nextPacket _ streamID | .getPacket _ streamID => port.FetchKeepsBlocking streamID
  | .stream _ .enable | .stream _ .disable => True
  | .stream handle _ => ∀ stream, port.objects[handle]? = some stream → port.ReadsKeepBlocking stream.streamID
  | _ => True

theorem disable_port (streamType : StreamType) (reader : Reader α) :
    ∃ packetQueue, (streamType.call reader .disable).port = { reader.port with packetQueue := packetQueue } := by
  have same : (streamType.call reader .disable).port = (InputStream.disable reader).port := by
    cases streamType <;> rfl
  rw [same]
  simp only [InputStream.disable]
  split
  · exact ⟨_, rfl⟩
  · exact ⟨_, rfl⟩

theorem BackPressure.callStream {port : InPort α} (pressure : port.BackPressure)
    (streamType : StreamType) {handle : Nat} {call : StreamCall}
    (keeps : KeepsBlocking (.stream handle call) port) :
    (port.callStream streamType handle call).BackPressure := by
  cases found : port.objects[handle]? with
  | none => simpa [InPort.callStream, found] using pressure
  | some stream =>
      have reads : port.ReadsKeepBlocking stream.streamID → call ≠ .disable →
          (port.callStream streamType handle call).BackPressure := fun keeps enabled =>
        ((readsKeepBlocking_closed stream.streamID).callStream streamType enabled found rfl ⟨keeps, pressure⟩).2
      cases call with
      | disable =>
          obtain ⟨_, frame⟩ := disable_port streamType ⟨stream, port⟩
          simp only [InPort.callStream, found, updateObject, frame]
          exact pressure
      | enable =>
          have frame : (streamType.call ⟨stream, port⟩ .enable).port = port := by
            cases streamType <;> rfl
          simp only [InPort.callStream, found, updateObject, frame]
          exact pressure
      | _ => exact reads (keeps stream found) (by simp)

theorem BackPressure.step {port : InPort α} (pressure : port.BackPressure)
    (streamType : StreamType) {call : Call α} (keeps : KeepsBlocking call port) :
    (port.step streamType call).BackPressure := by
  cases call with
  | pushSRI sri => exact pressure.pushSRI sri
  | queuePacket data T eos streamID => exact pressure.queuePacket data T keeps
  | resumePush streamID => exact pressure.resumePush streamID
  | nextPacket blocking streamID => exact pressure.nextPacket blocking keeps
  | getPacket blocking streamID => exact pressure.getPacket blocking keeps
  | setMaxQueueDepth newDepth => exact pressure
  | block => exact pressure
  | unblock => exact pressure
  | stream handle call => exact pressure.callStream streamType keeps

end Calls

section Dropped

theorem createStream_dropped (streamID : String) (sri : StreamSRI) (port : InPort α) :
    (port.createStream streamID sri).history.dropped = port.history.dropped := by
  obtain ⟨_, _, _, frame⟩ := createStream_frame streamID sri port
  rw [frame]

theorem pushSRI_dropped (sri : StreamSRI) (port : InPort α) :
    (port.pushSRI sri).history.dropped = port.history.dropped := by
  simp only [pushSRI]
  split
  · exact createStream_dropped _ _ _
  · split
    · exact createStream_dropped _ _ _
    · split <;> rfl

theorem enqueue_dropped (packet : Packet α) (port : InPort α) :
    (port.enqueue packet).history.dropped = port.history.dropped := by
  simp only [enqueue]
  split <;> rfl

theorem nextPacket_dropped (blocking : Bool) (streamID : String) (port : InPort α) :
    (port.nextPacket blocking streamID).2.history.dropped = port.history.dropped := by
  rcases nextPacket_cases blocking streamID port with ⟨_, same, _⟩ | ⟨_, _, fetched⟩
  · rw [same]
  · rw [fetched]

theorem removeStream_dropped (streamID : String) (port : InPort α) :
    (port.removeStream streamID).history.dropped = port.history.dropped := by
  obtain ⟨_, _, _, frame⟩ := removeStream_frame streamID port
  rw [frame]

theorem getPacket_dropped (blocking : Bool) (streamID : String) (port : InPort α) :
    (port.getPacket blocking streamID).2.history.dropped = port.history.dropped :=
  @getPacket_keeps _ (fun later => later.history.dropped = port.history.dropped) _ _ _
    (fun other later same => (removeStream_dropped other later).trans same)
    (nextPacket_dropped blocking streamID port)

theorem queuePacket_dropped {port : InPort α} (blocks : port.blocking = true) (data : List α)
    (T : PrecisionUTCTime) (eos : Bool) (streamID : String) :
    (port.queuePacket data T eos streamID).history.dropped = port.history.dropped := by
  rcases queuePacket_cases data T eos streamID port with
    ⟨_, result⟩ | ⟨_, _, result⟩ | ⟨_, _, _, result⟩
  · rw [result]
    obtain ⟨_, _, _, frame⟩ := acceptPacket_frame streamID eos port
    split <;> simp [frame, noteEos]
  · rw [result]
    split <;> rfl
  · rw [result]
    obtain ⟨_, _, _, _, _, frame⟩ := lookupSRI_frame streamID port
    have built : (port.buildPacket data T eos streamID).2.blocking = true ∧
        (port.buildPacket data T eos streamID).2.history.dropped = port.history.dropped := by
      simp only [buildPacket, tick, frame]
      exact ⟨blocks, trivial⟩
    simp only [admitPacket, built.1, if_true]
    split
    · exact built.2
    · exact (enqueue_dropped _ _).trans built.2

theorem callStream_dropped (streamType : StreamType) (handle : Nat) (call : StreamCall) (port : InPort α) :
    (port.callStream streamType handle call).history.dropped = port.history.dropped := by
  cases found : port.objects[handle]? with
  | none => simp [callStream, found]
  | some stream =>
      by_cases disables : call = .disable
      · obtain ⟨_, frame⟩ := disable_port streamType ⟨stream, port⟩
        simp [callStream, found, updateObject, disables, frame]
      · have closed : ReadClosed stream.streamID fun later : InPort α =>
            later.history.dropped = port.history.dropped :=
          ⟨fun blocking later same => (nextPacket_dropped blocking _ later).trans same,
            fun later same => (removeStream_dropped _ later).trans same, fun _ _ _ same => same⟩
        exact closed.callStream streamType disables found rfl rfl

theorem step_dropped {port : InPort α} (blocks : port.blocking = true) (streamType : StreamType)
    (call : Call α) : (port.step streamType call).history.dropped = port.history.dropped := by
  cases call with
  | pushSRI sri => exact pushSRI_dropped sri port
  | queuePacket data T eos streamID => exact queuePacket_dropped blocks data T eos streamID
  | resumePush streamID =>
      simp only [step, resumePush]
      split
      · split
        · exact enqueue_dropped _ _
        · rfl
      · rfl
  | nextPacket blocking streamID => exact nextPacket_dropped blocking streamID port
  | getPacket blocking streamID => exact getPacket_dropped blocking streamID port
  | setMaxQueueDepth newDepth => rfl
  | block => rfl
  | unblock => rfl
  | stream handle call => exact callStream_dropped streamType handle call port

end Dropped

end InPort

section Runs

def HoldsBack (streamType : StreamType) (port : InPort α) : Prop :=
  BlockingListed port.currentHs → port.blocking = true ∧
    ∀ call, (port.step streamType call).history.dropped = port.history.dropped

theorem backPressure_kept (sriCmp : StreamSRI → StreamSRI → Bool) (maxQueue : Nat)
    (streamType : StreamType) (calls : List (Call α))
    (keeps : Along (InPort.step streamType) InPort.KeepsBlocking (InPort.fresh sriCmp maxQueue) calls) :
    HoldsBack streamType (run (InPort.step streamType) (InPort.fresh sriCmp maxQueue) calls) := by
  have fresh : (InPort.fresh sriCmp maxQueue : InPort α).BackPressure := by
    rintro ⟨entry, member, _⟩
    exact absurd member List.not_mem_nil
  have pressure := invariant_run InPort.BackPressure
    (fun call port pressure keeps => pressure.step streamType keeps) fresh keeps
  intro listed
  have blocks := pressure listed
  exact ⟨blocks, fun call => InPort.step_dropped blocks streamType call⟩

theorem backPressure_kept_reused :
    let calls : List (Call Nat) := [.pushSRI { Sri.create "a" with blocking := true },
      .pushSRI (Sri.create "b"), .queuePacket [] .notSet true "b", .pushSRI (Sri.create "b"),
      .nextPacket true "b", .queuePacket [1] .notSet false "a"]
    HoldsBack .buffered
      (run (InPort.step .buffered) (InPort.fresh Sri.DefaultComparator 1) calls) := by
  intro calls
  refine backPressure_kept Sri.DefaultComparator 1 .buffered calls
    ⟨trivial, trivial, ?_, trivial, ?_, ?_, trivial⟩
  · intro _ refused
    exact absurd refused (by decide)
  · intro packet found _ _ unblocks
    obtain rfl := Option.some.inj found
    exact absurd unblocks.1 (by decide)
  · intro ends
    simp at ends

/-- Two streams are open, and only the second asks for blocking. The end of the first is taken from
the queue, and the next push to the full queue drops a packet of the second. -/
theorem eos_lifts_backPressure :
    let calls : List (Call Nat) := [.pushSRI (Sri.create "a"),
      .pushSRI { Sri.create "b" with blocking := true }, .queuePacket [1] .notSet true "a",
      .nextPacket true "a", .queuePacket [2] .notSet false "b"]
    ¬HoldsBack .buffered
      (run (InPort.step .buffered) (InPort.fresh Sri.DefaultComparator 1) calls) := by
  intro calls holds
  have blocks := (holds (by decide)).1
  exact absurd blocks (by decide)

end Runs

end Redhawk.Bulkio
