import Redhawk.Bulkio.BlockFlags
import Redhawk.Bulkio.StreamRuns

/-!
Two readers that buffer the same packets and are offered the same packets give the same answers, but for
the change flags of their blocks.
-/

namespace Redhawk.Bulkio

variable {α : Type}

def DataBlock.told (block : DataBlock α) : DataBlock α := { block with sriChangeFlags := Sri.NONE }

def Outcome.told : Outcome (Option (DataBlock α)) → Outcome (Option (DataBlock α))
  | .returns block => .returns (block.map DataBlock.told)
  | .waits => .waits

namespace BufferedInputStream

theorem fetchPacket_length {blocking : Bool} {reader : Reader α}
    (fetched : (fetchPacket blocking reader).1 = .returns true) :
    (fetchPacket blocking reader).2.port.packetQueue.length < reader.port.packetQueue.length := by
  rcases fetchPacket_cases blocking reader with ⟨_, same⟩ | ⟨packet, offers, taken⟩
  · rw [same, idle] at fetched
    split at fetched <;> cases fetched
  · obtain ⟨_, _, _, running, found⟩ := offered_some.mp offers
    have member := List.mem_of_find?_eq_some found
    have asked : InPort.requested reader.stream.streamID packet = true := List.find?_some found
    have shorter := List.length_eraseP_of_mem member asked
    have positive := List.length_pos_of_mem member
    rw [taken]
    rcases InPort.nextPacket_cases blocking reader.stream.streamID reader.port with
      ⟨fetch, same, never⟩ | ⟨_, _, next⟩
    · have taken := nextPacket_found running found blocking
      rw [same] at taken
      exact absurd taken (never packet)
    · rw [next]
      dsimp only
      omega

theorem fetchLoop_enough (requested : Nat) (blocking : Bool) {fuel more : Nat} {reader : Reader α}
    (enough : reader.port.packetQueue.length < fuel) (larger : fuel ≤ more) :
    fetchLoop requested blocking fuel reader = fetchLoop requested blocking more reader := by
  induction fuel generalizing more reader with
  | zero => omega
  | succ fuel ih =>
      obtain ⟨more, rfl⟩ : ∃ less, more = less + 1 := ⟨more - 1, by omega⟩
      simp only [fetchLoop]
      split
      · rfl
      · rcases outcome : fetchPacket blocking reader with ⟨(_ | _) | _, later⟩
        · rfl
        · have shorter := fetchPacket_length (congrArg Prod.fst outcome)
          rw [outcome] at shorter
          exact ih (by dsimp only at shorter; omega) (by omega)
        · rfl

theorem takeBlock_told (count : Nat) (front : Packet α) (rest : List (Packet α))
    {first second : BufferedInputStream α} (same : first.sampleOffset = second.sampleOffset) :
    (takeBlock count front rest first).1.told = (takeBlock count front rest second).1.told := by
  have described : ∀ stream : BufferedInputStream α, stream.sampleOffset = second.sampleOffset →
      (takeBlock count front rest stream).1.told =
        { sri := front.sri
          buffer := if second.sampleOffset + count ≤ front.buffer.length then
              (front.buffer.drop second.sampleOffset).take count
            else (assemble front.sri count second.sampleOffset 0 ({ front with
              sriChanged := false, inputQueueFlushed := false } :: rest)).1
          inputQueueFlushed := front.inputQueueFlushed
          timestamps := if second.sampleOffset + count ≤ front.buffer.length then
              [sampleTimestamp front.sri second.sampleOffset 0 front.T]
            else (assemble front.sri count second.sampleOffset 0 ({ front with
              sriChanged := false, inputQueueFlushed := false } :: rest)).2 } := by
    intro stream offset
    by_cases fits : second.sampleOffset + count ≤ front.buffer.length <;>
      cases changed : front.sriChanged <;> cases flushed : front.inputQueueFlushed <;>
      cases new : stream.newstream <;>
      simp [takeBlock, InputStream.setBlockFlags, DataBlock.told, offset, fits, changed, flushed, new, assemble]
  rw [described first same, described second rfl]

structure Matching (Related : Reader α → Reader α → Prop) : Prop where
  buffers : ∀ {first second}, Related first second →
    first.stream.queue = second.stream.queue ∧ first.stream.pending = second.stream.pending ∧
      first.stream.samplesQueued = second.stream.samplesQueued ∧
      first.stream.sampleOffset = second.stream.sampleOffset ∧
      first.stream.eosState = second.stream.eosState
  fetch : ∀ blocking {first second}, Related first second →
    (fetchPacket blocking first).1 = (fetchPacket blocking second).1 ∧
      Related (fetchPacket blocking first).2 (fetchPacket blocking second).2
  take : ∀ count {front rest first second}, Related first second → first.stream.queue = front :: rest →
    Related { first with stream := (takeBlock count front rest first.stream).2 }
      { second with stream := (takeBlock count front rest second.stream).2 }
  consume : ∀ count {first second}, Related first second →
    Related { first with stream := consumeData count first.stream }
      { second with stream := consumeData count second.stream }
  report : ∀ {first second}, Related first second →
    Related (InputStream.reportIfEosReached first) (InputStream.reportIfEosReached second)

namespace Matching

variable {Related : Reader α → Reader α → Prop} {first second : Reader α}

section

variable (matching : Matching Related)
include matching

theorem fetchLoop (requested : Nat) (blocking : Bool) (fuel : Nat) (related : Related first second) :
    (fetchLoop requested blocking fuel first).1 = (fetchLoop requested blocking fuel second).1 ∧
      Related (BufferedInputStream.fetchLoop requested blocking fuel first).2
        (BufferedInputStream.fetchLoop requested blocking fuel second).2 := by
  induction fuel generalizing first second with
  | zero => exact ⟨rfl, related⟩
  | succ fuel ih =>
      obtain ⟨_, _, queued, _, _⟩ := matching.buffers related
      obtain ⟨same, later⟩ := matching.fetch blocking related
      simp only [BufferedInputStream.fetchLoop, queued]
      split
      · exact ⟨rfl, related⟩
      · rcases outcome : fetchPacket blocking first with ⟨(_ | _) | _, first'⟩ <;>
          rcases outcome' : fetchPacket blocking second with ⟨(_ | _) | _, second'⟩ <;>
          rw [outcome, outcome'] at same later <;> cases same
        · exact ⟨rfl, later⟩
        · exact ih later
        · exact ⟨rfl, later⟩

theorem fetchUpTo (requested : Nat) (blocking : Bool) (related : Related first second) :
    (fetchUpTo requested blocking first).1 = (fetchUpTo requested blocking second).1 ∧
      Related (BufferedInputStream.fetchUpTo requested blocking first).2
        (BufferedInputStream.fetchUpTo requested blocking second).2 := by
  have bound := Nat.le_max_left first.port.packetQueue.length second.port.packetQueue.length
  have bound' := Nat.le_max_right first.port.packetQueue.length second.port.packetQueue.length
  generalize max first.port.packetQueue.length second.port.packetQueue.length = most at bound bound'
  have enough := fetchLoop_enough requested blocking (Nat.lt_succ_self first.port.packetQueue.length)
    (Nat.succ_le_succ bound)
  have enough' := fetchLoop_enough requested blocking
    (Nat.lt_succ_self second.port.packetQueue.length) (Nat.succ_le_succ bound')
  simp only [BufferedInputStream.fetchUpTo]
  rw [enough, enough']
  exact matching.fetchLoop requested blocking (most + 1) related

theorem nextSRI (blocking : Bool) (related : Related first second) :
    (nextSRI blocking first).1 = (nextSRI blocking second).1 ∧
      Related (BufferedInputStream.nextSRI blocking first).2
        (BufferedInputStream.nextSRI blocking second).2 := by
  obtain ⟨queue, _, _, _, _⟩ := matching.buffers related
  obtain ⟨same, later⟩ := matching.fetch blocking related
  simp only [BufferedInputStream.nextSRI, queue]
  split
  · exact ⟨rfl, related⟩
  · rcases outcome : fetchPacket blocking first with ⟨(_ | _) | _, first'⟩ <;>
      rcases outcome' : fetchPacket blocking second with ⟨(_ | _) | _, second'⟩ <;>
      rw [outcome, outcome'] at same later <;> cases same
    · exact ⟨rfl, later⟩
    · obtain ⟨queue', _, _, _, _⟩ := matching.buffers later
      dsimp only at queue' ⊢
      rw [queue']
      exact ⟨rfl, later⟩
    · exact ⟨rfl, later⟩

theorem skip (count : Nat) (related : Related first second) :
    (skip count first).1 = (skip count second).1 ∧
      Related (BufferedInputStream.skip count first).2 (BufferedInputStream.skip count second).2 := by
  obtain ⟨same, later⟩ := matching.nextSRI true related
  simp only [BufferedInputStream.skip]
  rcases outcome : BufferedInputStream.nextSRI true first with ⟨(_ | sri) | _, first'⟩ <;>
    rcases outcome' : BufferedInputStream.nextSRI true second with ⟨(_ | sri') | _, second'⟩ <;>
    rw [outcome, outcome'] at same later <;> cases same
  · exact ⟨rfl, later⟩
  · obtain ⟨same, filled⟩ := matching.fetchUpTo (count * if sri.complex then 2 else 1) true later
    dsimp only at same filled ⊢
    rcases outcome : BufferedInputStream.fetchUpTo (count * if sri.complex then 2 else 1) true first'
      with ⟨_ | _, first''⟩ <;>
      rcases outcome' : BufferedInputStream.fetchUpTo (count * if sri.complex then 2 else 1) true
        second' with ⟨_ | _, second''⟩ <;>
      rw [outcome, outcome'] at same filled <;> cases same
    · obtain ⟨_, _, queued, _, _⟩ := matching.buffers filled
      dsimp only at queued ⊢
      rw [queued]
      exact ⟨rfl, matching.consume _ filled⟩
    · exact ⟨rfl, filled⟩
  · exact ⟨rfl, later⟩

theorem readData (count consume : Nat) (related : Related first second) :
    (readData count consume first).1.told = (readData count consume second).1.told ∧
      Related (BufferedInputStream.readData count consume first).2
        (BufferedInputStream.readData count consume second).2 := by
  obtain ⟨queue, _, _, offset, _⟩ := matching.buffers related
  simp only [BufferedInputStream.readData, queue]
  split
  · exact ⟨rfl, related⟩
  · rename_i front rest found
    have taken := matching.take count related (queue.trans found)
    have told := takeBlock_told count front rest offset
    have sri := congrArg DataBlock.sri told
    simp only [DataBlock.told] at sri
    rw [sri]
    obtain ⟨same, skipped⟩ := matching.skip
      (if (takeBlock count front rest second.stream).1.sri.complex then consume / 2 else consume) taken
    rcases outcome : BufferedInputStream.skip
        (if (takeBlock count front rest second.stream).1.sri.complex then consume / 2 else consume)
        { first with stream := (takeBlock count front rest first.stream).2 } with ⟨_ | _, first'⟩ <;>
      rcases outcome' : BufferedInputStream.skip
        (if (takeBlock count front rest second.stream).1.sri.complex then consume / 2 else consume)
        { second with stream := (takeBlock count front rest second.stream).2 } with ⟨_ | _, second'⟩ <;>
      rw [outcome, outcome'] at same skipped <;> cases same
    · exact ⟨by simp [Outcome.told, told], skipped⟩
    · exact ⟨rfl, skipped⟩

theorem readPacket (blocking : Bool) (related : Related first second) :
    (readPacket blocking first).1.told = (readPacket blocking second).1.told ∧
      Related (BufferedInputStream.readPacket blocking first).2
        (BufferedInputStream.readPacket blocking second).2 := by
  obtain ⟨_, _, queued, _, _⟩ := matching.buffers related
  have fetches : (if second.stream.samplesQueued = 0 then fetchPacket blocking first
        else (Outcome.returns true, first)).1 =
      (if second.stream.samplesQueued = 0 then fetchPacket blocking second
        else (Outcome.returns true, second)).1 ∧
      Related (if second.stream.samplesQueued = 0 then fetchPacket blocking first
        else (Outcome.returns true, first)).2
      (if second.stream.samplesQueued = 0 then fetchPacket blocking second
        else (Outcome.returns true, second)).2 := by
    split
    · exact matching.fetch blocking related
    · exact ⟨rfl, related⟩
  obtain ⟨same, later⟩ := fetches
  simp only [BufferedInputStream.readPacket, queued]
  rcases outcome : (if second.stream.samplesQueued = 0 then fetchPacket blocking first
      else (Outcome.returns true, first)) with ⟨_ | _, first'⟩ <;>
    rcases outcome' : (if second.stream.samplesQueued = 0 then fetchPacket blocking second
      else (Outcome.returns true, second)) with ⟨_ | _, second'⟩ <;>
    rw [outcome, outcome'] at same later <;> cases same
  · obtain ⟨queue, _, queued, offset, _⟩ := matching.buffers later
    dsimp only at queue queued offset ⊢
    simp only [queue, queued, offset]
    split
    · exact ⟨rfl, matching.report later⟩
    · split
      · exact ⟨rfl, later⟩
      · exact matching.readData _ _ later
  · exact ⟨rfl, later⟩

theorem read (count consume : Nat) (blocking : Bool) (related : Related first second) :
    (read count consume blocking first).1.told = (read count consume blocking second).1.told ∧
      Related (BufferedInputStream.read count consume blocking first).2
        (BufferedInputStream.read count consume blocking second).2 := by
  obtain ⟨same, later⟩ := matching.nextSRI blocking related
  simp only [BufferedInputStream.read]
  rcases outcome : BufferedInputStream.nextSRI blocking first with ⟨(_ | sri) | _, first'⟩ <;>
    rcases outcome' : BufferedInputStream.nextSRI blocking second with ⟨(_ | sri') | _, second'⟩ <;>
    rw [outcome, outcome'] at same later <;> cases same
  · exact ⟨rfl, matching.report later⟩
  · dsimp only
    generalize (if sri.complex then 2 else 1) = item
    obtain ⟨same, filled⟩ := matching.fetchUpTo (max (consume * item) (count * item)) blocking later
    rcases outcome : BufferedInputStream.fetchUpTo (max (consume * item) (count * item)) blocking
        first' with ⟨_ | _, first''⟩ <;>
      rcases outcome' : BufferedInputStream.fetchUpTo (max (consume * item) (count * item)) blocking
        second' with ⟨_ | _, second''⟩ <;>
      rw [outcome, outcome'] at same filled <;> cases same
    · obtain ⟨_, pending, queued, _, eosState⟩ := matching.buffers filled
      dsimp only at pending queued eosState
      simp only [finishRead, pending, queued, eosState]
      split
      · exact ⟨rfl, matching.report filled⟩
      · split
        · split
          · exact ⟨rfl, filled⟩
          · exact matching.readData _ _ filled
        · exact matching.readData _ _ filled
    · exact ⟨rfl, filled⟩
  · exact ⟨rfl, later⟩

end

end Matching

end BufferedInputStream

end Redhawk.Bulkio
