import Redhawk.Burstio.BurstInPort
import Redhawk.Library.Runs

/-!
The bursts accepted by the input port against those that left it and those still queued, and the
streams it reports against the bursts of its history, over whole runs.
-/

namespace Redhawk.Burstio

open Library InPort Mark List

variable {Elem Stamp : Type}

def Mark.arrives : Mark Elem Stamp → Option (Burst Elem Stamp)
  | .accepted burst => some burst
  | .handedOut _ | .flushed _ => none

def Mark.departs : Mark Elem Stamp → Option (Burst Elem Stamp)
  | .accepted _ => none
  | .handedOut burst | .flushed burst => some burst

def Mark.Ends (streamID : String) (mark : Mark Elem Stamp) : Prop :=
  ∃ burst, mark.departs = some burst ∧ burst.EOS = true ∧ burst.SRI.streamID = streamID

/-- The stream has an accepted burst, not its last, behind which the stream has not ended. -/
def Active (streamID : String) (log : List (Mark Elem Stamp)) : Prop :=
  ∃ before burst after, log = before ++ .accepted burst :: after ∧ burst.EOS = false ∧
    burst.SRI.streamID = streamID ∧ ∀ mark ∈ after, ¬mark.Ends streamID

variable {streamID : String} {log : List (Mark Elem Stamp)}

theorem active_append {marks : List (Mark Elem Stamp)} :
    Active streamID (log ++ marks) ↔
      Active streamID marks ∨ Active streamID log ∧ ∀ mark ∈ marks, ¬mark.Ends streamID := by
  constructor
  · rintro ⟨before, burst, after, split, goesOn, named, open'⟩
    rcases append_eq_append_iff.mp split with ⟨between, rfl, rfl⟩ | ⟨between, rfl, rest⟩
    · exact .inl ⟨between, burst, after, rfl, goesOn, named, open'⟩
    · cases between with
      | nil => exact .inl ⟨[], burst, after, rest.symm, goesOn, named, open'⟩
      | cons mark between =>
          obtain ⟨rfl, rfl⟩ := cons.inj rest
          refine .inr ⟨⟨before, burst, between, rfl, goesOn, named, fun mark member => ?_⟩, fun mark member => ?_⟩
          · exact open' mark (mem_append_left marks member)
          · exact open' mark (mem_append_right between member)
  · rintro (⟨before, burst, after, rfl, goesOn, named, open'⟩ |
      ⟨⟨before, burst, after, rfl, goesOn, named, open'⟩, none⟩)
    · exact ⟨log ++ before, burst, after, by simp, goesOn, named, open'⟩
    · refine ⟨before, burst, after ++ marks, by simp, goesOn, named, fun mark member => ?_⟩
      exact (mem_append.mp member).elim (open' mark) (none mark)

theorem active_nil (streamID : String) : ¬Active streamID ([] : List (Mark Elem Stamp)) := by
  rintro ⟨before, burst, after, split, -⟩
  simp at split

theorem active_accepted (bursts : List (Burst Elem Stamp)) :
    Active streamID (log ++ bursts.map .accepted) ↔
      Active streamID log ∨ ∃ burst ∈ bursts, burst.EOS = false ∧ burst.SRI.streamID = streamID := by
  have quiet : ∀ mark ∈ bursts.map accepted, ¬mark.Ends streamID := by
    intro mark member
    obtain ⟨burst, -, rfl⟩ := mem_map.mp member
    rintro ⟨other, departs, -⟩
    cases departs
  rw [active_append]
  constructor
  · rintro (⟨before, burst, after, split, goesOn, named, -⟩ | ⟨active, -⟩)
    · have member : accepted burst ∈ bursts.map accepted := by simp [split]
      obtain ⟨other, inside, same⟩ := mem_map.mp member
      cases same
      exact .inr ⟨_, inside, goesOn, named⟩
    · exact .inl active
  · rintro (active | ⟨burst, member, goesOn, named⟩)
    · exact .inr ⟨active, quiet⟩
    · obtain ⟨before, after, split⟩ := append_of_mem member
      refine .inl ⟨before.map .accepted, burst, after.map .accepted, by simp [split], goesOn, named,
        fun mark inside => quiet mark ?_⟩
      rw [split, map_append, map_cons]
      exact mem_append_right _ (mem_cons_of_mem _ inside)

variable {leave : Burst Elem Stamp → Mark Elem Stamp}

theorem active_departed (leaves : ∀ burst, (leave burst).departs = some burst)
    (bursts : List (Burst Elem Stamp)) :
    Active streamID (log ++ bursts.map leave) ↔
      Active streamID log ∧ ∀ burst ∈ bursts, burst.EOS = true → burst.SRI.streamID ≠ streamID := by
  have ends : ∀ burst, (leave burst).Ends streamID ↔ burst.EOS = true ∧ burst.SRI.streamID = streamID := by
    intro burst
    simp [Ends, leaves]
  rw [active_append]
  constructor
  · rintro (⟨before, burst, after, split, -⟩ | ⟨active, none⟩)
    · have member : accepted burst ∈ bursts.map leave := by simp [split]
      obtain ⟨other, -, same⟩ := mem_map.mp member
      have departs := leaves other
      rw [same] at departs
      cases departs
    · refine ⟨active, fun burst member last named => ?_⟩
      exact none _ (mem_map_of_mem member) ((ends burst).mpr ⟨last, named⟩)
  · rintro ⟨active, none⟩
    refine .inr ⟨active, fun mark member => ?_⟩
    obtain ⟨burst, inside, rfl⟩ := mem_map.mp member
    rw [ends]
    rintro ⟨last, named⟩
    exact none burst inside last named

theorem mem_openStreams {bursts : List (Burst Elem Stamp)} {streamIDs : Finset String} :
    streamID ∈ openStreams bursts streamIDs ↔ streamID ∈ streamIDs ∨
      ∃ burst ∈ bursts, burst.EOS = false ∧ burst.SRI.streamID = streamID := by
  induction bursts generalizing streamIDs with
  | nil => simp [openStreams]
  | cons burst rest ih =>
      rw [openStreams, ih]
      cases last : burst.EOS with
      | true => simp [last]
      | false =>
          simp only [Bool.false_eq_true, if_false, Finset.mem_insert, exists_mem_cons_iff, last, true_and]
          rw [eq_comm, or_comm (a := burst.SRI.streamID = streamID), or_assoc]

structure QueueBooks (port : InPort Elem Stamp) : Prop where
  offset : ∀ sequence rest, port.queue = sequence :: rest → port.queueOffset < sequence.length
  start : port.queue = [] → port.queueOffset = 0
  filled : ∀ sequence ∈ port.queue, sequence ≠ []
  conserved : port.log.filterMap arrives = port.log.filterMap departs ++ port.pending
  counted : port.queuedBursts = port.pending.length

structure Accounted (port : InPort Elem Stamp) : Prop extends QueueBooks port where
  below : ∀ bursts reported, (port.pushBursts bursts reported).1 = .queued →
    port.queuedBursts < port.queueThreshold
  streams : ∀ streamID, streamID ∈ port.streamIDs ↔ Active streamID port.log

def InPortEvent.Clear (event : InPortEvent Elem Stamp) (port : InPort Elem Stamp) : Prop :=
  match event with
  | .getBursts => port.ready = true → ∀ burst ∈ port.front, burst.EOS = true → burst.SRI.streamID ∉ port.streamIDs
  | .flush => ∀ burst ∈ port.pending, burst.EOS = true → burst.SRI.streamID ∉ port.streamIDs
  | _ => True

theorem filterMap_arrives_accepted (bursts : List (Burst Elem Stamp)) :
    (bursts.map accepted).filterMap arrives = bursts ∧
      (bursts.map accepted).filterMap departs = [] := by
  constructor <;> simp [filterMap_map, Function.comp_def, arrives, departs]

theorem filterMap_departs
    (leaves : ∀ burst, (leave burst).departs = some burst) (bursts : List (Burst Elem Stamp)) :
    (bursts.map leave).filterMap arrives = [] ∧ (bursts.map leave).filterMap departs = bursts := by
  have stays : ∀ burst, (leave burst).arrives = none := by
    intro burst
    have departs := leaves burst
    cases left : leave burst with
    | accepted other =>
        rw [left] at departs
        cases departs
    | handedOut other => rfl
    | flushed other => rfl
  constructor <;> simp [filterMap_map, stays, leaves]

section Queue

variable {port : InPort Elem Stamp}

theorem pending_of_zero {queue : List (List (Burst Elem Stamp))} {port : InPort Elem Stamp}
    (held : port.queue = queue) (zero : port.queueOffset = 0) : port.pending = queue.flatten := by
  subst held
  cases split : port.queue <;> simp [pending, front, split, zero]

theorem front_eq : (if port.queueOffset = 0 then port.queue.headD [] else port.front) = port.front := by
  split
  · next zero => rw [front, zero, drop_zero]
  · rfl

theorem QueueBooks.depart (books : QueueBooks port) {next : InPort Elem Stamp}
    (bursts : List (Burst Elem Stamp)) (leave : Burst Elem Stamp → Mark Elem Stamp)
    (leaves : ∀ burst, (leave burst).departs = some burst)
    (log : next.log = port.log ++ bursts.map leave) (pending : port.pending = bursts ++ next.pending)
    (counted : next.queuedBursts = port.queuedBursts - bursts.length)
    (offset : ∀ sequence rest, next.queue = sequence :: rest → next.queueOffset < sequence.length)
    (start : next.queue = [] → next.queueOffset = 0) (filled : ∀ sequence ∈ next.queue, sequence ≠ []) :
    QueueBooks next where
  offset := offset
  start := start
  filled := filled
  conserved := by
    obtain ⟨arrives, departs⟩ := filterMap_departs leaves bursts
    rw [log, filterMap_append, filterMap_append, arrives, departs, append_nil,
      books.conserved, pending, append_assoc]
  counted := by
    rw [counted, books.counted, pending, length_append]
    omega

theorem pushBursts_below {bursts : List (Burst Elem Stamp)} {reported : Bool}
    (queued : (port.pushBursts bursts reported).1 = .queued) :
    port.queuedBursts < port.queueThreshold := by
  unfold InPort.pushBursts at queued
  split at queued
  · cases queued
  · next room =>
      split at queued
      · cases queued
      · next started =>
          have going : port.started = true := by simpa using started
          exact Nat.lt_of_not_le fun full => room ⟨going, full⟩

theorem QueueBooks.pushBursts (books : QueueBooks port) (bursts : List (Burst Elem Stamp))
    (reported : Bool) : QueueBooks (port.pushBursts bursts reported).2 := by
  unfold InPort.pushBursts
  split
  · exact ⟨books.offset, books.start, books.filled, books.conserved, books.counted⟩
  · split
    · exact books
    · obtain ⟨arrives, departs⟩ := filterMap_arrives_accepted bursts
      by_cases empty : bursts = []
      · subst empty
        simp only [isEmpty_nil, if_true, record, map_nil, append_nil]
        exact ⟨books.offset, books.start, books.filled, books.conserved, books.counted⟩
      · simp only [isEmpty_eq_false_iff.mpr empty, Bool.false_eq_true, if_false, record]
        have pending : pending { port with
            streamIDs := openStreams bursts port.streamIDs
            log := port.log ++ bursts.map .accepted
            queue := port.queue ++ [bursts]
            queuedBursts := port.queuedBursts + bursts.length } = port.pending ++ bursts := by
          cases held : port.queue with
          | nil => simp [pending, front, held, books.start held]
          | cons sequence rest => simp [pending, front, held]
        constructor
        · intro sequence rest split
          cases held : port.queue with
          | nil =>
              rw [held] at split
              obtain ⟨rfl, -⟩ := cons.inj split
              rw [books.start held]
              exact length_pos_iff.mpr empty
          | cons first others =>
              rw [held] at split
              obtain ⟨rfl, -⟩ := cons.inj split
              exact books.offset _ _ held
        · intro none
          simp at none
        · intro sequence member
          rcases mem_append.mp member with before | last
          · exact books.filled sequence before
          · rw [mem_singleton.mp last]
            exact empty
        · rw [pending]
          simp [arrives, departs, books.conserved]
        · rw [pending, length_append, ← books.counted]

theorem QueueBooks.ready (books : QueueBooks port) (ready : port.ready = true) :
    ∃ sequence rest burst others, port.queue = sequence :: rest ∧
      sequence.drop port.queueOffset = burst :: others ∧ port.front = burst :: others := by
  have count : 0 < port.queuedBursts := by
    simp only [InPort.ready, Bool.and_eq_true, decide_eq_true_eq] at ready
    exact ready.2
  cases held : port.queue with
  | nil =>
      have pending := pending_of_zero held (books.start held)
      rw [books.counted, pending] at count
      simp at count
  | cons sequence rest =>
      have within := books.offset sequence rest held
      refine ⟨sequence, rest, sequence[port.queueOffset], sequence.drop (port.queueOffset + 1), rfl,
        drop_eq_getElem_cons within, ?_⟩
      rw [InPort.front, held]
      exact drop_eq_getElem_cons within

theorem QueueBooks.getBurst (books : QueueBooks port) : QueueBooks port.getBurst.2 := by
  unfold InPort.getBurst
  cases waited : port.ready with
  | false => exact books
  | true =>
      obtain ⟨sequence, rest, burst, others, held, dropped, front⟩ := books.ready waited
      have within := books.offset sequence rest held
      have split : port.pending = burst :: (others ++ rest.flatten) := by
        simp [pending, front, held]
      have left : others = sequence.drop (port.queueOffset + 1) := by
        rw [← tail_drop, dropped, tail_cons]
      simp only [Bool.not_true, Bool.false_eq_true, if_false, held, front, record]
      split
      · next last =>
          have spent : others = [] := by
            rw [left, last, drop_length]
          refine books.depart [burst] .handedOut (fun _ => rfl) rfl ?_ rfl
            ?_ (fun _ => rfl) fun other member => books.filled other ?_
          · rw [split, spent, pending_of_zero rfl rfl]
            rfl
          · rintro other more rfl
            exact length_pos_iff.mpr (books.filled other (by rw [held]; simp))
          · rw [held]
            exact mem_cons_of_mem _ member
      · next more =>
          refine books.depart [burst] .handedOut (fun _ => rfl) rfl ?_ rfl
            ?_ (fun none => by cases none) fun other member => ?_
          · rw [split]
            simp [InPort.pending, InPort.front, left, drop_set_of_lt]
          · intro other behind split
            obtain ⟨rfl, -⟩ := cons.inj split
            rw [length_set]
            exact Nat.lt_of_le_of_ne within more
          · rcases mem_cons.mp member with rfl | behind
            · intro empty
              rw [set_eq_nil_iff] at empty
              simp [empty] at within
            · exact books.filled other (by rw [held]; exact mem_cons_of_mem _ behind)

theorem QueueBooks.getBursts (books : QueueBooks port) : QueueBooks port.getBursts.2 := by
  unfold InPort.getBursts
  cases waited : port.ready with
  | false => exact books
  | true =>
      have rest : ∀ next : InPort Elem Stamp, next.queue = port.queue.tail → next.queueOffset = 0 →
          port.pending = port.front ++ next.pending := by
        intro next held zero
        rw [pending_of_zero held zero]
        rfl
      simp only [Bool.not_true, Bool.false_eq_true, if_false, front_eq]
      have kept : ∀ sequence ∈ port.queue.tail, sequence ≠ [] := fun sequence member =>
        books.filled sequence (mem_of_mem_tail member)
      refine books.depart port.front .handedOut (fun _ => rfl) rfl ?_ rfl ?_
        (fun _ => rfl) kept
      · exact rest _ rfl rfl
      · intro sequence others split
        refine length_pos_iff.mpr (kept sequence ?_)
        change port.queue.tail = sequence :: others at split
        rw [split]
        exact mem_cons_self

theorem flush_log (port : InPort Elem Stamp) (books : QueueBooks port) :
    port.flush.log = port.log ++ port.pending.map .flushed := by
  unfold InPort.flush
  split
  · next empty =>
      have none : port.queue = [] := List.isEmpty_iff.mp empty
      rw [pending_of_zero none (books.start none)]
      simp
  · rfl

theorem QueueBooks.flush (books : QueueBooks port) : QueueBooks port.flush := by
  unfold InPort.flush
  split
  · exact books
  · refine books.depart port.pending .flushed (fun _ => rfl) rfl ?_ ?_
      (fun _ _ none => by cases none) (fun _ => rfl) fun _ member => by cases member
    · exact (append_nil _).symm
    · rw [books.counted, Nat.sub_self]

section

variable (streams : ∀ streamID, streamID ∈ port.streamIDs ↔ Active streamID port.log)
include streams

theorem streams_pushBursts (bursts : List (Burst Elem Stamp)) (reported : Bool) (streamID : String) :
    streamID ∈ (port.pushBursts bursts reported).2.streamIDs ↔
      Active streamID (port.pushBursts bursts reported).2.log := by
  have grown : streamID ∈ openStreams bursts port.streamIDs ↔
      Active streamID (port.log ++ bursts.map .accepted) := by
    rw [mem_openStreams, active_accepted, streams]
  unfold pushBursts
  split
  · exact streams streamID
  · split
    · exact streams streamID
    · split <;> exact grown

theorem streams_getBurst (streamID : String) :
    streamID ∈ port.getBurst.2.streamIDs ↔ Active streamID port.getBurst.2.log := by
  unfold getBurst
  split
  · exact streams streamID
  · split
    · next sequence rest burst others held front =>
        have closed : (streamID ∈ if burst.EOS then port.streamIDs.erase burst.SRI.streamID
            else port.streamIDs) ↔ Active streamID (port.log ++ [.handedOut burst]) := by
          have departed : Active streamID (port.log ++ [burst].map handedOut) ↔ _ :=
            active_departed (fun _ => rfl) [burst]
          rw [map_singleton] at departed
          rw [departed, ← streams]
          cases last : burst.EOS with
          | false => simp [last]
          | true =>
              simp only [if_true, Finset.mem_erase, mem_singleton, forall_eq, last, forall_const]
              exact ⟨fun ⟨other, member⟩ => ⟨member, other.symm⟩, fun ⟨member, other⟩ => ⟨other.symm, member⟩⟩
        by_cases last : port.queueOffset + 1 = sequence.length <;>
          simpa only [record, last, if_true, if_false] using closed
    · exact streams streamID

theorem streams_departed_iff
    (leave : Burst Elem Stamp → Mark Elem Stamp) (leaves : ∀ burst, (leave burst).departs = some burst)
    (bursts : List (Burst Elem Stamp)) :
    (∀ streamID, streamID ∈ port.streamIDs ↔ Active streamID (port.log ++ bursts.map leave)) ↔
      ∀ burst ∈ bursts, burst.EOS = true → burst.SRI.streamID ∉ port.streamIDs := by
  constructor
  · intro same burst member last reported
    have active := (same burst.SRI.streamID).mp reported
    exact ((active_departed leaves bursts).mp active).2 burst member last rfl
  · intro none streamID
    rw [active_departed leaves, ← streams]
    refine ⟨fun reported => ⟨reported, fun burst member last named => ?_⟩, And.left⟩
    exact none burst member last (named ▸ reported)

theorem getBursts_streams_iff :
    (∀ streamID, streamID ∈ port.getBursts.2.streamIDs ↔ Active streamID port.getBursts.2.log) ↔
      InPortEvent.Clear .getBursts port := by
  unfold getBursts InPortEvent.Clear
  cases waited : port.ready with
  | false => exact iff_of_true streams fun waits => by cases waits
  | true =>
      simp only [Bool.not_true, Bool.false_eq_true, if_false, front_eq, forall_const]
      exact streams_departed_iff streams handedOut (fun _ => rfl) port.front

end

end Queue

theorem accounted_step_iff (event : InPortEvent Elem Stamp) (port : InPort Elem Stamp)
    (accounted : Accounted port) : Accounted (event.step port) ↔ event.Clear port := by
  obtain ⟨books, -, streams⟩ := accounted
  have always : ∀ {next : InPort Elem Stamp}, QueueBooks next →
      (∀ streamID, streamID ∈ next.streamIDs ↔ Active streamID next.log) → Accounted next :=
    fun books streams => ⟨books, fun _ _ => pushBursts_below, streams⟩
  cases event with
  | pushBursts bursts reported =>
      exact iff_of_true (always (books.pushBursts bursts reported)
        (streams_pushBursts streams bursts reported)) trivial
  | getBurst => exact iff_of_true (always books.getBurst (streams_getBurst streams)) trivial
  | getBursts =>
      rw [← getBursts_streams_iff streams]
      exact ⟨Accounted.streams, always books.getBursts⟩
  | flush =>
      have exact := streams_departed_iff streams flushed (fun _ => rfl) port.pending
      rw [← flush_log port books] at exact
      have same : port.flush.streamIDs = port.streamIDs := by
        unfold flush
        split <;> rfl
      rw [← same] at exact
      refine Iff.trans ⟨Accounted.streams, always books.flush⟩ (exact.trans ?_)
      rw [same]
      exact Iff.rfl
  | setQueueThreshold count =>
      refine iff_of_true ?_ trivial
      change Accounted (port.setQueueThreshold count)
      unfold setQueueThreshold
      split
      · exact always books streams
      · exact always ⟨books.offset, books.start, books.filled, books.conserved, books.counted⟩ streams
  | blockOccurred | start | stop =>
      exact iff_of_true
        (always ⟨books.offset, books.start, books.filled, books.conserved, books.counted⟩ streams)
        trivial

/-- The books hold in every state of a run just when no sequence handed out and no flush holds the
end of a stream that is reported. -/
theorem bursts_accounted_iff (events : List (InPortEvent Elem Stamp)) :
    Along InPortEvent.step (fun event port => Accounted (event.step port))
        ({} : InPort Elem Stamp) events ↔
      Along InPortEvent.step InPortEvent.Clear {} events := by
  apply along_after_iff accounted_step_iff
  refine ⟨⟨?_, fun _ => rfl, ?_, rfl, rfl⟩, fun _ _ => pushBursts_below, fun streamID => ?_⟩
  · intro sequence rest split
    cases split
  · intro sequence member
    cases member
  · exact iff_of_false (Finset.notMem_empty streamID) (active_nil streamID)

/-- A stream that ends in a sequence handed out whole is still reported. -/
theorem ended_stream_reported :
    ¬Along InPortEvent.step (fun event port => Accounted (event.step port)) ({} : InPort Nat Nat)
      [.start, .pushBursts [⟨⟨"s", 0⟩, 0, [1], false⟩, ⟨⟨"s", 0⟩, 1, [2], true⟩] false, .getBursts] := by
  rintro ⟨-, before, after, -⟩
  have clear := (accounted_step_iff .getBursts _ before).mp after
  exact clear rfl ⟨⟨"s", 0⟩, 1, [2], true⟩ (by decide) rfl (by decide)

end Redhawk.Burstio
