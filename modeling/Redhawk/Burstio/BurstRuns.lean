import Redhawk.Burstio.BurstLedger

/-!
The invariant of the burst output port through each of its calls and each task of its monitor
thread, and what follows for its runs.
-/

namespace Redhawk.Burstio

open Library OutPort PortEvent List

variable {Elem Stamp : Type}

structure SameTable (port next : OutPort Elem Stamp) : Prop where
  destroyed : next.destroyed = port.destroyed
  interleaved : next.interleaved = port.interleaved
  table : next.streamQueues = port.streamQueues
  awaits : ∀ ref, next.Awaits ref ↔ port.Awaits ref

variable {port : OutPort Elem Stamp}

theorem SameShell.sameTable {next : OutPort Elem Stamp} (shell : SameShell port next) :
    SameTable port next where
  destroyed := shell.destroyed
  interleaved := shell.interleaved
  table := shell.table
  awaits := by
    intro ref
    rw [Awaits, shell.pending, shell.inFlight]
    rfl

theorem SameTable.trans {first second third : OutPort Elem Stamp} (one : SameTable first second)
    (two : SameTable second third) : SameTable first third where
  destroyed := two.destroyed.trans one.destroyed
  interleaved := two.interleaved.trans one.interleaved
  table := two.table.trans one.table
  awaits := fun ref => (two.awaits ref).trans (one.awaits ref)

theorem scheduleCheck_table (port : OutPort Elem Stamp) : SameTable port port.scheduleCheck where
  destroyed := rfl
  interleaved := rfl
  table := rfl
  awaits := by simp [Awaits, scheduleCheck]

variable {ref : QueueRef}

theorem pushQueue_table (touched : port.touch ref = port) (elementSize : Nat) (burst : Burst Elem Stamp)
    (now later : Int) : SameTable port (port.pushQueue elementSize ref burst now later) := by
  have stored : ∀ next : OutPort Elem Stamp, SameTable next
      { next.setQueue ref ((next.queueAt ref).push elementSize burst now) with
        accepted := next.accepted ++ [burst] } :=
    fun next => ⟨rfl, rfl, rfl, fun _ => Iff.rfl⟩
  unfold pushQueue
  rw [touched]
  dsimp only
  split
  · split
    · exact ((scheduleCheck_table port).trans (stored _)).trans (sendQueue_shell _ ref).sameTable
    · exact (scheduleCheck_table port).trans (stored _)
  · split
    · exact (stored port).trans (sendQueue_shell _ ref).sameTable
    · exact stored port

theorem getQueueForStream_frame (port : OutPort Elem Stamp) (throughFloat : Int → Int) (streamID : String) :
    (port.getQueueForStream throughFloat streamID).2.destroyed = port.destroyed ∧
      (port.getQueueForStream throughFloat streamID).2.interleaved = port.interleaved ∧
      ∀ ref, (port.getQueueForStream throughFloat streamID).2.Awaits ref ↔ port.Awaits ref := by
  unfold getQueueForStream
  cases port.findStream streamID with
  | some ref => exact ⟨rfl, rfl, fun _ => Iff.rfl⟩
  | none =>
      dsimp only
      split
      · exact ⟨rfl, rfl, fun _ => Iff.rfl⟩
      · exact ⟨rfl, rfl, fun _ => Iff.rfl⟩

theorem PortInv.not_awaits (inv : PortInv port)
    (mode : port.interleaved = false) (throughFloat : Int → Int) {streamID : String}
    (clear : ∀ entry ∈ port.streamQueues, entry.1 = streamID → ¬port.Awaits entry.2) :
    ¬port.Awaits (port.getQueueForStream throughFloat streamID).1 := by
  unfold OutPort.getQueueForStream
  cases found : port.findStream streamID with
  | some ref => exact clear _ ((findStream_iff inv.keys).mp found) rfl
  | none =>
      rw [if_neg (by simp [mode])]
      intro awaits
      rcases inv.tasks _ awaits with default | member
      · cases default
      · obtain ⟨⟨stream, ref⟩, present, rfl⟩ := mem_map.mp member
        exact inv.unborn stream present

theorem PortInv.endBurst (inv : PortInv port) (alive : port.destroyed = false) {streamID : String}
    (entry : (streamID, ref) ∈ port.streamQueues)
    (idle : port.interleaved = false → ¬port.Awaits ref) :
    PortInv (eraseStream streamID
      (if port.interleaved then port
      else (port.flushQueue ref).deleteQueue
        (((port.flushQueue ref).findStream streamID).getD ref))) := by
  split
  next interleaved => exact inv.eraseAlias alive interleaved streamID
  next streams =>
    -- the queue is flushed, and then empty
    have live : port.Live ref := .inr (mem_map_of_mem entry)
    have shell := sendQueue_shell port ref
    have sent := inv.sendQueue ref
    have flushed : port.flushQueue ref = port.sendQueue ref := by
      rw [flushQueue, inv.touch_live live]
    have mode : port.interleaved = false := by simpa using streams
    have entry' : (streamID, ref) ∈ (port.sendQueue ref).streamQueues := shell.table ▸ entry
    rw [flushed, (findStream_iff sent.keys).mpr entry']
    apply sent.eraseOwned (shell.destroyed.trans alive) (shell.interleaved.trans mode) entry'
    · rw [sendQueue_bursts, if_pos rfl]
    · rw [shell.sameTable.awaits]
      exact idle mode

theorem PortInv.queueBurst (inv : PortInv port)
    (alive : port.destroyed = false) (elementSize : Nat) (throughFloat : Int → Int)
    {burst : Burst Elem Stamp} (isComplex : Bool) (now later : Int)
    (clear : burst.EOS = true → port.interleaved = false →
      ∀ entry ∈ port.streamQueues, entry.1 = burst.SRI.streamID → ¬port.Awaits entry.2) :
    PortInv (port.queueBurst elementSize throughFloat burst isComplex now later) := by
  obtain ⟨inv', entry⟩ := inv.getQueueForStream alive throughFloat burst.SRI.streamID
  obtain ⟨destroyed, mode, awaits⟩ :=
    getQueueForStream_frame port throughFloat burst.SRI.streamID
  have alive' := destroyed.trans alive
  have touched := inv'.touch_live (.inr (mem_map_of_mem entry))
  have pushed : ∀ filed : Burst Elem Stamp, filed.SRI.streamID = burst.SRI.streamID →
      PortInv ((port.getQueueForStream throughFloat burst.SRI.streamID).2.pushQueue elementSize
        (port.getQueueForStream throughFloat burst.SRI.streamID).1 filed now later) := by
    intro filed stream
    apply inv'.pushQueue alive'
    rw [stream]
    exact entry
  have same := fun filed => pushQueue_table touched elementSize filed now later
  unfold OutPort.queueBurst
  dsimp only
  split
  next ends =>
    apply (pushed _ (by rfl)).endBurst ((same _).destroyed.trans alive')
    · rw [(same _).table]
      exact entry
    · intro streams
      rw [(same _).interleaved, mode] at streams
      rw [(same _).awaits, awaits]
      exact inv.not_awaits streams throughFloat (clear ends streams)
  next => exact pushed _ rfl

theorem PortInv.visit {visit : OutPort Elem Stamp → QueueRef → OutPort Elem Stamp}
    (sends : ∀ port ref, port.touch ref = port → visit port ref = port ∨ visit port ref = port.sendQueue ref) :
    ∀ (refs : List QueueRef) {port : OutPort Elem Stamp}, PortInv port → (∀ ref ∈ refs, port.Live ref) →
      PortInv (refs.foldl visit port) ∧ SameShell port (refs.foldl visit port) := by
  intro refs
  induction refs with
  | nil => exact fun inv _ => ⟨inv, .refl _⟩
  | cons ref rest ih =>
      intro port inv live
      have first : PortInv (visit port ref) ∧ SameShell port (visit port ref) := by
        rcases sends port ref (inv.touch_live (live ref mem_cons_self)) with same | sent
        · rw [same]
          exact ⟨inv, .refl port⟩
        · rw [sent]
          exact ⟨inv.sendQueue ref, sendQueue_shell port ref⟩
      obtain ⟨inv', shell⟩ := ih first.1 fun other member =>
        first.2.live (live other (mem_cons_of_mem ref member))
      exact ⟨inv', first.2.trans shell⟩

theorem visited_live (port : OutPort Elem Stamp) : ∀ ref ∈ port.visited, port.Live ref := by
  intro ref member
  unfold visited at member
  split at member
  · exact .inl (mem_singleton.mp member)
  · exact .inr member

theorem PortInv.checkQueues (inv : PortInv port) (now : Int) :
    PortInv (port.checkQueues now) ∧ SameShell port (port.checkQueues now) := by
  apply PortInv.visit _ port.visited inv (visited_live port)
  intro port ref touched
  unfold checkFlush
  rw [touched]
  dsimp only
  split
  · exact .inr rfl
  · exact .inl rfl

theorem PortInv.flush (inv : PortInv port) : PortInv port.flush ∧ SameShell port port.flush := by
  apply PortInv.visit _ port.visited inv (visited_live port)
  intro port ref touched
  exact .inr (by rw [flushQueue, touched])

theorem flush_visited (refs : List QueueRef) (port : OutPort Elem Stamp) (other : QueueRef) :
    ((refs.foldl (fun port ref => port.flushQueue ref) port).queueAt other).bursts =
      if other ∈ refs then [] else (port.queueAt other).bursts := by
  have touched : ∀ (port : OutPort Elem Stamp) ref, (port.touch ref).queueAt = port.queueAt := by
    intro port ref
    unfold touch
    split
    · rfl
    · rfl
  induction refs generalizing port with
  | nil => simp
  | cons ref rest ih =>
      rw [foldl_cons, ih, OutPort.flushQueue, sendQueue_bursts, touched]
      by_cases later : other ∈ rest
      · simp [later]
      · simp [later]

section

variable (inv : PortInv port)
include inv

theorem PortInv.flush_empty (ref : QueueRef) : (port.flush.queueAt ref).bursts = [] := by
  unfold OutPort.flush
  rw [flush_visited]
  split
  next => rfl
  next unvisited =>
    cases content : (port.queueAt ref).bursts with
    | nil => rfl
    | cons burst rest =>
        have member : burst ∈ (port.queueAt ref).bursts := content ▸ mem_cons_self
        have place := inv.placed ref burst member
        exfalso
        apply unvisited
        cases mode : port.interleaved with
        | true =>
            rw [visited, if_pos mode]
            cases ref with
            | default => exact mem_cons_self
            | owned index =>
                have entry := (queueRef_owned inv.keys).mp place.symm
                cases (inv.kinds _ entry).mpr mode
        | false =>
            rw [OutPort.visited, if_neg (by simp [mode])]
            cases ref with
            | default =>
                rw [inv.idle mode] at member
                cases member
            | owned index => exact mem_map_of_mem ((queueRef_owned inv.keys).mp place.symm)

theorem PortInv.setMaxBursts (live : port.Live ref) (count : Nat) : PortInv (port.setMaxBursts ref count) := by
  have set : PortInv (port.setQueue ref { port.queueAt ref with maxBursts := count }) :=
    inv.setQueue rfl rfl
  unfold OutPort.setMaxBursts
  rw [inv.touch_live live]
  dsimp only
  split
  · exact set.executeThreadedFlush live
  · exact set

theorem PortInv.setByteThreshold
    (live : port.Live ref) (bytes : Nat) : PortInv (port.setByteThreshold ref bytes) := by
  have set : PortInv (port.setQueue ref { port.queueAt ref with thresholdBytes := bytes }) :=
    inv.setQueue rfl rfl
  unfold OutPort.setByteThreshold
  rw [inv.touch_live live]
  dsimp only
  split
  · exact set.executeThreadedFlush live
  · exact set

theorem PortInv.setLatencyThreshold (live : port.Live ref) (usec : Int) :
    PortInv (port.setLatencyThreshold ref usec) := by
  have set : PortInv (port.setQueue ref { port.queueAt ref with thresholdLatency := usec }) :=
    inv.setQueue rfl rfl
  unfold OutPort.setLatencyThreshold
  rw [inv.touch_live live]
  dsimp only
  split
  · exact set
  · exact set.scheduleCheck

theorem PortInv.flushQueue (live : port.Live ref) : PortInv (port.flushQueue ref) := by
  rw [OutPort.flushQueue, inv.touch_live live]
  exact inv.sendQueue ref

theorem PortInv.setRouting {routing : Routing}
    (allowed : (routing.mode = .allInterleaved ↔ port.routing.mode = .allInterleaved) ∨
      port.streamQueues = [] ∧ (port.queueAt .default).bursts = []) :
    PortInv { port with routing := routing } := by
  have mode : (routing.mode == .allInterleaved) = port.interleaved ∨
      port.streamQueues = [] ∧ (port.queueAt .default).bursts = [] := by
    rcases allowed with same | idle
    · left
      rw [interleaved, Bool.eq_iff_iff, beq_iff_eq, beq_iff_eq]
      exact same
    · exact .inr idle
  constructor
  · exact inv.keys
  · intro entry member
    change entry.2 = .default ↔ (routing.mode == .allInterleaved) = true
    rcases mode with same | ⟨empty, -⟩
    · rw [same]
      exact inv.kinds entry member
    · rw [empty] at member
      cases member
  · exact inv.names
  · intro streams
    rcases mode with same | ⟨-, empty⟩
    · exact inv.idle (same.symm.trans streams)
    · exact empty
  · exact inv.ordered
  · exact inv.placed
  · exact inv.delivered
  · exact inv.ledger
  · exact inv.tasks
  · exact inv.unused
  · exact inv.closed

theorem PortInv.retask {pending : List Task} {inFlight : Option Task} {running : Bool}
    (fewer : ∀ ref, .flush ref ∈ pending ∨ inFlight = some (.flush ref) → port.Awaits ref) :
    PortInv { port with pending := pending, inFlight := inFlight, running := running } := by
  constructor
  · exact inv.keys
  · exact inv.kinds
  · exact inv.names
  · exact inv.idle
  · exact inv.ordered
  · exact inv.placed
  · exact inv.delivered
  · exact inv.ledger
  · exact fun ref awaits => inv.tasks ref (fewer ref awaits)
  · exact inv.unused
  · exact inv.closed

theorem PortInv.takeTask (index : Nat) : PortInv (port.takeTask index) := by
  unfold OutPort.takeTask
  split
  · apply inv.retask
    rintro ref (left | taken)
    · exact .inl (mem_of_mem_eraseIdx left)
    · exact .inl (mem_of_getElem? taken)
  · exact inv

theorem PortInv.runInFlight (now : Int) : PortInv (port.runInFlight now) := by
  have done : PortInv { port with inFlight := none } :=
    inv.retask (by simpa [OutPort.Awaits] using fun ref waiting => Or.inl waiting)
  unfold OutPort.runInFlight
  split
  next => exact inv
  next => exact (done.checkQueues now).1
  next ref inFlight => exact done.flushQueue (inv.tasks ref (.inr inFlight))

theorem PortInv.halt : PortInv { port with running := false, pending := [] } :=
  inv.retask (by simpa [Awaits] using fun ref running => Or.inr running)

theorem PortInv.stop (now : Int) : PortInv (port.stop now) :=
  (inv.runInFlight now).halt.flush.1

end

theorem deleteQueues_eq (refs : List QueueRef) (port : OutPort Elem Stamp) :
    refs.foldl (fun port ref => port.deleteQueue ref) port =
      { port with deleted := refs.reverse ++ port.deleted } := by
  induction refs generalizing port with
  | nil => rfl
  | cons ref rest ih =>
      rw [foldl_cons, ih]
      simp [deleteQueue]

theorem PortInv.destroy (inv : PortInv port) (stopped : port.inFlight = none)
    (sent : ∀ ref, port.Live ref → (port.queueAt ref).bursts = []) : PortInv port.destroy := by
  have empty : ∀ ref, (port.queueAt ref).bursts = [] := by
    intro ref
    cases content : (port.queueAt ref).bursts with
    | nil => rfl
    | cons burst rest =>
        have place := inv.placed ref burst (content ▸ mem_cons_self)
        cases ref with
        | default => exact content.symm.trans (sent .default (.inl rfl))
        | owned index =>
            have entry := (queueRef_owned inv.keys).mp place.symm
            exact content.symm.trans (sent _ (.inr (mem_map_of_mem entry)))
  have refs : ∃ deleted, port.destroy =
      { port with streamQueues := [], pending := [], destroyed := true, deleted := deleted } ∧
      deleted.Perm port.createdRefs := by
    unfold OutPort.destroy
    split
    next interleaved =>
      refine ⟨port.deleted, rfl, ?_⟩
      have none : ownedRefs port.streamQueues = [] := by
        unfold ownedRefs
        rw [filter_eq_nil_iff]
        intro ref member
        obtain ⟨entry, present, rfl⟩ := mem_map.mp member
        simp [(inv.kinds entry present).mpr interleaved]
      have ledger := inv.ledger
      rw [none] at ledger
      exact ledger
    next streams =>
      refine ⟨port.tableRefs.reverse ++ port.deleted, by rw [deleteQueues_eq], ?_⟩
      have all : ownedRefs port.streamQueues = port.tableRefs := by
        unfold ownedRefs
        rw [filter_eq_self.mpr]
        · rfl
        · intro ref member
          obtain ⟨entry, present, rfl⟩ := mem_map.mp member
          have owned := (inv.kinds entry present).not.mpr streams
          simpa using owned
      have ledger := inv.ledger
      rw [all] at ledger
      exact ((reverse_perm _).append_right _).trans ledger
  obtain ⟨deleted, equal, ledger⟩ := refs
  rw [equal]
  constructor
  · exact nodup_nil
  · exact fun entry member => by cases member
  · exact fun entry member => by cases member
  · exact fun _ => empty .default
  · intro streamID
    have order := inv.ordered streamID
    rw [empty] at order
    refine order.trans ?_
    rw [empty]
    rfl
  · intro ref burst member
    rw [empty] at member
    cases member
  · exact inv.delivered
  · exact ledger
  · rintro ref (waiting | running)
    · cases waiting
    · exact absurd (stopped.symm.trans running) (by simp)
  · exact inv.unused
  · exact fun _ => ⟨rfl, empty⟩

theorem PortInv.step (elementSize : Nat) (throughFloat : Int → Int)
    (event : PortEvent Elem Stamp) (port : OutPort Elem Stamp) (inv : PortInv port)
    (clear : event.Clear port) : PortInv (event.step elementSize throughFloat port) := by
  obtain ⟨alive, allowed⟩ := clear
  cases event with
  | pushBurst burst isComplex now later =>
      exact inv.queueBurst alive elementSize throughFloat isComplex now later allowed
  | getStreamPolicy streamID => exact (inv.getQueueForStream alive throughFloat streamID).1
  | setMaxBursts policy count => exact inv.setMaxBursts allowed count
  | setByteThreshold policy bytes => exact inv.setByteThreshold allowed bytes
  | setLatencyThreshold policy usec => exact inv.setLatencyThreshold allowed usec
  | flushPolicy policy => exact inv.flushQueue allowed
  | setRoutingMode mode => exact inv.setRouting allowed
  | setRoutes routes => exact inv.setRouting (.inl Iff.rfl)
  | setConnections connections => exact inv.setRouting (.inl Iff.rfl)
  | monitorTakes index => exact inv.takeTask index
  | monitorRuns now => exact inv.runInFlight now
  | start => exact inv.retask fun ref awaits => awaits
  | stop now => exact inv.stop now
  | flush => exact inv.flush.1
  | destroy => exact inv.destroy allowed.2.1 allowed.2.2

def PortEvent.flushes : PortEvent Elem Stamp → Bool
  | .flush | .stop _ => true
  | _ => false

theorem PortInv.flushes_empty (elementSize : Nat) (throughFloat : Int → Int)
    {event : PortEvent Elem Stamp} (inv : PortInv port)
    (flushes : event.flushes = true) (ref : QueueRef) :
    ((event.step elementSize throughFloat port).queueAt ref).bursts = [] := by
  cases event with
  | flush => exact inv.flush_empty ref
  | stop now => exact (inv.runInFlight now).halt.flush_empty ref
  | _ => cases flushes

/-- Bursts are conserved in every run in which the kind of routing changes only while no stream and
no burst is there, policies are not used past the end of their stream, no stream ends while a flush
of its queue is due, and destruction follows a stop. -/
theorem bursts_conserved (thresholdBytes elementSize : Nat) (throughFloat : Int → Int)
    (events : List (PortEvent Elem Stamp))
    (clear : Along (step elementSize throughFloat) Clear
      (new thresholdBytes) events) :
    Conserved (run (step elementSize throughFloat) (new thresholdBytes) events) ∧
      ∀ earlier event, events = earlier ++ [event] → event.flushes = true → ∀ ref,
        ((run (step elementSize throughFloat) (new thresholdBytes)
          events).queueAt ref).bursts = [] := by
  have keeps := fun start => @invariant_run _ _ (step elementSize throughFloat)
    Clear (@PortInv Elem Stamp)
    (PortInv.step elementSize throughFloat) start
  constructor
  · exact (keeps _ (.new thresholdBytes) clear).conserved
  · rintro earlier event rfl flushes ref
    rw [run_append]
    have before := keeps _ (.new thresholdBytes) (along_append.mp clear).1
    exact before.flushes_empty elementSize throughFloat flushes ref

theorem bursts_conserved_streams :
    Conserved (run (step 4 id) (new 1000)
        [.setRoutingMode .allStreams, .pushBurst ⟨⟨"s", 0⟩, 7, [1, 2], false⟩ false 0 0,
          .pushBurst ⟨⟨"s", 0⟩, 8, [3], true⟩ false 5 5, .stop 9, .destroy] :
        OutPort Nat Nat) ∧
      ∀ (earlier : List (PortEvent Nat Nat)) (event : PortEvent Nat Nat),
        [.setRoutingMode .allStreams, .pushBurst ⟨⟨"s", 0⟩, 7, [1, 2], false⟩ false 0 0,
          .pushBurst ⟨⟨"s", 0⟩, 8, [3], true⟩ false 5 5, .stop 9, .destroy] = earlier ++ [event] →
        event.flushes = true → ∀ ref, ((run (step 4 id) (new 1000)
          [.setRoutingMode .allStreams, .pushBurst ⟨⟨"s", 0⟩, 7, [1, 2], false⟩ false 0 0,
            .pushBurst ⟨⟨"s", 0⟩, 8, [3], true⟩ false 5 5, .stop 9, .destroy] :
          OutPort Nat Nat).queueAt ref).bursts = [] := by
  apply bursts_conserved
  refine ⟨⟨rfl, .inr ⟨rfl, rfl⟩⟩, ⟨rfl, ?_⟩, ⟨rfl, ?_⟩, ⟨rfl, trivial⟩, ⟨rfl, rfl, rfl, ?_⟩, trivial⟩
  · rintro ends
    cases ends
  · rintro - - entry member -
    obtain rfl : entry = ("s", .owned 0) := mem_singleton.mp member
    rintro (waiting | running)
    · revert waiting
      decide
    · cases running
  · rintro ref (rfl | member)
    · rfl
    · cases member

/-- After a switch to streams, the end of a stream pushed before deletes the default queue. -/
theorem default_queue_deleted :
    ¬∀ events : List (PortEvent Nat Nat), Conserved (run (step 4 id) (new 1000) events) := by
  intro always
  apply (always [.pushBurst ⟨⟨"s", 0⟩, 7, [1, 2], false⟩ false 0 0, .setRoutingMode .allStreams,
    .pushBurst ⟨⟨"s", 0⟩, 8, [3], true⟩ false 5 5]).defaultKept
  decide

end Redhawk.Burstio
