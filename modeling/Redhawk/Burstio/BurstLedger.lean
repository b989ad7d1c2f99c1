import Redhawk.Burstio.BurstOutPort
import Redhawk.Library.Lists
import Redhawk.Library.Runs

/-!
Every burst accepted by the output port against the batches handed over and the queues, and every
queue created against the queues deleted, over whole runs of the port and its monitor thread.
-/

namespace Redhawk.Burstio

open Library OutPort List Prod

variable {Elem Stamp : Type}

def ofStream (streamID : String) (bursts : List (Burst Elem Stamp)) : List (Burst Elem Stamp) :=
  bursts.filter fun burst => burst.SRI.streamID == streamID

def OutPort.handed (port : OutPort Elem Stamp) : List (Burst Elem Stamp) :=
  port.sent.flatMap Sent.bursts

def OutPort.queueRef (port : OutPort Elem Stamp) (streamID : String) : QueueRef :=
  (port.findStream streamID).getD .default

def ownedRefs (table : List (String × QueueRef)) : List QueueRef :=
  (table.map snd).filter fun ref => decide (ref ≠ .default)

def OutPort.createdRefs (port : OutPort Elem Stamp) : List QueueRef :=
  (range port.created).map .owned

structure Conserved (port : OutPort Elem Stamp) : Prop where
  /-- The bursts of a stream are handed over once, in order, or lie in its queue behind them. -/
  ordered : ∀ streamID, ofStream streamID port.accepted =
    ofStream streamID port.handed ++ ofStream streamID (port.queueAt (port.queueRef streamID)).bursts
  placed : ∀ ref, ∀ burst ∈ (port.queueAt ref).bursts, ref = port.queueRef burst.SRI.streamID
  delivered : ∀ batch ∈ port.sent, ∀ burst ∈ batch.bursts,
    batch.receivers = batch.routing.receivers burst.SRI.streamID
  /-- A queue created is deleted or in the table, once in all. -/
  ledger : (ownedRefs port.streamQueues ++ port.deleted).Perm port.createdRefs
  defaultKept : .default ∉ port.deleted
  unused : port.misused = []
  final : port.destroyed = true →
    (∀ streamID, ofStream streamID port.accepted = ofStream streamID port.handed) ∧
      port.deleted.Perm port.createdRefs

def OutPort.Live (port : OutPort Elem Stamp) (ref : QueueRef) : Prop :=
  ref = .default ∨ ref ∈ port.tableRefs

def OutPort.Awaits (port : OutPort Elem Stamp) (ref : QueueRef) : Prop :=
  .flush ref ∈ port.pending ∨ port.inFlight = some (.flush ref)

def PortEvent.Clear (event : PortEvent Elem Stamp) (port : OutPort Elem Stamp) : Prop :=
  port.destroyed = false ∧ match event with
    | .pushBurst burst _ _ _ => burst.EOS = true → port.interleaved = false →
        ∀ entry ∈ port.streamQueues, entry.1 = burst.SRI.streamID → ¬port.Awaits entry.2
    | .setMaxBursts policy _ | .setByteThreshold policy _ | .setLatencyThreshold policy _
    | .flushPolicy policy => port.Live policy
    | .setRoutingMode mode =>
        (mode = .allInterleaved ↔ port.routing.mode = .allInterleaved) ∨
          port.streamQueues = [] ∧ (port.queueAt .default).bursts = []
    | .destroy => port.running = false ∧ port.inFlight = none ∧
        ∀ ref, port.Live ref → (port.queueAt ref).bursts = []
    | _ => True

@[simp] theorem ofStream_nil (streamID : String) :
    ofStream streamID ([] : List (Burst Elem Stamp)) = [] := rfl

@[simp] theorem ofStream_append (streamID : String) (first second : List (Burst Elem Stamp)) :
    ofStream streamID (first ++ second) = ofStream streamID first ++ ofStream streamID second :=
  filter_append ..

variable {streamID : String}

theorem ofStream_eq_nil {bursts : List (Burst Elem Stamp)}
    (none : ∀ burst ∈ bursts, burst.SRI.streamID ≠ streamID) : ofStream streamID bursts = [] := by
  unfold ofStream
  rw [filter_eq_nil_iff]
  intro burst member same
  exact none burst member (beq_iff_eq.mp same)

variable {port : OutPort Elem Stamp} {ref : QueueRef}

theorem findStream_iff (keys : (port.streamQueues.map fst).Nodup) :
    port.findStream streamID = some ref ↔ (streamID, ref) ∈ port.streamQueues := by
  unfold findStream
  rw [Option.map_eq_some_iff]
  constructor
  · rintro ⟨entry, found, rfl⟩
    obtain ⟨member, rfl⟩ := (find?_key keys).mp found
    exact member
  · intro member
    exact ⟨(streamID, ref), (find?_key keys).mpr ⟨member, rfl⟩, rfl⟩

theorem queueRef_owned (keys : (port.streamQueues.map fst).Nodup) {index : Nat} :
    port.queueRef streamID = .owned index ↔ (streamID, .owned index) ∈ port.streamQueues := by
  rw [← findStream_iff keys]
  unfold queueRef
  cases port.findStream streamID with
  | none => simp
  | some ref => simp

variable {next : OutPort Elem Stamp}

theorem queueRef_congr
    (keys : (port.streamQueues.map fst).Nodup) (keys' : (next.streamQueues.map fst).Nodup)
    (same : ∀ index, (streamID, QueueRef.owned index) ∈ next.streamQueues ↔
      (streamID, .owned index) ∈ port.streamQueues) :
    next.queueRef streamID = port.queueRef streamID := by
  cases old : port.queueRef streamID with
  | owned index =>
      rw [queueRef_owned keys, ← same] at old
      exact (queueRef_owned keys').mpr old
  | default =>
      cases new : next.queueRef streamID with
      | default => rfl
      | owned index =>
          rw [queueRef_owned keys', same, ← queueRef_owned keys, old] at new
          exact new.symm

theorem queueRef_of_mem (keys : (port.streamQueues.map fst).Nodup)
    (member : (streamID, ref) ∈ port.streamQueues) : port.queueRef streamID = ref := by
  unfold queueRef
  rw [(findStream_iff keys).mpr member]
  rfl

theorem ownedRefs_perm {table table' : List (String × QueueRef)} (perm : table.Perm table') :
    (ownedRefs table).Perm (ownedRefs table') :=
  (perm.map _).filter _

theorem perm_cons_erase {table : List (String × QueueRef)} (keys : (table.map fst).Nodup)
    (member : (streamID, ref) ∈ table) :
    table.Perm ((streamID, ref) :: table.filter fun entry => entry.1 != streamID) := by
  have single := filter_key_eq_singleton keys member
  have split := filter_append_perm (fun entry => entry.1 == streamID) table
  rw [single] at split
  exact split.symm

structure PortInv (port : OutPort Elem Stamp) : Prop where
  keys : (port.streamQueues.map fst).Nodup
  kinds : ∀ entry ∈ port.streamQueues, entry.2 = .default ↔ port.interleaved = true
  names : ∀ entry ∈ port.streamQueues, entry.2 ≠ .default → (port.queueAt entry.2).streamID = entry.1
  idle : port.interleaved = false → (port.queueAt .default).bursts = []
  ordered : ∀ streamID, ofStream streamID port.accepted =
    ofStream streamID port.handed ++ ofStream streamID (port.queueAt (port.queueRef streamID)).bursts
  placed : ∀ ref, ∀ burst ∈ (port.queueAt ref).bursts, ref = port.queueRef burst.SRI.streamID
  delivered : ∀ batch ∈ port.sent, ∀ burst ∈ batch.bursts,
    batch.receivers = batch.routing.receivers burst.SRI.streamID
  ledger : (ownedRefs port.streamQueues ++ port.deleted).Perm port.createdRefs
  tasks : ∀ ref, port.Awaits ref → port.Live ref
  unused : port.misused = []
  closed : port.destroyed = true → port.streamQueues = [] ∧ ∀ ref, (port.queueAt ref).bursts = []

section

variable (inv : PortInv port)

include inv

theorem PortInv.live_not_deleted (live : port.Live ref) : ref ∉ port.deleted := by
  intro gone
  have created : ref ∈ port.createdRefs := inv.ledger.subset (mem_append_right _ gone)
  obtain ⟨index, -, rfl⟩ := mem_map.mp created
  rcases live with default | member
  · cases default
  · have unique : port.createdRefs.Nodup := by
      apply Nodup.map _ nodup_range
      intro first second same
      exact QueueRef.owned.inj same
    have apart := disjoint_of_nodup_append (inv.ledger.nodup_iff.mpr unique)
    exact apart (mem_filter.mpr ⟨member, by simp⟩) gone

theorem PortInv.defaultKept :
    .default ∉ port.deleted := inv.live_not_deleted (.inl rfl)

theorem PortInv.touch_live (live : port.Live ref) : port.touch ref = port := by
  exact if_neg (inv.live_not_deleted live)

theorem PortInv.unborn (streamID : String) :
    (streamID, QueueRef.owned port.created) ∉ port.streamQueues := by
  intro member
  have owned : QueueRef.owned port.created ∈ ownedRefs port.streamQueues :=
    mem_filter.mpr ⟨mem_map_of_mem member, by simp⟩
  have created := inv.ledger.subset (mem_append_left _ owned)
  simp [createdRefs] at created

theorem PortInv.conserved : Conserved port where
  ordered := inv.ordered
  placed := inv.placed
  delivered := inv.delivered
  ledger := inv.ledger
  defaultKept := inv.defaultKept
  unused := inv.unused
  final := by
    intro destroyed
    obtain ⟨table, empty⟩ := inv.closed destroyed
    constructor
    · intro streamID
      have order := inv.ordered streamID
      rw [empty, ofStream_nil, append_nil] at order
      exact order
    · have ledger := inv.ledger
      rw [table] at ledger
      exact ledger

end

theorem PortInv.new (thresholdBytes : Nat) :
    PortInv (OutPort.new thresholdBytes : OutPort Elem Stamp) := by
  constructor <;> simp [OutPort.new, OutPort.interleaved, OutPort.handed, ownedRefs,
    OutPort.createdRefs, OutPort.Awaits]

theorem sendQueue_of_empty (empty : (port.queueAt ref).bursts = []) : port.sendQueue ref = port := by
  simp [sendQueue, empty]

theorem sendQueue_of_some (nonempty : (port.queueAt ref).bursts ≠ []) :
    port.sendQueue ref =
      (port.sendBursts (port.queueAt ref).bursts (port.queueAt ref).streamID).setQueue ref
        { port.queueAt ref with bursts := [], bytes := 0, startTime := none } := by
  simp [sendQueue, nonempty]

/-- Two ports that differ only in the queues and in what was handed over. -/
structure SameShell (port next : OutPort Elem Stamp) : Prop where
  table : next.streamQueues = port.streamQueues
  routing : next.routing = port.routing
  pending : next.pending = port.pending
  running : next.running = port.running
  inFlight : next.inFlight = port.inFlight
  destroyed : next.destroyed = port.destroyed
  created : next.created = port.created
  deleted : next.deleted = port.deleted
  misused : next.misused = port.misused
  accepted : next.accepted = port.accepted

theorem SameShell.refl (port : OutPort Elem Stamp) : SameShell port port := by
  constructor <;> rfl

theorem SameShell.trans {first second third : OutPort Elem Stamp} (one : SameShell first second)
    (two : SameShell second third) : SameShell first third where
  table := two.table.trans one.table
  routing := two.routing.trans one.routing
  pending := two.pending.trans one.pending
  running := two.running.trans one.running
  inFlight := two.inFlight.trans one.inFlight
  destroyed := two.destroyed.trans one.destroyed
  created := two.created.trans one.created
  deleted := two.deleted.trans one.deleted
  misused := two.misused.trans one.misused
  accepted := two.accepted.trans one.accepted

theorem SameShell.interleaved (shell : SameShell port next) :
    next.interleaved = port.interleaved := by
  simp only [OutPort.interleaved, shell.routing]

theorem SameShell.queueRef (shell : SameShell port next)
    (streamID : String) : next.queueRef streamID = port.queueRef streamID := by
  simp only [OutPort.queueRef, OutPort.findStream, shell.table]

theorem SameShell.live (shell : SameShell port next) (live : port.Live ref) : next.Live ref := by
  rw [OutPort.Live, OutPort.tableRefs, shell.table]
  exact live

section

variable (port : OutPort Elem Stamp)

theorem sendQueue_shell (ref : QueueRef) : SameShell port (port.sendQueue ref) := by
  by_cases empty : (port.queueAt ref).bursts = []
  · rw [sendQueue_of_empty empty]
    exact .refl port
  · rw [sendQueue_of_some empty]
    constructor <;> rfl

theorem sendQueue_streamID (ref other : QueueRef) :
    ((port.sendQueue ref).queueAt other).streamID = (port.queueAt other).streamID := by
  by_cases empty : (port.queueAt ref).bursts = []
  · rw [sendQueue_of_empty empty]
  · rw [sendQueue_of_some empty]
    by_cases same : other = ref
    · subst same
      simp [setQueue]
    · simp [setQueue, sendBursts, same]

theorem sendQueue_handed (ref : QueueRef) :
    (port.sendQueue ref).handed = port.handed ++ (port.queueAt ref).bursts := by
  by_cases empty : (port.queueAt ref).bursts = []
  · rw [sendQueue_of_empty empty, empty, append_nil]
  · rw [sendQueue_of_some empty]
    simp [handed, setQueue, sendBursts]

theorem sendQueue_bursts (ref other : QueueRef) :
    ((port.sendQueue ref).queueAt other).bursts =
      if other = ref then [] else (port.queueAt other).bursts := by
  by_cases empty : (port.queueAt ref).bursts = []
  · rw [sendQueue_of_empty empty]
    split
    next same => rw [same, empty]
    next => rfl
  · rw [sendQueue_of_some empty]
    by_cases same : other = ref
    · subst same
      simp [OutPort.setQueue]
    · simp [OutPort.setQueue, OutPort.sendBursts, same]

end

theorem PortInv.setQueue (inv : PortInv port)
    {queue : Queue Elem Stamp} (bursts : queue.bursts = (port.queueAt ref).bursts)
    (name : queue.streamID = (port.queueAt ref).streamID) : PortInv (port.setQueue ref queue) := by
  have sameBursts : ∀ other, ((port.setQueue ref queue).queueAt other).bursts = (port.queueAt other).bursts := by
    intro other
    by_cases same : other = ref
    · subst same
      simp [OutPort.setQueue, bursts]
    · simp [OutPort.setQueue, same]
  have sameName : ∀ other, ((port.setQueue ref queue).queueAt other).streamID =
      (port.queueAt other).streamID := by
    intro other
    by_cases same : other = ref
    · subst same
      simp [OutPort.setQueue, name]
    · simp [OutPort.setQueue, same]
  constructor
  · exact inv.keys
  · exact inv.kinds
  · intro entry member owned
    rw [sameName]
    exact inv.names entry member owned
  · intro streams
    rw [sameBursts]
    exact inv.idle streams
  · intro streamID
    rw [sameBursts]
    exact inv.ordered streamID
  · intro other
    rw [sameBursts]
    exact inv.placed other
  · exact inv.delivered
  · exact inv.ledger
  · exact inv.tasks
  · exact inv.unused
  · intro destroyed
    simp only [sameBursts]
    exact inv.closed destroyed

theorem receivers_of_not_connectionStreams {routing : Routing}
    (mode : routing.mode ≠ .connectionStreams) (first second : String) :
    routing.receivers first = routing.receivers second := by
  simp [Routing.receivers, Routing.isStreamRoutedToConnection, mode]

variable {burst : Burst Elem Stamp}

section

variable (inv : PortInv port)
include inv

theorem PortInv.batch_receivers (member : burst ∈ (port.queueAt ref).bursts) :
    port.routing.receivers (port.queueAt ref).streamID = port.routing.receivers burst.SRI.streamID := by
  have place := inv.placed ref burst member
  cases ref with
  | default =>
      have mode : port.interleaved = true := by
        by_contra streams
        rw [inv.idle (by simpa using streams)] at member
        cases member
      apply receivers_of_not_connectionStreams
      rw [interleaved, beq_iff_eq] at mode
      rw [mode]
      decide
  | owned index =>
      have entry := (queueRef_owned inv.keys).mp place.symm
      rw [inv.names _ entry (by simp)]

theorem PortInv.sendQueue (ref : QueueRef) : PortInv (port.sendQueue ref) := by
  have shell := sendQueue_shell port ref
  constructor
  · rw [shell.table]
    exact inv.keys
  · rw [shell.table, shell.interleaved]
    exact inv.kinds
  · intro entry member owned
    rw [shell.table] at member
    rw [sendQueue_streamID]
    exact inv.names entry member owned
  · intro streams
    rw [shell.interleaved] at streams
    rw [sendQueue_bursts, inv.idle streams, ite_self]
  · intro streamID
    rw [shell.accepted, sendQueue_handed, shell.queueRef, sendQueue_bursts, ofStream_append, inv.ordered streamID]
    by_cases same : port.queueRef streamID = ref
    · rw [if_pos same, same, ofStream_nil, append_nil]
    · have others : ofStream streamID (port.queueAt ref).bursts = [] := by
        apply ofStream_eq_nil
        intro burst member stream
        rw [← stream] at same
        exact same (inv.placed ref burst member).symm
      rw [if_neg same, others, append_nil]
  · intro other burst member
    rw [sendQueue_bursts] at member
    rw [shell.queueRef]
    split at member
    · cases member
    · exact inv.placed other burst member
  · intro batch member burst inside
    by_cases empty : (port.queueAt ref).bursts = []
    · rw [sendQueue_of_empty empty] at member
      exact inv.delivered batch member burst inside
    · rw [sendQueue_of_some empty] at member
      rcases mem_append.mp member with old | new
      · exact inv.delivered batch old burst inside
      · obtain rfl := mem_singleton.mp new
        exact inv.batch_receivers inside
  · rw [shell.table, shell.deleted, createdRefs, shell.created]
    exact inv.ledger
  · intro other awaits
    rw [Awaits, shell.pending, shell.inFlight] at awaits
    exact shell.live (inv.tasks other awaits)
  · rw [shell.misused]
    exact inv.unused
  · intro gone
    rw [shell.destroyed] at gone
    obtain ⟨noTable, noBursts⟩ := inv.closed gone
    rw [shell.table]
    refine ⟨noTable, fun other => ?_⟩
    rw [sendQueue_bursts, noBursts, ite_self]

theorem PortInv.schedule {task : Task} (live : ∀ ref, task = .flush ref → port.Live ref) :
    PortInv { port with pending := port.pending ++ [task] } := by
  constructor
  · exact inv.keys
  · exact inv.kinds
  · exact inv.names
  · exact inv.idle
  · exact inv.ordered
  · exact inv.placed
  · exact inv.delivered
  · exact inv.ledger
  · rintro ref (waiting | running)
    · rcases mem_append.mp waiting with old | new
      · exact inv.tasks ref (.inl old)
      · exact live ref (mem_singleton.mp new).symm
    · exact inv.tasks ref (.inr running)
  · exact inv.unused
  · exact inv.closed

theorem PortInv.scheduleCheck : PortInv port.scheduleCheck := inv.schedule (by simp)

theorem PortInv.executeThreadedFlush (live : port.Live ref) : PortInv (port.executeThreadedFlush ref) :=
  inv.schedule (by simpa using live)

section

variable (alive : port.destroyed = false) (entry : (burst.SRI.streamID, ref) ∈ port.streamQueues)

include alive entry

theorem PortInv.store {queue : Queue Elem Stamp}
    (bursts : queue.bursts = (port.queueAt ref).bursts ++ [burst])
    (name : queue.streamID = (port.queueAt ref).streamID) :
    PortInv { port.setQueue ref queue with accepted := port.accepted ++ [burst] } := by
  have target : port.queueRef burst.SRI.streamID = ref := queueRef_of_mem inv.keys entry
  have stored : ∀ other, ((port.setQueue ref queue).queueAt other).bursts =
      (port.queueAt other).bursts ++ if other = ref then [burst] else [] := by
    intro other
    by_cases same : other = ref
    · subst same
      simp [OutPort.setQueue, bursts]
    · simp [OutPort.setQueue, same]
  have named : ∀ other, ((port.setQueue ref queue).queueAt other).streamID = (port.queueAt other).streamID := by
    intro other
    by_cases same : other = ref
    · subst same
      simp [OutPort.setQueue, name]
    · simp [OutPort.setQueue, same]
  constructor
  · exact inv.keys
  · exact inv.kinds
  · intro other member owned
    exact (named other.2).trans (inv.names other member owned)
  · intro streams
    change port.interleaved = false at streams
    have owned : ref ≠ .default := by
      intro default
      have mode := (inv.kinds _ entry).mp default
      rw [streams] at mode
      cases mode
    refine (stored .default).trans ?_
    rw [inv.idle streams, if_neg owned.symm, append_nil]
  · intro streamID
    have order := inv.ordered streamID
    have queue := stored (port.queueRef streamID)
    change ofStream streamID (port.accepted ++ [burst]) = ofStream streamID port.handed ++
      ofStream streamID ((port.setQueue ref _).queueAt (port.queueRef streamID)).bursts
    rw [queue, ofStream_append, ofStream_append, order, append_assoc]
    congr 2
    by_cases own : burst.SRI.streamID = streamID
    · rw [← own, target, if_pos rfl]
    · have none : ofStream streamID [burst] = [] := ofStream_eq_nil (by simpa using own)
      split
      next => rfl
      next => exact none
  · intro other stray member
    rw [stored] at member
    rcases mem_append.mp member with old | new
    · exact inv.placed other stray old
    · split at new
      next same =>
        obtain rfl := mem_singleton.mp new
        exact same.trans target.symm
      next => cases new
  · exact inv.delivered
  · exact inv.ledger
  · exact inv.tasks
  · exact inv.unused
  · intro gone
    exact absurd (alive.symm.trans gone) Bool.false_ne_true

theorem PortInv.pushQueue (elementSize : Nat) (now later : Int) :
    PortInv (port.pushQueue elementSize ref burst now later) := by
  have live : port.Live ref := .inr (mem_map_of_mem entry)
  unfold OutPort.pushQueue
  rw [inv.touch_live live]
  have scheduled : ∀ next : OutPort Elem Stamp, PortInv next → next.destroyed = false →
      (burst.SRI.streamID, ref) ∈ next.streamQueues →
      PortInv { next.setQueue ref ((next.queueAt ref).push elementSize burst now) with
        accepted := next.accepted ++ [burst] } :=
    fun next inv alive entry => inv.store alive entry rfl rfl
  dsimp only
  split
  · split
    · exact (scheduled _ inv.scheduleCheck alive entry).sendQueue ref
    · exact scheduled _ inv.scheduleCheck alive entry
  · split
    · exact (scheduled _ inv alive entry).sendQueue ref
    · exact scheduled _ inv alive entry

end

end

theorem keys_addStream (ref : QueueRef)
    (keys : (port.streamQueues.map fst).Nodup) (fresh : port.findStream streamID = none) :
    ((port.addStream streamID ref).streamQueues.map fst).Nodup := by
  have perm := (perm_orderedInsert (fun a b : String × QueueRef => a.1 ≤ b.1) (streamID, ref)
    port.streamQueues).map fst
  refine perm.nodup_iff.mpr (nodup_cons.mpr ⟨?_, keys⟩)
  intro present
  obtain ⟨entry, member, same⟩ := mem_map.mp present
  have found := (findStream_iff keys).mpr (show (entry.1, entry.2) ∈ port.streamQueues from member)
  rw [same, fresh] at found
  cases found

theorem mem_addStream
    {entry : String × QueueRef} : entry ∈ (port.addStream streamID ref).streamQueues ↔
      entry = (streamID, ref) ∨ entry ∈ port.streamQueues := by
  simp [addStream, mem_orderedInsert]

theorem live_addStream {other : QueueRef}
    (live : port.Live other) : (port.addStream streamID ref).Live other := by
  rcases live with default | member
  · exact .inl default
  · obtain ⟨entry, old, same⟩ := mem_map.mp member
    exact .inr (mem_map.mpr ⟨entry, mem_addStream.mpr (.inr old), same⟩)

section

variable (inv : PortInv port) (alive : port.destroyed = false)
include inv alive

theorem PortInv.addAlias (fresh : port.findStream streamID = none)
    (mode : port.interleaved = true) : PortInv (port.addStream streamID .default) := by
  have keys := keys_addStream .default inv.keys fresh
  have refs : ∀ stream, (port.addStream streamID .default).queueRef stream = port.queueRef stream := by
    intro stream
    apply queueRef_congr inv.keys keys
    intro index
    simp [mem_addStream]
  have perm := perm_orderedInsert (fun a b : String × QueueRef => a.1 ≤ b.1)
    (streamID, QueueRef.default) port.streamQueues
  constructor
  · exact keys
  · intro entry member
    rcases mem_addStream.mp member with rfl | old
    · exact ⟨fun _ => mode, fun _ => rfl⟩
    · exact inv.kinds entry old
  · intro entry member owned
    rcases mem_addStream.mp member with rfl | old
    · exact absurd rfl owned
    · exact inv.names entry old owned
  · exact inv.idle
  · intro stream
    rw [refs]
    exact inv.ordered stream
  · intro ref burst member
    rw [refs]
    exact inv.placed ref burst member
  · exact inv.delivered
  · have refs := ownedRefs_perm perm
    exact (refs.append_right _).trans inv.ledger
  · intro ref awaits
    exact live_addStream (inv.tasks ref awaits)
  · exact inv.unused
  · intro gone
    exact absurd (alive.symm.trans gone) Bool.false_ne_true

theorem PortInv.addOwned (fresh : port.findStream streamID = none)
    (mode : port.interleaved = false) (throughFloat : Int → Int) :
    PortInv ((port.newQueue throughFloat streamID).addStream streamID (.owned port.created)) := by
  have keys : (((port.newQueue throughFloat streamID).addStream streamID
      (.owned port.created)).streamQueues.map fst).Nodup :=
    keys_addStream (.owned port.created) inv.keys fresh
  have members : ∀ entry, entry ∈ ((port.newQueue throughFloat streamID).addStream streamID
      (.owned port.created)).streamQueues ↔ entry = (streamID, .owned port.created) ∨ entry ∈ port.streamQueues :=
    fun entry => mem_addStream
  have unborn := inv.unborn
  have queues : ∀ ref, ((port.newQueue throughFloat streamID).addStream streamID
      (.owned port.created)).queueAt ref =
        if ref = .owned port.created then (port.newQueue throughFloat streamID).queueAt ref
        else port.queueAt ref := by
    intro ref
    by_cases new : ref = .owned port.created
    · rw [if_pos new]
      rfl
    · simp [OutPort.addStream, OutPort.newQueue, OutPort.setQueue, new]
  have born : ((port.newQueue throughFloat streamID).queueAt (.owned port.created)).bursts = [] ∧
      ((port.newQueue throughFloat streamID).queueAt (.owned port.created)).streamID = streamID := by
    simp [OutPort.newQueue, OutPort.setQueue]
  have own : ((port.newQueue throughFloat streamID).addStream streamID
      (.owned port.created)).queueRef streamID = .owned port.created :=
    (queueRef_owned keys).mpr ((members _).mpr (.inl rfl))
  have others : ∀ stream, stream ≠ streamID →
      ((port.newQueue throughFloat streamID).addStream streamID
        (.owned port.created)).queueRef stream = port.queueRef stream := by
    intro stream differs
    apply queueRef_congr inv.keys keys
    intro index
    rw [members]
    simp [differs]
  have old : ∀ stream, port.queueRef stream ≠ .owned port.created := by
    intro stream same
    exact unborn stream ((queueRef_owned inv.keys).mp same)
  have noQueue : port.queueRef streamID = .default := by
    rw [queueRef, fresh]
    rfl
  constructor
  · exact keys
  · intro entry member
    rcases (members entry).mp member with rfl | present
    · constructor
      · intro impossible
        cases impossible
      · intro interleaved
        exact absurd (mode.symm.trans interleaved) Bool.false_ne_true
    · exact inv.kinds entry present
  · intro entry member owned
    rcases (members entry).mp member with rfl | present
    · exact born.2
    · have differs : entry.2 ≠ .owned port.created := by
        intro same
        exact unborn entry.1 (same ▸ present)
      rw [queues, if_neg differs]
      exact inv.names entry present owned
  · intro streams
    exact inv.idle mode
  · intro stream
    have order := inv.ordered stream
    by_cases same : stream = streamID
    · subst same
      rw [noQueue, inv.idle mode] at order
      rw [own, queues, if_pos rfl, born.1]
      exact order
    · rw [others stream same, queues, if_neg (old stream)]
      exact order
  · intro ref burst member
    rw [queues] at member
    by_cases new : ref = .owned port.created
    · subst new
      rw [if_pos rfl, born.1] at member
      cases member
    · rw [if_neg new] at member
      have place := inv.placed ref burst member
      by_cases same : burst.SRI.streamID = streamID
      · rw [same, noQueue] at place
        subst place
        rw [inv.idle mode] at member
        cases member
      · rw [others _ same]
        exact place
  · exact inv.delivered
  · have perm := perm_orderedInsert (fun a b : String × QueueRef => a.1 ≤ b.1)
      (streamID, QueueRef.owned port.created) port.streamQueues
    have refs := ownedRefs_perm perm
    refine (refs.append_right _).trans ?_
    change (QueueRef.owned port.created :: (ownedRefs port.streamQueues ++ port.deleted)).Perm
      ((range (port.created + 1)).map .owned)
    rw [range_succ, map_append]
    exact (inv.ledger.cons _).trans (perm_append_singleton _ _).symm
  · intro ref awaits
    exact live_addStream (inv.tasks ref awaits)
  · exact inv.unused
  · intro gone
    exact absurd (alive.symm.trans gone) Bool.false_ne_true

theorem PortInv.getQueueForStream (throughFloat : Int → Int) (streamID : String) :
    PortInv (port.getQueueForStream throughFloat streamID).2 ∧
      (streamID, (port.getQueueForStream throughFloat streamID).1) ∈
        (port.getQueueForStream throughFloat streamID).2.streamQueues := by
  unfold OutPort.getQueueForStream
  cases fresh : port.findStream streamID with
  | some ref => exact ⟨inv, (findStream_iff inv.keys).mp fresh⟩
  | none =>
      dsimp only
      split
      next mode => exact ⟨inv.addAlias alive fresh mode, mem_addStream.mpr (.inl rfl)⟩
      next mode =>
        exact ⟨inv.addOwned alive fresh (by simpa using mode) throughFloat, mem_addStream.mpr (.inl rfl)⟩

end

theorem keys_eraseStream (streamID : String) (keys : (port.streamQueues.map fst).Nodup) :
    ((port.eraseStream streamID).streamQueues.map fst).Nodup :=
  keys.sublist (filter_sublist.map fst)

theorem mem_eraseStream
    {entry : String × QueueRef} : entry ∈ (port.eraseStream streamID).streamQueues ↔
      entry ∈ port.streamQueues ∧ entry.1 ≠ streamID := by
  simp [eraseStream]

theorem PortInv.ref_unique (inv : PortInv port)
    {first second : QueueRef} (one : (streamID, first) ∈ port.streamQueues)
    (two : (streamID, second) ∈ port.streamQueues) : first = second :=
  (queueRef_of_mem inv.keys one).symm.trans (queueRef_of_mem inv.keys two)

theorem PortInv.eraseAlias (inv : PortInv port)
    (alive : port.destroyed = false) (mode : port.interleaved = true) (streamID : String) :
    PortInv (port.eraseStream streamID) := by
  have keys := keys_eraseStream streamID inv.keys
  have aliases : ∀ entry ∈ port.streamQueues, entry.2 = .default :=
    fun entry member => (inv.kinds entry member).mpr mode
  have refs : ∀ stream, (port.eraseStream streamID).queueRef stream = port.queueRef stream := by
    intro stream
    apply queueRef_congr inv.keys keys
    intro index
    rw [mem_eraseStream]
    constructor
    · exact fun present => present.1
    · intro present
      cases aliases _ present
  have noOwned : ∀ table : List (String × QueueRef), (∀ entry ∈ table, entry.2 = .default) →
      ownedRefs table = [] := by
    intro table all
    unfold ownedRefs
    rw [filter_eq_nil_iff]
    intro ref member
    obtain ⟨entry, present, rfl⟩ := mem_map.mp member
    simp [all entry present]
  constructor
  · exact keys
  · intro entry member
    exact inv.kinds entry (mem_eraseStream.mp member).1
  · intro entry member
    exact inv.names entry (mem_eraseStream.mp member).1
  · exact inv.idle
  · intro stream
    rw [refs]
    exact inv.ordered stream
  · intro ref burst member
    rw [refs]
    exact inv.placed ref burst member
  · exact inv.delivered
  · have ledger := inv.ledger
    rw [noOwned _ aliases] at ledger
    rw [noOwned _ fun entry member => aliases entry (mem_eraseStream.mp member).1]
    exact ledger
  · intro ref awaits
    rcases inv.tasks ref awaits with default | member
    · exact .inl default
    · obtain ⟨entry, present, rfl⟩ := mem_map.mp member
      exact .inl (aliases entry present)
  · exact inv.unused
  · intro gone
    exact absurd (alive.symm.trans gone) Bool.false_ne_true

theorem PortInv.eraseOwned (inv : PortInv port) (alive : port.destroyed = false) (mode : port.interleaved = false)
    (entry : (streamID, ref) ∈ port.streamQueues)
    (empty : (port.queueAt ref).bursts = []) (idle : ¬port.Awaits ref) :
    PortInv ((port.deleteQueue ref).eraseStream streamID) := by
  have keys : (((port.deleteQueue ref).eraseStream streamID).streamQueues.map fst).Nodup :=
    keys_eraseStream streamID inv.keys
  have members : ∀ other, other ∈ ((port.deleteQueue ref).eraseStream streamID).streamQueues ↔
      other ∈ port.streamQueues ∧ other.1 ≠ streamID := fun other => mem_eraseStream
  have owned : ref ≠ .default := by
    intro default
    have interleaved := (inv.kinds _ entry).mp default
    exact absurd (mode.symm.trans interleaved) Bool.false_ne_true
  have own : port.queueRef streamID = ref := queueRef_of_mem inv.keys entry
  have ended : ((port.deleteQueue ref).eraseStream streamID).queueRef streamID = .default := by
    cases target : ((port.deleteQueue ref).eraseStream streamID).queueRef streamID with
    | default => rfl
    | owned index => exact absurd rfl ((members _).mp ((queueRef_owned keys).mp target)).2
  have others : ∀ stream, stream ≠ streamID →
      ((port.deleteQueue ref).eraseStream streamID).queueRef stream = port.queueRef stream := by
    intro stream differs
    apply queueRef_congr inv.keys keys
    intro index
    rw [members]
    simp [differs]
  constructor
  · exact keys
  · intro other member
    exact inv.kinds other ((members other).mp member).1
  · intro other member
    exact inv.names other ((members other).mp member).1
  · exact inv.idle
  · intro stream
    have order := inv.ordered stream
    by_cases same : stream = streamID
    · subst same
      rw [own, empty] at order
      rw [ended]
      change _ = _ ++ ofStream stream (port.queueAt .default).bursts
      rw [inv.idle mode]
      exact order
    · rw [others stream same]
      exact order
  · intro other burst member
    have place := inv.placed other burst member
    by_cases same : burst.SRI.streamID = streamID
    · rw [same, own] at place
      subst place
      change burst ∈ (port.queueAt other).bursts at member
      rw [empty] at member
      cases member
    · rw [others _ same]
      exact place
  · exact inv.delivered
  · have erased := (ownedRefs_perm (perm_cons_erase inv.keys entry)).symm
    have head : ownedRefs ((streamID, ref) :: port.streamQueues.filter fun other =>
        other.1 != streamID) = ref :: ownedRefs (port.streamQueues.filter fun other =>
          other.1 != streamID) := by
      simp [ownedRefs, owned]
    rw [head] at erased
    exact (perm_middle.trans (erased.append_right port.deleted)).trans inv.ledger
  · intro other awaits
    rcases inv.tasks other awaits with default | member
    · exact .inl default
    · obtain ⟨found, present, rfl⟩ := mem_map.mp member
      have differs : found.1 ≠ streamID := by
        intro same
        have unique := inv.ref_unique entry (show (streamID, found.2) ∈ _ from same ▸ present)
        rw [← unique] at awaits
        exact idle awaits
      exact .inr (mem_map_of_mem ((members found).mpr ⟨present, differs⟩))
  · exact inv.unused
  · intro gone
    exact absurd (alive.symm.trans gone) Bool.false_ne_true

end Redhawk.Burstio
