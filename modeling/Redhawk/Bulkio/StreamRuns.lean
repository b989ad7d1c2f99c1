import Redhawk.Bulkio.PortLedger
import Redhawk.Bulkio.StreamTape

/-!
What holds of every buffered stream of a port, and of the packets the port holds, over whole runs. A
property that lasts through what a stream can go through by itself holds of all streams of all
reachable ports.
-/

namespace Redhawk.Bulkio

open Library List

variable {α : Type}

def Packet.Filled (packet : Packet α) : Prop := packet.buffer ≠ [] ∨ packet.eos = true

section Queued

theorem filled_absorb {packet active : Packet α} (filled : active.Filled) : (absorb packet active).Filled := by
  rcases filled with data | ends
  · left
    have stays : swapsBuffer packet active = false := by simp [swapsBuffer, data]
    simpa [absorb, stays] using data
  · exact .inr ((absorb_eos packet active).trans ends)

theorem filled_collapse {packets : List (Packet α)} (filled : ∀ packet ∈ packets, packet.Filled) :
    ∀ packet ∈ (collapse packets).lastPackets, packet.Filled := by
  induction packets with
  | nil => simp
  | cons packet rest ih =>
      have first := filled packet (by simp)
      have later := ih fun queued member => filled queued (mem_cons_of_mem _ member)
      rcases merged : (collapse rest).lastPackets with _ | ⟨active, others⟩
      · rw [collapse_cons, mergeFront_first packet merged]
        simpa using first
      · rw [merged] at later
        cases ends : packet.eos with
        | true =>
            rw [collapse_cons, mergeFront_eos ends, merged]
            exact forall_mem_cons.mpr ⟨first, later⟩
        | false =>
            rw [collapse_cons, mergeFront_absorb ends merged]
            obtain ⟨kept, behind⟩ := forall_mem_cons.mp later
            exact forall_mem_cons.mpr ⟨filled_absorb kept, behind⟩

def StreamView.Filled (view : StreamView α) : Prop :=
  (∀ packet ∈ view.queue, packet.Filled) ∧ ∀ packet ∈ view.waiting, packet.Filled

theorem StreamView.Filled.enqueue {view : StreamView α} (filled : view.Filled) {packet : Packet α}
    (useful : packet.Filled) : (view.enqueue packet).Filled := by
  refine ⟨fun queued member => ?_, filled.2⟩
  rcases mem_append.mp member with old | new
  · exact filled.1 queued old
  · rw [mem_singleton.mp new]
    exact useful

theorem filled_replaceOpen {packets : List (Packet α)} (sriChanged : Bool)
    (filled : ∀ packet ∈ packets, packet.Filled) :
    ∀ packet ∈ (replaceOpen sriChanged (collapse packets)).packetQueue, packet.Filled := by
  have merged := filled_collapse filled
  simp only [replaceOpen]
  split
  · split
    · exact merged
    · exact fun packet member => merged packet ((dropLast_sublist _).subset member)
  · exact merged

theorem Effect.filled {streamID : String} {port : InPort α} {call : Call α} {later : StreamView α}
    (effect : Effect streamID port call later) (filled : (port.view streamID).Filled) :
    later.Filled := by
  cases effect with
  | unchanged => exact filled
  | discarded => exact filled
  | fetched _ front back queue =>
      refine ⟨fun packet member => filled.1 packet ?_, filled.2⟩
      rw [queue]
      exact mem_append_right _ member
  | listed => exact filled
  | merged => exact ⟨filled_collapse filled.1, filled.2⟩
  | waits packet built =>
      refine ⟨filled.1, fun queued member => ?_⟩
      rcases mem_append.mp member with old | new
      · exact filled.2 queued old
      · rw [mem_singleton.mp new]
        exact built.useful
  | enqueued packet built => exact StreamView.Filled.enqueue filled built.useful
  | flushed packet built =>
      have room : (((port.view streamID).acknowledge packet).makeRoom packet.sriChanged).Filled :=
        ⟨filled_replaceOpen _ filled.1, filled.2⟩
      exact room.enqueue built.useful
  | resumed packet rest waiting =>
      have behind := filled.2
      rw [waiting] at behind
      obtain ⟨first, others⟩ := forall_mem_cons.mp behind
      have less : ({ port.view streamID with waiting := rest } : StreamView α).Filled :=
        ⟨filled.1, others⟩
      exact less.enqueue first

namespace InPort

def Filled (port : InPort α) : Prop := ∀ streamID, (port.view streamID).Filled

theorem Filled.queued {port : InPort α} (filled : port.Filled) :
    ∀ packet ∈ port.packetQueue, packet.Filled :=
  fun packet member => (filled packet.streamID).1 packet (mem_forStream.mpr ⟨member, rfl⟩)

end InPort

end Queued

namespace BufferedInputStream

def closed (reader : Reader α) : Bool :=
  reader.stream.pending.isSome || !reader.stream.enabled || reader.stream.eosState != .none ||
    reader.port.breakBlock

def offered (reader : Reader α) : Option (Packet α) :=
  if closed reader then none
  else reader.port.packetQueue.find? (InPort.requested reader.stream.streamID)

def idle (blocking : Bool) (reader : Reader α) : Outcome Bool :=
  if closed reader || !blocking then .returns false else .waits

variable {reader : Reader α}

theorem closed_false : closed reader = false ↔
    reader.stream.pending = none ∧ reader.stream.enabled = true ∧ reader.stream.eosState = .none ∧
      reader.port.breakBlock = false := by
  simp [closed, Bool.or_eq_false_iff, bne_eq_false_iff_eq, Option.isSome_eq_false_iff, Option.isNone_iff_eq_none, and_assoc]

variable {packet : Packet α}

theorem offered_some :
    offered reader = some packet ↔ reader.stream.pending = none ∧ reader.stream.enabled = true ∧
      reader.stream.eosState = .none ∧ reader.port.breakBlock = false ∧
      reader.port.packetQueue.find? (InPort.requested reader.stream.streamID) = some packet := by
  simp only [offered]
  split
  · rename_i shut
    refine ⟨nofun, fun ⟨free, enabled, unended, running, _⟩ => ?_⟩
    rw [closed_false.mpr ⟨free, enabled, unended, running⟩] at shut
    cases shut
  · rename_i open'
    have clear := closed_false.mp (Bool.not_eq_true _ ▸ open')
    exact ⟨fun found => ⟨clear.1, clear.2.1, clear.2.2.1, clear.2.2.2, found⟩, fun taken => taken.2.2.2.2⟩

section

variable {port : InPort α} {streamID : String} (running : port.breakBlock = false)
  (found : port.packetQueue.find? (InPort.requested streamID) = some packet) (blocking : Bool)

include running found

theorem nextPacket_found : (port.nextPacket blocking streamID).1 = .packet packet := by
  simp only [InPort.nextPacket, running, found, Bool.false_eq_true, if_false]
  split <;> rfl

theorem nextPacket_next :
    ∃ quiet history, port.nextPacket blocking streamID = (.packet packet, { port with
      packetQueue := port.packetQueue.eraseP (InPort.requested streamID)
      blocking := quiet
      history := history }) := by
  rcases InPort.nextPacket_cases blocking streamID port with ⟨_, same, never⟩ | ⟨first, found', next⟩
  · have taken := nextPacket_found running found blocking
    rw [same] at taken
    exact absurd taken (never packet)
  · rw [found] at found'
    cases found'
    exact ⟨_, _, next⟩

end

theorem fetchPacket_closed (shut : closed reader = true) (blocking : Bool) :
    fetchPacket blocking reader = (.returns false, reader) := by
  cases waiting : reader.stream.pending with
  | some pending => simp [fetchPacket, waiting]
  | none =>
      cases enabled : reader.stream.enabled with
      | false => simp [fetchPacket, waiting, InputStream.fetchPacket, enabled]
      | true =>
          by_cases unended : reader.stream.eosState = .none
          · have broken : reader.port.breakBlock = true := by
              simpa [closed, waiting, enabled, unended] using shut
            simp [fetchPacket, waiting, InputStream.fetchPacket, enabled, unended, InPort.nextPacket, broken]
          · simp [fetchPacket, waiting, InputStream.fetchPacket, enabled, unended]

theorem fetchPacket_cases (blocking : Bool) (reader : Reader α) :
    (offered reader = none ∧ fetchPacket blocking reader = (idle blocking reader, reader)) ∨
    ∃ packet, offered reader = some packet ∧
      fetchPacket blocking reader = (.returns (handed packet reader.stream).1,
        ⟨(handed packet reader.stream).2, (reader.port.nextPacket blocking reader.stream.streamID).2⟩) := by
  cases shut : closed reader with
  | true =>
      left
      rw [fetchPacket_closed shut]
      simp [offered, idle, shut]
  | false =>
      obtain ⟨free, enabled, unended, running⟩ := closed_false.mp shut
      cases found : reader.port.packetQueue.find? (InPort.requested reader.stream.streamID) with
      | none =>
          left
          cases blocking <;>
            simp [offered, idle, shut, found, fetchPacket, free, InputStream.fetchPacket, enabled,
              unended, InPort.nextPacket, running]
      | some packet =>
          right
          refine ⟨packet, by simp [offered, shut, found], ?_⟩
          rcases InputStream.fetchPacket_cases blocking reader with
            ⟨fetch, same, never⟩ | ⟨first, _, _, taken, fetched⟩
          · have taken := nextPacket_found running found blocking
            have got : (InputStream.fetchPacket blocking reader).1 = .packet packet := by
              simp only [InputStream.fetchPacket, enabled, unended]
              rcases outcome : reader.port.nextPacket blocking reader.stream.streamID with ⟨fetch, later⟩
              rw [outcome] at taken
              cases taken
              rfl
            rw [same] at got
            exact absurd got (never packet)
          · rw [nextPacket_found running found blocking] at taken
            cases taken
            simp only [fetchPacket, free, fetched, handed, BufferedInputStream.taken,
              Option.isSome_none, Bool.false_eq_true, if_false]
            split <;> rfl

def disabled (stream : BufferedInputStream α) : BufferedInputStream α :=
  { stream with
    enabled := false
    queue := []
    sampleOffset := 0
    samplesQueued := 0
    deleted := stream.deleted ++ stream.queue ++ stream.pending.toList }

theorem disable_stream (reader : Reader α) : (disable reader).stream = reader.stream.disabled := by
  simp only [disable, InputStream.disable]
  split <;> rfl

/-- What a property of a buffered stream must survive to hold over whole runs. A stream is disabled
only where `Allowed` holds. -/
structure Lasting (Allowed Good : BufferedInputStream α → Prop) : Prop where
  opened : ∀ streamID sri born, Good { streamID := streamID, sri := sri, born := born }
  reported : ∀ stream, Good stream → Good { stream with eosState := .reported }
  handed : ∀ packet stream, Good stream → packet.Filled → stream.eosState = .none →
    stream.pending = none → Good (handed packet stream).2
  taken : ∀ count front rest stream, Good stream → stream.queue = front :: rest →
    Good (takeBlock count front rest stream).2
  consumed : ∀ count stream, Good stream → Good (consumeData count stream)
  enabled : ∀ stream, Good stream → Good { stream with enabled := true }
  disabled : ∀ stream, Good stream → Allowed stream → Good stream.disabled

end BufferedInputStream

namespace InPort

variable {Allowed Good : BufferedInputStream α → Prop}

def AllStreams (Good : BufferedInputStream α → Prop) (port : InPort α) : Prop :=
  ∀ stream ∈ port.objects, Good stream

variable {port : InPort α}

section

variable (lasting : BufferedInputStream.Lasting Allowed Good) (all : port.AllStreams Good)
include lasting all

variable (streamID : String)

theorem AllStreams.createStream (sri : StreamSRI) : (port.createStream streamID sri).AllStreams Good := by
  intro stream member
  rw [createStream_objects] at member
  rcases mem_append.mp member with old | new
  · exact all stream old
  · rw [mem_singleton.mp new]
    exact lasting.opened _ _ _

theorem AllStreams.removeStream : (port.removeStream streamID).AllStreams Good := by
  intro stream member
  rw [removeStream_objects] at member
  split at member
  · exact forall_mem_modify (fun stream good => lasting.reported stream good) _ all stream member
  · exact all stream member

theorem AllStreams.pushSRI (sri : StreamSRI) : (port.pushSRI sri).AllStreams Good := by
  simp only [InPort.pushSRI]
  split
  · refine AllStreams.createStream lasting ?_ _ _
    exact all
  · split
    · refine AllStreams.createStream lasting ?_ _ _
      exact all
    · split
      · exact all
      · exact all

theorem AllStreams.lookupSRI : (port.lookupSRI streamID).2.AllStreams Good := by
  simp only [InPort.lookupSRI]
  split
  · simp only [acknowledgeSRI]
    split
    · exact all
    · exact all
  · refine AllStreams.createStream lasting ?_ _ _
    exact all

end

theorem admitPacket_objects (packet : Packet α) (port : InPort α) :
    (port.admitPacket packet).objects = port.objects := by
  have enqueued : ∀ (packet : Packet α) (port : InPort α), (port.enqueue packet).objects = port.objects := by
    intro packet port
    simp only [enqueue]
    split <;> rfl
  simp only [admitPacket]
  split
  · split
    · rfl
    · simp only [flushAndEnqueue]
      rw [enqueued, (flushFor_objects packet port).1]
  · exact enqueued packet port

theorem AllStreams.queuePacket (lasting : BufferedInputStream.Lasting Allowed Good)
    (all : port.AllStreams Good) (data : List α) (T : PrecisionUTCTime) (eos : Bool)
    (streamID : String) : (port.queuePacket data T eos streamID).AllStreams Good := by
  have accepted : (port.acceptPacket streamID eos).2.AllStreams Good := by
    simp only [acceptPacket]
    split
    · exact all
    · split
      · exact all
      · split
        · exact all
        · split
          · exact AllStreams.removeStream lasting all _
          · exact all
  rcases queuePacket_cases data T eos streamID port with ⟨_, result⟩ | ⟨_, _, result⟩ | ⟨_, _, _, result⟩
  · rw [result]
    cases eos with
    | true => exact accepted
    | false => exact accepted
  · rw [result]
    cases eos with
    | true => exact all
    | false => exact all
  · rw [result, AllStreams, admitPacket_objects]
    exact AllStreams.lookupSRI lasting all streamID

theorem resumePush_objects (streamID : String) (port : InPort α) :
    (port.resumePush streamID).objects = port.objects := by
  simp only [resumePush]
  split
  · split
    · simp only [enqueue]
      split <;> rfl
    · rfl
  · rfl

theorem nextPacket_objects (blocking : Bool) (streamID : String) (port : InPort α) :
    (port.nextPacket blocking streamID).2.objects = port.objects := by
  rcases nextPacket_cases blocking streamID port with ⟨_, same, _⟩ | ⟨_, _, next⟩
  · rw [same]
  · rw [next]

theorem AllStreams.getPacket (lasting : BufferedInputStream.Lasting Allowed Good)
    (all : port.AllStreams Good) (blocking : Bool) (streamID : String) :
    (port.getPacket blocking streamID).2.AllStreams Good := by
  have fetched : (port.nextPacket blocking streamID).2.AllStreams Good := by
    rw [AllStreams, nextPacket_objects]
    exact all
  exact InPort.getPacket_keeps (fun other _ kept => AllStreams.removeStream lasting kept other) fetched

structure Serves (Good : BufferedInputStream α → Prop) (reader : Reader α) : Prop where
  good : Good reader.stream
  all : reader.port.AllStreams Good
  filled : ∀ packet ∈ reader.port.packetQueue, packet.Filled

theorem serves_closed (lasting : BufferedInputStream.Lasting Allowed Good) :
    BufferedInputStream.Closed (Serves Good) where
  fetch blocking reader serves := by
    rcases BufferedInputStream.fetchPacket_cases blocking reader with
      ⟨_, same⟩ | ⟨packet, offers, fetched⟩
    · rw [same]
      exact serves
    · obtain ⟨free, _, unended, _, found⟩ := BufferedInputStream.offered_some.mp offers
      rw [fetched]
      have filled := serves.filled packet (mem_of_find?_eq_some found)
      refine ⟨lasting.handed packet _ serves.good filled unended free, ?_, ?_⟩
      · rw [AllStreams, nextPacket_objects]
        exact serves.all
      · rcases nextPacket_cases blocking reader.stream.streamID reader.port with
          ⟨_, same, _⟩ | ⟨_, _, next⟩
        · rw [same]
          exact serves.filled
        · rw [next]
          exact fun queued member => serves.filled queued (eraseP_sublist.subset member)
  take count front rest reader serves queue :=
    ⟨lasting.taken count front rest _ serves.good queue, serves.all, serves.filled⟩
  consume count reader serves := ⟨lasting.consumed count _ serves.good, serves.all, serves.filled⟩
  report reader serves := by
    simp only [InputStream.reportIfEosReached]
    split
    · refine ⟨lasting.reported _ serves.good, AllStreams.removeStream lasting serves.all _, ?_⟩
      obtain ⟨_, _, _, frame⟩ := removeStream_frame reader.stream.streamID reader.port
      rw [frame]
      exact serves.filled
    · exact serves
  enable reader serves := ⟨lasting.enabled _ serves.good, serves.all, serves.filled⟩

theorem AllStreams.updateObject (all : port.AllStreams Good) (handle : Nat)
    {stream : BufferedInputStream α} (good : Good stream) :
    (port.updateObject handle fun _ => stream).AllStreams Good :=
  forall_mem_modify (fun _ _ => good) handle all

theorem AllStreams.callStream (lasting : BufferedInputStream.Lasting Allowed Good)
    (all : port.AllStreams Good) (filled : ∀ packet ∈ port.packetQueue, packet.Filled) {handle : Nat}
    {call : StreamCall} (allowed : call = .disable → ∀ stream, port.objects[handle]? = some stream →
      Allowed stream) : (port.callStream .buffered handle call).AllStreams Good := by
  simp only [InPort.callStream]
  cases found : port.objects[handle]? with
  | none => exact all
  | some stream =>
      have good := all stream (mem_of_getElem? found)
      by_cases disables : call = .disable
      · subst disables
        refine AllStreams.updateObject ?_ handle ?_
        · simp only [StreamType.call, BufferedInputStream.call, BufferedInputStream.disable, InputStream.disable]
          split
          · exact all
          · exact all
        · simp only [StreamType.call, BufferedInputStream.call, BufferedInputStream.disable_stream]
          exact lasting.disabled stream good (allowed rfl stream found)
      · have serves := (serves_closed lasting).call ⟨stream, port⟩ disables ⟨good, all, filled⟩
        exact AllStreams.updateObject serves.all handle serves.good

def DisablesAllowed (Allowed : BufferedInputStream α → Prop) (call : Call α) (port : InPort α) : Prop :=
  match call with
  | .stream handle .disable => ∀ stream, port.objects[handle]? = some stream → Allowed stream
  | _ => True

theorem AllStreams.step (lasting : BufferedInputStream.Lasting Allowed Good) {port : InPort α}
    (all : port.AllStreams Good) (filled : ∀ packet ∈ port.packetQueue, packet.Filled)
    {call : Call α} (allowed : DisablesAllowed Allowed call port) :
    (port.step .buffered call).AllStreams Good := by
  cases call with
  | pushSRI sri => exact AllStreams.pushSRI lasting all sri
  | queuePacket data T eos streamID => exact AllStreams.queuePacket lasting all data T eos streamID
  | resumePush streamID =>
      rw [AllStreams, InPort.step, resumePush_objects]
      exact all
  | nextPacket blocking streamID =>
      rw [AllStreams, InPort.step, nextPacket_objects]
      exact all
  | getPacket blocking streamID => exact AllStreams.getPacket lasting all blocking streamID
  | setMaxQueueDepth newDepth => exact all
  | block => exact all
  | unblock => exact all
  | stream handle call =>
      refine AllStreams.callStream lasting all filled fun disables => ?_
      subst disables
      exact allowed

theorem Filled.step {port : InPort α} (filled : port.Filled) (call : Call α) :
    (port.step .buffered call).Filled := by
  intro streamID
  by_cases disables : ∃ handle, call = .stream handle .disable
  · obtain ⟨handle, rfl⟩ := disables
    simp only [InPort.step, InPort.callStream]
    cases found : port.objects[handle]? with
    | none => exact filled streamID
    | some stream =>
        simp only [StreamType.call, BufferedInputStream.call, BufferedInputStream.disable, InputStream.disable]
        split
        · refine ⟨fun packet member => (filled streamID).1 packet ?_, (filled streamID).2⟩
          exact ((discardQueued_sublist _ _).filter _).subset member
        · exact filled streamID
  · have effect := step_effect streamID .buffered
      (fun handle same => disables ⟨handle, same⟩) port
    exact effect.filled (filled streamID)

theorem filled_fresh (sriCmp : StreamSRI → StreamSRI → Bool) (maxQueue : Nat) :
    (fresh sriCmp maxQueue : InPort α).Filled := by
  intro streamID
  constructor
  · intro packet (member : packet ∈ [])
    cases member
  · intro packet (member : packet ∈ [])
    cases member

theorem run_streams (lasting : BufferedInputStream.Lasting Allowed Good)
    (sriCmp : StreamSRI → StreamSRI → Bool) (maxQueue : Nat) {calls : List (Call α)}
    (allowed : Along (InPort.step .buffered) (DisablesAllowed Allowed) (fresh sriCmp maxQueue) calls) :
    (run (InPort.step .buffered) (fresh sriCmp maxQueue) calls).AllStreams Good ∧
      (run (InPort.step .buffered) (fresh sriCmp maxQueue) calls).Filled := by
  refine invariant_run (fun port : InPort α => port.AllStreams Good ∧ port.Filled) ?_
    ⟨fun _ member => absurd member not_mem_nil, filled_fresh sriCmp maxQueue⟩ allowed
  intro call port ⟨all, filled⟩ allowed
  exact ⟨AllStreams.step lasting all filled.queued allowed, filled.step call⟩

end InPort

end Redhawk.Bulkio
