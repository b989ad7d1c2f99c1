import Redhawk.Bulkio.FlushStructure
import Redhawk.Bulkio.InstanceLedger
import Redhawk.Bulkio.StreamMaps
import Redhawk.Bulkio.StreamViews

/-!
The input port keeps a ledger for every stream ID: each call on the port or on one of its streams is
a sequence of steps of the ledger.
-/

namespace Redhawk.Bulkio

open Library Ledger List Option

variable {α : Type}

def births (streamID : String) (objects : List (BufferedInputStream α)) : Set Nat :=
  { birth | ∃ stream ∈ objects, stream.streamID = streamID ∧ stream.born = birth }

def passed (streamID : String) (objects : List (BufferedInputStream α)) : Set (Nat × Nat) :=
  { fetched | ∃ stream ∈ objects, stream.streamID = streamID ∧
    ∃ packet ∈ stream.fetched, (stream.born, packet.serial) = fetched }

namespace InPort

def ledger (streamID : String) (port : InPort α) : Ledger where
  unfinished := port.unfinished streamID
  packets := marks (port.view streamID).queue
  waiting := marks (port.view streamID).waiting
  listed := (port.view streamID).entry.isSome
  endings := (port.view streamID).endings
  births := births streamID port.objects
  passed := passed streamID port.objects
  clock := (port.view streamID).clock

abbrev Ledgers (rules : Rules) := Relation.ReflTransGen (Step rules)

variable {streamType : StreamType} {rules : Rules}

section Objects

variable {objects : List (BufferedInputStream α)} {handle : Nat}
variable {update : BufferedInputStream α → BufferedInputStream α}

theorem exists_mem_modify {Holds : BufferedInputStream α → Prop}
    (kept : ∀ stream, objects[handle]? = some stream → (Holds (update stream) ↔ Holds stream)) :
    (∃ stream ∈ objects.modify handle update, Holds stream) ↔ ∃ stream ∈ objects, Holds stream := by
  constructor
  · rintro ⟨stream, member, holds⟩
    obtain ⟨index, found⟩ := mem_iff_getElem?.mp member
    obtain ⟨before, old, ⟨rfl, rfl⟩ | ⟨_, rfl⟩⟩ := getElem?_modify_some found
    · exact ⟨before, mem_of_getElem? old, (kept before old).mp holds⟩
    · exact ⟨stream, mem_of_getElem? old, holds⟩
  · rintro ⟨stream, member, holds⟩
    obtain ⟨index, found⟩ := mem_iff_getElem?.mp member
    by_cases here : index = handle
    · subst here
      have later : (objects.modify index update)[index]? = some (update stream) := by simp [found]
      exact ⟨update stream, mem_of_getElem? later, (kept stream found).mpr holds⟩
    · have later : (objects.modify handle update)[index]? = some stream := by
        simp [Ne.symm here, found]
      exact ⟨stream, mem_of_getElem? later, holds⟩

structure SameIdentity (before after : BufferedInputStream α) : Prop where
  streamID : after.streamID = before.streamID
  born : after.born = before.born
  fetched : after.fetched = before.fetched

theorem births_modify (streamID : String)
    (kept : ∀ stream, objects[handle]? = some stream →
      (update stream).streamID = stream.streamID ∧ (update stream).born = stream.born) :
    births streamID (objects.modify handle update) = births streamID objects := by
  ext birth
  refine exists_mem_modify fun stream found => ?_
  obtain ⟨named, born⟩ := kept stream found
  rw [named, born]

theorem passed_modify (streamID : String)
    (kept : ∀ stream, objects[handle]? = some stream → SameIdentity stream (update stream)) :
    passed streamID (objects.modify handle update) = passed streamID objects := by
  ext fetched
  refine exists_mem_modify fun stream found => ?_
  obtain ⟨named, born, packets⟩ := kept stream found
  rw [named, born, packets]

theorem passed_fetch {stream after : BufferedInputStream α} {packet : Packet α} (streamID : String)
    (found : objects[handle]? = some stream) (named : after.streamID = stream.streamID)
    (born : after.born = stream.born) (fetched : after.fetched = stream.fetched ++ [packet]) :
    passed streamID (objects.modify handle fun _ => after) ⊆
      if streamID = stream.streamID then
        insert (stream.born, packet.serial) (passed streamID objects)
      else passed streamID objects := by
  rintro pair ⟨later, member, owner, taken, inside, rfl⟩
  have old : ∀ before ∈ objects, before.streamID = streamID → ∀ packet ∈ before.fetched,
      (before.born, packet.serial) ∈ passed streamID objects :=
    fun before member named packet inside => ⟨before, member, named, packet, inside, rfl⟩
  obtain ⟨index, place⟩ := mem_iff_getElem?.mp member
  obtain ⟨before, earlier, ⟨rfl, rfl⟩ | ⟨_, rfl⟩⟩ := getElem?_modify_some place
  · obtain rfl : stream = before := some.inj (found.symm.trans earlier)
    have same : streamID = stream.streamID := owner.symm.trans named
    have kept := old stream (mem_of_getElem? earlier) same.symm
    rw [if_pos same, born]
    rw [fetched] at inside
    rcases mem_append.mp inside with before | new
    · exact .inr (kept taken before)
    · rw [mem_singleton.mp new]
      exact .inl rfl
  · have kept := old later (mem_of_getElem? earlier) owner taken inside
    split
    · exact .inr kept
    · exact kept

end Objects

section Push

theorem ledger_advances {ledger later : Ledger} (clock : Nat) (after : ledger.clock ≤ clock)
    (same : later = { ledger with clock := clock }) : Ledgers rules ledger later := by
  rw [same]
  exact .single (.advances clock after)

variable {port : InPort α}

theorem createStream_ledger (maps : StreamMaps streamType port)
    {other : String} {sri : StreamSRI} (named : sri.streamID = other) (streamID : String) :
    (port.createStream other sri).ledger streamID =
      if streamID = other then { port.ledger streamID with
        unfinished := port.unfinished streamID ++ [port.history.clock]
        births := insert port.history.clock (births streamID port.objects)
        clock := port.history.clock + 1 }
      else { port.ledger streamID with clock := port.history.clock + 1 } := by
  subst named
  have objects := createStream_objects sri.streamID sri port
  have view := createStream_view streamID sri.streamID sri port
  have unfinished := createStream_unfinished maps sri.streamID sri streamID
  have fetched : passed streamID (port.createStream sri.streamID sri).objects = passed streamID port.objects := by
    ext pair
    rw [objects]
    simp [passed, or_and_right, exists_or]
  have born : births streamID (port.createStream sri.streamID sri).objects =
      if streamID = sri.streamID then insert port.history.clock (births streamID port.objects)
      else births streamID port.objects := by
    rw [objects]
    ext birth
    split
    · rename_i same
      simp [births, or_and_right, exists_or, same, eq_comm, or_comm]
    · rename_i apart
      simp [births, or_and_right, exists_or, Ne.symm apart]
  rw [ledger, ledger, view, unfinished, fetched, born]
  split
  · rfl
  · simp

theorem pushSRI_maps (maps : StreamMaps streamType port) (sri : StreamSRI) :
    StreamMaps streamType (port.pushSRI sri) := by
  simp only [pushSRI]
  split
  · refine StreamMaps.createStream ?_ rfl
    exact maps.of_same rfl rfl rfl
  · split
    · refine StreamMaps.createStream ?_ rfl
      exact maps.of_same rfl rfl rfl
    · split
      · exact maps.of_same rfl rfl rfl
      · exact maps.of_same rfl rfl rfl

theorem queued_length (streamID : String) (port : InPort α) :
    (port.ledger streamID).queued.length = port.packetQueue.countP fun packet =>
      packet.streamID == streamID && packet.eos := by
  simp only [ledger, queued, ends, marks, view, forStream, List.filter_map,
    length_map, List.filter_filter, countP_eq_length_filter]
  congr 2
  simp [Bool.and_comm]

theorem pushSRI_ledgers (maps : StreamMaps streamType port) (sri : StreamSRI)
    (streamID : String) : Ledgers rules (port.ledger streamID) ((port.pushSRI sri).ledger streamID) := by
  simp only [pushSRI]
  split
  · rename_i absent
    rw [createStream_ledger ?maps rfl]
    case maps => exact maps.of_same rfl rfl rfl
    split
    · rename_i same
      subst same
      have opened : Step rules (port.ledger sri.streamID) _ :=
        .opens (by simp [ledger, view, absent])
      refine .single ?_
      simpa [ledger, view, InPort.unfinished, handles] using opened
    · rename_i apart
      refine ledger_advances (port.history.clock + 1) (Nat.le_succ _) ?_
      simp [ledger, view, InPort.unfinished, handles, AList.lookup_insert_ne apart]
  · rename_i current listed
    split
    · rw [createStream_ledger ?maps rfl]
      case maps => exact maps.of_same rfl rfl rfl
      split
      · rename_i same
        subst same
        have line := unfinished_length sri.streamID port
        have joined : Step rules (port.ledger sri.streamID) _ :=
          .joins (by simp [ledger, view, listed]) (by
            rw [queued_length]
            simp only [ledger]
            omega)
        exact .single joined
      · exact ledger_advances (port.history.clock + 1) (Nat.le_succ _) rfl
    · split
      · refine ledger_advances port.history.clock (Nat.le_refl _) ?_
        by_cases same : streamID = sri.streamID
        · subst same
          simp [ledger, view, listed, InPort.unfinished, handles]
        · simp [ledger, view, InPort.unfinished, handles, AList.lookup_insert_ne same]
      · exact .refl

theorem acknowledgeSRI_ledger (streamID other : String) (port : InPort α) :
    (port.acknowledgeSRI other).ledger streamID = port.ledger streamID := by
  simp only [acknowledgeSRI]
  split
  · rename_i sri sriChanged found
    by_cases same : streamID = other
    · subst same
      simp [ledger, view, found, InPort.unfinished, handles]
    · simp [ledger, view, AList.lookup_insert_ne same, InPort.unfinished, handles]
  · rfl

theorem lookupSRI_ledgers (maps : StreamMaps streamType port) (streamID other : String) :
    StreamMaps streamType (port.lookupSRI streamID).2 ∧
      Ledgers rules (port.ledger other) ((port.lookupSRI streamID).2.ledger other) := by
  simp only [lookupSRI]
  split
  · refine ⟨maps.of_same ?_ ?_ ?_, by rw [acknowledgeSRI_ledger]⟩
    all_goals
      simp only [acknowledgeSRI]
      split <;> rfl
  · rename_i absent
    have listed : StreamMaps streamType { port with
        currentHs := port.currentHs.insert streamID (⟨Sri.create streamID, rfl⟩, false) } :=
      maps.of_same rfl rfl rfl
    have named : (Sri.create streamID).streamID = streamID := rfl
    refine ⟨listed.createStream named, ?_⟩
    rw [createStream_ledger listed named]
    split
    · rename_i same
      subst same
      have opened : Step rules (port.ledger other) _ :=
        .opens (by simp [ledger, view, absent])
      refine .single ?_
      simpa [ledger, view, InPort.unfinished, handles] using opened
    · rename_i apart
      refine ledger_advances (port.history.clock + 1) (Nat.le_succ _) ?_
      simp [ledger, view, InPort.unfinished, handles, AList.lookup_insert_ne apart]

theorem lookupSRI_isListed (streamID : String) (port : InPort α) :
    ((port.lookupSRI streamID).2.ledger streamID).listed = true := by
  obtain ⟨_, _, _, _, _, frame⟩ := lookupSRI_frame streamID port
  simp [ledger, frame, view]

variable {streamID : String}

theorem buildPacket_ledgers (maps : StreamMaps streamType port)
    (idle : (port.view streamID).waiting = []) (data : List α) (T : PrecisionUTCTime) (eos : Bool) :
    Ledgers rules (port.ledger streamID)
      { (port.buildPacket data T eos streamID).2.ledger streamID with
        waiting := [((port.buildPacket data T eos streamID).1.serial, eos)] } := by
  obtain ⟨_, _, _, _, _, frame⟩ := lookupSRI_frame streamID port
  have looked : _ ∧ Ledgers rules _ _ := lookupSRI_ledgers maps streamID streamID
  have same : ((port.lookupSRI streamID).2.view streamID).waiting = [] := by
    rw [frame]
    exact idle
  have pushed : Step rules _ _ := .pushes eos (lookupSRI_isListed streamID port)
    (show ((port.lookupSRI streamID).2.ledger streamID).waiting = [] by
      simp only [ledger, same, marks, map_nil])
  exact looked.2.tail pushed

theorem buildPacket_ledgers_other (maps : StreamMaps streamType port)
    {other : String} (data : List α) (T : PrecisionUTCTime) (eos : Bool) :
    Ledgers rules (port.ledger other) ((port.buildPacket data T eos streamID).2.ledger other) := by
  have looked : _ ∧ Ledgers rules _ _ := lookupSRI_ledgers maps streamID other
  exact looked.2.trans (ledger_advances _ (Nat.le_succ _) rfl)

theorem enqueue_ledger (packet : Packet α) (rest : List (Nat × Bool)) (port : InPort α)
    (waiting : (port.ledger packet.streamID).waiting = rest) :
    Step rules { port.ledger packet.streamID with waiting := (packet.serial, packet.eos) :: rest }
      ((port.enqueue packet).ledger packet.streamID) := by
  have same : (port.enqueue packet).ledger packet.streamID = { port.ledger packet.streamID with
      packets := (port.ledger packet.streamID).packets ++ [(packet.serial, packet.eos)]
      waiting := rest
      listed := (port.ledger packet.streamID).listed && !packet.eos
      endings := (port.ledger packet.streamID).endings ++
        if packet.eos then [packet.serial] else [] } := by
    have frame : (port.enqueue packet).unfinished packet.streamID =
        port.unfinished packet.streamID ∧ (port.enqueue packet).objects = port.objects := by
      simp only [enqueue]
      split <;> exact ⟨rfl, rfl⟩
    rw [← waiting]
    simp only [ledger, enqueue_view, StreamView.enqueue, frame.1, frame.2]
    cases ends : packet.eos <;> simp [marks, ends]
  rw [same]
  exact .enqueues packet.serial packet.eos rest rfl

theorem enqueue_ledger_other {packet : Packet α} (other : packet.streamID ≠ streamID) (port : InPort α) :
    (port.enqueue packet).ledger streamID = port.ledger streamID := by
  have frame : (port.enqueue packet).unfinished streamID = port.unfinished streamID ∧
      (port.enqueue packet).objects = port.objects := by
    simp only [enqueue]
    split <;> exact ⟨rfl, rfl⟩
  simp only [ledger, enqueue_view_other other, frame.1, frame.2]

end Push

section Admit

theorem ends_marks (packets : List (Packet α)) :
    ends (marks packets) = (packets.filter Packet.eos).map Packet.serial := by
  simp [ends, marks, List.filter_map, Function.comp_def]

theorem replaceOpen_marks (sriChanged : Bool) (packets : List (Packet α)) :
    (marks (replaceOpen sriChanged (collapse packets)).packetQueue).Sublist (marks packets) ∧
      ends (marks (replaceOpen sriChanged (collapse packets)).packetQueue) =
        ends (marks packets) := by
  have merged := collapse_marks packets
  have ended := collapse_endings packets
  rw [← ends_marks, ← ends_marks] at ended
  rcases replaceOpen_cases sriChanged packets with
    ⟨_, room⟩ | ⟨front, saved, _, kept, _, unended, room⟩
  · rw [room]
    exact ⟨merged, ended⟩
  · rw [room]
    rw [kept] at merged ended
    rw [ends_marks, filter_append] at ended
    refine ⟨(Sublist.map _ (sublist_append_left front [saved])).trans merged, ?_⟩
    rw [← ended, ends_marks]
    simp [unended]

theorem flushFor_objects (packet : Packet α) (port : InPort α) :
    (port.flushFor packet).2.objects = port.objects ∧
      ∀ streamID, (port.flushFor packet).2.unfinished streamID = port.unfinished streamID := by
  simp only [flushFor, acknowledgeSRI]
  split
  · split <;> exact ⟨rfl, fun _ => rfl⟩
  · exact ⟨rfl, fun _ => rfl⟩

variable {packet : Packet α} {port : InPort α}

theorem flushFor_ledger (lowered : ∀ entry, (port.view packet.streamID).entry = some entry → entry.2 = false)
    (waiting : List (Nat × Bool)) :
    Step rules { port.ledger packet.streamID with waiting := waiting }
      { (port.flushFor packet).2.ledger packet.streamID with waiting := waiting } := by
  obtain ⟨objects, unfinished⟩ := flushFor_objects packet port
  obtain ⟨sublist, same⟩ := replaceOpen_marks packet.sriChanged (port.view packet.streamID).queue
  have flushed : Step rules { port.ledger packet.streamID with waiting := waiting } _ :=
    .flushes _ sublist same
  have later : (port.flushFor packet).2.ledger packet.streamID = { port.ledger packet.streamID with
      packets := marks (replaceOpen packet.sriChanged
        (collapse (port.view packet.streamID).queue)).packetQueue } := by
    simp only [ledger, unfinished, objects, flushFor_view packet lowered, StreamView.makeRoom]
  rw [later]
  exact flushed

theorem flushFor_ledger_other {streamID : String} (other : packet.streamID ≠ streamID) (port : InPort α) :
    Step rules (port.ledger streamID) ((port.flushFor packet).2.ledger streamID) := by
  obtain ⟨objects, unfinished⟩ := flushFor_objects packet port
  have ended := collapse_endings (port.view streamID).queue
  rw [← ends_marks, ← ends_marks] at ended
  have flushed : Step rules (port.ledger streamID) _ :=
    .flushes _ (collapse_marks (port.view streamID).queue) ended
  have later : (port.flushFor packet).2.ledger streamID = { port.ledger streamID with
      packets := marks (collapse (port.view streamID).queue).lastPackets } := by
    simp only [ledger, unfinished, objects, flushFor_view_other other, StreamView.merge]
  rw [later]
  exact flushed

theorem admit_ledgers (idle : (port.view packet.streamID).waiting = [])
    (lowered : ∀ entry, (port.view packet.streamID).entry = some entry → entry.2 = false) :
    Ledgers rules { port.ledger packet.streamID with waiting := [(packet.serial, packet.eos)] }
      ((port.admitPacket packet).ledger packet.streamID) := by
  have none : (port.ledger packet.streamID).waiting = [] := by
    simp [ledger, idle, marks]
  simp only [admitPacket]
  split
  · split
    · have alone := forStream_cons_same packet []
      have idle' : forStream packet.streamID port.waiting = [] := idle
      have same : { port.ledger packet.streamID with
          waiting := [(packet.serial, packet.eos)] } =
            ledger packet.streamID { port with waiting := port.waiting ++ [packet] } := by
        simp [ledger, view, alone, idle', marks, InPort.unfinished, handles]
      rw [same]
    · have flushed : Step rules _ _ :=
        flushFor_ledger lowered [(packet.serial, packet.eos)]
      have unchanged : ((port.flushFor packet).2.ledger packet.streamID).waiting = [] := by
        simp [ledger, flushFor_view packet lowered, StreamView.makeRoom, idle, marks]
      exact (Relation.ReflTransGen.single flushed).tail
        (enqueue_ledger (port.flushFor packet).1 [] (port.flushFor packet).2 unchanged)
  · exact .single (enqueue_ledger packet [] port none)

theorem admit_ledgers_other {streamID : String} (other : packet.streamID ≠ streamID) (port : InPort α) :
    Ledgers rules (port.ledger streamID) ((port.admitPacket packet).ledger streamID) := by
  simp only [admitPacket]
  split
  · split
    · have none := forStream_cons_other other []
      have same : ledger streamID { port with waiting := port.waiting ++ [packet] } = port.ledger streamID := by
        simp [ledger, view, none, InPort.unfinished, handles]
      rw [same]
    · have outside : (port.flushFor packet).1.streamID ≠ streamID := other
      simp only [flushAndEnqueue]
      rw [enqueue_ledger_other outside]
      exact .single (flushFor_ledger_other other port)
  · rw [enqueue_ledger_other other]

theorem admit_maps (maps : StreamMaps streamType port) (packet : Packet α) :
    StreamMaps streamType (port.admitPacket packet) := by
  have enqueued : ∀ packet (later : InPort α), StreamMaps streamType later →
      StreamMaps streamType (later.enqueue packet) := by
    intro packet later maps
    simp only [enqueue]
    split <;> exact maps.of_same rfl rfl rfl
  simp only [admitPacket]
  split
  · split
    · exact maps.of_same rfl rfl rfl
    · refine enqueued _ _ ?_
      simp only [acknowledgeSRI]
      split
      · split <;> exact maps.of_same rfl rfl rfl
      · exact maps.of_same rfl rfl rfl
  · exact enqueued _ _ maps

end Admit

section Queue

variable {port : InPort α}

theorem acceptPacket_refused {streamID : String} {eos : Bool}
    (refused : (port.acceptPacket streamID eos).1 = false) :
    ∃ handle, port.handles streamID = [handle] ∧ port.streams.lookup streamID = some handle ∧
      port.streamEnabled handle = false ∧
      (port.acceptPacket streamID eos).2 = if eos then port.removeStream streamID else port := by
  simp only [acceptPacket] at refused ⊢
  cases found : port.streams.lookup streamID with
  | none => simp [found] at refused
  | some handle =>
      cases enabled : port.streamEnabled handle with
      | true => simp [found, enabled] at refused
      | false =>
          cases pended : port.pendingStreams.any fun entry => entry.1 == streamID with
          | true => simp [found, enabled, pended] at refused
          | false =>
              have unpended : (port.pendingStreams.filter fun entry => entry.1 == streamID) = [] := by
                rw [filter_eq_nil_iff]
                exact any_eq_false.mp pended
              refine ⟨handle, by simp [handles, found, unpended], rfl, enabled, ?_⟩
              cases eos <;> simp [enabled]

theorem removeStream_ledger (maps : StreamMaps streamType port) (streamID other : String) :
    (port.removeStream streamID).ledger other = { port.ledger other with
      unfinished := if other = streamID then port.behindActive streamID
        else port.unfinished other } := by
  have objects := removeStream_objects streamID port
  have kept : births other (port.removeStream streamID).objects = births other port.objects ∧
      passed other (port.removeStream streamID).objects = passed other port.objects := by
    rw [objects]
    split
    · exact ⟨births_modify other fun _ _ => ⟨rfl, rfl⟩, passed_modify other fun _ _ => ⟨rfl, rfl, rfl⟩⟩
    · exact ⟨rfl, rfl⟩
  simp only [ledger, removeStream_view, removeStream_unfinished maps, kept]

def PushAllowed (rules : Rules) (eos : Bool) (streamID : String) (port : InPort α) : Prop :=
  (port.view streamID).waiting = [] ∧ (eos = true →
    ((port.acceptPacket streamID eos).1 = false → rules.refuse (port.ledger streamID)) ∧
    ((port.acceptPacket streamID eos).1 = true → port.maxQueue = 0 → rules.ignore (port.ledger streamID)))

theorem noteEos_ledger (streamID other : String) (port : InPort α) :
    (port.noteEos streamID).ledger other = { port.ledger other with
      endings := (port.ledger other).endings ++
        if streamID = other then [port.history.clock] else []
      clock := port.history.clock + 1 } := by
  have same : (port.noteEos streamID).unfinished other = port.unfinished other ∧
      (port.noteEos streamID).objects = port.objects := ⟨rfl, rfl⟩
  simp only [ledger, noteEos_view, same]

theorem queuePacket_ledgers (maps : StreamMaps streamType port) (data : List α)
    (T : PrecisionUTCTime) {eos : Bool} {streamID : String}
    (allowed : port.PushAllowed rules eos streamID) (other : String) :
    StreamMaps streamType (port.queuePacket data T eos streamID) ∧
      Ledgers rules (port.ledger other) ((port.queuePacket data T eos streamID).ledger other) := by
  obtain ⟨idle, ends⟩ := allowed
  rcases queuePacket_cases data T eos streamID port with
    ⟨refused, result⟩ | ⟨accepted, ignored, result⟩ | ⟨_, _, useful, result⟩
  · obtain ⟨handle, line, active, disabled, frame⟩ := acceptPacket_refused refused
    rw [result, frame]
    cases eos with
    | false => exact ⟨maps, .refl⟩
    | true =>
        have closes : port.Closes streamID := by
          intro current stream lookup found
          left
          rw [active, some.injEq] at lookup
          subst lookup
          have sound := maps.sound stream (mem_of_getElem? found)
          simp only [streamEnabled, found] at disabled
          exact sound.disabled disabled
        refine ⟨(maps.removeStream closes).of_same rfl rfl rfl, ?_⟩
        have same : ledger other { (port.removeStream streamID).noteEos streamID with
            blocking := port.blocking && !port.handleEOS streamID } =
              ((port.removeStream streamID).noteEos streamID).ledger other := rfl
        have clock : (port.removeStream streamID).history.clock = port.history.clock :=
          congrArg StreamView.clock (removeStream_view streamID streamID port)
        simp only [if_true]
        rw [same, noteEos_ledger, removeStream_ledger maps, clock]
        by_cases here : streamID = other
        · subst here
          have refuse : Step rules _ _ := .refuses ((ends rfl).1 refused)
          have none : port.behindActive streamID = [] := by
            simp [behindActive, line]
          simp only [if_true, none]
          exact .single refuse
        · rw [if_neg (Ne.symm here), if_neg here, append_nil]
          exact ledger_advances (port.history.clock + 1) (Nat.le_succ _) rfl
  · rw [result]
    cases eos with
    | false => exact ⟨maps, .refl⟩
    | true =>
        refine ⟨maps.of_same rfl rfl rfl, ?_⟩
        simp only [if_true]
        rw [noteEos_ledger]
        have shallow : port.maxQueue = 0 := by simpa using ignored
        by_cases here : streamID = other
        · subst here
          have ignore : Step rules _ _ := .ignores ((ends rfl).2 (by rw [accepted]) shallow)
          rw [if_pos rfl]
          exact .single ignore
        · rw [if_neg here, append_nil]
          exact ledger_advances (port.history.clock + 1) (Nat.le_succ _) rfl
  · rw [result]
    have built : _ ∧ Ledgers rules _ _ := lookupSRI_ledgers maps streamID other
    have ticked : StreamMaps streamType (port.buildPacket data T eos streamID).2 :=
      built.1.of_same rfl rfl rfl
    refine ⟨admit_maps ticked _, ?_⟩
    have named : (port.buildPacket data T eos streamID).1.streamID = streamID :=
      (port.lookupSRI streamID).1.1.2
    by_cases here : streamID = other
    · subst here
      obtain ⟨isBuilt, acknowledged⟩ := buildPacket_view data T eos streamID useful port
      have pushed : Ledgers rules _ _ := buildPacket_ledgers maps idle data T eos
      have quiet : ((port.buildPacket data T eos streamID).2.view
          (port.buildPacket data T eos streamID).1.streamID).waiting = [] := by
        rw [named, acknowledged]
        exact idle
      have admitted : Ledgers rules _ _ := admit_ledgers quiet (by
          rw [named, acknowledged]
          rintro entry found
          simp only [StreamView.acknowledge, some.injEq] at found
          rw [← found])
      rw [named] at admitted
      exact pushed.trans admitted
    · have outside : (port.buildPacket data T eos streamID).1.streamID ≠ other := by
        rw [named]
        exact here
      exact (buildPacket_ledgers_other maps data T eos).trans (admit_ledgers_other outside _)

theorem resumePush_ledgers (maps : StreamMaps streamType port) (streamID other : String) :
    StreamMaps streamType (port.resumePush streamID) ∧
      Ledgers rules (port.ledger other) ((port.resumePush streamID).ledger other) := by
  simp only [resumePush]
  split
  · rename_i packet found
    have named : packet.streamID = streamID := by simpa using find?_some found
    have moved := forStream_first (fun packet later same => by rw [same]) found other
    split
    · constructor
      · simp only [enqueue]
        split <;> exact maps.of_same rfl rfl rfl
      · by_cases here : streamID = other
        · subst here
          subst named
          rw [forStream_cons_same] at moved
          have queued : Step rules _ _ := enqueue_ledger packet _ { port with
            waiting := port.waiting.eraseP fun later => later.streamID == packet.streamID } rfl
          have same : { ledger packet.streamID { port with
              waiting := port.waiting.eraseP fun later => later.streamID == packet.streamID } with
                waiting := (packet.serial, packet.eos) :: marks (forStream packet.streamID
                  (port.waiting.eraseP fun later => later.streamID == packet.streamID)) } =
              port.ledger packet.streamID := by
            have waiting : marks (forStream packet.streamID port.waiting) =
                (packet.serial, packet.eos) :: marks (forStream packet.streamID
                  (port.waiting.eraseP fun later => later.streamID == packet.streamID)) := by
              rw [← moved, marks, map_cons]
              rfl
            simp [ledger, view, waiting, InPort.unfinished, handles]
          refine .single ?_
          rw [← same]
          exact queued
        · have outside : packet.streamID ≠ other := by
            rw [named]
            exact here
          rw [forStream_cons_other outside] at moved
          rw [enqueue_ledger_other outside]
          have same : ledger other { port with
              waiting := port.waiting.eraseP fun later => later.streamID == streamID } = port.ledger other := by
            simp [ledger, view, moved, InPort.unfinished, handles]
          rw [same]
    · exact ⟨maps, .refl⟩
  · exact ⟨maps, .refl⟩

end Queue

section Fetch

variable {port : InPort α} {packet : Packet α}

theorem nextPacket_ledger {blocking : Bool} {streamID : String}
    (taken : (port.nextPacket blocking streamID).1 = .packet packet) :
    requested streamID packet = true ∧
      (∃ back, (port.ledger packet.streamID).packets = (packet.serial, packet.eos) :: back ∧
        (port.nextPacket blocking streamID).2.ledger packet.streamID =
          { port.ledger packet.streamID with packets := back }) ∧
      ∀ other, other ≠ packet.streamID →
        (port.nextPacket blocking streamID).2.ledger other = port.ledger other := by
  rcases nextPacket_cases blocking streamID port with ⟨_, same, never⟩ | ⟨first, found, fetched⟩
  · rw [same] at taken
    exact absurd taken (never packet)
  · rw [fetched] at taken ⊢
    obtain rfl : first = packet := Fetch.packet.inj taken
    have moved := forStream_first (requested_byID streamID) found
    refine ⟨find?_some found, ⟨marks (forStream first.streamID
      (port.packetQueue.eraseP (requested streamID))), ?_, ?_⟩, ?_⟩
    · have own := moved first.streamID
      rw [forStream_cons_same] at own
      simp only [ledger, view, ← own]
      rfl
    · simp [ledger, view, InPort.unfinished, handles]
    · intro other apart
      have others := moved other
      rw [forStream_cons_other (Ne.symm apart)] at others
      simp [ledger, view, InPort.unfinished, handles, others]

theorem nextPacket_frame (blocking : Bool) (streamID : String) (port : InPort α) :
    (port.nextPacket blocking streamID).2.objects = port.objects ∧
      (port.nextPacket blocking streamID).2.streams = port.streams ∧
      (port.nextPacket blocking streamID).2.pendingStreams = port.pendingStreams ∧
      (port.nextPacket blocking streamID).2.packetQueue ⊆ port.packetQueue := by
  rcases nextPacket_cases blocking streamID port with ⟨_, same, _⟩ | ⟨_, _, fetched⟩
  · rw [same]
    exact ⟨rfl, rfl, rfl, Subset.refl _⟩
  · rw [fetched]
    exact ⟨rfl, rfl, rfl, eraseP_subset⟩

structure Handled (handle : Nat) (port : InPort α) : Prop where
  known : ∀ entry ∈ port.pendingStreams, entry.2 ≠ handle
  own : ∀ stream, port.objects[handle]? = some stream → stream.streamID = "" →
    ∀ packet ∈ port.packetQueue, packet.streamID = ""

variable {handle : Nat} {stream : BufferedInputStream α}

theorem Handled.active (handled : port.Handled handle) (maps : StreamMaps streamType port)
    (found : port.objects[handle]? = some stream) (unreported : stream.eosState ≠ .reported) :
    port.streams.lookup stream.streamID = some handle ∧ (port.handles stream.streamID).head? = some handle := by
  have member := maps.mapped handle stream found unreported
  have active : port.streams.lookup stream.streamID = some handle := by
    rcases mem_append.mp member with active | pended
    · simpa using active
    · obtain ⟨entry, inside, same⟩ := mem_map.mp pended
      exact absurd same (handled.known entry (mem_filter.mp inside).1)
  exact ⟨active, by rw [← maps.headed, active]⟩

theorem updateObject_ledger {update : BufferedInputStream α → BufferedInputStream α}
    (kept : ∀ stream, port.objects[handle]? = some stream → SameIdentity stream (update stream) ∧
      ((update stream).eosState = .none ↔ stream.eosState = .none)) (streamID : String) :
    (port.updateObject handle update).ledger streamID = port.ledger streamID := by
  have unfinished : (port.updateObject handle update).unfinished streamID = port.unfinished streamID :=
    updateObject_unfinished fun stream found _ => ⟨(kept stream found).1.born, (kept stream found).2⟩
  have born : births streamID (port.updateObject handle update).objects = births streamID port.objects :=
    births_modify streamID fun stream found =>
      ⟨(kept stream found).1.streamID, (kept stream found).1.born⟩
  have fetched : passed streamID (port.updateObject handle update).objects = passed streamID port.objects :=
    passed_modify streamID fun stream found => (kept stream found).1
  have view : (port.updateObject handle update).view streamID = port.view streamID := rfl
  simp only [ledger, unfinished, born, fetched, view]

theorem EosState.MovesTo.none_iff {before after : EosState} (moves : before.MovesTo after) :
    after = .none ↔ before = .none := by
  rcases moves with rfl | ⟨rfl, rfl⟩ <;> simp

structure Takes (packet : Packet α) (before after : BufferedInputStream α) : Prop where
  streamID : after.streamID = before.streamID
  born : after.born = before.born
  fetched : after.fetched = before.fetched ++ [packet]
  eosState : after.eosState = if packet.eos then .received else .none

variable {after : BufferedInputStream α}

theorem takes_ledger {later : InPort α} (maps : StreamMaps streamType later) {back : List (Nat × Bool)}
    (found : later.objects[handle]? = some stream) (unended : stream.eosState = .none)
    (active : (later.handles stream.streamID).head? = some handle)
    (takes : Takes packet stream after)
    (packets : (port.ledger stream.streamID).packets = (packet.serial, packet.eos) :: back)
    (fetched : later.ledger stream.streamID =
      { port.ledger stream.streamID with packets := back }) :
    Ledger.Step rules (port.ledger stream.streamID)
      ((later.updateObject handle fun _ => after).ledger stream.streamID) := by
  have line : (port.ledger stream.streamID).unfinished = stream.born :: later.behindActive stream.streamID := by
    have before := congrArg Ledger.unfinished fetched
    have split := unfinished_active active found
    rw [if_pos unended] at split
    exact before.symm.trans split
  have grows := passed_fetch stream.streamID found takes.streamID takes.born takes.fetched
  rw [if_pos rfl] at grows
  have before : passed stream.streamID later.objects = (port.ledger stream.streamID).passed :=
    congrArg Ledger.passed fetched
  rw [before] at grows
  have born : births stream.streamID (later.objects.modify handle fun _ => after) =
      births stream.streamID later.objects := births_modify _ fun other same => by
    obtain rfl : stream = other := some.inj (found.symm.trans same)
    exact ⟨takes.streamID, takes.born⟩
  have unfinished : (later.updateObject handle fun _ => after).unfinished stream.streamID =
      if packet.eos then later.behindActive stream.streamID
      else stream.born :: later.behindActive stream.streamID := by
    rw [updateObject_unfinished_active maps active found, takes.eosState, takes.born]
    cases packet.eos <;> simp
  have same : (later.updateObject handle fun _ => after).ledger stream.streamID =
      { later.ledger stream.streamID with
        unfinished := (later.updateObject handle fun _ => after).unfinished stream.streamID
        births := births stream.streamID (later.objects.modify handle fun _ => after)
        passed := passed stream.streamID (later.objects.modify handle fun _ => after) } := rfl
  have kept : births stream.streamID later.objects = (port.ledger stream.streamID).births :=
    congrArg Ledger.births fetched
  rw [same, fetched, unfinished, born, kept]
  exact .fetches stream.born packet.serial packet.eos _ back _ line packets grows

section

variable (maps : StreamMaps streamType port)
include maps

theorem takes_ledger_other {streamID : String}
    (found : port.objects[handle]? = some stream) (takes : Takes packet stream after)
    (apart : streamID ≠ stream.streamID) :
    (port.updateObject handle fun _ => after).ledger streamID = port.ledger streamID := by
  have owner : ∀ other, port.objects[handle]? = some other → other = stream := fun other same =>
    some.inj (same.symm.trans found)
  have unfinished : (port.updateObject handle fun _ => after).unfinished streamID = port.unfinished streamID := by
    refine updateObject_unfinished fun other same member => ?_
    obtain ⟨listed, there, named, _⟩ := maps.listed streamID handle member
    rw [owner listed there] at named
    exact absurd named.symm apart
  have born : births streamID (port.objects.modify handle fun _ => after) =
      births streamID port.objects := births_modify _ fun other same => by
    rw [owner other same]
    exact ⟨takes.streamID, takes.born⟩
  have fetched : passed streamID (port.objects.modify handle fun _ => after) = passed streamID port.objects := by
    ext pair
    refine exists_mem_modify fun other same => ?_
    rw [owner other same, takes.streamID]
    simp [Ne.symm apart]
  have same : (port.updateObject handle fun _ => after).ledger streamID = { port.ledger streamID with
      unfinished := (port.updateObject handle fun _ => after).unfinished streamID
      births := births streamID (port.objects.modify handle fun _ => after)
      passed := passed streamID (port.objects.modify handle fun _ => after) } := rfl
  rw [same, unfinished, born, fetched]
  rfl

structure Keeps (rules : Rules) (streamType : StreamType) (handle : Nat)
    (port later : InPort α) : Prop where
  maps : StreamMaps streamType later
  handled : later.Handled handle
  ledgers : ∀ streamID, Ledgers rules (port.ledger streamID) (later.ledger streamID)

section

variable (handled : port.Handled handle) (found : port.objects[handle]? = some stream)
include handled found

theorem fetch_keeps {blocking : Bool} (unended : stream.eosState = .none)
    (taken : (port.nextPacket blocking stream.streamID).1 = .packet packet)
    (takes : Takes packet stream after) (sound : after.Sound streamType) :
    Keeps rules streamType handle port
      ((port.nextPacket blocking stream.streamID).2.updateObject handle fun _ => after) := by
  obtain ⟨asked, ⟨back, packets, fetched⟩, others⟩ := nextPacket_ledger taken
  obtain ⟨objects, streams, pendingStreams, subset⟩ := nextPacket_frame blocking stream.streamID port
  have own : packet.streamID = stream.streamID := by
    simp only [requested, Bool.or_eq_true, beq_iff_eq] at asked
    rcases asked with empty | same
    · have none : stream.streamID = "" := by simpa using empty
      rcases nextPacket_cases blocking stream.streamID port with ⟨_, same, never⟩ | ⟨first, here, next⟩
      · rw [same] at taken
        exact absurd taken (never packet)
      · rw [next] at taken
        obtain rfl : first = packet := Fetch.packet.inj taken
        rw [handled.own stream found none first (mem_of_find?_eq_some here), none]
    · exact same
  obtain ⟨_, active⟩ := handled.active maps found (by simp [unended])
  have nextMaps : StreamMaps streamType (port.nextPacket blocking stream.streamID).2 :=
    maps.of_same objects streams pendingStreams
  have later : (port.nextPacket blocking stream.streamID).2.objects[handle]? = some stream := by
    rw [objects]
    exact found
  have front : ((port.nextPacket blocking stream.streamID).2.handles stream.streamID).head? = some handle := by
    simp only [handles, streams, pendingStreams]
    exact active
  rw [own] at packets fetched others
  refine ⟨nextMaps.updateObject ?_, ⟨?_, ?_⟩, ?_⟩
  · intro other same
    obtain rfl : stream = other := some.inj (later.symm.trans same)
    refine ⟨takes.streamID, sound, ?_⟩
    rw [takes.eosState, unended]
    cases packet.eos <;> simp
  · simp only [InPort.updateObject, pendingStreams]
    exact handled.known
  · intro other same none queued member
    obtain ⟨before, old, ⟨_, rfl⟩ | ⟨apart, _⟩⟩ := getElem?_modify_some same
    · exact handled.own stream found (by rw [← takes.streamID]; exact none) queued (subset member)
    · exact absurd rfl apart
  · intro streamID
    by_cases same : streamID = stream.streamID
    · subst same
      exact .single (takes_ledger nextMaps later unended front takes packets fetched)
    · rw [takes_ledger_other nextMaps later takes same, others streamID same]

theorem buffers_keeps (buffers : stream.Buffers streamType after) :
    Keeps rules streamType handle port (port.updateObject handle fun _ => after) := by
  have owner : ∀ other, port.objects[handle]? = some other → other = stream := fun other same =>
    some.inj (same.symm.trans found)
  refine ⟨maps.updateObject ?_, ⟨handled.known, ?_⟩, ?_⟩
  · intro other same
    rw [owner other same]
    refine ⟨buffers.streamID, buffers.sound, ?_⟩
    rcases buffers.moves with kept | ⟨received, reached⟩
    · rw [kept]
    · simp [received, reached]
  · intro other same none queued member
    obtain ⟨before, old, ⟨_, rfl⟩ | ⟨apart, _⟩⟩ := getElem?_modify_some same
    · exact handled.own stream found (by rw [← buffers.streamID]; exact none) queued member
    · exact absurd rfl apart
  · intro streamID
    rw [updateObject_ledger fun other same => by
      rw [owner other same]
      exact ⟨⟨buffers.streamID, buffers.born, buffers.fetched⟩, EosState.MovesTo.none_iff buffers.moves⟩]

theorem report_keeps (reached : stream.eosState = .reached) :
    Keeps rules streamType handle port
      ((port.removeStream stream.streamID).updateObject handle
        fun stream => { stream with eosState := .reported }) := by
  obtain ⟨current, active⟩ := handled.active maps found (by simp [reached])
  have objects := removeStream_objects stream.streamID port
  simp only [current] at objects
  have closes : port.Closes stream.streamID := by
    intro other same here there
    rw [current, some.injEq] at here
    subst here
    obtain rfl : stream = same := some.inj (found.symm.trans there)
    have ends := (maps.sound stream (mem_of_getElem? found)).ends
    rw [reached] at ends
    exact .inl (ends.resolve_right id)
  have removed := maps.removeStream closes
  have later : ∀ other, (port.removeStream stream.streamID).objects[handle]? = some other →
      other = { stream with eosState := .reported } := by
    intro other same
    rw [objects, getElem?_modify, found] at same
    simpa using same.symm
  refine ⟨removed.updateObject ?_, ⟨?_, ?_⟩, ?_⟩
  · intro other same
    have sound := removed.sound other (mem_of_getElem? same)
    rw [later other same] at sound ⊢
    exact ⟨rfl, sound, Iff.rfl⟩
  · intro entry member
    refine handled.known entry ?_
    simp only [InPort.updateObject, removeStream, current, closeStream] at member
    split at member
    · exact mem_of_mem_eraseP member
    · exact member
  · intro other same none queued member
    obtain ⟨before, old, ⟨_, rfl⟩ | ⟨apart, _⟩⟩ := getElem?_modify_some same
    · obtain ⟨_, _, _, frame⟩ := removeStream_frame stream.streamID port
      rw [later before old] at none
      simp only [InPort.updateObject, frame] at member
      exact handled.own stream found none queued member
    · exact absurd rfl apart
  · intro streamID
    rw [updateObject_ledger fun other same => by
      rw [later other same]
      exact ⟨⟨rfl, rfl, rfl⟩, Iff.rfl⟩]
    rw [removeStream_ledger maps]
    have kept : (if streamID = stream.streamID then port.behindActive stream.streamID
        else port.unfinished streamID) = (port.ledger streamID).unfinished := by
      split
      · rename_i same
        have line := unfinished_active active found
        rw [same]
        simp only [reached, reduceCtorEq, if_false, nil_append] at line
        exact line.symm
      · rfl
    rw [kept]

end

end

theorem Keeps.trans {first second third : InPort α} (before : Keeps rules streamType handle first second)
    (after : Keeps rules streamType handle second third) :
    Keeps rules streamType handle first third :=
  ⟨after.maps, after.handled, fun streamID => (before.ledgers streamID).trans (after.ledgers streamID)⟩

theorem StreamStep.keeps {later : InPort α} (maps : StreamMaps streamType port) (handled : port.Handled handle)
    (step : StreamStep streamType handle port later) : Keeps rules streamType handle port later := by
  cases step with
  | fetches stream blocking packet found enabled unended taken =>
      exact fetch_keeps maps handled found unended taken ⟨rfl, rfl, rfl, rfl⟩
        ((maps.sound stream (mem_of_getElem? found)).handed unended _ _)
  | buffers stream after found buffers => exact buffers_keeps maps handled found buffers
  | reports stream found reached => exact report_keeps maps handled found reached

theorem callStream_keeps (maps : StreamMaps streamType port)
    (handled : port.Handled handle) {call : StreamCall} (enabled : call ≠ .disable) :
    Keeps rules streamType handle port (port.callStream streamType handle call) := by
  cases found : port.objects[handle]? with
  | none =>
      have same : port.callStream streamType handle call = port := by simp [callStream, found]
      rw [same]
      exact ⟨maps, handled, fun _ => .refl⟩
  | some stream =>
      have steps := callStream_steps streamType enabled found
        (maps.sound stream (mem_of_getElem? found))
      generalize port.callStream streamType handle call = later at steps ⊢
      induction steps with
      | refl => exact ⟨maps, handled, fun _ => .refl⟩
      | tail _ step keeps => exact keeps.trans (StreamStep.keeps keeps.maps keeps.handled step)

end Fetch

section Discard

theorem discardQueued_sublist (streamID : String) (packets : List (Packet α)) :
    (discardQueued streamID packets).Sublist packets := by
  induction packets with
  | nil => exact .slnil
  | cons packet rest ih =>
      simp only [discardQueued]
      split
      · split
        · exact sublist_cons_self _ _
        · exact ih.cons _
      · exact ih.cons_cons _

theorem discardQueued_other {streamID other : String} (apart : other ≠ streamID) (packets : List (Packet α)) :
    forStream other (discardQueued streamID packets) = forStream other packets := by
  induction packets with
  | nil => rfl
  | cons packet rest ih =>
      simp only [discardQueued]
      split
      · rename_i same
        have outside : packet.streamID ≠ other := by
          rw [beq_iff_eq.mp same]
          exact Ne.symm apart
        rw [forStream_cons_other outside]
        split
        · rfl
        · exact ih
      · simp only [forStream, filter_cons] at ih ⊢
        rw [ih]

variable {port : InPort α}

theorem disable_cases (streamType : StreamType) {handle : Nat}
    {stream : BufferedInputStream α} (found : port.objects[handle]? = some stream)
    (sound : stream.Sound streamType) :
    ∃ after, stream.Buffers streamType after ∧
      port.callStream streamType handle .disable =
        (if stream.eosState = .none then port.discardPacketsForStream stream.streamID
        else port).updateObject handle fun _ => after := by
  simp only [callStream, found]
  cases streamType with
  | plain =>
      refine ⟨{ stream with enabled := false }, ⟨rfl, rfl, rfl, ⟨sound.plain, fun _ =>
        sound.plain rfl, .inl (sound.plain rfl)⟩, .inl rfl⟩, ?_⟩
      simp only [StreamType.call, InputStream.call, InputStream.disable, beq_iff_eq]
      split <;> rfl
  | buffered =>
      refine ⟨{ stream with
        enabled := false
        queue := []
        sampleOffset := 0
        samplesQueued := 0
        deleted := stream.deleted ++ stream.queue ++ stream.pending.toList },
        ⟨rfl, rfl, rfl, ⟨fun _ => rfl, fun _ => rfl, .inl rfl⟩, .inl rfl⟩, ?_⟩
      simp only [StreamType.call, BufferedInputStream.call, BufferedInputStream.disable,
        InputStream.disable, beq_iff_eq]
      split <;> rfl

def DiscardAllowed (rules : Rules) (handle : Nat) (port : InPort α) : Prop :=
  ∀ stream, port.objects[handle]? = some stream → stream.eosState = .none →
    rules.discard (port.ledger stream.streamID)
      (marks (forStream stream.streamID (discardQueued stream.streamID port.packetQueue)))

theorem disable_keeps (maps : StreamMaps streamType port) {handle : Nat}
    (handled : port.Handled handle) (allowed : port.DiscardAllowed rules handle) :
    Keeps rules streamType handle port (port.callStream streamType handle .disable) := by
  cases found : port.objects[handle]? with
  | none =>
      have same : port.callStream streamType handle .disable = port := by simp [callStream, found]
      rw [same]
      exact ⟨maps, handled, fun _ => .refl⟩
  | some stream =>
      obtain ⟨after, buffers, result⟩ := disable_cases streamType found
        (maps.sound stream (mem_of_getElem? found))
      rw [result]
      split
      · rename_i unended
        have discarded : Keeps rules streamType handle port
            (port.discardPacketsForStream stream.streamID) := by
          refine ⟨maps.of_same rfl rfl rfl, ⟨handled.known, ?_⟩, ?_⟩
          · intro other same none queued member
            exact handled.own other same none queued
              ((discardQueued_sublist _ _).subset member)
          · intro streamID
            by_cases same : streamID = stream.streamID
            · subst same
              refine .single (.discards _ ?_ (allowed stream found unended))
              exact (Sublist.filter _ (discardQueued_sublist _ _)).map _
            · have kept : (port.discardPacketsForStream stream.streamID).ledger streamID =
                  port.ledger streamID := by
                simp [discardPacketsForStream, ledger, view, discardQueued_other same, InPort.unfinished, handles]
              rw [kept]
        exact discarded.trans (buffers_keeps discarded.maps discarded.handled found buffers)
      · exact buffers_keeps maps handled found buffers

def TakeAllowed (rules : Rules) (streamID : String) (port : InPort α) : Prop :=
  ∀ packet, port.packetQueue.find? (requested streamID) = some packet →
    rules.take (port.ledger packet.streamID) ∧ (packet.eos = true → port.Closes packet.streamID)

theorem getPacket_ledgers (maps : StreamMaps streamType port) (blocking : Bool)
    {streamID : String} (allowed : port.TakeAllowed rules streamID) (other : String) :
    StreamMaps streamType (port.getPacket blocking streamID).2 ∧
      Ledgers rules (port.ledger other) ((port.getPacket blocking streamID).2.ledger other) := by
  obtain ⟨objects, streams, pendingStreams, _⟩ := nextPacket_frame blocking streamID port
  have nextMaps : StreamMaps streamType (port.nextPacket blocking streamID).2 :=
    maps.of_same objects streams pendingStreams
  rcases nextPacket_cases blocking streamID port with ⟨fetch, same, never⟩ | ⟨packet, found, _⟩
  · have result : (port.getPacket blocking streamID).2 = port := by
      simp only [getPacket, same]
      cases fetch with
      | packet packet => exact absurd rfl (never packet)
      | null => rfl
      | waits => rfl
    rw [result]
    exact ⟨maps, .refl⟩
  · rename_i fetched
    obtain ⟨take, close⟩ := allowed packet found
    have taken : (port.nextPacket blocking streamID).1 = .packet packet := by rw [fetched]
    obtain ⟨_, ⟨back, packets, queue⟩, others⟩ := nextPacket_ledger taken
    have result : (port.getPacket blocking streamID).2 =
        if packet.eos then (port.nextPacket blocking streamID).2.removeStream packet.streamID
        else (port.nextPacket blocking streamID).2 := by
      simp only [getPacket, fetched]
    rw [result]
    cases ends : packet.eos with
    | false =>
        refine ⟨nextMaps, ?_⟩
        by_cases same : other = packet.streamID
        · subst same
          simp only [Bool.false_eq_true, if_false]
          rw [queue]
          exact .single (.takes packet.serial packet.eos back _ take packets (.inl rfl))
        · simp only [Bool.false_eq_true, if_false]
          rw [others other same]
    | true =>
        have closes : (port.nextPacket blocking streamID).2.Closes packet.streamID := by
          intro handle stream lookup here
          rw [streams] at lookup
          rw [objects] at here
          exact close ends handle stream lookup here
        refine ⟨nextMaps.removeStream closes, ?_⟩
        simp only [if_true]
        rw [removeStream_ledger nextMaps]
        by_cases same : other = packet.streamID
        · subst same
          rw [if_pos rfl, queue]
          refine .single (.takes packet.serial packet.eos back _ take packets ?_)
          have line : port.unfinished packet.streamID =
              (port.nextPacket blocking streamID).2.unfinished packet.streamID :=
            (unfinished_of_same objects streams pendingStreams _).symm
          have whole : (port.ledger packet.streamID).unfinished =
              (port.nextPacket blocking streamID).2.unfinished packet.streamID := line
          rw [whole, ends]
          cases head : (port.nextPacket blocking streamID).2.handles packet.streamID with
          | nil => simp [InPort.unfinished, behindActive, head]
          | cons handle rest =>
              obtain ⟨stream, here, _, _⟩ := nextMaps.listed packet.streamID handle (by simp [head])
              rw [unfinished_active (by rw [head]; rfl) here]
              split
              · exact .inr ⟨rfl, rfl⟩
              · exact .inl rfl
        · rw [if_neg same, unfinished_of_same objects streams pendingStreams, others other same]
          exact .refl

end Discard

section Calls

def KeepsLedgers (rules : Rules) (call : Call α) (port : InPort α) : Prop :=
  match call with
  | .queuePacket _ _ eos streamID => port.PushAllowed rules eos streamID
  | .nextPacket _ _ => False
  | .getPacket _ streamID => port.TakeAllowed rules streamID
  | .stream handle call =>
      port.Handled handle ∧ (call = .disable → port.DiscardAllowed rules handle)
  | _ => True

theorem step_ledgers {port : InPort α} (maps : StreamMaps streamType port) {call : Call α}
    (keeps : KeepsLedgers rules call port) (streamID : String) :
    StreamMaps streamType (port.step streamType call) ∧
      Ledgers rules (port.ledger streamID) ((port.step streamType call).ledger streamID) := by
  have same : ∀ later : InPort α, later.objects = port.objects → later.streams = port.streams →
      later.pendingStreams = port.pendingStreams → later.view streamID = port.view streamID →
      StreamMaps streamType later ∧ Ledgers rules (port.ledger streamID) (later.ledger streamID) := by
    intro later objects streams pendingStreams view
    refine ⟨maps.of_same objects streams pendingStreams, ?_⟩
    have kept : later.ledger streamID = port.ledger streamID := by
      simp only [ledger, view, objects, unfinished_of_same objects streams pendingStreams]
    rw [kept]
  cases call with
  | pushSRI sri => exact ⟨pushSRI_maps maps sri, pushSRI_ledgers maps sri streamID⟩
  | queuePacket data T eos other => exact queuePacket_ledgers maps data T keeps streamID
  | resumePush other => exact resumePush_ledgers maps other streamID
  | nextPacket blocking other => exact keeps.elim
  | getPacket blocking other => exact getPacket_ledgers maps blocking keeps streamID
  | setMaxQueueDepth newDepth => exact same _ rfl rfl rfl rfl
  | block => exact same _ rfl rfl rfl rfl
  | unblock => exact same _ rfl rfl rfl rfl
  | stream handle call =>
      have kept : Keeps rules streamType handle port (port.callStream streamType handle call) := by
        by_cases disables : call = .disable
        · rw [disables]
          exact disable_keeps maps keeps.1 (keeps.2 disables)
        · exact callStream_keeps maps keeps.1 disables
      exact ⟨kept.maps, kept.ledgers streamID⟩

theorem run_ledgers (Holds : Ledger → Prop)
    (preserved : ∀ ledger later, Holds ledger → Step rules ledger later → Holds later)
    (sriCmp : StreamSRI → StreamSRI → Bool) (maxQueue : Nat) {streamID : String}
    (initial : Holds ((InPort.fresh sriCmp maxQueue : InPort α).ledger streamID))
    {calls : List (Call α)}
    (along : Along (InPort.step streamType) (KeepsLedgers rules) (InPort.fresh sriCmp maxQueue) calls) :
    StreamMaps streamType (run (InPort.step streamType) (InPort.fresh sriCmp maxQueue) calls) ∧
      Holds ((run (InPort.step streamType) (InPort.fresh sriCmp maxQueue) calls).ledger streamID) :=
  invariant_run (fun port : InPort α => StreamMaps streamType port ∧ Holds (port.ledger streamID))
    (fun call port kept allowed => by
      obtain ⟨maps, steps⟩ := step_ledgers kept.1 allowed streamID
      refine ⟨maps, ?_⟩
      generalize (port.step streamType call).ledger streamID = later at steps
      induction steps with
      | refl => exact kept.2
      | tail _ step holds => exact preserved _ _ holds step)
    ⟨StreamMaps.fresh sriCmp maxQueue, initial⟩ along

end Calls

end InPort

end Redhawk.Bulkio
