import Redhawk.Bulkio.InPortFrames
import Redhawk.Bulkio.PortCalls

/-!
The input port as one stream ID sees it, and what a call does to this view. The claims about the
packets of a stream follow from `step_effect` without a further look at the port.
-/

namespace Redhawk.Bulkio

variable {α : Type}

structure StreamView (α : Type) where
  delivered : List (Packet α)
  queue : List (Packet α)
  waiting : List (Packet α)
  dropped : List (Packet α)
  entry : Option (StreamSRI × Bool)
  endings : List Nat
  clock : Nat

def InPort.view (streamID : String) (port : InPort α) : StreamView α where
  delivered := forStream streamID port.history.delivered
  queue := forStream streamID port.packetQueue
  waiting := forStream streamID port.waiting
  dropped := forStream streamID port.history.dropped
  entry := (port.currentHs.lookup streamID).map fun entry => (entry.1.1, entry.2)
  endings := (port.history.eosReceived.filter fun ending => ending.1 == streamID).map Prod.snd
  clock := port.history.clock

namespace StreamView

def enqueue (packet : Packet α) (view : StreamView α) : StreamView α :=
  { view with
    queue := view.queue ++ [packet]
    entry := if packet.eos then none else view.entry
    endings := if packet.eos then view.endings ++ [packet.serial] else view.endings }

def handOut (front back : List (Packet α)) (view : StreamView α) : StreamView α :=
  { view with delivered := view.delivered ++ front, queue := back }

def merge (view : StreamView α) : StreamView α :=
  { view with
    queue := (collapse view.queue).lastPackets
    dropped := view.dropped ++ (collapse view.queue).deleted.filter hasData }

def makeRoom (sriChanged : Bool) (view : StreamView α) : StreamView α :=
  let room := replaceOpen sriChanged (collapse view.queue)
  { view with
    queue := room.packetQueue
    dropped := view.dropped ++ room.deleted.filter hasData }

def acknowledge (packet : Packet α) (view : StreamView α) : StreamView α :=
  { view with entry := some (packet.sri, false), clock := packet.serial + 1 }

end StreamView

structure BuiltPacket (streamID : String) (view : StreamView α) (packet : Packet α) : Prop where
  named : packet.streamID = streamID
  entry : view.entry = some (packet.sri, packet.sriChanged) ∨
    (view.entry = none ∧ packet.sri = Sri.create streamID ∧ packet.sriChanged = true)
  unflushed : packet.inputQueueFlushed = false
  useful : packet.buffer ≠ [] ∨ packet.eos = true
  serial : view.clock ≤ packet.serial

/-- The push of an accepted packet finds the queue of a non-blocking port full. -/
def PushFlushes (data : List α) (eos : Bool) (port : InPort α) : Prop :=
  (data ≠ [] ∨ eos = true) ∧ 0 < port.maxQueue ∧ port.maxQueue ≤ port.packetQueue.length ∧ port.blocking = false

/-- What a call on the port or on one of its streams, short of `disable`, does to a stream's view. -/
inductive Effect (streamID : String) (port : InPort α) : Call α → StreamView α → Prop
  | unchanged (call : Call α) (clock : Nat) (later : port.history.clock ≤ clock) :
      Effect streamID port call { port.view streamID with clock := clock }
  | discarded (data : List α) (T : PrecisionUTCTime)
      (refused : (port.acceptPacket streamID true).1 = false ∨ port.maxQueue = 0) :
      Effect streamID port (.queuePacket data T true streamID) { port.view streamID with
        endings := (port.view streamID).endings ++ [port.history.clock]
        clock := port.history.clock + 1 }
  | fetched (call : Call α) (front back : List (Packet α))
      (queue : (port.view streamID).queue = front ++ back) :
      Effect streamID port call ((port.view streamID).handOut front back)
  | listed (sri : StreamSRI) (clock : Nat) (named : sri.streamID = streamID)
      (later : port.history.clock ≤ clock) :
      Effect streamID port (.pushSRI sri)
        { port.view streamID with entry := some (sri, true), clock := clock }
  | merged (data : List α) (T : PrecisionUTCTime) (eos : Bool) (other : String) (clock : Nat)
      (flushes : PushFlushes data eos port) (later : port.history.clock ≤ clock) :
      Effect streamID port (.queuePacket data T eos other)
        { (port.view streamID).merge with clock := clock }
  | waits (packet : Packet α) (built : BuiltPacket streamID (port.view streamID) packet)
      (blocking : port.blocking = true) :
      Effect streamID port (.queuePacket packet.buffer packet.T packet.eos streamID)
        { (port.view streamID).acknowledge packet with
          waiting := (port.view streamID).waiting ++ [packet] }
  | enqueued (packet : Packet α) (built : BuiltPacket streamID (port.view streamID) packet) :
      Effect streamID port (.queuePacket packet.buffer packet.T packet.eos streamID)
        (((port.view streamID).acknowledge packet).enqueue packet)
  | flushed (packet : Packet α) (built : BuiltPacket streamID (port.view streamID) packet)
      (flushes : PushFlushes packet.buffer packet.eos port) :
      Effect streamID port (.queuePacket packet.buffer packet.T packet.eos streamID)
        ((((port.view streamID).acknowledge packet).makeRoom packet.sriChanged).enqueue { packet with
          sriChanged :=
            (replaceOpen packet.sriChanged (collapse (port.view streamID).queue)).sriChanged
          inputQueueFlushed :=
            (replaceOpen packet.sriChanged (collapse (port.view streamID).queue)).flushToReport })
  | resumed (packet : Packet α) (rest : List (Packet α))
      (waiting : (port.view streamID).waiting = packet :: rest) :
      Effect streamID port (.resumePush streamID)
        ({ port.view streamID with waiting := rest }.enqueue packet)

namespace InPort

section Views

theorem removeStream_view (streamID other : String) (port : InPort α) :
    (port.removeStream other).view streamID = port.view streamID := by
  obtain ⟨_, _, _, frame⟩ := removeStream_frame other port
  rw [frame]
  rfl

theorem acceptPacket_view (streamID other : String) (eos : Bool) (port : InPort α) :
    (port.acceptPacket other eos).2.view streamID = port.view streamID := by
  obtain ⟨_, _, _, frame⟩ := acceptPacket_frame other eos port
  rw [frame]
  rfl

theorem createStream_view (streamID other : String) (sri : StreamSRI) (port : InPort α) :
    (port.createStream other sri).view streamID =
      { port.view streamID with clock := port.history.clock + 1 } := by
  obtain ⟨_, _, _, frame⟩ := createStream_frame other sri port
  rw [frame]
  rfl

theorem nextPacket_view (streamID : String) (blocking : Bool) (other : String) (port : InPort α) :
    ∃ front back, (port.view streamID).queue = front ++ back ∧
      (port.nextPacket blocking other).2.view streamID = (port.view streamID).handOut front back := by
  rcases nextPacket_cases blocking other port with ⟨fetch, same, _⟩ | ⟨packet, found, fetched⟩
  · refine ⟨[], (port.view streamID).queue, rfl, ?_⟩
    rw [same]
    simp [StreamView.handOut]
  · have moved := forStream_first (requested_byID other) found streamID
    rw [fetched]
    by_cases belongs : packet.streamID = streamID
    · subst belongs
      rw [forStream_cons_same] at moved
      have alone := forStream_cons_same packet []
      refine ⟨[packet], forStream packet.streamID (port.packetQueue.eraseP (requested other)), moved.symm, ?_⟩
      simp [view, StreamView.handOut, alone]
    · rw [forStream_cons_other belongs] at moved
      have none := forStream_cons_other belongs []
      refine ⟨[], forStream streamID port.packetQueue, rfl, ?_⟩
      simp [view, StreamView.handOut, none, moved]

variable (packet : Packet α)

theorem enqueue_view (port : InPort α) :
    (port.enqueue packet).view packet.streamID = (port.view packet.streamID).enqueue packet := by
  simp only [enqueue, StreamView.enqueue, view]
  have alone := forStream_cons_same packet []
  cases packet.eos <;> simp [alone]

theorem enqueue_view_other {streamID : String} {packet : Packet α}
    (other : packet.streamID ≠ streamID) (port : InPort α) :
    (port.enqueue packet).view streamID = port.view streamID := by
  have none := forStream_cons_other other []
  simp only [enqueue, view]
  cases packet.eos
  · simp [none]
  · simp [none, AList.lookup_erase_ne (Ne.symm other), other]

theorem acknowledgeSRI_view {streamID : String} (other : String) {port : InPort α}
    (lowered : streamID = other → ∀ entry, (port.view streamID).entry = some entry → entry.2 = false) :
    (port.acknowledgeSRI other).view streamID = port.view streamID := by
  simp only [acknowledgeSRI]
  split
  · rename_i sri sriChanged found
    by_cases same : streamID = other
    · subst same
      have low : sriChanged = false := lowered rfl (sri.1, sriChanged) (by simp [view, found])
      simp [view, found, low]
    · simp [view, AList.lookup_insert_ne same]
  · rfl

theorem dropped_forStream (streamID : String) (packets : List (Packet α)) :
    forStream streamID (packets.filter hasData) = (forStream streamID packets).filter hasData := by
  simp [forStream, List.filter_filter, Bool.and_comm]

theorem flushFor_view {port : InPort α}
    (lowered : ∀ entry, (port.view packet.streamID).entry = some entry → entry.2 = false) :
    (port.flushFor packet).2.view packet.streamID = (port.view packet.streamID).makeRoom packet.sriChanged := by
  have room := makeRoom_forStream_same packet.streamID packet.sriChanged port.packetQueue
  have left := congrArg Room.packetQueue room
  have deleted := congrArg Room.deleted room
  have flushed : InPort.view packet.streamID { port with
      packetQueue := (makeRoom packet.streamID packet.sriChanged port.packetQueue).packetQueue
      history := { port.history with
        dropped := port.history.dropped ++
          (makeRoom packet.streamID packet.sriChanged port.packetQueue).deleted.filter hasData } } =
        (port.view packet.streamID).makeRoom packet.sriChanged := by
    simp only [Room.forStream] at left deleted
    simp only [view, StreamView.makeRoom, forStream_append, dropped_forStream, left, deleted]
  simp only [flushFor]
  split
  · refine Eq.trans (acknowledgeSRI_view _ ?_) flushed
    exact fun _ => lowered
  · exact flushed

theorem flushFor_packet (port : InPort α) :
    (port.flushFor packet).1 = { packet with
      sriChanged :=
        (replaceOpen packet.sriChanged (collapse (port.view packet.streamID).queue)).sriChanged
      inputQueueFlushed :=
        (replaceOpen packet.sriChanged (collapse (port.view packet.streamID).queue)).flushToReport } := by
  have room := makeRoom_forStream_same packet.streamID packet.sriChanged port.packetQueue
  simp only [flushFor, view, ← room, Room.forStream]

theorem flushFor_view_other {streamID : String} {packet : Packet α}
    (other : packet.streamID ≠ streamID) (port : InPort α) :
    (port.flushFor packet).2.view streamID = (port.view streamID).merge := by
  obtain ⟨left, deleted⟩ :=
    makeRoom_forStream_other other packet.sriChanged port.packetQueue
  have flushed : InPort.view streamID { port with
      packetQueue := (makeRoom packet.streamID packet.sriChanged port.packetQueue).packetQueue
      history := { port.history with
        dropped := port.history.dropped ++
          (makeRoom packet.streamID packet.sriChanged port.packetQueue).deleted.filter hasData } } =
        (port.view streamID).merge := by
    simp only [view, StreamView.merge, forStream_append, dropped_forStream, left, deleted]
  simp only [flushFor]
  split
  · refine Eq.trans (acknowledgeSRI_view _ ?_) flushed
    exact fun same => absurd same.symm other
  · exact flushed

theorem buildPacket_view (data : List α) (T : PrecisionUTCTime) (eos : Bool) (streamID : String)
    (useful : data ≠ [] ∨ eos = true) (port : InPort α) :
    BuiltPacket streamID (port.view streamID) (port.buildPacket data T eos streamID).1 ∧
      (port.buildPacket data T eos streamID).2.view streamID =
        (port.view streamID).acknowledge (port.buildPacket data T eos streamID).1 := by
  obtain ⟨_, _, _, clock, later, frame⟩ := lookupSRI_frame streamID port
  have entry := lookupSRI_entry streamID port
  refine ⟨⟨(port.lookupSRI streamID).1.1.2, ?_, rfl, useful, ?_⟩, ?_⟩
  · rcases entry with listed | ⟨absent, default⟩
    · exact .inl (by simp [view, listed, buildPacket])
    · exact .inr (by simp [view, absent, default, buildPacket])
  · simp only [buildPacket, frame]
    exact later
  · simp [buildPacket, frame, view, tick, StreamView.acknowledge]

theorem buildPacket_view_other {streamID other : String} (different : other ≠ streamID)
    (data : List α) (T : PrecisionUTCTime) (eos : Bool) (port : InPort α) :
    ∃ clock, port.history.clock ≤ clock ∧
      (port.buildPacket data T eos other).2.view streamID = { port.view streamID with clock := clock } := by
  obtain ⟨_, _, _, clock, later, frame⟩ := lookupSRI_frame other port
  refine ⟨clock + 1, by omega, ?_⟩
  simp [buildPacket, frame, view, tick, AList.lookup_insert_ne (Ne.symm different)]

end Views

section Effects

variable (streamID : String)

theorem list_effect (sri : StreamSRI) (port : InPort α) (clock : Nat) (later : port.history.clock ≤ clock) :
    Effect streamID port (.pushSRI sri) { InPort.view streamID { port with
      currentHs := port.currentHs.insert sri.streamID (⟨sri, rfl⟩, true) } with clock := clock } := by
  by_cases named : sri.streamID = streamID
  · subst named
    have listed : Effect sri.streamID port _ _ := .listed sri clock rfl later
    simpa [view] using listed
  · have same : Effect streamID port _ _ := .unchanged (.pushSRI sri) clock later
    simpa [view, AList.lookup_insert_ne (Ne.symm named)] using same

theorem pushSRI_effect (sri : StreamSRI) (port : InPort α) :
    Effect streamID port (.pushSRI sri) ((port.pushSRI sri).view streamID) := by
  simp only [pushSRI]
  split
  · rw [createStream_view]
    exact list_effect streamID sri port _ (Nat.le_succ _)
  · split
    · rw [createStream_view]
      exact .unchanged _ _ (Nat.le_succ _)
    · split
      · exact list_effect streamID sri port _ (Nat.le_refl _)
      · exact .unchanged _ _ (Nat.le_refl _)

theorem admit_effect (packet : Packet α) (port built : InPort α)
    (isBuilt : BuiltPacket packet.streamID (port.view packet.streamID) packet)
    (acknowledged : built.view packet.streamID = (port.view packet.streamID).acknowledge packet)
    (positive : 0 < port.maxQueue) (depth : built.maxQueue = port.maxQueue)
    (queue : built.packetQueue = port.packetQueue) (blocking : built.blocking = port.blocking) :
    Effect packet.streamID port
      (.queuePacket packet.buffer packet.T packet.eos packet.streamID)
      ((built.admitPacket packet).view packet.streamID) := by
  have alone := forStream_cons_same packet []
  simp only [admitPacket]
  split
  · rename_i full
    rw [depth, queue] at full
    split
    · rename_i blocks
      rw [blocking] at blocks
      have waits := Effect.waits packet isBuilt blocks
      have same : InPort.view packet.streamID { built with waiting := built.waiting ++ [packet] } =
          { built.view packet.streamID with
            waiting := (built.view packet.streamID).waiting ++ [packet] } := by
        simp [view, alone]
      rw [same, acknowledged]
      exact waits
    · rename_i flushes
      rw [blocking] at flushes
      have flushed := Effect.flushed packet isBuilt
        ⟨isBuilt.useful, positive, full, by simpa using flushes⟩
      have lowered : ∀ entry, (built.view packet.streamID).entry = some entry → entry.2 = false := by
        rw [acknowledged]
        rintro entry found
        simp only [StreamView.acknowledge, Option.some.injEq] at found
        rw [← found]
      have streamID : (built.flushFor packet).1.streamID = packet.streamID := rfl
      simp only [flushAndEnqueue]
      rw [← streamID, enqueue_view, streamID, flushFor_view packet lowered, flushFor_packet, acknowledged]
      exact flushed
  · rw [enqueue_view, acknowledged]
    exact .enqueued packet isBuilt

theorem admit_effect_other (packet : Packet α) (port built : InPort α)
    (other : packet.streamID ≠ streamID) (clock : Nat) (later : port.history.clock ≤ clock)
    (same : built.view streamID = { port.view streamID with clock := clock })
    (useful : packet.buffer ≠ [] ∨ packet.eos = true) (positive : 0 < port.maxQueue)
    (depth : built.maxQueue = port.maxQueue) (queue : built.packetQueue = port.packetQueue)
    (blocking : built.blocking = port.blocking) :
    Effect streamID port (.queuePacket packet.buffer packet.T packet.eos packet.streamID)
      ((built.admitPacket packet).view streamID) := by
  have none := forStream_cons_other other []
  simp only [admitPacket]
  split
  · rename_i full
    rw [depth, queue] at full
    split
    · have kept : InPort.view streamID { built with waiting := built.waiting ++ [packet] } =
          built.view streamID := by
        simp [view, none]
      rw [kept, same]
      exact .unchanged _ _ later
    · rename_i flushes
      rw [blocking] at flushes
      have outside : (built.flushFor packet).1.streamID ≠ streamID := other
      simp only [flushAndEnqueue]
      rw [enqueue_view_other outside, flushFor_view_other other, same]
      exact .merged _ _ _ _ _ ⟨useful, positive, full, by simpa using flushes⟩ later
  · rw [enqueue_view_other other, same]
    exact .unchanged _ _ later

theorem noteEos_view (other : String) (port : InPort α) :
    (port.noteEos other).view streamID = { port.view streamID with
      endings := (port.view streamID).endings ++
        if other = streamID then [port.history.clock] else []
      clock := port.history.clock + 1 } := by
  by_cases same : other = streamID <;> simp [noteEos, view, same]

theorem queuePacket_effect (data : List α) (T : PrecisionUTCTime) (eos : Bool) (other : String)
    (port : InPort α) :
    Effect streamID port (.queuePacket data T eos other)
      ((port.queuePacket data T eos other).view streamID) := by
  have ended : ∀ later : InPort α, later.view streamID = port.view streamID →
      ((port.acceptPacket other true).1 = false ∨ port.maxQueue = 0) →
      Effect streamID port (.queuePacket data T true other) ((later.noteEos other).view streamID) := by
    intro later same refused
    have clock : later.history.clock = port.history.clock := congrArg StreamView.clock same
    rw [noteEos_view, same, clock]
    by_cases here : other = streamID
    · subst here
      simpa using Effect.discarded data T refused
    · have same : Effect streamID port _ _ :=
        .unchanged (.queuePacket data T true other) _ (Nat.le_succ _)
      simpa [here] using same
  have unchanged : ∀ later : InPort α, later.view streamID = port.view streamID →
      Effect streamID port (.queuePacket data T eos other) (later.view streamID) := by
    intro later same
    rw [same]
    exact .unchanged _ _ (Nat.le_refl _)
  rcases queuePacket_cases data T eos other port with
    ⟨refused, result⟩ | ⟨_, ignored, result⟩ | ⟨_, positive, useful, result⟩
  · rw [result]
    cases eos with
    | true => exact ended _ (acceptPacket_view ..) (.inl refused)
    | false => exact unchanged _ (acceptPacket_view ..)
  · rw [result]
    cases eos with
    | true => exact ended port rfl (.inr (by simpa using ignored))
    | false => exact unchanged port rfl
  · rw [result]
    obtain ⟨_, _, _, _, _, frame⟩ := lookupSRI_frame other port
    by_cases here : other = streamID
    · subst here
      obtain ⟨built, acknowledged⟩ := buildPacket_view data T eos other useful port
      have named := built.named
      have effect := admit_effect (port.buildPacket data T eos other).1 port
        (port.buildPacket data T eos other).2 (by rw [named]; exact built)
        (by rw [named]; exact acknowledged) positive (by simp [buildPacket, frame, tick])
        (by simp [buildPacket, frame, tick]) (by simp [buildPacket, frame, tick])
      rw [named] at effect
      exact effect
    · obtain ⟨clock, later, same⟩ := buildPacket_view_other here data T eos port
      have named : (port.buildPacket data T eos other).1.streamID = other :=
        (port.lookupSRI other).1.1.2
      have effect := admit_effect_other streamID (port.buildPacket data T eos other).1 port
        (port.buildPacket data T eos other).2 (by rw [named]; exact here) clock later same useful positive (by simp [buildPacket, frame, tick]) (by simp [buildPacket, frame, tick])
        (by simp [buildPacket, frame, tick])
      rw [named] at effect
      exact effect

theorem resumePush_effect (other : String) (port : InPort α) :
    Effect streamID port (.resumePush other) ((port.resumePush other).view streamID) := by
  simp only [resumePush]
  split
  · rename_i packet found
    have named : packet.streamID = other := by simpa using List.find?_some found
    have moved := forStream_first (fun packet later same => by rw [same]) found streamID
    split
    · by_cases here : other = streamID
      · subst here
        subst named
        rw [forStream_cons_same] at moved
        rw [enqueue_view]
        exact .resumed packet _ moved.symm
      · have outside : packet.streamID ≠ streamID := by rw [named]; exact here
        rw [forStream_cons_other outside] at moved
        rw [enqueue_view_other outside]
        have same : InPort.view streamID { port with
            waiting := port.waiting.eraseP fun packet => packet.streamID == other } = port.view streamID := by
          simp only [view, moved]
        rw [same]
        exact .unchanged _ _ (Nat.le_refl _)
    · exact .unchanged _ _ (Nat.le_refl _)
  · exact .unchanged _ _ (Nat.le_refl _)

def HandedOut (port later : InPort α) : Prop :=
  ∃ front back, (port.view streamID).queue = front ++ back ∧
    later.view streamID = (port.view streamID).handOut front back

theorem handedOut_closed (other : String) (port : InPort α) :
    ReadClosed other (HandedOut streamID port) where
  nextPacket blocking later handed := by
    obtain ⟨front, back, queue, same⟩ := handed
    obtain ⟨front', back', queue', same'⟩ := nextPacket_view streamID blocking other later
    rw [same] at queue' same'
    have split : back = front' ++ back' := queue'
    exact ⟨front ++ front', back', by rw [queue, split, List.append_assoc], by
      simp [same', StreamView.handOut]⟩
  removeStream later handed := by
    rw [HandedOut, removeStream_view]
    exact handed
  updateObject _ _ _ handed := handed

theorem HandedOut.refl (port : InPort α) : HandedOut streamID port port :=
  ⟨[], (port.view streamID).queue, rfl, by simp [StreamView.handOut]⟩

theorem HandedOut.effect {streamID : String} {port later : InPort α}
    (handed : HandedOut streamID port later) {call : Call α} :
    Effect streamID port call (later.view streamID) := by
  obtain ⟨front, back, queue, same⟩ := handed
  rw [same]
  exact .fetched _ front back queue

theorem step_effect (streamType : StreamType) {call : Call α}
    (enabled : ∀ handle, call ≠ .stream handle .disable) (port : InPort α) :
    Effect streamID port call ((port.step streamType call).view streamID) := by
  cases call with
  | pushSRI sri => exact pushSRI_effect streamID sri port
  | queuePacket data T eos other => exact queuePacket_effect streamID data T eos other port
  | resumePush other => exact resumePush_effect streamID other port
  | nextPacket blocking other =>
      exact ((handedOut_closed streamID other port).nextPacket blocking port (.refl streamID port)).effect
  | getPacket blocking other =>
      have handed := (handedOut_closed streamID other port).nextPacket blocking port
        (.refl streamID port)
      exact (getPacket_keeps (fun id later => (handedOut_closed streamID id port).removeStream later)
        handed).effect
  | setMaxQueueDepth newDepth => exact .unchanged _ _ (Nat.le_refl _)
  | block => exact .unchanged _ _ (Nat.le_refl _)
  | unblock => exact .unchanged _ _ (Nat.le_refl _)
  | stream handle call =>
      have handed : HandedOut streamID port (port.callStream streamType handle call) := by
        rcases found : port.objects[handle]? with _ | stream
        · simp only [callStream, found]
          exact .refl streamID port
        · exact (handedOut_closed streamID stream.streamID port).callStream streamType
            (fun disables => enabled handle (by rw [disables])) found rfl (.refl streamID port)
      exact handed.effect

end Effects

end InPort

end Redhawk.Bulkio
