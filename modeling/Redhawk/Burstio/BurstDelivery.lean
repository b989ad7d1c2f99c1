import Redhawk.Burstio.BurstRuns
import Redhawk.Burstio.BurstTransport

/-!
What each live connection of the burst output port receives over whole runs, and of a direct push.

Every call but a push of a burst is a sequence of elementary moves: a quiet one, or the sending of a
queue.
-/

namespace Redhawk.Burstio

open Library OutPort List

variable {Elem Stamp : Type}

/-- The bursts queued and handed over, the routing and the history are the same. -/
structure Quiet (port next : OutPort Elem Stamp) : Prop where
  bursts : ∀ ref, (next.queueAt ref).bursts = (port.queueAt ref).bursts
  sent : next.sent = port.sent
  routing : next.routing = port.routing
  accepted : next.accepted = port.accepted

inductive Moves (port : OutPort Elem Stamp) : OutPort Elem Stamp → Prop where
  | refl : Moves port port
  | quiet {next last : OutPort Elem Stamp} (moves : Moves port next) (same : Quiet next last) :
      Moves port last
  | send {next : OutPort Elem Stamp} (moves : Moves port next) (ref : QueueRef) :
      Moves port (next.sendQueue ref)

theorem Quiet.refl (port : OutPort Elem Stamp) : Quiet port port := ⟨fun _ => rfl, rfl, rfl, rfl⟩

variable {first second third : OutPort Elem Stamp}

theorem Quiet.trans (one : Quiet first second) (two : Quiet second third) : Quiet first third where
  bursts := fun ref => (two.bursts ref).trans (one.bursts ref)
  sent := two.sent.trans one.sent
  routing := two.routing.trans one.routing
  accepted := two.accepted.trans one.accepted

variable {port next : OutPort Elem Stamp}

theorem Quiet.moves (same : Quiet port next) : Moves port next :=
  .quiet .refl same

theorem Moves.trans (one : Moves first second) (two : Moves second third) : Moves first third := by
  induction two with
  | refl => exact one
  | quiet moves same ih => exact .quiet ih same
  | send moves ref ih => exact .send ih ref

theorem quiet_touch (port : OutPort Elem Stamp) (ref : QueueRef) : Quiet port (port.touch ref) := by
  unfold touch
  split
  · exact ⟨fun _ => rfl, rfl, rfl, rfl⟩
  · exact ⟨fun _ => rfl, rfl, rfl, rfl⟩

theorem quiet_setQueue (port : OutPort Elem Stamp) (ref : QueueRef) {queue : Queue Elem Stamp}
    (bursts : queue.bursts = (port.queueAt ref).bursts) : Quiet port (port.setQueue ref queue) := by
  refine ⟨fun other => ?_, rfl, rfl, rfl⟩
  by_cases same : other = ref
  · subst same
    simp [setQueue, bursts]
  · simp [setQueue, same]

theorem Quiet.schedule (same : Quiet port next)
    (pending : List Task) : Quiet port { next with pending := pending } :=
  ⟨same.bursts, same.sent, same.routing, same.accepted⟩

theorem moves_setting {ref : QueueRef}
    (set : ∃ queue : Queue Elem Stamp, (next = (port.touch ref).setQueue ref queue ∨
      ∃ pending, next = { (port.touch ref).setQueue ref queue with pending := pending }) ∧
      queue.bursts = ((port.touch ref).queueAt ref).bursts) : Moves port next := by
  obtain ⟨queue, set, bursts⟩ := set
  have quiet := quiet_setQueue (port.touch ref) ref bursts
  refine (quiet_touch port ref).moves.quiet ?_
  rcases set with rfl | ⟨pending, rfl⟩
  · exact quiet
  · exact quiet.schedule pending

theorem moves_flushQueue (port : OutPort Elem Stamp) (ref : QueueRef) : Moves port (port.flushQueue ref) :=
  (quiet_touch port ref).moves.send ref

theorem moves_checkFlush (port : OutPort Elem Stamp) (now : Int) (ref : QueueRef) :
    Moves port (port.checkFlush now ref) := by
  unfold checkFlush
  dsimp only
  split
  · exact (quiet_touch port ref).moves.send ref
  · exact (quiet_touch port ref).moves

theorem moves_visit {visit : OutPort Elem Stamp → QueueRef → OutPort Elem Stamp}
    (moves : ∀ port ref, Moves port (visit port ref)) (refs : List QueueRef)
    (port : OutPort Elem Stamp) : Moves port (refs.foldl visit port) := by
  induction refs generalizing port with
  | nil => exact .refl
  | cons ref rest ih => exact (moves port ref).trans (ih _)

section

variable (port : OutPort Elem Stamp)

theorem moves_flush : Moves port port.flush :=
  moves_visit moves_flushQueue port.visited port

theorem moves_runInFlight (now : Int) : Moves port (port.runInFlight now) := by
  have done : Quiet port { port with inFlight := none } := ⟨fun _ => rfl, rfl, rfl, rfl⟩
  unfold runInFlight
  split
  next => exact .refl
  next => exact done.moves.trans (moves_visit (fun port ref => moves_checkFlush port now ref) _ _)
  next ref _ => exact done.moves.trans (moves_flushQueue _ ref)

theorem moves_stop (now : Int) : Moves port (port.stop now) := by
  have halted : Moves port { port.runInFlight now with running := false, pending := [] } :=
    (moves_runInFlight port now).quiet ⟨fun _ => rfl, rfl, rfl, rfl⟩
  exact halted.trans (moves_flush _)

theorem quiet_destroy : Quiet port port.destroy := by
  unfold destroy
  split
  · exact ⟨fun _ => rfl, rfl, rfl, rfl⟩
  · rw [deleteQueues_eq]
    exact ⟨fun _ => rfl, rfl, rfl, rfl⟩

end

theorem PortInv.unborn_bursts (inv : PortInv port) : (port.queueAt (.owned port.created)).bursts = [] := by
  rw [eq_nil_iff_forall_not_mem]
  intro burst member
  have place := inv.placed _ burst member
  exact inv.unborn _ ((queueRef_owned inv.keys).mp place.symm)

theorem PortInv.quiet_getQueueForStream (inv : PortInv port) (throughFloat : Int → Int) (streamID : String) :
    Quiet port (port.getQueueForStream throughFloat streamID).2 := by
  unfold OutPort.getQueueForStream
  cases port.findStream streamID with
  | some ref => exact .refl port
  | none =>
      dsimp only
      split
      · exact ⟨fun _ => rfl, rfl, rfl, rfl⟩
      · have set : Quiet port (port.setQueue (.owned port.created) {
            streamID := streamID
            maxBursts := (port.queueAt .default).maxBursts
            thresholdBytes := (port.queueAt .default).thresholdBytes
            thresholdLatency := throughFloat (port.queueAt .default).thresholdLatency }) :=
          quiet_setQueue port _ inv.unborn_bursts.symm
        exact ⟨set.bursts, rfl, rfl, rfl⟩

def PortEvent.keepsRouting : PortEvent Elem Stamp → Bool
  | .setRoutingMode _ | .setRoutes _ | .setConnections _ => false
  | _ => true

def PortEvent.filed : PortEvent Elem Stamp → List (Burst Elem Stamp)
  | .pushBurst burst isComplex _ _ =>
      [{ burst with SRI := { burst.SRI with mode := if isComplex then 1 else 0 } }]
  | _ => []

theorem PortInv.step_moves (inv : PortInv port) (elementSize : Nat)
    (throughFloat : Int → Int) {event : PortEvent Elem Stamp} (keeps : event.keepsRouting = true)
    (files : event.filed = []) : Moves port (event.step elementSize throughFloat port) := by
  cases event with
  | pushBurst burst isComplex now later => cases files
  | setRoutingMode mode => cases keeps
  | setRoutes routes => cases keeps
  | setConnections connections => cases keeps
  | getStreamPolicy streamID => exact (inv.quiet_getQueueForStream throughFloat streamID).moves
  | setMaxBursts policy count =>
      apply moves_setting
      unfold PortEvent.step OutPort.setMaxBursts
      dsimp only
      split
      · exact ⟨_, .inr ⟨_, rfl⟩, rfl⟩
      · exact ⟨_, .inl rfl, rfl⟩
  | setByteThreshold policy bytes =>
      apply moves_setting
      unfold PortEvent.step OutPort.setByteThreshold
      dsimp only
      split
      · exact ⟨_, .inr ⟨_, rfl⟩, rfl⟩
      · exact ⟨_, .inl rfl, rfl⟩
  | setLatencyThreshold policy usec =>
      apply moves_setting
      unfold PortEvent.step OutPort.setLatencyThreshold
      dsimp only
      split
      · exact ⟨_, .inl rfl, rfl⟩
      · exact ⟨_, .inr ⟨_, rfl⟩, rfl⟩
  | flushPolicy policy => exact moves_flushQueue port policy
  | monitorTakes index =>
      apply Quiet.moves
      unfold PortEvent.step OutPort.takeTask
      dsimp only
      split
      · exact ⟨fun _ => rfl, rfl, rfl, rfl⟩
      · exact ⟨fun _ => rfl, rfl, rfl, rfl⟩
  | monitorRuns now => exact moves_runInFlight port now
  | start => exact Quiet.moves ⟨fun _ => rfl, rfl, rfl, rfl⟩
  | stop now => exact moves_stop port now
  | flush => exact moves_flush port
  | destroy => exact (quiet_destroy port).moves

def Files (filed : Burst Elem Stamp) (port next : OutPort Elem Stamp) : Prop :=
  ∃ (ref : QueueRef) (before : OutPort Elem Stamp) (queue : Queue Elem Stamp),
    Quiet port before ∧ (port.queueAt ref).bursts = (port.queueAt (port.queueRef filed.SRI.streamID)).bursts ∧
      (port.interleaved = true → ref = .default) ∧
      queue.bursts = (before.queueAt ref).bursts ++ [filed] ∧
      Moves { before.setQueue ref queue with accepted := before.accepted ++ [filed] } next

theorem PortInv.getQueueForStream_bursts (inv : PortInv port) (throughFloat : Int → Int) (streamID : String) :
    (port.queueAt (port.getQueueForStream throughFloat streamID).1).bursts =
        (port.queueAt (port.queueRef streamID)).bursts ∧
      (port.interleaved = true → (port.getQueueForStream throughFloat streamID).1 = .default) := by
  unfold OutPort.getQueueForStream OutPort.queueRef
  cases found : port.findStream streamID with
  | some ref =>
      refine ⟨rfl, fun mode => ?_⟩
      exact (inv.kinds _ ((findStream_iff inv.keys).mp found)).mpr mode
  | none =>
      dsimp only [Option.getD_none]
      split
      next => exact ⟨rfl, fun _ => rfl⟩
      next mode =>
        refine ⟨?_, fun interleaved => absurd interleaved mode⟩
        rw [inv.unborn_bursts, inv.idle (by simpa using mode)]

theorem quiet_push (port : OutPort Elem Stamp) (elementSize : Nat) (ref : QueueRef)
    (burst : Burst Elem Stamp) (now later : Int) :
    ∃ before queue, Quiet port before ∧ queue.bursts = (before.queueAt ref).bursts ++ [burst] ∧
      Moves { before.setQueue ref queue with accepted := before.accepted ++ [burst] }
        (port.pushQueue elementSize ref burst now later) := by
  have touched := quiet_touch port ref
  have sends : ∀ stored : OutPort Elem Stamp,
      Moves stored (if (stored.queueAt ref).shouldFlush later then stored.sendQueue ref else stored) := by
    intro stored
    split
    · exact .send .refl ref
    · exact .refl
  unfold pushQueue
  dsimp only
  split
  · exact ⟨_, _, touched.schedule _, rfl, sends _⟩
  · exact ⟨_, _, touched, rfl, sends _⟩

theorem moves_endStream (port : OutPort Elem Stamp) (ref : QueueRef) (streamID : String) :
    Moves port (eraseStream streamID
      (if port.interleaved then port
      else (port.flushQueue ref).deleteQueue
        (((port.flushQueue ref).findStream streamID).getD ref))) := by
  split
  · exact Quiet.moves ⟨fun _ => rfl, rfl, rfl, rfl⟩
  · exact (moves_flushQueue port ref).quiet ⟨fun _ => rfl, rfl, rfl, rfl⟩

theorem PortInv.queueBurst_files (inv : PortInv port)
    (elementSize : Nat) (throughFloat : Int → Int) (burst : Burst Elem Stamp) (isComplex : Bool)
    (now later : Int) :
    Files { burst with SRI := { burst.SRI with mode := if isComplex then 1 else 0 } } port
      (port.queueBurst elementSize throughFloat burst isComplex now later) := by
  obtain ⟨same, single⟩ := inv.getQueueForStream_bursts throughFloat burst.SRI.streamID
  have found := inv.quiet_getQueueForStream throughFloat burst.SRI.streamID
  obtain ⟨before, queue, quiet, bursts, moves⟩ :=
    quiet_push (port.getQueueForStream throughFloat burst.SRI.streamID).2 elementSize
      (port.getQueueForStream throughFloat burst.SRI.streamID).1
      { burst with SRI := { burst.SRI with mode := if isComplex then 1 else 0 } } now later
  refine ⟨_, before, queue, found.trans quiet, same, single, bursts, moves.trans ?_⟩
  unfold OutPort.queueBurst
  dsimp only
  by_cases ends : burst.EOS = true
  · rw [if_pos ends]
    exact moves_endStream _ _ _
  · rw [if_neg ends]
    exact .refl

section Delivery

variable (transports : String → Transport Elem Stamp) (routing : Routing)

def Lossless (bursts : List (Burst Elem Stamp)) : Prop :=
  ∀ connectionID, (∀ burst ∈ bursts, connectionID ∈ routing.receivers burst.SRI.streamID) →
    (transports connectionID).Tidy bursts

structure Sound (port : OutPort Elem Stamp) : Prop where
  fixed : port.routing = routing
  batches : ∀ batch ∈ port.sent, batch.routing = routing ∧ Lossless transports routing batch.bursts
  queues : ∀ ref, Lossless transports routing (port.queueAt ref).bursts
  single : routing.mode = .allInterleaved → ∀ index, (port.queueAt (.owned index)).bursts = []
  merged : routing.mode = .allInterleaved → port.accepted = port.handed ++ (port.queueAt .default).bursts

end Delivery

variable {transports : String → Transport Elem Stamp} {routing : Routing}

theorem lossless_nil : Lossless transports routing [] := fun _ _ => List.Pairwise.nil

theorem Lossless.append {bursts : List (Burst Elem Stamp)}
    (lossless : Lossless transports routing bursts) {burst : Burst Elem Stamp}
    (carried : ∀ connectionID ∈ routing.receivers burst.SRI.streamID,
      (transports connectionID).carries burst = true →
        ∀ earlier ∈ bursts, (transports connectionID).carries earlier = true) :
    Lossless transports routing (bursts ++ [burst]) := by
  intro connectionID shared
  apply pairwise_append.mpr
  refine ⟨lossless connectionID ?_, pairwise_singleton _ _, ?_⟩
  · exact fun earlier member => shared earlier (mem_append_left _ member)
  · intro earlier member last same
    obtain rfl := mem_singleton.mp same
    have received := shared last (mem_append_right _ same)
    exact fun carries => carried connectionID received carries earlier member

section

variable (sound : Sound transports routing port)
include sound

theorem Sound.quiet (same : Quiet port next) : Sound transports routing next where
  fixed := same.routing.trans sound.fixed
  batches := by
    rw [same.sent]
    exact sound.batches
  queues := by
    intro ref
    rw [same.bursts]
    exact sound.queues ref
  single := by
    intro mode index
    rw [same.bursts]
    exact sound.single mode index
  merged := by
    intro mode
    rw [same.accepted, handed, same.sent, same.bursts]
    exact sound.merged mode

theorem Sound.sendQueue (ref : QueueRef) : Sound transports routing (port.sendQueue ref) := by
  have shell := sendQueue_shell port ref
  constructor
  · exact shell.routing.trans sound.fixed
  · intro batch member
    by_cases empty : (port.queueAt ref).bursts = []
    · rw [sendQueue_of_empty empty] at member
      exact sound.batches batch member
    · rw [sendQueue_of_some empty] at member
      rcases mem_append.mp member with old | new
      · exact sound.batches batch old
      · obtain rfl := mem_singleton.mp new
        exact ⟨sound.fixed, sound.queues ref⟩
  · intro other
    rw [sendQueue_bursts]
    split
    · exact lossless_nil
    · exact sound.queues other
  · intro mode index
    rw [sendQueue_bursts, sound.single mode index, ite_self]
  · intro mode
    rw [shell.accepted, sendQueue_handed, sendQueue_bursts, sound.merged mode]
    cases ref with
    | default => simp
    | owned index => simp [sound.single mode index]

theorem Sound.moves (moves : Moves port next) : Sound transports routing next := by
  induction moves with
  | refl => exact sound
  | quiet _ same ih => exact ih.quiet same
  | send _ ref ih => exact ih.sendQueue ref

theorem Sound.store {ref : QueueRef} {burst : Burst Elem Stamp} {queue : Queue Elem Stamp}
    (bursts : queue.bursts = (port.queueAt ref).bursts ++ [burst])
    (single : routing.mode = .allInterleaved → ref = .default)
    (carried : ∀ connectionID ∈ routing.receivers burst.SRI.streamID,
      (transports connectionID).carries burst = true →
        ∀ earlier ∈ (port.queueAt ref).bursts, (transports connectionID).carries earlier = true) :
    Sound transports routing
      { port.setQueue ref queue with accepted := port.accepted ++ [burst] } := by
  have stored : ∀ other, ((port.setQueue ref queue).queueAt other).bursts =
      if other = ref then (port.queueAt ref).bursts ++ [burst]
      else (port.queueAt other).bursts := by
    intro other
    by_cases same : other = ref
    · subst same
      simp [setQueue, bursts]
    · simp [setQueue, same]
  constructor
  · exact sound.fixed
  · exact sound.batches
  · intro other
    rw [stored]
    split
    · exact (sound.queues ref).append carried
    · exact sound.queues other
  · intro mode index
    refine (stored (.owned index)).trans ?_
    rw [single mode, if_neg (by simp)]
    exact sound.single mode index
  · intro mode
    have default := stored .default
    rw [single mode, if_pos rfl] at default
    change port.accepted ++ [burst] = port.handed ++ ((port.setQueue ref queue).queueAt .default).bursts
    rw [single mode, default, sound.merged mode, append_assoc]

/-- No connection carries the burst while it does not carry one in front of it in its queue. -/
def PortEvent.Unblocked (transports : String → Transport Elem Stamp) (event : PortEvent Elem Stamp)
    (port : OutPort Elem Stamp) : Prop :=
  ∀ burst ∈ event.filed, ∀ connectionID ∈ port.routing.receivers burst.SRI.streamID,
    (transports connectionID).carries burst = true →
      ∀ earlier ∈ (port.queueAt (port.queueRef burst.SRI.streamID)).bursts,
        (transports connectionID).carries earlier = true

theorem Sound.files {filed : Burst Elem Stamp} (files : Files filed port next)
    (carried : ∀ connectionID ∈ port.routing.receivers filed.SRI.streamID,
      (transports connectionID).carries filed = true →
        ∀ earlier ∈ (port.queueAt (port.queueRef filed.SRI.streamID)).bursts,
          (transports connectionID).carries earlier = true) : Sound transports routing next := by
  obtain ⟨ref, before, queue, quiet, same, single, bursts, moves⟩ := files
  refine ((sound.quiet quiet).store bursts ?_ ?_).moves moves
  · intro mode
    apply single
    rw [interleaved, sound.fixed, mode]
    rfl
  · rw [quiet.bursts, same, ← sound.fixed]
    exact carried

end

theorem Moves.accepted (moves : Moves port next) : next.accepted = port.accepted := by
  induction moves with
  | refl => rfl
  | quiet _ same ih => exact same.accepted.trans ih
  | send _ ref ih => exact (sendQueue_shell _ ref).accepted.trans ih

structure DeliveryBooks (transports : String → Transport Elem Stamp) (routing : Routing)
    (port : OutPort Elem Stamp) : Prop where
  inv : PortInv port
  sound : Sound transports routing port

theorem DeliveryBooks.step {transports : String → Transport Elem Stamp} {routing : Routing}
    {port : OutPort Elem Stamp} (books : DeliveryBooks transports routing port) (elementSize : Nat)
    (throughFloat : Int → Int) {event : PortEvent Elem Stamp} (keeps : event.keepsRouting = true)
    (clear : event.Clear port) (unblocked : event.Unblocked transports port) :
    DeliveryBooks transports routing (event.step elementSize throughFloat port) ∧
      (event.step elementSize throughFloat port).accepted = port.accepted ++ event.filed := by
  have inv := books.inv.step elementSize throughFloat event port clear
  cases files : event.filed with
  | nil =>
      have moves := books.inv.step_moves elementSize throughFloat keeps files
      rw [append_nil]
      exact ⟨⟨inv, books.sound.moves moves⟩, moves.accepted⟩
  | cons filed rest =>
      cases event with
      | pushBurst burst isComplex now later =>
          obtain ⟨rfl, rfl⟩ := cons.inj files
          have pushed := books.inv.queueBurst_files elementSize throughFloat burst isComplex now later
          refine ⟨⟨inv, books.sound.files pushed (unblocked _ mem_cons_self)⟩, ?_⟩
          obtain ⟨ref, before, queue, quiet, -, -, -, moves⟩ := pushed
          have stored := moves.accepted
          rw [quiet.accepted] at stored
          exact stored
      | _ => cases files

variable {transports : String → Transport Elem Stamp} {routing : Routing}

theorem DeliveryBooks.run (elementSize : Nat) (throughFloat : Int → Int) {events : List (PortEvent Elem Stamp)}
    (keeps : ∀ event ∈ events, event.keepsRouting = true)
    (books : DeliveryBooks transports routing port)
    (along : Along (PortEvent.step elementSize throughFloat)
      (fun event port => event.Clear port ∧ event.Unblocked transports port) port events) :
    DeliveryBooks transports routing (run (PortEvent.step elementSize throughFloat) port events) ∧
      (run (PortEvent.step elementSize throughFloat) port events).accepted =
        port.accepted ++ events.flatMap PortEvent.filed := by
  induction events generalizing port with
  | nil => exact ⟨books, (append_nil _).symm⟩
  | cons event rest ih =>
      obtain ⟨⟨clear, unblocked⟩, others⟩ := along
      obtain ⟨stepped, accepted⟩ := books.step elementSize throughFloat
        (keeps event mem_cons_self) clear unblocked
      obtain ⟨last, all⟩ := ih (fun event member => keeps event (mem_cons_of_mem _ member))
        stepped others
      refine ⟨last, all.trans ?_⟩
      rw [accepted, flatMap_cons, append_assoc]

theorem DeliveryBooks.new (transports : String → Transport Elem Stamp) (routing : Routing)
    (thresholdBytes : Nat) :
    DeliveryBooks transports routing { new thresholdBytes with routing := routing } where
  inv := (PortInv.new thresholdBytes).setRouting (.inr ⟨rfl, rfl⟩)
  sound := {
    fixed := rfl
    batches := fun batch member => by cases member
    queues := fun _ => lossless_nil
    single := fun _ _ => rfl
    merged := fun _ => rfl }

theorem ofStream_flatMap {α : Type} (streamID : String) (items : List α) (bursts : α → List (Burst Elem Stamp)) :
    ofStream streamID (items.flatMap bursts) = items.flatMap fun item => ofStream streamID (bursts item) :=
  filter_flatMap ..

theorem DeliveryBooks.ofStream_received (books : DeliveryBooks transports routing port)
    (connectionID streamID : String) :
    ofStream streamID (port.received (transports connectionID) connectionID) =
      if connectionID ∈ routing.receivers streamID then
        (ofStream streamID port.handed).filter (transports connectionID).carries
      else [] := by
  have batches : ∀ batch ∈ port.sent,
      ofStream streamID (if connectionID ∈ batch.receivers then
          (transports connectionID).pushBursts batch.bursts else []) =
        if connectionID ∈ routing.receivers streamID then
          (ofStream streamID batch.bursts).filter (transports connectionID).carries
        else [] := by
    intro batch member
    obtain ⟨fixed, lossless⟩ := books.sound.batches batch member
    have goes := books.inv.delivered batch member
    rw [fixed] at goes
    have sent : connectionID ∈ batch.receivers →
        (transports connectionID).pushBursts batch.bursts =
          batch.bursts.filter (transports connectionID).carries := by
      intro receives
      apply Transport.pushBursts_of_tidy
      exact lossless connectionID fun burst inside => goes burst inside ▸ receives
    have swap : ofStream streamID (batch.bursts.filter (transports connectionID).carries) =
        (ofStream streamID batch.bursts).filter (transports connectionID).carries := by
      rw [ofStream, ofStream, filter_comm]
    cases content : ofStream streamID batch.bursts with
    | nil =>
        rw [content, filter_nil] at swap
        rw [filter_nil, ite_self]
        split
        next receives => rw [sent receives, swap]
        next => rfl
    | cons burst rest =>
        have inside : burst ∈ ofStream streamID batch.bursts := content ▸ mem_cons_self
        obtain ⟨inside, named⟩ := mem_filter.mp inside
        rw [goes burst inside, beq_iff_eq.mp named, ← content, ← swap]
        split
        next receives => rw [sent (by rw [goes burst inside, beq_iff_eq.mp named]; exact receives)]
        next => rfl
  rw [received, ofStream_flatMap, flatMap_congr batches]
  split
  · rw [handed, ofStream_flatMap, filter_flatMap]
  · simp

/-- In each live connection: the bursts of a stream are received in order and once, or lie in its
queue behind those, and nothing of a stream is received that is not routed to it. With one queue for
all streams this is so across the streams. -/
structure Delivered (transports : String → Transport Elem Stamp) (port : OutPort Elem Stamp) :
    Prop where
  routed : ∀ connectionID, (connectionID, true) ∈ port.routing.connections → ∀ streamID,
    port.routing.isStreamRoutedToConnection streamID connectionID = true →
      (ofStream streamID port.accepted).filter (transports connectionID).carries =
        ofStream streamID (port.received (transports connectionID) connectionID) ++
          (ofStream streamID (port.queueAt (port.queueRef streamID)).bursts).filter
            (transports connectionID).carries
  apart : ∀ connectionID, (connectionID, true) ∈ port.routing.connections → ∀ streamID,
    port.routing.isStreamRoutedToConnection streamID connectionID = false →
      ofStream streamID (port.received (transports connectionID) connectionID) = []
  merged : ∀ connectionID, (connectionID, true) ∈ port.routing.connections →
    port.routing.mode = .allInterleaved →
      port.accepted.filter (transports connectionID).carries =
        port.received (transports connectionID) connectionID ++
          (port.queueAt .default).bursts.filter (transports connectionID).carries

theorem DeliveryBooks.delivered (books : DeliveryBooks transports routing port) :
    Delivered transports port := by
  have fixed := books.sound.fixed
  constructor
  · intro connectionID live streamID routed
    have receives := (mem_receivers live streamID).mpr routed
    rw [fixed] at receives
    rw [books.ofStream_received, if_pos receives, books.inv.ordered streamID, filter_append]
  · intro connectionID live streamID apart
    rw [books.ofStream_received, if_neg]
    rw [← fixed, mem_receivers live streamID, apart]
    exact Bool.false_ne_true
  · intro connectionID live mode
    rw [fixed] at mode live
    rw [books.sound.merged mode, filter_append, handed, filter_flatMap, received]
    congr 1
    apply flatMap_congr
    intro batch member
    obtain ⟨same, lossless⟩ := books.sound.batches batch member
    have everywhere : ∀ streamID, connectionID ∈ routing.receivers streamID := by
      intro streamID
      apply (mem_receivers live streamID).mpr
      simp [Routing.isStreamRoutedToConnection, mode]
    have sent := Transport.pushBursts_of_tidy (lossless connectionID fun burst _ => everywhere _)
    rw [sent]
    split
    next => rfl
    next elsewhere =>
      rw [filter_eq_nil_iff]
      intro burst inside
      have goes := books.inv.delivered batch member burst inside
      rw [same] at goes
      exact absurd (goes ▸ everywhere _) elsewhere

/-- A direct push reaches a live connection exactly if `DirectClear` holds. In a run with one routing
in which the port is used as its books allow and no burst is put behind one that some connection
cannot carry while it carries the burst, every live connection receives what is routed to it. -/
theorem bursts_delivered (transports : String → Transport Elem Stamp) (routing : Routing)
    (thresholdBytes elementSize : Nat) (throughFloat : Int → Int) :
    (∀ (port : OutPort Elem Stamp) (bursts : List (Burst Elem Stamp)) (connectionID : String),
      (connectionID, true) ∈ port.routing.connections →
        ((port.pushBursts bursts).received (transports connectionID) connectionID =
            port.received (transports connectionID) connectionID ++
              bursts.filter (port.routing.owes (transports connectionID) connectionID) ↔
          port.routing.DirectClear (transports connectionID) connectionID bursts)) ∧
      ∀ events : List (PortEvent Elem Stamp), (∀ event ∈ events, event.keepsRouting = true) →
        Along (PortEvent.step elementSize throughFloat)
          (fun event port => event.Clear port ∧ event.Unblocked transports port)
          { new thresholdBytes with routing := routing } events →
        ∀ port, port = run (PortEvent.step elementSize throughFloat)
            { new thresholdBytes with routing := routing } events →
          Delivered transports port ∧ port.accepted = events.flatMap PortEvent.filed ∧
            ∀ earlier event, events = earlier ++ [event] → event.flushes = true → ∀ ref,
              (port.queueAt ref).bursts = [] := by
  refine ⟨fun port bursts connectionID live => pushBursts_exact_iff port _ live bursts, ?_⟩
  rintro events keeps along port rfl
  have start := DeliveryBooks.new transports routing thresholdBytes
  obtain ⟨books, accepted⟩ := start.run elementSize throughFloat keeps along
  refine ⟨books.delivered, accepted, ?_⟩
  rintro earlier event rfl flushes ref
  obtain ⟨before, -⟩ := start.run elementSize throughFloat
    (fun event member => keeps event (mem_append_left _ member)) (along_append.mp along).1
  rw [run_append]
  exact before.inv.flushes_empty elementSize throughFloat flushes ref

def smallPeer : CorbaPeer Nat Nat where
  fits := fun bursts => (bursts.flatMap Burst.data).length ≤ 2
  parts := by
    intro front part back
    simp only [decide_eq_true_eq, flatMap_append, length_append]
    omega

theorem bursts_delivered_streams :
    Delivered (fun _ => .corba smallPeer) (run (PortEvent.step 4 id)
        { new 1000 with routing := ⟨.connectionStreams, [("s", "c")], [("c", true)]⟩ }
        [.pushBurst ⟨⟨"s", 0⟩, 7, [1, 2], false⟩ false 0 0,
          .pushBurst ⟨⟨"s", 0⟩, 8, [3], true⟩ false 5 5] : OutPort Nat Nat) := by
  refine ((bursts_delivered (fun _ => .corba smallPeer)
    ⟨.connectionStreams, [("s", "c")], [("c", true)]⟩ 1000 4 id).2
    [.pushBurst ⟨⟨"s", 0⟩, 7, [1, 2], false⟩ false 0 0, .pushBurst ⟨⟨"s", 0⟩, 8, [3], true⟩ false 5 5] (by decide)
    ⟨⟨⟨rfl, ?_⟩, ?_⟩, ⟨⟨rfl, ?_⟩, ?_⟩, trivial⟩ _ rfl).1
  · rintro ends
    cases ends
  · intro burst filed connectionID receives carries earlier member
    cases member
  · rintro - - entry member -
    obtain rfl : entry = ("s", .owned 0) := mem_singleton.mp member
    rintro (waiting | running)
    · revert waiting
      decide
    · cases running
  · intro burst filed
    obtain rfl := mem_singleton.mp filed
    decide

/-- A direct push names no stream, and a burst that is too long takes those behind it with it. -/
theorem direct_push_lost :
    ¬∀ (transport : Transport Nat Nat) (port : OutPort Nat Nat) (bursts : List (Burst Nat Nat)),
      ("c", true) ∈ port.routing.connections →
        (port.pushBursts bursts).received transport "c" =
          port.received transport "c" ++ bursts.filter (port.routing.owes transport "c") := by
  intro always
  have lost := always (.corba smallPeer)
    { new 1000 with routing := ⟨.allStreams, [], [("c", true)]⟩ }
    [⟨⟨"s", 0⟩, 7, [1, 2, 3], false⟩, ⟨⟨"s", 0⟩, 8, [4], false⟩] (by decide)
  rw [pushBursts_exact_iff _ _ (by decide)] at lost
  revert lost
  unfold Routing.DirectClear
  decide

end Redhawk.Burstio
