import Redhawk.Bulkio.StreamDrain
import Redhawk.Bulkio.StreamMatching

/-!
What `disable` leaves of a buffered stream: which packets were freed, and how the stream reads once it is
enabled again.
-/

namespace Redhawk.Bulkio

open Library BufferedInputStream List

variable {α : Type}

namespace BufferedInputStream

def hasBufferedData (stream : BufferedInputStream α) : Bool :=
  !stream.queue.isEmpty || stream.pending.isSome || stream.eosState == .reached

/-- The packets that `~Impl` frees: those of the queue, and the one its pending pointer refers to. -/
def destroy (stream : BufferedInputStream α) : List (Packet α) := stream.queue ++ stream.pending.toList

def FreedOnce (stream : BufferedInputStream α) : Prop :=
  ((stream.deleted ++ stream.destroy).map Packet.serial).Perm (stream.fetched.map Packet.serial)

section Freed

theorem serial_content (packets : List (Packet α)) :
    (packets.map Packet.content).map Packet.serial = packets.map Packet.serial := by
  simp [Function.comp_def, Packet.content]

theorem FreedOnce.handed {stream : BufferedInputStream α} (freed : stream.FreedOnce)
    (free : stream.pending = none) (packet : Packet α) : (handed packet stream).2.FreedOnce := by
  have identity := handed_identity packet stream
  simp only [BufferedInputStream.identity, Prod.mk.injEq] at identity
  have whole : ((stream.deleted ++ stream.queue).map Packet.serial ++ [packet.serial]).Perm
      ((stream.fetched ++ [packet]).map Packet.serial) := by
    rw [@map_append _ _ _ _ [packet]]
    refine Perm.append_right _ ?_
    simpa [FreedOnce, destroy, free] using freed
  rw [FreedOnce, identity.2.2.2]
  refine Perm.trans ?_ whole
  rcases handed_cases free packet with
    ⟨_, _, pending, queue, _, deleted⟩ | ⟨_, pending, queue, deleted⟩ | ⟨pending, queue, deleted⟩
  · have serials := congrArg (map Packet.serial) queue
    rw [serial_content, serial_content] at serials
    simp only [destroy, pending, deleted, Option.toList_none, append_nil, map_append, serials,
      map_cons, map_nil, append_assoc]
    exact Perm.append_left _ perm_append_comm
  · simp [destroy, pending, queue, deleted]
  · simp [destroy, pending, queue, deleted]

theorem FreedOnce.consumePacket {stream : BufferedInputStream α} (freed : stream.FreedOnce) :
    (consumePacket stream).FreedOnce := by
  have identity := consumePacket_identity stream
  simp only [BufferedInputStream.identity, Prod.mk.injEq] at identity
  rw [FreedOnce, identity.2.2.2]
  refine Perm.trans ?_ freed
  rcases stream with ⟨base, packets, pending, samplesQueued, sampleOffset, deleted⟩
  rcases packets with _ | ⟨front, rest⟩
  · simp [BufferedInputStream.consumePacket]
  · rcases pending with _ | pending
    · cases ends : front.eos <;> simp [BufferedInputStream.consumePacket, ends, destroy]
    · rcases rest with _ | ⟨second, rest⟩
      · cases final : pending.eos && pending.buffer.isEmpty <;> cases ends : front.eos <;>
          simp [BufferedInputStream.consumePacket, queuePacket, ends, destroy, final]
      · cases ends : front.eos <;> simp [BufferedInputStream.consumePacket, ends, destroy]

theorem freedOnce_lasting : Lasting (fun stream => stream.pending = none) (FreedOnce (α := α)) where
  opened _ _ _ := by simp [FreedOnce, destroy]
  reported _ freed := freed
  handed packet _ freed _ _ free := freed.handed free packet
  taken count front rest stream freed queue := by
    rw [takeBlock_stream]
    simpa [FreedOnce, destroy, queue] using freed
  consumed _ _ freed := consumeLoop_keeps FreedOnce (fun _ _ _ freed => freed)
    (fun _ freed => freed.consumePacket) _ _ _ freed
  enabled _ freed := freed
  disabled stream freed free := by
    simpa [FreedOnce, destroy, disabled, free] using freed

end Freed

section Alike

structure Similar (first second : BufferedInputStream α) : Prop where
  streamID : first.streamID = second.streamID
  eosState : first.eosState = second.eosState
  enabled : first.enabled = second.enabled
  queue : first.queue = second.queue
  pending : first.pending = second.pending
  samplesQueued : first.samplesQueued = second.samplesQueued
  sampleOffset : first.sampleOffset = second.sampleOffset

variable {first second : BufferedInputStream α}

section

variable (similar : first.Similar second)
include similar

theorem Similar.update :
    ∃ sri newstream born fetched deleted, second = { first with
      sri := sri, newstream := newstream, born := born, fetched := fetched, deleted := deleted } := by
  rcases first with ⟨⟨_, _, _, _, _, _, _⟩, _, _, _, _, _⟩
  rcases second with ⟨⟨_, sri, _, _, newstream, born, fetched⟩, _, _, _, _, deleted⟩
  obtain ⟨rfl, rfl, rfl, rfl, rfl, rfl, rfl⟩ := similar
  exact ⟨sri, newstream, born, fetched, deleted, rfl⟩

theorem Similar.queuePacket
    (packet : Packet α) : (queuePacket packet first).1 = (queuePacket packet second).1 ∧
      (queuePacket packet first).2.Similar
        (queuePacket packet second).2 := by
  obtain ⟨sri, newstream, born, fetched, deleted, rfl⟩ := similar.update
  simp only [queuePacket]
  split
  · split
    · exact ⟨rfl, rfl, rfl, rfl, rfl, rfl, rfl, rfl⟩
    · exact ⟨rfl, rfl, rfl, rfl, rfl, rfl, rfl, rfl⟩
  · exact ⟨rfl, rfl, rfl, rfl, rfl, rfl, rfl, rfl⟩

theorem Similar.release : Similar { first with pending := none } { second with pending := none } :=
  ⟨similar.streamID, similar.eosState, similar.enabled, similar.queue, rfl, similar.samplesQueued,
    similar.sampleOffset⟩

theorem Similar.rewind : Similar { first with sampleOffset := 0 } { second with sampleOffset := 0 } :=
  ⟨similar.streamID, similar.eosState, similar.enabled, similar.queue, similar.pending,
    similar.samplesQueued, rfl⟩

theorem Similar.consumePacket : (consumePacket first).Similar (consumePacket second) := by
  obtain ⟨sri, newstream, born, fetched, deleted, rfl⟩ := similar.update
  rcases first with ⟨base, packets, pending, samplesQueued, sampleOffset, freed⟩
  rcases packets with _ | ⟨front, rest⟩
  · exact ⟨rfl, rfl, rfl, rfl, rfl, rfl, rfl⟩
  · rcases pending with _ | pending
    · cases ends : front.eos <;>
        simp only [consumePacket, ends] <;>
        exact ⟨rfl, rfl, rfl, rfl, rfl, rfl, rfl⟩
    · cases ends : front.eos <;> cases last : rest.isEmpty <;>
        simp only [consumePacket, ends, last]
      · exact ⟨rfl, rfl, rfl, rfl, rfl, rfl, rfl⟩
      · refine Similar.release (Similar.queuePacket ?_ pending).2
        exact ⟨rfl, rfl, rfl, rfl, rfl, rfl, rfl⟩
      · exact ⟨rfl, rfl, rfl, rfl, rfl, rfl, rfl⟩
      · refine Similar.release (Similar.queuePacket ?_ pending).2
        exact ⟨rfl, rfl, rfl, rfl, rfl, rfl, rfl⟩

theorem Similar.consumeLoop
    (fuel count : Nat) : (consumeLoop fuel count first).Similar (consumeLoop fuel count second) := by
  induction fuel generalizing count first second with
  | zero => exact similar
  | succ fuel ih =>
      obtain ⟨sri, newstream, born, fetched, deleted, rfl⟩ := similar.update
      simp only [consumeLoop]
      split
      · exact similar
      · split
        · exact similar
        · split
          · refine ih (Similar.rewind (Similar.consumePacket ?_)) _
            exact ⟨rfl, rfl, rfl, rfl, rfl, rfl, rfl⟩
          · refine ih ?_ _
            exact ⟨rfl, rfl, rfl, rfl, rfl, rfl, rfl⟩

theorem Similar.handed
    (packet : Packet α) : (handed packet first).1 = (handed packet second).1 ∧
      (BufferedInputStream.handed packet first).2.Similar
        (BufferedInputStream.handed packet second).2 := by
  have taken : (first.taken packet).Similar (second.taken packet) :=
    ⟨similar.streamID, rfl, similar.enabled, similar.queue, similar.pending, similar.samplesQueued,
      similar.sampleOffset⟩
  simp only [BufferedInputStream.handed, similar.queue]
  split
  · exact taken.queuePacket packet
  · exact ⟨rfl, similar.streamID, rfl, similar.enabled, similar.queue, rfl, similar.samplesQueued,
      similar.sampleOffset⟩

end

def Alike (first second : Reader α) : Prop :=
  first.stream.Similar second.stream ∧ first.port = second.port

theorem alike_matching : Matching (Alike (α := α)) where
  buffers alike := ⟨alike.1.queue, alike.1.pending, alike.1.samplesQueued, alike.1.sampleOffset, alike.1.eosState⟩
  fetch blocking {first second} alike := by
    obtain ⟨similar, port⟩ := alike
    have shut : closed first = closed second := by
      simp only [closed, similar.pending, similar.enabled, similar.eosState, port]
    have same : offered first = offered second := by
      simp only [offered, shut, similar.streamID, port]
    rcases fetchPacket_cases blocking first with ⟨nothing, idles⟩ | ⟨packet, offers, fetched⟩ <;>
      rcases fetchPacket_cases blocking second with ⟨nothing', idles'⟩ | ⟨packet', offers', fetched'⟩
    · rw [idles, idles']
      exact ⟨by simp only [idle, shut], similar, port⟩
    · rw [same, offers'] at nothing
      cases nothing
    · rw [same, nothing'] at offers
      cases offers
    · rw [same, offers'] at offers
      cases offers
      obtain ⟨queued, later⟩ := similar.handed packet
      rw [fetched, fetched', queued, port, similar.streamID]
      exact ⟨rfl, later, rfl⟩
  take count front rest first second alike queue := by
    obtain ⟨similar, port⟩ := alike
    refine ⟨?_, port⟩
    rw [takeBlock_stream, takeBlock_stream]
    exact ⟨similar.streamID, similar.eosState, similar.enabled, rfl, similar.pending,
      similar.samplesQueued, similar.sampleOffset⟩
  consume count first second alike := by
    obtain ⟨similar, port⟩ := alike
    refine ⟨?_, port⟩
    simp only [consumeData, similar.queue]
    exact similar.consumeLoop _ _
  report {first second} alike := by
    obtain ⟨similar, port⟩ := alike
    simp only [InputStream.reportIfEosReached, similar.eosState]
    split
    · exact ⟨⟨similar.streamID, rfl, similar.enabled, similar.queue, similar.pending,
        similar.samplesQueued, similar.sampleOffset⟩, by simp only [port, similar.streamID]⟩
    · exact ⟨similar, port⟩

theorem Alike.call {first second : Reader α} (alike : Alike first second) (call : StreamCall) :
    (returned first call).map DataBlock.told = (returned second call).map DataBlock.told ∧
      Alike (BufferedInputStream.call first call) (BufferedInputStream.call second call) := by
  have values : ∀ {mine yours : Outcome (Option (DataBlock α))}, mine.told = yours.told →
      mine.value.map DataBlock.told = yours.value.map DataBlock.told := by
    intro mine yours told
    cases mine with
    | returns block =>
        cases yours with
        | returns other => exact Outcome.returns.inj told
        | waits => simp [Outcome.told] at told
    | waits =>
        cases yours with
        | returns other => simp [Outcome.told] at told
        | waits => rfl
  have reads := fun count consume blocking =>
    (alike_matching.read count consume blocking alike).imp values id
  have packets := fun blocking => (alike_matching.readPacket blocking alike).imp values id
  cases call with
  | read => exact packets true
  | tryread => exact packets false
  | readSamples count => exact reads count count true
  | tryreadSamples count => exact reads count count false
  | readConsume count consume => exact reads count consume true
  | tryreadConsume count consume => exact reads count consume false
  | skip count => exact ⟨rfl, (alike_matching.skip count alike).2⟩
  | eos =>
      refine ⟨rfl, alike_matching.report ?_⟩
      rw [alike.1.queue]
      split
      · exact (alike_matching.fetch false alike).2
      · exact alike
  | enable =>
      obtain ⟨similar, port⟩ := alike
      exact ⟨rfl, ⟨similar.streamID, similar.eosState, rfl, similar.queue, similar.pending,
        similar.samplesQueued, similar.sampleOffset⟩, port⟩
  | disable =>
      obtain ⟨similar, port⟩ := alike
      refine ⟨rfl, ?_, ?_⟩
      · simp only [BufferedInputStream.call, disable_stream]
        exact ⟨similar.streamID, similar.eosState, rfl, rfl, similar.pending, rfl, rfl⟩
      · simp only [BufferedInputStream.call, disable, InputStream.disable, similar.eosState,
          similar.streamID, port]
        split <;> rfl

end Alike

section Shut

structure Shut (reader : Reader α) : Prop where
  closed : closed reader = true
  queue : reader.stream.queue = []
  samplesQueued : reader.stream.samplesQueued = 0

theorem Shut.call {reader : Reader α} (shut : Shut reader) (call : StreamCall) :
    returned reader call = none ∧ (BufferedInputStream.call reader call = reader ∨
      BufferedInputStream.call reader call = InputStream.reportIfEosReached reader ∨
      (call = .enable ∨ call = .disable)) := by
  have fetched := fetchPacket_closed shut.closed
  have packets : ∀ blocking, readPacket blocking reader =
      (.returns none, InputStream.reportIfEosReached reader) := by
    intro blocking
    simp [readPacket, shut.samplesQueued, fetched]
  have unknown : ∀ blocking, nextSRI blocking reader = (.returns none, reader) := by
    intro blocking
    simp only [nextSRI, shut.queue, fetched]
  have reads : ∀ count consume blocking, read count consume blocking reader =
      (.returns none, InputStream.reportIfEosReached reader) := by
    intro count consume blocking
    simp only [read, unknown]
  cases call with
  | skip count =>
      refine ⟨rfl, .inl ?_⟩
      simp only [BufferedInputStream.call, skip, unknown]
  | eos =>
      refine ⟨rfl, .inr (.inl ?_)⟩
      simp only [BufferedInputStream.call, eos, InputStream.eos, shut.queue, fetched]
      rfl
  | enable => exact ⟨rfl, .inr (.inr (.inl rfl))⟩
  | disable => exact ⟨rfl, .inr (.inr (.inr rfl))⟩
  | _ =>
      simp only [returned, BufferedInputStream.call, packets, reads]
      exact ⟨rfl, .inr (.inl trivial)⟩

end Shut

end BufferedInputStream

namespace Reader

/-- What happens to a stream: its port changes in whatever way, the port closes it, or it is called. -/
inductive Happening (α : Type) where
  | changes (port : InPort α)
  | closes
  | call (call : StreamCall)

def answers : Reader α → List (Happening α) → List (Option (DataBlock α))
  | _, [] => []
  | reader, .changes port :: rest => answers ⟨reader.stream, port⟩ rest
  | reader, .closes :: rest =>
      answers { reader with stream := { reader.stream with eosState := .reported } } rest
  | reader, .call call :: rest =>
      (BufferedInputStream.returned reader call).map DataBlock.told ::
        answers (BufferedInputStream.call reader call) rest

theorem answers_alike {first second : Reader α} (alike : BufferedInputStream.Alike first second)
    (happenings : List (Happening α)) : first.answers happenings = second.answers happenings := by
  induction happenings generalizing first second with
  | nil => rfl
  | cons happening rest ih =>
      cases happening with
      | changes port => exact ih ⟨alike.1, rfl⟩
      | closes =>
          obtain ⟨similar, port⟩ := alike
          exact ih ⟨⟨similar.streamID, rfl, similar.enabled, similar.queue, similar.pending,
            similar.samplesQueued, similar.sampleOffset⟩, port⟩
      | call call =>
          obtain ⟨same, later⟩ := alike.call call
          rw [answers, answers, same, ih later]

structure Over (stream : BufferedInputStream α) : Prop where
  ended : stream.eosState ≠ .none
  queue : stream.queue = []
  samplesQueued : stream.samplesQueued = 0

theorem Over.shut {stream : BufferedInputStream α} (ends : Over stream) (port : InPort α) :
    Shut ⟨stream, port⟩ :=
  ⟨by simp [BufferedInputStream.closed, ends.ended], ends.queue, ends.samplesQueued⟩

variable {reader : Reader α}

theorem Over.report (ends : Over reader.stream) : Over (InputStream.reportIfEosReached reader).stream := by
  simp only [InputStream.reportIfEosReached]
  split
  · exact ⟨by simp, ends.queue, ends.samplesQueued⟩
  · exact ends

theorem Over.call (ends : Over reader.stream) (call : StreamCall) :
    Over (BufferedInputStream.call reader call).stream := by
  obtain ⟨_, same | reports | rfl | rfl⟩ := (ends.shut reader.port).call call
  · rw [same]
    exact ends
  · rw [reports]
    exact ends.report
  · exact ⟨ends.ended, ends.queue, ends.samplesQueued⟩
  · simp only [BufferedInputStream.call, BufferedInputStream.disable_stream]
    exact ⟨ends.ended, rfl, rfl⟩

theorem answers_over (ends : Over reader.stream)
    (happenings : List (Happening α)) : ∀ answer ∈ reader.answers happenings, answer = none := by
  induction happenings generalizing reader with
  | nil => simp [answers]
  | cons happening rest ih =>
      cases happening with
      | changes port => exact @ih ⟨reader.stream, port⟩ ends
      | closes =>
          have closed : Over { reader.stream with eosState := .reported } :=
            ⟨by simp, ends.queue, ends.samplesQueued⟩
          exact @ih ⟨{ reader.stream with eosState := .reported }, reader.port⟩ closed
      | call call =>
          have none := ((ends.shut reader.port).call call).1
          rw [answers, none]
          exact forall_mem_cons.mpr ⟨rfl, ih (ends.call call)⟩

end Reader

namespace InPort

section Rest

structure Cleared (handle : Nat) (streamID : String) (port : InPort α) : Prop where
  active : port.streams.lookup streamID = some handle
  listed : (port.currentHs.lookup streamID).isSome = true
  alone : ∀ entry ∈ port.pendingStreams, entry.1 ≠ streamID
  waiting : ∀ packet ∈ port.waiting, packet.streamID ≠ streamID
  queued : ∀ packet ∈ port.packetQueue, packet.streamID ≠ streamID

structure Emptied (stream : BufferedInputStream α) : Prop where
  disabled : stream.enabled = false
  queue : stream.queue = []
  pending : stream.pending = none
  samplesQueued : stream.samplesQueued = 0
  sampleOffset : stream.sampleOffset = 0

def Rests (handle : Nat) (streamID : String) (port : InPort α) : Prop :=
  ∃ stream, port.objects[handle]? = some stream ∧ stream.streamID = streamID ∧ Emptied stream ∧
    (stream.eosState ≠ .none ∨ port.Cleared handle streamID)

def Ended (handle : Nat) (port : InPort α) : Prop :=
  ∃ stream, port.objects[handle]? = some stream ∧ stream.eosState ≠ .none

variable {handle : Nat} {streamID : String} {port later : InPort α}

section

variable (rests : port.Rests handle streamID)
include rests

theorem Rests.of_ended (ended : port.Ended handle)
    (objects : later.objects = port.objects) : later.Rests handle streamID := by
  obtain ⟨stream, found, named, emptied, _⟩ := rests
  obtain ⟨same, found', ends⟩ := ended
  rw [found] at found'
  cases found'
  exact ⟨stream, by rw [objects, found], named, emptied, .inl ends⟩

theorem Rests.of_frame (objects : later.objects = port.objects)
    (kept : port.Cleared handle streamID → later.Cleared handle streamID) :
    later.Rests handle streamID := by
  obtain ⟨stream, found, named, emptied, ended | cleared⟩ := rests
  · exact ⟨stream, by rw [objects, found], named, emptied, .inl ended⟩
  · exact ⟨stream, by rw [objects, found], named, emptied, .inr (kept cleared)⟩

theorem Rests.removeStream (other : String) : (port.removeStream other).Rests handle streamID := by
  obtain ⟨stream, found, named, emptied, state⟩ := rests
  have objects := removeStream_objects other port
  by_cases closes : port.streams.lookup other = some handle
  · refine ⟨{ stream with eosState := .reported }, ?_, named, ⟨emptied.disabled, emptied.queue,
      emptied.pending, emptied.samplesQueued, emptied.sampleOffset⟩, .inl (by simp)⟩
    rw [objects, closes]
    simp [found]
  · refine ⟨stream, ?_, named, emptied, ?_⟩
    · rw [objects]
      split
      · rename_i current active
        have different : current ≠ handle := by
          rintro rfl
          exact closes active
        simp [different, found]
      · exact found
    · rcases state with ended | cleared
      · exact .inl ended
      · right
        have apart : other ≠ streamID := by
          rintro rfl
          exact closes cleared.active
        have kept : (port.removeStream other).streams.lookup streamID = port.streams.lookup streamID ∧
            ∀ entry ∈ (port.removeStream other).pendingStreams, entry ∈ port.pendingStreams := by
          simp only [InPort.removeStream, closeStream, updateObject]
          cases current : port.streams.lookup other with
          | none =>
              cases next : port.pendingStreams.find? fun entry => entry.1 == other with
              | none => exact ⟨rfl, fun _ member => member⟩
              | some entry =>
                  exact ⟨AList.lookup_insert_ne (Ne.symm apart),
                    fun _ member => eraseP_sublist.subset member⟩
          | some handle =>
              cases next : port.pendingStreams.find? fun entry => entry.1 == other with
              | none =>
                  exact ⟨AList.lookup_erase_ne (Ne.symm apart), fun _ member => member⟩
              | some entry =>
                  refine ⟨?_, fun _ member => eraseP_sublist.subset member⟩
                  rw [AList.lookup_insert_ne (Ne.symm apart), AList.lookup_erase_ne (Ne.symm apart)]
        obtain ⟨objects', streams, pendingStreams, frame⟩ := removeStream_frame other port
        rw [frame] at kept ⊢
        exact ⟨kept.1.trans cleared.active, cleared.listed,
          fun entry member => cleared.alone entry (kept.2 entry member), cleared.waiting,
          cleared.queued⟩

theorem Rests.createStream {other : String} (apart : port.Ended handle ∨ other ≠ streamID) (sri : StreamSRI) :
    (port.createStream other sri).Rests handle streamID := by
  obtain ⟨stream, found, named, emptied, state⟩ := rests
  have bound : handle < port.objects.length := (List.getElem?_eq_some_iff.mp found).choose
  refine ⟨stream, ?_, named, emptied, ?_⟩
  · rw [createStream_objects, getElem?_append_left bound]
    exact found
  · rcases apart with ⟨same, found', ended⟩ | different
    · rw [found] at found'
      cases found'
      exact .inl ended
    · rcases state with ended | cleared
      · exact .inl ended
      · right
        simp only [InPort.createStream, tick]
        split
        · exact ⟨(AList.lookup_insert_ne (Ne.symm different)).trans cleared.active, cleared.listed,
            cleared.alone, cleared.waiting, cleared.queued⟩
        · refine ⟨cleared.active, cleared.listed, fun entry member => ?_, cleared.waiting, cleared.queued⟩
          rcases mem_append.mp member with old | new
          · exact cleared.alone entry old
          · rw [mem_singleton.mp new]
            exact different

end

theorem listed_insert {table : SriTable} (listed : (table.lookup streamID).isSome = true)
    (other : String) (entry : SriEntry other) :
    ((table.insert other entry).lookup streamID).isSome = true := by
  by_cases same : streamID = other
  · subst same
    simp [AList.lookup_insert]
  · rw [AList.lookup_insert_ne same]
    exact listed

theorem Rests.apart (rests : port.Rests handle streamID) :
    port.Ended handle ∨ port.Cleared handle streamID := by
  obtain ⟨stream, found, _, _, state⟩ := rests
  exact state.imp (fun ended => ⟨stream, found, ended⟩) id

theorem Rests.pushSRI (rests : port.Rests handle streamID) (sri : StreamSRI) :
    (port.pushSRI sri).Rests handle streamID := by
  have apart := rests.apart
  simp only [InPort.pushSRI]
  split
  · rename_i unknown
    refine Rests.createStream ?_ ?_ _
    · exact rests.of_frame rfl fun cleared => ⟨cleared.active,
        listed_insert cleared.listed sri.streamID _, cleared.alone, cleared.waiting, cleared.queued⟩
    · refine apart.imp id fun cleared => ?_
      rintro rfl
      have listed := cleared.listed
      rw [unknown] at listed
      cases listed
  · split
    · refine Rests.createStream ?_ ?_ _
      · exact rests.of_frame rfl fun cleared => ⟨cleared.active, cleared.listed, cleared.alone,
          cleared.waiting, cleared.queued⟩
      · refine apart.imp id fun cleared => ?_
        rintro rfl
        -- neither an end nor a later stream of the ID is with the port
        have none : (port.packetQueue.countP fun packet =>
            packet.streamID == sri.streamID && packet.eos) = 0 := by
          rw [countP_eq_zero]
          intro packet member
          simp [cleared.queued packet member]
        omega
    · split
      · exact rests.of_frame rfl fun cleared => ⟨cleared.active,
          listed_insert cleared.listed sri.streamID _, cleared.alone, cleared.waiting, cleared.queued⟩
      · exact rests.of_frame rfl fun cleared => ⟨cleared.active, cleared.listed, cleared.alone,
          cleared.waiting, cleared.queued⟩

theorem Cleared.acknowledgeSRI (cleared : port.Cleared handle streamID) (other : String) :
    (port.acknowledgeSRI other).Cleared handle streamID := by
  simp only [InPort.acknowledgeSRI]
  split
  · exact ⟨cleared.active, listed_insert cleared.listed other _, cleared.alone, cleared.waiting, cleared.queued⟩
  · exact cleared

theorem Rests.acknowledgeSRI (rests : port.Rests handle streamID) (other : String) :
    (port.acknowledgeSRI other).Rests handle streamID := by
  refine rests.of_frame ?_ fun cleared => cleared.acknowledgeSRI other
  simp only [InPort.acknowledgeSRI]
  split <;> rfl

theorem Ended.lookupSRI (ended : port.Ended handle) (other : String) : (port.lookupSRI other).2.Ended handle := by
  obtain ⟨stream, found, ends⟩ := ended
  have bound : handle < port.objects.length := (List.getElem?_eq_some_iff.mp found).choose
  refine ⟨stream, ?_, ends⟩
  simp only [InPort.lookupSRI]
  split
  · simp only [InPort.acknowledgeSRI]
    split
    · exact found
    · exact found
  · rw [createStream_objects, getElem?_append_left bound]
    exact found

theorem Rests.lookupSRI (rests : port.Rests handle streamID) (other : String) :
    (port.lookupSRI other).2.Rests handle streamID := by
  have apart := rests.apart
  simp only [InPort.lookupSRI]
  split
  · exact rests.acknowledgeSRI other
  · rename_i unknown
    refine Rests.createStream ?_ ?_ _
    · exact rests.of_frame rfl fun cleared => ⟨cleared.active,
        listed_insert cleared.listed other _, cleared.alone, cleared.waiting, cleared.queued⟩
    · refine apart.imp id fun cleared => ?_
      rintro rfl
      have listed := cleared.listed
      rw [unknown] at listed
      cases listed

variable {packet : Packet α}

theorem Cleared.enqueue (cleared : port.Cleared handle streamID)
    (other : packet.streamID ≠ streamID) : (port.enqueue packet).Cleared handle streamID := by
  have queued : ∀ queued ∈ port.packetQueue ++ [packet], queued.streamID ≠ streamID := by
    exact forall_mem_concat.mpr ⟨cleared.queued, other⟩
  simp only [InPort.enqueue]
  split
  · refine ⟨cleared.active, ?_, cleared.alone, cleared.waiting, queued⟩
    rw [AList.lookup_erase_ne (Ne.symm other)]
    exact cleared.listed
  · exact ⟨cleared.active, cleared.listed, cleared.alone, cleared.waiting, queued⟩

theorem Cleared.flushFor (cleared : port.Cleared handle streamID)
    (other : packet.streamID ≠ streamID) : (port.flushFor packet).2.Cleared handle streamID := by
  obtain ⟨left, _⟩ := makeRoom_forStream_other other packet.sriChanged port.packetQueue
  have none : forStream streamID port.packetQueue = [] :=
    filter_eq_nil_iff.mpr fun queued member => by simp [cleared.queued queued member]
  have queued : ∀ queued ∈ (makeRoom packet.streamID packet.sriChanged port.packetQueue).packetQueue,
      queued.streamID ≠ streamID := by
    intro queued member same
    have kept := mem_forStream.mpr ⟨member, same⟩
    rw [left, none] at kept
    exact absurd kept not_mem_nil
  simp only [InPort.flushFor]
  split
  · refine Cleared.acknowledgeSRI ?_ _
    exact ⟨cleared.active, cleared.listed, cleared.alone, cleared.waiting, queued⟩
  · exact ⟨cleared.active, cleared.listed, cleared.alone, cleared.waiting, queued⟩

section

variable (rests : port.Rests handle streamID)

include rests

theorem Rests.admitPacket (apart : port.Ended handle ∨ packet.streamID ≠ streamID) :
    (port.admitPacket packet).Rests handle streamID := by
  rcases apart with ended | other
  · exact rests.of_ended ended (admitPacket_objects packet port)
  · refine rests.of_frame (admitPacket_objects packet port) fun cleared => ?_
    simp only [InPort.admitPacket]
    split
    · split
      · refine ⟨cleared.active, cleared.listed, cleared.alone, fun queued member => ?_, cleared.queued⟩
        rcases mem_append.mp member with old | new
        · exact cleared.waiting queued old
        · rw [mem_singleton.mp new]
          exact other
      · simp only [InPort.flushAndEnqueue]
        refine (cleared.flushFor other).enqueue ?_
        exact other
    · exact cleared.enqueue other

theorem Rests.acceptPacket (other : String) (eos : Bool) :
    (port.acceptPacket other eos).2.Rests handle streamID := by
  simp only [InPort.acceptPacket]
  split
  · exact rests
  · split
    · exact rests
    · split
      · exact rests
      · split
        · exact rests.removeStream other
        · exact rests

theorem Rests.refuses {eos : Bool}
    (cleared : port.Cleared handle streamID) : (port.acceptPacket streamID eos).1 = false := by
  obtain ⟨stream, found, _, emptied, _⟩ := rests
  have off : port.streamEnabled handle = false := by
    simp only [streamEnabled, found, emptied.disabled]
  have alone : (port.pendingStreams.any fun entry => entry.1 == streamID) = false := by
    rw [any_eq_false]
    intro entry member
    simp [cleared.alone entry member]
  simp only [InPort.acceptPacket, cleared.active, off, alone, Bool.false_eq_true, if_false]
  split <;> rfl

theorem Rests.queuePacket (data : List α) (T : PrecisionUTCTime)
    (eos : Bool) (other : String) : (port.queuePacket data T eos other).Rests handle streamID := by
  have accepted := rests.acceptPacket other eos
  have frame : ∀ {later final : InPort α}, later.Rests handle streamID →
      final.objects = later.objects → final.streams = later.streams →
      final.currentHs = later.currentHs → final.pendingStreams = later.pendingStreams →
      final.waiting = later.waiting → final.packetQueue = later.packetQueue →
      final.Rests handle streamID := by
    intro later final before objects streams currentHs pendingStreams waiting packetQueue
    refine before.of_frame objects fun cleared => ⟨?_, ?_, ?_, ?_, ?_⟩
    · rw [streams]; exact cleared.active
    · rw [currentHs]; exact cleared.listed
    · rw [pendingStreams]; exact cleared.alone
    · rw [waiting]; exact cleared.waiting
    · rw [packetQueue]; exact cleared.queued
  rcases queuePacket_cases data T eos other port with
    ⟨_, result⟩ | ⟨_, _, result⟩ | ⟨accepts, _, _, result⟩
  · rw [result]
    cases eos with
    | true => exact frame accepted rfl rfl rfl rfl rfl rfl
    | false => exact accepted
  · rw [result]
    cases eos with
    | true => exact frame rests rfl rfl rfl rfl rfl rfl
    | false => exact rests
  · rw [result]
    have built : (port.buildPacket data T eos other).2.Rests handle streamID :=
      frame (rests.lookupSRI other) rfl rfl rfl rfl rfl rfl
    have named : (port.buildPacket data T eos other).1.streamID = other :=
      (port.lookupSRI other).1.1.2
    refine built.admitPacket ?_
    rw [named]
    refine rests.apart.imp (fun ended => ?_) fun cleared => ?_
    · exact ended.lookupSRI other
    · rintro rfl
      have refused := @Rests.refuses _ _ _ _ rests eos cleared
      rw [accepts] at refused
      cases refused

theorem Rests.resumePush (other : String) : (port.resumePush other).Rests handle streamID := by
  refine rests.of_frame (resumePush_objects other port) fun cleared => ?_
  simp only [InPort.resumePush]
  split
  · rename_i packet found
    have apart := cleared.waiting packet (mem_of_find?_eq_some found)
    split
    · refine Cleared.enqueue ?_ apart
      exact ⟨cleared.active, cleared.listed, cleared.alone,
        fun queued member => cleared.waiting queued (eraseP_sublist.subset member), cleared.queued⟩
    · exact cleared
  · exact cleared

end

theorem Cleared.fewer (cleared : port.Cleared handle streamID) {packets : List (Packet α)}
    (fewer : packets.Sublist port.packetQueue) (blocking : Bool) (history : History α) :
    Cleared handle streamID { port with
      packetQueue := packets, blocking := blocking, history := history } :=
  ⟨cleared.active, cleared.listed, cleared.alone, cleared.waiting,
    fun packet member => cleared.queued packet (fewer.subset member)⟩

theorem Rests.nextPacket (rests : port.Rests handle streamID) (blocking : Bool) (other : String) :
    (port.nextPacket blocking other).2.Rests handle streamID := by
  rcases nextPacket_cases blocking other port with ⟨_, same, _⟩ | ⟨_, _, next⟩
  · rw [same]
    exact rests
  · rw [next]
    exact rests.of_frame rfl fun cleared => cleared.fewer eraseP_sublist _ _

theorem Rests.getPacket (rests : port.Rests handle streamID) (blocking : Bool) (other : String) :
    (port.getPacket blocking other).2.Rests handle streamID :=
  InPort.getPacket_keeps (fun other _ kept => kept.removeStream other) (rests.nextPacket blocking other)

theorem closed_of_port {Keeps : InPort α → Prop}
    (next : ∀ port blocking other, Keeps port → Keeps (port.nextPacket blocking other).2)
    (remove : ∀ port other, Keeps port → Keeps (port.removeStream other)) :
    Closed fun reader : Reader α => Keeps reader.port where
  fetch blocking reader keeps := by
    rcases fetchPacket_cases blocking reader with ⟨_, same⟩ | ⟨_, _, fetched⟩
    · rw [same]
      exact keeps
    · rw [fetched]
      exact next _ blocking _ keeps
  take _ _ _ _ keeps _ := keeps
  consume _ _ keeps := keeps
  report reader keeps := by
    simp only [InputStream.reportIfEosReached]
    split
    · exact remove _ _ keeps
    · exact keeps
  enable _ keeps := keeps

theorem rests_closed :
    BufferedInputStream.Closed fun reader : Reader α => reader.port.Rests handle streamID :=
  closed_of_port (fun _ blocking other rests => rests.nextPacket blocking other)
    fun _ other rests => rests.removeStream other

theorem Rests.disable {reader : Reader α} (rests : reader.port.Rests handle streamID) :
    (BufferedInputStream.disable reader).port.Rests handle streamID := by
  simp only [BufferedInputStream.disable, InputStream.disable]
  split
  · exact rests.of_frame rfl fun cleared => cleared.fewer (discardQueued_sublist _ _) _ _
  · exact rests

theorem rests_settled {reader : Reader α} (bound : handle < reader.port.objects.length)
    (named : reader.stream.streamID = streamID) (emptied : Emptied reader.stream)
    (state : reader.stream.eosState ≠ .none ∨ reader.port.Cleared handle streamID) :
    (reader.port.updateObject handle fun _ => reader.stream).Rests handle streamID := by
  refine ⟨reader.stream, ?_, named, emptied, state.imp id fun cleared => ?_⟩
  · simp [updateObject, bound]
  · exact ⟨cleared.active, cleared.listed, cleared.alone, cleared.waiting, cleared.queued⟩

theorem Emptied.shut {stream : BufferedInputStream α} (emptied : Emptied stream) (port : InPort α) :
    Shut ⟨stream, port⟩ :=
  ⟨by simp [closed, emptied.disabled], emptied.queue, emptied.samplesQueued⟩

section

variable (rests : port.Rests handle streamID)

include rests

theorem Rests.callSame {call : StreamCall}
    (resting : call ≠ .enable) : (port.callStream .buffered handle call).Rests handle streamID := by
  obtain ⟨stream, found, named, emptied, state⟩ := rests
  have bound : handle < port.objects.length := (List.getElem?_eq_some_iff.mp found).choose
  have same : (port.updateObject handle fun _ => stream).Rests handle streamID :=
    @rests_settled _ handle streamID ⟨stream, port⟩ bound named emptied state
  simp only [callStream, found, StreamType.call]
  obtain ⟨_, unchanged | reports | rfl | rfl⟩ := (emptied.shut port).call call
  · rw [unchanged]
    exact same
  · rw [reports]
    simp only [InputStream.reportIfEosReached]
    split
    · refine rests_settled ?_ named ?_ (.inl (by simp))
      · rw [removeStream_objects]
        split
        · simpa using bound
        · exact bound
      · exact ⟨emptied.disabled, emptied.queue, emptied.pending, emptied.samplesQueued, emptied.sampleOffset⟩
    · exact same
  · exact absurd rfl resting
  · have again : Emptied stream.disabled := ⟨rfl, rfl, emptied.pending, rfl, rfl⟩
    simp only [BufferedInputStream.call]
    refine rests_settled ?_ ?_ ?_ ?_
    · simp only [BufferedInputStream.disable, InputStream.disable]
      split
      · exact bound
      · exact bound
    · rw [BufferedInputStream.disable_stream]
      exact named
    · rw [BufferedInputStream.disable_stream]
      exact again
    · rw [BufferedInputStream.disable_stream]
      refine state.imp id fun cleared => ?_
      simp only [BufferedInputStream.disable, InputStream.disable]
      split
      · exact cleared.fewer (discardQueued_sublist _ _) _ _
      · exact cleared

theorem Rests.callOther {other : Nat} (apart : other ≠ handle)
    (call : StreamCall) : (port.callStream .buffered other call).Rests handle streamID := by
  simp only [callStream]
  cases found : port.objects[other]? with
  | none => exact rests
  | some stream =>
      have served : (BufferedInputStream.call ⟨stream, port⟩ call).port.Rests handle streamID := by
        by_cases disables : call = .disable
        · subst disables
          exact @Rests.disable _ _ _ ⟨stream, port⟩ rests
        · exact rests_closed.call ⟨stream, port⟩ disables rests
      obtain ⟨resting, found, named, emptied, state⟩ := served
      refine ⟨resting, ?_, named, emptied, state.imp id fun cleared => ?_⟩
      · simp only [StreamType.call, updateObject, getElem?_modify, apart, if_false]
        simpa using found
      · exact ⟨cleared.active, cleared.listed, cleared.alone, cleared.waiting, cleared.queued⟩

theorem Rests.step {call : Call α} (resting : call ≠ .stream handle .enable) :
    (port.step .buffered call).Rests handle streamID := by
  cases call with
  | pushSRI sri => exact rests.pushSRI sri
  | queuePacket data T eos other => exact rests.queuePacket data T eos other
  | resumePush other => exact rests.resumePush other
  | nextPacket blocking other => exact rests.nextPacket blocking other
  | getPacket blocking other => exact rests.getPacket blocking other
  | setMaxQueueDepth _ =>
      exact rests.of_frame rfl fun cleared => ⟨cleared.active, cleared.listed, cleared.alone,
        cleared.waiting, cleared.queued⟩
  | block =>
      exact rests.of_frame rfl fun cleared => ⟨cleared.active, cleared.listed, cleared.alone,
        cleared.waiting, cleared.queued⟩
  | unblock =>
      exact rests.of_frame rfl fun cleared => ⟨cleared.active, cleared.listed, cleared.alone,
        cleared.waiting, cleared.queued⟩
  | stream other call =>
      by_cases same : other = handle
      · subst same
        refine rests.callSame ?_
        rintro rfl
        exact resting rfl
      · exact rests.callOther same call

theorem Rests.run {calls : List (Call α)} (resting : ∀ call ∈ calls, call ≠ .stream handle .enable) :
    (run (InPort.step .buffered) port calls).Rests handle streamID := by
  induction calls generalizing port with
  | nil => exact rests
  | cons call calls ih =>
      obtain ⟨first, others⟩ := forall_mem_cons.mp resting
      exact ih (rests.step first) others

end

end Rest

section Calls

def StaysAt (handle : Nat) (stream : BufferedInputStream α) (port : InPort α) : Prop :=
  port.objects[handle]? = some stream ∨
    port.objects[handle]? = some { stream with eosState := .reported }

variable {handle : Nat} {stream : BufferedInputStream α} {port later : InPort α}

section

variable (stays : port.StaysAt handle stream)
include stays

theorem StaysAt.of_objects (objects : later.objects = port.objects) : later.StaysAt handle stream := by
  rw [StaysAt, objects]
  exact stays

theorem StaysAt.removeStream (other : String) : (port.removeStream other).StaysAt handle stream := by
  rw [StaysAt, removeStream_objects]
  split
  · rw [getElem?_modify]
    rcases stays with same | closed
    · rw [same]
      split
      · exact .inr rfl
      · exact .inl rfl
    · rw [closed]
      split
      · exact .inr rfl
      · exact .inr rfl
  · exact stays

theorem StaysAt.createStream (other : String) (sri : StreamSRI) :
    (port.createStream other sri).StaysAt handle stream := by
  rw [StaysAt, createStream_objects]
  refine stays.imp (fun same => ?_) fun closed => ?_
  · rw [getElem?_append_left (List.getElem?_eq_some_iff.mp same).choose, same]
  · rw [getElem?_append_left (List.getElem?_eq_some_iff.mp closed).choose, closed]

theorem StaysAt.pushSRI (sri : StreamSRI) : (port.pushSRI sri).StaysAt handle stream := by
  simp only [InPort.pushSRI]
  split
  · refine StaysAt.createStream ?_ _ _
    exact stays.of_objects rfl
  · split
    · refine StaysAt.createStream ?_ _ _
      exact stays.of_objects rfl
    · split
      · exact stays.of_objects rfl
      · exact stays.of_objects rfl

theorem StaysAt.lookupSRI (other : String) : (port.lookupSRI other).2.StaysAt handle stream := by
  simp only [InPort.lookupSRI]
  split
  · simp only [InPort.acknowledgeSRI]
    split
    · exact stays.of_objects rfl
    · exact stays
  · refine StaysAt.createStream ?_ _ _
    exact stays.of_objects rfl

theorem StaysAt.queuePacket (data : List α) (T : PrecisionUTCTime) (eos : Bool) (other : String) :
    (port.queuePacket data T eos other).StaysAt handle stream := by
  have accepted : (port.acceptPacket other eos).2.StaysAt handle stream := by
    simp only [InPort.acceptPacket]
    split
    · exact stays
    · split
      · exact stays
      · split
        · exact stays
        · split
          · exact stays.removeStream other
          · exact stays
  rcases queuePacket_cases data T eos other port with ⟨_, result⟩ | ⟨_, _, result⟩ | ⟨_, _, _, result⟩
  · rw [result]
    cases eos with
    | true => exact accepted.of_objects rfl
    | false => exact accepted
  · rw [result]
    cases eos with
    | true => exact stays.of_objects rfl
    | false => exact stays
  · rw [result]
    exact (stays.lookupSRI other).of_objects (admitPacket_objects _ _)

theorem StaysAt.nextPacket (blocking : Bool) (other : String) :
    (port.nextPacket blocking other).2.StaysAt handle stream :=
  stays.of_objects (nextPacket_objects blocking other port)

theorem StaysAt.getPacket (blocking : Bool) (other : String) :
    (port.getPacket blocking other).2.StaysAt handle stream :=
  InPort.getPacket_keeps (fun other _ kept => kept.removeStream other) (stays.nextPacket blocking other)

end

theorem staysAt_closed :
    BufferedInputStream.Closed fun reader : Reader α => reader.port.StaysAt handle stream :=
  closed_of_port (fun _ blocking other stays => stays.nextPacket blocking other)
    fun _ other stays => stays.removeStream other

theorem StaysAt.called {reader : Reader α} (stays : reader.port.StaysAt handle stream)
    (call : StreamCall) : (BufferedInputStream.call reader call).port.StaysAt handle stream := by
  by_cases disables : call = .disable
  · subst disables
    simp only [BufferedInputStream.call, BufferedInputStream.disable, InputStream.disable]
    split
    · exact stays.of_objects rfl
    · exact stays
  · exact staysAt_closed.call reader disables stays

theorem StaysAt.callOther (stays : port.StaysAt handle stream) {other : Nat} (apart : other ≠ handle)
    (call : StreamCall) : (port.callStream .buffered other call).StaysAt handle stream := by
  simp only [callStream]
  cases found : port.objects[other]? with
  | none => exact stays
  | some caller =>
      have served := @StaysAt.called _ handle stream ⟨caller, port⟩ stays call
      simpa only [StreamType.call, StaysAt, updateObject, getElem?_modify, apart, if_false,
        Option.map_eq_map, Option.map_id'] using served

theorem callStream_found (found : port.objects[handle]? = some stream) (call : StreamCall) :
    (port.callStream .buffered handle call).objects[handle]? =
      some (BufferedInputStream.call ⟨stream, port⟩ call).stream := by
  have served := @StaysAt.called _ handle stream ⟨stream, port⟩ (.inl found) call
  simp only [callStream, found, StreamType.call, updateObject, getElem?_modify, if_true]
  rcases served with same | closed
  · rw [same]
    rfl
  · rw [closed]
    rfl

def OnStream (handle : Nat) : Call α → Option StreamCall
  | .stream other call => if other = handle then some call else none
  | _ => none

theorem StaysAt.step (stays : port.StaysAt handle stream) {call : Call α}
    (elsewhere : OnStream handle call = none) : (port.step .buffered call).StaysAt handle stream := by
  cases call with
  | pushSRI sri => exact stays.pushSRI sri
  | queuePacket data T eos other => exact stays.queuePacket data T eos other
  | resumePush other => exact stays.of_objects (resumePush_objects other port)
  | nextPacket blocking other => exact stays.nextPacket blocking other
  | getPacket blocking other => exact stays.getPacket blocking other
  | setMaxQueueDepth _ => exact stays.of_objects rfl
  | block => exact stays.of_objects rfl
  | unblock => exact stays.of_objects rfl
  | stream other call =>
      refine stays.callOther (fun same => ?_) call
      simp [OnStream, same] at elsewhere

def happenings (handle : Nat) : InPort α → List (Call α) → List (Reader.Happening α)
  | _, [] => []
  | port, call :: rest =>
      let later := port.step .buffered call
      let happened := match OnStream handle call with
        | some call => [.call call]
        | none =>
            if (later.objects[handle]?.map fun stream => stream.eosState) = some .reported then [.closes]
            else []
      happened ++ .changes later :: happenings handle later rest

def answers (handle : Nat) : InPort α → List (Call α) → List (Option (DataBlock α))
  | _, [] => []
  | port, call :: rest =>
      (match OnStream handle call, port.objects[handle]? with
        | some call, some stream =>
            [(returned ⟨stream, port⟩ call).map DataBlock.told]
        | _, _ => []) ++ answers handle (port.step .buffered call) rest

theorem answers_happenings (found : port.objects[handle]? = some stream) (calls : List (Call α)) :
    port.answers handle calls = Reader.answers ⟨stream, port⟩ (port.happenings handle calls) := by
  induction calls generalizing port stream with
  | nil => rfl
  | cons call rest ih =>
      cases on : OnStream handle call with
      | none =>
          simp only [answers, happenings, on]
          rcases StaysAt.step (.inl found) on with same | closed
          · rw [ih same, same]
            split
            · rename_i reports
              have unchanged : { stream with eosState := .reported } = stream := by
                rw [← Option.some.inj reports]
              simp [Reader.answers, unchanged]
            · rfl
          · rw [ih closed, closed]
            rfl
      | some made =>
          obtain rfl : call = .stream handle made := by
            cases call with
            | stream other call =>
                simp only [OnStream] at on
                split at on
                · rename_i same
                  rw [same, Option.some.inj on]
                · cases on
            | _ => cases on
          simp only [answers, happenings, on, found]
          rw [@ih _ (port.step .buffered (.stream handle made)) (callStream_found found made)]
          rfl

end Calls

section Disable

/-- The port's stream of the ID, with no end and no other stream or push of the ID behind it. -/
structure Current (handle : Nat) (streamID : String) (port : InPort α) : Prop where
  active : port.streams.lookup streamID = some handle
  listed : (port.currentHs.lookup streamID).isSome = true
  alone : ∀ entry ∈ port.pendingStreams, entry.1 ≠ streamID
  waiting : ∀ packet ∈ port.waiting, packet.streamID ≠ streamID
  unended : ∀ packet ∈ port.packetQueue, packet.streamID = streamID → packet.eos = false

variable {streamID : String}

theorem discardQueued_unended {packets : List (Packet α)}
    (unended : ∀ packet ∈ packets, packet.streamID = streamID → packet.eos = false) :
    ∀ packet ∈ discardQueued streamID packets, packet.streamID ≠ streamID := by
  induction packets with
  | nil => simp [discardQueued]
  | cons packet rest ih =>
      obtain ⟨first, others⟩ := forall_mem_cons.mp unended
      simp only [discardQueued]
      split
      · rename_i same
        rw [first (beq_iff_eq.mp same)]
        exact ih others
      · rename_i apart
        exact forall_mem_cons.mpr ⟨fun same => apart (beq_iff_eq.mpr same), ih others⟩

theorem Current.cleared {handle : Nat} {port : InPort α} (current : port.Current handle streamID) :
    (port.discardPacketsForStream streamID).Cleared handle streamID :=
  ⟨current.active, current.listed, current.alone, current.waiting, discardQueued_unended current.unended⟩

variable {handle : Nat} {stream : BufferedInputStream α} {port : InPort α}

theorem disabled_rests (found : port.objects[handle]? = some stream) (free : stream.pending = none)
    (state : stream.eosState ≠ .none ∨ port.Current handle stream.streamID) :
    (port.step .buffered (.stream handle .disable)).Rests handle stream.streamID := by
  have bound : handle < port.objects.length := (List.getElem?_eq_some_iff.mp found).choose
  simp only [InPort.step, callStream, found, StreamType.call, call]
  refine rests_settled ?_ ?_ ?_ ?_
  · simp only [disable, InputStream.disable]
    split
    · exact bound
    · exact bound
  · rw [disable_stream]
    rfl
  · rw [disable_stream]
    exact ⟨rfl, rfl, free, rfl, rfl⟩
  · rw [disable_stream]
    by_cases unended : stream.eosState = .none
    · right
      rcases state with ended | current
      · exact absurd unended ended
      · simp only [disable, InputStream.disable, unended, beq_self_eq_true, if_true]
        exact current.cleared
    · exact .inl unended

structure StartsAfresh (handle : Nat) (port : InPort α) (stream : BufferedInputStream α) : Prop where
  ended : stream.eosState ≠ .none → ∀ calls, ∀ answer ∈ port.answers handle calls, answer = none
  drained : stream.eosState = .none → (∀ packet ∈ port.packetQueue, packet.streamID ≠ stream.streamID) ∧
    ∀ packet ∈ port.waiting, packet.streamID ≠ stream.streamID
  fresh : stream.eosState = .none → ∀ calls, port.answers handle calls =
    Reader.answers ⟨{ streamID := stream.streamID, sri := stream.sri, born := stream.born }, port⟩
      (port.happenings handle calls)

theorem enabled_afresh (rests : port.Rests handle streamID) :
    ∃ last, (port.step .buffered (.stream handle .enable)).objects[handle]? = some last ∧
      last.streamID = streamID ∧
      StartsAfresh handle (port.step .buffered (.stream handle .enable)) last := by
  obtain ⟨stream, found, named, emptied, state⟩ := rests
  have later : (port.step .buffered (.stream handle .enable)).objects[handle]? =
      some { stream with enabled := true } := callStream_found found .enable
  refine ⟨{ stream with enabled := true }, later, named, ?_, ?_, ?_⟩
  · intro ended calls
    rw [answers_happenings later]
    exact Reader.answers_over ⟨ended, emptied.queue, emptied.samplesQueued⟩ _
  · intro unended
    rcases state with ended | cleared
    · exact absurd unended ended
    · rw [← named] at cleared
      simp only [InPort.step, callStream, found]
      exact ⟨cleared.queued, cleared.waiting⟩
  · intro unended calls
    have similar : Similar { stream with enabled := true }
        { streamID := stream.streamID, sri := stream.sri, born := stream.born } :=
      ⟨rfl, unended, rfl, emptied.queue, emptied.pending, emptied.samplesQueued, emptied.sampleOffset⟩
    rw [answers_happenings later]
    have alike : Alike ⟨{ stream with enabled := true },
        port.step .buffered (.stream handle .enable)⟩
        ⟨{ streamID := stream.streamID, sri := stream.sri, born := stream.born }, _⟩ := ⟨similar, rfl⟩
    exact Reader.answers_alike alike _

structure Resets (handle : Nat) (port : InPort α) (stream : BufferedInputStream α) : Prop where
  owns : ∃ after, (port.step .buffered (.stream handle .disable)).objects[handle]? = some after ∧
    after.queue = [] ∧ after.pending = none ∧
    (after.hasBufferedData = true ↔ after.eosState = .reached)
  afresh : stream.eosState ≠ .none ∨ port.Current handle stream.streamID →
    ∀ between : List (Call α), (∀ call ∈ between, call ≠ .stream handle .enable) →
      let enabled := run (InPort.step .buffered) port
        (.stream handle .disable :: between ++ [.stream handle .enable])
      ∃ last, enabled.objects[handle]? = some last ∧ last.streamID = stream.streamID ∧
        StartsAfresh handle enabled last

theorem resets (found : port.objects[handle]? = some stream) (free : stream.pending = none) :
    Resets handle port stream where
  owns := by
    refine ⟨stream.disabled, ?_, rfl, free, ?_⟩
    · rw [InPort.step, callStream_found found, BufferedInputStream.call, BufferedInputStream.disable_stream]
    · simp [BufferedInputStream.hasBufferedData, BufferedInputStream.disabled, free]
  afresh state between resting := by
    have rests := (disabled_rests found free state).run resting
    rw [cons_append, run_cons, run_append]
    exact enabled_afresh rests

/-- `disable` resets every stream that has no pending packet. -/
theorem disable_resets_when (sriCmp : StreamSRI → StreamSRI → Bool) (maxQueue : Nat)
    {calls : List (Call α)} (free : Along (InPort.step .buffered)
      (DisablesAllowed fun stream => stream.pending = none) (fresh sriCmp maxQueue) calls) :
    (run (InPort.step .buffered) (fresh sriCmp maxQueue) calls).AllStreams FreedOnce ∧
      ∀ handle stream,
        (run (InPort.step .buffered) (fresh sriCmp maxQueue) calls).objects[handle]? = some stream →
        stream.pending = none →
        Resets handle (run (InPort.step .buffered) (fresh sriCmp maxQueue) calls) stream :=
  ⟨(run_streams freedOnce_lasting sriCmp maxQueue free).1,
    fun _ _ found free => resets found free⟩

theorem disable_resets_partial :
    let calls : List (Call Nat) := [.pushSRI (Sri.create "a"),
      .queuePacket [1, 2] .notSet false "a", .stream 0 (.tryreadSamples 1)]
    let port := run (InPort.step .buffered) (fresh Sri.DefaultComparator 100) calls
    ∃ stream, port.objects[0]? = some stream ∧ stream.queue ≠ [] ∧ port.Current 0 "a" ∧
      stream.FreedOnce ∧ Resets 0 port stream := by
  intro calls port
  have reset := @disable_resets_when Nat Sri.DefaultComparator 100 calls
    ⟨trivial, trivial, trivial, trivial⟩
  let stream := port.objects[0]?.get (by decide +kernel)
  have found : port.objects[0]? = some stream := (Option.some_get _).symm
  refine ⟨stream, found, by decide +kernel, ⟨rfl, by decide, ?_, ?_, ?_⟩,
    reset.1 stream (mem_of_getElem? found), reset.2 0 stream found (by decide +kernel)⟩
  · exact fun _ member => absurd member not_mem_nil
  · exact fun _ member => absurd member not_mem_nil
  · exact fun _ member => absurd member not_mem_nil

/-- A pending packet is freed at `disable` and again with the stream, which reads nothing any more. -/
theorem disable_keeps_pending :
    let sri := Sri.create "a"
    let calls : List (Call Nat) := [.pushSRI sri, .queuePacket [1] .notSet false "a",
      .pushSRI { sri with mode := 1 }, .queuePacket [2, 3] .notSet false "a",
      .stream 0 (.tryreadConsume 2 0)]
    let port := run (InPort.step .buffered) (fresh Sri.DefaultComparator 100) calls
    let disabled := port.step .buffered (.stream 0 .disable)
    let enabled := disabled.step .buffered (.stream 0 .enable)
    ∃ after, disabled.objects[0]? = some after ∧ after.pending ≠ none ∧
      after.hasBufferedData = true ∧ after.eosState = .none ∧ ¬after.FreedOnce ∧
      enabled.answers 0 [.queuePacket [4, 5] .notSet false "a", .stream 0 .tryread] = [none] := by
  intro sri calls port disabled enabled
  let after := disabled.objects[0]?.get (by decide +kernel)
  refine ⟨after, (Option.some_get _).symm, by decide +kernel, by decide +kernel, by decide +kernel, ?_,
    by decide +kernel⟩
  change ¬Perm ((after.deleted ++ after.destroy).map Packet.serial) (after.fetched.map Packet.serial)
  decide +kernel

end Disable

end InPort

end Redhawk.Bulkio
