import Redhawk.Bulkio.InPortFrames
import Redhawk.Bulkio.PortCalls

/-!
A call on a stream as a sequence of steps of the port: fetches from the queue, changes to what the
stream buffers, and the report of its end, which removes it from the port.
-/

namespace Redhawk.Bulkio

open InputStream Reader List

variable {α : Type}

section Sound

def EndsBehind : EosState → List (Packet α) → Prop
  | .none, packets | .reported, packets => ∀ packet ∈ packets, packet.eos = false
  | .received, packets => ∀ packet ∈ packets.dropLast, packet.eos = false
  | .reached, _ => False

structure BufferedInputStream.Sound (streamType : StreamType) (stream : BufferedInputStream α) :
    Prop where
  plain : streamType = .plain → stream.queue = []
  disabled : stream.enabled = false → stream.queue = []
  ends : stream.queue = [] ∨ EndsBehind stream.eosState (stream.queue ++ stream.pending.toList)

def EosState.MovesTo (before after : EosState) : Prop :=
  after = before ∨ (before = .received ∧ after = .reached)

theorem EosState.MovesTo.trans {first second third : EosState} (before : first.MovesTo second)
    (after : second.MovesTo third) : first.MovesTo third := by
  rcases before with rfl | ⟨rfl, rfl⟩
  · exact after
  · rcases after with rfl | ⟨impossible, _⟩
    · exact .inr ⟨rfl, rfl⟩
    · cases impossible

variable {streamType : StreamType}

structure BufferedInputStream.Buffers (streamType : StreamType)
    (before after : BufferedInputStream α) : Prop where
  streamID : after.streamID = before.streamID
  born : after.born = before.born
  fetched : after.fetched = before.fetched
  sound : after.Sound streamType
  moves : before.eosState.MovesTo after.eosState

namespace BufferedInputStream

theorem Buffers.trans {first second third : BufferedInputStream α}
    (before : Buffers streamType first second) (after : Buffers streamType second third) :
    Buffers streamType first third :=
  ⟨after.streamID.trans before.streamID, after.born.trans before.born,
    after.fetched.trans before.fetched, after.sound, before.moves.trans after.moves⟩

variable {stream : BufferedInputStream α}

theorem Sound.refl (sound : stream.Sound streamType) : Buffers streamType stream stream :=
  ⟨rfl, rfl, rfl, sound, .inl rfl⟩

theorem Sound.handed (sound : stream.Sound streamType)
    (unended : stream.eosState = .none) (fetched : List (Packet α)) (eos : Bool) :
    Sound streamType { stream with
      fetched := fetched
      eosState := if eos then .received else .none } := by
  have ends := sound.ends
  rw [unended] at ends
  refine ⟨sound.plain, sound.disabled, ?_⟩
  rcases ends with empty | open'
  · exact .inl empty
  · right
    cases eos with
    | false => exact open'
    | true => exact fun queued member => open' queued ((dropLast_sublist _).subset member)

theorem markLastEos_nil {packets : List (Packet α)} : markLastEos packets = [] ↔ packets = [] := by
  rcases packets with _ | ⟨packet, _ | ⟨second, rest⟩⟩ <;> simp [markLastEos]

theorem markLastEos_dropLast (packets : List (Packet α)) : (markLastEos packets).dropLast = packets.dropLast := by
  induction packets with
  | nil => rfl
  | cons packet rest ih =>
      rcases rest with _ | ⟨second, rest⟩
      · rfl
      · have later : markLastEos (second :: rest) ≠ [] := by simp [markLastEos_nil]
        simp only [markLastEos]
        rw [dropLast_cons_of_ne_nil later, ih]
        rfl

theorem Sound.queuePacket {packet : Packet α} (sound : stream.Sound .buffered) (enabled : stream.enabled = true)
    (clear : stream.queue = [] ∨ ∀ queued ∈ stream.queue, queued.eos = false)
    (free : stream.pending = none)
    (state : stream.eosState = if packet.eos then .received else .none) :
    Buffers .buffered stream (BufferedInputStream.queuePacket packet stream).2 := by
  have open' : ∀ queued ∈ stream.queue, queued.eos = false := by
    rcases clear with empty | open'
    · simp [empty]
    · exact open'
  simp only [BufferedInputStream.queuePacket]
  split
  · have received : stream.eosState = .received := by simp_all
    split
    · rename_i empty
      exact ⟨rfl, rfl, rfl, ⟨sound.plain, sound.disabled, .inl (by simpa using empty)⟩, .inr ⟨received, rfl⟩⟩
    · refine ⟨rfl, rfl, rfl, ⟨by rintro ⟨⟩, fun disabled => ?_, .inr ?_⟩, .inl rfl⟩
      · simp [enabled] at disabled
      · simp only [received, free, Option.toList_none, append_nil, EndsBehind, markLastEos_dropLast]
        intro queued member
        exact open' queued ((dropLast_sublist _).subset member)
  · refine ⟨rfl, rfl, rfl, ⟨by rintro ⟨⟩, fun disabled => ?_, .inr ?_⟩, .inl rfl⟩
    · simp [enabled] at disabled
    · simp only [free, Option.toList_none, append_nil, state]
      cases ends : packet.eos with
      | true => simpa [EndsBehind] using open'
      | false =>
          intro queued member
          rcases mem_append.mp member with old | new
          · exact open' queued old
          · rw [mem_singleton.mp new, ends]

theorem Sound.consumePacket (sound : stream.Sound .buffered) :
    Buffers .buffered stream (BufferedInputStream.consumePacket stream) := by
  simp only [BufferedInputStream.consumePacket]
  split
  · exact sound.refl
  · rename_i front rest queue
    have enabled : stream.enabled = true := by
      by_contra disabled
      rw [sound.disabled (by simpa using disabled)] at queue
      cases queue
    have ends := sound.ends.resolve_left (by simp [queue])
    rw [queue] at ends
    by_cases last : front.eos = true
    · -- the end is at the back, so nothing is left behind it
      have received : stream.eosState = .received := by
        cases state : stream.eosState with
        | received => rfl
        | _ => simp [state, EndsBehind, last] at ends
      have alone : rest ++ stream.pending.toList = [] := by
        by_contra more
        rw [received, cons_append] at ends
        simp only [EndsBehind, dropLast_cons_of_ne_nil more] at ends
        have open' := ends front (by simp)
        simp [last] at open'
      obtain ⟨rfl, free⟩ := append_eq_nil_iff.mp alone
      have none : stream.pending = none := by simpa using free
      simp only [last, none, if_true]
      exact ⟨rfl, rfl, rfl, ⟨fun _ => rfl, fun _ => rfl, .inl rfl⟩, .inr ⟨received, rfl⟩⟩
    · have open' : front.eos = false := by simpa using last
      simp only [open', Bool.false_eq_true, if_false]
      have behind : rest = [] ∨ EndsBehind stream.eosState (rest ++ stream.pending.toList) := by
        rcases rest with _ | ⟨second, rest⟩
        · exact .inl rfl
        · right
          cases state : stream.eosState with
          | none => rw [state] at ends; simp_all [EndsBehind]
          | received =>
              rw [state] at ends
              intro queued member
              refine ends queued ?_
              exact mem_cons_of_mem _ member
          | reached => simp [state, EndsBehind] at ends
          | reported => rw [state] at ends; simp_all [EndsBehind]
      have dropped : Sound .buffered { stream with queue := rest, deleted := stream.deleted ++ [front] } :=
        ⟨by rintro ⟨⟩, fun disabled => by simp [enabled] at disabled, behind⟩
      split
      · split
        · rename_i empty
          obtain rfl : rest = [] := by simpa using empty
          -- the pending packet becomes the only one buffered
          simp only [BufferedInputStream.queuePacket]
          split
          · have received : stream.eosState = .received := by
              cases state : stream.eosState with
              | received => rfl
              | _ => simp_all [EndsBehind]
            exact ⟨rfl, rfl, rfl, ⟨fun _ => rfl, fun _ => rfl, .inl rfl⟩, .inr ⟨received, rfl⟩⟩
          · refine ⟨rfl, rfl, rfl, ⟨by rintro ⟨⟩, fun disabled => by simp [enabled] at disabled, .inr ?_⟩,
              .inl rfl⟩
            cases state : stream.eosState with
            | none => rw [state] at ends; simp_all [EndsBehind]
            | received => simp [EndsBehind]
            | reached => simp [state, EndsBehind] at ends
            | reported => rw [state] at ends; simp_all [EndsBehind]
        · exact ⟨rfl, rfl, rfl, dropped, .inl rfl⟩
      · exact ⟨rfl, rfl, rfl, dropped, .inl rfl⟩

theorem Sound.consumeData (sound : stream.Sound .buffered)
    (count : Nat) : Buffers .buffered stream (BufferedInputStream.consumeData count stream) :=
  consumeLoop_keeps (Buffers .buffered stream)
    (fun _ _ _ buffers =>
      ⟨buffers.streamID, buffers.born, buffers.fetched,
        ⟨buffers.sound.plain, buffers.sound.disabled, buffers.sound.ends⟩, buffers.moves⟩)
    (fun _ buffers => buffers.trans buffers.sound.consumePacket) _ _ _ sound.refl

theorem Sound.takeBlock (sound : stream.Sound .buffered)
    (count : Nat) {front : Packet α} {rest : List (Packet α)} (queue : stream.queue = front :: rest) :
    Buffers .buffered stream (BufferedInputStream.takeBlock count front rest stream).2 := by
  have enabled : stream.enabled = true := by
    by_contra disabled
    rw [sound.disabled (by simpa using disabled)] at queue
    cases queue
  have ends := sound.ends.resolve_left (by simp [queue])
  rw [queue] at ends
  have unmarked : EndsBehind stream.eosState
      (({ front with sriChanged := false, inputQueueFlushed := false } :: rest) ++ stream.pending.toList) := by
    cases state : stream.eosState with
    | none => rw [state] at ends; simpa [EndsBehind] using ends
    | received =>
        rw [state] at ends
        rcases behind : rest ++ stream.pending.toList with _ | ⟨second, others⟩
        · simp [EndsBehind, behind]
        · simp only [EndsBehind, cons_append, behind,
            dropLast_cons_of_ne_nil (cons_ne_nil second others)] at ends ⊢
          simpa using ends
    | reached => simp [state, EndsBehind] at ends
    | reported => rw [state] at ends; simpa [EndsBehind] using ends
  simp only [BufferedInputStream.takeBlock, setBlockFlags]
  split <;> split <;>
    exact ⟨rfl, rfl, rfl, ⟨by rintro ⟨⟩, fun disabled => by simp [enabled] at disabled, .inr unmarked⟩,
      .inl rfl⟩

end BufferedInputStream

end Sound

section Steps

theorem InputStream.fetchPacket_cases (blocking : Bool) (reader : Reader α) :
    (∃ fetch, fetchPacket blocking reader = (fetch, reader) ∧ ∀ packet, fetch ≠ .packet packet) ∨
    ∃ packet, reader.stream.enabled = true ∧ reader.stream.eosState = .none ∧
      (reader.port.nextPacket blocking reader.stream.streamID).1 = .packet packet ∧
      fetchPacket blocking reader = (.packet packet,
        ⟨{ reader.stream with
            fetched := reader.stream.fetched ++ [packet]
            eosState := if packet.eos then .received else .none },
          (reader.port.nextPacket blocking reader.stream.streamID).2⟩) := by
  simp only [fetchPacket]
  split
  · exact .inl ⟨.null, rfl, by simp⟩
  · rename_i enabled
    split
    · exact .inl ⟨.null, rfl, by simp⟩
    · rename_i unended
      have unended : reader.stream.eosState = .none := by simpa using unended
      rcases InPort.nextPacket_cases blocking reader.stream.streamID reader.port with
        ⟨fetch, same, never⟩ | ⟨packet, _, fetched⟩
      · left
        rw [same]
        cases fetch with
        | packet packet => exact absurd rfl (never packet)
        | null => exact ⟨.null, rfl, by simp⟩
        | waits => exact ⟨.waits, rfl, by simp⟩
      · refine .inr ⟨packet, by simpa using enabled, unended, by rw [fetched], ?_⟩
        rw [fetched]
        cases ends : packet.eos <;> simp [ends, unended]

namespace InPort

theorem updateObject_updateObject (handle : Nat)
    (first second : BufferedInputStream α → BufferedInputStream α) (port : InPort α) :
    (port.updateObject handle first).updateObject handle second =
      port.updateObject handle fun stream => second (first stream) := by
  simp only [updateObject, InPort.mk.injEq, true_and, and_true]
  refine ext_getElem? fun index => ?_
  by_cases same : handle = index <;> simp [same, Function.comp_def]

theorem nextPacket_updateObject (handle : Nat)
    (update : BufferedInputStream α → BufferedInputStream α) (blocking : Bool) (streamID : String)
    (port : InPort α) :
    (port.updateObject handle update).nextPacket blocking streamID =
      ((port.nextPacket blocking streamID).1,
        (port.nextPacket blocking streamID).2.updateObject handle update) := by
  cases broken : port.breakBlock with
  | true => simp [nextPacket, updateObject, broken]
  | false =>
      cases found : port.packetQueue.find? (requested streamID) with
      | none => simp [nextPacket, updateObject, broken, found]
      | some packet =>
          simp only [nextPacket, updateObject, broken, found, handleEOS, Bool.false_eq_true, if_false]
          split <;> split <;> rfl

theorem removeStream_updateObject {handle : Nat} {port : InPort α}
    (stream : BufferedInputStream α) (streamID : String) :
    ((port.updateObject handle fun _ => stream).removeStream streamID).updateObject handle
        (fun stream => { stream with eosState := .reported }) =
      (port.removeStream streamID).updateObject handle
        fun _ => { stream with eosState := .reported } := by
  have objects : ∀ current : Nat, (((port.objects.modify handle fun _ => stream).modify current
        fun stream => { stream with eosState := .reported }).modify handle
          fun stream => { stream with eosState := .reported }) =
      (port.objects.modify current fun stream => { stream with eosState := .reported }).modify handle
        fun _ => { stream with eosState := .reported } := by
    intro current
    refine ext_getElem? fun index => ?_
    by_cases here : handle = index <;> by_cases there : current = index <;>
      simp [here, there, Function.comp_def]
  have alone : ((port.objects.modify handle fun _ => stream).modify handle
        fun stream => { stream with eosState := .reported }) =
      port.objects.modify handle fun _ => { stream with eosState := .reported } := by
    refine ext_getElem? fun index => ?_
    by_cases here : handle = index <;> simp [here, Function.comp_def]
  cases found : port.streams.lookup streamID with
  | none =>
      cases next : port.pendingStreams.find? fun entry => entry.1 == streamID <;>
        simp only [removeStream, updateObject, found, next, alone]
  | some current =>
      cases next : port.pendingStreams.find? fun entry => entry.1 == streamID <;>
        simp only [removeStream, closeStream, updateObject, found, next, objects]

end InPort

inductive StreamStep (streamType : StreamType) (handle : Nat) : InPort α → InPort α → Prop
  | fetches (port : InPort α) (stream : BufferedInputStream α) (blocking : Bool) (packet : Packet α)
      (found : port.objects[handle]? = some stream) (enabled : stream.enabled = true)
      (unended : stream.eosState = .none)
      (taken : (port.nextPacket blocking stream.streamID).1 = .packet packet) :
      StreamStep streamType handle port
        ((port.nextPacket blocking stream.streamID).2.updateObject handle fun _ => { stream with
          fetched := stream.fetched ++ [packet]
          eosState := if packet.eos then .received else .none })
  | buffers (port : InPort α) (stream after : BufferedInputStream α)
      (found : port.objects[handle]? = some stream)
      (buffers : stream.Buffers streamType after) :
      StreamStep streamType handle port (port.updateObject handle fun _ => after)
  | reports (port : InPort α) (stream : BufferedInputStream α)
      (found : port.objects[handle]? = some stream) (reached : stream.eosState = .reached) :
      StreamStep streamType handle port
        ((port.removeStream stream.streamID).updateObject handle
          fun stream => { stream with eosState := .reported })

def Reader.settle (handle : Nat) (reader : Reader α) : InPort α :=
  reader.port.updateObject handle fun _ => reader.stream

structure Reader.From (streamType : StreamType) (handle : Nat) (port : InPort α) (reader : Reader α) : Prop where
  steps : Relation.ReflTransGen (StreamStep streamType handle) port (reader.settle handle)
  bound : handle < reader.port.objects.length
  sound : reader.stream.Sound streamType

namespace Reader.From

variable {streamType : StreamType} {handle : Nat} {port : InPort α} {reader : Reader α}

section

variable (reads : reader.From streamType handle port)
include reads

theorem found : (reader.settle handle).objects[handle]? = some reader.stream := by
  simp [settle, InPort.updateObject, reads.bound]

theorem buffers {after : BufferedInputStream α} (buffers : reader.stream.Buffers streamType after) :
    From streamType handle port { reader with stream := after } := by
  refine ⟨reads.steps.tail ?_, reads.bound, buffers.sound⟩
  have step : StreamStep streamType _ _ _ := .buffers _ _ _ reads.found buffers
  rw [settle, InPort.updateObject_updateObject] at step
  exact step

theorem report : (reportIfEosReached reader).From streamType handle port := by
  simp only [reportIfEosReached]
  split
  · rename_i reached
    have ended : reader.stream.eosState = .reached := by simpa using reached
    have empty : reader.stream.queue = [] := by
      rcases reads.sound.ends with empty | behind
      · exact empty
      · simp [ended, EndsBehind] at behind
    refine ⟨reads.steps.tail ?_, ?_, ⟨reads.sound.plain, reads.sound.disabled, .inl empty⟩⟩
    · have step : StreamStep streamType _ _ _ := .reports _ _ reads.found ended
      rw [settle, InPort.removeStream_updateObject] at step
      exact step
    · have objects := InPort.removeStream_objects reader.stream.streamID reader.port
      rw [objects]
      have bound := reads.bound
      split <;> simp [bound]
  · exact reads

structure Fetched (before after : BufferedInputStream α) (packet : Packet α) : Prop where
  enabled : after.enabled = true
  unended : before.eosState = .none
  eosState : after.eosState = if packet.eos then .received else .none
  queue : after.queue = before.queue
  pending : after.pending = before.pending

theorem fetch (blocking : Bool) :
    (fetchPacket blocking reader).2.From streamType handle port ∧
      ∀ packet, (fetchPacket blocking reader).1 = .packet packet →
        Fetched reader.stream (fetchPacket blocking reader).2.stream packet := by
  rcases fetchPacket_cases blocking reader with
    ⟨fetch, same, never⟩ | ⟨packet, enabled, unended, taken, fetched⟩
  · rw [same]
    exact ⟨reads, fun packet got => absurd got (never packet)⟩
  · have step : StreamStep streamType _ _ _ := .fetches _ _ blocking packet reads.found
      enabled unended (by rw [settle, InPort.nextPacket_updateObject]; exact taken)
    rw [settle, InPort.nextPacket_updateObject, InPort.updateObject_updateObject] at step
    have bound := reads.bound
    rw [fetched]
    refine ⟨⟨reads.steps.tail step, ?_, reads.sound.handed unended _ _⟩, ?_⟩
    · rcases InPort.nextPacket_cases blocking reader.stream.streamID reader.port with
        ⟨_, same, _⟩ | ⟨_, _, next⟩
      · rw [same]
        exact bound
      · rw [next]
        exact bound
    · rintro _ ⟨⟩
      exact ⟨enabled, unended, rfl, rfl, rfl⟩

end

theorem plain : Closed (From (α := α) .plain handle port) where
  fetch blocking _ reads := (reads.fetch blocking).1
  reach _ reads := by
    simp only [reachIfReceived]
    split
    · rename_i received
      refine reads.buffers ⟨rfl, rfl, rfl, ⟨reads.sound.plain, reads.sound.disabled, ?_⟩, ?_⟩
      · exact .inl (reads.sound.plain rfl)
      · exact .inr ⟨by simpa using received, rfl⟩
    · exact reads
  report _ reads := reads.report
  describe _ _ _ reads := reads.buffers
    ⟨rfl, rfl, rfl, ⟨reads.sound.plain, reads.sound.disabled, reads.sound.ends⟩, .inl rfl⟩
  enable _ reads := reads.buffers
    ⟨rfl, rfl, rfl, ⟨reads.sound.plain, nofun, reads.sound.ends⟩, .inl rfl⟩

theorem fetchBuffered {reader : Reader α} (reads : reader.From .buffered handle port) (blocking : Bool) :
    (BufferedInputStream.fetchPacket blocking reader).2.From .buffered handle port := by
  simp only [BufferedInputStream.fetchPacket]
  split
  · exact reads
  · rename_i free
    have free : reader.stream.pending = none := by simpa using free
    obtain ⟨later, state⟩ := reads.fetch blocking
    rcases outcome : fetchPacket blocking reader with ⟨packet | _ | _, after⟩ <;>
      rw [outcome] at later state
    · have fetched := state packet rfl
      have clear : after.stream.queue = [] ∨ ∀ queued ∈ after.stream.queue, queued.eos = false := by
        have ends := reads.sound.ends
        rw [fetched.unended, free, Option.toList_none, append_nil] at ends
        rw [fetched.queue]
        exact ends
      have unfilled : after.stream.pending = none := fetched.pending.trans free
      dsimp only
      split
      · exact later.buffers (later.sound.queuePacket fetched.enabled clear unfilled fetched.eosState)
      · rename_i apart
        have queue : after.stream.queue ≠ [] := by
          intro empty
          simp [empty] at apart
        refine later.buffers ⟨rfl, rfl, rfl, ⟨by rintro ⟨⟩, later.sound.disabled, .inr ?_⟩, .inl rfl⟩
        have open' := clear.resolve_left queue
        have eosState : after.stream.eosState = if packet.eos then .received else .none :=
          fetched.eosState
        rw [eosState]
        cases eos : packet.eos with
        | true => simpa [EndsBehind] using open'
        | false =>
            intro queued member
            rcases mem_append.mp member with old | new
            · exact open' queued old
            · rw [mem_singleton.mp new, eos]
    · exact later
    · exact later

theorem buffered : BufferedInputStream.Closed (From (α := α) .buffered handle port) where
  fetch blocking _ reads := reads.fetchBuffered blocking
  take count _ _ _ reads queue := reads.buffers (reads.sound.takeBlock count queue)
  consume count _ reads := reads.buffers (reads.sound.consumeData count)
  report _ reads := reads.report
  enable _ reads := reads.buffers
    ⟨rfl, rfl, rfl, ⟨reads.sound.plain, nofun, reads.sound.ends⟩, .inl rfl⟩

end Reader.From

theorem InPort.callStream_steps (streamType : StreamType) {handle : Nat} {call : StreamCall}
    (enabled : call ≠ .disable) {port : InPort α} {stream : BufferedInputStream α}
    (found : port.objects[handle]? = some stream) (sound : stream.Sound streamType) :
    Relation.ReflTransGen (StreamStep streamType handle) port
      (port.callStream streamType handle call) := by
  have same : settle handle ⟨stream, port⟩ = port := by
    have kept : (port.objects.modify handle fun _ => stream) = port.objects := by
      refine ext_getElem? fun index => ?_
      by_cases here : handle = index
      · subst here
        simp [found]
      · simp [here]
    simp only [settle, updateObject, kept]
  have start : From streamType handle port ⟨stream, port⟩ :=
    ⟨by rw [same], (List.getElem?_eq_some_iff.mp found).choose, sound⟩
  simp only [callStream, found]
  cases streamType with
  | plain => exact (From.plain.call _ enabled start).steps
  | buffered => exact (From.buffered.call _ enabled start).steps

end Steps

end Redhawk.Bulkio
