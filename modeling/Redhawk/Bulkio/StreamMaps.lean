import Redhawk.Bulkio.StreamSteps

/-!
The stream maps of the input port. The streams of one ID form a line: the active one and behind it
the pending ones, in the order in which they were created. A stream joins the line at the back and
leaves it from the front.
-/

namespace Redhawk.Bulkio

open List

variable {α : Type}

namespace InPort

section Line

def handles (streamID : String) (port : InPort α) : List Nat :=
  (port.streams.lookup streamID).toList ++
    (port.pendingStreams.filter fun entry => entry.1 == streamID).map Prod.snd

structure StreamMaps (streamType : StreamType) (port : InPort α) : Prop where
  listed : ∀ streamID, ∀ handle ∈ port.handles streamID,
    ∃ stream, port.objects[handle]? = some stream ∧ stream.streamID = streamID ∧ stream.eosState ≠ .reported
  ordered : ∀ streamID, (port.handles streamID).Pairwise (· < ·)
  headed : ∀ streamID, port.streams.lookup streamID = (port.handles streamID).head?
  mapped : ∀ handle stream, port.objects[handle]? = some stream → stream.eosState ≠ .reported →
    handle ∈ port.handles stream.streamID
  sound : ∀ stream ∈ port.objects, stream.Sound streamType

variable {streamType : StreamType}

theorem StreamMaps.fresh (sriCmp : StreamSRI → StreamSRI → Bool) (maxQueue : Nat) :
    StreamMaps streamType (InPort.fresh sriCmp maxQueue : InPort α) where
  listed _ _ member := by simp [handles, InPort.fresh] at member
  ordered _ := by simp [handles, InPort.fresh]
  headed _ := rfl
  mapped _ _ found := by simp [InPort.fresh] at found
  sound _ member := by simp [InPort.fresh] at member

variable {port : InPort α}

theorem StreamMaps.of_same {later : InPort α} (maps : StreamMaps streamType port)
    (objects : later.objects = port.objects) (streams : later.streams = port.streams)
    (pendingStreams : later.pendingStreams = port.pendingStreams) :
    StreamMaps streamType later := by
  have same : ∀ streamID, later.handles streamID = port.handles streamID := by
    intro streamID
    simp only [handles, streams, pendingStreams]
  refine ⟨?_, ?_, ?_, ?_, ?_⟩
  · simpa only [same, objects] using maps.listed
  · simpa only [same] using maps.ordered
  · simpa only [same, streams] using maps.headed
  · simpa only [same, objects] using maps.mapped
  · simpa only [objects] using maps.sound

theorem createStream_handles (maps : StreamMaps streamType port)
    (streamID : String) (sri : StreamSRI) (other : String) :
    (port.createStream streamID sri).handles other =
        port.handles other ++ (if other = streamID then [port.objects.length] else []) ∧
      (port.createStream streamID sri).streams.lookup other =
        ((port.createStream streamID sri).handles other).head? := by
  have headed := maps.headed other
  by_cases same : other = streamID
  · subst same
    cases found : port.streams.lookup other with
    | none =>
        rw [found, eq_comm, head?_eq_none_iff] at headed
        have alone : (port.pendingStreams.filter fun entry => entry.1 == other) = [] := by
          simpa [handles, found] using headed
        simp [createStream, tick, handles, found, alone]
    | some current => simp [createStream, tick, handles, found]
  · have apart : ¬streamID = other := fun equal => same equal.symm
    have streams : (port.createStream streamID sri).streams.lookup other = port.streams.lookup other := by
      simp only [createStream, tick]
      split
      · exact AList.lookup_insert_ne same
      · rfl
    have pendingStreams : ((port.createStream streamID sri).pendingStreams.filter
        fun entry => entry.1 == other) = port.pendingStreams.filter fun entry => entry.1 == other := by
      simp only [createStream, tick]
      split
      · rfl
      · simp [apart]
    have handles : (port.createStream streamID sri).handles other = port.handles other := by
      rw [handles, handles, streams, pendingStreams]
    rw [handles, streams, if_neg same, append_nil]
    exact ⟨rfl, headed⟩

variable {streamID : String}

theorem StreamMaps.createStream (maps : StreamMaps streamType port)
    {sri : StreamSRI} (named : sri.streamID = streamID) :
    StreamMaps streamType (port.createStream streamID sri) := by
  subst named
  have objects := createStream_objects sri.streamID sri port
  have handles := fun other => (createStream_handles maps sri.streamID sri other).1
  have bound : ∀ streamID, ∀ handle ∈ port.handles streamID, handle < port.objects.length := by
    intro streamID handle member
    obtain ⟨stream, found, _, _⟩ := maps.listed streamID handle member
    exact (List.getElem?_eq_some_iff.mp found).choose
  refine ⟨?_, ?_, fun other => (createStream_handles maps sri.streamID sri other).2, ?_, ?_⟩
  · intro streamID handle member
    rw [handles, mem_append] at member
    rw [objects]
    rcases member with old | new
    · obtain ⟨stream, found, named⟩ := maps.listed streamID handle old
      exact ⟨stream, by rw [getElem?_append_left (bound _ _ old), found], named⟩
    · split at new
      · rename_i same
        rw [mem_singleton.mp new]
        exact ⟨_, getElem?_concat_length, same.symm, nofun⟩
      · simp at new
  · intro streamID
    rw [handles, pairwise_append]
    refine ⟨maps.ordered streamID, by split <;> simp, ?_⟩
    intro handle old later new
    split at new
    · rw [mem_singleton.mp new]
      exact bound _ _ old
    · simp at new
  · intro handle stream found open'
    rw [objects] at found
    rw [handles, mem_append]
    by_cases old : handle < port.objects.length
    · rw [getElem?_append_left old] at found
      exact .inl (maps.mapped handle stream found open')
    · rw [getElem?_append_right (by omega)] at found
      obtain ⟨index, same⟩ := List.getElem?_eq_some_iff.mp found
      have last : handle = port.objects.length := by
        simp only [length_singleton] at index
        omega
      subst last
      right
      rw [← same]
      simp
  · intro stream member
    rw [objects] at member
    rcases mem_append.mp member with old | new
    · exact maps.sound stream old
    · rw [mem_singleton.mp new]
      exact ⟨fun _ => rfl, nofun, .inl rfl⟩

theorem pendingStreams_first {entries : List (String × Nat)}
    {next : String × Nat} (found : entries.find? (fun entry => entry.1 == streamID) = some next) :
    (entries.filter fun entry => entry.1 == streamID) =
      next :: (entries.eraseP fun entry => entry.1 == streamID).filter
        fun entry => entry.1 == streamID := by
  induction entries with
  | nil => simp at found
  | cons first rest ih =>
      by_cases same : first.1 = streamID
      · have here : first = next := by simpa [same] using found
        subst here
        simp [same]
      · have later : rest.find? (fun entry => entry.1 == streamID) = some next := by
          simpa [same] using found
        simp [same, ih later]

theorem pendingStreams_other {entries : List (String × Nat)} {other : String} (apart : other ≠ streamID) :
    ((entries.eraseP fun entry => entry.1 == streamID).filter fun entry => entry.1 == other) =
      entries.filter fun entry => entry.1 == other := by
  induction entries with
  | nil => rfl
  | cons first rest ih =>
      by_cases same : first.1 = streamID
      · have outside : ¬streamID = other := fun equal => apart equal.symm
        simp [same, outside]
      · simp [same, filter_cons, ih]

theorem removeStream_handles (maps : StreamMaps streamType port) (streamID other : String) :
    (port.removeStream streamID).handles other =
        (if other = streamID then (port.handles streamID).tail else port.handles other) ∧
      (port.removeStream streamID).streams.lookup other = ((port.removeStream streamID).handles other).head? := by
  have headed := maps.headed other
  cases found : port.streams.lookup streamID with
  | none =>
      have first := maps.headed streamID
      rw [found, eq_comm, head?_eq_none_iff] at first
      have unpended : (port.pendingStreams.filter fun entry => entry.1 == streamID) = [] := by
        simpa [handles, found] using first
      have absent : port.pendingStreams.find? (fun entry => entry.1 == streamID) = none :=
        find?_eq_none.mpr (filter_eq_nil_iff.mp unpended)
      have kept : port.removeStream streamID = port := by
        simp only [removeStream, found, absent]
      rw [kept, first]
      refine ⟨?_, headed⟩
      split
      · rename_i same
        rw [same, first]
        rfl
      · rfl
  | some current =>
      by_cases same : other = streamID
      · subst same
        cases next : port.pendingStreams.find? fun entry => entry.1 == other with
        | none =>
            have unpended : (port.pendingStreams.filter fun entry => entry.1 == other) = [] :=
              filter_eq_nil_iff.mpr (find?_eq_none.mp next)
            simp [removeStream, closeStream, updateObject, found, next, handles, unpended]
        | some entry =>
            have line := pendingStreams_first next
            simp [removeStream, closeStream, updateObject, found, next, handles, line]
      · have streams : (port.removeStream streamID).streams.lookup other = port.streams.lookup other := by
          simp only [removeStream, closeStream, updateObject, found]
          split
          · exact (AList.lookup_insert_ne same).trans (AList.lookup_erase_ne same)
          · exact AList.lookup_erase_ne same
        have pendingStreams : ((port.removeStream streamID).pendingStreams.filter fun entry => entry.1 == other) =
            port.pendingStreams.filter fun entry => entry.1 == other := by
          simp only [removeStream, closeStream, updateObject, found]
          split
          · exact pendingStreams_other same
          · rfl
        have handles : (port.removeStream streamID).handles other = port.handles other := by
          rw [handles, handles, streams, pendingStreams]
        rw [handles, streams, if_neg same]
        exact ⟨rfl, headed⟩

theorem getElem?_modify_some {objects : List (BufferedInputStream α)} {handle index : Nat}
    {update : BufferedInputStream α → BufferedInputStream α} {stream : BufferedInputStream α}
    (found : (objects.modify handle update)[index]? = some stream) :
    ∃ before, objects[index]? = some before ∧
      ((index = handle ∧ stream = update before) ∨ (index ≠ handle ∧ stream = before)) := by
  rw [getElem?_modify] at found
  obtain ⟨before, old, same⟩ := Option.map_eq_some_iff.mp found
  refine ⟨before, old, ?_⟩
  split at same
  · rename_i here
    exact .inl ⟨here.symm, same.symm⟩
  · rename_i there
    exact .inr ⟨fun here => there here.symm, same.symm⟩

theorem StreamMaps.updateObject (maps : StreamMaps streamType port) {handle : Nat}
    {update : BufferedInputStream α → BufferedInputStream α}
    (kept : ∀ stream, port.objects[handle]? = some stream →
      (update stream).streamID = stream.streamID ∧ (update stream).Sound streamType ∧
        ((update stream).eosState ≠ .reported ↔ stream.eosState ≠ .reported)) :
    StreamMaps streamType (port.updateObject handle update) := by
  refine ⟨?_, maps.ordered, maps.headed, ?_, ?_⟩
  · intro streamID index member
    obtain ⟨stream, found, named, open'⟩ := maps.listed streamID index member
    by_cases here : index = handle
    · subst here
      obtain ⟨same, _, unreported⟩ := kept stream found
      exact ⟨update stream, by simp [InPort.updateObject, found], same.trans named,
        unreported.mpr open'⟩
    · exact ⟨stream, by simp [InPort.updateObject, Ne.symm here, found], named, open'⟩
  · intro index stream found open'
    obtain ⟨before, old, ⟨rfl, rfl⟩ | ⟨_, rfl⟩⟩ := getElem?_modify_some found
    · have member := maps.mapped index before old ((kept before old).2.2.mp open')
      rw [(kept before old).1]
      exact member
    · exact maps.mapped index stream old open'
  · intro stream member
    obtain ⟨index, found⟩ := mem_iff_getElem?.mp member
    obtain ⟨before, old, ⟨rfl, rfl⟩ | ⟨_, rfl⟩⟩ := getElem?_modify_some found
    · exact (kept before old).2.1
    · exact maps.sound stream (mem_of_getElem? old)

/-- The active stream of an ID can be closed unless it still buffers the end it was handed. -/
def Closes (streamID : String) (port : InPort α) : Prop :=
  ∀ handle stream, port.streams.lookup streamID = some handle → port.objects[handle]? = some stream →
    stream.queue = [] ∨ stream.eosState = .none

theorem StreamMaps.removeStream (maps : StreamMaps streamType port)
    (closes : port.Closes streamID) : StreamMaps streamType (port.removeStream streamID) := by
  have objects := removeStream_objects streamID port
  have handles := fun other => (removeStream_handles maps streamID other).1
  have subset : ∀ other, ∀ handle ∈ (port.removeStream streamID).handles other, handle ∈ port.handles other := by
    intro other handle member
    rw [handles] at member
    split at member
    · rename_i same
      rw [same]
      exact mem_of_mem_tail member
    · exact member
  cases found : port.streams.lookup streamID with
  | none =>
      simp only [found] at objects
      have empty : port.handles streamID = [] := by
        have headed := maps.headed streamID
        rw [found, eq_comm, head?_eq_none_iff] at headed
        exact headed
      have same : ∀ other, (port.removeStream streamID).handles other = port.handles other := by
        intro other
        rw [handles]
        split
        · rename_i same
          rw [same, empty]
          rfl
        · rfl
      refine ⟨?_, ?_, fun other => (removeStream_handles maps streamID other).2, ?_, ?_⟩
      · simpa only [same, objects] using maps.listed
      · simpa only [same] using maps.ordered
      · simpa only [same, objects] using maps.mapped
      · simpa only [objects] using maps.sound
  | some current =>
      simp only [found] at objects
      have line : port.handles streamID = current :: (port.handles streamID).tail := by
        have headed := maps.headed streamID
        rw [found] at headed
        exact (cons_head?_tail headed.symm).symm
      refine ⟨?_, ?_, fun other => (removeStream_handles maps streamID other).2, ?_, ?_⟩
      · intro other handle member
        obtain ⟨stream, old, named, open'⟩ := maps.listed other handle (subset other handle member)
        have apart : current ≠ handle := by
          rintro rfl
          obtain ⟨owner, here, owned, _⟩ := maps.listed streamID current (by rw [line]; simp)
          obtain rfl : stream = owner := Option.some.inj (old.symm.trans here)
          have ordered := maps.ordered streamID
          rw [handles, if_pos (named.symm.trans owned)] at member
          rw [line, pairwise_cons] at ordered
          exact absurd (ordered.1 current member) (Nat.lt_irrefl _)
        refine ⟨stream, ?_, named, open'⟩
        rw [objects, getElem?_modify, old]
        simp [apart]
      · intro other
        rw [handles]
        split
        · exact (maps.ordered streamID).sublist (tail_sublist _)
        · exact maps.ordered other
      · intro handle stream later open'
        rw [objects] at later
        obtain ⟨before, old, ⟨rfl, rfl⟩ | ⟨apart, rfl⟩⟩ := getElem?_modify_some later
        · simp at open'
        · have member := maps.mapped handle stream old open'
          rw [handles]
          split
          · rename_i same
            rw [same, line] at member
            exact (mem_cons.mp member).resolve_left apart
          · exact member
      · intro stream member
        rw [objects] at member
        obtain ⟨index, later⟩ := mem_iff_getElem?.mp member
        obtain ⟨before, old, ⟨rfl, rfl⟩ | ⟨_, rfl⟩⟩ := getElem?_modify_some later
        · have sound := maps.sound before (mem_of_getElem? old)
          refine ⟨sound.plain, sound.disabled, ?_⟩
          rcases closes _ before found old with empty | open'
          · exact .inl empty
          · have ends := sound.ends
            rw [open'] at ends
            exact ends
        · exact maps.sound stream (mem_of_getElem? old)

end Line

section Unfinished

def unfinishedBirth (objects : List (BufferedInputStream α)) (handle : Nat) : Option Nat :=
  objects[handle]?.bind fun stream => if stream.eosState = .none then some stream.born else none

def unfinished (streamID : String) (port : InPort α) : List Nat :=
  (port.handles streamID).filterMap (unfinishedBirth port.objects)

variable {streamType : StreamType} {port : InPort α}

theorem unfinished_of_same {later : InPort α} (objects : later.objects = port.objects)
    (streams : later.streams = port.streams)
    (pendingStreams : later.pendingStreams = port.pendingStreams) (streamID : String) :
    later.unfinished streamID = port.unfinished streamID := by
  simp only [unfinished, handles, objects, streams, pendingStreams]

theorem createStream_unfinished (maps : StreamMaps streamType port)
    (streamID : String) (sri : StreamSRI) (other : String) :
    (port.createStream streamID sri).unfinished other =
      port.unfinished other ++ (if other = streamID then [port.history.clock] else []) := by
  have objects := createStream_objects streamID sri port
  simp only [unfinished, (createStream_handles maps streamID sri other).1, objects, filterMap_append]
  congr 1
  · refine filterMap_congr fun handle member => ?_
    obtain ⟨stream, found, _, _⟩ := maps.listed other handle member
    obtain ⟨bound, _⟩ := List.getElem?_eq_some_iff.mp found
    simp only [unfinishedBirth, getElem?_append_left bound]
  · split
    · simp [unfinishedBirth]
    · rfl

variable {handle : Nat}

theorem unfinishedBirth_modify {objects : List (BufferedInputStream α)} {index : Nat}
    (apart : index ≠ handle) (update : BufferedInputStream α → BufferedInputStream α) :
    unfinishedBirth (objects.modify handle update) index = unfinishedBirth objects index := by
  simp [unfinishedBirth, Ne.symm apart]

variable {streamID : String}

theorem updateObject_unfinished {update : BufferedInputStream α → BufferedInputStream α}
    (kept : ∀ stream, port.objects[handle]? = some stream → handle ∈ port.handles streamID →
      (update stream).born = stream.born ∧ ((update stream).eosState = .none ↔ stream.eosState = .none)) :
    (port.updateObject handle update).unfinished streamID = port.unfinished streamID := by
  refine filterMap_congr fun index member => ?_
  by_cases here : index = handle
  · subst here
    cases found : port.objects[index]? with
    | none => simp [unfinishedBirth, InPort.updateObject, found]
    | some stream =>
        obtain ⟨born, state⟩ := kept stream found member
        simp [unfinishedBirth, InPort.updateObject, found, born, state]
  · exact unfinishedBirth_modify here update

def behindActive (streamID : String) (port : InPort α) : List Nat :=
  (port.handles streamID).tail.filterMap (unfinishedBirth port.objects)

theorem unfinished_active {stream : BufferedInputStream α} (active : (port.handles streamID).head? = some handle)
    (found : port.objects[handle]? = some stream) :
    port.unfinished streamID = (if stream.eosState = .none then [stream.born] else []) ++
      port.behindActive streamID := by
  rw [unfinished, behindActive, ← cons_head?_tail active, tail_cons, filterMap_cons]
  have birth : unfinishedBirth port.objects handle =
      if stream.eosState = .none then some stream.born else none := by
    simp [unfinishedBirth, found]
  split <;> simp_all

theorem behindActive_modify (maps : StreamMaps streamType port)
    (active : (port.handles streamID).head? = some handle)
    (update : BufferedInputStream α → BufferedInputStream α) :
    (port.handles streamID).tail.filterMap
        (unfinishedBirth (port.objects.modify handle update)) = port.behindActive streamID := by
  have ordered := maps.ordered streamID
  rw [← cons_head?_tail active, pairwise_cons] at ordered
  refine filterMap_congr fun index member => unfinishedBirth_modify ?_ update
  have later := ordered.1 index member
  omega

theorem updateObject_unfinished_active (maps : StreamMaps streamType port)
    {stream : BufferedInputStream α} (active : (port.handles streamID).head? = some handle)
    (found : port.objects[handle]? = some stream)
    (update : BufferedInputStream α → BufferedInputStream α) :
    (port.updateObject handle update).unfinished streamID =
      (if (update stream).eosState = .none then [(update stream).born] else []) ++
        port.behindActive streamID := by
  have later : (port.updateObject handle update).objects[handle]? = some (update stream) := by
    simp [InPort.updateObject, found]
  have front : ((port.updateObject handle update).handles streamID).head? = some handle := active
  rw [unfinished_active front later]
  exact congrArg _ (behindActive_modify maps active update)

theorem removeStream_unfinished (maps : StreamMaps streamType port) (streamID other : String) :
    (port.removeStream streamID).unfinished other =
      if other = streamID then port.behindActive streamID else port.unfinished other := by
  have objects := removeStream_objects streamID port
  have headed := maps.headed streamID
  rw [unfinished, (removeStream_handles maps streamID other).1]
  cases found : port.streams.lookup streamID with
  | none =>
      simp only [found] at objects
      rw [objects]
      split <;> rfl
  | some current =>
      simp only [found] at objects
      rw [found] at headed
      rw [objects]
      split
      · exact behindActive_modify maps headed.symm _
      · rename_i apart
        refine filterMap_congr fun index member => unfinishedBirth_modify ?_ _
        rintro rfl
        obtain ⟨stream, here, named, _⟩ := maps.listed other index member
        obtain ⟨same, there, owner, _⟩ := maps.listed streamID index
          (mem_of_mem_head? headed.symm)
        rw [here, Option.some.injEq] at there
        exact apart (by rw [← named, there, owner])

theorem unfinished_length (streamID : String) (port : InPort α) :
    (port.unfinished streamID).length ≤ 1 + port.pendingStreams.countP fun entry => entry.1 == streamID := by
  have short : (port.unfinished streamID).length ≤ (port.handles streamID).length :=
    length_filterMap_le _ _
  have active : (port.streams.lookup streamID).toList.length ≤ 1 := by
    cases port.streams.lookup streamID <;> simp
  rw [handles, length_append, length_map, ← countP_eq_length_filter] at short
  omega

end Unfinished

end InPort

end Redhawk.Bulkio
