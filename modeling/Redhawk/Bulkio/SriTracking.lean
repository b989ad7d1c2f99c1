import Redhawk.Bulkio.FlushStructure
import Redhawk.Bulkio.StreamViews

/-!
SRI changes in the input port. Along the packets of one stream, handed out, queued or waiting to
be queued, every packet is flagged or continues the SRI of the packet before it, and the SRI
table continues the last one.
-/

namespace Redhawk.Bulkio

open Library StreamView InPort List Option

variable {α : Type}

section Tracks

def sriMark (packet : Packet α) : Bool × StreamSRI := (packet.eos, packet.sri)

def lastMark (packets : List (Packet α)) : Option (Bool × StreamSRI) := packets.getLast?.map sriMark

def FollowsSri (previous : Option (Bool × StreamSRI)) (packet : Packet α) : Prop :=
  packet.sriChanged = true ∨ previous = some (false, packet.sri)

def TracksSri : Option (Bool × StreamSRI) → List (Packet α) → Prop
  | _, [] => True
  | previous, packet :: rest => FollowsSri previous packet ∧ TracksSri (some (sriMark packet)) rest

theorem lastMark_append (front back : List (Packet α)) :
    lastMark (front ++ back) = (lastMark back).or (lastMark front) := by
  cases last : back.getLast? <;> simp [lastMark, getLast?_append, last]

theorem lastMark_concat (front : List (Packet α)) (packet : Packet α) :
    lastMark (front ++ [packet]) = some (sriMark packet) := by
  simp [lastMark]

theorem tracksSri_append (previous : Option (Bool × StreamSRI)) (front back : List (Packet α)) :
    TracksSri previous (front ++ back) ↔
      TracksSri previous front ∧ TracksSri ((lastMark front).or previous) back := by
  induction front generalizing previous with
  | nil => simp [TracksSri, lastMark]
  | cons packet rest ih =>
      have last : (lastMark (packet :: rest)).or previous = (lastMark rest).or (some (sriMark packet)) := by
        cases found : rest.getLast? <;> simp [lastMark, getLast?_cons, found]
      simp [TracksSri, ih, last, and_assoc]

theorem followsSri_absorb {previous : Option (Bool × StreamSRI)} {packet active : Packet α}
    (first : FollowsSri previous packet) (second : FollowsSri (some (sriMark packet)) active) :
    FollowsSri previous (absorb packet active) := by
  have flag : (absorb packet active).sriChanged = (active.sriChanged || packet.sriChanged) := by
    simp only [absorb]
  rw [FollowsSri, flag, absorb_sri]
  rcases second with flagged | same
  · simp [flagged]
  · have sri : packet.sri = active.sri := congrArg Prod.snd (some.inj same)
    rcases first with flagged | before
    · simp [flagged]
    · exact .inr (by rw [before, sri])

theorem collapse_tracksSri (previous : Option (Bool × StreamSRI)) (packets : List (Packet α))
    (tracks : TracksSri previous packets) : TracksSri previous (collapse packets).lastPackets := by
  induction packets generalizing previous with
  | nil => trivial
  | cons packet rest ih =>
      have merged := ih _ tracks.2
      rw [collapse_cons]
      cases ends : packet.eos with
      | true =>
          rw [mergeFront_eos ends]
          exact ⟨tracks.1, merged⟩
      | false =>
          rcases kept : (collapse rest).lastPackets with _ | ⟨active, others⟩
          · rw [mergeFront_first packet kept]
            exact ⟨tracks.1, trivial⟩
          · rw [kept] at merged
            rw [mergeFront_absorb ends kept]
            refine ⟨followsSri_absorb tracks.1 merged.1, ?_⟩
            simpa [sriMark] using merged.2

variable (packets : List (Packet α))

theorem collapse_lastMark : lastMark (collapse packets).lastPackets = lastMark packets :=
  collapse_getLast sriMark (by simp [sriMark]) packets

theorem collapse_sri :
    ∀ packet ∈ (collapse packets).lastPackets, ∃ source ∈ packets, source.sri = packet.sri := by
  induction packets with
  | nil => simp
  | cons first rest ih =>
      rw [collapse_cons]
      have later : ∀ packet ∈ (collapse rest).lastPackets,
          ∃ source ∈ first :: rest, source.sri = packet.sri := fun packet member => by
        obtain ⟨source, found, same⟩ := ih packet member
        exact ⟨source, by simp [found], same⟩
      cases ends : first.eos with
      | true =>
          rw [mergeFront_eos ends]
          exact forall_mem_cons.mpr ⟨⟨first, by simp, rfl⟩, later⟩
      | false =>
          rcases kept : (collapse rest).lastPackets with _ | ⟨active, others⟩
          · rw [mergeFront_first first kept]
            simp
          · rw [kept] at later
            obtain ⟨here, others⟩ := forall_mem_cons.mp later
            rw [mergeFront_absorb ends kept]
            exact forall_mem_cons.mpr ⟨by simpa using here, others⟩

theorem collapse_any_sriChanged :
    (collapse packets).lastPackets.any Packet.sriChanged = packets.any Packet.sriChanged := by
  induction packets with
  | nil => rfl
  | cons packet rest ih =>
      rw [collapse_cons, any_cons, ← ih]
      cases ends : packet.eos with
      | true => rw [mergeFront_eos ends, any_cons]
      | false =>
          rcases kept : (collapse rest).lastPackets with _ | ⟨active, others⟩
          · rw [mergeFront_first packet kept]
            rfl
          · rw [mergeFront_absorb ends kept]
            have flag : (absorb packet active).sriChanged = (active.sriChanged || packet.sriChanged) := by
              simp only [absorb]
            simp only [any_cons, flag]
            cases active.sriChanged <;> cases packet.sriChanged <;> simp

end Tracks

section Room

/-- A flush puts the incoming packet in the place of unflagged packets of its stream instance,
although the table flags a new SRI for it. -/
def OverwritesChange (view : StreamView α) : Prop :=
  ∃ last sri, (openInstance view.queue).getLast? = some last ∧ view.entry = some (sri, true) ∧
    last.sri ≠ sri ∧ (openInstance view.queue).any Packet.sriChanged = false

theorem openInstance_saved {packets : List (Packet α)} {saved : Packet α} (nonempty : openInstance packets ≠ [])
    (merged : (collapse (openInstance packets)).lastPackets = [saved]) :
    ∃ last, (openInstance packets).getLast? = some last ∧ saved.sri = last.sri ∧
      saved.sriChanged = (openInstance packets).any Packet.sriChanged := by
  have flag := collapse_any_sriChanged (openInstance packets)
  have mark := collapse_lastMark (openInstance packets)
  rw [merged] at flag mark
  rw [lastMark, lastMark, getLast?_eq_some_getLast nonempty] at mark
  exact ⟨_, getLast?_eq_some_getLast nonempty, congrArg Prod.snd (some.inj mark), by simpa using flag⟩

theorem room_tracksSri {previous : Option (Bool × StreamSRI)} {queued : List (Packet α)}
    {packet packet' : Packet α} (tracks : TracksSri previous queued)
    (follows : FollowsSri ((lastMark queued).or previous) packet)
    (keeps : ∀ last, (openInstance queued).getLast? = some last → packet.sriChanged = true →
      last.sri = packet.sri ∨ (openInstance queued).any Packet.sriChanged = true)
    (sri : packet'.sri = packet.sri)
    (flag : packet'.sriChanged = (replaceOpen packet.sriChanged (collapse queued)).sriChanged) :
    TracksSri previous
      ((replaceOpen packet.sriChanged (collapse queued)).packetQueue ++ [packet']) := by
  have merged := collapse_tracksSri previous queued tracks
  rcases replaceOpen_cases packet.sriChanged queued with
    ⟨_, room⟩ | ⟨front, saved, nonempty, same, alone, continues, room⟩
  · rw [room] at flag ⊢
    rw [tracksSri_append, collapse_lastMark]
    refine ⟨merged, ?_, trivial⟩
    rw [FollowsSri, sri, flag]
    exact follows
  · obtain ⟨last, found, savedSri, savedFlag⟩ := openInstance_saved nonempty alone
    rw [same, tracksSri_append] at merged
    rw [room] at flag ⊢
    rw [tracksSri_append]
    refine ⟨merged.1, ?_, trivial⟩
    rw [FollowsSri, sri, flag]
    rcases merged.2.1 with flagged | before
    · exact .inl flagged
    · have mark : lastMark queued = some (false, saved.sri) := by
        rw [← collapse_lastMark, same, lastMark_concat, sriMark, continues]
      have sameSri : saved.sri = packet.sri ∨ saved.sriChanged = true := by
        rcases follows with changed | after
        · rw [savedFlag, savedSri]
          exact keeps last found changed
        · rw [mark] at after
          simp only [some_or, some.injEq, Prod.mk.injEq] at after
          exact .inl after.2
      rcases sameSri with equal | flagged
      · exact .inr (by rw [before, equal])
      · exact .inl flagged

end Room

section Port

def StreamView.traffic (view : StreamView α) : List (Packet α) :=
  view.delivered ++ view.queue ++ view.waiting

structure SriTracked (sriCmp : StreamSRI → StreamSRI → Bool) (view : StreamView α) : Prop where
  tracks : TracksSri none view.traffic
  unlisted : view.entry = none → ∀ mark, lastMark view.traffic = some mark → mark.1 = true
  listed : ∀ sri, view.entry = some (sri, false) →
    ∃ eos, lastMark view.traffic = some (eos, sri) ∧ (eos = false ∨ view.waiting ≠ [])
  single : view.waiting.length ≤ 1
  entryReflexive : ∀ sri sriChanged, view.entry = some (sri, sriChanged) → sriCmp sri sri = true
  reflexive : ∀ packet ∈ view.traffic, sriCmp packet.sri packet.sri = true

variable {sriCmp : StreamSRI → StreamSRI → Bool}

theorem SriTracked.fresh (streamID : String) (maxQueue : Nat) :
    SriTracked sriCmp ((InPort.fresh sriCmp maxQueue : InPort α).view streamID) where
  tracks := trivial
  unlisted _ mark found := by simp [StreamView.traffic, InPort.view, InPort.fresh, lastMark] at found
  listed _ found := by simp [InPort.view, InPort.fresh] at found
  single := Nat.zero_le _
  entryReflexive _ _ found := by simp [InPort.view, InPort.fresh] at found
  reflexive packet member := by simp [StreamView.traffic, InPort.view, InPort.fresh] at member

variable {view : StreamView α}

theorem SriTracked.handOut (tracked : SriTracked sriCmp view)
    {front back : List (Packet α)} (queue : view.queue = front ++ back) :
    SriTracked sriCmp (view.handOut front back) := by
  have same : (view.handOut front back).traffic = view.traffic := by
    simp [StreamView.traffic, StreamView.handOut, queue]
  exact ⟨by rw [same]; exact tracked.tracks, by rw [same]; exact tracked.unlisted,
    by rw [same]; exact tracked.listed, tracked.single, tracked.entryReflexive,
    by rw [same]; exact tracked.reflexive⟩

theorem SriTracked.merge (tracked : SriTracked sriCmp view) : SriTracked sriCmp view.merge := by
  have mark : lastMark view.merge.traffic = lastMark view.traffic := by
    simp only [StreamView.traffic, StreamView.merge, lastMark_append, collapse_lastMark]
  have tracks := tracked.tracks
  refine ⟨?_, by rw [mark]; exact tracked.unlisted, by rw [mark]; exact tracked.listed,
    tracked.single, tracked.entryReflexive, ?_⟩
  · simp only [StreamView.traffic, StreamView.merge, tracksSri_append, lastMark_append,
      collapse_lastMark] at tracks ⊢
    exact ⟨⟨tracks.1.1, collapse_tracksSri _ _ tracks.1.2⟩, tracks.2⟩
  · intro packet member
    simp only [StreamView.traffic, StreamView.merge, mem_append] at member
    rcases member with (delivered | queued) | waiting
    · exact tracked.reflexive packet (by simp [StreamView.traffic, delivered])
    · obtain ⟨source, found, same⟩ := collapse_sri view.queue packet queued
      rw [← same]
      exact tracked.reflexive source (by simp [StreamView.traffic, found])
    · exact tracked.reflexive packet (by simp [StreamView.traffic, waiting])

variable {streamID : String} {packet : Packet α}

theorem SriTracked.follows (tracked : SriTracked sriCmp view) (idle : view.waiting = [])
    (built : BuiltPacket streamID view packet) : FollowsSri (lastMark view.traffic) packet := by
  rcases built.entry with listed | ⟨_, _, flagged⟩
  · cases flag : packet.sriChanged with
    | true => exact .inl flag
    | false =>
        rw [flag] at listed
        obtain ⟨eos, mark, continues⟩ := tracked.listed _ listed
        have open' : eos = false := by simpa [idle] using continues
        exact .inr (by rw [mark, open'])
  · exact .inl flagged

theorem SriTracked.builtReflexive (tracked : SriTracked sriCmp view)
    (default : sriCmp (Sri.create streamID) (Sri.create streamID) = true)
    (built : BuiltPacket streamID view packet) : sriCmp packet.sri packet.sri = true := by
  rcases built.entry with listed | ⟨_, same, _⟩
  · exact tracked.entryReflexive _ _ listed
  · rw [same]
    exact default

theorem SriTracked.ofLast (front : List (Packet α)) (packet : Packet α)
    (traffic : view.traffic = front ++ [packet]) (tracks : TracksSri none (front ++ [packet]))
    (unlisted : view.entry = none → packet.eos = true)
    (listed : ∀ sri, view.entry = some (sri, false) → sri = packet.sri ∧ (packet.eos = false ∨ view.waiting ≠ []))
    (single : view.waiting.length ≤ 1)
    (entryReflexive : ∀ sri sriChanged, view.entry = some (sri, sriChanged) → sriCmp sri sri = true)
    (reflexive : ∀ packet ∈ view.traffic, sriCmp packet.sri packet.sri = true) :
    SriTracked sriCmp view := by
  have mark : lastMark view.traffic = some (sriMark packet) := by rw [traffic, lastMark_concat]
  refine ⟨by rw [traffic]; exact tracks, ?_, ?_, single, entryReflexive, reflexive⟩
  · intro absent found same
    rw [mark, some.injEq] at same
    rw [← same]
    exact unlisted absent
  · intro sri found
    obtain ⟨same, open'⟩ := listed sri found
    exact ⟨packet.eos, by rw [mark, same]; rfl, open'⟩

theorem SriTracked.waits (tracked : SriTracked sriCmp view) (idle : view.waiting = [])
    (default : sriCmp (Sri.create streamID) (Sri.create streamID) = true)
    (built : BuiltPacket streamID view packet) :
    SriTracked sriCmp { view.acknowledge packet with waiting := view.waiting ++ [packet] } := by
  have reflexive := tracked.builtReflexive default built
  refine .ofLast view.traffic packet ?_ ?_ (by simp [acknowledge])
    ?_ (by simp [idle]) ?_ ?_
  · simp [traffic, acknowledge]
  · rw [tracksSri_append]
    exact ⟨tracked.tracks, by simpa using tracked.follows idle built, trivial⟩
  · intro sri found
    simp only [acknowledge, some.injEq, Prod.mk.injEq, and_true] at found
    exact ⟨found.symm, .inr (by simp)⟩
  · intro sri sriChanged found
    simp only [acknowledge, some.injEq, Prod.mk.injEq] at found
    rw [← found.1]
    exact reflexive
  · intro other member
    simp only [traffic, acknowledge, mem_append, mem_singleton]
      at member
    rcases member with (delivered | queued) | waiting | rfl
    · exact tracked.reflexive other (by simp [traffic, delivered])
    · exact tracked.reflexive other (by simp [traffic, queued])
    · exact tracked.reflexive other (by simp [traffic, waiting])
    · exact reflexive

theorem SriTracked.enqueue {room : StreamView α} {packet' : Packet α} (tracked : SriTracked sriCmp view)
    (default : sriCmp (Sri.create streamID) (Sri.create streamID) = true)
    (built : BuiltPacket streamID view packet) (sri : packet'.sri = packet.sri)
    (entry : room.entry = some (packet.sri, false)) (waiting : room.waiting = [])
    (delivered : room.delivered = view.delivered)
    (sources : ∀ queued ∈ room.queue, ∃ source ∈ view.queue, source.sri = queued.sri)
    (tracks : TracksSri none (room.delivered ++ (room.queue ++ [packet']))) :
    SriTracked sriCmp (room.enqueue packet') := by
  have reflexive := tracked.builtReflexive default built
  refine .ofLast (room.delivered ++ room.queue) packet' ?_ ?_ ?_ ?_ ?_ ?_ ?_
  · simp [StreamView.traffic, StreamView.enqueue, waiting]
  · rw [append_assoc]
    exact tracks
  · simp only [StreamView.enqueue, entry]
    split <;> simp_all
  · intro listed found
    simp only [StreamView.enqueue, entry] at found
    split at found
    · simp at found
    · rename_i continues
      simp only [some.injEq, Prod.mk.injEq, and_true] at found
      exact ⟨by rw [← found, sri], .inl (by simpa using continues)⟩
  · simp [StreamView.enqueue, waiting]
  · intro listed sriChanged found
    simp only [StreamView.enqueue, entry] at found
    split at found
    · simp at found
    · simp only [some.injEq, Prod.mk.injEq] at found
      rw [← found.1]
      exact reflexive
  · intro other member
    simp only [StreamView.traffic, StreamView.enqueue, waiting, append_nil, delivered,
      mem_append, mem_singleton] at member
    rcases member with handed | queued | rfl
    · exact tracked.reflexive other (by simp [StreamView.traffic, handed])
    · obtain ⟨source, found, same⟩ := sources other queued
      rw [← same]
      exact tracked.reflexive source (by simp [StreamView.traffic, found])
    · rw [sri]
      exact reflexive

theorem SriTracked.resume {rest : List (Packet α)}
    (tracked : SriTracked sriCmp view) (waiting : view.waiting = packet :: rest) :
    SriTracked sriCmp ({ view with waiting := rest }.enqueue packet) := by
  have alone : rest = [] := by
    have single := tracked.single
    rw [waiting, length_cons] at single
    exact eq_nil_of_length_eq_zero (by omega)
  have same : ({ view with waiting := rest }.enqueue packet).traffic = view.traffic := by
    simp [StreamView.traffic, StreamView.enqueue, waiting]
  have traffic : view.traffic = (view.delivered ++ view.queue) ++ [packet] := by
    rw [StreamView.traffic, waiting, alone]
  have mark : lastMark view.traffic = some (sriMark packet) := by rw [traffic, lastMark_concat]
  have tracks := tracked.tracks
  rw [traffic] at tracks
  refine .ofLast (view.delivered ++ view.queue) packet (by rw [same, traffic]) tracks ?_ ?_ (by simp [StreamView.enqueue, alone]) ?_ ?_
  · simp only [StreamView.enqueue]
    split
    · rename_i ends
      exact fun _ => ends
    · intro absent
      exact tracked.unlisted absent _ mark
  · intro sri found
    simp only [StreamView.enqueue] at found
    split at found
    · simp at found
    · rename_i continues
      obtain ⟨eos, last, _⟩ := tracked.listed sri found
      rw [mark, sriMark, some.injEq, Prod.mk.injEq] at last
      exact ⟨last.2.symm, .inl (by simpa using continues)⟩
  · intro sri sriChanged found
    simp only [StreamView.enqueue] at found
    split at found
    · simp at found
    · exact tracked.entryReflexive sri sriChanged found
  · rw [same]
    exact tracked.reflexive

/-- The calls that lose no SRI change: the comparator finds the SRI equal to itself, pushes to one
stream do not overlap, and no flush overwrites a change. -/
def KeepsSriChange (sriCmp : StreamSRI → StreamSRI → Bool) (call : Call α) (port : InPort α) : Prop :=
  match call with
  | .pushSRI sri => sriCmp sri sri = true
  | .queuePacket data _ eos streamID =>
      sriCmp (Sri.create streamID) (Sri.create streamID) = true ∧ (port.view streamID).waiting = [] ∧
        (PushFlushes data eos port → ¬OverwritesChange (port.view streamID))
  | .stream _ call => call ≠ .disable
  | _ => True

theorem openInstance_getLast {packets : List (Packet α)} {last : Packet α}
    (found : (openInstance packets).getLast? = some last) :
    packets.getLast? = some last ∧ last.eos = false := by
  refine ⟨?_, openInstance_eos (mem_of_getLast? found)⟩
  rw [← endedInstances_append packets, getLast?_append, found]
  rfl

theorem SriTracked.flush (tracked : SriTracked sriCmp view) (idle : view.waiting = [])
    (default : sriCmp (Sri.create streamID) (Sri.create streamID) = true)
    (keeps : ¬OverwritesChange view) (built : BuiltPacket streamID view packet) :
    SriTracked sriCmp (((view.acknowledge packet).makeRoom packet.sriChanged).enqueue { packet with
      sriChanged := (replaceOpen packet.sriChanged (collapse view.queue)).sriChanged
      inputQueueFlushed :=
        (replaceOpen packet.sriChanged (collapse view.queue)).flushToReport }) := by
  have tracks := tracked.tracks
  have follows := tracked.follows idle built
  have traffic : view.traffic = view.delivered ++ view.queue := by
    rw [traffic, idle, append_nil]
  rw [traffic, tracksSri_append] at tracks
  rw [traffic, lastMark_append] at follows
  refine tracked.enqueue default built rfl rfl idle rfl ?_ ?_
  · intro queued member
    exact collapse_sri view.queue queued (replaceOpen_subset packet.sriChanged view.queue member)
  · rw [tracksSri_append]
    refine ⟨tracks.1, room_tracksSri tracks.2 (by
      rw [or_none]
      exact follows) ?_ rfl rfl⟩
    intro last found changed
    by_contra unlike
    rw [not_or, Bool.not_eq_true] at unlike
    refine keeps ⟨last, packet.sri, found, ?_, unlike.1, unlike.2⟩
    rcases built.entry with listed | ⟨absent, _, _⟩
    · rw [listed, changed]
    · -- without an entry the last packet ended its instance, so none is open
      obtain ⟨(atEnd : view.queue.getLast? = some last), continues⟩ := openInstance_getLast found
      have mark : lastMark view.traffic = some (sriMark last) := by
        rw [traffic, lastMark_append]
        simp [lastMark, atEnd]
      have ended : last.eos = true := tracked.unlisted absent _ mark
      simp [continues] at ended

theorem SriTracked.step {streamID : String} {port : InPort α} {call : Call α} {later : StreamView α}
    (tracked : SriTracked sriCmp (port.view streamID)) (keeps : KeepsSriChange sriCmp call port)
    (effect : Effect streamID port call later) : SriTracked sriCmp later := by
  cases effect with
  | unchanged _ clock _ =>
      exact ⟨tracked.tracks, tracked.unlisted, tracked.listed, tracked.single,
        tracked.entryReflexive, tracked.reflexive⟩
  | discarded =>
      exact ⟨tracked.tracks, tracked.unlisted, tracked.listed, tracked.single,
        tracked.entryReflexive, tracked.reflexive⟩
  | fetched _ front back queue => exact tracked.handOut queue
  | listed sri clock _ _ =>
      refine ⟨tracked.tracks, by simp, by simp, tracked.single, ?_, tracked.reflexive⟩
      intro other sriChanged found
      simp only [some.injEq, Prod.mk.injEq] at found
      rw [← found.1]
      exact keeps
  | merged =>
      have merged := tracked.merge
      exact ⟨merged.tracks, merged.unlisted, merged.listed, merged.single, merged.entryReflexive,
        merged.reflexive⟩
  | waits packet built _ => exact tracked.waits keeps.2.1 keeps.1 built
  | enqueued packet built =>
      refine tracked.enqueue keeps.1 built rfl rfl keeps.2.1 rfl (fun queued member =>
        ⟨queued, member, rfl⟩) ?_
      have tracks := tracked.tracks
      have follows := tracked.follows keeps.2.1 built
      rw [traffic, keeps.2.1, append_nil] at tracks follows
      rw [← append_assoc]
      refine (tracksSri_append ..).mpr ⟨tracks, ?_, trivial⟩
      rw [or_none]
      exact follows
  | flushed packet built flushes => exact tracked.flush keeps.2.1 keeps.1 (keeps.2.2 flushes) built
  | resumed packet rest waiting => exact tracked.resume waiting

end Port

section Runs

def startsOrChanges (sriCmp : StreamSRI → StreamSRI → Bool) (before : List (Packet α))
    (packet : Packet α) : Bool :=
  match before.getLast? with
  | none => true
  | some last => last.eos || !sriCmp packet.sri last.sri

theorem tracksSri_reported {sriCmp : StreamSRI → StreamSRI → Bool} {before after : List (Packet α)}
    {packet : Packet α} (tracks : TracksSri none (before ++ packet :: after))
    (reflexive : sriCmp packet.sri packet.sri = true)
    (changes : startsOrChanges sriCmp before packet = true) : packet.sriChanged = true := by
  rcases ((tracksSri_append ..).mp tracks).2.1 with flagged | follows
  · exact flagged
  · rw [or_none, lastMark] at follows
    obtain ⟨last, found, mark⟩ := map_eq_some_iff.mp follows
    obtain ⟨continues, same⟩ := Prod.mk.inj mark
    simp [startsOrChanges, found, continues, same, reflexive] at changes

def ReportsSriChanges (sriCmp : StreamSRI → StreamSRI → Bool) (delivered : List (Packet α)) : Prop :=
  ∀ before after packet, delivered = before ++ packet :: after →
    startsOrChanges sriCmp before packet = true → packet.sriChanged = true

end Runs

end Redhawk.Bulkio
