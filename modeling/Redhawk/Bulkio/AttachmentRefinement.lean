import Mathlib.Data.List.Dedup
import Redhawk.Bulkio.AttachmentFollows

/-!
The C++ and the Python `OutAttachablePort` follow their routing, operation by operation, and so they
hold the same attachments after the same operations.
-/

namespace Redhawk.Bulkio.Attachable

open Library Library.Code Routing OutAttachablePort List Prod

variable {α Time : Type} {name : String} {routing : Routing}
  {answer : Nat → RemoteCall α Time → Option Reply}

section Cpp

def OutAttachablePort.view (port : OutAttachablePort Time) : PortView :=
  ⟨port.name, port.connections, port.filterTable, port.streamContainer⟩

def Ready (name : String) (routing : Routing)
    (world : Guarded (OutAttachablePort Time) (RemoteCall α Time) Reply) : Prop :=
  world.locked = false ∧ Follows name routing world.data.view world.calls

variable {world : Guarded (OutAttachablePort Time) (RemoteCall α Time) Reply}

theorem synchronized_follows {β : Type} {code : AttachableCode α Time β}
    (free : world.locked = false) (inside : code.Yields { world with locked := true } fun _ after =>
      after.locked = true ∧ Follows name routing after.data.view after.calls) :
    (synchronized code).Yields world fun _ after => Ready name routing after :=
  .synchronized free (inside.mono fun _ _ told => ⟨told.1, rfl, told.2⟩)

theorem yields_onContainer {β : Type} {code : ContainerCode α Time β} {after : List Row}
    (gives : Gives code ⟨world.locked, world.data.streamContainer, world.calls⟩ after) :
    (onContainer code).Yields world fun _ last => ∃ streams,
      last.data = { world.data with streamContainer := streams } ∧ rows streams = after ∧
        Accounts (attachments streams) last.calls ∧ last.locked = world.locked :=
  yields_within.mpr (gives.mono fun _ last told =>
    ⟨last.data, rfl, told.1, told.2.1, told.2.2.1⟩)

theorem view_insertConnection (streamId connectionId : String) (port : OutAttachablePort Time) :
    (port.insertConnection streamId connectionId).view = port.view := by
  unfold insertConnection
  split <;> rfl

theorem undisturbs_sendSRI (succeeds : Succeeds answer) (object : Nat)
    (connectionId streamId : String) (sri : StreamSRI) (time : Time) :
    Undisturbs view (sendSRI answer object connectionId streamId sri time) := by
  have quiet : (RemoteCall.pushSRI object sri (some time) : RemoteCall α Time).Quiet := trivial
  exact ((undisturbs_remote succeeds quiet).bind fun _ =>
    undisturbs_change (view_insertConnection _ _)).tryExcept

theorem undisturbs_updateSRIForAllConnections (succeeds : Succeeds answer) :
    Undisturbs view
      (updateSRIForAllConnections answer : AttachableCode α Time Unit) := by
  refine undisturbs_look fun port => .forEach fun stream => undisturbs_look fun port => ?_
  split
  · exact undisturbs_pure ()
  · refine .forEach fun connId => .ite (fun _ => undisturbs_pure ()) fun _ => ?_
    split
    · exact undisturbs_pure ()
    · exact undisturbs_sendSRI succeeds _ _ _ _ _

theorem follows_undisturbed {before after : Guarded (OutAttachablePort Time) (RemoteCall α Time) Reply}
    (follows : Follows name routing before.data.view before.calls)
    (same : Undisturbed view before after) :
    Follows name routing after.data.view after.calls :=
  same.view ▸ follows.quiet same.accounts

section

variable (succeeds : Succeeds answer) (ready : Ready name routing world)
include succeeds ready

theorem connectPort_follows {object : Nat} {connectionId : String}
    (fresh : connectionId ∉ routing.connections.map fst) :
    (connectPort answer object connectionId).Yields world fun _ after =>
      Ready name (routing.step (.connectPort object connectionId : AttachableCall Time)) after := by
  obtain ⟨free, follows⟩ := ready
  obtain ⟨reply, answers⟩ := Option.isSome_iff_exists.mp
    (succeeds.returns world.calls.length (.narrow object))
  refine synchronized_follows free (yields_bind.mpr (yields_remote answers ?_))
  have quiet : (RemoteCall.narrow object : RemoteCall α Time).Quiet := trivial
  have accounts : Accounts (attachments world.data.streamContainer)
      (world.calls ++ [(.narrow object, some reply)]) := follows.accounts.quiet quiet (some reply)
  refine yields_bind.mpr (yields_look.mpr (yields_bind.mpr ((yields_onContainer
    (does_connectStreams succeeds _ connectionId object _ (by exact accounts))).mono ?_)))
  rintro _ middle ⟨streams, data, rowsAre, streamAccounts, lock⟩
  refine yields_bind.mpr (yields_change.mpr
    ((undisturbs_updateSRIForAllConnections succeeds _).mono fun _ last same => ?_))
  refine ⟨same.lock.trans lock, follows_undisturbed ?_ same⟩
  have grown : ∀ pair, pair ∈ world.data.connections ++ [(connectionId, object)] ↔
      pair ∈ world.data.connections ∨ pair = (connectionId, object) := by simp
  have distinct : ((world.data.connections ++ [(connectionId, object)]).map fst).Nodup := by
    have absent : connectionId ∉ world.data.connections.map fst := follows.fresh fresh
    rw [map_append, map_singleton, nodup_append]
    refine ⟨follows.distinct, by simp, fun id old other new same => absent ?_⟩
    rw [mem_singleton] at new
    exact (same.trans new : id = connectionId) ▸ old
  have connected := follows.connect fresh rowsAre streamAccounts grown distinct
  simpa [OutAttachablePort.view, OutAttachablePort.connections, data] using connected

theorem disconnectPort_follows
    (connectionId : String) : (disconnectPort answer connectionId).Yields world fun _ after =>
      Ready name (routing.step (.disconnectPort connectionId : AttachableCall Time)) after := by
  obtain ⟨free, follows⟩ := ready
  have detaches := does_forEachStream fun index =>
    does_detachByConnectionId succeeds .cpp connectionId index
  refine synchronized_follows free (yields_bind.mpr
    ((yields_onContainer (detaches _ (by exact follows.accounts))).tryExcept.mono ?_))
  rintro _ middle ⟨streams, data, rowsAre, accounts, lock⟩
  refine yields_change.mpr ⟨lock, ?_⟩
  rw [data]
  let left := world.data.outConnections.eraseP fun connection => connection.2 == connectionId
  have kept : left.map Prod.swap = world.data.connections.eraseP fun pair =>
      pair.1 == connectionId := by
    simp only [left, OutAttachablePort.connections, eraseP_map]
    rfl
  have shrunk : ∀ pair, pair ∈ left.map Prod.swap ↔
      pair ∈ world.data.connections ∧ pair.1 ≠ connectionId := fun pair => by
    have filtered := eraseP_key follows.distinct connectionId
    rw [kept, show world.data.connections.eraseP _ = _ from filtered, mem_filter]
    simp [OutAttachablePort.view]
  have distinct : ((left.map Prod.swap).map fst).Nodup := by
    rw [kept]
    exact Nodup.sublist (eraseP_sublist.map fst) follows.distinct
  have disconnected := follows.disconnect rowsAre accounts shrunk distinct
  simpa [OutAttachablePort.view, OutAttachablePort.eraseConnection, OutAttachablePort.connections]
    using disconnected

theorem updateConnectionFilter_follows (filterTable : List ConnectionDescriptor) :
    (updateConnectionFilter answer filterTable).Yields world fun _ after => Ready name
      (routing.step (.updateConnectionFilter filterTable : AttachableCall Time)) after := by
  obtain ⟨free, follows⟩ := ready
  have order : ((world.data.streamContainer.map Stream.streamId).dedup.insertionSort
      (· ≤ ·)).Perm (world.data.streamContainer.map Stream.streamId).dedup :=
    perm_insertionSort _ _
  have once := order.nodup_iff.mpr (nodup_dedup _)
  have known : ∀ row ∈ rows world.data.streamContainer, row.streamId ∈
      (world.data.streamContainer.map Stream.streamId).dedup.insertionSort (· ≤ ·) := by
    intro row member
    obtain ⟨stream, inside, rfl⟩ := mem_map.mp member
    exact order.mem_iff.mpr (mem_dedup.mpr (mem_map_of_mem inside))
  have distinct : ((rows world.data.streamContainer).map Row.streamId).Nodup :=
    follows.registered ▸ follows.once
  refine synchronized_follows free (yields_bind.mpr (yields_change.mpr (yields_bind.mpr
    (yields_look.mpr (yields_bind.mpr ((yields_onContainer (does_applyFilter succeeds .cpp _ _ once
      (by exact follows.accounts) (by exact distinct) (by exact known))).mono ?_))))))
  rintro _ middle ⟨streams, data, rowsAre, accounts, lock⟩
  refine (undisturbs_updateSRIForAllConnections succeeds _).mono fun _ last same => ?_
  refine ⟨same.lock.trans lock, follows_undisturbed ?_ same⟩
  rw [data]
  exact follows.filter rowsAre accounts

theorem addStream_follows {streamDef : StreamDefinition}
    (once : routing.AttachesOnce name (.addStream streamDef : AttachableCall Time)) :
    (addStream answer streamDef).Yields world fun _ after =>
      Ready name (routing.step (.addStream streamDef : AttachableCall Time)) after := by
  obtain ⟨free, follows⟩ := ready
  refine synchronized_follows free (yields_bind.mpr (yields_look.mpr ?_))
  have registered : hasStreamId streamDef.id world.data.streamContainer = true ↔
      streamDef.id ∈ routing.streams := mem_streams_iff follows streamDef.id
  by_cases known : streamDef.id ∈ routing.streams
  · have same : routing.step (.addStream streamDef : AttachableCall Time) = routing := if_pos known
    rw [if_pos (registered.mpr known), same]
    exact ⟨rfl, follows⟩
  · rw [if_neg fun has => known (registered.mp has)]
    refine (yields_bind.mpr ((yields_attachNewStream succeeds _ _ streamDef _
      (by exact follows.accounts)).mono fun atts middle told => ?_)).tryExcept
    refine yields_bind.mpr (yields_change.mpr (yields_pure.mpr ⟨told.lock, ?_⟩))
    rw [told.data]
    exact follows.add known (once known) told.pairs (by exact told.accounts)

theorem removeStream_follows
    (streamId : String) : (removeStream answer streamId).Yields world fun _ after =>
      Ready name (routing.step (.removeStream streamId : AttachableCall Time)) after := by
  obtain ⟨free, follows⟩ := ready
  refine synchronized_follows free ((yields_onContainer
    (does_removeStreamByStreamId succeeds .cpp streamId _ (by exact follows.accounts))).mono ?_)
  rintro _ last ⟨streams, data, rowsAre, accounts, lock⟩
  refine ⟨lock, ?_⟩
  rw [data]
  exact follows.remove rowsAre accounts

theorem updateStream_follows {streamDef : StreamDefinition}
    (once : routing.AttachesOnce name (.updateStream streamDef : AttachableCall Time)) :
    (updateStream answer streamDef).Yields world fun _ after =>
      Ready name (routing.step (.updateStream streamDef : AttachableCall Time)) after := by
  obtain ⟨free, follows⟩ := ready
  have registered : hasStreamId streamDef.id world.data.streamContainer = true ↔
      streamDef.id ∈ routing.streams := mem_streams_iff follows streamDef.id
  by_cases known : streamDef.id ∈ routing.streams
  · have removed : (synchronized <| look.bind fun port : OutAttachablePort Time =>
        if hasStreamId streamDef.id port.streamContainer then
          (onContainer (removeStreamByStreamId .cpp answer streamDef.id)).bind fun _ =>
            Code.pure true
        else Code.pure false : AttachableCode α Time Bool).Yields world fun found after =>
          found = true ∧ Ready name
            (routing.step (.removeStream streamDef.id : AttachableCall Time)) after := by
      refine .synchronized free (yields_bind.mpr (yields_look.mpr ?_))
      rw [if_pos (registered.mpr known)]
      refine yields_bind.mpr ((yields_onContainer (does_removeStreamByStreamId succeeds .cpp
        streamDef.id _ (by exact follows.accounts))).mono ?_)
      rintro _ last ⟨streams, data, rowsAre, accounts, lock⟩
      refine yields_pure.mpr ⟨lock, rfl, rfl, ?_⟩
      rw [data]
      exact follows.remove rowsAre accounts
    refine yields_bind.mpr (removed.mono ?_)
    rintro _ middle ⟨rfl, ready⟩
    rw [step_updateStream known]
    exact addStream_follows succeeds ready fun _ => once known
  · have same : routing.step (.updateStream streamDef : AttachableCall Time) = routing :=
      if_neg known
    rw [same]
    have missing : ¬hasStreamId streamDef.id world.data.streamContainer = true :=
      fun has => known (registered.mp has)
    refine yields_bind.mpr (.synchronized free (yields_bind.mpr (yields_look.mpr ?_)))
    rw [if_neg missing]
    exact ⟨rfl, rfl, follows⟩

end

theorem undisturbs_push (succeeds : Succeeds answer) (H : StreamSRI) (T : Time)
    (port : OutAttachablePort Time) : Undisturbs view
      ((forEach port.outConnections fun connection => forEach port.ownRules fun entry =>
          if entry.connectionId == connection.2 && entry.streamId == H.streamID then
            sendSRI answer connection.1 connection.2 H.streamID H T
          else Code.pure ()).bind fun _ =>
        if port.ownRules.isEmpty || port.outConnections.isEmpty then
          forEach port.outConnections fun connection =>
            sendSRI answer connection.1 connection.2 H.streamID H T
        else Code.pure () : AttachableCode α Time Unit) := by
  refine .bind (.forEach fun connection => .forEach fun entry => ?_) fun _ => ?_
  · exact .ite (fun _ => undisturbs_sendSRI succeeds _ _ _ _ _) fun _ => undisturbs_pure ()
  · refine .ite (fun _ => .forEach fun connection => ?_) fun _ => undisturbs_pure ()
    exact undisturbs_sendSRI succeeds _ _ _ _ _

theorem pushSRI_follows (succeeds : Succeeds answer) (ready : Ready name routing world)
    (H : StreamSRI) (T : Time) : (pushSRI answer H T).Yields world fun _ after =>
      Ready name (routing.step (.pushSRI H T)) after := by
  obtain ⟨free, follows⟩ := ready
  refine synchronized_follows free (yields_bind.mpr (yields_change.mpr (yields_bind.mpr (yields_look.mpr ?_))))
  have before : Follows name routing (world.data.recordSRI H T).view world.calls := follows
  split
  · refine (undisturbs_push succeeds H T _ _).mono fun _ last same => ?_
    exact ⟨same.lock, follows_undisturbed (by exact before) same⟩
  · exact ⟨rfl, before⟩

theorem perform_follows (succeeds : Succeeds answer) (ready : Ready name routing world)
    (call : AttachableCall Time) (fresh : routing.Fresh call)
    (once : routing.AttachesOnce name call) :
    (perform answer call).Yields world fun _ after => Ready name (routing.step call) after := by
  cases call with
  | connectPort object connectionId => exact connectPort_follows succeeds ready fresh
  | disconnectPort connectionId => exact disconnectPort_follows succeeds ready connectionId
  | updateConnectionFilter filterTable =>
      exact updateConnectionFilter_follows succeeds ready filterTable
  | pushSRI H T => exact pushSRI_follows succeeds ready H T
  | addStream streamDef =>
      exact yields_bind.mpr ((addStream_follows succeeds ready once).mono fun _ _ told => told)
  | updateStream streamDef =>
      exact yields_bind.mpr ((updateStream_follows succeeds ready once).mono fun _ _ told => told)
  | removeStream streamId => exact removeStream_follows succeeds ready streamId

end Cpp

section Python

def pythonView (port : Py.OutPort α Time) : PortView :=
  ⟨port.name, port.items, port.filterTable, port.streamContainer⟩

def PythonReady (name : String) (routing : Routing)
    (world : Guarded (Py.OutPort α Time) (RemoteCall α Time) Reply) : Prop :=
  world.locked = false ∧ world.data.kind = .attachable ∧ Follows name routing (pythonView world.data) world.calls

variable {world : Guarded (Py.OutPort α Time) (RemoteCall α Time) Reply}

def kindAndView (port : Py.OutPort α Time) : Py.PortKind × PortView := (port.kind, pythonView port)

theorem mem_items (port : Py.OutPort α Time) (pair : String × Nat) :
    pair ∈ port.items ↔ port.outConnections.lookup pair.1 = some pair.2 := by
  rw [← Option.mem_def, AList.mem_lookup_iff]
  simp only [Py.OutPort.items, mem_map]
  constructor
  · rintro ⟨entry, member, rfl⟩
    exact member
  · exact fun member => ⟨_, member, rfl⟩

theorem items_ids (port : Py.OutPort α Time) : port.items.map fst = port.outConnections.keys := by
  rw [Py.OutPort.items, List.map_map]
  rfl

theorem synchronized_pythonFollows {β : Type} {code : Py.PortCode α Time β}
    (free : world.locked = false) (inside : code.Yields { world with locked := true } fun _ after =>
      after.locked = true ∧ after.data.kind = .attachable ∧
        Follows name routing (pythonView after.data) after.calls) :
    (synchronized code).Yields world fun _ after => PythonReady name routing after :=
  .synchronized free (inside.mono fun _ _ told => ⟨told.1, rfl, told.2⟩)

theorem yields_onStreams {β : Type} {code : ContainerCode α Time β} {after : List Row}
    (gives : Gives code ⟨world.locked, world.data.streamContainer, world.calls⟩ after) :
    (Py.onStreams code).Yields world fun _ last => ∃ streams,
      last.data = { world.data with streamContainer := streams } ∧ rows streams = after ∧
        Accounts (attachments streams) last.calls ∧ last.locked = world.locked :=
  yields_within.mpr (gives.mono fun _ last told =>
    ⟨last.data, rfl, told.1, told.2.1, told.2.2.1⟩)

theorem view_addConnection (streamID connId : String) (port : Py.OutPort α Time) :
    kindAndView (port.addConnection streamID connId) = kindAndView port := by
  unfold Py.OutPort.addConnection
  split <;> rfl

theorem undisturbs_pythonPush (succeeds : Succeeds answer) (object : Nat) (sri : StreamSRI)
    (time : Option Time) (streamID connId : String) : Undisturbs kindAndView
      ((remote answer (.pushSRI object sri time)).bind fun _ =>
        change (Py.OutPort.addConnection streamID connId) : Py.PortCode α Time Unit) := by
  have quiet : (RemoteCall.pushSRI object sri time : RemoteCall α Time).Quiet := trivial
  exact (undisturbs_remote succeeds quiet).bind fun _ =>
    undisturbs_change (view_addConnection _ _)

theorem undisturbs_pythonUpdateSRI (succeeds : Succeeds answer) :
    Undisturbs kindAndView (Py.updateSRIForAllConnections answer : Py.PortCode α Time Unit) := by
  refine undisturbs_look fun port => .forEach fun stream => undisturbs_look fun port => ?_
  split
  · exact undisturbs_pure ()
  · refine .forEach fun connId => undisturbs_look fun port => ?_
    dsimp only
    split
    · exact undisturbs_pythonPush succeeds _ _ _ _ _
    · exact undisturbs_pure ()

theorem pythonFollows_undisturbed {before after : Guarded (Py.OutPort α Time) (RemoteCall α Time) Reply}
    (kind : before.data.kind = .attachable)
    (follows : Follows name routing (pythonView before.data) before.calls)
    (same : Undisturbed kindAndView before after) : after.data.kind = .attachable ∧
      Follows name routing (pythonView after.data) after.calls := by
  have kinds : after.data.kind = before.data.kind := congrArg fst same.view
  have views : pythonView after.data = pythonView before.data := congrArg snd same.view
  exact ⟨kinds.trans kind, views ▸ follows.quiet same.accounts⟩

section

variable (succeeds : Succeeds answer)
include succeeds

theorem yields_baseConnectPort (free : world.locked = false)
    {object : Nat} {connectionId : String} (new : connectionId ∉ world.data.outConnections) :
    (Py.baseConnectPort answer (some object) connectionId).Yields world fun _ after =>
      after.locked = false ∧ after.data = { world.data with
        outConnections := world.data.outConnections.insert connectionId object } ∧
      ∀ atts, Accounts atts world.calls → Accounts atts after.calls := by
  obtain ⟨valid, agrees⟩ := Option.isSome_iff_exists.mp
    (succeeds.returns world.calls.length (.isA object))
  have accepted : valid ≠ .refuses := fun refuses =>
    succeeds.agrees world.calls.length object (refuses ▸ agrees)
  have asks : (RemoteCall.isA object : RemoteCall α Time).Quiet := trivial
  have narrows : (RemoteCall.narrow object : RemoteCall α Time).Quiet := trivial
  refine yields_bind.mpr (yields_remote agrees ?_)
  rw [if_neg accepted]
  obtain ⟨reply, answers⟩ := Option.isSome_iff_exists.mp
    (succeeds.returns (world.calls ++ [(RemoteCall.isA object, some valid)]).length (.narrow object))
  refine yields_bind.mpr (yields_remote answers (.synchronized free (yields_bind.mpr (yields_look.mpr ?_))))
  rw [if_neg new]
  exact ⟨rfl, rfl, rfl, fun atts accounts =>
    (accounts.quiet asks (some valid)).quiet narrows (some reply)⟩

section

variable (ready : PythonReady name routing world)
include ready

theorem pythonConnect_follows {object : Nat} {connectionId : String}
    (fresh : connectionId ∉ routing.connections.map fst) :
    (Py.attachableConnectPort answer (some object) connectionId).Yields world fun _ after =>
      PythonReady name (routing.step (.connectPort object connectionId : AttachableCall Time))
        after := by
  obtain ⟨free, kind, follows⟩ := ready
  have absent : connectionId ∉ world.data.items.map fst := follows.fresh fresh
  have new : connectionId ∉ world.data.outConnections := by
    rwa [items_ids, ← AList.mem_keys] at absent
  refine yields_bind.mpr ((yields_baseConnectPort succeeds free new).mono ?_)
  rintro _ ⟨locked, port, log⟩ ⟨lock, data, quiet⟩
  subst data
  have accounts := quiet _ follows.accounts
  refine synchronized_pythonFollows lock (yields_bind.mpr (yields_look.mpr ?_))
  rw [AList.lookup_insert]
  refine yields_bind.mpr ((yields_onStreams (does_connectStreams succeeds _ connectionId object _
    (by exact accounts))).mono ?_)
  rintro _ ⟨held, port, log⟩ ⟨streams, data, rowsAre, streamAccounts, taken⟩
  subst data
  refine (undisturbs_pythonUpdateSRI succeeds _).mono fun _ last same => ?_
  refine ⟨same.lock.trans taken, pythonFollows_undisturbed (by exact kind) ?_ same⟩
  refine follows.connect fresh rowsAre streamAccounts (fun pair => ?_) ?_
  · refine (mem_items _ pair).trans ?_
    rw [show pair ∈ (pythonView world.data).connections ↔ _ from mem_items world.data pair]
    by_cases same : pair.1 = connectionId
    · have none : world.data.outConnections.lookup connectionId = none :=
        AList.lookup_eq_none.mpr new
      rw [same, AList.lookup_insert, none]
      simp [Prod.ext_iff, same, eq_comm]
    · simp [Prod.ext_iff, same]
  · rw [items_ids]
    exact AList.keys_nodup _

theorem pythonDisconnect_follows (connectionId : String) :
    (Py.attachableDisconnectPort answer connectionId).Yields world fun _ after =>
      PythonReady name (routing.step (.disconnectPort connectionId : AttachableCall Time))
        after := by
  obtain ⟨free, kind, follows⟩ := ready
  have detaches := does_forEachStream fun index =>
    does_detachByConnectionId succeeds .python connectionId index
  refine synchronized_pythonFollows free (yields_bind.mpr
    ((yields_onStreams (detaches _ (by exact follows.accounts))).tryExcept.mono ?_))
  rintro _ ⟨locked, port, log⟩ ⟨streams, data, rowsAre, accounts, lock⟩
  subst data
  have items : ∀ pair, pair ∈ world.data.items ↔
      world.data.outConnections.lookup pair.1 = some pair.2 := mem_items world.data
  refine yields_bind.mpr (yields_look.mpr ?_)
  split
  · refine yields_change.mpr ⟨lock, kind, follows.disconnect rowsAre accounts (fun pair => ?_) ?_⟩
    · refine (mem_items _ pair).trans ?_
      rw [show pair ∈ (pythonView world.data).connections ↔ _ from items pair]
      show (world.data.outConnections.erase connectionId).lookup pair.1 = some pair.2 ↔ _
      by_cases same : pair.1 = connectionId
      · rw [same, AList.lookup_erase]
        simp
      · simp [same]
    · rw [items_ids]
      exact AList.keys_nodup _
  · rename_i absent
    refine ⟨lock, kind, follows.disconnect rowsAre accounts (fun pair => ?_) follows.distinct⟩
    refine (and_iff_left_of_imp fun member same => absent ?_).symm
    have found := (items pair).mp member
    rw [same] at found
    exact AList.lookup_isSome.mp (Option.isSome_iff_exists.mpr ⟨_, found⟩)

theorem pythonFilter_follows (filterTable : List ConnectionDescriptor) :
    (Py.attachableUpdateConnectionFilter answer (some filterTable)).Yields world fun _ after =>
      PythonReady name
        (routing.step (.updateConnectionFilter filterTable : AttachableCall Time)) after := by
  obtain ⟨free, kind, follows⟩ := ready
  have known : ∀ row ∈ rows world.data.streamContainer,
      row.streamId ∈ (world.data.streamContainer.map Stream.streamId).dedup := by
    intro row member
    obtain ⟨stream, inside, rfl⟩ := mem_map.mp member
    exact mem_dedup.mpr (mem_map_of_mem inside)
  have distinct : ((rows world.data.streamContainer).map Row.streamId).Nodup :=
    follows.registered ▸ follows.once
  refine synchronized_pythonFollows free (yields_bind.mpr (yields_change.mpr (yields_bind.mpr
    (yields_look.mpr (yields_bind.mpr ((yields_onStreams (does_applyFilter succeeds .python _ _
      (nodup_dedup _) (by exact follows.accounts) (by exact distinct)
      (by exact known))).mono ?_))))))
  rintro _ middle ⟨streams, data, rowsAre, accounts, lock⟩
  refine (undisturbs_pythonUpdateSRI succeeds _).mono fun _ last same => ?_
  refine ⟨same.lock.trans lock, pythonFollows_undisturbed (by rw [data]; exact kind) ?_ same⟩
  rw [data]
  exact follows.filter rowsAre accounts

theorem pythonAdd_follows {streamDef : StreamDefinition}
    (once : routing.AttachesOnce name (.addStream streamDef : AttachableCall Time)) :
    (Py.addStream answer streamDef).Yields world fun _ after =>
      PythonReady name (routing.step (.addStream streamDef : AttachableCall Time)) after := by
  obtain ⟨free, kind, follows⟩ := ready
  refine synchronized_pythonFollows free (yields_bind.mpr (yields_look.mpr ?_))
  have registered : world.data.hasStreamId streamDef.id = true ↔
      streamDef.id ∈ routing.streams := mem_streams_iff follows streamDef.id
  by_cases known : streamDef.id ∈ routing.streams
  · have same : routing.step (.addStream streamDef : AttachableCall Time) = routing := if_pos known
    rw [if_pos (registered.mpr known), same]
    exact ⟨rfl, kind, follows⟩
  · rw [if_neg fun has => known (registered.mp has)]
    refine yields_bind.mpr ((yields_attachNewStream succeeds _ _ streamDef _
      (by exact follows.accounts)).mono fun atts middle told => ?_)
    refine yields_bind.mpr (yields_change.mpr (yields_pure.mpr ⟨told.lock, ?_⟩))
    rw [told.data]
    exact ⟨kind, follows.add known (once known) told.pairs (by exact told.accounts)⟩

end

theorem pythonRemove_follows (kind : world.data.kind = .attachable)
    (follows : Follows name routing (pythonView world.data) world.calls) (streamId : String) :
    (Py.onStreams (removeStreamByStreamId .python answer streamId)).Yields world fun _ after =>
      after.locked = world.locked ∧ after.data.kind = .attachable ∧ Follows name
        (routing.step (.removeStream streamId : AttachableCall Time)) (pythonView after.data)
        after.calls := by
  refine (yields_onStreams (does_removeStreamByStreamId succeeds .python streamId _
    (by exact follows.accounts))).mono ?_
  rintro _ last ⟨streams, data, rowsAre, accounts, lock⟩
  rw [data]
  exact ⟨lock, kind, follows.remove rowsAre accounts⟩

theorem pythonUpdate_follows (ready : PythonReady name routing world)
    {streamDef : StreamDefinition} (known : streamDef.id ∈ routing.streams)
    (once : routing.AttachesOnce name (.updateStream streamDef : AttachableCall Time)) :
    (Py.updateStream answer streamDef).Yields world fun _ after =>
      PythonReady name (routing.step (.updateStream streamDef : AttachableCall Time)) after := by
  obtain ⟨free, kind, follows⟩ := ready
  have registered : world.data.hasStreamId streamDef.id = true :=
    (mem_streams_iff follows streamDef.id).mpr known
  refine yields_bind.mpr (yields_acquire free (yields_bind.mpr (yields_look.mpr ?_)))
  rw [if_pos registered]
  refine yields_bind.mpr ((pythonRemove_follows succeeds (by exact kind) (by exact follows) streamDef.id).mono ?_)
  rintro _ middle ⟨lock, kind, follows⟩
  refine yields_bind.mpr (yields_release lock ?_)
  rw [step_updateStream known]
  exact pythonAdd_follows succeeds (by exact ⟨rfl, kind, follows⟩) fun _ => once known

theorem pythonPushSRI_follows (ready : PythonReady name routing world) (H : StreamSRI) (T : Time) :
    (Py.attachablePushSRI answer H T).Yields world fun _ after =>
      PythonReady name (routing.step (.pushSRI H T)) after := by
  obtain ⟨free, kind, follows⟩ := ready
  have push : ∀ connection : (_ : String) × Nat, Undisturbs kindAndView (tryExcept
      ((remote answer (.pushSRI connection.2 H (some T))).bind fun _ =>
        change (Py.OutPort.addConnection H.streamID connection.1))
      (Code.pure ()) : Py.PortCode α Time Unit) := fun connection =>
    (undisturbs_pythonPush succeeds connection.2 H (some T) H.streamID connection.1).tryExcept
  have pushes : ∀ port : Py.OutPort α Time, Undisturbs kindAndView
      ((forEach port.outConnections.entries fun connection =>
        forEach port.ownRules fun entry =>
          if entry.connectionId == connection.1 && entry.streamId == H.streamID then
            tryExcept ((remote answer (.pushSRI connection.2 H (some T))).bind fun _ =>
              change (Py.OutPort.addConnection H.streamID connection.1)) (Code.pure ())
          else Code.pure ()).bind fun _ =>
      if port.ownRules.isEmpty then
        forEach port.outConnections.entries fun connection =>
          tryExcept ((remote answer (.pushSRI connection.2 H (some T))).bind fun _ =>
            change (Py.OutPort.addConnection H.streamID connection.1)) (Code.pure ())
      else Code.pure () : Py.PortCode α Time Unit) := fun port =>
    .bind (.forEach fun connection => .forEach fun _ =>
        .ite (fun _ => push connection) fun _ => undisturbs_pure ())
      fun _ => .ite (fun _ => .forEach push) fun _ => undisturbs_pure ()
  refine synchronized_pythonFollows free (yields_bind.mpr (yields_change.mpr (yields_bind.mpr
    (yields_look.mpr ((pushes _ _).mono fun _ last same => ?_)))))
  exact ⟨same.lock, pythonFollows_undisturbed (by exact kind) (by exact follows) same⟩

theorem pythonPerform_follows (clock : Py.Clock Time)
    (ready : PythonReady name routing world) (call : AttachableCall Time)
    (fresh : routing.Fresh call) (once : routing.AttachesOnce name call)
    (known : routing.UpdatesKnown call) :
    (Py.perform clock answer call.toPython).Yields world fun _ after =>
      PythonReady name (routing.step call) after := by
  obtain ⟨free, kind, follows⟩ := ready
  have dispatches : ∀ {post : Unit → Guarded (Py.OutPort α Time) (RemoteCall α Time) Reply → Prop}
      {attachable other : Py.PortCode α Time Unit}, attachable.Yields world post →
      (Py.dispatch attachable other).Yields world post := by
    intro post attachable other yields
    refine yields_bind.mpr (yields_look.mpr ?_)
    rwa [if_pos kind]
  have ready : PythonReady name routing world := ⟨free, kind, follows⟩
  cases call with
  | connectPort object connectionId =>
      exact dispatches (pythonConnect_follows succeeds ready fresh)
  | disconnectPort connectionId => exact dispatches (pythonDisconnect_follows succeeds ready _)
  | updateConnectionFilter filterTable => exact dispatches (pythonFilter_follows succeeds ready _)
  | pushSRI H T => exact dispatches (pythonPushSRI_follows succeeds ready H T)
  | addStream streamDef =>
      exact dispatches (yields_bind.mpr ((pythonAdd_follows succeeds ready once).mono fun _ _ told => told))
  | updateStream streamDef =>
      exact dispatches (yields_bind.mpr ((pythonUpdate_follows succeeds ready known once).mono
        fun _ _ told => told))
  | removeStream streamId =>
      refine dispatches ((pythonRemove_follows succeeds kind follows streamId).mono ?_)
      rintro _ after ⟨lock, kind, follows⟩
      exact ⟨lock.trans free, kind, follows⟩

end

end Python

section Runs

def OutAttachablePort.created (name : String) : OutAttachablePort Time :=
  ⟨name, [], false, [], ∅, "", []⟩

def createdPython (name : String) : Py.OutPort α Time where
  name := name
  kind := .attachable
  maxSamplesPerPush := 0
  outConnections := ∅
  sriDict := ∅
  filterTable := []
  objects := []
  streams := ∅
  streamContainer := []

def afterCalls (answer : Nat → RemoteCall α Time → Option Reply) (name : String)
    (calls : List (AttachableCall Time)) :
    Option (Guarded (OutAttachablePort Time) (RemoteCall α Time) Reply) :=
  run (Code.step (perform answer)) (some ⟨false, .created name, []⟩) calls

def afterPythonCalls (clock : Py.Clock Time) (answer : Nat → RemoteCall α Time → Option Reply)
    (name : String) (calls : List (AttachableCall Time)) :
    Option (Guarded (Py.OutPort α Time) (RemoteCall α Time) Reply) :=
  run (Code.step fun call => Py.perform clock answer call.toPython)
    (some ⟨false, createdPython name, []⟩) calls

/-- The attachments held are one for each registered stream and live connection that the filter
routes to each other, and whatever was attached is held or was detached once. -/
structure AttachedAsRouted (name : String) (routing : Routing) (streams : List Stream)
    (calls : Log α Time) : Prop where
  registered : streams.map Stream.streamId = routing.streams
  attached : ∀ stream ∈ streams, stream.row.Exact routing.connections
    (Routed (routing.rules name) stream.streamId)
  accounts : Accounts (attachments streams) calls

def held (streams : List Stream) : List (String × String × Nat) :=
  streams.flatMap fun stream => stream.streamAttachments.map fun att =>
    (stream.streamId, att.connectionId, att.inputPort)

theorem follows_empty (name : String) : Follows name .empty ⟨name, [], [], []⟩ ([] : Log α Time) where
  named := rfl
  live _ := Iff.rfl
  distinct := nodup_nil
  filterTable := rfl
  registered := rfl
  once := nodup_nil
  exact_ _ member := absurd member not_mem_nil
  accounts := ⟨fun _ member => absurd member not_mem_nil, fun _ _ => rfl⟩

theorem Follows.attachedAsRouted {view : PortView} {calls : Log α Time}
    (follows : Follows name routing view calls) :
    AttachedAsRouted name routing view.streams calls where
  registered := by rw [← follows.registered, rows, List.map_map]; rfl
  attached stream member := follows.exact_ stream.row (mem_map_of_mem member)
  accounts := follows.accounts

theorem AttachedAsRouted.mem_held {streams : List Stream} {calls : Log α Time}
    (attached : AttachedAsRouted name routing streams calls) (streamId connectionId : String)
    (object : Nat) : (streamId, connectionId, object) ∈ held streams ↔
      streamId ∈ routing.streams ∧ (connectionId, object) ∈ routing.connections ∧
        Routed (routing.rules name) streamId connectionId := by
  rw [← attached.registered]
  simp only [held, mem_flatMap, mem_map, Prod.mk.injEq]
  constructor
  · rintro ⟨stream, member, att, inside, rfl, rfl, rfl⟩
    have pair : att.pair ∈ stream.row.pairs := mem_map_of_mem inside
    exact ⟨⟨stream, member, rfl⟩, ((attached.attached stream member).2 _).mp pair⟩
  · rintro ⟨⟨stream, member, rfl⟩, routed⟩
    have pair : (connectionId, object) ∈ stream.row.pairs :=
      ((attached.attached stream member).2 _).mpr routed
    obtain ⟨att, inside, same⟩ := mem_map.mp pair
    obtain ⟨rfl, rfl⟩ := Prod.mk.inj same
    exact ⟨stream, member, att, inside, rfl, rfl, rfl⟩

/-- Where a stream is listed once whenever it is attached anew, the C++ port holds in every state
what its routing tells, and where no unknown stream is updated the Python port holds the same. -/
theorem attachments_follow_routing (name : String) (clock : Py.Clock Time)
    {answer pythonAnswer : Nat → RemoteCall α Time → Option Reply} (succeeds : Succeeds answer)
    (pythonSucceeds : Succeeds pythonAnswer) (calls : List (AttachableCall Time))
    (fresh : Along Routing.step (fun call routing => routing.Fresh call) .empty calls)
    (once : Along Routing.step (fun call routing => routing.AttachesOnce name call) .empty calls) :
    ∃ world, afterCalls answer name calls = some world ∧
      AttachedAsRouted name (run Routing.step .empty calls) world.data.streamContainer
        world.calls ∧
      (Along Routing.step (fun call routing => routing.UpdatesKnown call) .empty calls →
        ∃ python, afterPythonCalls clock pythonAnswer name calls = some python ∧
          AttachedAsRouted name (run Routing.step .empty calls) python.data.streamContainer
            python.calls ∧
          ∀ attachment, attachment ∈ held world.data.streamContainer ↔
            attachment ∈ held python.data.streamContainer) := by
  have cpp := simulation_run
    (fun routing state => ∃ world, state = some world ∧ Ready name routing world)
    (fun call routing state ready allowed => by
      obtain ⟨world, rfl, ready⟩ := ready
      exact (perform_follows succeeds ready call allowed.1 allowed.2).step)
    (show ∃ world, some ⟨false, .created name, []⟩ = some world ∧ Ready name .empty world from
      ⟨⟨false, .created name, []⟩, rfl, rfl, follows_empty name⟩)
    (fresh.and once)
  obtain ⟨world, ends, -, follows⟩ := cpp
  have attached : AttachedAsRouted name (run Routing.step .empty calls)
      world.data.streamContainer world.calls := follows.attachedAsRouted
  refine ⟨world, ends, attached, fun known => ?_⟩
  have other := simulation_run
    (fun routing state => ∃ world, state = some world ∧ PythonReady name routing world)
    (fun call routing state ready allowed => by
      obtain ⟨world, rfl, ready⟩ := ready
      exact (pythonPerform_follows pythonSucceeds clock ready call allowed.1.1 allowed.1.2 allowed.2).step)
    (show ∃ world, some ⟨false, createdPython name, []⟩ = some world ∧ PythonReady name .empty world from
      ⟨⟨false, createdPython name, []⟩, rfl, rfl, rfl, follows_empty name⟩)
    ((fresh.and once).and known)
  obtain ⟨python, pythonEnds, -, -, pythonFollows⟩ := other
  have pythonAttached : AttachedAsRouted name (run Routing.step .empty calls)
      python.data.streamContainer python.calls := pythonFollows.attachedAsRouted
  refine ⟨python, pythonEnds, pythonAttached, fun ⟨streamId, connectionId, object⟩ => ?_⟩
  rw [attached.mem_held]
  exact (pythonAttached.mem_held streamId connectionId object).symm

def counting (number : Nat) : RemoteCall Empty Nat → Option Reply
  | .attach .. => some (.returns ("a" ++ toString number))
  | _ => some (.returns "")

theorem counting_succeeds : Succeeds counting where
  returns number call := by cases call <;> rfl
  agrees number object := by simp [counting]
  attaches number object streamDef name := by
    refine ⟨"a" ++ toString number, fun empty => ?_, rfl⟩
    have letters := congrArg String.toList empty
    simp at letters

def routedCalls : List (AttachableCall Nat) :=
  [.connectPort 1 "c", .addStream ⟨"s", ""⟩, .updateConnectionFilter [⟨"c", "s", "out"⟩],
    .connectPort 2 "d", .addStream ⟨"t", ""⟩, .updateStream ⟨"s", "new"⟩, .disconnectPort "d"]

theorem routedCalls_attached : ∃ world, afterCalls counting "out" routedCalls = some world ∧
    AttachedAsRouted "out" (run Routing.step .empty routedCalls) world.data.streamContainer
      world.calls :=
  have clock : Py.Clock Nat := ⟨0, fun _ => true, fun time _ => time⟩
  have all := attachments_follow_routing "out" clock counting_succeeds counting_succeeds
    routedCalls (by decide) (by decide)
  all.imp fun _ told => ⟨told.1, told.2.1⟩

theorem addStream_attaches_twice : ¬∀ calls : List (AttachableCall Nat),
    Along Routing.step (fun call routing => routing.Fresh call) .empty calls →
      ∃ world, afterCalls counting "out" calls = some world ∧
        AttachedAsRouted "out" (run Routing.step .empty calls) world.data.streamContainer
          world.calls := by
  intro always
  obtain ⟨world, ends, attached⟩ := always [.connectPort 1 "c",
    .updateConnectionFilter [⟨"c", "s", "out"⟩, ⟨"c", "s", "out"⟩], .addStream ⟨"s", ""⟩] (by decide)
  have twice := congrArg (Option.map fun world => rows world.data.streamContainer) ends
  rw [show Option.map (fun world => rows world.data.streamContainer) (afterCalls counting "out" _) =
    some [⟨"s", [("c", 1), ("c", 1)]⟩] by decide +kernel, Option.map_some,
    Option.some.injEq] at twice
  obtain ⟨stream, member, shape⟩ := mem_map.mp (twice ▸ mem_singleton_self _)
  have once := (attached.attached stream member).1
  rw [shape] at once
  exact absurd once (by decide)

end Runs

end Redhawk.Bulkio.Attachable
