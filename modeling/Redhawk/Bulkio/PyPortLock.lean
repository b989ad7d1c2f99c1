import Redhawk.Bulkio.PyAttachablePort

/-!
What the public operations of the Python output ports do to `port_lock`, whatever the remote calls
return or raise.
-/

namespace Redhawk.Bulkio.Py

open Library Library.Code Attachable

variable {α Time : Type} {held : Bool} {clock : Clock Time}
  {answer : Nat → RemoteCall α Time → Option Reply}

section Attachments

theorem keeps_atStream {β : Type} {index : Nat} {absent : β}
    {body : Attachable.Stream → ContainerCode α Time β} (each : ∀ stream, (body stream).Keeps held) :
    (atStream index absent body).Keeps held := by
  refine .bind (keeps_look) fun streams => ?_
  split
  · exact keeps_pure _
  · exact each _

variable {body : Nat → ContainerCode α Time Unit}

theorem keeps_forEachStream (each : ∀ index, (body index).Keeps held) : (forEachStream body).Keeps held :=
  .bind keeps_look fun _ => .forEach fun index _ => each index

theorem returns_atStream {β : Type} {index : Nat} {absent : β} {body : Attachable.Stream → ContainerCode α Time β}
    (each : ∀ stream, (body stream).Returns held) : (atStream index absent body).Returns held := by
  refine .bind returns_look fun streams => ?_
  split
  · exact returns_pure _
  · exact each _

theorem returns_forEachStream (each : ∀ index, (body index).Returns held) : (forEachStream body).Returns held :=
  .bind returns_look fun _ => .forEach fun index _ => each index

variable {language : Language}

theorem returns_detachAttachment (att : StreamAttachment) : (detachAttachment language answer att).Returns held :=
  .ite (fun _ => returns_pure _) fun _ =>
    .tryExcept (.bind (keeps_remote _ _) fun _ => keeps_pure _) (returns_pure _)

variable (chosen : StreamAttachment → Bool)

theorem returns_detachWhere (index : Nat) : (detachWhere language answer chosen index).Returns held :=
  returns_atStream fun _ =>
    .bind (.forEach fun att _ => returns_detachAttachment att) fun _ => returns_change _

theorem keeps_detachWhere (index : Nat) : (detachWhere language answer chosen index).Keeps held :=
  (returns_detachWhere chosen index).keeps

theorem returns_removeStreamByStreamId (streamId : String) :
    (removeStreamByStreamId language answer streamId : ContainerCode α Time Unit).Returns held := by
  refine .bind (returns_forEachStream fun index => returns_atStream fun stream => ?_) fun _ =>
    returns_change _
  exact .ite (fun _ => returns_detachWhere _ _) fun _ => returns_pure _

theorem keeps_newAttachment {Data : Type} (streamDef : StreamDefinition)
    (name connectionId : String) (object : Nat) :
    (newAttachment answer streamDef name connectionId object : Code Data _ _ _).Keeps held :=
  .bind (keeps_remote _ _) fun _ => keeps_pure _

theorem keeps_createNewAttachment (connectionId : String) (object index : Nat) :
    (createNewAttachment answer connectionId object index).Keeps held :=
  keeps_atStream fun _ => .bind (keeps_newAttachment _ _ _ _) fun _ => keeps_change _

theorem keeps_addConnectionWhere (chosen : String → Bool) (connectionId : String) (object : Nat) :
    (addConnectionWhere answer chosen connectionId object).Keeps held :=
  keeps_forEachStream fun _ => keeps_atStream fun _ =>
    .ite (fun _ => keeps_createNewAttachment _ _ _) fun _ => keeps_pure _

theorem keeps_updateAttachments (expected : List (String × Nat)) (index : Nat) :
    (updateAttachments .python answer expected index).Keeps held := by
  refine .bind (.forEach fun att _ => keeps_atStream fun stream => ?_) fun _ =>
    keeps_atStream fun stream => .forEach fun _ _ => keeps_detachWhere _ _
  exact .ite (fun _ => keeps_pure _) fun _ => keeps_createNewAttachment _ _ _

variable (rules : List ConnectionDescriptor)

theorem keeps_connectStreams (connectionId : String)
    (object : Nat) : (connectStreams answer rules connectionId object).Keeps held := by
  refine .bind (.forEach fun entry _ => ?_) fun _ => .ite (fun _ => ?_) fun _ => keeps_pure _
  · exact .ite (fun _ => keeps_addConnectionWhere _ _ _) fun _ => keeps_pure _
  · exact keeps_addConnectionWhere _ _ _

theorem keeps_attachNewStream {Data : Type} (rules : List ConnectionDescriptor)
    (connections : List (String × Nat)) (streamDef : StreamDefinition) (name : String) :
    (attachNewStream answer rules connections streamDef name : Code Data _ _ _).Keeps held := by
  refine .bind (.foldEach (fun connection _ atts => .foldEach (fun entry _ atts => ?_) _) _)
    fun atts => .ite (fun _ => .foldEach (fun connection _ atts => ?_) _) fun _ => keeps_pure _
  · exact .ite (fun _ => .bind (keeps_newAttachment _ _ _ _) fun _ => keeps_pure _) fun _ =>
      keeps_pure _
  · exact .bind (keeps_newAttachment _ _ _ _) fun _ => keeps_pure _

theorem keeps_onStream (each : ∀ index, (body index).Keeps held) (streamId : String) :
    (look.bind fun streams => match findByStreamId streamId streams with
      | some index => body index
      | none => Code.pure ()).Keeps held := by
  refine .bind keeps_look fun streams => ?_
  split
  · exact each _
  · exact keeps_pure _

theorem keeps_applyFilter (connections : List (String × Nat)) (streamIds : List String) :
    (applyFilter .python answer rules connections streamIds).Keeps held :=
  .bind (.forEach fun streamId _ => keeps_onStream (fun _ => keeps_updateAttachments _ _) streamId)
    fun _ => .ite (fun _ => .forEach fun _ _ => keeps_addConnectionWhere _ _ _) fun _ =>
      .forEach fun streamId _ => keeps_onStream (fun _ => keeps_detachWhere _ _) streamId

theorem keeps_updateSRIForAllConnections :
    (updateSRIForAllConnections answer : PortCode α Time Unit).Keeps held := by
  refine .bind keeps_look fun port => .forEach fun stream _ => .bind keeps_look fun port => ?_
  split
  · exact keeps_pure _
  · refine .forEach fun connId _ => .bind keeps_look fun port => ?_
    dsimp only
    split
    · exact .bind (keeps_remote _ _) fun _ => keeps_change _
    · exact keeps_pure _

end Attachments

section Attachable

theorem keeps_baseConnectPort (connection : Option Nat) (connectionId : String) :
    (baseConnectPort answer connection connectionId).Keeps false := by
  cases connection with
  | none => exact keeps_raise
  | some object =>
      refine .bind (keeps_remote _ _) fun valid => .ite (fun _ => keeps_raise) fun _ =>
        .bind (keeps_remote _ _) fun _ => .synchronized (.bind keeps_look fun port => ?_)
      exact .ite (fun _ => keeps_raise) fun _ => keeps_change _

theorem keeps_attachableConnectPort (connection : Option Nat) (connectionId : String) :
    (attachableConnectPort answer connection connectionId).Keeps false := by
  refine .bind (keeps_baseConnectPort _ _) fun _ => .synchronized (.bind keeps_look fun port => ?_)
  split
  · exact keeps_raise
  · exact .bind (.within (keeps_connectStreams _ _ _)) fun _ => keeps_updateSRIForAllConnections

theorem keeps_attachableDisconnectPort (connectionId : String) :
    (attachableDisconnectPort answer connectionId : PortCode α Time Unit).Keeps false := by
  refine .synchronized (.bind (.tryExcept (.within (keeps_forEachStream fun index => ?_))
    (keeps_pure _)) fun _ => .bind keeps_look fun port =>
    .ite (fun _ => keeps_change _) fun _ => keeps_pure _)
  exact keeps_detachWhere _ _

theorem keeps_detach (attachId connectionId : String) :
    (detach answer attachId connectionId : PortCode α Time Unit).Keeps false := by
  refine .synchronized (.bind (.ite (fun _ => ?_) fun _ => keeps_pure _) fun _ =>
    .bind (.ite (fun _ => .bind keeps_look fun port => ?_) fun _ => keeps_pure _) fun _ =>
    .ite (fun _ => .bind ?_ fun _ => keeps_change _) fun _ => keeps_pure _)
  · exact .within (keeps_forEachStream fun _ => keeps_detachWhere _ _)
  · exact .ite (fun _ => keeps_raise) fun _ => keeps_pure _
  · exact .within (keeps_forEachStream fun _ => keeps_atStream fun _ =>
      .forEach fun _ _ => (returns_detachAttachment _).keeps)

theorem keeps_addStream (streamDef : StreamDefinition) :
    (addStream answer streamDef : PortCode α Time Bool).Keeps false :=
  .synchronized (.bind keeps_look fun _ => .ite (fun _ => keeps_pure _) fun _ =>
    .bind (keeps_attachNewStream _ _ _ _) fun _ => .bind (keeps_change _) fun _ => keeps_pure _)

theorem keeps_attachablePushSRI (H : StreamSRI) (T : Time) :
    (attachablePushSRI answer H T : PortCode α Time Unit).Keeps false := by
  have push : ∀ connection : (_ : String) × Nat, (tryExcept
      ((remote answer (.pushSRI connection.2 H (some T))).bind fun _ =>
        change (OutPort.addConnection H.streamID connection.1))
      (Code.pure ()) : PortCode α Time Unit).Keeps true := fun connection =>
    .tryExcept (.bind (keeps_remote _ _) fun _ => keeps_change _) (keeps_pure _)
  refine .synchronized (.bind (keeps_change _) fun _ => .bind keeps_look fun port =>
    .bind (.forEach fun connection _ => .forEach fun entry _ => ?_) fun _ => ?_)
  · exact .ite (fun _ => push connection) fun _ => keeps_pure _
  · exact .ite (fun _ => .forEach fun connection _ => push connection) fun _ => keeps_pure _

theorem keeps_attachableUpdateConnectionFilter (filterTable : Option (List ConnectionDescriptor)) :
    (attachableUpdateConnectionFilter answer filterTable : PortCode α Time Unit).Keeps false :=
  .synchronized (.bind (keeps_change _) fun _ => .bind keeps_look fun _ =>
    .bind (.within (keeps_applyFilter _ _ _)) fun _ => keeps_updateSRIForAllConnections)

end Attachable

section Sending

theorem keeps_sendPacket (object : Nat) (data : List α) (T : Time) (EOS : Bool)
    (streamID : String) : (sendPacket answer object data T EOS streamID).Keeps held :=
  .bind (keeps_remote _ _) fun _ => keeps_pure _

variable (data : List α)

theorem keeps_basePushPacket (T : Time) (EOS : Bool) (streamID : String) :
    (basePushPacket answer data T EOS streamID).Keeps held := by
  refine .bind keeps_look fun port => .bind (.forEach fun connection _ => .ite (fun _ =>
    .tryExcept (.bind keeps_look fun port => ?_) (keeps_pure _)) fun _ => keeps_pure _) fun _ =>
    .ite (fun _ => keeps_change _) fun _ => keeps_pure _
  split
  · exact keeps_raise
  · refine .ite (fun _ => keeps_sendPacket _ _ _ _ _) fun _ => .ite (fun _ => keeps_pure _)
      fun _ => .bind (keeps_remote _ _) fun _ => .bind (keeps_change _) fun _ => ?_
    exact keeps_sendPacket _ _ _ _ _

theorem keeps_pushSubPackets (EOS : Bool) (streamID : String)
    (maxSamples itemSize : Nat) (xdelta : ℚ) (starts : List Nat) (packetTime : Time) :
    (pushSubPackets clock answer data EOS streamID maxSamples itemSize xdelta starts packetTime).Keeps held := by
  induction starts generalizing packetTime with
  | nil => exact keeps_pure _
  | cons start starts ih => exact .bind (keeps_basePushPacket _ _ _ _) fun _ => ih _

theorem keeps_pushPacketLocked (T : Time) (EOS : Bool) (streamID : String) :
    (pushPacketLocked clock answer data T EOS streamID).Keeps held := by
  have numeric : (numericPushPacket clock answer data T EOS streamID).Keeps held := by
    refine .bind keeps_look fun port => .ite (fun _ => keeps_basePushPacket _ _ _ _) fun _ => ?_
    split
    · exact keeps_raise
    · exact .ite (fun _ => keeps_raise) fun _ => keeps_pushSubPackets _ _ _ _ _ _ _ _
  refine .bind keeps_look fun port => ?_
  split
  · exact numeric
  · exact numeric
  · exact keeps_basePushPacket _ _ _ _

theorem keeps_pushSRI (H : StreamSRI) : (pushSRI clock answer H).Keeps false := by
  refine .bind keeps_look fun port => .ite (fun _ => keeps_raise) fun _ =>
    .synchronized (.bind (keeps_change _) fun _ => .bind (keeps_change _) fun _ =>
      .bind keeps_look fun port => .forEach fun connection _ => .ite (fun _ => ?_) fun _ =>
        keeps_pure _)
  exact .tryExcept (.bind (keeps_remote _ _) fun _ => keeps_change _) (keeps_pure _)

theorem keeps_pushPacket (T : Time) (EOS : Bool) (streamID : String) :
    (pushPacket clock answer data T EOS streamID).Keeps false := by
  refine .bind keeps_look fun port => .bind (.ite (fun _ => keeps_pure _) fun _ =>
    keeps_pushSRI _) fun _ => .synchronized (.bind (keeps_pushPacketLocked _ _ _ _) fun _ =>
      .ite (fun _ => .bind keeps_look fun port => ?_) fun _ => keeps_pure _)
  exact .ite (fun _ => keeps_change _) fun _ => keeps_raise

theorem keeps_baseDisconnectPort (connectionId : String) :
    (baseDisconnectPort clock answer connectionId).Keeps false := by
  refine .synchronized (.bind keeps_look fun port => ?_)
  split
  · exact keeps_raise
  · refine .bind (keeps_change _) fun _ => .bind (.forEach fun streamID _ => ?_) fun _ =>
      keeps_change _
    exact .ite (fun _ => .tryExcept (keeps_sendPacket _ _ _ _ _) (keeps_pure _)) fun _ =>
      keeps_pure _

end Sending

section Streams

theorem keeps_withStream {β : Type} {handle : Nat} {body : OutputStream α Time → PortCode α Time β}
    (each : ∀ stream, (body stream).Keeps held) : (withStream handle body).Keeps held := by
  refine .bind keeps_look fun port => ?_
  split
  · exact keeps_raise
  · exact each _

theorem keeps_send (handle : Nat) (data : List α) (time : Time) (eos : Bool) :
    (send clock answer handle data time eos).Keeps false := by
  refine keeps_withStream fun stream => .bind (.ite (fun _ => ?_) fun _ => keeps_pure _) fun _ =>
    keeps_pushPacket _ _ _ _
  exact .bind (keeps_pushSRI _) fun _ => keeps_change _

theorem keeps_flushBuffer (handle : Nat) (eos : Bool) : (flushBuffer clock answer handle eos).Keeps false :=
  keeps_withStream fun _ => .bind (keeps_send _ _ _ _) fun _ => keeps_change _

theorem keeps_flush (handle : Nat) : (flush clock answer handle).Keeps false :=
  keeps_withStream fun _ => .ite (fun _ => keeps_pure _) fun _ => keeps_flushBuffer _ _

theorem keeps_setMetadata (handle : Nat) (setter : MetadataChange) :
    (setMetadata clock answer handle setter).Keeps false := by
  refine keeps_withStream fun stream => ?_
  split
  · exact keeps_pure _
  · refine .bind (.bind keeps_look fun port => .bind ?_ fun _ => keeps_change _) fun _ =>
      keeps_change _
    exact .ite (fun _ => keeps_flush _) fun _ => keeps_pure _

theorem keeps_doBuffer (handle depth : Nat) (data : List α) (time : Time) :
    (doBuffer clock answer handle depth data time).Keeps false := by
  induction depth generalizing data time with
  | zero => exact keeps_raise
  | succ depth ih =>
      refine keeps_withStream fun stream => .bind (keeps_change _) fun _ =>
        .bind (.ite (fun _ => keeps_flushBuffer _ _) fun _ => keeps_pure _) fun _ => ?_
      exact .ite (fun _ => ih _ _) fun _ => keeps_pure _

theorem keeps_write (depth handle : Nat) (data : List α) (time : Time) :
    (write clock answer depth handle data time).Keeps false := by
  have buffered : (withStream handle fun stream =>
      if stream.bufferSize = 0 ∨ stream.buffer.isEmpty ∧ stream.bufferSize ≤ data.length then
        send clock answer handle data time false
      else doBuffer clock answer handle depth data time).Keeps false :=
    keeps_withStream fun _ => .ite (fun _ => keeps_send _ _ _ _) fun _ => keeps_doBuffer _ _ _ _
  refine .bind keeps_look fun port => ?_
  split
  · exact buffered
  · exact buffered
  · exact keeps_send _ _ _ _
  · exact keeps_send _ _ _ _
  · exact keeps_raise
  · exact keeps_raise

theorem keeps_setBufferSize (handle : Nat) (samples : Int) :
    (setBufferSize clock answer handle samples).Keeps false := by
  refine .bind keeps_look fun port => .ite (fun _ => keeps_raise) fun _ =>
    .bind (keeps_change _) fun _ => keeps_withStream fun stream => ?_
  exact .ite (fun _ => keeps_flush _) fun _ => keeps_pure _

end Streams

section Calls

def OutPort.idle (port : OutPort α Time) : Guarded (OutPort α Time) (RemoteCall α Time) Reply :=
  ⟨false, port, []⟩

/-- An SRI that changes a registered stream finds no data of it buffered, and `updateStream` finds
the stream. -/
def Harmless (call : PortCall α Time) (port : OutPort α Time) : Prop :=
  match call with
  | .createStream (.inr sri) => ∀ handle stream, port.streams.lookup sri.streamID = some handle →
      port.objects[handle]? = some stream → port.kind.buffered = true →
      stream.buffer = [] ∨ sriDiffers stream.sri sri = false
  | .updateStream streamDef => port.kind = .attachable → port.hasStreamId streamDef.id = true
  | _ => True

variable {port : OutPort α Time} {world : Guarded (OutPort α Time) (RemoteCall α Time) Reply}

variable {handle : Nat} {stream : OutputStream α Time}

section

variable (taken : world.locked = true) (at_ : world.data.objects[handle]? = some stream)
include taken at_

theorem send_stuck (kind : world.data.kind ≠ .attachable) (data : List α) (time : Time) (eos : Bool) :
    send clock answer handle data time eos world = .stuck := by
  have sri : ∀ H, pushSRI clock answer H world = .stuck := fun H => by
    simp only [pushSRI, Code.bind, look, if_neg kind]
    exact synchronized_stuck taken
  simp only [send, withStream, Code.bind, look, at_]
  by_cases modified : stream.sriModified = true
  · rw [if_pos modified, bind_stuck (sri _)]
  · rw [if_neg modified]
    simp only [Code.pure, pushPacket, Code.bind, look]
    by_cases known : stream.sri.streamID ∈ world.data.sriDict
    · rw [if_pos known]
      exact synchronized_stuck taken
    · rw [if_neg known, sri]

theorem flush_stuck (kind : world.data.kind ≠ .attachable)
    (buffered : stream.buffer ≠ []) : flush clock answer handle world = .stuck := by
  have filled : ¬stream.buffer.isEmpty = true := by simpa using buffered
  simp only [flush, withStream, Code.bind, look, at_, if_neg filled, flushBuffer, send_stuck taken at_ kind]

theorem modifyingStreamMetadata_ended (harmless : world.data.kind.buffered = true → stream.buffer = []) :
    Ended true (modifyingStreamMetadata clock answer handle world) := by
  simp only [modifyingStreamMetadata, Code.bind, look]
  by_cases kind : world.data.kind.buffered = true
  · simpa [if_pos kind, flush, withStream, Code.bind, look, at_, harmless kind, Code.pure, change,
      Ended] using taken
  · simpa [if_neg kind, Code.pure, change, Ended] using taken

theorem modifyingStreamMetadata_stuck (kind : world.data.kind.buffered = true) (filled : stream.buffer ≠ []) :
    modifyingStreamMetadata clock answer handle world = .stuck := by
  have other : world.data.kind ≠ .attachable := fun equal => by simp [equal, PortKind.buffered] at kind
  simp only [modifyingStreamMetadata, Code.bind, look, if_pos kind, flush_stuck taken at_ other filled]

end

theorem createStream_ended_iff {sri : StreamSRI} :
    Ended false (createStream clock answer (.inr sri) port.idle) ↔ Harmless (.createStream (.inr sri)) port := by
  cases found : port.streams.lookup sri.streamID with
  | none =>
      refine iff_of_true (ended_synchronized rfl ?_) fun handle stream registered => ?_
      · simp [Code.bind, look, OutPort.idle, found, change, Code.pure, Ended]
      · simp [found] at registered
  | some handle =>
      have shape : createStream clock answer (.inr sri) port.idle =
          synchronized ((setMetadata clock answer handle (.sri sri)).bind fun _ =>
            Code.pure handle) port.idle := by
        simp [createStream, synchronized, Code.bind, acquire, OutPort.idle, look, Code.tryFinally, found]
      rw [shape]
      cases at_ : port.objects[handle]? with
      | none =>
          refine iff_of_true (ended_synchronized rfl ?_) fun other stream registered place => ?_
          · simp [setMetadata, withStream, Code.bind, look, OutPort.idle, at_, raise, Ended]
          · rw [found, Option.some.injEq] at registered
            simp [← registered, at_] at place
      | some stream =>
          cases differs : sriDiffers stream.sri sri with
          | false =>
              refine iff_of_true (ended_synchronized rfl ?_) fun other same registered place => ?_
              · simp [setMetadata, withStream, Code.bind, look, OutPort.idle, at_, changedSRI,
                  differs, Code.pure, Ended]
              · rw [found, Option.some.injEq] at registered
                rw [← registered, at_, Option.some.injEq] at place
                exact fun _ => .inr (place ▸ differs)
          | true =>
              have changes : setMetadata clock answer handle (.sri sri)
                  { port.idle with locked := true } =
                    ((modifyingStreamMetadata clock answer handle).bind fun _ =>
                      change (OutPort.updateObject handle fun updated =>
                        { updated with sri := { sri with streamID := stream.sri.streamID } }))
                      { port.idle with locked := true } := by
                simp [setMetadata, withStream, Code.bind, look, OutPort.idle, at_, changedSRI,
                  differs]
              by_cases harmful : port.kind.buffered = true ∧ stream.buffer ≠ []
              · have stuck : modifyingStreamMetadata clock answer handle
                    { port.idle with locked := true } = .stuck :=
                  modifyingStreamMetadata_stuck rfl at_ harmful.1 harmful.2
                have waits : synchronized ((setMetadata clock answer handle (.sri sri)).bind
                    fun _ => Code.pure handle) port.idle = .stuck :=
                  synchronized_of_stuck rfl (bind_stuck (changes.trans (bind_stuck stuck)))
                refine iff_of_false (by rw [waits]; exact id) fun harmless => ?_
                rcases harmless handle stream found at_ harmful.1 with empty | same
                · exact harmful.2 empty
                · simp [differs] at same
              · have safe : port.kind.buffered = true → stream.buffer = [] := fun kind =>
                  by_contra fun filled => harmful ⟨kind, filled⟩
                refine iff_of_true (ended_synchronized rfl ?_) fun other same registered place => ?_
                · have ended : Ended true (modifyingStreamMetadata clock answer handle
                      { port.idle with locked := true }) :=
                    modifyingStreamMetadata_ended rfl at_ safe
                  refine ended_bind ?_ fun _ _ kept => kept
                  rw [changes]
                  exact ended_bind ended fun _ _ kept => kept
                · rw [found, Option.some.injEq] at registered
                  rw [← registered, at_, Option.some.injEq] at place
                  exact fun kind => .inl (place ▸ safe kind)

theorem updateStream_ended_iff {streamDef : StreamDefinition} :
    Ended false (updateStream answer streamDef port.idle) ↔ port.hasStreamId streamDef.id = true := by
  by_cases known : port.hasStreamId streamDef.id = true
  · refine iff_of_true ?_ known
    have removes : (onStreams (removeStreamByStreamId .python answer streamDef.id) :
        PortCode α Time Unit).Returns true := .within (returns_removeStreamByStreamId streamDef.id)
    obtain ⟨_, after, result, taken⟩ := removes ⟨true, port, []⟩ rfl
    simp only [updateStream, Code.bind, acquire, OutPort.idle, Bool.false_eq_true, if_false, look,
      known, if_true, result, release, taken]
    exact keeps_addStream streamDef _ rfl
  · refine iff_of_false ?_ known
    simp [updateStream, OutPort.idle, acquire, Code.bind, look, known, Code.pure, Ended]

theorem keeps_dispatch {attachable other : PortCode α Time Unit} (one : attachable.Keeps false)
    (two : other.Keeps false) : (dispatch attachable other).Keeps false :=
  .bind keeps_look fun _ => .ite (fun _ => one) fun _ => two

theorem keeps_ofAttachable {body : PortCode α Time Bool} (each : body.Keeps false) :
    (ofAttachable body).Keeps false :=
  keeps_dispatch (.bind each fun _ => keeps_pure _) keeps_raise

theorem keeps_createStream_id (streamID : String) : (createStream clock answer (.inl streamID)).Keeps false := by
  refine .synchronized (.bind keeps_look fun port => ?_)
  dsimp only
  split
  · exact keeps_pure _
  · rename_i other
    cases other
  · exact .bind (keeps_change _) fun _ => keeps_pure _

/-- Every operation but two ends with the lock free in every state; those two do so exactly when
they are harmless. -/
theorem lock_kept_iff (clock : Clock Time) (answer : Nat → RemoteCall α Time → Option Reply)
    (call : PortCall α Time) (port : OutPort α Time) :
    Ended false (perform clock answer call port.idle) ↔ Harmless call port := by
  have always : ∀ {call : PortCall α Time}, (perform clock answer call).Keeps false →
      (Harmless call port ↔ True) → (Ended false (perform clock answer call port.idle) ↔ Harmless call port) :=
    fun keeps harmless => iff_of_true (keeps port.idle rfl) (harmless.mpr trivial)
  cases call with
  | connectPort connection connectionId =>
      exact always (keeps_dispatch (keeps_attachableConnectPort _ _) (keeps_baseConnectPort _ _))
        Iff.rfl
  | disconnectPort connectionId =>
      exact always (keeps_dispatch (keeps_attachableDisconnectPort _) (keeps_baseDisconnectPort _))
        Iff.rfl
  | updateConnectionFilter filterTable =>
      exact always (keeps_dispatch (keeps_attachableUpdateConnectionFilter _)
        (.synchronized (keeps_change _))) Iff.rfl
  | pushSRI H T =>
      cases T with
      | none => exact always (keeps_pushSRI H) Iff.rfl
      | some T => exact always (keeps_dispatch (keeps_attachablePushSRI H T) keeps_raise) Iff.rfl
  | pushPacket data T EOS streamID => exact always (keeps_pushPacket _ _ _ _) Iff.rfl
  | createStream stream =>
      cases stream with
      | inl streamID =>
          exact always (.bind (keeps_createStream_id streamID) fun _ => keeps_pure _) Iff.rfl
      | inr sri =>
          have shape : Ended false (perform clock answer (.createStream (.inr sri)) port.idle) ↔
              Ended false (createStream clock answer (.inr sri) port.idle) := ended_bind_pure ()
          exact shape.trans createStream_ended_iff
  | write depth handle data time => exact always (keeps_write _ _ _ _) Iff.rfl
  | setMetadata handle setter => exact always (keeps_setMetadata _ _) Iff.rfl
  | setBufferSize handle samples => exact always (keeps_setBufferSize _ _) Iff.rfl
  | flush handle =>
      have flushes : (look.bind fun port : OutPort α Time =>
          if port.kind.buffered then flush clock answer handle else raise).Keeps false :=
        .bind keeps_look fun _ => .ite (fun _ => keeps_flush _) fun _ => keeps_raise
      exact always flushes Iff.rfl
  | close handle => 
      exact always (keeps_withStream fun _ => .ite (fun _ => keeps_send _ _ _ _) fun _ => keeps_flushBuffer _ _) Iff.rfl
  | addStream streamDef => exact always (keeps_ofAttachable (keeps_addStream _)) Iff.rfl
  | updateStream streamDef =>
      by_cases kind : port.kind = .attachable
      · have shape : Ended false (perform clock answer (.updateStream streamDef) port.idle) ↔
            Ended false (updateStream answer streamDef port.idle) := by
          simp only [perform, ofAttachable, dispatch, Code.bind, look, OutPort.idle, if_pos kind]
          exact ended_bind_pure ()
        simpa [Harmless, kind] using shape.trans updateStream_ended_iff
      · refine iff_of_true ?_ fun equal => absurd equal kind
        simp [perform, ofAttachable, dispatch, Code.bind, look, OutPort.idle, kind, raise, Ended]
  | attach streamDef =>
      exact always (keeps_ofAttachable (.bind (.within (returns_removeStreamByStreamId _).keeps) fun _ =>
        keeps_addStream _)) Iff.rfl
  | detach attachId connectionId =>
      exact always (keeps_dispatch (keeps_detach _ _) keeps_raise) Iff.rfl
  | removeStream streamId =>
      exact always (keeps_dispatch (.within (returns_removeStreamByStreamId _).keeps) keeps_raise) Iff.rfl

def emptyPort : OutPort Int Nat where
  name := "sdds_out"
  kind := .attachable
  maxSamplesPerPush := 1024
  outConnections := ∅
  sriDict := ∅
  filterTable := []
  objects := []
  streams := ∅
  streamContainer := []

theorem updateStream_keeps_lock :
    ¬∀ (clock : Clock Nat) (answer : Nat → RemoteCall Int Nat → Option Reply)
      (call : PortCall Int Nat) (port : OutPort Int Nat),
      Ended false (perform clock answer call port.idle) := by
  intro kept
  have ended := kept ⟨0, fun _ => true, fun time _ => time⟩ (fun _ _ => none)
    (.updateStream ⟨"s", ""⟩) emptyPort
  simp [perform, ofAttachable, dispatch, updateStream, Code.bind, look, acquire, OutPort.idle,
    emptyPort, OutPort.hasStreamId, Attachable.hasStreamId, Code.pure, Ended] at ended

end Calls

end Redhawk.Bulkio.Py
