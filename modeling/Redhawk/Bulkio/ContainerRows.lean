import Redhawk.Bulkio.StreamContainer
import Redhawk.Library.Lists

/-!
What the code of a `StreamContainer` does to the matrix of streams and connections, when its remote
calls succeed, and the account of the attachments that it makes and detaches.
-/

namespace Redhawk.Bulkio.Attachable

open Library Library.Code StreamAttachment List Function

variable {α Time Data : Type}

structure Row where
  streamId : String
  pairs : List (String × Nat)
deriving DecidableEq

def StreamAttachment.pair (att : StreamAttachment) : String × Nat :=
  (att.connectionId, att.inputPort)

def Stream.row (stream : Stream) : Row :=
  ⟨stream.streamId, stream.streamAttachments.map pair⟩

def rows (streams : List Stream) : List Row := streams.map Stream.row

def attachments (streams : List Stream) : List StreamAttachment :=
  streams.flatMap Stream.streamAttachments

section Effects

def Row.hasConnectionId (connectionId : String) (row : Row) : Bool :=
  row.pairs.any fun pair => pair.1 == connectionId

def Row.append (pair : String × Nat) (row : Row) : Row := { row with pairs := row.pairs ++ [pair] }

def Row.add (chosen : String → Bool) (pair : String × Nat) (row : Row) : Row :=
  if chosen row.streamId && !row.hasConnectionId pair.1 then row.append pair else row

def Row.drop (picked : String → Bool) (row : Row) : Row :=
  { row with pairs := row.pairs.filter fun pair => !picked pair.1 }

def Row.reconcile (expected : List (String × Nat)) (row : Row) : Row :=
  (expected.foldl (fun row pair => row.add (fun _ => true) pair) row).drop fun connectionId =>
    !(expected.map Prod.fst).contains connectionId

def connectRow (rules : List ConnectionDescriptor) (connectionId : String) (object : Nat) (row : Row) : Row :=
  let row := rules.foldl (fun row entry =>
    if entry.connectionId == connectionId then
      row.add (fun id => id == entry.streamId) (connectionId, object)
    else row) row
  if rules.isEmpty then row.add (fun _ => true) (connectionId, object) else row

def filterRow (rules : List ConnectionDescriptor) (connections : List (String × Nat)) (row : Row) : Row :=
  let expected := expectedAttachments rules connections row.streamId
  if !expected.isEmpty then row.reconcile expected
  else if rules.isEmpty then
    connections.foldl (fun row pair => row.add (fun _ => true) pair) row
  else row.drop fun _ => true

def listing (rules : List ConnectionDescriptor) (streamId connectionId : String) :
    List ConnectionDescriptor :=
  rules.filter fun entry => entry.connectionId == connectionId && entry.streamId == streamId

def newPairs (rules : List ConnectionDescriptor) (connections : List (String × Nat))
    (streamId : String) : List (String × Nat) :=
  (connections.flatMap fun connection =>
    (listing rules streamId connection.1).map fun _ => connection) ++
    if rules.isEmpty then connections else []

@[simp] theorem Row.streamId_add (chosen : String → Bool) (pair : String × Nat) (row : Row) :
    (row.add chosen pair).streamId = row.streamId := by
  unfold Row.add
  split <;> rfl

@[simp] theorem Row.streamId_foldl_add (chosen : String → Bool) (pairs : List (String × Nat))
    (row : Row) : (pairs.foldl (fun row pair => row.add chosen pair) row).streamId = row.streamId := by
  induction pairs generalizing row with
  | nil => rfl
  | cons pair rest ih => rw [foldl_cons, ih, streamId_add]

@[simp] theorem Row.streamId_drop (picked : String → Bool) (row : Row) :
    (row.drop picked).streamId = row.streamId := rfl

@[simp] theorem Row.streamId_reconcile (expected : List (String × Nat)) (row : Row) :
    (row.reconcile expected).streamId = row.streamId := by simp [Row.reconcile]

end Effects

section Account

abbrev Log (α Time : Type) := List (RemoteCall α Time × Option Reply)

def attachCalls (object : Nat) (attachId : String) (calls : Log α Time) : Nat :=
  calls.countP fun call => match call with
    | (.attach other _ _, some (.returns id)) => other == object && id == attachId
    | _ => false

def detachCalls (object : Nat) (attachId : String) (calls : Log α Time) : Nat :=
  calls.countP fun call => match call with
    | (.detach other id, some _) => other == object && id == attachId
    | _ => false

def heldAs (object : Nat) (attachId : String) (atts : List StreamAttachment) : Nat :=
  atts.countP fun att => att.inputPort == object && att.attachId == attachId

/-- Every attachment that was made is held, or was detached once; and only those are detached. -/
structure Accounts (atts : List StreamAttachment) (calls : Log α Time) : Prop where
  named : ∀ att ∈ atts, att.attachId ≠ ""
  balanced : ∀ object attachId,
    attachCalls object attachId calls = heldAs object attachId atts + detachCalls object attachId calls

variable {atts : List StreamAttachment} {calls : Log α Time}

theorem Accounts.perm {other : List StreamAttachment}
    (accounts : Accounts atts calls) (same : atts.Perm other) : Accounts other calls where
  named att held := accounts.named att (same.mem_iff.mpr held)
  balanced object attachId := by
    have counted : heldAs object attachId atts = heldAs object attachId other := same.countP_eq _
    rw [accounts.balanced object attachId, counted]

theorem Accounts.attach (accounts : Accounts atts calls) {connectionId attachId : String} (named : attachId ≠ "")
    (object : Nat) (streamDef : StreamDefinition) (name : String) :
    Accounts (atts ++ [⟨connectionId, attachId, object⟩])
      (calls ++ [(.attach object streamDef name, some (.returns attachId))]) where
  named att held := by
    rcases mem_append.mp held with old | new
    · exact accounts.named att old
    · rw [mem_singleton.mp new]
      exact named
  balanced other id := by
    have before := accounts.balanced other id
    simp only [attachCalls, detachCalls, heldAs, countP_append, countP_singleton]
      at before ⊢
    simp only [Bool.false_eq_true, if_false, Nat.add_zero]
    omega

theorem Accounts.detach {att : StreamAttachment} (accounts : Accounts (att :: atts) calls) (reply : Reply) :
    Accounts atts (calls ++ [(.detach att.inputPort att.attachId, some reply)]) where
  named other held := accounts.named other (mem_cons_of_mem att held)
  balanced other id := by
    have before := accounts.balanced other id
    simp only [attachCalls, detachCalls, heldAs, countP_append, countP_cons,
      countP_nil] at before ⊢
    simp only [Bool.false_eq_true, if_false, Nat.add_zero]
    omega

def RemoteCall.Quiet : RemoteCall α Time → Prop
  | .attach .. => False
  | .detach .. => False
  | _ => True

theorem Accounts.quiet (accounts : Accounts atts calls) {call : RemoteCall α Time} (quiet : call.Quiet)
    (reply : Option Reply) : Accounts atts (calls ++ [(call, reply)]) where
  named := accounts.named
  balanced other id := by
    have before := accounts.balanced other id
    simp only [attachCalls, detachCalls, countP_append, countP_singleton] at before ⊢
    cases call <;> first | exact quiet.elim | simpa using before

end Account

structure Succeeds (answer : Nat → RemoteCall α Time → Option Reply) : Prop where
  returns : ∀ number call, (answer number call).isSome
  agrees : ∀ number object, answer number (.isA object) ≠ some .refuses
  attaches : ∀ number object streamDef name, ∃ attachId, attachId ≠ "" ∧
    answer number (.attach object streamDef name) = some (.returns attachId)

section Gives

variable {answer : Nat → RemoteCall α Time → Option Reply} {β : Type}

abbrev ContainerWorld (α Time : Type) := Guarded (List Stream) (RemoteCall α Time) Reply

def ContainerWorld.accounted (world : ContainerWorld α Time) : Prop :=
  Accounts (attachments world.data) world.calls

def Gives (code : ContainerCode α Time β) (world : ContainerWorld α Time) (after : List Row) : Prop :=
  code.Yields world fun _ last => rows last.data = after ∧ ContainerWorld.accounted last ∧
    last.locked = world.locked ∧ world.calls <+: last.calls

def Does (code : ContainerCode α Time β) (effect : List Row → List Row) : Prop :=
  ∀ world : ContainerWorld α Time, world.accounted → Gives code world (effect (rows world.data))

theorem Does.bind {γ : Type} {code : ContainerCode α Time β} {next : β → ContainerCode α Time γ}
    {first second : List Row → List Row} (does : Does code first)
    (goesOn : ∀ value, Does (next value) second) :
    Does (code.bind next) fun rows => second (first rows) := by
  intro world accounted
  refine yields_bind.mpr ((does world accounted).mono ?_)
  rintro value middle ⟨rowsAre, accounts, lock, extends_⟩
  refine (goesOn value middle accounts).mono ?_
  rintro _ last ⟨lastRows, lastAccounts, lastLock, further⟩
  exact ⟨by rw [lastRows, rowsAre], lastAccounts, lastLock.trans lock, extends_.trans further⟩

theorem does_pure (value : β) : Does (Code.pure value : ContainerCode α Time β) id :=
  fun _ accounted => ⟨rfl, accounted, rfl, prefix_rfl⟩

theorem Does.forEach {γ : Type} {items : List γ} {body : γ → ContainerCode α Time Unit}
    {effect : γ → List Row → List Row} (each : ∀ item ∈ items, Does (body item) (effect item)) :
    Does (forEach items body) fun rows => items.foldl (fun rows item => effect item rows) rows := by
  induction items with
  | nil => exact does_pure ()
  | cons item rest ih =>
      exact (each item mem_cons_self).bind fun _ =>
        ih fun other member => each other (mem_cons_of_mem item member)

theorem Does.tryExcept {body handler : ContainerCode α Time β} {effect : List Row → List Row}
    (does : Does body effect) : Does (tryExcept body handler) effect :=
  fun world accounted => (does world accounted).tryExcept

theorem does_look {body : List Stream → ContainerCode α Time β} {effect : List Row → List Row}
    (each : ∀ world : ContainerWorld α Time, world.accounted →
      Gives (body world.data) world (effect (rows world.data))) :
    Does (look.bind body) effect := fun world accounted =>
  yields_bind.mpr (yields_look.mpr (each world accounted))

variable {index : Nat} {change : Row → Row}

theorem does_atStream {body : Stream → ContainerCode α Time Unit}
    (each : ∀ (world : ContainerWorld α Time) (stream : Stream),
      world.accounted → world.data[index]? = some stream →
        Gives (body stream) world ((rows world.data).modify index change)) :
    Does (atStream index () body) fun rows => rows.modify index change := by
  refine does_look fun world accounted => ?_
  cases found : world.data[index]? with
  | none =>
      have beyond : (rows world.data).length ≤ index := by
        simpa [rows] using List.getElem?_eq_none_iff.mp found
      have same := does_pure () world accounted
      rwa [id_eq, ← modify_eq_self beyond] at same
  | some stream => exact each world stream accounted found

variable {body : Nat → ContainerCode α Time Unit}

theorem does_forEachStream (each : ∀ index, Does (body index) fun rows => rows.modify index change) :
    Does (forEachStream body) fun rows => rows.map change := by
  refine does_look fun world accounted => ?_
  have loop := Does.forEach (fun index (_ : index ∈ range world.data.length) => each index)
    world accounted
  have whole := foldl_range_modify change (rows world.data)
  rw [show (rows world.data).length = world.data.length from length_map _] at whole
  beta_reduce at loop
  rwa [whole] at loop

theorem rows_modify {streams : List Stream} {update : Stream → Stream}
    (same : ∀ stream, streams[index]? = some stream → (update stream).row = change stream.row) :
    rows (streams.modify index update) = (rows streams).modify index change := by
  apply ext_getElem?
  intro position
  simp only [rows, getElem?_map, getElem?_modify]
  by_cases here : index = position
  · subst here
    cases found : streams[index]? with
    | none => rfl
    | some stream => simp [same stream found]
  · simp [here]

variable {stream : Stream}

theorem attachments_split {streams : List Stream}
    (found : streams[index]? = some stream) : ∃ before after,
      attachments streams = before ++ (stream.streamAttachments ++ after) ∧
        ∀ update : Stream → Stream, attachments (streams.modify index update) =
          before ++ ((update stream).streamAttachments ++ after) := by
  induction streams generalizing index with
  | nil => simp at found
  | cons first rest ih =>
      cases index with
      | zero =>
          have same : first = stream := by simpa using found
          subst same
          exact ⟨[], attachments rest, by simp [attachments], fun update => by simp [attachments]⟩
      | succ index =>
          obtain ⟨before, after, whole, changed⟩ := ih (by simpa using found)
          refine ⟨first.streamAttachments ++ before, after, ?_, fun update => ?_⟩
          · simpa [attachments] using whole
          · simpa [attachments] using changed update

variable {world : ContainerWorld α Time}

theorem yields_detachAttachment (succeeds : Succeeds answer) {language : Language}
    {att : StreamAttachment} {others : List StreamAttachment}
    (accounts : Accounts (att :: others) world.calls) :
    (detachAttachment language answer att).Yields world fun _ after =>
      after.data = world.data ∧ Accounts others after.calls ∧ after.locked = world.locked ∧
        world.calls <+: after.calls := by
  have named : ¬(language = .cpp ∧ att.attachId = "") := fun empty =>
    accounts.named att mem_cons_self empty.2
  obtain ⟨reply, answers⟩ := Option.isSome_iff_exists.mp
    (succeeds.returns world.calls.length (.detach att.inputPort att.attachId))
  rw [detachAttachment, if_neg named]
  refine (yields_bind.mpr (yields_remote answers ?_)).tryExcept
  exact ⟨rfl, accounts.detach reply, rfl, prefix_append _ _⟩

section

variable (succeeds : Succeeds answer) (language : Language)

include succeeds

theorem does_detachWhere {chosen : StreamAttachment → Bool} {picked : String → Bool}
    (choice : ∀ att, att.attachId ≠ "" → chosen att = picked att.connectionId) (index : Nat) :
    Does (detachWhere language answer chosen index) fun rows =>
      rows.modify index (Row.drop picked) := by
  refine does_atStream fun world stream accounted found => ?_
  obtain ⟨before, after, whole, changed⟩ := attachments_split found
  have named : ∀ att ∈ stream.streamAttachments, att.attachId ≠ "" := fun att held =>
    accounted.named att (by rw [whole]; simp [held])
  have inside : (stream.streamAttachments.filter chosen ++
      stream.streamAttachments.filter fun att => !chosen att).Perm stream.streamAttachments :=
    filter_append_perm chosen stream.streamAttachments
  -- What stays is set apart, so that the loop works through the front of the list.
  generalize keptAre : stream.streamAttachments.filter (fun att => !chosen att) = kept at inside
  have parted : (attachments world.data).Perm
      (stream.streamAttachments.filter chosen ++ (before ++ (kept ++ after))) := by
    rw [whole]
    refine (Perm.append_left before (Perm.append_right after inside.symm)).trans ?_
    rw [append_assoc]
    exact perm_append_comm_assoc _ _ _
  refine yields_bind.mpr ((yields_forEach (fun done current => current.data = world.data ∧
    (∃ rest, done ++ rest = stream.streamAttachments.filter chosen ∧
      Accounts (rest ++ (before ++ (kept ++ after))) current.calls) ∧
    current.locked = world.locked ∧ world.calls <+: current.calls)
    ⟨rfl, ⟨_, rfl, Accounts.perm accounted parted⟩, rfl, prefix_rfl⟩ ?_).mono ?_)
  · rintro done att ⟨more, items⟩ current ⟨data, ⟨rest, parts, accounts⟩, lock, extends_⟩
    have next : rest = att :: more := by
      rw [← items, append_assoc, append_cancel_left_eq] at parts
      exact parts
    subst next
    refine (yields_detachAttachment succeeds accounts).mono ?_
    rintro _ last ⟨lastData, lastAccounts, lastLock, further⟩
    exact ⟨lastData.trans data, ⟨more, items, lastAccounts⟩, lastLock.trans lock, extends_.trans further⟩
  · rintro _ last ⟨data, ⟨rest, parts, accounts⟩, lock, extends_⟩
    have none : rest = [] := by simpa using parts
    subst none
    refine yields_change.mpr ⟨?_, ?_, lock, extends_⟩
    · rw [data]
      refine rows_modify fun other place => ?_
      rw [found, Option.some.injEq] at place
      subst place
      simp only [Stream.row, Row.drop, Row.mk.injEq, true_and, filter_map]
      refine congrArg _ (filter_congr fun att held => ?_)
      rw [choice att (named att held)]
      rfl
    · simpa [ContainerWorld.accounted, data, changed, keptAre] using accounts

theorem does_detachAll (index : Nat) :
    Does (detachAll language answer index) fun rows =>
      rows.modify index (Row.drop fun _ => true) := by
  have all : ∀ att : StreamAttachment, att.attachId ≠ "" →
      true = (fun _ : String => true) att.connectionId := fun _ _ => rfl
  exact does_detachWhere succeeds language all index

theorem does_detachByConnectionId (connectionId : String) (index : Nat) :
    Does (detachByConnectionId language answer connectionId index) fun rows =>
      rows.modify index (Row.drop fun id => id == connectionId) :=
  does_detachWhere succeeds language (fun att named => by simp [named]) index

end

variable {atts : List StreamAttachment}

theorem yields_newAttachment (succeeds : Succeeds answer) {streamDef : StreamDefinition}
    {name connectionId : String} {object : Nat}
    {world : Guarded Data (RemoteCall α Time) Reply} (accounts : Accounts atts world.calls) :
    (newAttachment answer streamDef name connectionId object).Yields world fun att after =>
      att.pair = (connectionId, object) ∧ Accounts (atts ++ [att]) after.calls ∧
        after.data = world.data ∧ after.locked = world.locked ∧ world.calls <+: after.calls := by
  obtain ⟨attachId, named, answers⟩ :=
    succeeds.attaches world.calls.length object streamDef name
  refine yields_bind.mpr (yields_remote answers ?_)
  exact ⟨rfl, accounts.attach named object streamDef name, rfl, rfl, prefix_append _ _⟩

theorem does_createNewAttachment (succeeds : Succeeds answer) (connectionId : String)
    (object index : Nat) : Does (createNewAttachment answer connectionId object index) fun rows =>
      rows.modify index (Row.append (connectionId, object)) := by
  refine does_atStream fun world stream accounted found => ?_
  obtain ⟨before, after, whole, changed⟩ := attachments_split found
  refine yields_bind.mpr ((yields_newAttachment succeeds accounted).mono ?_)
  rintro att last ⟨pair, accounts, data, lock, extends_⟩
  refine yields_change.mpr ⟨?_, ?_, lock, extends_⟩
  · rw [data]
    exact rows_modify fun other _ => by simp [Stream.row, Row.append, pair]
  · have held : (attachments world.data ++ [att]).Perm
        (before ++ ((stream.streamAttachments ++ [att]) ++ after)) := by
      rw [whole, append_assoc, append_assoc, append_assoc]
      exact .append_left _ (.append_left _ perm_append_comm)
    show Accounts _ _
    rw [data, changed]
    exact accounts.perm held

theorem row_hasConnectionId (stream : Stream) (connectionId : String) :
    stream.row.hasConnectionId connectionId = stream.hasConnectionId connectionId := by
  simp [Row.hasConnectionId, Stream.hasConnectionId, Stream.row, any_map, comp_def,
    pair]

theorem gives_unchanged (accounted : world.accounted) (found : world.data[index]? = some stream)
    (same : change stream.row = stream.row) :
    Gives (Code.pure () : ContainerCode α Time Unit) world
      ((rows world.data).modify index change) := by
  have unchanged : (rows world.data).modify index change = rows world.data := by
    apply ext_getElem?
    intro position
    by_cases here : index = position
    · subst here
      simp [rows, found, same]
    · simp [here]
  rw [unchanged]
  exact does_pure () world accounted

theorem gives_of_modify {code : ContainerCode α Time β} (found : world.data[index]? = some stream)
    {other : Row → Row} (same : change stream.row = other stream.row)
    (gives : Gives code world ((rows world.data).modify index other)) :
    Gives code world ((rows world.data).modify index change) := by
  have changes : (rows world.data).modify index change = (rows world.data).modify index other := by
    apply ext_getElem?
    intro position
    by_cases here : index = position
    · subst here
      simp [rows, found, same]
    · simp [here]
  rwa [changes]

theorem does_addConnectionWhere (succeeds : Succeeds answer) (chosen : String → Bool)
    (connectionId : String) (object : Nat) :
    Does (addConnectionWhere answer chosen connectionId object) fun rows =>
      rows.map (Row.add chosen (connectionId, object)) := by
  refine does_forEachStream fun index => does_atStream fun world stream accounted found => ?_
  by_cases wanted : (chosen stream.streamId && !stream.hasConnectionId connectionId) = true
  · rw [if_pos wanted]
    refine gives_of_modify found ?_ (does_createNewAttachment succeeds _ _ _ world accounted)
    rw [Row.add, row_hasConnectionId]
    exact if_pos wanted
  · rw [if_neg wanted]
    refine gives_unchanged accounted found ?_
    rw [Row.add, row_hasConnectionId]
    exact if_neg wanted

theorem foldl_drop (connectionIds : List String) (row : Row) :
    connectionIds.foldl (fun row connectionId => row.drop fun id => id == connectionId) row =
      row.drop connectionIds.contains := by
  induction connectionIds generalizing row with
  | nil => simp [Row.drop]
  | cons connectionId rest ih =>
      rw [foldl_cons, ih]
      simp only [Row.drop, filter_filter, Row.mk.injEq, true_and]
      refine filter_congr fun pair _ => ?_
      rw [contains_cons, Bool.not_or, Bool.and_comm]

theorem drop_present (unwanted : String → Bool) (row : Row) :
    row.drop ((row.pairs.map Prod.fst).filter unwanted).contains = row.drop unwanted := by
  simp only [Row.drop, Row.mk.injEq, true_and]
  refine filter_congr fun pair held => ?_
  have present : pair.1 ∈ row.pairs.map Prod.fst := mem_map_of_mem held
  congr 1
  rw [Bool.eq_iff_iff, contains_iff_mem, mem_filter]
  exact and_iff_right present

section

variable (succeeds : Succeeds answer)
include succeeds

variable (language : Language)

theorem does_attachExpected (att : String × Nat) (index : Nat) :
    Does (attachExpected language answer att index) fun rows =>
      rows.modify index (Row.add (fun _ => true) att) := by
  refine does_atStream fun world stream accounted found => ?_
  by_cases has : stream.hasConnectionId att.1 = true
  · rw [if_pos has]
    exact gives_unchanged accounted found (by simp [Row.add, row_hasConnectionId, has])
  · rw [if_neg has]
    have adds : stream.row.add (fun _ => true) att = stream.row.append att := by
      simp [Row.add, row_hasConnectionId, has]
    refine gives_of_modify found adds ?_
    have creates := does_createNewAttachment succeeds att.1 att.2 index
    cases language with
    | cpp => exact creates.tryExcept world accounted
    | python => exact creates world accounted

theorem does_detachUnexpected (expectedConnectionIds : List String) (index : Nat) :
    Does (detachUnexpected language answer expectedConnectionIds index) fun rows =>
      rows.modify index (Row.drop fun connectionId =>
        !expectedConnectionIds.contains connectionId) := by
  refine does_atStream fun world stream accounted found => ?_
  have ids : stream.row.pairs.map Prod.fst = stream.streamAttachments.map connectionId := by
    simp [Stream.row, pair, comp_def]
  rw [← ids]
  have loop := Does.forEach (fun connectionId (_ : connectionId ∈ (stream.row.pairs.map
      Prod.fst).filter fun connectionId => !expectedConnectionIds.contains connectionId) =>
    does_detachByConnectionId succeeds language connectionId index) world accounted
  simp only [foldl_modify_index, foldl_drop] at loop
  exact gives_of_modify found (drop_present _ _).symm loop

theorem does_updateAttachments (expected : List (String × Nat)) (index : Nat) :
    Does (updateAttachments language answer expected index) fun rows =>
      rows.modify index (Row.reconcile expected) := by
  have adds := Does.forEach fun att (_ : att ∈ expected) =>
    does_attachExpected succeeds language att index
  have both := adds.bind fun _ =>
    does_detachUnexpected succeeds language (expected.map Prod.fst) index
  simp only [foldl_modify_index, modify_modify_eq] at both
  exact both

theorem does_detachStreamId (streamId : String) :
    Does (detachStreamId language answer streamId) fun rows => rows.map fun row =>
      if row.streamId == streamId then row.drop fun _ => true else row := by
  refine does_forEachStream fun index => does_atStream fun world stream accounted found => ?_
  have known : stream.row.streamId = stream.streamId := rfl
  by_cases here : (stream.streamId == streamId) = true
  · rw [if_pos here]
    refine gives_of_modify found ?_ (does_detachAll succeeds language index world accounted)
    rw [known, if_pos here]
  · rw [if_neg here]
    refine gives_unchanged accounted found ?_
    rw [known, if_neg here]

theorem does_removeStreamByStreamId
    (streamId : String) : Does (removeStreamByStreamId language answer streamId) fun rows =>
      rows.filter fun row => !(row.streamId == streamId) := by
  intro world accounted
  refine yields_bind.mpr
    ((does_detachStreamId succeeds language streamId world accounted).mono ?_)
  rintro _ last ⟨emptied, accounts, lock, extends_⟩
  have keptRows : rows (last.data.filter fun stream => !(stream.streamId == streamId)) =
      (rows last.data).filter fun row => !(row.streamId == streamId) := by
    simp only [rows, filter_map]
    rfl
  refine yields_change.mpr ⟨?_, ?_, lock, extends_⟩
  · rw [keptRows, emptied, filter_map]
    have others : (rows world.data).filter ((fun row => !(row.streamId == streamId)) ∘ fun row =>
        if row.streamId == streamId then row.drop fun _ => true else row) =
          (rows world.data).filter fun row => !(row.streamId == streamId) := by
      refine filter_congr fun row _ => ?_
      simp only [comp_apply]
      split <;> rfl
    rw [others]
    exact (map_congr_left fun row member =>
      if_neg (by simpa using (mem_filter.mp member).2)).trans (map_id _)
  · -- The streams that go have no attachments any more.
    have bare : ∀ stream ∈ last.data, (stream.streamId == streamId) = true → stream.streamAttachments = [] := by
      intro stream member here
      have inRows : stream.row ∈ rows last.data := mem_map_of_mem member
      rw [emptied] at inRows
      obtain ⟨row, -, made⟩ := mem_map.mp inRows
      by_cases gone : (row.streamId == streamId) = true
      · rw [if_pos gone] at made
        have pairs := congrArg Row.pairs made
        simpa [Row.drop, Stream.row, eq_comm] using pairs
      · rw [if_neg gone] at made
        rw [made] at gone
        exact absurd here gone
    have same : attachments (last.data.filter fun stream => !(stream.streamId == streamId)) =
        attachments last.data :=
      flatMap_filter_of_nil fun stream member gone => bare stream member (by simpa using gone)
    show Accounts _ _
    rw [same]
    exact accounts

variable (rules : List ConnectionDescriptor)

theorem does_connectStreams (connectionId : String) (object : Nat) :
    Does (connectStreams answer rules connectionId object) fun rows =>
      rows.map (connectRow rules connectionId object) := by
  have each : ∀ entry ∈ rules, Does (if entry.connectionId == connectionId then
      addConnectionToStream answer connectionId object entry.streamId else Code.pure ()) fun rows =>
      rows.map fun row => if entry.connectionId == connectionId then
        row.add (fun id => id == entry.streamId) (connectionId, object) else row := by
    intro entry _
    by_cases own : (entry.connectionId == connectionId) = true
    · simp only [if_pos own]
      exact does_addConnectionWhere succeeds _ connectionId object
    · simp only [if_neg own, map_id']
      exact does_pure ()
  have rest : Does (if rules.isEmpty then addConnectionToAllStreams answer connectionId object
      else Code.pure ()) fun rows => rows.map fun row =>
        if rules.isEmpty then row.add (fun _ => true) (connectionId, object) else row := by
    by_cases none : rules.isEmpty = true
    · simp only [if_pos none]
      exact does_addConnectionWhere succeeds _ connectionId object
    · simp only [if_neg none, map_id']
      exact does_pure ()
  have both := (Does.forEach each).bind fun _ => rest
  simp only [Library.foldl_map, map_map] at both
  exact both

structure Made (world : Guarded Data (RemoteCall α Time) Reply) (atts : List StreamAttachment)
    (pairs : List (String × Nat)) (made : List StreamAttachment)
    (after : Guarded Data (RemoteCall α Time) Reply) : Prop where
  pairs : made.map pair = pairs
  accounts : Accounts (atts ++ made) after.calls
  data : after.data = world.data
  lock : after.locked = world.locked
  further : world.calls <+: after.calls

theorem Made.attach {world current : Guarded Data (RemoteCall α Time) Reply} {made : List StreamAttachment}
    {pairs : List (String × Nat)} (soFar : Made world atts pairs made current)
    (streamDef : StreamDefinition) (name : String) (connection : String × Nat) :
    ((newAttachment answer streamDef name connection.1 connection.2).bind fun att =>
      Code.pure (made ++ [att])).Yields current (Made world atts (pairs ++ [connection])) := by
  refine yields_bind.mpr ((yields_newAttachment succeeds soFar.accounts).mono ?_)
  rintro att after ⟨pair, accounts, data, lock, further⟩
  exact ⟨by simp [soFar.pairs, pair], by rwa [← append_assoc], data.trans soFar.data,
    lock.trans soFar.lock, soFar.further.trans further⟩

theorem yields_attachListed (connection : String × Nat) (streamDef : StreamDefinition) (name : String)
    {world current : Guarded Data (RemoteCall α Time) Reply} {made : List StreamAttachment}
    {pairs : List (String × Nat)} (soFar : Made world atts pairs made current) :
    (foldEach rules (fun entry atts =>
      if entry.connectionId == connection.1 && entry.streamId == streamDef.id then
        (newAttachment answer streamDef name connection.1 connection.2).bind fun att =>
        Code.pure (atts ++ [att])
      else Code.pure atts) made).Yields current
      (Made world atts (pairs ++ (listing rules streamDef.id connection.1).map fun _ => connection)) := by
  refine yields_foldEach (fun entries => Made world atts
    (pairs ++ (listing entries streamDef.id connection.1).map fun _ => connection))
    (by simpa [listing] using soFar) fun entries entry _ made current soFar => ?_
  by_cases own : (entry.connectionId == connection.1 && entry.streamId == streamDef.id) = true
  · rw [if_pos own]
    have one : listing [entry] streamDef.id connection.1 = [entry] := filter_cons_of_pos own
    have both : listing (entries ++ [entry]) streamDef.id connection.1 =
        listing entries streamDef.id connection.1 ++ listing [entry] streamDef.id connection.1 :=
      filter_append _ _
    rw [both, one, map_append, ← append_assoc]
    exact soFar.attach succeeds streamDef name connection
  · rw [if_neg own]
    have none : listing [entry] streamDef.id connection.1 = [] := by simpa [listing] using own
    have both : listing (entries ++ [entry]) streamDef.id connection.1 =
        listing entries streamDef.id connection.1 ++ listing [entry] streamDef.id connection.1 :=
      filter_append _ _
    rw [both, none, append_nil]
    exact soFar

theorem yields_attachNewStream
    (connections : List (String × Nat)) (streamDef : StreamDefinition) (name : String)
    {world : Guarded Data (RemoteCall α Time) Reply} (accounts : Accounts atts world.calls) :
    (attachNewStream answer rules connections streamDef name).Yields world
      (Made world atts (newPairs rules connections streamDef.id)) := by
  let listed := fun (connections : List (String × Nat)) => connections.flatMap fun connection =>
    (listing rules streamDef.id connection.1).map fun _ => connection
  have start : Made world atts (listed []) [] world :=
    ⟨rfl, by simpa using accounts, rfl, rfl, prefix_rfl⟩
  refine yields_bind.mpr ((yields_foldEach (fun done => Made world atts (listed done)) start
    fun done connection _ made current soFar => ?_).mono fun made current soFar => ?_)
  · have both : listed (done ++ [connection]) =
        listed done ++ (listing rules streamDef.id connection.1).map fun _ => connection := by
      simp [listed]
    rw [both]
    exact yields_attachListed succeeds rules connection streamDef name soFar
  · by_cases none : rules.isEmpty = true
    · rw [if_pos none]
      have pairs : newPairs rules connections streamDef.id = listed connections ++ connections := by
        simp [newPairs, none, listed, listing]
      rw [pairs]
      refine yields_foldEach (fun done => Made world atts (listed connections ++ done))
        (by simpa using soFar) fun done connection _ made current soFar => ?_
      rw [← append_assoc]
      exact soFar.attach succeeds streamDef name connection
    · rw [if_neg none]
      have pairs : newPairs rules connections streamDef.id = listed connections := by
        simp [newPairs, none, listed, listing]
      exact pairs ▸ soFar

end

theorem does_onStream
    (each : ∀ index, Does (body index) fun rows => rows.modify index change) (streamId : String) :
    Does (look.bind fun streams => match findByStreamId streamId streams with
      | some index => body index
      | none => Code.pure ()) fun rows =>
      modifyFirst (fun row : Row => row.streamId == streamId) change rows := by
  refine does_look fun world accounted => ?_
  have place : (rows world.data).findIdx? (fun row => row.streamId == streamId) =
      findByStreamId streamId world.data := by
    rw [rows, findIdx?_map]
    rfl
  unfold modifyFirst
  rw [place]
  cases findByStreamId streamId world.data with
  | none => exact does_pure () world accounted
  | some index => exact each index world accounted

theorem does_applyFilter (succeeds : Succeeds answer) (language : Language)
    (rules : List ConnectionDescriptor) (connections : List (String × Nat))
    {streamIds : List String} (once : streamIds.Nodup)
    (accounted : world.accounted) (distinct : ((rows world.data).map Row.streamId).Nodup)
    (known : ∀ row ∈ rows world.data, row.streamId ∈ streamIds) :
    Gives (applyFilter language answer rules connections streamIds) world
      ((rows world.data).map (filterRow rules connections)) := by
  let expected := expectedAttachments rules connections
  let found := streamIds.filter fun streamId => !(expected streamId).isEmpty
  let missing := streamIds.filter fun streamId => (expected streamId).isEmpty
  have first := Does.forEach fun streamId (_ : streamId ∈ found) =>
    does_onStream (does_updateAttachments succeeds language (expected streamId)) streamId
  have second : Does (if rules.isEmpty then
      forEach connections fun connection =>
        addConnectionToAllStreams answer connection.1 connection.2
    else forEach missing fun streamId => look.bind fun streams =>
      match findByStreamId streamId streams with
      | some index => detachAll language answer index
      | none => Code.pure ()) fun rows =>
      if rules.isEmpty then rows.map fun row =>
        connections.foldl (fun row pair => row.add (fun _ => true) pair) row
      else missing.foldl (fun rows streamId =>
        modifyFirst (fun row : Row => row.streamId == streamId) (Row.drop fun _ => true) rows)
        rows := by
    by_cases none : rules.isEmpty = true
    · simp only [if_pos none]
      have loop := Does.forEach fun connection (_ : connection ∈ connections) =>
        does_addConnectionWhere succeeds (fun _ => true) connection.1 connection.2
      simp only [Library.foldl_map] at loop
      exact loop
    · simp only [if_neg none]
      exact Does.forEach fun streamId _ => does_onStream (does_detachAll succeeds language) streamId
  have both := first.bind (fun _ => second) world accounted
  suffices same : (rows world.data).map (filterRow rules connections) = _ from same ▸ both
  have reconciled := foldl_modifyFirst
    (fun streamId row => Row.streamId_reconcile (expected streamId) row)
    (once.filter fun streamId => !(expected streamId).isEmpty) distinct
  have keys : ((found.foldl (fun table name => modifyFirst (fun entry => entry.streamId == name)
      (Row.reconcile (expected name)) table) (rows world.data)).map Row.streamId).Nodup := by
    rw [reconciled, map_map]
    refine (congrArg Nodup (map_congr_left fun row _ => ?_)).mpr distinct
    simp only [comp_apply]
    split <;> simp
  have stays : ∀ (streamId : String) (row : Row),
      ((fun _ : String => Row.drop fun _ => true) streamId row).streamId = row.streamId :=
    fun _ row => Row.streamId_drop (fun _ => true) row
  have dropped := foldl_modifyFirst stays
    (once.filter fun streamId => (expected streamId).isEmpty) keys
  beta_reduce
  by_cases empty : rules.isEmpty = true
  · have nothing : ∀ streamId, expected streamId = [] := fun streamId => by
      simp [expected, expectedAttachments, List.isEmpty_iff.mp empty]
    rw [if_pos empty, reconciled, map_map]
    refine map_congr_left fun row _ => ?_
    have own : expectedAttachments rules connections row.streamId = [] := nothing row.streamId
    have unlisted : row.streamId ∉ streamIds.filter fun streamId =>
        !(expected streamId).isEmpty := fun inside => by
      simpa [nothing] using (mem_filter.mp inside).2
    simp only [comp_apply, if_neg unlisted, filterRow, own, isEmpty_nil,
      Bool.not_true, Bool.false_eq_true, if_false, if_pos empty]
  · rw [if_neg empty, dropped, reconciled, map_map]
    refine map_congr_left fun row member => ?_
    have here := known row member
    by_cases bare : (expectedAttachments rules connections row.streamId).isEmpty = true
    · have listed : row.streamId ∉ streamIds.filter fun streamId =>
        !(expected streamId).isEmpty := fun inside => by
        simpa [expected, bare] using (mem_filter.mp inside).2
      have unlisted : row.streamId ∈ streamIds.filter fun streamId =>
          (expected streamId).isEmpty := mem_filter.mpr ⟨here, bare⟩
      simp only [comp_apply, if_neg listed, if_pos unlisted, filterRow, bare, if_neg empty,
        Bool.not_true, Bool.false_eq_true, if_false]
    · have listed : row.streamId ∈ streamIds.filter fun streamId =>
          !(expected streamId).isEmpty := mem_filter.mpr ⟨here, by simpa using bare⟩
      have unlisted : row.streamId ∉ streamIds.filter fun streamId =>
          (expected streamId).isEmpty := fun inside => bare (mem_filter.mp inside).2
      have filled : (!(expectedAttachments rules connections row.streamId).isEmpty) = true := by
        simpa using bare
      simp only [comp_apply, if_pos listed, Row.streamId_reconcile, if_neg unlisted,
        filterRow, filled, if_true]
      rfl

end Gives

end Redhawk.Bulkio.Attachable
