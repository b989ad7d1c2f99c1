import Redhawk.Bulkio.AttachmentRouting

/-!
A port follows its routing: what it holds is what the routing tells, and what it held before and
does not hold any more it has detached. How each operation keeps this, from what it does to the rows.
-/

namespace Redhawk.Bulkio.Attachable

open Library Library.Code Routing List

variable {α Time : Type}

structure PortView where
  name : String
  connections : List (String × Nat)
  filterTable : List ConnectionDescriptor
  streams : List Stream

def PortView.ownRules (view : PortView) : List ConnectionDescriptor :=
  view.filterTable.filter fun entry => entry.portName == view.name

structure Follows (name : String) (routing : Routing) (view : PortView) (calls : Log α Time) :
    Prop where
  named : view.name = name
  live : ∀ pair, pair ∈ view.connections ↔ pair ∈ routing.connections
  distinct : (view.connections.map Prod.fst).Nodup
  filterTable : view.filterTable = routing.filterTable
  registered : (rows view.streams).map Row.streamId = routing.streams
  once : routing.streams.Nodup
  exact_ : ∀ row ∈ rows view.streams, row.Exact routing.connections (Routed (routing.rules name) row.streamId)
  accounts : Accounts (attachments view.streams) calls

section Steps

variable {name : String} {routing : Routing} {view : PortView} {calls later : Log α Time}
  {streams : List Stream}

theorem Row.Exact.of_mem {connections other : List (String × Nat)} {wanted : String → Prop}
    {row : Row} (exact_ : row.Exact connections wanted)
    (same : ∀ pair, pair ∈ connections ↔ pair ∈ other) : row.Exact other wanted :=
  ⟨exact_.1, fun pair => by rw [exact_.2 pair, same pair]⟩

section

variable (follows : Follows name routing view calls)
include follows

theorem Follows.ownRules : view.ownRules = routing.rules name := by
  rw [PortView.ownRules, Routing.rules, follows.filterTable, follows.named]

theorem Follows.fresh {connectionId : String} (fresh : connectionId ∉ routing.connections.map Prod.fst) :
    connectionId ∉ view.connections.map Prod.fst := fun present => by
  obtain ⟨pair, member, same⟩ := mem_map.mp present
  exact fresh (same ▸ mem_map_of_mem ((follows.live pair).mp member))

theorem Follows.quiet
    (same : ∀ atts, Accounts atts calls → Accounts atts later) : Follows name routing view later :=
  { follows with accounts := same _ follows.accounts }

theorem mem_streams_iff (streamId : String) :
    hasStreamId streamId view.streams = true ↔ streamId ∈ routing.streams := by
  rw [← follows.registered]
  simp [hasStreamId, rows, Stream.row]

theorem registered_map {change : Row → Row} (keeps : ∀ row, (change row).streamId = row.streamId)
    (rowsAre : rows streams = (rows view.streams).map change) :
    (rows streams).map Row.streamId = routing.streams := by
  rw [rowsAre, map_map, ← follows.registered]
  exact map_congr_left fun row _ => keeps row

end

variable (rules : List ConnectionDescriptor)

theorem streamId_connectRow (connectionId : String) (object : Nat) (row : Row) :
    (connectRow rules connectionId object row).streamId = row.streamId := by
  rw [connectRow_eq]
  split <;> simp

theorem streamId_filterRow (connections : List (String × Nat))
    (row : Row) : (filterRow rules connections row).streamId = row.streamId := by
  unfold filterRow
  dsimp only
  split
  · exact Row.streamId_reconcile _ row
  · split <;> simp

theorem Follows.connect (follows : Follows name routing view calls) {connectionId : String}
    {object : Nat} (fresh : connectionId ∉ routing.connections.map Prod.fst)
    (rowsAre : rows streams = (rows view.streams).map (connectRow view.ownRules connectionId object))
    (accounts : Accounts (attachments streams) later) {connections : List (String × Nat)}
    (grown : ∀ pair, pair ∈ connections ↔ pair ∈ view.connections ∨ pair = (connectionId, object))
    (distinct : (connections.map Prod.fst).Nodup) :
    Follows name (routing.step (.connectPort object connectionId : AttachableCall Time))
      { view with connections := connections, streams := streams } later where
  named := follows.named
  live pair := by simp [grown, follows.live, Routing.step]
  distinct := distinct
  filterTable := follows.filterTable
  registered := show (rows streams).map Row.streamId = routing.streams from
    registered_map follows (streamId_connectRow _ _ _) rowsAre
  once := follows.once
  exact_ row member := by
    rw [rowsAre] at member
    obtain ⟨old, inside, rfl⟩ := mem_map.mp member
    rw [streamId_connectRow, follows.ownRules]
    exact connectRow_exact (follows.exact_ old inside) fresh
  accounts := accounts

section

variable (follows : Follows name routing view calls)
include follows

theorem Follows.disconnect {connectionId : String}
    (rowsAre : rows streams = (rows view.streams).map (Row.drop fun id => id == connectionId))
    (accounts : Accounts (attachments streams) later) {connections : List (String × Nat)}
    (shrunk : ∀ pair, pair ∈ connections ↔ pair ∈ view.connections ∧ pair.1 ≠ connectionId)
    (distinct : (connections.map Prod.fst).Nodup) :
    Follows name (routing.step (.disconnectPort connectionId : AttachableCall Time))
      { view with connections := connections, streams := streams } later where
  named := follows.named
  live pair := by simp [shrunk, follows.live, Routing.step]
  distinct := distinct
  filterTable := follows.filterTable
  registered := show (rows streams).map Row.streamId = routing.streams from
    registered_map follows (Row.streamId_drop _) rowsAre
  once := follows.once
  exact_ row member := by
    rw [rowsAre] at member
    obtain ⟨old, inside, rfl⟩ := mem_map.mp member
    exact drop_exact (follows.exact_ old inside) connectionId
  accounts := accounts

theorem Follows.filter {filterTable : List ConnectionDescriptor}
    (rowsAre : rows streams = (rows view.streams).map
      (filterRow ({ view with filterTable := filterTable }).ownRules view.connections))
    (accounts : Accounts (attachments streams) later) :
    Follows name (routing.step (.updateConnectionFilter filterTable : AttachableCall Time))
      { view with filterTable := filterTable, streams := streams } later where
  named := follows.named
  live := follows.live
  distinct := follows.distinct
  filterTable := rfl
  registered := show (rows streams).map Row.streamId = routing.streams from
    registered_map follows (streamId_filterRow _ _) rowsAre
  once := follows.once
  exact_ row member := by
    rw [rowsAre] at member
    obtain ⟨old, inside, rfl⟩ := mem_map.mp member
    have before : old.Exact view.connections (Routed (routing.rules name) old.streamId) :=
      (follows.exact_ old inside).of_mem fun pair => (follows.live pair).symm
    have rules : ({ view with filterTable := filterTable } : PortView).ownRules =
        (routing.step (.updateConnectionFilter filterTable : AttachableCall Time)).rules name := by
      rw [PortView.ownRules, Routing.rules, follows.named]
      rfl
    rw [streamId_filterRow, ← rules]
    exact (filterRow_exact follows.distinct before).of_mem follows.live
  accounts := accounts

theorem Follows.add {streamDef : StreamDefinition}
    (new : streamDef.id ∉ routing.streams) (listed : routing.ListedOnce name streamDef.id)
    {user : String} {made : List StreamAttachment}
    (pairs : made.map StreamAttachment.pair = newPairs view.ownRules view.connections streamDef.id)
    (accounts : Accounts (attachments view.streams ++ made) later) :
    Follows name (routing.step (.addStream streamDef : AttachableCall Time))
      { view with streams := view.streams ++ [⟨streamDef, user, streamDef.id, made⟩] } later where
  named := follows.named
  live pair := by simp [Routing.step, new, follows.live]
  distinct := follows.distinct
  filterTable := by simp [Routing.step, new, follows.filterTable]
  registered := by
    simp only [Routing.step, if_neg new, rows, map_append]
    exact congrArg (fun ids => ids ++ [streamDef.id]) follows.registered
  once := by
    simp only [Routing.step, if_neg new]
    exact nodup_append.mpr ⟨follows.once, by simp, fun id old other added same => new (by
      rw [mem_singleton] at added
      rwa [← added, ← same])⟩
  exact_ row member := by
    have same : routing.step (.addStream streamDef : AttachableCall Time) =
        { routing with streams := routing.streams ++ [streamDef.id] } := if_neg new
    rw [same]
    rw [rows, map_append, mem_append] at member
    rcases member with old | added
    · exact follows.exact_ row old
    · have shape : row = ⟨streamDef.id, newPairs view.ownRules view.connections streamDef.id⟩ := by
        simpa [Stream.row, pairs] using added
      have once : ∀ connection ∈ view.connections,
          (listing (routing.rules name) streamDef.id connection.1).length ≤ 1 :=
        fun connection live => listed connection ((follows.live connection).mp live)
      rw [shape, follows.ownRules]
      exact (newPairs_exact follows.distinct once).of_mem follows.live
  accounts := by
    simpa [attachments] using accounts

theorem Follows.remove {streamId : String}
    (rowsAre : rows streams = (rows view.streams).filter fun row => !(row.streamId == streamId))
    (accounts : Accounts (attachments streams) later) :
    Follows name (routing.step (.removeStream streamId : AttachableCall Time))
      { view with streams := streams } later where
  named := follows.named
  live := follows.live
  distinct := follows.distinct
  filterTable := follows.filterTable
  registered := by
    rw [rowsAre, Routing.step, ← follows.registered, filter_map]
    rfl
  once := follows.once.filter _
  exact_ row member := by
    rw [rowsAre] at member
    exact follows.exact_ row (mem_filter.mp member).1
  accounts := accounts

end

theorem step_updateStream {streamDef : StreamDefinition} (known : streamDef.id ∈ routing.streams) :
    routing.step (.updateStream streamDef : AttachableCall Time) =
      (routing.step (.removeStream streamDef.id : AttachableCall Time)).step
        (.addStream streamDef : AttachableCall Time) := by
  simp [Routing.step, known]

end Steps

section Undisturbed

variable {Data View : Type} {β : Type}

structure Undisturbed (view : Data → View) (before after : Guarded Data (RemoteCall α Time) Reply) : Prop where
  view : view after.data = view before.data
  lock : after.locked = before.locked
  accounts : ∀ atts, Accounts atts before.calls → Accounts atts after.calls

def Undisturbs (view : Data → View) (code : Code Data (RemoteCall α Time) Reply β) : Prop :=
  ∀ world, code.Yields world fun _ after => Undisturbed view world after

variable {view : Data → View}

theorem Undisturbed.trans {first second third : Guarded Data (RemoteCall α Time) Reply}
    (one : Undisturbed view first second) (two : Undisturbed view second third) :
    Undisturbed view first third :=
  ⟨two.view.trans one.view, two.lock.trans one.lock,
    fun atts accounts => two.accounts atts (one.accounts atts accounts)⟩

theorem undisturbs_pure (value : β) :
    Undisturbs view (Code.pure value : Code Data (RemoteCall α Time) Reply β) :=
  fun _ => ⟨rfl, rfl, fun _ => id⟩

theorem Undisturbs.bind {γ : Type} {code : Code Data (RemoteCall α Time) Reply β}
    {next : β → Code Data (RemoteCall α Time) Reply γ} (first : Undisturbs view code)
    (second : ∀ value, Undisturbs view (next value)) : Undisturbs view (code.bind next) :=
  fun world => yields_bind.mpr ((first world).mono fun value middle one =>
    (second value middle).mono fun _ _ two => one.trans two)

theorem undisturbs_look {body : Data → Code Data (RemoteCall α Time) Reply β}
    (each : ∀ data, Undisturbs view (body data)) : Undisturbs view (look.bind body) :=
  fun world => yields_bind.mpr (each world.data world)

theorem undisturbs_change {update : Data → Data} (same : ∀ data, view (update data) = view data) :
    Undisturbs view (change update : Code Data (RemoteCall α Time) Reply Unit) :=
  fun world => ⟨same world.data, rfl, fun _ => id⟩

theorem undisturbs_remote {answer : Nat → RemoteCall α Time → Option Reply}
    (succeeds : Succeeds answer) {call : RemoteCall α Time} (quiet : call.Quiet) :
    Undisturbs view (remote answer call : Code Data (RemoteCall α Time) Reply Reply) := by
  intro world
  obtain ⟨reply, answers⟩ := Option.isSome_iff_exists.mp
    (succeeds.returns world.calls.length call)
  exact yields_remote answers ⟨rfl, rfl, fun _ accounts => accounts.quiet quiet (some reply)⟩

theorem Undisturbs.tryExcept {code handler : Code Data (RemoteCall α Time) Reply β}
    (undisturbs : Undisturbs view code) : Undisturbs view (tryExcept code handler) :=
  fun world => (undisturbs world).tryExcept

theorem Undisturbs.ite {condition : Prop} [Decidable condition]
    {code other : Code Data (RemoteCall α Time) Reply β} (yes : condition → Undisturbs view code)
    (no : ¬condition → Undisturbs view other) :
    Undisturbs view (if condition then code else other) := by
  split
  · exact yes ‹_›
  · exact no ‹_›

theorem Undisturbs.forEach {γ : Type} {items : List γ} {body : γ → Code Data (RemoteCall α Time) Reply Unit}
    (each : ∀ item, Undisturbs view (body item)) : Undisturbs view (forEach items body) := by
  induction items with
  | nil => exact undisturbs_pure ()
  | cons item rest ih => exact (each item).bind fun _ => ih

end Undisturbed

end Redhawk.Bulkio.Attachable
