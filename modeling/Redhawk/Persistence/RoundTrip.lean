import Redhawk.Persistence.ConnectionRoundTrip

/-!
Storing the tables and restoring them: which states come back.
-/

namespace Redhawk.Persistence

open Connections Library ServiceNode List

def Answers (env : Environment) (node : DeviceManagerNode) : Prop :=
  env.domain.exists_ node.deviceManager = true ∧ env.identifier node.deviceManager = node.identifier ∧
    env.label node.deviceManager = node.label

variable {env : Environment}

theorem addDeviceMgr_new {node : DeviceManagerNode} (answers : Answers env node)
    {registered : List DeviceManagerNode}
    (isNew : node.deviceManager ∉ registered.map DeviceManagerNode.deviceManager) :
    addDeviceMgr env node.deviceManager registered = registered ++ [node] := by
  unfold addDeviceMgr
  rw [if_neg, answers.2.1, answers.2.2]
  rw [any_eq_true]
  rintro ⟨other, member, same⟩
  exact isNew (beq_iff_eq.mp same ▸ mem_map_of_mem member)

theorem restoreDeviceManagers_eq {stored : List DeviceManagerNode} (answers : ∀ node ∈ stored, Answers env node)
    (unique : (stored.map DeviceManagerNode.deviceManager).Nodup) :
    restoreDeviceManagers env stored = stored := by
  have step : ∀ rest done : List DeviceManagerNode, (∀ node ∈ rest, Answers env node) →
      ((done ++ rest).map DeviceManagerNode.deviceManager).Nodup →
      rest.foldl (fun registered node =>
        if env.domain.exists_ node.deviceManager then addDeviceMgr env node.deviceManager registered
        else registered) done = done ++ rest := by
    intro rest
    induction rest with
    | nil =>
        intro done _ _
        exact (append_nil done).symm
    | cons node rest ih =>
        intro done answers unique
        have first := answers node mem_cons_self
        have isNew : node.deviceManager ∉ done.map DeviceManagerNode.deviceManager := by
          rw [map_append, map_cons, nodup_middle, nodup_cons] at unique
          intro member
          exact unique.1 (mem_append_left _ member)
        rw [append_cons] at unique
        rw [foldl_cons, if_pos first.1, addDeviceMgr_new first isNew,
          ih _ (fun later member => answers later (mem_cons_of_mem _ member)) unique,
          ← append_cons]
  exact step stored [] answers unique

def withoutServiceId (node : ServiceNode) : ServiceNode := { node with serviceId := "" }

variable {deviceManagers : List DeviceManagerNode}

theorem restoreService_new (answers : ∀ other ∈ deviceManagers, Answers env other) {node : ServiceNode}
    (exists_ : env.domain.exists_ node.service = true)
    (managed : ∃ other ∈ deviceManagers, other.identifier = node.deviceManagerId)
    {registered : List ServiceNode} (isNew : node.name ∉ registered.map name) :
    restoreService env deviceManagers registered (loadService (saveService node)) =
      registered ++ [withoutServiceId node] := by
  have unknown : ¬(registered.any fun other => other.name == node.name) := by
    rw [any_eq_true]
    rintro ⟨other, member, same⟩
    exact isNew (beq_iff_eq.mp same ▸ mem_map_of_mem member)
  change (if env.domain.exists_ node.service = true then _ else _) = _
  rw [if_pos exists_]
  cases found : deviceManagers.find? fun other => other.identifier == node.deviceManagerId with
  | none =>
      obtain ⟨other, member, same⟩ := managed
      have differs := find?_eq_none.mp found other member
      exact absurd (beq_iff_eq.mpr same) differs
  | some deviceManager =>
      have passes := find?_some found
      have same : deviceManager.identifier = node.deviceManagerId := beq_iff_eq.mp passes
      have answered := (answers _ (mem_of_find?_eq_some found)).2.1
      simp only [loadService, saveService, found]
      unfold storeServiceInDomainMgr
      rw [if_neg unknown, answered, same]
      rfl

theorem restoreServices_eq
    (answers : ∀ other ∈ deviceManagers, Answers env other) {services : List ServiceNode}
    (reachable : ∀ node ∈ services, env.domain.exists_ node.service = true ∧
      ∃ other ∈ deviceManagers, other.identifier = node.deviceManagerId)
    (unique : (services.map name).Nodup) :
    restoreServices env deviceManagers (services.map saveService) = services.map withoutServiceId := by
  have step : ∀ rest done : List ServiceNode,
      (∀ node ∈ rest, env.domain.exists_ node.service = true ∧
        ∃ other ∈ deviceManagers, other.identifier = node.deviceManagerId) →
      (done.map name ++ rest.map name).Nodup →
      ((rest.map saveService).map loadService).foldl (restoreService env deviceManagers) done =
        done ++ rest.map withoutServiceId := by
    intro rest
    induction rest with
    | nil =>
        intro done _ _
        exact (append_nil done).symm
    | cons node rest ih =>
        intro done reachable unique
        obtain ⟨isThere, managed⟩ := reachable node mem_cons_self
        have isNew : node.name ∉ done.map name := by
          rw [map_cons, nodup_middle, nodup_cons] at unique
          intro member
          exact unique.1 (mem_append_left _ member)
        have later : ((done ++ [withoutServiceId node]).map name ++ rest.map name).Nodup := by
          rw [map_cons, append_cons] at unique
          rw [map_append]
          exact unique
        rw [map_cons, map_cons, foldl_cons, restoreService_new answers isThere managed isNew,
          ih _ (fun other member => reachable other (mem_cons_of_mem _ member)) later,
          map_cons, ← append_cons]
  exact step services [] reachable unique

theorem withoutServiceId_all {services : List ServiceNode} :
    services.map withoutServiceId = services ↔ ∀ node ∈ services, node.serviceId = "" := by
  induction services with
  | nil => simp
  | cons node rest ih =>
      rw [map_cons, cons.injEq, ih, forall_mem_cons]
      constructor
      · rintro ⟨same, later⟩
        exact ⟨(congrArg serviceId same).symm, later⟩
      · rintro ⟨empty, later⟩
        refine ⟨?_, later⟩
        unfold withoutServiceId
        rw [← empty]

theorem mem_foldl_activate {restored : ApplicationNode}
    (nodes : List ApplicationNode) (done : DomainConnections × List ApplicationNode)
    (member : restored ∈ (nodes.foldl (fun restored node =>
      if objectExists env.domain node.context then
        match env.activate node.identifier with
        | some reference => addApplication env (restoreApplication env node) reference restored
        | none => restored
      else restored) done).2) :
    restored ∈ done.2 ∨ ∃ node ∈ nodes, restored.aware_application = node.aware_application := by
  induction nodes generalizing done with
  | nil => exact .inl member
  | cons node rest ih =>
      rw [foldl_cons] at member
      rcases ih _ member with added | ⟨other, later, same⟩
      · split_ifs at added
        · cases activated : env.activate node.identifier with
          | none =>
              rw [activated] at added
              exact .inl added
          | some reference =>
              rw [activated] at added
              rcases mem_append.mp added with old | new
              · exact .inl old
              · rw [mem_singleton.mp new]
                exact .inr ⟨node, mem_cons_self, rfl⟩
        · exact .inl added
      · exact .inr ⟨other, mem_cons_of_mem _ later, same⟩

theorem mem_restoreApplications {nodes : List ApplicationNode}
    {connections : DomainConnections} {restored : ApplicationNode}
    (member : restored ∈ (restoreApplications env nodes connections).2) :
    ∃ node ∈ nodes, restored.aware_application = node.aware_application := by
  rcases mem_foldl_activate nodes (connections, []) member with none | found
  · cases none
  · exact found

theorem applications_nil {applications : List ApplicationNode}
    {stored : List StoredApplication} (connections : Bool → DomainConnections)
    (same : ∀ value, (restoreApplications env
      (stored.map (loadApplication (filled value) env.domain)) (connections value)).2 =
        applications) : applications = [] := by
  rw [eq_nil_iff_forall_not_mem]
  intro node member
  have holds : ∀ value, node.aware_application = value := by
    intro value
    have restored := member
    rw [← same value] at restored
    obtain ⟨loaded, isLoaded, aware⟩ := mem_restoreApplications restored
    obtain ⟨source, _, rfl⟩ := mem_map.mp isLoaded
    exact aware
  have both := (holds true).symm.trans (holds false)
  cases both

section Allocations

variable {Any : Type} {codec : AnyCodec Any} {domain : Domain}

def Rewrites (codec : AnyCodec Any) (allocation : AllocationType Any) : Prop :=
  allocation.sourceID = "" ∧
    ∀ property ∈ allocation.allocationProperties, codec.load (codec.save property.2) = some property.2

def Available (domain : Domain) (object : Option ObjRef) : Prop :=
  ∀ reference, object = some reference → domain.exists_ reference = true

theorem loadAndNarrow_available {object : Option ObjRef} (available : Available domain object) :
    loadAndNarrow domain object = object := by
  cases object with
  | none => rfl
  | some reference => simp [loadAndNarrow, Option.filter, available reference rfl]

theorem loadProperties_eq_iff {properties : List (String × Any)} :
    (properties.map fun property => (property.1, codec.save property.2)).mapM
        (loadProperty codec) = some properties ↔
      ∀ property ∈ properties, codec.load (codec.save property.2) = some property.2 := by
  rw [mapM_eq_some_iff, forall₂_map_left_iff, forall₂_same]
  apply forall₂_congr
  intro property _
  unfold loadProperty
  cases codec.load (codec.save property.2) with
  | none => simp
  | some value => simp [Prod.ext_iff]

theorem loadAllocation_eq_iff {allocation : AllocationType Any}
    (device : Available domain allocation.allocatedDevice)
    (manager : Available domain allocation.allocationDeviceManager) :
    loadAllocation codec domain (saveAllocation codec allocation) = some allocation ↔
      Rewrites codec allocation := by
  unfold Rewrites
  rw [← loadProperties_eq_iff]
  unfold loadAllocation
  simp only [saveAllocation, loadAndNarrow_available device, loadAndNarrow_available manager,
    Option.map_eq_some_iff]
  obtain ⟨allocationID, requestingDomain, sourceID, properties, device, manager⟩ := allocation
  simp only [AllocationType.mk.injEq, true_and, and_true]
  constructor
  · rintro ⟨loaded, result, empty, rfl⟩
    exact ⟨empty.symm, result⟩
  · rintro ⟨rfl, result⟩
    exact ⟨properties, result, rfl, rfl⟩

theorem loadRemoteAllocation_eq_iff {allocation : RemoteAllocationType Any}
    (device : Available domain allocation.allocatedDevice)
    (manager : Available domain allocation.allocationDeviceManager)
    (remote : Available domain allocation.allocationManager) :
    loadRemoteAllocation codec domain (saveRemoteAllocation codec allocation) = some allocation ↔
      Rewrites codec allocation.toAllocationType := by
  rw [← loadAllocation_eq_iff device manager]
  have kept : (saveRemoteAllocation codec allocation).toStoredAllocation =
      saveAllocation codec allocation.toAllocationType := rfl
  have manager : (saveRemoteAllocation codec allocation).allocationManager =
      allocation.allocationManager := rfl
  unfold loadRemoteAllocation
  rw [kept, manager, loadAndNarrow_available remote, Option.map_eq_some_iff]
  constructor
  · rintro ⟨loaded, result, same⟩
    rw [result]
    exact congrArg (fun other => some other.toAllocationType) same
  · intro result
    exact ⟨_, result, rfl⟩

section

variable {Stored Loaded : Type} {save : Loaded → Stored} {load : Stored → Option Loaded}
  {table : List (String × Loaded)}

theorem loadTable_eq_iff :
    loadTable load (table.map fun entry => (entry.1, save entry.2)) = some table ↔
      ∀ entry ∈ table, load (save entry.2) = some entry.2 := by
  unfold loadTable
  rw [mapM_eq_some_iff, forall₂_map_left_iff, forall₂_same]
  apply forall₂_congr
  intro entry _
  cases load (save entry.2) with
  | none => simp
  | some value => simp [Prod.ext_iff]

theorem loadTable_getD_iff :
    (loadTable load (table.map fun entry => (entry.1, save entry.2))).getD [] = table ↔
      loadTable load (table.map fun entry => (entry.1, save entry.2)) = some table := by
  constructor
  · intro same
    cases loaded : loadTable load (table.map fun entry => (entry.1, save entry.2)) with
    | none =>
        rw [loaded] at same
        subst same
        cases loaded
    | some other =>
        rw [loaded] at same
        exact congrArg some same
  · intro loaded
    rw [loaded]
    rfl

end

end Allocations

def TableComesBack (table : List (String × ConnectionList)) : Prop :=
  Numbered [] (listed table) ∧ ∀ entry ∈ listed table,
    Plain entry.2.uses ∧ Plain entry.2.provides ∧ entry.2.requesterId = ""

theorem saveConnectionTable_isSome {table : List (String × ConnectionList)}
    (comesBack : ∀ entry ∈ listed table, Plain entry.2.uses ∧ Plain entry.2.provides) :
    ∃ stored, saveConnectionTable table = some stored := by
  induction table with
  | nil => exact ⟨[], rfl⟩
  | cons entry rest ih =>
      rw [listed_cons, forall_mem_append] at comesBack
      obtain ⟨later, savedLater⟩ := ih comesBack.2
      have each : ∀ nodes : ConnectionList, (∀ node ∈ nodes, Plain node.uses ∧ Plain node.provides) →
          ∃ stored, saveConnections nodes = some stored := by
        intro nodes
        induction nodes with
        | nil =>
            intro _
            exact ⟨[], rfl⟩
        | cons node nodes ihNodes =>
            intro plain
            rw [forall_mem_cons] at plain
            obtain ⟨stored, saved⟩ := saveConnection_isSome plain.1.1 plain.1.2
            obtain ⟨others, savedOthers⟩ := ihNodes plain.2
            exact ⟨stored :: others, mapM_eq_some_iff.mpr (.cons saved (mapM_eq_some_iff.mp savedOthers))⟩
      obtain ⟨stored, saved⟩ := each entry.2 fun node member =>
        comesBack.1 (entry.1, node) (mem_map_of_mem member)
      refine ⟨(entry.1, stored) :: later, mapM_eq_some_iff.mpr (.cons ?_ (mapM_eq_some_iff.mp savedLater))⟩
      rw [saved]
      rfl

theorem standing_loaded {domain : Domain} {entries : List (String × ConnectionNode)}
    {stored : List (String × StoredConnection)} (saved : Forall₂ Saved entries stored)
    (standing : ∀ entry ∈ entries, Standing domain entry.2) (garbage : Garbage) :
    ∀ entry ∈ stored, Standing domain (loadConnection garbage entry.2) := by
  induction saved with
  | nil =>
      intro entry member
      cases member
  | @cons entry first entries stored same _ ih =>
      rw [forall_mem_cons] at standing ⊢
      refine ⟨?_, ih standing.2⟩
      obtain ⟨_, provides, _, connected⟩ := saveConnection_eq_some.mp same.2
      intro made
      have object := object_loadEndpoint provides garbage
      change objectExists domain (loadEndpoint garbage first.2.provides).object = true
      rw [object]
      exact standing.1 (connected.symm.trans made)

theorem restoreConnections_iff {objects : Objects} {start : DomainConnections}
    {table : List (String × ConnectionList)} (empty : start.connectionsByRequester = [])
    (unnumbered : start.globalConnections = []) (unique : (table.map Prod.fst).Nodup)
    (standing : ∀ entry ∈ listed table, Standing start.domain entry.2) :
    (∀ garbage requesterId,
      connectionsOf (restoreConnections objects garbage ((saveConnectionTable table).getD [])
        start).connectionsByRequester requesterId = connectionsOf table requesterId) ↔
      TableComesBack table := by
  cases isSaved : saveConnectionTable table with
  | none =>
      constructor
      · intro same
        -- nothing was stored, so nothing is restored
        have none : listed table = [] := by
          apply eq_of_ofRequester_nil
          intro requesterId
          rw [ofRequester_listed unique, ← same (filled false)]
          simp [restoreConnections, connectionsOf, empty]
        unfold TableComesBack
        rw [none]
        exact ⟨trivial, fun entry member => nomatch member⟩
      · intro comesBack
        obtain ⟨stored, saved⟩ := saveConnectionTable_isSome fun entry member =>
          have plain := comesBack.2 entry member
          ⟨plain.1, plain.2.1⟩
        rw [isSaved] at saved
        cases saved
  | some stored =>
      have saved := saved_table isSaved
      have restored : ∀ garbage requesterId,
          connectionsOf (restoreConnections objects garbage stored start).connectionsByRequester
            requesterId = ofRequester (reread garbage [] (listedStored stored)) requesterId := by
        intro garbage requesterId
        have isTaken : start.globalConnections.map Prod.fst = [] := by
          rw [unnumbered, map_nil]
        rw [restoreConnections_eq, connectionsOf_restoreListed objects garbage _ _ isTaken
          (standing_loaded saved standing garbage), empty]
        rfl
      have whole : (∀ garbage requesterId,
          connectionsOf (restoreConnections objects garbage stored start).connectionsByRequester
            requesterId = connectionsOf table requesterId) ↔
          ∀ garbage, reread garbage [] (listedStored stored) = listed table := by
        constructor
        · intro same garbage
          apply eq_of_ofRequester (owners_reread saved garbage [])
          intro requesterId
          rw [ofRequester_listed unique, ← restored, same]
        · intro same garbage requesterId
          rw [restored, same, ofRequester_listed unique]
      rw [Option.getD_some, whole]
      constructor
      · intro same
        have each := fun garbage => (reread_eq_iff saved garbage []).mp (same garbage)
        refine ⟨(each (filled false)).1, ?_⟩
        intro entry member
        exact ⟨plain_of_reloads fun value => ((each (filled value)).2 entry member).1,
          plain_of_reloads fun value => ((each (filled value)).2 entry member).2.1,
          ((each (filled false)).2 entry member).2.2⟩
      · intro comesBack garbage
        apply (reread_eq_iff saved garbage []).mpr
        refine ⟨comesBack.1, ?_⟩
        intro entry member
        obtain ⟨uses, provides, requester⟩ := comesBack.2 entry member
        exact ⟨reloads_of_plain uses garbage, reloads_of_plain provides garbage, requester⟩

end Redhawk.Persistence
