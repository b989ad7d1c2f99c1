import Redhawk.Persistence.RoundTrip

/-!
The states that persisting and restoring gives back.
-/

namespace Redhawk.Persistence

open Connections Library List

variable {Any : Type}

structure SameTables (before after : DomainState Any) : Prop where
  services : after.services = before.services
  connections : ∀ requesterId,
    connectionsOf after.connections.connectionsByRequester requesterId =
      connectionsOf before.connections.connectionsByRequester requesterId
  identifiers : ∀ entry ∈ listed before.connections.connectionsByRequester,
    after.identifiers entry.2.connectionRecordId = before.identifiers entry.2.connectionRecordId
  applications : after.runningApplications = before.runningApplications
  allocations : after.allocations = before.allocations
  remoteAllocations : after.remoteAllocations = before.remoteAllocations

def RoundTrip (codec : AnyCodec Any) (env : Environment) (state : DomainState Any) : Prop :=
  ∀ garbage, SameTables state (restoreState codec env garbage (persist codec state))

/-- The objects of the tables can be reached, and the names of services, the device managers and
the requesters are the keys that they are in the domain manager. -/
structure Reachable (env : Environment) (state : DomainState Any) : Prop where
  deviceManagers : ∀ node ∈ state.deviceManagers, Answers env node
  managers : (state.deviceManagers.map DeviceManagerNode.deviceManager).Nodup
  services : ∀ node ∈ state.services, env.domain.exists_ node.service = true ∧
    ∃ other ∈ state.deviceManagers, other.identifier = node.deviceManagerId
  names : (state.services.map ServiceNode.name).Nodup
  connections : ∀ entry ∈ listed state.connections.connectionsByRequester, Standing env.domain entry.2
  requesters : (state.connections.connectionsByRequester.map Prod.fst).Nodup
  allocations : ∀ entry ∈ state.allocations, Available env.domain entry.2.allocatedDevice ∧
    Available env.domain entry.2.allocationDeviceManager
  remoteAllocations : ∀ entry ∈ state.remoteAllocations,
    Available env.domain entry.2.allocatedDevice ∧ Available env.domain entry.2.allocationDeviceManager ∧
      Available env.domain entry.2.allocationManager

structure Restorable (codec : AnyCodec Any) (state : DomainState Any) : Prop where
  services : ∀ node ∈ state.services, node.serviceId = ""
  connections : TableComesBack state.connections.connectionsByRequester
  identifiers : ∀ entry ∈ listed state.connections.connectionsByRequester,
    state.identifiers entry.2.connectionRecordId = ("", "")
  applications : state.runningApplications = []
  allocations : ∀ entry ∈ state.allocations, Rewrites codec entry.2
  remoteAllocations : ∀ entry ∈ state.remoteAllocations, Rewrites codec entry.2.toAllocationType

section Restored

variable {codec : AnyCodec Any} {env : Environment} {state : DomainState Any}

theorem restored_services (reachable : Reachable env state) (garbage : Garbage) :
    (restoreState codec env garbage (persist codec state)).services = state.services.map withoutServiceId := by
  have managers := restoreDeviceManagers_eq reachable.deviceManagers reachable.managers
  unfold restoreState persist
  rw [managers]
  exact restoreServices_eq reachable.deviceManagers reachable.services reachable.names

theorem restored_connections (reachable : Reachable env state) (none : state.runningApplications = []) :
    (∀ garbage requesterId, connectionsOf (restoreState codec env garbage
      (persist codec state)).connections.connectionsByRequester requesterId =
        connectionsOf state.connections.connectionsByRequester requesterId) ↔
      TableComesBack state.connections.connectionsByRequester := by
  let start (services : List ServiceNode) : DomainConnections := noConnections
    { env.domain with services := services.map fun node => (node.name, node.service) }
  have unchanged : ∀ garbage, (restoreState codec env garbage (persist codec state)).connections =
      restoreConnections env.objects garbage
        ((saveConnectionTable state.connections.connectionsByRequester).getD [])
        (start (restoreState codec env garbage (persist codec state)).services) := by
    intro garbage
    unfold restoreState persist
    rw [none]
    rfl
  have sameServices : ∀ garbage,
      (restoreState codec env garbage (persist codec state)).services =
        state.services.map withoutServiceId := restored_services reachable
  rw [← @restoreConnections_iff env.objects (start (state.services.map withoutServiceId)) _ rfl rfl
    reachable.requesters reachable.connections]
  simp only [unchanged, sameServices]

theorem restored_applications
    (same : ∀ garbage, (restoreState codec env garbage
      (persist codec state)).runningApplications = state.runningApplications) :
    state.runningApplications = [] :=
  applications_nil _ fun value => same (filled value)

theorem restored_allocations (reachable : Reachable env state) (garbage : Garbage) :
    (restoreState codec env garbage (persist codec state)).allocations = state.allocations ↔
      ∀ entry ∈ state.allocations, Rewrites codec entry.2 := by
  have each : (∀ entry ∈ state.allocations,
      loadAllocation codec env.domain (saveAllocation codec entry.2) = some entry.2) ↔
      ∀ entry ∈ state.allocations, Rewrites codec entry.2 := by
    apply forall₂_congr
    intro entry member
    obtain ⟨device, manager⟩ := reachable.allocations entry member
    exact loadAllocation_eq_iff device manager
  rw [← each, ← loadTable_eq_iff, ← loadTable_getD_iff]
  rfl

theorem restored_remoteAllocations (reachable : Reachable env state) (garbage : Garbage)
    (localRewrites : ∀ entry ∈ state.allocations, Rewrites codec entry.2) :
    (restoreState codec env garbage (persist codec state)).remoteAllocations = state.remoteAllocations ↔
      ∀ entry ∈ state.remoteAllocations, Rewrites codec entry.2.toAllocationType := by
  have each : (∀ entry ∈ state.remoteAllocations,
      loadRemoteAllocation codec env.domain (saveRemoteAllocation codec entry.2) = some entry.2) ↔
      ∀ entry ∈ state.remoteAllocations, Rewrites codec entry.2.toAllocationType := by
    apply forall₂_congr
    intro entry member
    obtain ⟨device, manager, remote⟩ := reachable.remoteAllocations entry member
    exact loadRemoteAllocation_eq_iff device manager remote
  have loaded : loadTable (loadAllocation codec env.domain)
      (state.allocations.map fun entry => (entry.1, saveAllocation codec entry.2)) = some state.allocations := by
    rw [loadTable_eq_iff]
    intro entry member
    obtain ⟨device, manager⟩ := reachable.allocations entry member
    exact (loadAllocation_eq_iff device manager).mpr (localRewrites entry member)
  rw [← each, ← loadTable_eq_iff, ← loadTable_getD_iff]
  unfold restoreState persist
  rw [loaded]
  rfl

/-- Persisting and restoring is the identity exactly on the states without what it leaves out. -/
theorem roundTrip_iff (codec : AnyCodec Any) (env : Environment) (state : DomainState Any)
    (reachable : Reachable env state) : RoundTrip codec env state ↔ Restorable codec state := by
  constructor
  · intro roundTrip
    have none := restored_applications fun garbage => (roundTrip garbage).applications
    have tables := roundTrip (filled false)
    have locals := (restored_allocations reachable _).mp tables.allocations
    refine ⟨?_, ?_, ?_, none, locals, ?_⟩
    · apply withoutServiceId_all.mp
      rw [← restored_services reachable]
      exact tables.services
    · exact (restored_connections reachable none).mp fun garbage => (roundTrip garbage).connections
    · intro entry member
      exact (tables.identifiers entry member).symm
    · exact (restored_remoteAllocations reachable _ locals).mp tables.remoteAllocations
  · intro restorable garbage
    constructor
    · rw [restored_services reachable]
      exact withoutServiceId_all.mpr restorable.services
    · exact (restored_connections reachable restorable.applications).mpr restorable.connections garbage
    · intro entry member
      exact (restorable.identifiers entry member).symm
    · unfold restoreState persist
      rw [restorable.applications]
      rfl
    · exact (restored_allocations reachable garbage).mpr restorable.allocations
    · exact (restored_remoteAllocations reachable garbage restorable.allocations).mpr
        restorable.remoteAllocations

end Restored

def textCodec : AnyCodec String where
  save value := { kind := 18, structName := "simple", value := value }
  load text := some text.value

def quietObjects : Objects where
  isPort _ := true
  isPortSupplier _ := true
  getPort _ _ := some none
  connectPort _ _ _ := none
  isA _ _ := false
  channel _ := none
  fileManager := 0
  domainManager := 1

def restart : Environment where
  objects := quietObjects
  domain :=
    { devices := [], services := [], applications := [], otherComponents := fun _ => none
      names := fun _ => none, channelNames := [], eventChannels := [], exists_ := fun _ => true
      portCalls := [] }
  identifier _ := "DevMgr"
  label _ := "node"
  isResource _ := true
  deviceIsRegistered _ := false
  activate _ := none

def clockConnection : ConnectionNode where
  uses := .plain (.ComponentEndpoint "receiver") (some 3)
  provides := .plain (.ServiceEndpoint "clock") (some 2)
  identifier := "ticks"
  requesterId := ""
  connectionRecordId := "DevMgr_ticks"
  connected := true

def clockAllocation : AllocationType String where
  allocationID := "alloc_1"
  requestingDomain := "DOM"
  sourceID := ""
  allocationProperties := [("rate", "10")]
  allocatedDevice := some 3
  allocationDeviceManager := some 2

def clockDomain (serviceId : String) : DomainState String where
  deviceManagers := [⟨"DevMgr", "node", 2⟩]
  services := [⟨4, "DevMgr", "clock", serviceId⟩]
  connections := { noConnections restart.domain with
    connectionsByRequester := [("DevMgr", [clockConnection])] }
  identifiers _ := ("", "")
  runningApplications := []
  allocations := [("alloc_1", clockAllocation)]
  remoteAllocations := []

theorem reachable_clock (serviceId : String) : Reachable restart (clockDomain serviceId) where
  deviceManagers := forall_mem_singleton.mpr ⟨rfl, rfl, rfl⟩
  managers := nodup_singleton _
  services := forall_mem_singleton.mpr
    ⟨rfl, ⟨"DevMgr", "node", 2⟩, mem_singleton_self _, rfl⟩
  names := nodup_singleton _
  connections := forall_mem_singleton.mpr fun _ => rfl
  requesters := nodup_singleton _
  allocations := forall_mem_singleton.mpr ⟨fun _ _ => rfl, fun _ _ => rfl⟩
  remoteAllocations := fun _ member => nomatch member

theorem roundTrip_clock : RoundTrip textCodec restart (clockDomain "") := by
  apply (roundTrip_iff textCodec restart (clockDomain "") (reachable_clock "")).mpr
  constructor
  · exact forall_mem_singleton.mpr rfl
  · exact ⟨⟨by decide, trivial⟩, forall_mem_singleton.mpr ⟨trivial, trivial, rfl⟩⟩
  · exact forall_mem_singleton.mpr rfl
  · rfl
  · exact forall_mem_singleton.mpr ⟨rfl, forall_mem_singleton.mpr rfl⟩
  · intro entry member
    cases member

theorem serviceId_lost : ¬∀ state : DomainState String,
    Reachable restart state → RoundTrip textCodec restart state := by
  intro claim
  have same := (claim (clockDomain "clock_1") (reachable_clock "clock_1") (filled false)).services
  revert same
  decide

end Redhawk.Persistence
