import Redhawk.Connections.ConnectionRegistry
import Redhawk.Connections.References

/-!
Deferred connections: devices and services come and go, and in between every listed connection is
made between the objects that are registered, or waits for one that is not.
-/

namespace Redhawk.Connections

open Redhawk.Library Endpoint EndpointKind Domain Option

/-- Both endpoints are registered and provide their ports, and the uses port takes the connection. -/
def Connectable (objects : Objects) (domain : Domain) (node : ConnectionNode) : Prop :=
  ∃ usesPort providesPort, node.uses.fresh objects domain = some usesPort ∧
    node.provides.fresh objects domain = some providesPort ∧ domain.exists_ usesPort ∧
    domain.exists_ providesPort ∧ objects.isPort usesPort ∧
    objects.connectPort usesPort providesPort node.identifier = none

/-- The endpoint holds the object that it stands for in the current domain. -/
def HoldsCurrent (objects : Objects) (domain : Domain) (endpoint : Endpoint) : Prop :=
  ∃ object, endpoint.object = some object ∧ endpoint.named objects domain = some object

structure Settled (objects : Objects) (domain : Domain) (node : ConnectionNode) : Prop where
  uses : node.uses.UpToDate objects domain
  provides : node.provides.UpToDate objects domain
  current : node.connected → HoldsCurrent objects domain node.uses ∧ HoldsCurrent objects domain node.provides
  waiting : ¬ node.connected → ¬ Connectable objects domain node

def Converged (objects : Objects) (connections : DomainConnections) : Prop :=
  ∀ entry ∈ listed connections.connectionsByRequester, Settled objects connections.domain entry.2

section SameFor

variable {objects : Objects} {domain after : Domain}

theorem HoldsCurrent.same {endpoint : Endpoint} (same : SameFor objects domain after endpoint.kind)
    (holds : HoldsCurrent objects domain endpoint) : HoldsCurrent objects after endpoint := by
  obtain ⟨object, cached, named⟩ := holds
  exact ⟨object, cached, same.named.trans named⟩

section

variable {node : ConnectionNode} (uses : SameFor objects domain after node.uses.kind)
  (provides : SameFor objects domain after node.provides.kind)
include uses provides

theorem Connectable.same (connectable : Connectable objects after node) : Connectable objects domain node := by
  obtain ⟨usesPort, providesPort, usesFresh, providesFresh, usesAlive, providesAlive, rest⟩ := connectable
  exact ⟨usesPort, providesPort, uses.fresh usesFresh, provides.fresh providesFresh,
    uses.alive _ usesAlive, uses.alive _ providesAlive, rest⟩

theorem Settled.same (settled : Settled objects domain node) : Settled objects after node where
  uses := uses.upToDate settled.uses
  provides := provides.upToDate settled.provides
  current connected := (settled.current connected).imp (·.same uses) (·.same provides)
  waiting pending connectable := settled.waiting pending (connectable.same uses provides)

end

theorem Settled.registry (same : SameRegistry domain after) {node : ConnectionNode}
    (settled : Settled objects domain node) : Settled objects after node :=
  settled.same (same.sameFor _) (same.sameFor _)

end SameFor

variable (objects : Objects)

theorem disconnect_node (node : ConnectionNode) (domain : Domain) :
    (node.disconnect objects domain).1 =
      if node.connected then
        { node with
          uses := node.uses.release
          provides := node.provides.release
          connected := false }
      else node := by
  unfold ConnectionNode.disconnect
  grind

theorem disconnect_registry (node : ConnectionNode) (domain : Domain) :
    SameRegistry domain (node.disconnect objects domain).2 := by
  unfold ConnectionNode.disconnect decrementEventChannelConnections
  grind [SameRegistry]

theorem connect_settles (objects : Objects) {domain : Domain} {node : ConnectionNode}
    (pending : node.connected = false) (usesUpToDate : node.uses.UpToDate objects domain)
    (providesUpToDate : node.provides.UpToDate objects domain) :
    SameRegistry domain (node.connect objects domainConnectionManager domain).domain ∧
      (node.connect objects domainConnectionManager domain).node.uses.release = node.uses.release ∧
      (node.connect objects domainConnectionManager domain).node.provides.release = node.provides.release ∧
      Settled objects domain (node.connect objects domainConnectionManager domain).node := by
  obtain ⟨usesRegistry, usesShape, usesStill, usesNamed, usesComplete⟩ :=
    resolve_upToDate objects domain usesUpToDate
  have enabled : domainConnectionManager.exceptionsEnabled = false := rfl
  simp only [ConnectionNode.connect, pending, enabled, Bool.false_eq_true, if_false, Bool.and_false]
  generalize node.uses.resolve objects domainConnectionManager domain = uses at *
  obtain ⟨providesRegistry, providesShape, providesStill, providesNamed, providesComplete⟩ :=
    resolve_upToDate objects uses.domain ((usesRegistry.sameFor _).upToDate providesUpToDate)
  generalize node.provides.resolve objects domainConnectionManager uses.domain = provides at *
  have registry := usesRegistry.trans providesRegistry
  have providesCurrent := (usesRegistry.symm.sameFor _).upToDate providesStill
  -- what a failed attempt leaves, given that the attempt would have worked if it could
  have failed : ¬ Connectable objects domain node → Settled objects domain
      { node with
        uses := uses.endpoint
        provides := provides.endpoint
        connected := false } := by
    intro blocked
    refine ⟨usesStill, providesCurrent, fun connected => ?_, fun _ connectable => ?_⟩
    · cases connected
    · obtain ⟨usesPort, providesPort, usesFresh, providesFresh, alive⟩ := connectable
      rw [← fresh_release, usesShape, fresh_release] at usesFresh
      rw [← fresh_release, providesShape, fresh_release] at providesFresh
      exact blocked ⟨usesPort, providesPort, usesFresh, providesFresh, alive⟩
  have results : ∀ usesPort providesPort, node.uses.fresh objects domain = some usesPort →
      node.provides.fresh objects domain = some providesPort →
      uses.result.join = some usesPort ∧ provides.result.join = some providesPort := by
    intro usesPort providesPort usesFresh providesFresh
    exact ⟨usesComplete usesPort usesFresh,
      providesComplete providesPort ((usesRegistry.symm.sameFor _).fresh providesFresh)⟩
  split
  · rename_i usesObject providesPort usesResult providesResult
    split
    · rename_i notPort
      refine ⟨registry, usesShape, providesShape, failed ?_⟩
      rintro ⟨usesPort, _, usesFresh, providesFresh, alive, _, isPort, _⟩
      have usesSame := (results _ _ usesFresh providesFresh).1
      rw [usesResult, some.injEq] at usesSame
      subst usesSame
      simp [registry.exists_, alive, isPort] at notPort
    split
    · refine ⟨?_, usesShape, providesShape, ?_, ?_, fun _ => ⟨?_, ?_⟩, fun connected => absurd rfl connected⟩
      · exact ⟨registry.devices, registry.services, registry.applications,
          registry.otherComponents, registry.names, registry.exists_⟩
      · exact usesStill
      · exact providesCurrent
      · obtain ⟨cached, named⟩ := usesNamed usesObject usesResult
        refine ⟨usesObject, cached, ?_⟩
        rw [← named_release, usesShape, named_release]
        exact named
      · obtain ⟨cached, named⟩ := providesNamed providesPort providesResult
        refine ⟨providesPort, cached, ?_⟩
        rw [← named_release, providesShape, named_release]
        exact (usesRegistry.symm.sameFor _).named.trans named
    · rename_i refused
      refine ⟨⟨registry.devices, registry.services, registry.applications,
          registry.otherComponents, registry.names, registry.exists_⟩, usesShape, providesShape,
        failed ?_⟩
      rintro ⟨usesPort, otherPort, usesFresh, providesFresh, _, _, _, accepted⟩
      have both := results _ _ usesFresh providesFresh
      rw [usesResult, providesResult, some.injEq, some.injEq] at both
      obtain ⟨rfl, rfl⟩ := both
      rw [accepted] at refused
      cases refused
  · rename_i unresolved
    have blocked : ¬ Connectable objects domain node := by
      rintro ⟨usesPort, providesPort, usesFresh, providesFresh, _⟩
      have both := results _ _ usesFresh providesFresh
      exact unresolved usesPort providesPort both.1 both.2
    split
    · exact ⟨registry, usesShape, providesShape, failed blocked⟩
    split
    · exact ⟨registry, usesShape, providesShape, failed blocked⟩
    · exact ⟨registry, usesShape, providesShape, failed blocked⟩

theorem onEveryList_rule {change : ConnectionList → Domain → ConnectionList × Domain}
    {before after : ConnectionNode → Prop} {start : Domain}
    (rule : ∀ list domain, SameRegistry start domain → (∀ node ∈ list, before node) →
      SameRegistry start (change list domain).2 ∧ ∀ node ∈ (change list domain).1, after node) :
    ∀ table domain, SameRegistry start domain → (∀ entry ∈ listed table, before entry.2) →
      SameRegistry start (onEveryList change table domain).2 ∧
        ∀ entry ∈ listed (onEveryList change table domain).1, after entry.2 := by
  intro table
  induction table with
  | nil => exact fun domain same _ => ⟨same, by simp [onEveryList]⟩
  | cons owner rest ih =>
      intro domain same all
      simp only [listed_cons, List.mem_append, List.mem_map] at all
      obtain ⟨registry, own⟩ := rule owner.2 domain same fun node member =>
        all (owner.1, node) (.inl ⟨node, member, rfl⟩)
      obtain ⟨later, others⟩ := ih (change owner.2 domain).2 registry fun entry member =>
        all entry (.inr member)
      refine ⟨later, ?_⟩
      intro entry member
      simp only [onEveryList, listed_cons, List.mem_append, List.mem_map] at member
      rcases member with ⟨node, nodeMember, rfl⟩ | member
      · exact own node nodeMember
      · exact others entry member

theorem mem_listed_onRequester {requesterId : String} {connection : ConnectionNode}
    {table : List (String × ConnectionList)} {entry : String × ConnectionNode}
    (member : entry ∈ listed (onRequester requesterId (fun list => list ++ [connection]) table)) :
    entry ∈ listed table ∨ entry.2 = connection := by
  simp only [listed, onRequester, List.mem_flatMap, List.mem_map] at member ⊢
  obtain ⟨_, ⟨owner, ownerMember, rfl⟩, node, nodeMember, rfl⟩ := member
  split at nodeMember
  · rename_i same
    rcases List.mem_append.mp nodeMember with old | new
    · refine .inl ⟨owner, ownerMember, node, old, ?_⟩
      simp [same]
    · exact .inr (List.mem_singleton.mp new)
  · rename_i differs
    refine .inl ⟨owner, ownerMember, node, nodeMember, ?_⟩
    simp [differs]

theorem mem_listed_addConnection_ {requesterId : String} {connection : ConnectionNode}
    {connections : DomainConnections} {entry : String × ConnectionNode}
    (member : entry ∈ listed (addConnection_ requesterId connection connections).2.connectionsByRequester) :
    entry ∈ listed connections.connectionsByRequester ∨
      ∃ connectionRecordId, entry.2 = { connection with connectionRecordId } := by
  rcases mem_listed_onRequester member with old | new
  · rw [listed_ensureRequester] at old
    exact .inl old
  · exact .inr ⟨_, new⟩

theorem breakFirst_rule (connectionId : String) :
    ∀ list domain, SameRegistry domain (breakFirst objects connectionId list domain).2 ∧
      ∀ node ∈ (breakFirst objects connectionId list domain).1, node ∈ list := by
  intro list
  induction list with
  | nil => exact fun domain => ⟨SameRegistry.refl domain, by simp [breakFirst]⟩
  | cons connection rest ih =>
      intro domain
      rw [breakFirst]
      split
      · exact ⟨disconnect_registry objects connection domain, fun node member => List.mem_cons_of_mem _ member⟩
      · obtain ⟨registry, members⟩ := ih domain
        refine ⟨registry, fun node member => ?_⟩
        rcases List.mem_cons.mp member with rfl | later
        · exact List.mem_cons_self
        · exact List.mem_cons_of_mem _ (members node later)

theorem breakFirstOf_rule (requesterId connectionId : String) :
    ∀ table domain, SameRegistry domain (breakFirstOf objects requesterId connectionId table domain).2 ∧
      ∀ entry ∈ listed (breakFirstOf objects requesterId connectionId table domain).1, entry ∈ listed table := by
  intro table
  induction table with
  | nil => exact fun domain => ⟨SameRegistry.refl domain, by simp [breakFirstOf]⟩
  | cons owner rest ih =>
      intro domain
      rw [breakFirstOf]
      split
      · obtain ⟨registry, members⟩ := breakFirst_rule objects connectionId owner.2 domain
        refine ⟨registry, fun entry member => ?_⟩
        simp only [listed_cons, List.mem_append, List.mem_map] at member ⊢
        rcases member with ⟨node, nodeMember, rfl⟩ | later
        · exact .inl ⟨node, members node nodeMember, rfl⟩
        · exact .inr later
      · obtain ⟨registry, members⟩ := ih domain
        refine ⟨registry, fun entry member => ?_⟩
        simp only [listed_cons, List.mem_append] at member ⊢
        exact member.imp_right (members entry)

theorem disconnectAll_registry :
    ∀ list domain, SameRegistry domain (disconnectAll objects list domain) := by
  intro list
  induction list with
  | nil => exact SameRegistry.refl
  | cons connection rest ih =>
      intro domain
      exact (disconnect_registry objects connection domain).trans (ih _)

def Followed (node : ConnectionNode) : Prop :=
  node.uses.kind.followed ∧ node.provides.kind.followed

theorem connect_followed {objects : Objects} {node : ConnectionNode} {domain : Domain} (followed : Followed node)
    (usesShape : (node.connect objects domainConnectionManager domain).node.uses.release = node.uses.release)
    (providesShape : (node.connect objects domainConnectionManager domain).node.provides.release =
      node.provides.release) :
    Followed (node.connect objects domainConnectionManager domain).node := by
  constructor
  · rw [← kind_release, usesShape, kind_release]
    exact followed.1
  · rw [← kind_release, providesShape, kind_release]
    exact followed.2

/-- A connection before the attempt that a registration makes for those that depend on it. -/
structure Awaiting (objects : Objects) (domain : Domain) (type : DependencyType)
    (identifier : String) (node : ConnectionNode) : Prop where
  uses : node.uses.UpToDate objects domain
  provides : node.provides.UpToDate objects domain
  current : node.connected → HoldsCurrent objects domain node.uses ∧ HoldsCurrent objects domain node.provides
  waiting : ¬ node.connected → ¬ node.checkDependency type identifier → ¬ Connectable objects domain node
  followed : Followed node

theorem tryPending_settles (start : Domain) (type : DependencyType)
    (identifier : String) : ∀ list domain, SameRegistry start domain →
      (∀ node ∈ list, Awaiting objects start type identifier node) →
      SameRegistry start (tryPending objects type identifier list domain).2 ∧
        ∀ node ∈ (tryPending objects type identifier list domain).1,
          Settled objects start node ∧ Followed node := by
  intro list
  induction list with
  | nil => exact fun domain same _ => ⟨same, by simp [tryPending]⟩
  | cons connection rest ih =>
      intro domain same all
      have own := all connection List.mem_cons_self
      have others := fun node member => all node (List.mem_cons_of_mem connection member)
      rw [tryPending_cons]
      split
      · rename_i skipped
        obtain ⟨registry, settled⟩ := ih domain same others
        refine ⟨registry, List.forall_mem_cons.mpr ⟨⟨⟨own.uses, own.provides, own.current, ?_⟩,
          own.followed⟩, settled⟩⟩
        intro pending
        refine own.waiting pending ?_
        simpa [pending] using skipped
      · rename_i attempted
        simp only [Bool.or_eq_true, not_or, Bool.not_eq_true] at attempted
        obtain ⟨tried, usesShape, providesShape, settled⟩ := connect_settles objects attempted.1
          ((same.sameFor _).upToDate own.uses) ((same.sameFor _).upToDate own.provides)
        obtain ⟨registry, rest_settled⟩ := ih _ (same.trans tried) others
        exact ⟨registry, List.forall_mem_cons.mpr
          ⟨⟨settled.registry same.symm, connect_followed own.followed usesShape providesShape⟩, rest_settled⟩⟩

section Changes

variable {objects : Objects} {type : DependencyType} {identifier : String} {domain after : Domain}

variable {node : ConnectionNode}

theorem refers_depends (independent : ¬ node.checkDependency type identifier) :
    ¬ node.uses.kind.refersTo type identifier ∧ ¬ node.provides.kind.refersTo type identifier := by
  simp only [ConnectionNode.checkDependency, Bool.or_eq_true, not_or,
    checkDependency_kind] at independent
  exact ⟨fun refers => independent.1 (refersTo_checkDependency refers),
    fun refers => independent.2 (refersTo_checkDependency refers)⟩

theorem Settled.awaiting (changes : ChangesOnly objects type identifier domain after)
    (absent : ∀ kind : EndpointKind, kind.refersTo type identifier → kind.found objects domain = none)
    (settled : Settled objects domain node) (followed : Followed node) :
    Awaiting objects after type identifier node where
  uses := by
    by_cases refers : node.uses.kind.refersTo type identifier
    · exact settled.uses.unregistered (absent _ refers)
    · exact (changes.sameFor followed.1 refers).upToDate settled.uses
  provides := by
    by_cases refers : node.provides.kind.refersTo type identifier
    · exact settled.provides.unregistered (absent _ refers)
    · exact (changes.sameFor followed.2 refers).upToDate settled.provides
  current connected := by
    have still {endpoint : Endpoint} (followed : endpoint.kind.followed)
        (holds : HoldsCurrent objects domain endpoint) : HoldsCurrent objects after endpoint := by
      refine holds.same (changes.sameFor followed fun refers => ?_)
      obtain ⟨object, _, named⟩ := holds
      rw [named_none (absent _ refers)] at named
      cases named
    exact (settled.current connected).imp (still followed.1) (still followed.2)
  waiting pending independent connectable := by
    obtain ⟨uses, provides⟩ := refers_depends independent
    exact settled.waiting pending
      (connectable.same (changes.sameFor followed.1 uses) (changes.sameFor followed.2 provides))
  followed := followed

theorem not_connectable (absent : ∀ kind : EndpointKind, kind.refersTo type identifier →
      kind.found objects after = none)
    (refers : node.uses.kind.refersTo type identifier ∨
      node.provides.kind.refersTo type identifier) : ¬ Connectable objects after node := by
  rintro ⟨usesPort, providesPort, usesFresh, providesFresh, _⟩
  rcases refers with uses | provides
  · have named := fresh_named objects after usesFresh
    rw [named_none (absent _ uses)] at named
    cases named
  · have named := fresh_named objects after providesFresh
    rw [named_none (absent _ provides)] at named
    cases named

end Changes

/-- No connection that waits for its other side, and stays listed, has cached a reference to what
is about to leave; and no endpoint takes another object's name for a service's. -/
def MayLeave (type : DependencyType) (identifier : String) (node : ConnectionNode) : Prop :=
  ∀ endpoint ∈ [node.uses, node.provides], endpoint.checkDependency type identifier →
    endpoint.kind.refersTo type identifier ∧
      (node.connected = false → node.allowDeferralOf type identifier → endpoint.release = endpoint)

theorem breakDependent_settles {objects : Objects} {start after : Domain} {type : DependencyType}
    {identifier : String} (changes : ChangesOnly objects type identifier start after)
    (absent : ∀ kind : EndpointKind, kind.refersTo type identifier → kind.found objects after = none) :
    ∀ list domain, SameRegistry start domain →
      (∀ node ∈ list, (Settled objects start node ∧ Followed node) ∧ MayLeave type identifier node) →
      SameRegistry start (breakDependent objects type identifier list domain).2 ∧
        ∀ node ∈ (breakDependent objects type identifier list domain).1,
          Settled objects after node ∧ Followed node := by
  intro list
  induction list with
  | nil => exact fun domain same _ => ⟨same, by simp [breakDependent]⟩
  | cons connection rest ih =>
      intro domain same all
      obtain ⟨⟨settled, followed⟩, mayLeave⟩ := all connection List.mem_cons_self
      have others := fun node member => all node (List.mem_cons_of_mem connection member)
      rw [breakDependent]
      split
      · rename_i depends
        obtain ⟨registry, rest_settled⟩ :=
          ih _ (same.trans (disconnect_registry objects connection domain)) others
        split
        · rename_i deferrable
          refine ⟨registry, List.forall_mem_cons.mpr ⟨?_, rest_settled⟩⟩
          have refers : connection.uses.kind.refersTo type identifier ∨
              connection.provides.kind.refersTo type identifier := by
            simp only [ConnectionNode.checkDependency, Bool.or_eq_true] at depends
            refine depends.imp (fun uses => ?_) (fun provides => ?_)
            · exact (mayLeave connection.uses (by simp) uses).1
            · exact (mayLeave connection.provides (by simp) provides).1
          have blocked := not_connectable absent refers
          rw [disconnect_node]
          split
          · refine ⟨⟨release_upToDate objects after _,
              release_upToDate objects after _, fun connected => ?_, fun _ => ?_⟩, ?_⟩
            · cases connected
            · rintro ⟨usesPort, providesPort, usesFresh, providesFresh, alive⟩
              simp only [fresh_release] at usesFresh providesFresh
              exact blocked ⟨usesPort, providesPort, usesFresh, providesFresh, alive⟩
            · simpa only [Followed, kind_release] using followed
          · rename_i pending
            have side : ∀ endpoint ∈ [connection.uses, connection.provides],
                endpoint.kind.followed → endpoint.UpToDate objects start → endpoint.UpToDate objects after := by
              intro endpoint member follows upToDate
              by_cases own : endpoint.checkDependency type identifier
              · have released := (mayLeave endpoint member own).2 (by simpa using pending) deferrable
                rw [← released]
                exact release_upToDate objects after endpoint
              · rw [checkDependency_kind] at own
                exact (changes.sameFor follows fun refers => own (refersTo_checkDependency refers)).upToDate
                  upToDate
            exact ⟨⟨side _ (by simp) followed.1 settled.uses, side _ (by simp) followed.2 settled.provides,
              fun connected => absurd connected pending, fun _ => blocked⟩, followed⟩
        · exact ⟨registry, rest_settled⟩
      · rename_i independent
        obtain ⟨registry, rest_settled⟩ := ih domain same others
        obtain ⟨uses, provides⟩ := refers_depends independent
        exact ⟨registry, List.forall_mem_cons.mpr
          ⟨⟨settled.same (changes.sameFor followed.1 uses) (changes.sameFor followed.2 provides), followed⟩,
            rest_settled⟩⟩

/-- What happens to the connections of a domain in which devices and services come and go. -/
inductive DomainEvent
  | registerDevice (identifier : String) (device : ObjRef)
  | unregisterDevice (identifier : String)
  | registerService (name : String) (service : ObjRef)
  | unregisterService (name : String)
  /-- The object answers no more calls. -/
  | objectGone (object : ObjRef)
  | addConnection (deviceManagerId : String) (connection : Connection) (uuid : String)
  | restoreConnection (deviceManagerId : String) (connection : ConnectionNode)
  | connect (usesEndpoint providesEndpoint : EndpointRequest) (requesterId connectionId uuid : String)
  | breakConnection (connectionRecordId : String)
  | deviceManagerUnregistered (deviceManagerName : String)

def Domain.without (domain : Domain) (object : ObjRef) : Domain :=
  { domain with exists_ := fun other => domain.exists_ other && other != object }

def process (objects : Objects) : DomainEvent → DomainConnections → DomainConnections
  | .registerDevice identifier device, connections =>
    registerDevice objects identifier device connections
  | .unregisterDevice identifier, connections => unregisterDevice objects identifier connections
  | .registerService name service, connections => registerService objects name service connections
  | .unregisterService name, connections => unregisterService objects name connections
  | .objectGone object, connections =>
    { connections with domain := connections.domain.without object }
  | .addConnection deviceManagerId connection uuid, connections =>
    (addConnection objects deviceManagerId connection uuid connections).2
  | .restoreConnection deviceManagerId connection, connections =>
    (restoreConnection objects deviceManagerId connection connections).2
  | .connect usesEndpoint providesEndpoint requesterId connectionId uuid, connections =>
    (connectRequest objects usesEndpoint providesEndpoint requesterId connectionId uuid connections).2
  | .breakConnection connectionRecordId, connections =>
    (breakConnection objects connectionRecordId connections).2
  | .deviceManagerUnregistered deviceManagerName, connections =>
    deviceManagerUnregistered objects deviceManagerName connections

def AllMayLeave (type : DependencyType) (identifier : String) (connections : DomainConnections) : Prop :=
  ∀ entry ∈ listed connections.connectionsByRequester, MayLeave type identifier entry.2

/-- A saved connection that fits the domain in which it is restored: its uses side exists if it was
made, and unless its provides side is gone it is settled. -/
structure Restorable (objects : Objects) (domain : Domain) (connection : ConnectionNode) : Prop where
  followed : Followed connection
  usesExists : connection.connected → objectExists domain connection.uses.object
  settled : (connection.connected → objectExists domain connection.provides.object) →
    Settled objects domain connection
  broken : connection.connected → ¬ objectExists domain connection.provides.object →
    ¬ Connectable objects domain connection

/-- No device takes the identifier of a component, nothing leaves while a reference to it is cached
in a connection that waits, endpoints name devices and services, and what is restored still fits. -/
def Orderly (objects : Objects) : DomainEvent → DomainConnections → Prop
  | .registerDevice identifier _, connections =>
    connections.domain.otherComponents identifier = none ∧
      ∀ registered ∈ lookup connections.domain.devices identifier,
        connections.domain.exists_ registered = false → AllMayLeave .COMPONENT identifier connections
  | .unregisterDevice identifier, connections =>
    (lookup connections.domain.devices identifier).isSome → AllMayLeave .COMPONENT identifier connections
  | .unregisterService name, connections =>
    (lookup connections.domain.services name).isSome → AllMayLeave .SERVICENAME name connections
  | .addConnection _ connection uuid, _ =>
    ∀ node ∈ ParseConnection connection uuid, Followed node
  | .restoreConnection _ connection, connections =>
    Restorable objects connections.domain connection
  | _, _ => True

structure Registry (domain : Domain) : Prop where
  devices : (domain.devices.map Prod.fst).Nodup
  services : (domain.services.map Prod.fst).Nodup
  others : ∀ device ∈ domain.devices, domain.otherComponents device.1 = none

structure Deferred (objects : Objects) (connections : DomainConnections) : Prop where
  registry : Registry connections.domain
  settled : ∀ entry ∈ listed connections.connectionsByRequester,
    Settled objects connections.domain entry.2 ∧ Followed entry.2

theorem Registry.registry {domain after : Domain} (registry : Registry domain)
    (same : SameRegistry domain after) : Registry after where
  devices := same.devices ▸ registry.devices
  services := same.services ▸ registry.services
  others := by
    rw [same.devices, same.otherComponents]
    exact registry.others

theorem Deferred.registry_of {objects : Objects} {start : Domain} {connections : DomainConnections}
    (registry : Registry start) (same : SameRegistry start connections.domain)
    (settled : ∀ entry ∈ listed connections.connectionsByRequester,
      Settled objects start entry.2 ∧ Followed entry.2) : Deferred objects connections where
  registry := registry.registry same
  settled entry member := (settled entry member).imp_left (·.registry same)

section Steps

variable {objects : Objects} {connections : DomainConnections}

variable {domain : Domain} {identifier : String}

theorem absent_component (device : lookup domain.devices identifier = none)
    (other : domain.otherComponents identifier = none) :
    ∀ kind : EndpointKind, kind.refersTo .COMPONENT identifier → kind.found objects domain = none := by
  intro kind refers
  cases kind with
  | ComponentEndpoint identifier_ =>
      obtain rfl : identifier = identifier_ := by simpa [refersTo] using refers
      simp [found, resolve_, resolveComponent, domainConnectionManager,
        Manager.catchLookupError, device, other]
  | _ => simp [refersTo] at refers

variable {name : String}

theorem absent_service (service : lookup domain.services name = none) :
    ∀ kind : EndpointKind, kind.refersTo .SERVICENAME name → kind.found objects domain = none := by
  intro kind refers
  have found : (lookupDomainObject objects "servicename" name domain).1 = none := by
    rw [lookupDomainObject_servicename, service]
    rfl
  cases kind with
  | ServiceEndpoint name_ =>
      obtain rfl : name = name_ := by simpa [EndpointKind.refersTo] using refers
      simp [EndpointKind.found, EndpointKind.resolve_, resolveDomainObject,
        Manager.catchLookupError, domainConnectionManager, found]
  | FindByDomainFinderEndpoint type name_ =>
      obtain ⟨rfl, rfl⟩ : type = "servicename" ∧ name = name_ := by
        simpa [EndpointKind.refersTo] using refers
      simp [EndpointKind.found, EndpointKind.resolve_, resolveDomainObject,
        Manager.catchLookupError, domainConnectionManager, found]
  | _ => simp [EndpointKind.refersTo] at refers

theorem Deferred.arrive (deferred : Deferred objects connections) {type : DependencyType}
    {after : Domain} (registry : Registry after)
    (changes : ChangesOnly objects type identifier connections.domain after)
    (absent : ∀ kind : EndpointKind, kind.refersTo type identifier →
      kind.found objects connections.domain = none) :
    Deferred objects
      (tryPendingConnections_ objects type identifier { connections with domain := after }) := by
  obtain ⟨same, settled⟩ := onEveryList_rule (tryPending_settles objects after type identifier)
    connections.connectionsByRequester after (SameRegistry.refl after) fun entry member =>
      (deferred.settled entry member).1.awaiting changes absent (deferred.settled entry member).2
  exact Deferred.registry_of registry same settled

theorem Deferred.leave (deferred : Deferred objects connections) {type : DependencyType}
    {after : Domain} (changes : ChangesOnly objects type identifier connections.domain after)
    (absent : ∀ kind : EndpointKind, kind.refersTo type identifier → kind.found objects after = none)
    (mayLeave : AllMayLeave type identifier connections) :
    SameRegistry connections.domain (breakConnections_ objects type identifier connections).domain ∧
      ∀ entry ∈ listed (breakConnections_ objects type identifier connections).connectionsByRequester,
        Settled objects after entry.2 ∧ Followed entry.2 :=
  onEveryList_rule (breakDependent_settles changes absent) connections.connectionsByRequester
    connections.domain (SameRegistry.refl _) fun entry member =>
      ⟨deferred.settled entry member, mayLeave entry member⟩

theorem lookup_eq_none {table : List (String × ObjRef)} :
    lookup table name = none ↔ name ∉ table.map Prod.fst := by
  simp only [lookup, map_eq_none_iff, List.find?_eq_none, List.mem_map, not_exists,
    not_and, beq_iff_eq]

theorem nodup_append_new {table : List (String × ObjRef)} (object : ObjRef)
    (unique : (table.map Prod.fst).Nodup) (free : lookup table name = none) :
    ((table ++ [(name, object)]).map Prod.fst).Nodup := by
  rw [List.map_append, List.nodup_append]
  refine ⟨unique, by simp, ?_⟩
  intro other member new single same
  obtain rfl : new = name := by simpa using single
  exact lookup_eq_none.mp free (same ▸ member)

section

variable (deferred : Deferred objects connections)
include deferred

theorem Deferred.storeDevice (device : ObjRef) (free : lookup connections.domain.devices identifier = none)
    (other : connections.domain.otherComponents identifier = none) :
    Deferred objects (storeDevice objects identifier device connections) := by
  refine deferred.arrive ⟨nodup_append_new device deferred.registry.devices free,
    deferred.registry.services, ?_⟩ (changesOnly_devices fun _ => lookup_append_other)
    (absent_component free other)
  intro entry member
  rcases List.mem_append.mp member with old | new
  · exact deferred.registry.others entry old
  · obtain rfl : entry = (identifier, device) := by simpa using new
    exact other

theorem Deferred.registerService (name : String)
    (service : ObjRef) : Deferred objects (registerService objects name service connections) := by
  unfold Connections.registerService
  split
  · exact deferred
  · rename_i notRegistered
    have free : lookup connections.domain.services name = none := by
      simpa using notRegistered
    exact deferred.arrive ⟨deferred.registry.devices,
      nodup_append_new service deferred.registry.services free, deferred.registry.others⟩
      (changesOnly_services fun _ => lookup_append_other) (absent_service free)

theorem Deferred.unregisterDevice
    (mayLeave : (lookup connections.domain.devices identifier).isSome →
      AllMayLeave .COMPONENT identifier connections) :
    Deferred objects (unregisterDevice objects identifier connections) ∧
      lookup (unregisterDevice objects identifier connections).domain.devices identifier = none ∧
      (unregisterDevice objects identifier connections).domain.otherComponents =
        connections.domain.otherComponents := by
  unfold Connections.unregisterDevice
  split
  · rename_i unknown
    exact ⟨deferred, by simpa using unknown, rfl⟩
  · rename_i known
    have registered : ∃ device, lookup connections.domain.devices identifier = some device :=
      ne_none_iff_exists'.mp (by simpa using known)
    obtain ⟨device, found⟩ := registered
    have gone := @lookup_eraseP_self _ identifier deferred.registry.devices
    have other : connections.domain.otherComponents identifier = none := by
      have member : identifier ∈ connections.domain.devices.map Prod.fst := by
        by_contra absent
        rw [lookup_eq_none.mpr absent] at found
        cases found
      obtain ⟨entry, entryMember, rfl⟩ := List.mem_map.mp member
      exact deferred.registry.others entry entryMember
    obtain ⟨same, settled⟩ := deferred.leave
      (changesOnly_devices fun _ => lookup_eraseP_other) (absent_component gone other)
      (mayLeave (by simp [found]))
    have erased := same.devices
    simp only [setDevices, deviceUnregistered]
    refine ⟨@Deferred.registry_of _ { connections.domain with
        devices := connections.domain.devices.eraseP fun device => device.1 == identifier } _
      ⟨?_, deferred.registry.services, ?_⟩ ⟨?_, same.services, same.applications,
        same.otherComponents, same.names, same.exists_⟩ settled, ?_, same.otherComponents⟩
    · exact deferred.registry.devices.sublist (List.eraseP_sublist.map Prod.fst)
    · exact fun entry member => deferred.registry.others entry (List.eraseP_subset member)
    · rw [same.devices]
    · rw [same.devices]
      exact gone

theorem Deferred.unregisterService
    (mayLeave : (lookup connections.domain.services name).isSome →
      AllMayLeave .SERVICENAME name connections) :
    Deferred objects (unregisterService objects name connections) := by
  unfold Connections.unregisterService
  split
  · exact deferred
  · rename_i known
    obtain ⟨same, settled⟩ := deferred.leave
      (changesOnly_services fun _ => lookup_eraseP_other)
      (absent_service (lookup_eraseP_self deferred.registry.services))
      (mayLeave (by simpa [isSome_iff_ne_none] using known))
    simp only [setServices, serviceUnregistered]
    refine @Deferred.registry_of _ { connections.domain with
        services := connections.domain.services.eraseP fun service => service.1 == name } _
      ⟨deferred.registry.devices, ?_, deferred.registry.others⟩ ⟨same.devices, ?_,
        same.applications, same.otherComponents, same.names, same.exists_⟩ settled
    · exact deferred.registry.services.sublist (List.eraseP_sublist.map Prod.fst)
    · rw [same.services]

theorem Deferred.registerDevice (device : ObjRef) (other : connections.domain.otherComponents identifier = none)
    (mayLeave : ∀ registered,
      lookup connections.domain.devices identifier = some registered →
        connections.domain.exists_ registered = false → AllMayLeave .COMPONENT identifier connections) :
    Deferred objects (registerDevice objects identifier device connections) := by
  unfold Connections.registerDevice
  split
  · rename_i free
    exact deferred.storeDevice device free other
  · rename_i registered found
    split
    · exact deferred
    · rename_i gone
      obtain ⟨still, free, others⟩ := deferred.unregisterDevice fun _ =>
        mayLeave registered found (by simpa using gone)
      exact still.storeDevice device free (others ▸ other)

end

variable {connection : ConnectionNode}

theorem Deferred.addConnection_ (deferred : Deferred objects connections) (requesterId : String)
    (same : SameRegistry connections.domain domain)
    (settled : Settled objects connections.domain connection) (followed : Followed connection) :
    Deferred objects
      (addConnection_ requesterId connection { connections with domain := domain }).2 := by
  refine Deferred.registry_of deferred.registry same fun entry member => ?_
  rcases mem_listed_addConnection_ member with old | ⟨connectionRecordId, new⟩
  · exact deferred.settled entry old
  · rw [new]
    exact ⟨⟨settled.uses, settled.provides, settled.current, settled.waiting⟩, followed⟩

theorem Deferred.withDomain (deferred : Deferred objects connections)
    (same : SameRegistry connections.domain domain) :
    Deferred objects { connections with domain := domain } :=
  Deferred.registry_of deferred.registry same deferred.settled

theorem Settled.broken (settled : Settled objects domain connection) (connected : connection.connected)
    (gone : ¬ objectExists domain connection.provides.object) :
    ¬ Connectable objects domain connection := by
  rintro ⟨usesPort, providesPort, _, providesFresh, _, alive, _⟩
  obtain ⟨object, cached, named⟩ := (settled.current connected).2
  have same := fresh_named objects domain providesFresh
  rw [named, some.injEq] at same
  subst same
  simp [objectExists, cached, alive] at gone

section

variable (deferred : Deferred objects connections)
include deferred

theorem Deferred.restoreConnection (requesterId : String)
    (same : SameRegistry connections.domain domain) (followed : Followed connection)
    (broken : connection.connected → ¬ objectExists domain connection.provides.object →
      ¬ Connectable objects connections.domain connection)
    (kept : (connection.connected → objectExists domain connection.uses.object →
      objectExists domain connection.provides.object) → Settled objects connections.domain connection) :
    Deferred objects (restoreConnection objects requesterId connection
      { connections with domain := domain }).2 := by
  unfold Connections.restoreConnection
  split
  · rename_i breaks
    simp only [Bool.and_eq_true, Bool.not_eq_true'] at breaks
    have blocked := broken breaks.1.1 (by simp [breaks.2])
    refine deferred.addConnection_ requesterId
      (same.trans (disconnect_registry objects connection domain)) ?_ ?_
    · rw [disconnect_node, if_pos breaks.1.1]
      refine ⟨release_upToDate objects _ _, release_upToDate objects _ _,
        fun connected => ?_, fun _ => ?_⟩
      · cases connected
      · rintro ⟨usesPort, providesPort, usesFresh, providesFresh, alive⟩
        simp only [fresh_release] at usesFresh providesFresh
        exact blocked ⟨usesPort, providesPort, usesFresh, providesFresh, alive⟩
    · rw [disconnect_node, if_pos breaks.1.1]
      simpa only [Followed, kind_release] using followed
  · rename_i stays
    refine deferred.addConnection_ requesterId same (kept fun connected usesExists => ?_) followed
    simpa [connected, usesExists] using stays

theorem Deferred.fewer {after : DomainConnections} (same : SameRegistry connections.domain after.domain)
    (members : ∀ entry ∈ listed after.connectionsByRequester,
      entry ∈ listed connections.connectionsByRequester) : Deferred objects after :=
  Deferred.registry_of deferred.registry same fun entry member =>
    deferred.settled entry (members entry member)

theorem Deferred.breakConnection (connectionRecordId : String) :
    Deferred objects (breakConnection objects connectionRecordId connections).2 := by
  unfold Connections.breakConnection
  split
  · exact deferred
  · obtain ⟨same, members⟩ := breakFirstOf_rule objects _ _ connections.connectionsByRequester
      connections.domain
    exact deferred.fewer same members

theorem Deferred.deviceManagerUnregistered (deviceManagerName : String) :
    Deferred objects (deviceManagerUnregistered objects deviceManagerName connections) := by
  unfold Connections.deviceManagerUnregistered
  split
  · exact deferred
  · refine deferred.fewer (disconnectAll_registry objects _ _) fun entry member => ?_
    simp only [listed, List.mem_flatMap] at member ⊢
    obtain ⟨owner, ownerMember, own⟩ := member
    exact ⟨owner, (List.mem_filter.mp ownerMember).1, own⟩

end

theorem parsed_released {connection : Connection} {uuid : String} {node : ConnectionNode}
    (parsed : ParseConnection connection uuid = some node) :
    node.connected = false ∧ node.uses.release = node.uses ∧ node.provides.release = node.provides := by
  have findBy : ∀ {element : FindBy} {endpoint}, ParseFindBy element = some endpoint →
      endpoint.release = endpoint := by
    intro element endpoint found
    unfold ParseFindBy at found
    grind [release]
  have supplier : ∀ {port : Port} {endpoint}, ParsePortSupplier port = some endpoint →
      endpoint.release = endpoint := by
    intro port endpoint found
    unfold ParsePortSupplier at found
    grind [release]
  have port : ∀ {port : Port} {endpoint}, ParsePort port = some endpoint → endpoint.release = endpoint := by
    intro port endpoint found
    simp only [ParsePort, map_eq_some_iff] at found
    obtain ⟨inner, innerFound, rfl⟩ := found
    rw [release, supplier innerFound]
  have side : ∀ {side : ProvidesSide} {endpoint}, ParseProvidesEndpoint side = some endpoint →
      endpoint.release = endpoint := by
    intro side endpoint found
    cases side with
    | providesPort element => exact port found
    | findBy element => exact findBy found
    | componentSupportedInterface element => exact supplier found
    | unknown => cases found
  unfold ParseConnection at parsed
  split at parsed
  · cases parsed
  · rename_i uses usesFound
    split at parsed
    · cases parsed
    · rename_i provides providesFound
      cases parsed
      exact ⟨rfl, port usesFound, side providesFound⟩

variable {endpoint : Endpoint}

theorem requestToEndpoint_new {request : EndpointRequest} (parsed : requestToEndpoint request = some endpoint) :
    endpoint.release = endpoint ∧ endpoint.kind.followed := by
  simp only [requestToEndpoint, map_eq_some_iff] at parsed
  obtain ⟨kind, found, rfl⟩ := parsed
  have followed : kind.followed := by
    unfold EndpointRequestKind.kind at found
    split at found
    all_goals cases found
    all_goals rfl
  split
  · exact ⟨rfl, followed⟩
  · exact ⟨rfl, followed⟩

theorem Deferred.addConnection (deferred : Deferred objects connections) (deviceManagerId : String)
    (connection : Connection) (uuid : String)
    (followed : ∀ node ∈ ParseConnection connection uuid, Followed node) :
    Deferred objects (addConnection objects deviceManagerId connection uuid connections).2 := by
  unfold Connections.addConnection
  split
  · exact deferred
  · rename_i node parsed
    have unconnected : node.connected = false ∧ node.uses.release = node.uses ∧
        node.provides.release = node.provides := parsed_released parsed
    obtain ⟨pending, uses, provides⟩ := unconnected
    obtain ⟨same, usesShape, providesShape, settled⟩ := connect_settles objects pending
      (uses ▸ release_upToDate objects connections.domain node.uses)
      (provides ▸ release_upToDate objects connections.domain node.provides)
    simp only
    split
    · exact deferred.withDomain same
    · split
      · exact deferred.withDomain same
      · exact deferred.addConnection_ deviceManagerId same
          ⟨settled.uses, settled.provides, settled.current, settled.waiting⟩
          (connect_followed (followed node parsed) usesShape providesShape)

theorem Deferred.connectRequest (deferred : Deferred objects connections)
    (usesEndpoint providesEndpoint : EndpointRequest) (requesterId connectionId uuid : String) :
    Deferred objects (connectRequest objects usesEndpoint providesEndpoint requesterId connectionId
      uuid connections).2 := by
  unfold Connections.connectRequest
  split
  · rename_i uses provides usesParsed providesParsed
    simp only
    generalize start : ConnectionNode.mk uses provides
      (if connectionId = "" then uuid else connectionId) requesterId "" false = node
    have usesNew := requestToEndpoint_new usesParsed
    have providesNew := requestToEndpoint_new providesParsed
    have followed : Followed node := by
      subst start
      exact ⟨usesNew.2, providesNew.2⟩
    obtain ⟨same, usesShape, providesShape, settled⟩ := @connect_settles objects
      connections.domain node (by subst start; rfl)
      (by
        subst start
        rw [← usesNew.1]
        exact release_upToDate objects _ _)
      (by
        subst start
        rw [← providesNew.1]
        exact release_upToDate objects _ _)
    split
    · exact deferred.withDomain same
    · refine deferred.restoreConnection requesterId same
        (connect_followed followed usesShape providesShape) (fun connected gone => ?_)
        fun _ => settled
      refine settled.broken connected ?_
      simpa only [objectExists, same.exists_] using gone
  · exact deferred

theorem sameFor_without (domain : Domain) (object : ObjRef) {kind : EndpointKind} (followed : kind.followed) :
    SameFor objects domain (domain.without object) kind where
  found := by
    refine EndpointKind.found_congr (fun type name looked =>
      lookupDomainObject_found type name (fun _ => rfl) rfl ?_) (fun _ _ => rfl) rfl fun _ _ => rfl
    rintro rfl
    cases kind <;> simp_all [EndpointKind.followed, EndpointKind.domainObject]
  alive other lives := (Bool.and_eq_true_iff.mp lives).1

theorem Deferred.objectGone (deferred : Deferred objects connections) (object : ObjRef) :
    Deferred objects { connections with domain := connections.domain.without object } where
  registry := ⟨deferred.registry.devices, deferred.registry.services, deferred.registry.others⟩
  settled entry member := by
    obtain ⟨settled, followed⟩ := deferred.settled entry member
    exact ⟨settled.same (sameFor_without _ object followed.1) (sameFor_without _ object followed.2), followed⟩

theorem Deferred.process (deferred : Deferred objects connections) {event : DomainEvent}
    (orderly : Orderly objects event connections) :
    Deferred objects (process objects event connections) := by
  cases event with
  | registerDevice identifier device => exact deferred.registerDevice device orderly.1 orderly.2
  | unregisterDevice identifier => exact (deferred.unregisterDevice orderly).1
  | registerService name service => exact deferred.registerService name service
  | unregisterService name => exact deferred.unregisterService orderly
  | objectGone object => exact deferred.objectGone object
  | addConnection deviceManagerId connection uuid =>
      exact deferred.addConnection deviceManagerId connection uuid orderly
  | restoreConnection deviceManagerId connection =>
      refine deferred.restoreConnection deviceManagerId (SameRegistry.refl _) orderly.followed
        orderly.broken fun provides => orderly.settled fun connected => ?_
      exact provides connected (orderly.usesExists connected)
  | connect usesEndpoint providesEndpoint requesterId connectionId uuid =>
      exact deferred.connectRequest usesEndpoint providesEndpoint requesterId connectionId uuid
  | breakConnection connectionRecordId => exact deferred.breakConnection connectionRecordId
  | deviceManagerUnregistered deviceManagerName =>
      exact deferred.deviceManagerUnregistered deviceManagerName

end Steps

/-- In every state of an orderly run, every listed connection is made between what is registered or
waits for something that is not, and every reference it caches is to what is registered. -/
theorem deferred_connections_converge (objects : Objects) {domain : Domain}
    (registry : Registry domain) (events : List DomainEvent)
    (orderly : Along (process objects) (Orderly objects) (noConnections domain) events) :
    Converged objects (run (process objects) (noConnections domain) events) := by
  have start : Deferred objects (noConnections domain) := ⟨registry, by simp [noConnections]⟩
  have deferred : Deferred objects (run (process objects) (noConnections domain) events) :=
    invariant_run (Deferred objects) (fun _ _ deferred orderly => deferred.process orderly) start
      orderly
  exact fun entry member => (deferred.settled entry member).1

/-- Two devices with a port `out` each, 1 and 2, and one with a port `in`, 3; the port of a device
is ten more than the device. -/
def devices : Objects where
  isPort _ := true
  isPortSupplier _ := true
  getPort device _ := some (some (device + 10))
  connectPort _ _ _ := none
  isA _ _ := false
  channel _ := none
  fileManager := 0
  domainManager := 0

def liveDomain : Domain := { emptyDomain with exists_ := fun _ => true }

theorem liveDomain_registry : Registry liveDomain where
  devices := List.nodup_nil
  services := List.nodup_nil
  others := by simp [liveDomain, emptyDomain]

def connectDevices : DomainEvent :=
  .connect ⟨.ENDPOINT_DEVICE "source", "out"⟩ ⟨.ENDPOINT_DEVICE "sink", "in"⟩ "client" "link" ""

instance (type : DependencyType) (identifier : String) (node : ConnectionNode) :
    Decidable (MayLeave type identifier node) := by
  unfold MayLeave
  infer_instance

instance (type : DependencyType) (identifier : String) (connections : DomainConnections) :
    Decidable (AllMayLeave type identifier connections) := by
  unfold AllMayLeave
  infer_instance

instance (objects : Objects) (domain : Domain) (endpoint : Endpoint) :
    Decidable (HoldsCurrent objects domain endpoint) :=
  inferInstanceAs (Decidable (∃ object ∈ endpoint.object, endpoint.named objects domain = some object))

def sinkReturns : List DomainEvent :=
  [connectDevices, .registerDevice "source" 1, .registerDevice "sink" 3, .unregisterDevice "sink",
    .registerDevice "sink" 2]

theorem deferred_connections_converge_sinkReturns :
    Converged devices (run (process devices) (noConnections liveDomain) sinkReturns) := by
  refine deferred_connections_converge devices liveDomain_registry _
    ⟨trivial, ⟨rfl, ?_⟩, ⟨rfl, ?_⟩, fun _ => ?_, ⟨rfl, ?_⟩, trivial⟩
  all_goals decide

/-- The source leaves while the connection waits for the sink, and comes back as another object: the
connection is made from the port of the object that left. -/
theorem stale_port_connected : ¬ Converged devices (run (process devices) (noConnections liveDomain)
    [connectDevices, .registerDevice "source" 1, .unregisterDevice "source",
      .registerDevice "source" 2, .registerDevice "sink" 3]) := by
  intro converged
  have current : ∀ entry ∈ listed (run (process devices) (noConnections liveDomain)
      [connectDevices, .registerDevice "source" 1, .unregisterDevice "source",
        .registerDevice "source" 2, .registerDevice "sink" 3]).connectionsByRequester,
      entry.2.connected → HoldsCurrent devices (run (process devices) (noConnections liveDomain)
        [connectDevices, .registerDevice "source" 1, .unregisterDevice "source",
          .registerDevice "source" 2, .registerDevice "sink" 3]).domain entry.2.uses :=
    fun entry member connected => ((converged entry member).current connected).1
  revert current
  decide

end Redhawk.Connections
