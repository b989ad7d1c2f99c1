import Redhawk.Connections.ChannelCounts

/-!
Runs of the domain in which the connection count of every event channel is the number of connections
and consumers that the channel has.
-/

namespace Redhawk.Connections

open Redhawk.Library DomainState ConnectionNode List

section Transport

variable {objects : Objects} {domain after : Domain} {node : ConnectionNode}

theorem Endpoint.target_registry (same : SameRegistry domain after) (endpoint : Endpoint) :
    endpoint.target objects domainConnectionManager after =
      endpoint.target objects domainConnectionManager domain := by
  induction endpoint with
  | plain kind object_ =>
      cases object_ with
      | none => exact (same.sameFor kind).found
      | some object => rfl
  | PortEndpoint supplier_ name_ invalidPort_ object_ ih =>
      cases object_ with
      | none => simp only [Endpoint.target, ih, same.exists_]
      | some object => rfl

theorem AttemptBalances.reaches (reaches : Reaches objects domain after)
    (balances : AttemptBalances objects domainConnectionManager domain node) :
    AttemptBalances objects domainConnectionManager after node where
  uses channelName channel kept :=
    balances.uses channelName channel ((reaches.kept channelName).mp kept)
  provides channelName channel kept := by
    rw [Endpoint.target_registry reaches.registry, reaches.registry.exists_]
    exact balances.provides channelName channel ((reaches.kept channelName).mp kept)

theorem DisconnectBalances.reaches (reaches : Reaches objects domain after)
    (balances : DisconnectBalances objects domain node) :
    DisconnectBalances objects after node := by
  intro connected channelName channel kept
  rw [reaches.registry.exists_]
  exact balances connected channelName channel ((reaches.kept channelName).mp kept)

end Transport

def loadOf (channelName : String) (list : ConnectionList) : Nat :=
  list.countP (on channelName)

variable (channelName : String)

theorem loadOf_cons (node : ConnectionNode) (rest : ConnectionList) :
    loadOf channelName (node :: rest) =
      loadOf channelName rest + if node.on channelName then 1 else 0 :=
  countP_cons

theorem loadOf_le (list : ConnectionList) : loadOf channelName list ≤ list.length :=
  countP_le_length

theorem load_owner (channelName owner : String) (list : ConnectionList) :
    load channelName (list.map fun connection => (owner, connection)) = loadOf channelName list := by
  simp [load, loadOf, countP_map, Function.comp_def]

section

variable (owner : String × ConnectionList) (rest : List (String × ConnectionList))

theorem load_listed_cons :
    load channelName (listed (owner :: rest)) = loadOf channelName owner.2 + load channelName (listed rest) := by
  rw [listed_cons, load, countP_append, ← load, ← load, load_owner]

theorem length_listed_cons : (listed (owner :: rest)).length = owner.2.length + (listed rest).length := by
  simp

end

def KeepsTallies (objects : Objects) (start : Domain) (before : ConnectionNode → Prop)
    (change : ConnectionList → Domain → ConnectionList × Domain) : Prop :=
  ∀ list domain (others : String → Nat), Reaches objects start domain → (∀ node ∈ list, before node) →
    (∀ channelName, others channelName + list.length < 2 ^ 32) →
    Tallies objects domain (fun channelName => others channelName + loadOf channelName list) →
    Reaches objects start (change list domain).2 ∧
      Tallies objects (change list domain).2 (fun channelName =>
        others channelName + loadOf channelName (change list domain).1) ∧
      (change list domain).1.length ≤ list.length

section Lists

variable {objects : Objects} {start : Domain} {type : DependencyType} {identifier : String}

variable {domain : Domain}

theorem Tallies.of_eq {users others : String → Nat} (tallies : Tallies objects domain users)
    (same : ∀ channelName, others channelName = users channelName) :
    Tallies objects domain others :=
  tallies.congr fun channelName _ => same channelName

theorem keepsTallies_tryPending : KeepsTallies objects start
    (fun node => node.connected = false → node.checkDependency type identifier →
      AttemptBalances objects domainConnectionManager start node)
    (tryPending objects type identifier) := by
  intro list
  induction list with
  | nil => exact fun domain others reaches _ _ tallies => ⟨reaches, tallies, Nat.le_refl _⟩
  | cons connection rest ih =>
      intro domain others reaches all room tallies
      simp only [length_cons] at room
      have own := all connection mem_cons_self
      have later := fun node member => all node (mem_cons_of_mem connection member)
      rw [tryPending_cons]
      split
      · obtain ⟨reached, counted, length⟩ := ih domain
          (fun channelName => others channelName + if connection.on channelName then 1 else 0)
          reaches later (fun channelName => by have := room channelName; split <;> omega)
          (tallies.of_eq fun channelName => by rw [loadOf_cons]; omega)
        refine ⟨reached, counted.of_eq fun channelName => ?_, by simpa using length⟩
        rw [loadOf_cons]
        omega
      · rename_i attempted
        simp only [Bool.or_eq_true, not_or, Bool.not_eq_true, Bool.not_eq_false'] at attempted
        have pendingOff : ∀ channelName, connection.on channelName = false := by
          simp [on, attempted.1]
        have tried := @Tallies.connect objects domainConnectionManager domain connection
          (fun channelName => others channelName + loadOf channelName rest)
          (tallies.of_eq fun channelName => by simp [loadOf_cons, pendingOff]) attempted.1
          ((own attempted.1 attempted.2).reaches reaches)
          fun channelName => by
            have := room channelName
            have := loadOf_le channelName rest
            omega
        have reachesTried := connect_reaches objects domainConnectionManager domain connection
        obtain ⟨reached, counted, length⟩ := ih _
          (fun channelName => others channelName +
            if (connection.connect objects domainConnectionManager domain).node.on channelName then 1
              else 0)
          (reaches.trans reachesTried) later
          (fun channelName => by have := room channelName; split <;> omega)
          (tried.of_eq fun channelName => by omega)
        refine ⟨reached, counted.of_eq fun channelName => ?_, by simpa using length⟩
        rw [loadOf_cons]
        omega

theorem keepsTallies_breakDependent : KeepsTallies objects start
    (fun node => node.checkDependency type identifier → DisconnectBalances objects start node)
    (breakDependent objects type identifier) := by
  intro list
  induction list with
  | nil => exact fun domain others reaches _ _ tallies => ⟨reaches, tallies, Nat.le_refl _⟩
  | cons connection rest ih =>
      intro domain others reaches all room tallies
      simp only [length_cons] at room
      have own := all connection mem_cons_self
      have later := fun node member => all node (mem_cons_of_mem connection member)
      rw [breakDependent]
      split
      · rename_i depends
        have broken := Tallies.disconnect
          (fun channelName => others channelName + loadOf channelName rest)
          ((own depends).reaches reaches)
          (fun channelName => by
            have := room channelName
            have := loadOf_le channelName rest
            omega)
          (tallies.of_eq fun channelName => by rw [loadOf_cons]; omega)
        obtain ⟨reached, counted, length⟩ := ih _ others
          (reaches.trans (disconnect_reaches objects connection domain)) later
          (fun channelName => by have := room channelName; omega) broken
        split
        · refine ⟨reached, counted.of_eq fun channelName => ?_, by simpa using length⟩
          simp [loadOf_cons, disconnect_on]
        · exact ⟨reached, counted, Nat.le_succ_of_le length⟩
      · obtain ⟨reached, counted, length⟩ := ih domain
          (fun channelName => others channelName + if connection.on channelName then 1 else 0)
          reaches later (fun channelName => by have := room channelName; split <;> omega)
          (tallies.of_eq fun channelName => by rw [loadOf_cons]; omega)
        refine ⟨reached, counted.of_eq fun channelName => ?_, by simpa using length⟩
        rw [loadOf_cons]
        omega

theorem KeepsTallies.onEveryList {before : ConnectionNode → Prop}
    {change : ConnectionList → Domain → ConnectionList × Domain}
    (keeps : KeepsTallies objects start before change) :
    ∀ table domain (others : String → Nat), Reaches objects start domain →
      (∀ entry ∈ listed table, before entry.2) →
      (∀ channelName, others channelName + (listed table).length < 2 ^ 32) →
      Tallies objects domain (fun channelName =>
        others channelName + load channelName (listed table)) →
      Tallies objects (onEveryList change table domain).2 (fun channelName =>
        others channelName + load channelName (listed (onEveryList change table domain).1)) ∧
      (listed (onEveryList change table domain).1).length ≤ (listed table).length ∧
      (onEveryList change table domain).1.map Prod.fst = table.map Prod.fst := by
  intro table
  induction table with
  | nil => exact fun domain others _ _ _ tallies => ⟨tallies, Nat.le_refl _, rfl⟩
  | cons owner rest ih =>
      intro domain others reaches all room tallies
      simp only [length_listed_cons] at room
      simp only [listed_cons, mem_append, mem_map] at all
      obtain ⟨reached, counted, length⟩ := keeps owner.2 domain
        (fun channelName => others channelName + load channelName (listed rest)) reaches
        (fun node member => all (owner.1, node) (.inl ⟨node, member, rfl⟩))
        (fun channelName => by
          have := room channelName
          have : load channelName (listed rest) ≤ (listed rest).length := countP_le_length
          omega)
        (tallies.of_eq fun channelName => by rw [load_listed_cons]; omega)
      obtain ⟨later, shorter, requesters⟩ := ih (change owner.2 domain).2
        (fun channelName => others channelName + loadOf channelName (change owner.2 domain).1)
        reached (fun entry member => all entry (.inr member))
        (fun channelName => by
          have := room channelName
          have := loadOf_le channelName (change owner.2 domain).1
          omega)
        (counted.of_eq fun channelName => by omega)
      rw [Connections.onEveryList]
      refine ⟨later.of_eq fun channelName => ?_, ?_, by simp [requesters]⟩
      · rw [load_listed_cons]
        dsimp only
        omega
      · rw [length_listed_cons, length_listed_cons]
        dsimp only
        omega

theorem Tallies.breakFirst {connectionId : String} {list : ConnectionList} (others : String → Nat)
    (balances : ∀ node ∈ list.find? fun connection => connection.identifier == connectionId,
      DisconnectBalances objects domain node)
    (room : ∀ channelName, others channelName + list.length < 2 ^ 32)
    (tallies : Tallies objects domain fun channelName =>
      others channelName + loadOf channelName list) :
    Tallies objects (breakFirst objects connectionId list domain).2 fun channelName =>
      others channelName + loadOf channelName (breakFirst objects connectionId list domain).1 := by
  induction list generalizing others with
  | nil => exact tallies
  | cons connection rest ih =>
      simp only [length_cons] at room
      rw [Connections.breakFirst]
      by_cases hit : connection.identifier = connectionId
      · rw [if_pos hit]
        refine Tallies.disconnect (fun channelName => others channelName + loadOf channelName rest)
          (balances connection (by simp [hit])) (fun channelName => ?_)
          (tallies.of_eq fun channelName => by rw [loadOf_cons]; omega)
        have := room channelName
        have := loadOf_le channelName rest
        omega
      · rw [if_neg hit]
        have later := ih (fun channelName =>
            others channelName + if connection.on channelName then 1 else 0)
          (by simpa [hit] using balances)
          (fun channelName => by have := room channelName; split <;> omega)
          (tallies.of_eq fun channelName => by rw [loadOf_cons]; omega)
        refine later.of_eq fun channelName => ?_
        rw [loadOf_cons]
        omega

theorem Tallies.breakFirstOf {requesterId connectionId : String}
    {table : List (String × ConnectionList)} (others : String → Nat)
    (balances : ∀ owner ∈ table.find? fun entry => entry.1 == requesterId,
      ∀ node ∈ owner.2.find? fun connection => connection.identifier == connectionId,
        DisconnectBalances objects domain node)
    (room : ∀ channelName, others channelName + (listed table).length < 2 ^ 32)
    (tallies : Tallies objects domain fun channelName =>
      others channelName + load channelName (listed table)) :
    Tallies objects (breakFirstOf objects requesterId connectionId table domain).2 fun channelName =>
      others channelName +
        load channelName (listed (breakFirstOf objects requesterId connectionId table domain).1) := by
  induction table generalizing others with
  | nil => exact tallies
  | cons owner rest ih =>
      simp only [length_listed_cons] at room
      have restLoad : ∀ channelName, load channelName (listed rest) ≤ (listed rest).length :=
        fun channelName => countP_le_length
      rw [Connections.breakFirstOf]
      by_cases hit : owner.1 = requesterId
      · rw [if_pos hit]
        have broken := Tallies.breakFirst
          (fun channelName => others channelName + load channelName (listed rest))
          (balances owner (by simp [hit]))
          (fun channelName => by have := room channelName; have := restLoad channelName; omega)
          (tallies.of_eq fun channelName => by rw [load_listed_cons]; omega)
        refine broken.of_eq fun channelName => ?_
        rw [load_listed_cons]
        dsimp only
        omega
      · rw [if_neg hit]
        have later := ih (fun channelName => others channelName + loadOf channelName owner.2) (by simpa [hit] using balances)
          (fun channelName => by
            have := room channelName
            have := loadOf_le channelName owner.2
            omega)
          (tallies.of_eq fun channelName => by rw [load_listed_cons]; omega)
        refine later.of_eq fun channelName => ?_
        rw [load_listed_cons]
        omega

theorem Tallies.disconnectAll {list : ConnectionList} (others : String → Nat)
    (balances : ∀ node ∈ list, DisconnectBalances objects start node)
    (room : ∀ channelName, others channelName + list.length < 2 ^ 32) :
    ∀ {domain : Domain}, Reaches objects start domain →
      Tallies objects domain (fun channelName => others channelName + loadOf channelName list) →
      Tallies objects (disconnectAll objects list domain) others := by
  induction list with
  | nil => exact fun _ tallies => tallies
  | cons connection rest ih =>
      intro domain reaches tallies
      simp only [length_cons] at room
      have broken := Tallies.disconnect
        (fun channelName => others channelName + loadOf channelName rest)
        ((balances connection mem_cons_self).reaches reaches)
        (fun channelName => by
          have := room channelName
          have := loadOf_le channelName rest
          omega)
        (tallies.of_eq fun channelName => by rw [loadOf_cons]; omega)
      exact ih (fun node member => balances node (mem_cons_of_mem connection member))
        (fun channelName => by have := room channelName; omega)
        (reaches.trans (disconnect_reaches objects connection domain)) broken

end Lists

def TriesBalance (objects : Objects) (type : DependencyType) (identifier : String)
    (connections : DomainConnections) : Prop :=
  ∀ entry ∈ listed connections.connectionsByRequester, entry.2.connected = false →
    entry.2.checkDependency type identifier →
      AttemptBalances objects domainConnectionManager connections.domain entry.2

def BreaksBalance (objects : Objects) (type : DependencyType) (identifier : String)
    (connections : DomainConnections) : Prop :=
  ∀ entry ∈ listed connections.connectionsByRequester, entry.2.checkDependency type identifier →
    DisconnectBalances objects connections.domain entry.2

def ChannelExists (objects : Objects) (domain : Domain) (endpoint : Endpoint) : Prop :=
  ∀ channelName, endpoint.channel = some channelName → Kept objects domain channelName →
    ∀ channel ∈ objects.channel channelName, domain.exists_ channel

def DomainEvent.Balances (objects : Objects) : DomainEvent → DomainConnections → Prop
  | .registerDevice identifier device, connections =>
    match Domain.lookup connections.domain.devices identifier with
    | none => TriesBalance objects .COMPONENT identifier
        (setDevices (connections.domain.devices ++ [(identifier, device)]) connections)
    | some registered => connections.domain.exists_ registered = false →
        BreaksBalance objects .COMPONENT identifier connections ∧
          TriesBalance objects .COMPONENT identifier
            (setDevices
              ((Connections.unregisterDevice objects identifier connections).domain.devices ++
                [(identifier, device)])
              (Connections.unregisterDevice objects identifier connections))
  | .unregisterDevice identifier, connections =>
    (Domain.lookup connections.domain.devices identifier).isSome →
      BreaksBalance objects .COMPONENT identifier connections
  | .registerService name service, connections =>
    Domain.lookup connections.domain.services name = none →
      TriesBalance objects .SERVICENAME name
        (setServices (connections.domain.services ++ [(name, service)]) connections)
  | .unregisterService name, connections =>
    (Domain.lookup connections.domain.services name).isSome → BreaksBalance objects .SERVICENAME name connections
  | .objectGone _, _ => True
  | .addConnection _ connection uuid, connections =>
    ∀ node ∈ ParseConnection connection uuid,
      AttemptBalances objects domainConnectionManager connections.domain node
  | .restoreConnection _ connection, connections =>
    connection.connected → ∀ channelName, connection.provides.channel = some channelName →
      ¬ Kept objects connections.domain channelName
  | .connect usesEndpoint providesEndpoint requesterId connectionId uuid, connections =>
    ∀ uses ∈ requestToEndpoint usesEndpoint, ∀ provides ∈ requestToEndpoint providesEndpoint,
      AttemptBalances objects domainConnectionManager connections.domain
        ⟨uses, provides, if connectionId = "" then uuid else connectionId, requesterId, "", false⟩ ∧
      ChannelExists objects connections.domain provides
  | .breakConnection connectionRecordId, connections =>
    ∀ record ∈ connections.globalConnections.find? fun entry => entry.1 == connectionRecordId,
      ∀ owner ∈ connections.connectionsByRequester.find? fun entry => entry.1 == record.2.1,
        ∀ node ∈ owner.2.find? fun connection => connection.identifier == record.2.2,
          DisconnectBalances objects connections.domain node
  | .deviceManagerUnregistered deviceManagerName, connections =>
    ∀ owner ∈ connections.connectionsByRequester.find? fun entry => entry.1 == deviceManagerName,
      ∀ node ∈ owner.2, DisconnectBalances objects connections.domain node

/-- The counts are right for the listed connections and whatever else the channels are used for. -/
structure CountsKept (objects : Objects) (others : String → Nat) (connections : DomainConnections) :
    Prop where
  requesters : (connections.connectionsByRequester.map Prod.fst).Nodup
  tallies : Tallies objects connections.domain fun channelName =>
    others channelName + load channelName (listed connections.connectionsByRequester)

section Steps

variable {objects : Objects} {others : String → Nat} {connections : DomainConnections}

variable {domain : Domain}

theorem CountsKept.quiet (counts : CountsKept objects others connections)
    (quiet : Quiet connections.domain domain) :
    CountsKept objects others { connections with domain := domain } :=
  ⟨counts.requesters, counts.tallies.quiet quiet⟩

theorem CountsKept.onAll (counts : CountsKept objects others connections)
    {before : ConnectionNode → Prop} {change : ConnectionList → Domain → ConnectionList × Domain}
    (keeps : KeepsTallies objects connections.domain before change)
    (all : ∀ entry ∈ listed connections.connectionsByRequester, before entry.2)
    (room : ∀ channelName, others channelName + (listed connections.connectionsByRequester).length < 2 ^ 32) :
    CountsKept objects others (onAll change connections) ∧
      (listed (onAll change connections).connectionsByRequester).length ≤
        (listed connections.connectionsByRequester).length := by
  obtain ⟨tallies, length, requesters⟩ := keeps.onEveryList connections.connectionsByRequester
    connections.domain others (Reaches.refl objects _) all room counts.tallies
  exact ⟨⟨requesters ▸ counts.requesters, tallies⟩, length⟩

variable (requesterId : String)

theorem load_addConnection_ (connection : ConnectionNode)
    (unique : (connections.connectionsByRequester.map Prod.fst).Nodup) (channelName : String) :
    load channelName
        (listed (addConnection_ requesterId connection connections).2.connectionsByRequester) =
      load channelName (listed connections.connectionsByRequester) +
        if connection.on channelName then 1 else 0 := by
  obtain ⟨member, nodup⟩ := requesters_ensureRequester requesterId unique
  have added := listed_append_one { connection with
    connectionRecordId := connectionRecordIdFor connections requesterId connection } nodup member
  rw [listed_ensureRequester] at added
  exact (added.countP_eq _).trans countP_cons

theorem CountsKept.addConnection_ {connection : ConnectionNode}
    (requesters : (connections.connectionsByRequester.map Prod.fst).Nodup)
    (tallies : Tallies objects domain fun channelName =>
      others channelName + load channelName (listed connections.connectionsByRequester) +
        if connection.on channelName then 1 else 0) :
    CountsKept objects others
      (addConnection_ requesterId connection { connections with domain := domain }).2 where
  requesters := by
    have nodup := (requesters_ensureRequester requesterId requesters).2
    simpa [Connections.addConnection_] using nodup
  tallies := by
    refine tallies.of_eq fun channelName => ?_
    have added := @load_addConnection_ { connections with domain := domain } requesterId connection
      requesters channelName
    rw [added]
    dsimp only
    omega

variable {manager : Manager} {node : ConnectionNode}

theorem connect_connected (pending : node.connected = false) :
    (node.connect objects manager domain).node.connected = true ↔
      (node.connect objects manager domain).result = .ok true := by
  unfold connect
  grind

theorem connect_provides (pending : node.connected = false)
    (connected : (node.connect objects manager domain).node.connected) :
    (node.connect objects manager domain).node.provides = (node.provides.resolve objects manager
      (node.uses.resolve objects manager domain).domain).endpoint := by
  unfold connect at connected ⊢
  grind

theorem connect_channel_object
    {channelName : String} (pending : node.connected = false) (fresh : node.provides.object = none)
    (channel : node.provides.channel = some channelName)
    (connected : (node.connect objects manager domain).node.connected) :
    (node.connect objects manager domain).node.provides.object = objects.channel channelName := by
  rw [connect_provides pending connected]
  obtain ⟨kind, shape⟩ := Endpoint.plain_of_channel channel fresh
  rw [shape] at channel ⊢
  obtain ⟨name, same, resolves⟩ := EndpointKind.resolve_channel objects manager channel
  rw [Endpoint.resolve, resolves, resolveDomainObject, lookup_eventchannel, same]
  rfl

theorem listed_remove {deviceManagerName : String} {owner : String × ConnectionList}
    {table : List (String × ConnectionList)} (unique : (table.map Prod.fst).Nodup)
    (found : table.find? (fun entry => entry.1 == deviceManagerName) = some owner) :
    (listed table).Perm ((owner.2.map fun connection => (owner.1, connection)) ++
      listed (table.filter fun entry => entry.1 != deviceManagerName)) := by
  induction table with
  | nil => cases found
  | cons first rest ih =>
      rw [map_cons, nodup_cons] at unique
      by_cases hit : first.1 = deviceManagerName
      · obtain rfl : first = owner := by simpa [hit] using found
        have others : rest.filter (fun entry => entry.1 != deviceManagerName) = rest := by
          rw [filter_eq_self]
          intro entry member
          rw [bne_iff_ne]
          intro same
          exact unique.1 ((hit.trans same.symm) ▸ mem_map_of_mem member)
        rw [filter_cons_of_neg (by simp [hit]), others, listed_cons]
      · rw [filter_cons_of_pos (by simpa using hit), listed_cons, listed_cons]
        have later := ih unique.2 (by simpa [hit] using found)
        refine (later.append_left _).trans ?_
        rw [← append_assoc, ← append_assoc]
        exact perm_append_comm.append_right _

theorem release_object (endpoint : Endpoint) : endpoint.release.object = none := by
  cases endpoint with
  | plain kind object_ => rfl
  | PortEndpoint supplier_ name_ invalidPort_ object_ => rfl

theorem CountsKept.restoreConnection {connection : ConnectionNode}
    (requesters : (connections.connectionsByRequester.map Prod.fst).Nodup)
    (tallies : Tallies objects domain fun channelName =>
      others channelName + load channelName (listed connections.connectionsByRequester) +
        if connection.on channelName then 1 else 0)
    (broken : connection.connected → ¬ objectExists domain connection.provides.object →
      ∀ channelName, connection.provides.channel = some channelName → ¬ Kept objects domain channelName) :
    CountsKept objects others
      (restoreConnection objects requesterId connection { connections with domain := domain }).2 := by
  unfold Connections.restoreConnection
  split
  · rename_i breaks
    simp only [Bool.and_eq_true, Bool.not_eq_true'] at breaks
    have uncounted := broken breaks.1.1 (by simp [breaks.2])
    have before : Tallies objects domain fun channelName =>
        others channelName + load channelName (listed connections.connectionsByRequester) := by
      refine tallies.congr fun channelName kept => ?_
      have off : connection.on channelName = false := by
        by_contra on
        simp only [ConnectionNode.on, Bool.not_eq_false, Bool.and_eq_true, beq_iff_eq] at on
        exact uncounted channelName on.2 kept
      simp [off]
    refine CountsKept.addConnection_ requesterId requesters ?_
    refine (before.disconnect_uncounted uncounted).of_eq fun channelName => ?_
    simp [disconnect_on]
  · exact CountsKept.addConnection_ requesterId requesters tallies

abbrev Room (others : String → Nat) (connections : DomainConnections) : Prop :=
  ∀ channelName, others channelName + (listed connections.connectionsByRequester).length + 1 < 2 ^ 32

section

variable (counts : CountsKept objects others connections)
include counts

theorem CountsKept.addConnection (deviceManagerId : String) {connection : Connection} {uuid : String}
    (balances : ∀ node ∈ ParseConnection connection uuid,
      AttemptBalances objects domainConnectionManager connections.domain node)
    (room : Room others connections) :
    CountsKept objects others
      (addConnection objects deviceManagerId connection uuid connections).2 := by
  unfold Connections.addConnection
  split
  · exact counts
  · rename_i node parsed
    obtain ⟨pending, -, -⟩ := parsed_released parsed
    have tried := Tallies.connect _ counts.tallies pending (balances node parsed)
      fun channelName => by
        have := room channelName
        have : load channelName (listed connections.connectionsByRequester) ≤
          (listed connections.connectionsByRequester).length := countP_le_length
        omega
    have failed : (node.connect objects domainConnectionManager connections.domain).result ≠
        .ok true → CountsKept objects others { connections with
          domain := (node.connect objects domainConnectionManager connections.domain).domain } := by
      intro notMade
      refine ⟨counts.requesters, tried.of_eq fun channelName => ?_⟩
      have off : (node.connect objects domainConnectionManager connections.domain).node.connected = false := by
        by_contra connected
        exact notMade ((connect_connected pending).mp (by simpa using connected))
      simp [on, off]
    simp only
    split
    · rename_i error result
      exact failed (by simp [result])
    · rename_i connected result
      split
      · rename_i dropped
        refine failed ?_
        simp only [Bool.and_eq_true, Bool.not_eq_true'] at dropped
        simp [result, dropped.1]
      · exact CountsKept.addConnection_ deviceManagerId counts.requesters tried

theorem CountsKept.connectRequest
    {usesEndpoint providesEndpoint : EndpointRequest} {requesterId connectionId uuid : String}
    (balances : (DomainEvent.connect usesEndpoint providesEndpoint requesterId connectionId
      uuid).Balances objects connections)
    (room : Room others connections) :
    CountsKept objects others (connectRequest objects usesEndpoint providesEndpoint requesterId
      connectionId uuid connections).2 := by
  unfold Connections.connectRequest
  split
  · rename_i uses provides usesParsed providesParsed
    obtain ⟨attempt, exists_⟩ := balances uses usesParsed provides providesParsed
    have providesNew := (requestToEndpoint_new providesParsed).1
    simp only
    generalize start : ConnectionNode.mk uses provides
      (if connectionId = "" then uuid else connectionId) requesterId "" false = node at attempt ⊢
    have pending : node.connected = false := by
      subst start
      rfl
    have sameProvides : node.provides = provides := by
      subst start
      rfl
    have tried := Tallies.connect _ counts.tallies pending attempt
      fun channelName => by
        have := room channelName
        have : load channelName (listed connections.connectionsByRequester) ≤
          (listed connections.connectionsByRequester).length := countP_le_length
        omega
    have reaches := connect_reaches objects domainConnectionManager connections.domain node
    split
    · rename_i error result
      refine ⟨counts.requesters, tried.of_eq fun channelName => ?_⟩
      have off : (node.connect objects domainConnectionManager connections.domain).node.connected = false := by
        by_contra connected
        have made := (connect_connected pending).mp (by simpa using connected)
        rw [result] at made
        cases made
      simp [on, off]
    · refine CountsKept.restoreConnection requesterId counts.requesters tried ?_
      intro connected gone channelName channel kept
      rw [connect_provides_channel, sameProvides] at channel
      have fresh : node.provides.object = none := by
        rw [sameProvides, ← providesNew]
        exact release_object provides
      have holds := connect_channel_object pending fresh (sameProvides ▸ channel) connected
      refine gone ?_
      rw [holds, objectExists, reaches.registry.exists_]
      have found : (objects.channel channelName).isSome := by
        have kind := Endpoint.channel_kind channel
        obtain ⟨_, _, _, channel, _, found, _⟩ := attempt.provides channelName
          (sameProvides ▸ kind) ((reaches.kept channelName).mp kept)
        simp [found]
      obtain ⟨object, same⟩ := Option.isSome_iff_exists.mp found
      rw [same]
      exact exists_ channelName channel ((reaches.kept channelName).mp kept) object same
  · exact counts

theorem CountsKept.breakConnection {connectionRecordId : String}
    (balances : (DomainEvent.breakConnection connectionRecordId).Balances objects connections)
    (room : Room others connections) :
    CountsKept objects others (breakConnection objects connectionRecordId connections).2 := by
  unfold Connections.breakConnection
  split
  · exact counts
  · rename_i id deviceManagerId connectionId found
    refine ⟨?_, ?_⟩
    · rw [requesters_breakFirstOf]
      exact counts.requesters
    · exact Tallies.breakFirstOf others (balances _ found)
        (fun channelName => Nat.lt_of_succ_lt (room channelName)) counts.tallies

theorem CountsKept.deviceManagerUnregistered {deviceManagerName : String}
    (balances : (DomainEvent.deviceManagerUnregistered deviceManagerName).Balances objects connections)
    (room : Room others connections) :
    CountsKept objects others (deviceManagerUnregistered objects deviceManagerName connections) := by
  unfold Connections.deviceManagerUnregistered
  split
  · exact counts
  · rename_i name connectionList found
    have removed := listed_remove counts.requesters found
    refine ⟨counts.requesters.sublist (filter_sublist.map _), ?_⟩
    generalize connections.connectionsByRequester.filter (fun entry =>
      entry.1 != deviceManagerName) = left at *
    refine Tallies.disconnectAll _ (balances _ found) (fun channelName => ?_)
      (Reaches.refl objects _) (counts.tallies.of_eq fun channelName => ?_)
    · have := room channelName
      have total := removed.length_eq
      have : load channelName (listed left) ≤ (listed left).length := countP_le_length
      rw [length_append, length_map] at total
      dsimp only at total ⊢
      omega
    · have total := removed.countP_eq fun entry => entry.2.on channelName
      rw [countP_append, ← load, ← load, ← load, load_owner] at total
      dsimp only at total ⊢
      omega

end

section

variable (counts : CountsKept objects others connections)

include counts

theorem CountsKept.tries {after : DomainConnections} (quiet : Quiet connections.domain after.domain)
    (same : after.connectionsByRequester = connections.connectionsByRequester)
    {type : DependencyType} {identifier : String}
    (balances : TriesBalance objects type identifier after)
    (room : Room others connections) :
    CountsKept objects others (tryPendingConnections_ objects type identifier after) := by
  have counted : CountsKept objects others after := by
    refine ⟨same ▸ counts.requesters, ?_⟩
    rw [same]
    exact counts.tallies.quiet quiet
  refine (counted.onAll keepsTallies_tryPending balances fun channelName => ?_).1
  rw [same]
  exact Nat.lt_of_succ_lt (room channelName)

theorem CountsKept.breaks {type : DependencyType} {identifier : String}
    (balances : BreaksBalance objects type identifier connections)
    (room : Room others connections) :
    CountsKept objects others (breakConnections_ objects type identifier connections) ∧
      (listed (breakConnections_ objects type identifier connections).connectionsByRequester).length ≤
        (listed connections.connectionsByRequester).length :=
  counts.onAll keepsTallies_breakDependent balances fun channelName =>
    Nat.lt_of_succ_lt (room channelName)

theorem CountsKept.unregisterDevice {identifier : String}
    (balances : (Domain.lookup connections.domain.devices identifier).isSome →
      BreaksBalance objects .COMPONENT identifier connections)
    (room : Room others connections) :
    CountsKept objects others (unregisterDevice objects identifier connections) ∧
      (listed (unregisterDevice objects identifier connections).connectionsByRequester).length ≤
        (listed connections.connectionsByRequester).length := by
  unfold Connections.unregisterDevice
  split
  · exact ⟨counts, Nat.le_refl _⟩
  · rename_i known
    obtain ⟨broken, length⟩ := counts.breaks
      (balances (by simpa [Option.isSome_iff_ne_none] using known)) room
    exact ⟨broken.quiet ⟨rfl, fun _ member => member, fun _ alive => alive⟩, length⟩

theorem CountsKept.process {event : DomainEvent} (balances : event.Balances objects connections)
    (room : Room others connections) :
    CountsKept objects others (process objects event connections) := by
  have silently : ∀ {connections : DomainConnections} devices services applications,
      Quiet connections.domain
        { connections.domain with devices, services, applications } := fun _ _ _ =>
    ⟨rfl, fun _ member => member, fun _ alive => alive⟩
  cases event with
  | registerDevice identifier device =>
      simp only [DomainEvent.Balances] at balances
      simp only [Connections.process, registerDevice]
      split
      · rename_i free
        rw [free] at balances
        exact @CountsKept.tries objects others connections counts
          (setDevices (connections.domain.devices ++ [(identifier, device)]) connections)
          (silently _ _ _) rfl _ _ balances room
      · rename_i registered found
        rw [found] at balances
        split
        · exact counts
        · rename_i gone
          obtain ⟨breaks, tries⟩ := balances (by simpa using gone)
          obtain ⟨broken, length⟩ := counts.unregisterDevice (fun _ => breaks) room
          generalize Connections.unregisterDevice objects identifier connections = free at *
          refine @CountsKept.tries objects others free broken
            (setDevices (free.domain.devices ++ [(identifier, device)]) free)
            (silently _ _ _) rfl _ _ tries fun channelName => ?_
          have := room channelName
          omega
  | unregisterDevice identifier => exact (counts.unregisterDevice balances room).1
  | registerService name service =>
      simp only [Connections.process, registerService]
      split
      · exact counts
      · rename_i free
        exact @CountsKept.tries objects others connections counts
          (setServices (connections.domain.services ++ [(name, service)]) connections)
          (silently _ _ _) rfl _ _ (balances (by simpa using free)) room
  | unregisterService name =>
      simp only [Connections.process, unregisterService]
      split
      · exact counts
      · rename_i known
        obtain ⟨broken, _⟩ := counts.breaks
          (balances (by simpa [Option.isSome_iff_ne_none] using known)) room
        exact broken.quiet (silently _ _ _)
  | objectGone object =>
      refine counts.quiet ⟨rfl, fun _ member => member, fun other alive => ?_⟩
      simp only [Domain.without, Bool.and_eq_true] at alive
      exact alive.1
  | addConnection deviceManagerId connection uuid =>
      exact counts.addConnection deviceManagerId balances room
  | restoreConnection deviceManagerId connection =>
      refine CountsKept.restoreConnection deviceManagerId counts.requesters
        (counts.tallies.congr fun channelName kept => ?_) fun connected _ => balances connected
      have off : connection.on channelName = false := by
        by_contra on
        simp only [ConnectionNode.on, Bool.not_eq_false, Bool.and_eq_true, beq_iff_eq] at on
        exact balances on.1 channelName on.2 kept
      simp [off]
  | connect usesEndpoint providesEndpoint requesterId connectionId uuid =>
      exact counts.connectRequest balances room
  | breakConnection connectionRecordId => exact counts.breakConnection balances room
  | deviceManagerUnregistered deviceManagerName =>
      exact counts.deviceManagerUnregistered balances room

end

end Steps

def DomainState.size (state : DomainState) : Nat :=
  (listed state.connections.connectionsByRequester).length + state.applicationConnections.length +
    state.registeredConsumers.length

def ChannelEvent.Balances (objects : Objects) : ChannelEvent → DomainState → Prop
  | .domainEvent event, state => event.Balances objects state.connections
  | .addApplication identifier application, state =>
    TriesBalance objects .APPLICATION identifier
      (setApplications ((identifier, application) :: state.connections.domain.applications) state.connections)
  | .removeApplication identifier, state =>
    (Domain.lookup state.connections.domain.applications identifier).isSome →
      BreaksBalance objects .APPLICATION identifier state.connections
  | .resolveConnection _ lookups connection uuid, state =>
    ∀ node ∈ ParseConnection connection uuid,
      AttemptBalances objects (appConnectionManager lookups) state.connections.domain node
  | .releaseApplication application, state =>
    ∀ entry ∈ state.applicationConnections, entry.1 = application →
      DisconnectBalances objects state.connections.domain entry.2
  | .registerWithEventChannel registeringId eventChannelName isChannel connects, state =>
    registeringId ∉ state.registeredConsumers.map Prod.fst →
      Kept objects state.connections.domain (channelNameOf eventChannelName) →
        (objects.channel (channelNameOf eventChannelName)).isSome ∧ isChannel ∧ connects
  | .unregisterFromEventChannel unregisteringId eventChannelName disconnects, state =>
    eventChannelName ∈ state.connections.domain.channelNames → disconnects →
      ∀ consumer ∈ state.registeredConsumers, consumer.1 = unregisteringId →
        ¬ Kept objects state.connections.domain (channelNameOf consumer.2)

/-- There is room for one more user, every lookup of a counted channel ends in a connection to it or
in a registered consumer, and nothing leaves a counted channel except a connection whose
disconnection lowers the count. -/
def Balanced (objects : Objects) (event : ChannelEvent) (state : DomainState) : Prop :=
  state.size + 1 < 2 ^ 32 ∧ event.Balances objects state

def DomainState.others (state : DomainState) (channelName : String) : Nat :=
  load channelName state.applicationConnections + consumersOn channelName state.registeredConsumers

def Counting (objects : Objects) (state : DomainState) : Prop :=
  CountsKept objects state.others state.connections

section Users

variable {objects : Objects} {state : DomainState}

theorem users_eq (state : DomainState) (channelName : String) :
    state.users channelName = state.others channelName +
      load channelName (listed state.connections.connectionsByRequester) := by
  rw [users, others]
  omega

theorem users_le_size (state : DomainState) (channelName : String) :
    state.users channelName ≤ state.size := by
  have listedUsers : load channelName (listed state.connections.connectionsByRequester) ≤ _ :=
    countP_le_length
  have applicationUsers : load channelName state.applicationConnections ≤ _ :=
    countP_le_length
  have consumers : consumersOn channelName state.registeredConsumers ≤ _ := countP_le_length
  rw [users, size]
  omega

theorem others_room (room : state.size + 1 < 2 ^ 32) (channelName : String) :
    state.others channelName + (listed state.connections.connectionsByRequester).length + 1 < 2 ^ 32 := by
  have applicationUsers : load channelName state.applicationConnections ≤ _ :=
    countP_le_length
  have consumers : consumersOn channelName state.registeredConsumers ≤ _ := countP_le_length
  rw [size] at room
  rw [others]
  omega

section

variable (counting : Counting objects state)
include counting

theorem Counting.tallies : Tallies objects state.connections.domain state.users :=
  CountsKept.tallies counting |>.of_eq (users_eq state)

theorem Counting.of_tallies {after : DomainState}
    (same : after.connections.connectionsByRequester = state.connections.connectionsByRequester)
    (tallies : Tallies objects after.connections.domain after.users) : Counting objects after :=
  ⟨same ▸ CountsKept.requesters counting, tallies.of_eq fun _ => (users_eq after _).symm⟩

theorem Counting.resolveConnection {application : String}
    {lookups : Manager} {connection : Connection} {uuid : String}
    (balances : ∀ node ∈ ParseConnection connection uuid,
      AttemptBalances objects (appConnectionManager lookups) state.connections.domain node)
    (room : state.size + 1 < 2 ^ 32) :
    Counting objects (resolveConnection objects application lookups connection uuid state).2 := by
  unfold Connections.resolveConnection
  split
  · exact counting
  · rename_i node parsed
    obtain ⟨pending, -, -⟩ := parsed_released parsed
    have tried := Tallies.connect _ counting.tallies pending (balances node parsed)
      fun channelName => by
        have := users_le_size state channelName
        omega
    have failed : (node.connect objects (appConnectionManager lookups)
        state.connections.domain).result ≠ .ok true → Counting objects (state.withDomain
          (node.connect objects (appConnectionManager lookups) state.connections.domain).domain) := by
      intro notMade
      refine counting.of_tallies rfl (tried.of_eq fun channelName => ?_)
      have off : (node.connect objects (appConnectionManager lookups)
          state.connections.domain).node.connected = false := by
        by_contra connected
        exact notMade ((connect_connected pending).mp (by simpa using connected))
      simp [on, off, users, withDomain]
    simp only
    split
    · refine counting.of_tallies rfl (tried.of_eq fun channelName => ?_)
      simp only [users, withDomain, load, countP_append,
        countP_cons, countP_nil]
      omega
    · rename_i result
      exact failed (by simp [result])
    · rename_i error result
      exact failed (by simp [result])

theorem Counting.releaseApplication {application : String}
    (balances : ∀ entry ∈ state.applicationConnections, entry.1 = application →
      DisconnectBalances objects state.connections.domain entry.2)
    (room : state.size + 1 < 2 ^ 32) :
    Counting objects (releaseApplication objects application state) := by
  have halves := filter_append_perm (fun entry : String × ConnectionNode =>
    entry.1 == application) state.applicationConnections
  have own : ∀ channelName, loadOf channelName ((state.applicationConnections.filter fun entry =>
      entry.1 == application).map Prod.snd).reverse = load channelName
        (state.applicationConnections.filter fun entry => entry.1 == application) := by
    intro channelName
    rw [loadOf, countP_reverse, countP_map]
    rfl
  refine counting.of_tallies rfl ?_
  refine Tallies.disconnectAll _ (fun node member => ?_) (fun channelName => ?_)
    (Reaches.refl objects state.connections.domain) (counting.tallies.of_eq fun channelName => ?_)
  · obtain ⟨entry, entryMember, rfl⟩ := mem_map.mp (mem_reverse.mp member)
    obtain ⟨listedMember, own⟩ := mem_filter.mp entryMember
    exact balances entry listedMember (by simpa using own)
  · have total := halves.length_eq
    have before := users_le_size (Connections.releaseApplication objects application state)
      channelName
    rw [length_append] at total
    simp only [size, Connections.releaseApplication, withDomain,
      length_reverse, length_map] at before room ⊢
    have kept : (state.applicationConnections.filter fun entry => entry.1 != application).length =
      (state.applicationConnections.filter fun entry => !(entry.1 == application)).length := rfl
    omega
  · have total := halves.countP_eq fun entry => entry.2.on channelName
    rw [countP_append, ← load, ← load, ← load] at total
    rw [own]
    simp only [users, Connections.releaseApplication, withDomain]
    have kept : load channelName (state.applicationConnections.filter fun entry =>
      entry.1 != application) = load channelName (state.applicationConnections.filter fun entry =>
        !(entry.1 == application)) := rfl
    omega

theorem Counting.registerWithEventChannel {registeringId eventChannelName : String} {isChannel connects : Bool}
    (balances : (ChannelEvent.registerWithEventChannel registeringId eventChannelName isChannel
      connects).Balances objects state) (room : state.size + 1 < 2 ^ 32) :
    Counting objects
      (registerWithEventChannel objects registeringId eventChannelName isChannel connects state).2 := by
  unfold Connections.registerWithEventChannel
  split
  · exact counting
  · rename_i new
    have found : (lookupDomainObject objects "eventchannel" eventChannelName
        state.connections.domain).1 = some (objects.channel (channelNameOf eventChannelName)) := by
      rw [lookup_eventchannel]
    simp only [found, Option.join_some]
    by_cases kept : Kept objects state.connections.domain (channelNameOf eventChannelName)
    · obtain ⟨channel, isChannel, connects⟩ := balances new kept
      have raised := counting.tallies.lookup kept (by
        have := users_le_size state (channelNameOf eventChannelName)
        omega)
      simp only [channel, isChannel, connects, Bool.and_self, Bool.not_true, Bool.false_eq_true,
        if_false, if_true]
      refine counting.of_tallies rfl (raised.of_eq fun channelName => ?_)
      simp only [users, withDomain, consumersOn, countP_append,
        countP_cons, countP_nil, beq_iff_eq]
      by_cases same : channelName = channelNameOf eventChannelName
      · simp only [same, if_true]
        omega
      · rw [if_neg same, if_neg fun equal => same equal.symm]
        omega
    · have quiet := lookup_quiet kept
      have still := counting.tallies.quiet quiet
      have looked : Counting objects (state.withDomain
          (lookupDomainObject objects "eventchannel" eventChannelName
            state.connections.domain).2) := counting.of_tallies rfl still
      split
      · exact looked
      · split
        · refine counting.of_tallies rfl (still.congr fun channelName keptName => ?_)
          have differs : channelNameOf eventChannelName ≠ channelName := by
            rintro rfl
            exact kept (quiet.kept keptName)
          simp [users, withDomain, consumersOn, differs]
        · exact looked

theorem Counting.unregisterFromEventChannel {unregisteringId eventChannelName : String} {disconnects : Bool}
    (balances : (ChannelEvent.unregisterFromEventChannel unregisteringId eventChannelName
      disconnects).Balances objects state) :
    Counting objects
      (unregisterFromEventChannel unregisteringId eventChannelName disconnects state).2 := by
  unfold Connections.unregisterFromEventChannel
  split
  · exact counting
  · rename_i known
    split
    · exact counting
    · split
      · rename_i leaves
        refine counting.of_tallies rfl (counting.tallies.congr fun channelName kept => ?_)
        have same : consumersOn channelName (state.registeredConsumers.filter fun consumer =>
            consumer.1 != unregisteringId) = consumersOn channelName state.registeredConsumers := by
          rw [consumersOn, countP_filter]
          refine countP_congr fun consumer member => ?_
          simp only [Bool.and_eq_true, beq_iff_eq, bne_iff_ne, and_iff_left_iff_imp]
          rintro onChannel rfl
          exact balances (not_not.mp known) leaves consumer member rfl (onChannel ▸ kept)
        simp only [users, same]
      · exact counting

theorem Counting.channelStep {event : ChannelEvent}
    (balanced : Balanced objects event state) : Counting objects (channelStep objects event state) := by
  obtain ⟨room, balances⟩ := balanced
  cases event with
  | domainEvent event => exact CountsKept.process counting balances (others_room room)
  | addApplication identifier application =>
      exact @CountsKept.tries objects state.others state.connections counting
        (setApplications ((identifier, application) :: state.connections.domain.applications) state.connections)
        ⟨rfl, fun _ member => member, fun _ alive => alive⟩ rfl _ _ balances (others_room room)
  | removeApplication identifier =>
      simp only [Connections.channelStep, onConnections, Connections.removeApplication]
      split
      · exact counting
      · rename_i known
        obtain ⟨broken, _⟩ := CountsKept.breaks counting
          (balances (by simpa [Option.isSome_iff_ne_none] using known)) (others_room room)
        exact broken.quiet ⟨rfl, fun _ member => member, fun _ alive => alive⟩
  | resolveConnection application lookups connection uuid =>
      exact counting.resolveConnection balances room
  | releaseApplication application => exact counting.releaseApplication balances room
  | registerWithEventChannel registeringId eventChannelName isChannel connects =>
      exact counting.registerWithEventChannel balances room
  | unregisterFromEventChannel unregisteringId eventChannelName disconnects =>
      exact counting.unregisterFromEventChannel balances

end

end Users

def DomainState.start (domain : Domain) : DomainState := ⟨noConnections domain, [], []⟩

/-- In every state of a balanced run, the count that is kept for a channel is the number of its
connections and registered consumers. -/
theorem channel_counts_balance (objects : Objects) {domain : Domain}
    (unused : ∀ node ∈ domain.eventChannels, node.connectionCount = 0) (events : List ChannelEvent)
    (balanced : Along (channelStep objects) (Balanced objects) (.start domain) events) :
    ∀ channelName, ∀ count ∈ (run (channelStep objects) (.start domain)
        events).connections.domain.connectionCount channelName,
      count = (run (channelStep objects) (.start domain) events).users channelName := by
  have start : Counting objects (.start domain) := by
    refine ⟨nodup_nil, ⟨fun channelName count found => ?_, fun channelName _ _ => rfl⟩⟩
    obtain ⟨node, hit, rfl⟩ := Option.map_eq_some_iff.mp found
    exact unused node (mem_of_find?_eq_some hit)
  have counting : Counting objects (run (channelStep objects) (.start domain) events) :=
    invariant_run (Counting objects) (fun _ _ counting balanced => counting.channelStep balanced)
      start balanced
  exact fun channelName count found => counting.tallies.counted channelName count found

def hub : Objects := { devices with channel := fun _ => some 50 }

def connectToChannel : ChannelEvent :=
  .domainEvent (.connect ⟨.ENDPOINT_DEVICE "source", "out"⟩ ⟨.ENDPOINT_EVENTCHANNEL "news", ""⟩
    "client" "link" "")

def watched : List ChannelEvent :=
  [.domainEvent (.registerDevice "source" 1), connectToChannel,
    .registerWithEventChannel "reader" "news" true true]

theorem channel_counts_balance_hub :
    (run (channelStep hub) (.start liveDomain) watched).connections.domain.connectionCount "news" = some 2 ∧
      (run (channelStep hub) (.start liveDomain) watched).users "news" = 2 := by
  have balanced : Along (channelStep hub) (Balanced hub) (.start liveDomain) watched := by
    refine ⟨⟨by decide, ?_⟩, ⟨by decide, ?_⟩, ⟨by decide, ?_⟩, trivial⟩
    · intro entry member
      cases member
    · intro uses usesParsed provides providesParsed
      cases usesParsed
      cases providesParsed
      refine ⟨⟨fun _ channel => ?_, fun channelName channel _ => ?_⟩, fun _ _ _ _ _ => rfl⟩
      · cases channel
      · cases channel
        exact ⟨rfl, rfl, 11, 50, by decide, rfl, rfl, rfl, rfl⟩
    · intro _ _
      exact ⟨rfl, rfl, rfl⟩
  have counted := channel_counts_balance hub (fun _ member => by cases member) watched balanced
    "news" 2 (by decide)
  exact ⟨by decide, counted.symm⟩

/-- The device leaves, its connection is broken, and the channel still counts it. -/
theorem broken_connection_counted : ¬ ∀ channelName,
    ∀ count ∈ (run (channelStep hub) (.start liveDomain)
        [.domainEvent (.registerDevice "source" 1), connectToChannel,
          .domainEvent (.unregisterDevice "source")]).connections.domain.connectionCount channelName,
      count = (run (channelStep hub) (.start liveDomain)
        [.domainEvent (.registerDevice "source" 1), connectToChannel,
          .domainEvent (.unregisterDevice "source")]).users channelName := by
  intro balanced
  have equal := balanced "news" 1 (by decide)
  revert equal
  decide

end Redhawk.Connections
