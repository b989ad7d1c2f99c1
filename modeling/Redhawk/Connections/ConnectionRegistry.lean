import Redhawk.Connections.DomainConnections
import Redhawk.Library.Lists
import Redhawk.Library.Runs
import Mathlib.Data.List.Perm.Subperm

/-!
The record table and the connection lists of the requesters name each other, over every run of the
operations of `DomainConnectionManager`.
-/

namespace Redhawk.Connections

open Redhawk.Library List Function Prod

theorem candidate_injective (base : String) : Injective (candidate base) := by
  intro first second same
  have lists := congrArg String.toList same
  by_cases zero : first = 0 <;> by_cases zero' : second = 0
  · omega
  · simp [candidate, zero, zero'] at lists
  · simp [candidate, zero, zero'] at lists
  · simp only [candidate, zero, zero', if_false, String.toList_append, append_cancel_left_eq,
      Nat.toString_eq_repr, Nat.toList_repr] at lists
    have values := congrArg (fun digits => Nat.ofDigitChars 10 digits 0) lists
    simpa only [Nat.ofDigitChars_ten_toDigits] using values

theorem freshRecordId_taken {taken : List String} {base : String} :
    ∀ fuel counter, freshRecordId taken base fuel counter ∈ taken →
      ∀ offset ≤ fuel, candidate base (counter + offset) ∈ taken := by
  intro fuel
  induction fuel with
  | zero =>
      intro counter found offset bound
      obtain rfl : offset = 0 := by omega
      exact found
  | succ fuel ih =>
      intro counter found offset bound
      rw [freshRecordId] at found
      by_cases member : candidate base counter ∈ taken
      · rw [if_pos member] at found
        cases offset with
        | zero => exact member
        | succ offset =>
            have later := ih (counter + 1) found offset (by omega)
            rwa [Nat.add_right_comm, Nat.add_assoc] at later
      · rw [if_neg member] at found
        exact absurd found member

theorem freshRecordId_fresh (taken : List String) (base : String) :
    freshRecordId taken base taken.length 0 ∉ taken := by
  intro found
  have all := freshRecordId_taken _ 0 found
  have candidates : ((range (taken.length + 1)).map (candidate base)).Nodup :=
    nodup_range.map (candidate_injective base)
  have subset : (range (taken.length + 1)).map (candidate base) ⊆ taken := by
    intro id member
    obtain ⟨offset, bound, rfl⟩ := mem_map.mp member
    rw [mem_range] at bound
    have hit := all offset (by omega)
    rwa [Nat.zero_add] at hit
  have length := (subperm_of_subset candidates subset).length_le
  simp at length

def listed (table : List (String × ConnectionList)) : List (String × ConnectionNode) :=
  table.flatMap fun entry => entry.2.map fun connection => (entry.1, connection)

def recordOf (entry : String × ConnectionNode) : String × (String × String) :=
  (entry.2.connectionRecordId, (entry.1, entry.2.identifier))

@[simp] theorem listed_nil : listed [] = [] := rfl

@[simp] theorem listed_cons (entry : String × ConnectionList) (rest : List (String × ConnectionList)) :
    listed (entry :: rest) =
      (entry.2.map fun connection => (entry.1, connection)) ++ listed rest := rfl

variable {table : List (String × ConnectionList)}

theorem mem_listed_requester {entry : String × ConnectionNode} (member : entry ∈ listed table) :
    entry.1 ∈ table.map fst := by
  simp only [listed, mem_flatMap, mem_map] at member
  obtain ⟨owner, ownerMember, connection, _, rfl⟩ := member
  exact mem_map_of_mem ownerMember

structure OneToOne (connections : DomainConnections) : Prop where
  named : ∀ id requester identifier,
    (id, (requester, identifier)) ∈ connections.globalConnections → ∃ connection,
      ((listed connections.connectionsByRequester).filter fun entry =>
        entry.2.connectionRecordId == id) = [(requester, connection)] ∧
      connection.identifier = identifier
  recorded : ∀ entry ∈ listed connections.connectionsByRequester, recordOf entry ∈ connections.globalConnections

/-- Breaking a connection removes exactly the listed one with the record id and disconnects it, or
raises and changes nothing if there is none. -/
inductive Breaks (objects : Objects) (id : String) (connections : DomainConnections) : Prop
  | broken (requester : String) (connection : ConnectionNode)
      (front back : List (String × ConnectionNode))
      (split : listed connections.connectionsByRequester = front ++ (requester, connection) :: back)
      (named : connection.connectionRecordId = id)
      (returned : (breakConnection objects id connections).1 = .ok ())
      (removed : listed (breakConnection objects id connections).2.connectionsByRequester = front ++ back)
      (disconnected : (breakConnection objects id connections).2.domain =
        (connection.disconnect objects connections.domain).2)
      (forgotten : (breakConnection objects id connections).2.globalConnections =
        connections.globalConnections.filter fun entry => entry.1 != id)
  | unknown
      (absent : ∀ entry ∈ listed connections.connectionsByRequester, entry.2.connectionRecordId ≠ id)
      (raised : breakConnection objects id connections = (.error "Connection already broken", connections))

inductive Event
  | addConnection (deviceManagerId : String) (connection : Connection) (uuid : String)
  | restoreConnection (deviceManagerId : String) (connection : ConnectionNode)
  | connect (usesEndpoint providesEndpoint : EndpointRequest) (requesterId connectionId uuid : String)
  | breakConnection (connectionRecordId : String)
  | deviceManagerUnregistered (deviceManagerName : String)
  | registered (type : DependencyType) (identifier : String)
  | unregistered (type : DependencyType) (identifier : String)
  /-- The domain changes by itself between two calls. -/
  | domainChanges (change : Domain → Domain)

def handle (objects : Objects) : Event → DomainConnections → DomainConnections
  | .addConnection deviceManagerId connection uuid, connections =>
    (Connections.addConnection objects deviceManagerId connection uuid connections).2
  | .restoreConnection deviceManagerId connection, connections =>
    (Connections.restoreConnection objects deviceManagerId connection connections).2
  | .connect usesEndpoint providesEndpoint requesterId connectionId uuid, connections =>
    (connectRequest objects usesEndpoint providesEndpoint requesterId connectionId uuid connections).2
  | .breakConnection connectionRecordId, connections =>
    (Connections.breakConnection objects connectionRecordId connections).2
  | .deviceManagerUnregistered deviceManagerName, connections =>
    Connections.deviceManagerUnregistered objects deviceManagerName connections
  | .registered type identifier, connections =>
    tryPendingConnections_ objects type identifier connections
  | .unregistered type identifier, connections =>
    breakConnections_ objects type identifier connections
  | .domainChanges change, connections =>
    { connections with domain := change connections.domain }

def FirstOfItsName (id : String) (connections : DomainConnections) : Prop :=
  ∀ front requester connection back,
    listed connections.connectionsByRequester = front ++ (requester, connection) :: back →
      connection.connectionRecordId = id →
        ∀ entry ∈ front, ¬ (entry.1 = requester ∧ entry.2.identifier = connection.identifier)

def KeepsRecords : Event → DomainConnections → Prop
  | .breakConnection id, connections => FirstOfItsName id connections
  | .unregistered type identifier, connections =>
    ∀ entry ∈ listed connections.connectionsByRequester,
      entry.2.checkDependency type identifier → entry.2.allowDeferralOf type identifier
  | _, _ => True

def noConnections (domain : Domain) : DomainConnections :=
  ⟨domain, [], []⟩

/-- The invariant: the records are those of the listed connections, in some order. -/
structure InStep (connections : DomainConnections) : Prop where
  requesters : (connections.connectionsByRequester.map fst).Nodup
  ids : (connections.globalConnections.map fst).Nodup
  records : connections.globalConnections.Perm
    ((listed connections.connectionsByRequester).map recordOf)

variable {connections : DomainConnections}

theorem InStep.listed_ids (inStep : InStep connections) :
    ((listed connections.connectionsByRequester).map fun entry =>
      entry.2.connectionRecordId).Nodup := by
  have perm := inStep.records.map fst
  rw [List.map_map] at perm
  exact perm.nodup_iff.mp inStep.ids

theorem InStep.oneToOne (inStep : InStep connections) : OneToOne connections where
  named id requester identifier record := by
    obtain ⟨entry, member, same⟩ := mem_map.mp (inStep.records.mem_iff.mp record)
    obtain ⟨owner, connection⟩ := entry
    obtain ⟨rfl, rfl, rfl⟩ := same
    refine ⟨connection, ?_, rfl⟩
    exact filter_key_eq_singleton inStep.listed_ids member
  recorded entry member := inStep.records.mem_iff.mpr (mem_map_of_mem member)

section

variable (requesterId : String) (table : List (String × ConnectionList))

theorem listed_insertRequester : listed (insertRequester requesterId table) = listed table := by
  induction table with
  | nil => rfl
  | cons entry rest ih =>
      rw [insertRequester]
      split
      · rfl
      · rw [listed_cons, listed_cons, ih]

theorem requesters_insertRequester :
    ((insertRequester requesterId table).map fst).Perm (requesterId :: table.map fst) := by
  induction table with
  | nil => simp [insertRequester]
  | cons entry rest ih =>
      rw [insertRequester]
      split
      · exact .refl _
      · exact (ih.cons entry.1).trans (.swap _ _ _)

theorem listed_ensureRequester : listed (ensureRequester requesterId table) = listed table := by
  rw [ensureRequester]
  split
  · rfl
  · exact listed_insertRequester requesterId table

end

theorem requesters_ensureRequester (requesterId : String) (unique : (table.map fst).Nodup) :
    requesterId ∈ (ensureRequester requesterId table).map fst ∧
      ((ensureRequester requesterId table).map fst).Nodup := by
  rw [ensureRequester]
  split
  · rename_i member
    exact ⟨member, unique⟩
  · rename_i absent
    have perm := requesters_insertRequester requesterId table
    exact ⟨perm.mem_iff.mpr mem_cons_self, perm.nodup_iff.mpr (nodup_cons.mpr ⟨absent, unique⟩)⟩

@[simp] theorem requesters_onRequester (requesterId : String)
    (change : ConnectionList → ConnectionList) (table : List (String × ConnectionList)) :
    (onRequester requesterId change table).map fst = table.map fst := by
  rw [onRequester, List.map_map]
  refine map_congr_left fun entry _ => ?_
  simp only [comp_apply]
  split <;> rfl

theorem listed_onRequester_absent {requesterId : String} {change : ConnectionList → ConnectionList}
    {table : List (String × ConnectionList)} (absent : requesterId ∉ table.map fst) :
    onRequester requesterId change table = table := by
  conv_rhs => rw [← map_id table]
  refine map_congr_left fun entry member => ?_
  have differs : entry.1 ≠ requesterId := fun same =>
    absent (same ▸ mem_map_of_mem member)
  simp [differs]

variable {requesterId : String}

theorem listed_append_one (connection : ConnectionNode) (unique : (table.map fst).Nodup)
    (member : requesterId ∈ table.map fst) :
    (listed (onRequester requesterId (fun list => list ++ [connection]) table)).Perm
      ((requesterId, connection) :: listed table) := by
  induction table with
  | nil => cases member
  | cons entry rest ih =>
      rw [map_cons, nodup_cons] at unique
      by_cases same : entry.1 = requesterId
      · subst same
        have rest_same := @listed_onRequester_absent _ (fun list => list ++ [connection]) _ unique.1
        have changed : onRequester entry.1 (fun list => list ++ [connection]) (entry :: rest) =
            (entry.1, entry.2 ++ [connection]) ::
              onRequester entry.1 (fun list => list ++ [connection]) rest := by
          simp [onRequester]
        rw [changed, rest_same, listed_cons, listed_cons, map_append, append_assoc]
        exact perm_middle
      · have changed : onRequester requesterId (fun list => list ++ [connection]) (entry :: rest) =
            entry :: onRequester requesterId (fun list => list ++ [connection]) rest := by
          simp [onRequester, same]
        rw [changed, listed_cons, listed_cons]
        have later := (mem_cons.mp member).resolve_left fun equal => same equal.symm
        exact ((ih unique.2 later).append_left _).trans perm_middle

section

variable (inStep : InStep connections)
include inStep

theorem InStep.addConnection_ (requesterId : String) (connection : ConnectionNode) :
    InStep (addConnection_ requesterId connection connections).2 := by
  obtain ⟨member, nodup⟩ := requesters_ensureRequester requesterId inStep.requesters
  have fresh := freshRecordId_fresh (connections.globalConnections.map fst)
    (requesterId ++ "_" ++ connection.identifier)
  rw [length_map] at fresh
  refine ⟨?_, ?_, ?_⟩
  · simpa [Connections.addConnection_] using nodup
  · exact nodup_cons.mpr ⟨fresh, inStep.ids⟩
  · have added := (listed_append_one { connection with
        connectionRecordId := connectionRecordIdFor connections requesterId connection }
      nodup member).map recordOf
    rw [listed_ensureRequester] at added
    exact (inStep.records.cons _).trans added.symm

theorem InStep.withDomain (domain : Domain) : InStep { connections with domain } :=
  ⟨inStep.requesters, inStep.ids, inStep.records⟩

theorem InStep.addConnection
    (objects : Objects) (deviceManagerId : String) (connection : Connection) (uuid : String) :
    InStep (addConnection objects deviceManagerId connection uuid connections).2 := by
  unfold Connections.addConnection
  split
  · exact inStep
  simp only
  split
  · exact inStep.withDomain _
  split
  · exact inStep.withDomain _
  · exact (inStep.withDomain _).addConnection_ _ _

theorem InStep.restoreConnection (objects : Objects) (deviceManagerId : String) (connection : ConnectionNode) :
    InStep (restoreConnection objects deviceManagerId connection connections).2 := by
  unfold Connections.restoreConnection
  split
  · exact (inStep.withDomain _).addConnection_ _ _
  · exact inStep.addConnection_ _ _

theorem InStep.connectRequest (objects : Objects) (usesEndpoint providesEndpoint : EndpointRequest)
    (requesterId connectionId uuid : String) :
    InStep (connectRequest objects usesEndpoint providesEndpoint requesterId connectionId uuid
      connections).2 := by
  unfold Connections.connectRequest
  split
  · simp only
    split
    · exact inStep.withDomain _
    · exact (inStep.withDomain _).restoreConnection _ _ _
  · exact inStep

end

def removeFirst (objects : Objects) (requesterId connectionId : String) :
    List (String × ConnectionNode) → Domain → List (String × ConnectionNode) × Domain
  | [], domain => ([], domain)
  | entry :: rest, domain =>
    if entry.1 = requesterId ∧ entry.2.identifier = connectionId then
      (rest, (entry.2.disconnect objects domain).2)
    else
      let later := removeFirst objects requesterId connectionId rest domain
      (entry :: later.1, later.2)

variable {objects : Objects}

theorem removeFirst_absent {connectionId : String} {entries : List (String × ConnectionNode)} (domain : Domain)
    (absent : ∀ entry ∈ entries, ¬ (entry.1 = requesterId ∧ entry.2.identifier = connectionId)) :
    removeFirst objects requesterId connectionId entries domain = (entries, domain) := by
  induction entries with
  | nil => rfl
  | cons entry rest ih =>
      rw [removeFirst, if_neg (absent entry mem_cons_self),
        ih fun other member => absent other (mem_cons_of_mem _ member)]

theorem removeFirst_split {connection : ConnectionNode}
    {front back : List (String × ConnectionNode)} (domain : Domain)
    (first : ∀ entry ∈ front, ¬ (entry.1 = requesterId ∧ entry.2.identifier = connection.identifier)) :
    removeFirst objects requesterId connection.identifier
        (front ++ (requesterId, connection) :: back) domain =
      (front ++ back, (connection.disconnect objects domain).2) := by
  induction front with
  | nil => simp [removeFirst]
  | cons entry rest ih =>
      rw [cons_append, removeFirst, if_neg (first entry mem_cons_self),
        ih fun other member => first other (mem_cons_of_mem _ member)]
      rfl

theorem removeFirst_others {objects : Objects} {requesterId connectionId owner : String}
    (list : ConnectionList) (differs : owner ≠ requesterId)
    {others : List (String × ConnectionNode)} (domain : Domain) :
    removeFirst objects requesterId connectionId
        ((list.map fun connection => (owner, connection)) ++ others) domain =
      ((list.map fun connection => (owner, connection)) ++
          (removeFirst objects requesterId connectionId others domain).1,
        (removeFirst objects requesterId connectionId others domain).2) := by
  induction list with
  | nil => rfl
  | cons connection rest ih => simp [removeFirst, differs, ih]

theorem removeFirst_own {connectionId : String} (list : ConnectionList) {others : List (String × ConnectionNode)}
    (absent : ∀ entry ∈ others, entry.1 ≠ requesterId) (domain : Domain) :
    removeFirst objects requesterId connectionId
        ((list.map fun connection => (requesterId, connection)) ++ others) domain =
      (((breakFirst objects connectionId list domain).1.map fun connection =>
        (requesterId, connection)) ++ others, (breakFirst objects connectionId list domain).2) := by
  induction list with
  | nil =>
      rw [map_nil, nil_append, removeFirst_absent domain fun entry member same =>
        absent entry member same.1]
      rfl
  | cons connection rest ih =>
      rw [map_cons, cons_append, removeFirst, breakFirst]
      by_cases hit : connection.identifier = connectionId
      · simp [hit]
      · simp [hit, ih]

theorem listed_breakFirstOf {objects : Objects} {requesterId connectionId : String}
    {table : List (String × ConnectionList)} (unique : (table.map fst).Nodup)
    (domain : Domain) :
    (listed (breakFirstOf objects requesterId connectionId table domain).1,
        (breakFirstOf objects requesterId connectionId table domain).2) =
      removeFirst objects requesterId connectionId (listed table) domain := by
  induction table with
  | nil => rfl
  | cons entry rest ih =>
      rw [map_cons, nodup_cons] at unique
      rw [breakFirstOf]
      by_cases same : entry.1 = requesterId
      · subst same
        have others : ∀ other ∈ listed rest, other.1 ≠ entry.1 := fun other member equal =>
          unique.1 (equal ▸ mem_listed_requester member)
        rw [if_pos rfl]
        exact (removeFirst_own entry.2 others domain).symm
      · have later := @removeFirst_others objects requesterId connectionId _ entry.2 same
          (listed rest) domain
        rw [← ih unique.2] at later
        rw [if_neg same]
        exact later.symm

theorem requesters_breakFirstOf (objects : Objects) (requesterId connectionId : String)
    (table : List (String × ConnectionList)) (domain : Domain) :
    (breakFirstOf objects requesterId connectionId table domain).1.map fst = table.map fst := by
  induction table with
  | nil => rfl
  | cons entry rest ih =>
      rw [breakFirstOf]
      split
      · rfl
      · rw [map_cons, map_cons, ih]

theorem breakConnection_listed {objects : Objects} {connections : DomainConnections}
    (inStep : InStep connections) {requester : String} {connection : ConnectionNode}
    {front back : List (String × ConnectionNode)}
    (split : listed connections.connectionsByRequester = front ++ (requester, connection) :: back)
    (first : ∀ entry ∈ front, ¬ (entry.1 = requester ∧ entry.2.identifier = connection.identifier)) :
    ∃ table, listed table = front ++ back ∧ table.map fst = connections.connectionsByRequester.map fst ∧
      breakConnection objects connection.connectionRecordId connections =
        (.ok (), {
          domain := (connection.disconnect objects connections.domain).2
          connectionsByRequester := table
          globalConnections := connections.globalConnections.filter fun entry =>
            entry.1 != connection.connectionRecordId }) := by
  have member : (requester, connection) ∈ listed connections.connectionsByRequester := by
    simp [split]
  have record := inStep.oneToOne.recorded _ member
  have found : (connections.globalConnections.find? fun entry =>
      entry.1 == connection.connectionRecordId) = some (recordOf (requester, connection)) :=
    (find?_key inStep.ids).mpr ⟨record, rfl⟩
  have removed := @listed_breakFirstOf objects requester connection.identifier _
    inStep.requesters connections.domain
  rw [split, removeFirst_split connections.domain first, mk.injEq] at removed
  refine ⟨_, removed.1, requesters_breakFirstOf objects requester connection.identifier
    connections.connectionsByRequester connections.domain, ?_⟩
  rw [breakConnection, found, ← removed.2]
  rfl

variable {id : String}

theorem breakConnection_unlisted (inStep : InStep connections)
    (absent : ∀ entry ∈ listed connections.connectionsByRequester, entry.2.connectionRecordId ≠ id) :
    breakConnection objects id connections = (.error "Connection already broken", connections) := by
  have none : (connections.globalConnections.find? fun entry => entry.1 == id) = none := by
    rw [find?_eq_none]
    intro record member same
    obtain ⟨entry, entryMember, rfl⟩ := mem_map.mp (inStep.records.mem_iff.mp member)
    exact absent entry entryMember (by simpa [recordOf] using same)
  rw [breakConnection, none]

section

variable (inStep : InStep connections) (objects : Objects) (first : FirstOfItsName id connections)

include inStep first

theorem InStep.breaks :
    Breaks objects id connections := by
  by_cases present : ∃ entry ∈ listed connections.connectionsByRequester, entry.2.connectionRecordId = id
  · obtain ⟨⟨requester, connection⟩, member, rfl⟩ := present
    obtain ⟨front, back, split⟩ := append_of_mem member
    obtain ⟨table, removed, _, result⟩ := @breakConnection_listed objects _ inStep _ _ _ _ split
      (first front requester connection back split rfl)
    exact .broken requester connection front back split rfl (by rw [result]) (by rw [result, removed])
      (by rw [result]) (by rw [result])
  · push Not at present
    exact .unknown present (breakConnection_unlisted inStep present)

theorem InStep.breakConnection :
    InStep (breakConnection objects id connections).2 := by
  by_cases present : ∃ entry ∈ listed connections.connectionsByRequester, entry.2.connectionRecordId = id
  · obtain ⟨⟨requester, connection⟩, member, rfl⟩ := present
    obtain ⟨front, back, split⟩ := append_of_mem member
    obtain ⟨table, removed, requesters, result⟩ := @breakConnection_listed objects _
      inStep _ _ _ _ split (first front requester connection back split rfl)
    rw [result]
    refine ⟨requesters ▸ inStep.requesters, inStep.ids.sublist (filter_sublist.map _), ?_⟩
    have ids := inStep.listed_ids
    rw [split] at ids
    have others : ((listed connections.connectionsByRequester).map recordOf).filter
        (fun entry => entry.1 != connection.connectionRecordId) = (front ++ back).map recordOf := by
      rw [split, filter_map]
      exact congrArg (List.map recordOf) (filter_key_ne_of_split ids)
    rw [removed, ← others]
    exact inStep.records.filter _
  · push Not at present
    rw [breakConnection_unlisted inStep present]
    exact inStep

end

theorem listed_filter (requesterId : String) (table : List (String × ConnectionList)) :
    listed (table.filter fun entry => entry.1 != requesterId) =
      (listed table).filter fun entry => entry.1 != requesterId := by
  induction table with
  | nil => rfl
  | cons entry rest ih =>
      rw [listed_cons, filter_append, ← ih]
      by_cases same : entry.1 = requesterId
      · simp [filter_map, same, comp_def]
      · have differs : (entry.1 != requesterId) = true := bne_iff_ne.mpr same
        simp [filter_map, differs, comp_def]

theorem InStep.deviceManagerUnregistered
    (inStep : InStep connections) (objects : Objects) (deviceManagerName : String) :
    InStep (deviceManagerUnregistered objects deviceManagerName connections) := by
  unfold Connections.deviceManagerUnregistered
  cases found : connections.connectionsByRequester.find? fun entry =>
      entry.1 == deviceManagerName with
  | none => exact inStep
  | some owner =>
      obtain ⟨name, connectionList⟩ := owner
      obtain ⟨ownerMember, rfl⟩ := (find?_key inStep.requesters).mp found
      refine ⟨inStep.requesters.sublist (filter_sublist.map _),
        inStep.ids.sublist (filter_sublist.map _), ?_⟩
      have own : ∀ entry ∈ listed connections.connectionsByRequester,
          (connectionList.all fun connection =>
            (recordOf entry).1 != connection.connectionRecordId) = (entry.1 != name) := by
        intro entry member
        rw [Bool.eq_iff_iff, all_eq_true, bne_iff_ne]
        constructor
        · intro kept same
          simp only [listed, mem_flatMap, mem_map] at member
          obtain ⟨other, otherMember, connection, connectionMember, rfl⟩ := member
          obtain rfl : other = (name, connectionList) := Option.some.inj
            (((find?_key inStep.requesters).mpr ⟨otherMember, same⟩).symm.trans found)
          exact absurd rfl (bne_iff_ne.mp (kept connection connectionMember))
        · intro differs connection connectionMember
          rw [bne_iff_ne]
          intro same
          have ownMember : (name, connection) ∈ listed connections.connectionsByRequester :=
            mem_flatMap.mpr ⟨_, ownerMember, mem_map_of_mem connectionMember⟩
          have equal := inj_on_of_nodup_map inStep.listed_ids member ownMember same
          exact differs (congrArg fst equal)
      have kept := inStep.records.filter fun entry =>
        connectionList.all fun connection => entry.1 != connection.connectionRecordId
      rw [filter_map, comp_def, filter_congr own, ← listed_filter] at kept
      exact kept

def names (list : ConnectionList) : List (String × String) :=
  list.map fun connection => (connection.connectionRecordId, connection.identifier)

theorem names_cons (connection : ConnectionNode) (rest : ConnectionList) :
    names (connection :: rest) =
      (connection.connectionRecordId, connection.identifier) :: names rest := rfl

theorem InStep.onAll (inStep : InStep connections) {change : ConnectionList → Domain → ConnectionList × Domain}
    (keeps : ∀ entry ∈ connections.connectionsByRequester, ∀ domain,
      names (change entry.2 domain).1 = names entry.2) : InStep (onAll change connections) := by
  have same : ∀ table domain, (∀ entry ∈ table, ∀ domain, names (change entry.2 domain).1 = names entry.2) →
      (onEveryList change table domain).1.map fst = table.map fst ∧
        (listed (onEveryList change table domain).1).map recordOf = (listed table).map recordOf := by
    intro table
    induction table with
    | nil => exact fun domain _ => ⟨rfl, rfl⟩
    | cons entry rest ih =>
        intro domain keeps
        obtain ⟨requesters, records⟩ := ih (change entry.2 domain).2
          fun other member => keeps other (mem_cons_of_mem _ member)
        have own := congrArg (List.map fun name => (name.1, (entry.1, name.2)))
          (keeps entry mem_cons_self domain)
        simp only [names, List.map_map, comp_def] at own
        refine ⟨by rw [onEveryList, map_cons, map_cons, requesters], ?_⟩
        rw [onEveryList, listed_cons, listed_cons, map_append, map_append, records]
        congr 1
        simpa only [List.map_map, comp_def, recordOf] using own
  obtain ⟨requesters, records⟩ := same _ connections.domain keeps
  exact ⟨requesters ▸ inStep.requesters, inStep.ids, records ▸ inStep.records⟩

theorem connect_deferred {manager : Manager} {node : ConnectionNode}
    {domain : Domain} (deferred : (node.connect objects manager domain).result = .ok false) :
    (node.connect objects manager domain).node.allowDeferral := by
  unfold ConnectionNode.connect at deferred ⊢
  grind

section

variable (objects : Objects) (type : DependencyType) (identifier : String)

theorem tryPending_cons (connection : ConnectionNode) (rest : ConnectionList) (domain : Domain) :
    tryPending objects type identifier (connection :: rest) domain =
      if connection.connected || !connection.checkDependency type identifier then
        (connection :: (tryPending objects type identifier rest domain).1,
          (tryPending objects type identifier rest domain).2)
      else
        ((connection.connect objects domainConnectionManager domain).node ::
            (tryPending objects type identifier rest
              (connection.connect objects domainConnectionManager domain).domain).1,
          (tryPending objects type identifier rest
            (connection.connect objects domainConnectionManager domain).domain).2) := by
  rw [tryPending]
  split
  · rfl
  · cases result : (connection.connect objects domainConnectionManager domain).result with
    | error error => simp only [result]
    | ok connected =>
        cases connected with
        | true => simp only [result]
        | false => simp [result, connect_deferred result]

theorem names_tryPending :
    ∀ list domain, names (tryPending objects type identifier list domain).1 = names list := by
  intro list
  induction list with
  | nil => intro domain; rfl
  | cons connection rest ih =>
      intro domain
      rw [tryPending_cons]
      split
      · rw [names_cons, names_cons, ih]
      · rw [names_cons, names_cons, ih, connect_connectionRecordId, connect_identifier]

end

theorem names_breakDependent (objects : Objects) {type : DependencyType} {identifier : String} :
    ∀ list domain, (∀ connection ∈ list, connection.checkDependency type identifier →
      connection.allowDeferralOf type identifier) →
      names (breakDependent objects type identifier list domain).1 = names list := by
  intro list
  induction list with
  | nil => intro domain _; rfl
  | cons connection rest ih =>
      intro domain deferrable
      have later := fun domain => ih domain fun other member =>
        deferrable other (mem_cons_of_mem _ member)
      rw [breakDependent]
      split
      · rename_i depends
        simp only [deferrable connection mem_cons_self depends, if_true]
        rw [names_cons, names_cons, later, disconnect_connectionRecordId, disconnect_identifier]
      · rw [names_cons, names_cons, later]

theorem InStep.handle (inStep : InStep connections)
    (objects : Objects) {event : Event} (keeps : KeepsRecords event connections) :
    InStep (handle objects event connections) := by
  cases event with
  | addConnection deviceManagerId connection uuid => exact inStep.addConnection _ _ _ _
  | restoreConnection deviceManagerId connection => exact inStep.restoreConnection _ _ _
  | connect usesEndpoint providesEndpoint requesterId connectionId uuid =>
      exact inStep.connectRequest _ _ _ _ _ _
  | breakConnection id => exact inStep.breakConnection objects keeps
  | deviceManagerUnregistered name => exact inStep.deviceManagerUnregistered _ _
  | registered type identifier =>
      exact inStep.onAll fun entry _ domain => names_tryPending objects type identifier _ domain
  | unregistered type identifier =>
      refine inStep.onAll fun entry member domain =>
        names_breakDependent objects _ domain fun connection listedMember => ?_
      exact keeps (entry.1, connection)
        (mem_flatMap.mpr ⟨entry, member, mem_map_of_mem listedMember⟩)
  | domainChanges change => exact inStep.withDomain _

theorem InStep.noConnections (domain : Domain) : InStep (noConnections domain) where
  requesters := nodup_nil
  ids := nodup_nil
  records := .refl _

/-- In every state of a run that keeps the records, records and listed connections name each other,
and a record id breaks exactly its connection. -/
theorem connections_one_to_one (objects : Objects) (domain : Domain) (events : List Event)
    (keeps : Along (handle objects) KeepsRecords (noConnections domain) events) :
    OneToOne (run (handle objects) (noConnections domain) events) ∧
      ∀ id, FirstOfItsName id (run (handle objects) (noConnections domain) events) →
        Breaks objects id (run (handle objects) (noConnections domain) events) := by
  have inStep : InStep (run (handle objects) (noConnections domain) events) :=
    invariant_run InStep (fun _ _ inStep keeps => inStep.handle objects keeps)
      (InStep.noConnections domain) keeps
  exact ⟨inStep.oneToOne, fun _ first => inStep.breaks objects first⟩

def silent : Objects where
  isPort _ := false
  isPortSupplier _ := false
  getPort _ _ := none
  connectPort _ _ _ := none
  isA _ _ := false
  channel _ := none
  fileManager := 0
  domainManager := 0

def emptyDomain : Domain where
  devices := []
  services := []
  applications := []
  otherComponents _ := none
  names _ := none
  channelNames := []
  eventChannels := []
  exists_ _ := false
  portCalls := []

def pendingRequest (connectionId : String) : Event :=
  .connect ⟨.ENDPOINT_DEVICE "source", "out"⟩ ⟨.ENDPOINT_DEVICE "sink", "in"⟩ "client" connectionId ""

theorem connections_one_to_one_single :
    OneToOne (run (handle silent) (noConnections emptyDomain)
      [pendingRequest "link", .breakConnection "client_link"]) ∧
    ∀ id, FirstOfItsName id (run (handle silent) (noConnections emptyDomain)
        [pendingRequest "link", .breakConnection "client_link"]) →
      Breaks silent id (run (handle silent) (noConnections emptyDomain)
        [pendingRequest "link", .breakConnection "client_link"]) := by
  refine connections_one_to_one silent emptyDomain _ ⟨trivial, ?_, trivial⟩
  intro front requester connection back split _ entry member
  have length : (listed (handle silent (pendingRequest "link")
      (noConnections emptyDomain)).connectionsByRequester).length = 1 := by decide
  rw [split] at length
  have none : front = [] := length_eq_zero_iff.mp (by simp at length; omega)
  rw [none] at member
  cases member

theorem twins_break_each_other : ¬ OneToOne (run (handle silent) (noConnections emptyDomain)
    [pendingRequest "link", pendingRequest "link", .breakConnection "client_link_1"]) := by
  intro oneToOne
  have recorded := oneToOne.recorded
  revert recorded
  decide

end Redhawk.Connections
