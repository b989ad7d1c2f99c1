import Redhawk.Persistence.ConnectionTables

/-!
Which connections come back as they were.
-/

namespace Redhawk.Persistence

open Connections Library List Option

def Plain : Endpoint → Prop
  | .plain (.ObjectrefEndpoint _) _ => False
  | .plain _ _ => True
  | .PortEndpoint _ _ _ _ => False

def Reloads (garbage : Garbage) (endpoint : Endpoint) : Prop :=
  (saveEndpoint endpoint).map (loadEndpoint garbage) = some endpoint

def filled (value : Bool) : Garbage where
  invalidPort_ _ := value
  aware_application _ := value
  stop_timeout _ := 0

variable {endpoint : Endpoint}

theorem reloads_of_plain (isPlain : Plain endpoint) (garbage : Garbage) : Reloads garbage endpoint := by
  cases endpoint with
  | plain kind object_ =>
      cases kind with
      | ObjectrefEndpoint objectref => exact isPlain.elim
      | _ => rfl
  | PortEndpoint supplier_ name_ invalidPort_ object_ => exact isPlain.elim

theorem plain_of_reloads (reloads : ∀ value, Reloads (filled value) endpoint) : Plain endpoint := by
  cases endpoint with
  | plain kind object_ =>
      cases kind with
      | ObjectrefEndpoint objectref => cases reloads true
      | _ => trivial
  | PortEndpoint supplier_ name_ invalidPort_ object_ =>
      -- the flag would have both values
      have holds : ∀ value, invalidPort_ = value := by
        intro value
        have reload := reloads value
        unfold Reloads saveEndpoint at reload
        cases saved : saveEndpoint supplier_ with
        | none => simp [saved] at reload
        | some supplier =>
            simp only [saved, map_some, loadEndpoint, some.injEq,
              Endpoint.PortEndpoint.injEq] at reload
            exact reload.2.2.1.symm
      have both := (holds true).symm.trans (holds false)
      cases both

theorem object_loadEndpoint {stored : StoredEndpoint}
    (saved : saveEndpoint endpoint = some stored) (garbage : Garbage) :
    (loadEndpoint garbage stored).object = endpoint.object := by
  cases endpoint with
  | plain kind object_ =>
      cases kind <;> cases saved <;> rfl
  | PortEndpoint supplier_ name_ invalidPort_ object_ =>
      obtain ⟨supplier, _, rfl⟩ := map_eq_some_iff.mp saved
      rfl

variable {node : ConnectionNode}

theorem saveConnection_eq_some {stored : StoredConnection} :
    saveConnection node = some stored ↔
      saveEndpoint node.uses = some stored.uses ∧ saveEndpoint node.provides = some stored.provides ∧
        stored.identifier = node.identifier ∧ stored.connected = node.connected := by
  unfold saveConnection
  cases saveEndpoint node.uses <;> cases saveEndpoint node.provides
  · simp
  · simp
  · simp
  · simp only [some.injEq]
    constructor
    · rintro rfl
      exact ⟨rfl, rfl, rfl, rfl⟩
    · rintro ⟨rfl, rfl, identifier, connected⟩
      rw [← identifier, ← connected]

theorem saveConnection_isSome (uses : Plain node.uses)
    (provides : Plain node.provides) : ∃ stored, saveConnection node = some stored := by
  obtain ⟨usesStored, savedUses, _⟩ :=
    map_eq_some_iff.mp (reloads_of_plain uses (filled false))
  obtain ⟨providesStored, savedProvides, _⟩ :=
    map_eq_some_iff.mp (reloads_of_plain provides (filled false))
  exact ⟨⟨usesStored, providesStored, node.identifier, node.connected⟩,
    saveConnection_eq_some.mpr ⟨savedUses, savedProvides, rfl, rfl⟩⟩

theorem loadConnection_eq_iff {stored : StoredConnection}
    (saved : saveConnection node = some stored) (garbage : Garbage) (connectionRecordId : String) :
    { loadConnection garbage stored with connectionRecordId } = node ↔
      Reloads garbage node.uses ∧ Reloads garbage node.provides ∧ node.requesterId = "" ∧
        node.connectionRecordId = connectionRecordId := by
  obtain ⟨uses, provides, identifier, connected⟩ := saveConnection_eq_some.mp saved
  unfold Reloads
  rw [uses, provides, map_some, map_some, some.injEq, some.injEq]
  obtain ⟨usesNode, providesNode, identifierNode, requesterId, recordId, connectedNode⟩ := node
  simp only [loadConnection, ConnectionNode.mk.injEq]
  constructor
  · rintro ⟨sameUses, sameProvides, _, sameRequester, sameRecord, _⟩
    exact ⟨sameUses, sameProvides, sameRequester.symm, sameRecord.symm⟩
  · rintro ⟨sameUses, sameProvides, sameRequester, sameRecord⟩
    exact ⟨sameUses, sameProvides, identifier, sameRequester.symm, sameRecord.symm, connected⟩

def Numbered (taken : List String) : List (String × ConnectionNode) → Prop
  | [] => True
  | (requesterId, node) :: rest =>
    node.connectionRecordId = nextRecordId taken requesterId node.identifier ∧
      Numbered (node.connectionRecordId :: taken) rest

def Saved (entry : String × ConnectionNode) (stored : String × StoredConnection) : Prop :=
  entry.1 = stored.1 ∧ saveConnection entry.2 = some stored.2

def ComesBack (garbage : Garbage) (node : ConnectionNode) : Prop :=
  Reloads garbage node.uses ∧ Reloads garbage node.provides ∧ node.requesterId = ""

variable {entries : List (String × ConnectionNode)} {stored : List (String × StoredConnection)}

theorem reread_eq_iff (saved : Forall₂ Saved entries stored) (garbage : Garbage) (taken : List String) :
    reread garbage taken stored = entries ↔
      Numbered taken entries ∧ ∀ entry ∈ entries, ComesBack garbage entry.2 := by
  induction saved generalizing taken with
  | nil => simp [reread, Numbered]
  | @cons entry first entries stored same saved ih =>
      obtain ⟨owner, connection⟩ := first
      obtain ⟨sameRequester, isSaved⟩ := same
      subst sameRequester
      have identifier := (saveConnection_eq_some.mp isSaved).2.2.1
      rw [reread, cons.injEq, Prod.mk.injEq, loadConnection_eq_iff isSaved,
        forall_mem_cons, Numbered, identifier]
      constructor
      · rintro ⟨⟨_, uses, provides, requester, record⟩, later⟩
        rw [← record] at later
        obtain ⟨numbered, comesBack⟩ := (ih _).mp later
        exact ⟨⟨record, numbered⟩, ⟨uses, provides, requester⟩, comesBack⟩
      · rintro ⟨⟨record, numbered⟩, ⟨uses, provides, requester⟩, comesBack⟩
        refine ⟨⟨rfl, uses, provides, requester, record⟩, ?_⟩
        rw [← record]
        exact (ih _).mpr ⟨numbered, comesBack⟩

theorem owners_reread (saved : Forall₂ Saved entries stored) (garbage : Garbage) (taken : List String) :
    (reread garbage taken stored).map Prod.fst = entries.map Prod.fst := by
  induction saved generalizing taken with
  | nil => rfl
  | cons same _ ih =>
      rw [reread, map_cons, map_cons, ih, same.1]

theorem eq_of_ofRequester {first second : List (String × ConnectionNode)}
    (owners : first.map Prod.fst = second.map Prod.fst)
    (same : ∀ requesterId, ofRequester first requesterId = ofRequester second requesterId) :
    first = second := by
  induction first generalizing second with
  | nil => exact (map_eq_nil_iff.mp owners.symm).symm
  | cons entry rest ih =>
      cases second with
      | nil => cases owners
      | cons other later =>
          rw [map_cons, map_cons, cons.injEq] at owners
          obtain ⟨owner, owners⟩ := owners
          have split : ∀ requesterId, (requesterId = entry.1 → entry.2 = other.2) ∧
              ofRequester rest requesterId = ofRequester later requesterId := by
            intro requesterId
            have both := same requesterId
            rw [ofRequester_cons, ofRequester_cons, ← owner] at both
            by_cases isOwner : requesterId = entry.1
            · rw [if_pos isOwner, if_pos isOwner, singleton_append, singleton_append, cons.injEq] at both
              exact ⟨fun _ => both.1, both.2⟩
            · rw [if_neg isOwner, if_neg isOwner, nil_append, nil_append] at both
              exact ⟨fun equal => absurd equal isOwner, both⟩
          have heads : entry = other := Prod.ext owner ((split entry.1).1 rfl)
          rw [heads, ih owners fun requesterId => (split requesterId).2]

theorem eq_of_ofRequester_nil (none : ∀ requesterId, ofRequester entries requesterId = []) : entries = [] := by
  cases entries with
  | nil => rfl
  | cons entry rest =>
      have found := none entry.1
      rw [ofRequester_cons, if_pos rfl] at found
      cases found

theorem ofRequester_append (first second : List (String × ConnectionNode)) (requesterId : String) :
    ofRequester (first ++ second) requesterId =
      ofRequester first requesterId ++ ofRequester second requesterId := by
  simp [ofRequester]

theorem ofRequester_own (nodes : ConnectionList) (owner requesterId : String) :
    ofRequester (nodes.map fun node => (owner, node)) requesterId =
      if owner = requesterId then nodes else [] := by
  induction nodes with
  | nil => simp [ofRequester]
  | cons node rest ih =>
      rw [map_cons, ofRequester_cons, ih]
      by_cases same : owner = requesterId
      · simp [same]
      · simp [same, Ne.symm same]

variable {table : List (String × ConnectionList)}

theorem ofRequester_listed (unique : (table.map Prod.fst).Nodup) (requesterId : String) :
    ofRequester (listed table) requesterId = connectionsOf table requesterId := by
  induction table with
  | nil => rfl
  | cons entry rest ih =>
      rw [map_cons, nodup_cons] at unique
      rw [listed_cons, ofRequester_append, ofRequester_own, connectionsOf_cons, ih unique.2]
      split_ifs with same
      · rw [connectionsOf_absent (same ▸ unique.1), append_nil]
      · rfl

theorem saved_list {owner : String} {nodes : ConnectionList} {stored : List StoredConnection}
    (saved : saveConnections nodes = some stored) :
    Forall₂ Saved (nodes.map fun node => (owner, node))
      (stored.map fun node => (owner, node)) := by
  rw [forall₂_map_left_iff, forall₂_map_right_iff]
  have each := mapM_eq_some_iff.mp saved
  exact each.imp fun _ _ isSaved => ⟨rfl, isSaved⟩

theorem saved_table {stored : List (String × List StoredConnection)}
    (saved : saveConnectionTable table = some stored) :
    Forall₂ Saved (listed table) (listedStored stored) := by
  have each := mapM_eq_some_iff.mp saved
  induction each with
  | nil => exact .nil
  | @cons entry first rest later isSaved each ih =>
      obtain ⟨list, savedList, rfl⟩ := map_eq_some_iff.mp isSaved
      have tail : saveConnectionTable rest = some later := mapM_eq_some_iff.mpr each
      exact rel_append (saved_list savedList) (ih tail)

end Redhawk.Persistence
