import Redhawk.Persistence.RestoreState
import Redhawk.Connections.ConnectionRegistry

/-!
The connections of each requester after they were read back: in their order, with new record ids.
-/

namespace Redhawk.Persistence

open Connections List

def connectionsOf (table : List (String × ConnectionList)) (requesterId : String) : ConnectionList :=
  (table.find? fun entry => entry.1 == requesterId).elim [] Prod.snd

theorem connectionsOf_cons (entry : String × ConnectionList)
    (table : List (String × ConnectionList)) (requesterId : String) :
    connectionsOf (entry :: table) requesterId =
      if entry.1 = requesterId then entry.2 else connectionsOf table requesterId := by
  unfold connectionsOf
  rw [find?_cons]
  by_cases same : entry.1 = requesterId
  · simp [same]
  · have differs : (entry.1 == requesterId) = false := by
      simpa using same
    rw [differs, if_neg same]

variable {table : List (String × ConnectionList)} {requesterId : String}

theorem connectionsOf_absent
    (absent : requesterId ∉ table.map Prod.fst) : connectionsOf table requesterId = [] := by
  induction table with
  | nil => rfl
  | cons entry rest ih =>
      rw [map_cons, mem_cons, not_or] at absent
      rw [connectionsOf_cons, if_neg (Ne.symm absent.1)]
      exact ih absent.2

theorem connectionsOf_insertRequester (absent : requesterId ∉ table.map Prod.fst) (other : String) :
    connectionsOf (insertRequester requesterId table) other = connectionsOf table other := by
  induction table with
  | nil =>
      rw [insertRequester, connectionsOf_cons]
      split_ifs <;> rfl
  | cons entry rest ih =>
      have absentRest : requesterId ∉ rest.map Prod.fst := by
        rw [map_cons, mem_cons, not_or] at absent
        exact absent.2
      rw [insertRequester]
      split_ifs
      · rw [connectionsOf_cons]
        split_ifs with same
        · subst same
          exact (connectionsOf_absent absent).symm
        · rfl
      · rw [connectionsOf_cons, connectionsOf_cons, ih absentRest]

theorem connectionsOf_ensureRequester (table : List (String × ConnectionList)) (requesterId other : String) :
    connectionsOf (ensureRequester requesterId table) other = connectionsOf table other := by
  unfold ensureRequester
  split_ifs with known
  · rfl
  · exact connectionsOf_insertRequester known other

theorem connectionsOf_onRequester
    (known : requesterId ∈ table.map Prod.fst) (change : ConnectionList → ConnectionList)
    (other : String) :
    connectionsOf (onRequester requesterId change table) other =
      if other = requesterId then change (connectionsOf table other)
      else connectionsOf table other := by
  induction table with
  | nil => cases known
  | cons entry rest ih =>
      have unfolded : onRequester requesterId change (entry :: rest) =
          (if entry.1 = requesterId then (entry.1, change entry.2) else entry) ::
            onRequester requesterId change rest := rfl
      rw [unfolded, connectionsOf_cons, connectionsOf_cons]
      by_cases isEntry : entry.1 = requesterId
      · rw [if_pos isEntry]
        by_cases isOther : entry.1 = other
        · rw [if_pos isOther, if_pos isOther, if_pos (isOther.symm.trans isEntry)]
        · rw [if_neg isOther, if_neg isOther, if_neg (fun same => isOther (isEntry.trans same.symm))]
          by_cases later : requesterId ∈ rest.map Prod.fst
          · rw [ih later, if_neg (fun same => isOther (isEntry.trans same.symm))]
          · rw [listed_onRequester_absent later]
      · rw [if_neg isEntry]
        have later : requesterId ∈ rest.map Prod.fst := by
          rw [map_cons, mem_cons] at known
          exact known.resolve_left (Ne.symm isEntry)
        rw [ih later]
        by_cases isOther : entry.1 = other
        · rw [if_pos isOther, if_pos isOther, if_neg (fun same => isEntry (isOther.trans same))]
        · rw [if_neg isOther, if_neg isOther]

theorem mem_ensureRequester (table : List (String × ConnectionList)) (requesterId : String) :
    requesterId ∈ (ensureRequester requesterId table).map Prod.fst := by
  unfold ensureRequester
  split_ifs with known
  · exact known
  · rw [(requesters_insertRequester requesterId table).mem_iff]
    exact mem_cons_self

def nextRecordId (taken : List String) (requesterId identifier : String) : String :=
  freshRecordId taken (requesterId ++ "_" ++ identifier) taken.length 0

theorem connectionsOf_addConnection_ (requesterId : String) (connection : ConnectionNode)
    (connections : DomainConnections) {taken : List String}
    (isTaken : connections.globalConnections.map Prod.fst = taken) (other : String) :
    connectionsOf (addConnection_ requesterId connection connections).2.connectionsByRequester other =
      connectionsOf connections.connectionsByRequester other ++
        if other = requesterId then
          [{ connection with connectionRecordId := nextRecordId taken requesterId connection.identifier }]
        else [] := by
  have same : connectionRecordIdFor connections requesterId connection =
      nextRecordId taken requesterId connection.identifier := by
    rw [← isTaken]
    simp [connectionRecordIdFor, nextRecordId]
  unfold addConnection_
  rw [connectionsOf_onRequester (mem_ensureRequester _ _), connectionsOf_ensureRequester, same]
  split_ifs
  · rfl
  · rw [append_nil]

def listedStored (table : List (String × List StoredConnection)) : List (String × StoredConnection) :=
  table.flatMap fun entry => entry.2.map fun stored => (entry.1, stored)

def reread (garbage : Garbage) (taken : List String) :
    List (String × StoredConnection) → List (String × ConnectionNode)
  | [] => []
  | (requesterId, stored) :: rest =>
    let connectionRecordId := nextRecordId taken requesterId stored.identifier
    (requesterId, { loadConnection garbage stored with connectionRecordId }) ::
      reread garbage (connectionRecordId :: taken) rest

def ofRequester (entries : List (String × ConnectionNode)) (requesterId : String) : ConnectionList :=
  (entries.filter fun entry => entry.1 == requesterId).map Prod.snd

theorem ofRequester_cons (entry : String × ConnectionNode)
    (entries : List (String × ConnectionNode)) (requesterId : String) :
    ofRequester (entry :: entries) requesterId =
      (if requesterId = entry.1 then [entry.2] else []) ++ ofRequester entries requesterId := by
  unfold ofRequester
  by_cases same : requesterId = entry.1
  · simp [same]
  · have differs : ¬entry.1 = requesterId := fun equal => same equal.symm
    simp [same, differs]

def Standing (domain : Domain) (node : ConnectionNode) : Prop :=
  node.connected = true → objectExists domain node.provides.object = true

theorem restoreConnection_standing {objects : Objects} {requesterId : String}
    {node : ConnectionNode} {connections : DomainConnections}
    (standing : Standing connections.domain node) :
    restoreConnection objects requesterId node connections = addConnection_ requesterId node connections := by
  unfold restoreConnection
  rw [if_neg]
  simp only [Bool.and_eq_true, Bool.not_eq_true', not_and, Bool.not_eq_false]
  intro made
  exact standing made.1

def restoreListed (objects : Objects) (garbage : Garbage)
    (entries : List (String × StoredConnection)) (connections : DomainConnections) :
    DomainConnections :=
  entries.foldl (fun connections entry =>
    (restoreConnection objects entry.1 (loadConnection garbage entry.2) connections).2) connections

theorem restoreConnections_eq (objects : Objects) (garbage : Garbage)
    (table : List (String × List StoredConnection)) (connections : DomainConnections) :
    restoreConnections objects garbage table connections =
      restoreListed objects garbage (listedStored table) connections := by
  unfold restoreConnections restoreListed listedStored
  rw [foldl_flatMap]
  simp only [restoreConnectionList, foldl_map]

theorem connectionsOf_restoreListed (objects : Objects) (garbage : Garbage)
    (entries : List (String × StoredConnection)) (connections : DomainConnections)
    {taken : List String} (isTaken : connections.globalConnections.map Prod.fst = taken)
    (standing : ∀ entry ∈ entries,
      Standing connections.domain (loadConnection garbage entry.2)) (requesterId : String) :
    connectionsOf (restoreListed objects garbage entries connections).connectionsByRequester requesterId =
      connectionsOf connections.connectionsByRequester requesterId ++
        ofRequester (reread garbage taken entries) requesterId := by
  induction entries generalizing connections taken with
  | nil => exact (append_nil _).symm
  | cons entry rest ih =>
      obtain ⟨owner, stored⟩ := entry
      have stands := standing _ mem_cons_self
      have unfolded : restoreListed objects garbage ((owner, stored) :: rest) connections =
          restoreListed objects garbage rest
            (addConnection_ owner (loadConnection garbage stored) connections).2 := by
        rw [← @restoreConnection_standing objects _ _ _ stands]
        rfl
      have nextTaken : (addConnection_ owner (loadConnection garbage stored)
          connections).2.globalConnections.map Prod.fst =
            nextRecordId taken owner stored.identifier :: taken := by
        rw [← isTaken]
        simp [addConnection_, connectionRecordIdFor, nextRecordId, loadConnection]
      rw [unfolded, ih _ nextTaken (fun later member => standing later
        (mem_cons_of_mem _ member)), connectionsOf_addConnection_ _ _ _ isTaken, reread,
        ofRequester_cons, append_assoc]
      rfl

end Redhawk.Persistence
