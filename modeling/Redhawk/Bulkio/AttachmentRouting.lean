import Redhawk.Bulkio.AttachablePort
import Redhawk.Bulkio.ContainerRows

/-!
What an attachable port is for: each registered stream is attached once to each live connection that
the filter routes it to. The rows that the loops of the operations compute are those of this
routing.
-/

namespace Redhawk.Bulkio.Attachable

open Row List

variable {Time : Type}

structure Routing where
  connections : List (String × Nat)
  streams : List String
  filterTable : List ConnectionDescriptor
deriving DecidableEq

namespace Routing

def empty : Routing := ⟨[], [], []⟩

def rules (name : String) (routing : Routing) : List ConnectionDescriptor :=
  routing.filterTable.filter fun entry => entry.portName == name

def Routed (rules : List ConnectionDescriptor) (streamId connectionId : String) : Prop :=
  rules = [] ∨ ∃ entry ∈ rules, entry.connectionId = connectionId ∧ entry.streamId = streamId

instance (rules : List ConnectionDescriptor) (streamId connectionId : String) :
    Decidable (Routed rules streamId connectionId) :=
  inferInstanceAs (Decidable (_ ∨ _))

def step : AttachableCall Time → Routing → Routing
  | .connectPort object connectionId, routing =>
      { routing with connections := routing.connections ++ [(connectionId, object)] }
  | .disconnectPort connectionId, routing =>
      { routing with
        connections := routing.connections.filter fun connection => connection.1 != connectionId }
  | .updateConnectionFilter filterTable, routing => { routing with filterTable := filterTable }
  | .pushSRI .., routing => routing
  | .addStream streamDef, routing =>
      if streamDef.id ∈ routing.streams then routing
      else { routing with streams := routing.streams ++ [streamDef.id] }
  | .updateStream streamDef, routing =>
      if streamDef.id ∈ routing.streams then
        { routing with
          streams := (routing.streams.filter fun streamId => !(streamId == streamDef.id)) ++ [streamDef.id] }
      else routing
  | .removeStream streamId, routing =>
      { routing with streams := routing.streams.filter fun id => !(id == streamId) }

def Fresh (call : AttachableCall Time) (routing : Routing) : Prop :=
  match call with
  | .connectPort _ connectionId => connectionId ∉ routing.connections.map Prod.fst
  | _ => True

def ListedOnce (name streamId : String) (routing : Routing) : Prop :=
  ∀ connection ∈ routing.connections, (listing (routing.rules name) streamId connection.1).length ≤ 1

def AttachesOnce (name : String) (call : AttachableCall Time) (routing : Routing) : Prop :=
  match call with
  | .addStream streamDef => streamDef.id ∉ routing.streams → routing.ListedOnce name streamDef.id
  | .updateStream streamDef => streamDef.id ∈ routing.streams → routing.ListedOnce name streamDef.id
  | _ => True

instance (name streamId : String) (routing : Routing) :
    Decidable (routing.ListedOnce name streamId) :=
  inferInstanceAs (Decidable (∀ connection ∈ _, _))

instance (call : AttachableCall Time) (routing : Routing) : Decidable (routing.Fresh call) :=
  match call with
  | .connectPort _ connectionId => inferInstanceAs (Decidable (connectionId ∉ _))
  | .disconnectPort _ | .updateConnectionFilter _ | .pushSRI .. | .addStream _ | .updateStream _
  | .removeStream _ => isTrue trivial

instance (name : String) (call : AttachableCall Time) (routing : Routing) :
    Decidable (routing.AttachesOnce name call) :=
  match call with
  | .addStream streamDef =>
      inferInstanceAs (Decidable (streamDef.id ∉ _ → routing.ListedOnce name streamDef.id))
  | .updateStream streamDef =>
      inferInstanceAs (Decidable (streamDef.id ∈ _ → routing.ListedOnce name streamDef.id))
  | .connectPort .. | .disconnectPort _ | .updateConnectionFilter _ | .pushSRI ..
  | .removeStream _ => isTrue trivial

def UpdatesKnown (call : AttachableCall Time) (routing : Routing) : Prop :=
  match call with
  | .updateStream streamDef => streamDef.id ∈ routing.streams
  | _ => True

end Routing

section Rows

open Routing

def Row.Exact (connections : List (String × Nat)) (wanted : String → Prop) (row : Row) : Prop :=
  (row.pairs.map Prod.fst).Nodup ∧ ∀ pair, pair ∈ row.pairs ↔ pair ∈ connections ∧ wanted pair.1

variable {connections : List (String × Nat)} {wanted : String → Prop} {row : Row}

theorem eq_of_fst (distinct : (connections.map Prod.fst).Nodup) {first second : String × Nat}
    (one : first ∈ connections) (two : second ∈ connections) (same : first.1 = second.1) :
    first = second :=
  inj_on_of_nodup_map distinct one two same

theorem Row.exact_of_ids (distinct : (connections.map Prod.fst).Nodup)
    (once : (row.pairs.map Prod.fst).Nodup) (live : ∀ pair ∈ row.pairs, pair ∈ connections)
    (ids : ∀ pair ∈ connections, pair.1 ∈ row.pairs.map Prod.fst ↔ wanted pair.1) :
    row.Exact connections wanted := by
  refine ⟨once, fun pair => ⟨fun held => ?_, fun ⟨member, want⟩ => ?_⟩⟩
  · exact ⟨live pair held, (ids pair (live pair held)).mp (mem_map_of_mem held)⟩
  · obtain ⟨other, held, same⟩ := mem_map.mp ((ids pair member).mpr want)
    exact eq_of_fst distinct (live other held) member same ▸ held

variable {pair : String × Nat}

theorem Row.Exact.live (exact_ : row.Exact connections wanted)
    (held : pair ∈ row.pairs) : pair ∈ connections := ((exact_.2 pair).mp held).1

theorem Row.hasConnectionId_iff (connectionId : String) :
    row.hasConnectionId connectionId = true ↔ connectionId ∈ row.pairs.map Prod.fst := by
  simp [hasConnectionId]

theorem Row.nodup_add (chosen : String → Bool) (pair : String × Nat)
    (once : (row.pairs.map Prod.fst).Nodup) : ((row.add chosen pair).pairs.map Prod.fst).Nodup := by
  unfold add
  split
  · rename_i new
    simp only [Bool.and_eq_true, Bool.not_eq_true'] at new
    have absent : pair.1 ∉ row.pairs.map Prod.fst := fun present => by
      rw [(hasConnectionId_iff pair.1).mpr present] at new
      exact Bool.false_ne_true new.2.symm
    rw [append, map_append, nodup_append]
    refine ⟨once, by simp, fun id held other new => ?_⟩
    simp only [map_cons, map_nil, mem_singleton] at new
    exact fun same => absent (new ▸ same ▸ held)
  · exact once

theorem Row.mem_add {chosen : String → Bool} {other : String × Nat}
    (held : other ∈ (row.add chosen pair).pairs) : other ∈ row.pairs ∨ other = pair := by
  unfold add at held
  split at held
  · simpa [append] using held
  · exact .inl held

theorem Row.ids_add {connectionId : String} :
    connectionId ∈ (row.add (fun _ => true) pair).pairs.map Prod.fst ↔
      connectionId ∈ row.pairs.map Prod.fst ∨ connectionId = pair.1 := by
  by_cases has : row.hasConnectionId pair.1 = true
  · have present := (hasConnectionId_iff pair.1).mp has
    have same : row.add (fun _ => true) pair = row := by simp [add, has]
    rw [same]
    exact ⟨.inl, fun either => either.elim id fun equal => equal ▸ present⟩
  · have grown : row.add (fun _ => true) pair = row.append pair := by simp [add, has]
    simp [grown, append]

theorem Row.foldl_add (pairs : List (String × Nat)) (once : (row.pairs.map Prod.fst).Nodup) :
    let after := pairs.foldl (fun row pair => row.add (fun _ => true) pair) row
    (after.pairs.map Prod.fst).Nodup ∧ (∀ pair ∈ after.pairs, pair ∈ row.pairs ∨ pair ∈ pairs) ∧
      ∀ connectionId, connectionId ∈ after.pairs.map Prod.fst ↔
        connectionId ∈ row.pairs.map Prod.fst ∨ connectionId ∈ pairs.map Prod.fst := by
  induction pairs generalizing row with
  | nil => exact ⟨once, fun _ => .inl, fun _ => by simp⟩
  | cons pair rest ih =>
      obtain ⟨distinct, members, ids⟩ := ih (nodup_add (fun _ => true) pair once)
      refine ⟨distinct, fun other held => ?_, fun connectionId => ?_⟩
      · rcases members other held with added | later
        · rcases mem_add added with old | same
          · exact .inl old
          · exact .inr (same ▸ mem_cons_self)
        · exact .inr (mem_cons_of_mem _ later)
      · rw [foldl_cons, ids, ids_add, map_cons, mem_cons, or_assoc]

theorem Row.add_chosen (chosen : String → Bool) (pair : String × Nat) :
    row.add chosen pair =
      if chosen row.streamId = true then row.add (fun _ => true) pair else row := by
  unfold add
  by_cases here : chosen row.streamId = true <;> simp [here]

theorem Row.add_add (pair : String × Nat) :
    (row.add (fun _ => true) pair).add (fun _ => true) pair = row.add (fun _ => true) pair := by
  have present : pair.1 ∈ (row.add (fun _ => true) pair).pairs.map Prod.fst :=
    ids_add.mpr (.inr rfl)
  have has := (hasConnectionId_iff pair.1).mpr present
  rw [add, has]
  rfl

section

variable (rules : List ConnectionDescriptor) (connectionId : String) (object : Nat) (row : Row)

theorem foldl_entries :
    rules.foldl (fun row entry => if entry.connectionId == connectionId then
        row.add (fun id => id == entry.streamId) (connectionId, object) else row) row =
      if ∃ entry ∈ rules, entry.connectionId = connectionId ∧ entry.streamId = row.streamId then
        row.add (fun _ => true) (connectionId, object) else row := by
  induction rules generalizing row with
  | nil => simp
  | cons entry rest ih =>
      rw [foldl_cons]
      by_cases own : entry.connectionId = connectionId ∧ entry.streamId = row.streamId
      · have added : (if entry.connectionId == connectionId then
            row.add (fun id => id == entry.streamId) (connectionId, object) else row) =
              row.add (fun _ => true) (connectionId, object) := by
          rw [if_pos (by simpa using own.1), add_chosen, if_pos (by simp [own.2])]
        rw [added, ih, add_add, ite_self, if_pos ⟨entry, mem_cons_self, own⟩]
      · have skipped : (if entry.connectionId == connectionId then
            row.add (fun id => id == entry.streamId) (connectionId, object) else row) = row := by
          by_cases same : entry.connectionId = connectionId
          · have other : ¬(row.streamId == entry.streamId) = true := fun equal =>
              own ⟨same, (eq_of_beq equal).symm⟩
            rw [if_pos (by simpa using same), add_chosen, if_neg other]
          · rw [if_neg (by simpa using same)]
        rw [skipped, ih]
        refine if_congr ?_ rfl rfl
        rw [exists_mem_cons_iff]
        exact (or_iff_right own).symm

theorem connectRow_eq : connectRow rules connectionId object row =
      if Routed rules row.streamId connectionId then
        row.add (fun _ => true) (connectionId, object) else row := by
  unfold connectRow
  simp only [foldl_entries]
  cases rules with
  | nil => simp [Routed]
  | cons entry rest => simp [Routed]

end

variable {rules : List ConnectionDescriptor}

theorem connectRow_exact {connectionId : String} {object : Nat}
    (exact_ : row.Exact connections (Routed rules row.streamId))
    (fresh : connectionId ∉ connections.map Prod.fst) :
    (connectRow rules connectionId object row).Exact (connections ++ [(connectionId, object)])
      (Routed rules row.streamId) := by
  have absent : connectionId ∉ row.pairs.map Prod.fst := fun present => by
    obtain ⟨pair, held, same⟩ := mem_map.mp present
    exact fresh (same ▸ mem_map_of_mem (exact_.live held))
  have new : row.hasConnectionId connectionId = false := by
    rw [Bool.eq_false_iff]
    exact fun has => absent ((hasConnectionId_iff connectionId).mp has)
  rw [connectRow_eq]
  split
  · rename_i routed
    refine ⟨nodup_add _ _ exact_.1, fun pair => ?_⟩
    have grown : row.add (fun _ => true) (connectionId, object) =
        row.append (connectionId, object) := by simp [add, new]
    rw [grown]
    simp only [append, mem_append, mem_singleton, exact_.2 pair]
    constructor
    · rintro (⟨member, want⟩ | same)
      · exact ⟨.inl member, want⟩
      · exact ⟨.inr same, by rw [same]; exact routed⟩
    · rintro ⟨member | same, want⟩
      · exact .inl ⟨member, want⟩
      · exact .inr same
  · rename_i other
    refine ⟨exact_.1, fun pair => ?_⟩
    simp only [mem_append, mem_singleton, exact_.2 pair]
    constructor
    · rintro ⟨member, want⟩
      exact ⟨.inl member, want⟩
    · rintro ⟨member | same, want⟩
      · exact ⟨member, want⟩
      · rw [same] at want
        exact absurd want other

theorem drop_exact (exact_ : row.Exact connections wanted) (connectionId : String) :
    (row.drop fun id => id == connectionId).Exact
      (connections.filter fun connection => connection.1 != connectionId) wanted := by
  refine ⟨?_, fun pair => ?_⟩
  · exact exact_.1.sublist (filter_sublist.map Prod.fst)
  · simp only [Row.drop, mem_filter, exact_.2 pair, bne]
    tauto

theorem Row.ids_drop (picked : String → Bool) (connectionId : String) :
    connectionId ∈ (row.drop picked).pairs.map Prod.fst ↔
      connectionId ∈ row.pairs.map Prod.fst ∧ picked connectionId = false := by
  simp only [Row.drop, mem_map, mem_filter, Bool.not_eq_true']
  constructor
  · rintro ⟨pair, ⟨held, stays⟩, rfl⟩
    exact ⟨⟨pair, held, rfl⟩, stays⟩
  · rintro ⟨⟨pair, held, rfl⟩, stays⟩
    exact ⟨pair, ⟨held, stays⟩, rfl⟩

theorem mem_expectedAttachments {streamId : String} (distinct : (connections.map Prod.fst).Nodup) :
    pair ∈ expectedAttachments rules connections streamId ↔ pair ∈ connections ∧
      ∃ entry ∈ rules, entry.connectionId = pair.1 ∧ entry.streamId = streamId := by
  simp only [expectedAttachments, mem_filterMap, Option.ite_none_right_eq_some, beq_iff_eq]
  constructor
  · rintro ⟨entry, member, stream, found⟩
    have live := mem_of_find?_eq_some found
    have same := find?_some found
    exact ⟨live, entry, member, (eq_of_beq same).symm, stream⟩
  · rintro ⟨live, entry, member, same, stream⟩
    refine ⟨entry, member, stream, ?_⟩
    cases found : connections.find? fun connection => connection.1 == entry.connectionId with
    | none =>
        have missing := find?_eq_none.mp found pair live
        simp [same] at missing
    | some other =>
        have here := find?_some found
        rw [eq_of_fst distinct (mem_of_find?_eq_some found) live ((eq_of_beq here).trans same)]

theorem filterRow_exact (distinct : (connections.map Prod.fst).Nodup) (exact_ : row.Exact connections wanted) :
    (filterRow rules connections row).Exact connections (Routed rules row.streamId) := by
  have listed : ∀ pair, pair ∈ expectedAttachments rules connections row.streamId ↔
      pair ∈ connections ∧ ∃ entry ∈ rules, entry.connectionId = pair.1 ∧ entry.streamId = row.streamId :=
    fun pair => mem_expectedAttachments distinct
  unfold filterRow
  generalize expectedAttachments rules connections row.streamId = expected at listed ⊢
  dsimp only
  split
  · rename_i filled
    have some_ : rules ≠ [] := fun empty => by
      simp only [empty, not_mem_nil, false_and, exists_false, and_false, iff_false] at listed
      simp [eq_nil_iff_forall_not_mem.mpr listed] at filled
    obtain ⟨once, members, ids⟩ := foldl_add expected exact_.1
    refine exact_of_ids distinct (once.sublist (filter_sublist.map Prod.fst))
      (fun pair held => ?_) fun pair live => ?_
    · exact (members pair (mem_filter.mp held).1).elim exact_.live fun new =>
        ((listed pair).mp new).1
    · have wantedIds : pair.1 ∈ expected.map Prod.fst ↔ Routed rules row.streamId pair.1 := by
        rw [Routed, or_iff_right some_]
        constructor
        · intro member
          obtain ⟨other, inside, same⟩ := mem_map.mp member
          exact same ▸ ((listed other).mp inside).2
        · exact fun entry => mem_map_of_mem ((listed pair).mpr ⟨live, entry⟩)
      rw [reconcile, ids_drop, ids, ← wantedIds]
      simp only [Bool.not_eq_false', contains_iff_mem]
      exact ⟨fun both => both.2, fun member => ⟨.inr member, member⟩⟩
  · rename_i bare
    have none : ∀ pair, pair ∉ expected := by
      have nil : expected = [] := by simpa using bare
      simp [nil]
    split
    · rename_i empty
      have routed : rules = [] := List.isEmpty_iff.mp empty
      obtain ⟨once, members, ids⟩ := foldl_add connections exact_.1
      refine exact_of_ids distinct once
        (fun pair held => (members pair held).elim exact_.live id) fun pair live => ?_
      rw [ids]
      exact ⟨fun _ => .inl routed, fun _ => .inr (mem_map_of_mem live)⟩
    · rename_i filled
      have some_ : rules ≠ [] := fun empty => filled (by simp [empty])
      refine ⟨by simp [Row.drop], fun pair => ?_⟩
      rw [Routed, or_iff_right some_, ← listed]
      simp [Row.drop, none pair]

theorem newPairs_exact {streamId : String} (distinct : (connections.map Prod.fst).Nodup)
    (once : ∀ connection ∈ connections, (listing rules streamId connection.1).length ≤ 1) :
    (mk streamId (newPairs rules connections streamId)).Exact connections (Routed rules streamId) := by
  by_cases empty : rules = []
  · have all : newPairs rules connections streamId = connections := by
      simp [newPairs, empty, listing]
    rw [all]
    exact ⟨distinct, fun pair => ⟨fun live => ⟨live, .inl empty⟩, And.left⟩⟩
  · have listed : newPairs rules connections streamId = connections.flatMap fun connection =>
        (listing rules streamId connection.1).map fun _ => connection := by
      simp [newPairs, empty]
    have ids : (newPairs rules connections streamId).map Prod.fst =
        (connections.map Prod.fst).filter fun id => !(listing rules streamId id).isEmpty := by
      rw [listed]
      clear listed distinct
      induction connections with
      | nil => rfl
      | cons connection rest ih =>
          have later := ih fun other member => once other (mem_cons_of_mem connection member)
          have here := once connection mem_cons_self
          rw [flatMap_cons, map_append, later, map_cons, filter_cons]
          rcases entries : listing rules streamId connection.1 with _ | ⟨entry, more⟩
          · simp
          · rw [entries] at here
            have single : more = [] := by simpa using here
            simp [single]
    refine exact_of_ids distinct (ids ▸ distinct.filter _) (fun pair held => ?_)
      fun pair live => ?_
    · rw [listed] at held
      obtain ⟨connection, live, inside⟩ := mem_flatMap.mp held
      obtain ⟨entry, -, same⟩ := mem_map.mp inside
      exact same ▸ live
    · rw [ids, mem_filter, and_iff_right (mem_map_of_mem live), Routed, or_iff_right empty]
      simp [listing, filter_eq_nil_iff]

end Rows

end Redhawk.Bulkio.Attachable
