import Redhawk.Processes.ProcessRuns

/-!
Where the nodes go: every node that was allocated is in a list or was deleted, once, as long as
nothing without a process unregisters.
-/

namespace Redhawk.Processes

open Library List

namespace DeviceManager

def addresses (lists : NodeLists) : List Nat :=
  lists.nodes.map Node.address

def owned (self : DeviceManager) : List Nat :=
  addresses (self.lists .device) ++ addresses (self.lists .service)

def Counted (self : DeviceManager) : Prop :=
  (self.owned ++ self.freed).Perm (range self.allocated)

def Freeing (event : Event) (self : DeviceManager) : Prop :=
  match event with
  | .unregisterDevice (some device) true =>
    ∀ node, (self.devices.registered.find? fun node => node.reference == some device) = some node → node.pid ≠ 0
  | .unregisterService (some _) name =>
    ∀ node, (self.services.registered.find? fun node => node.label == name) = some node → node.pid ≠ 0
  | _ => True

variable {before after : DeviceManager}

theorem owned_perm (kind : Kind) (extra : List Nat)
    (changed : (addresses (after.lists kind)).Perm (extra ++ addresses (before.lists kind)))
    (others : ∀ other, other ≠ kind → after.lists other = before.lists other) :
    after.owned.Perm (extra ++ before.owned) := by
  unfold owned
  cases kind with
  | device =>
      rw [others .service (by decide), ← append_assoc]
      exact changed.append_right _
  | service =>
      rw [others .device (by decide)]
      refine (changed.append_left _).trans ?_
      rw [← append_assoc, ← append_assoc]
      exact perm_append_comm.append_right _

theorem counted_same (counted : before.Counted)
    (owned : after.owned.Perm before.owned) (freed : after.freed = before.freed)
    (allocated : after.allocated = before.allocated) : after.Counted := by
  unfold Counted
  rw [freed, allocated]
  exact (owned.append_right _).trans counted

theorem counted_allocate (counted : before.Counted) (owned : after.owned.Perm (before.allocated :: before.owned))
    (freed : after.freed = before.freed)
    (allocated : after.allocated = before.allocated + 1) : after.Counted := by
  unfold Counted
  rw [freed, allocated, range_succ]
  refine (owned.append_right _).trans ?_
  exact (counted.cons _).trans (perm_append_singleton _ _).symm

theorem addresses_append_pending (lists : NodeLists) (node : Node) :
    (addresses { lists with pending := lists.pending ++ [node] }).Perm (node.address :: addresses lists) := by
  simp only [addresses, NodeLists.nodes, append_assoc, singleton_append]
  exact perm_middle.map Node.address

theorem addresses_append_registered (lists : NodeLists) (node : Node) :
    (addresses { lists with registered := lists.registered ++ [node] }).Perm
      (node.address :: addresses lists) := by
  simp only [addresses, NodeLists.nodes]
  rw [← append_assoc]
  exact (perm_append_singleton node _).map Node.address

variable {self : DeviceManager}

theorem counted_addPending (counted : self.Counted) (launch : Nat) : (self.addPending launch).Counted := by
  unfold addPending
  split
  · exact counted
  · next process _ =>
      apply counted_allocate counted
      · refine owned_perm process.kind [self.allocated] ?_ ?_
        · show (addresses ((self.withLists process.kind _).lists process.kind)).Perm _
          rw [lists_withLists]
          exact addresses_append_pending _ _
        · intro other different
          exact lists_withLists_of_ne self _ different
      · exact withLists_freed self _ _
      · rfl

theorem counted_increment (counted : self.Counted) (kind : Kind)
    (search : Node → Bool) (fill : Node → Node) (identifier : String)
    (keeps : ∀ node, (fill node).address = node.address) :
    (self.increment kind search fill identifier).Counted := by
  unfold increment
  dsimp only
  cases result : (self.lists kind).pending.find? search with
  | some node =>
      apply counted_same counted
      · refine owned_perm kind [] ?_ ?_
        · rw [lists_withLists, nil_append]
          have split := ((perm_of_find? result).append_right (self.lists kind).registered).map Node.address
          refine (addresses_append_registered ⟨_, _⟩ _).trans ?_
          rw [keeps]
          exact split.symm
        · intro other different
          exact lists_withLists_of_ne self _ different
      · exact withLists_freed self _ _
      · exact withLists_allocated self _ _
  | none =>
      apply counted_allocate counted
      · refine owned_perm kind [self.allocated] ?_ ?_
        · show (addresses ((self.withLists kind _).lists kind)).Perm _
          rw [lists_withLists]
          refine (addresses_append_registered _ _).trans ?_
          rw [keeps]
          exact Perm.refl _
        · intro other different
          exact lists_withLists_of_ne self _ different
      · exact withLists_freed self _ _
      · rfl

theorem counted_decrement (counted : self.Counted) (kind : Kind) (search : Node → Bool)
    (running : ∀ node, (self.lists kind).registered.find? search = some node → node.pid ≠ 0) :
    (self.decrement kind search).1.Counted := by
  unfold decrement
  dsimp only
  cases result : (self.lists kind).registered.find? search with
  | none => exact counted
  | some node =>
      apply counted_same counted
      · refine owned_perm kind [] ?_ ?_
        · rw [lists_withLists, nil_append, if_pos (running node result)]
          have split := (((perm_of_find? result).append_left
            (self.lists kind).pending).trans perm_middle).map Node.address
          refine Perm.trans ?_ split.symm
          exact addresses_append_pending
            ⟨(self.lists kind).pending, (self.lists kind).registered.eraseP search⟩ node
        · intro other different
          exact lists_withLists_of_ne self _ different
      · exact withLists_freed self _ _
      · exact withLists_allocated self _ _

theorem counted_childExited (kept : Kept self) (counted : self.Counted)
    {process : Process} (settled : process ∈ self.settled process.kind) (running : List Process) :
    (({ self with running := running } : DeviceManager).childExited process.pid).Counted := by
  obtain ⟨node, rest, _, perm, _, _, result⟩ := childExited_takes kept settled
  rw [result]
  have removed : self.owned.Perm ([node.address] ++ (self.withLists process.kind rest).owned) := by
    apply owned_perm process.kind [node.address]
    · rw [lists_withLists]
      exact perm.map Node.address
    · intro other different
      exact (lists_withLists_of_ne self rest different).symm
  show ((self.withLists process.kind rest).owned ++ (self.freed ++ [node.address])).Perm
    (range (self.withLists process.kind rest).allocated)
  rw [withLists_allocated, ← append_assoc]
  refine (perm_append_singleton _ _).trans ?_
  exact (removed.append_right self.freed).symm.trans counted

theorem counted_step (event : Event) (self : DeviceManager) (kept : Kept self)
    (counted : self.Counted) (orderly : Orderly event self) (freeing : Freeing event self) :
    (step event self).Counted := by
  unfold step
  rw [if_neg (by simp [kept.alive])]
  cases event with
  | deploy placement identifier => exact counted
  | fork pid kind identifier label =>
      simp only [fork]
      split <;> exact counted
  | addPending launch => exact counted_addPending counted launch
  | registerDevice caller label answers =>
      have registers : ∀ device : RegisteringDevice, self.findProfile device.identifier = true →
          (self.registerDevice (some device) answers).1.Counted := by
        intro device profile
        rcases registerDevice_cases self device answers profile with same | ⟨_, registered⟩
        · rw [same]
          exact counted
        · rw [registered]
          exact counted_increment counted _ _ _ _ fun _ => rfl
      cases caller with
      | nil => exact counted
      | other number identifier => exact registers _ orderly.1
      | launched launch =>
          dsimp only
          split
          · next process found =>
              obtain ⟨runs, isLaunch⟩ := find?_launch found
              split
              · exact registers _ (orderly.2 process runs isLaunch)
              · exact counted
          · exact counted
  | registerService caller domain =>
      have registers : ∀ (service : Reference) (name : String),
          (self.registerService (some service) name domain).1.Counted := by
        intro service name
        rcases registerService_cases self service name domain with same | ⟨_, registered⟩
        · rw [same]
          exact counted
        · rw [registered]
          exact counted_increment counted _ _ _ _ fun _ => rfl
      cases caller with
      | nil => exact counted
      | other number name => exact registers _ _
      | launched launch =>
          dsimp only
          split
          · split
            · exact registers _ _
            · exact counted
          · exact counted
  | unregisterDevice device answers =>
      rcases unregisterDevice_cases self device answers with same | ⟨reference, rfl, rfl, done⟩
      · simp only [same]
        exact counted
      · simp only [done]
        exact counted_decrement counted .device _ freeing
  | unregisterService service name =>
      rcases unregisterService_cases self service name with same | ⟨known, done⟩
      · simp only [same]
        exact counted
      · obtain ⟨reference, rfl⟩ := Option.isSome_iff_exists.mp known
        simp only [done]
        exact counted_decrement counted .service _ freeing
  | childExited pid =>
      dsimp only
      split
      · next known =>
          obtain ⟨process, runs, rfl⟩ := mem_map.mp known
          apply counted_childExited kept counted
          exact mem_settled.mpr ⟨runs, rfl, fun launching => orderly process launching rfl⟩
      · exact counted

end DeviceManager

end Redhawk.Processes
