import Redhawk.Library.Lists
import Redhawk.Processes.ProcessNodes

/-!
The books of the process registry: the nodes with a process, each with the name it is searched
by, against the processes that were launched to the end and have not been reported as exited.
Moving a node between the lists keeps them.
-/

namespace Redhawk.Processes

open Library List

namespace NodeLists

def nodes (lists : NodeLists) : List Node :=
  lists.pending ++ lists.registered

end NodeLists

def Node.name (node : Node) : Kind → String
  | .device => node.identifier
  | .service => node.label

def Process.name (process : Process) : String :=
  match process.kind with
  | .device => process.identifier
  | .service => process.label

def books (kind : Kind) (nodes : List Node) : List (Nat × String) :=
  (nodes.filter fun node => node.pid ≠ 0).map fun node => (node.pid, node.name kind)

variable {nodes : List Node}

theorem books_perm (kind : Kind) {other : List Node} (same : nodes.Perm other) :
    (books kind nodes).Perm (books kind other) :=
  (same.filter _).map _

theorem mem_books {kind : Kind} {pid : Nat} {name : String} :
    (pid, name) ∈ books kind nodes ↔ ∃ node ∈ nodes, node.pid = pid ∧ node.name kind = name ∧ pid ≠ 0 := by
  simp only [books, mem_map, mem_filter, decide_eq_true_eq, Prod.mk.injEq]
  constructor
  · rintro ⟨node, ⟨member, positive⟩, rfl, rfl⟩
    exact ⟨node, member, rfl, rfl, positive⟩
  · rintro ⟨node, member, rfl, rfl, positive⟩
    exact ⟨node, ⟨member, positive⟩, rfl, rfl⟩

theorem books_cons (kind : Kind) (node : Node) (nodes : List Node) :
    books kind (node :: nodes) =
      if node.pid ≠ 0 then (node.pid, node.name kind) :: books kind nodes
      else books kind nodes := by
  unfold books
  by_cases positive : node.pid ≠ 0 <;> simp [positive]

theorem books_cons_congr (kind : Kind) {node other : Node}
    (pids : other.pid = node.pid) (names : other.name kind = node.name kind) :
    books kind (other :: nodes) = books kind (node :: nodes) := by
  rw [books_cons, books_cons, pids, names]

theorem countP_books (kind : Kind) (nodes : List Node) {pid : Nat} (positive : pid ≠ 0) :
    (books kind nodes).countP (fun entry => entry.1 = pid) = nodes.countP fun node => node.pid = pid := by
  unfold books
  rw [countP_map, countP_filter]
  apply countP_congr
  intro node _
  simp only [Function.comp, Bool.and_eq_true, decide_eq_true_eq]
  constructor
  · rintro ⟨same, _⟩
    exact same
  · rintro rfl
    exact ⟨rfl, positive⟩

namespace DeviceManager

@[simp] theorem lists_withLists (self : DeviceManager) (kind : Kind) (lists : NodeLists) :
    (self.withLists kind lists).lists kind = lists := by
  cases kind <;> rfl

variable {kind : Kind}

section

variable (self : DeviceManager)

theorem lists_withLists_of_ne {other : Kind} (lists : NodeLists)
    (different : other ≠ kind) : (self.withLists kind lists).lists other = self.lists other := by
  cases kind <;> cases other <;> first | rfl | exact absurd rfl different

section

variable (kind : Kind) (lists : NodeLists)

@[simp] theorem withLists_launching : (self.withLists kind lists).launching = self.launching := by
  cases kind <;> rfl

@[simp] theorem withLists_running : (self.withLists kind lists).running = self.running := by
  cases kind <;> rfl

@[simp] theorem withLists_launches : (self.withLists kind lists).launches = self.launches := by
  cases kind <;> rfl

@[simp] theorem withLists_allocated : (self.withLists kind lists).allocated = self.allocated := by
  cases kind <;> rfl

@[simp] theorem withLists_freed : (self.withLists kind lists).freed = self.freed := by
  cases kind <;> rfl

@[simp] theorem withLists_crashed : (self.withLists kind lists).crashed = self.crashed := by
  cases kind <;> rfl

end

end

def settled (self : DeviceManager) (kind : Kind) : List Process :=
  self.running.filter fun process => process.kind = kind ∧ process ∉ self.launching

def Attached (running : List Process) : Kind → Node → Prop
  | .device, node =>
    (∃ process ∈ running, process.pid = node.pid ∧ node.reference = some (.ofProcess process.launch)) ∨
    (node.pid = 0 ∧ ∃ number, node.reference = some (.other number))
  | .service, node =>
    node.pid ≠ 0 ∨ ∀ process ∈ running, process.kind = .service → process.label ≠ node.label

/-- What every state keeps as long as nothing registers or exits in the middle of its launch and
names are not shared. -/
structure Kept (state : DeviceManager) : Prop where
  alive : state.crashed = false
  pids : (state.running.map Process.pid).Nodup
  positive : ∀ process ∈ state.running, process.pid ≠ 0
  launches : (state.running.map Process.launch).Nodup
  launchBound : ∀ process ∈ state.running, process.launch < state.launches
  launchingRuns : ∀ process ∈ state.launching, process ∈ state.running
  names : ∀ first ∈ state.running, ∀ second ∈ state.running, first.kind = second.kind →
    first.name = second.name → first = second
  books : ∀ kind, (books kind (state.lists kind).nodes).Perm
    ((state.settled kind).map fun process => (process.pid, process.name))
  pendingPids : ∀ kind, ∀ node ∈ (state.lists kind).pending, node.pid ≠ 0
  attached : ∀ kind, ∀ node ∈ (state.lists kind).registered, Attached state.running kind node

variable {self : DeviceManager}

theorem mem_settled {process : Process} :
    process ∈ self.settled kind ↔ process ∈ self.running ∧ process.kind = kind ∧ process ∉ self.launching := by
  simp [settled]

section

variable (kept : Kept self) {first second : Process} (firstRuns : first ∈ self.running)
  (secondRuns : second ∈ self.running)

include kept firstRuns secondRuns

theorem process_eq_of_pid (same : first.pid = second.pid) : first = second :=
  inj_on_of_nodup_map kept.pids firstRuns secondRuns same

theorem process_eq_of_launch (same : first.launch = second.launch) : first = second :=
  inj_on_of_nodup_map kept.launches firstRuns secondRuns same

end

theorem process_of_node {self : DeviceManager} (kept : Kept self) {kind : Kind} {node : Node}
    (member : node ∈ (self.lists kind).nodes) (positive : node.pid ≠ 0) :
    ∃ process ∈ self.settled kind, process.pid = node.pid ∧ process.name = node.name kind := by
  have entry : (node.pid, node.name kind) ∈ books kind (self.lists kind).nodes :=
    mem_books.mpr ⟨node, member, rfl, rfl, positive⟩
  rw [(kept.books kind).mem_iff, mem_map] at entry
  obtain ⟨process, settled, same⟩ := entry
  rw [Prod.mk.injEq] at same
  exact ⟨process, settled, same.1, same.2⟩

section

variable (kept : Kept self)

include kept

theorem node_of_process {process : Process} (settled : process ∈ self.settled kind) :
    ∃ node ∈ (self.lists kind).nodes, node.pid = process.pid ∧ node.name kind = process.name := by
  have entry : (process.pid, process.name) ∈ books kind (self.lists kind).nodes := by
    rw [(kept.books kind).mem_iff]
    exact mem_map_of_mem settled
  obtain ⟨node, member, pids, names, _⟩ := mem_books.mp entry
  exact ⟨node, member, pids, names⟩

theorem kept_withLists (kind : Kind) {lists : NodeLists}
    (sameBooks : (Processes.books kind lists.nodes).Perm (Processes.books kind (self.lists kind).nodes))
    (pendingPids : ∀ node ∈ lists.pending, node.pid ≠ 0)
    (attached : ∀ node ∈ lists.registered, Attached self.running kind node) :
    Kept (self.withLists kind lists) := by
  constructor
  · rw [withLists_crashed]
    exact kept.alive
  · rw [withLists_running]
    exact kept.pids
  · rw [withLists_running]
    exact kept.positive
  · rw [withLists_running]
    exact kept.launches
  · rw [withLists_running, withLists_launches]
    exact kept.launchBound
  · rw [withLists_running, withLists_launching]
    exact kept.launchingRuns
  · rw [withLists_running]
    exact kept.names
  · intro other
    unfold settled
    rw [withLists_running, withLists_launching]
    by_cases same : other = kind
    · subst same
      rw [lists_withLists]
      exact sameBooks.trans (kept.books other)
    · rw [lists_withLists_of_ne self lists same]
      exact kept.books other
  · intro other
    by_cases same : other = kind
    · subst same
      rw [lists_withLists]
      exact pendingPids
    · rw [lists_withLists_of_ne self lists same]
      exact kept.pendingPids other
  · intro other
    rw [withLists_running]
    by_cases same : other = kind
    · subst same
      rw [lists_withLists]
      exact attached
    · rw [lists_withLists_of_ne self lists same]
      exact kept.attached other

theorem kept_allocated (allocated : Nat) : Kept { self with allocated := allocated } :=
  ⟨kept.alive, kept.pids, kept.positive, kept.launches, kept.launchBound, kept.launchingRuns,
    kept.names, kept.books, kept.pendingPids, kept.attached⟩

theorem kept_deploy (placement : Nat) (identifier : String) : Kept (self.deploy placement identifier) :=
  ⟨kept.alive, kept.pids, kept.positive, kept.launches, kept.launchBound, kept.launchingRuns,
    kept.names, kept.books, kept.pendingPids, kept.attached⟩

theorem kept_increment (kind : Kind) (search : Node → Bool) (fill : Node → Node) (identifier : String)
    (pids : ∀ node, (fill node).pid = node.pid)
    (names : ∀ node, search node = true → (fill node).name kind = node.name kind)
    (found : ∀ node ∈ (self.lists kind).pending, search node = true → Attached self.running kind (fill node))
    (fresh : (∀ node ∈ (self.lists kind).pending, search node = false) → ∀ node, node.pid = 0 →
      Attached self.running kind (fill node)) :
    Kept (self.increment kind search fill identifier) := by
  unfold increment
  dsimp only
  cases result : (self.lists kind).pending.find? search with
  | some node =>
      have member := mem_of_find?_eq_some result
      have passes := find?_some result
      apply kept_withLists kept
      · have before := books_perm kind ((perm_of_find? result).append_right (self.lists kind).registered)
        rw [cons_append, ← books_cons_congr kind (pids node) (names node passes)] at before
        refine Perm.trans (books_perm kind ?_) before.symm
        simp only [NodeLists.nodes]
        rw [← append_assoc]
        exact perm_append_singleton _ _
      · intro other otherMember
        exact kept.pendingPids kind other (mem_of_mem_eraseP otherMember)
      · exact forall_mem_concat.mpr ⟨kept.attached kind, found node member passes⟩
  | none =>
      rw [find?_eq_none] at result
      apply kept_allocated
      apply kept_withLists kept
      · simp only [NodeLists.nodes]
        rw [← append_assoc]
        refine (books_perm kind (perm_append_singleton _ _)).trans ?_
        rw [books_cons, pids]
        exact Perm.refl _
      · exact kept.pendingPids kind
      · exact forall_mem_concat.mpr
          ⟨kept.attached kind, fresh (fun node member => by simpa using result node member) _ rfl⟩

theorem kept_decrement (kind : Kind) (search : Node → Bool) : Kept (self.decrement kind search).1 := by
  unfold decrement
  dsimp only
  cases result : (self.lists kind).registered.find? search with
  | none => exact kept
  | some node =>
      have before := books_perm kind ((perm_of_find? result).append_left (self.lists kind).pending)
      have moved := before.trans (books_perm kind perm_middle)
      apply kept_withLists kept
      · refine Perm.trans ?_ moved.symm
        rw [books_cons]
        by_cases positive : node.pid ≠ 0
        · simp only [NodeLists.nodes, if_pos positive, append_assoc, singleton_append]
          refine (books_perm kind perm_middle).trans ?_
          rw [books_cons, if_pos positive]
        · simp only [NodeLists.nodes, if_neg positive]
          exact Perm.refl _
      · intro other otherMember
        by_cases positive : node.pid ≠ 0
        · simp only [if_pos positive] at otherMember
          rcases mem_append.mp otherMember with earlier | added
          · exact kept.pendingPids kind other earlier
          · rw [mem_singleton.mp added]
            exact positive
        · simp only [if_neg positive] at otherMember
          exact kept.pendingPids kind other otherMember
      · intro other otherMember
        exact kept.attached kind other (mem_of_mem_eraseP otherMember)

end

end DeviceManager

end Redhawk.Processes
