import Redhawk.Processes.ProcessLedger

/-!
What the process registry promises, and the runs in which it keeps it.
-/

namespace Redhawk.Processes

open Library List

namespace DeviceManager

/-- A process whose launch is complete and whose exit was not handled has one node in all the
lists. -/
def OneNode (self : DeviceManager) : Prop :=
  ∀ process ∈ self.running, process ∉ self.launching →
    (self.devices.pending ++ self.devices.registered ++ self.services.pending ++
      self.services.registered).countP (fun node => node.pid = process.pid) = 1

structure Over (state : DeviceManager) : Prop where
  running : state.running = []
  launching : state.launching = []
  devices : state.devices.registered = []
  services : state.services.registered = []

def AttachedTo (before after : DeviceManager) (process : Process) : Prop :=
  ∃ own ∈ (before.lists process.kind).nodes, ∃ node ∈ (after.lists process.kind).registered,
    own.pid = process.pid ∧ node.pid = process.pid ∧ node.address = own.address

def RegistersWell (event : Event) (self : DeviceManager) : Prop :=
  match event with
  | .registerDevice (.launched launch) _ answers =>
    ∀ process ∈ self.running, process.launch = launch → process.kind = .device →
      (step event self).allocated = self.allocated ∧
      (self.internalShutdown = false → Accepts answers → AttachedTo self (step event self) process)
  | .registerDevice (.other number identifier) label answers =>
    self.internalShutdown = false → self.deviceIsRegistered (.other number) = false →
    Accepts answers → (self.registerDevice (some ⟨.other number, identifier, label⟩) answers).2 = .done ∧
      ∃ node ∈ (step event self).devices.registered, node.reference = some (.other number) ∧ node.pid = 0
  | .registerService (.launched launch) domain =>
    ∀ process ∈ self.running, process.launch = launch → process.kind = .service →
      (step event self).allocated = self.allocated ∧
      (self.registeredWithDomain = false ∨ domain = .accepted → AttachedTo self (step event self) process)
  | _ => True

def RegistryKept (start : DeviceManager) : Prop :=
  ∀ events, OneNode (run step start events) ∧ (∀ event, RegistersWell event (run step start events)) ∧
    (Over (run step start events) → (run step start events).allChildrenExited = true ∧
      (run step start events).freed.Perm (range (run step start events).allocated))

variable {self : DeviceManager} {process : Process}

section

variable (kept : Kept self)
include kept

theorem countP_settled (settled : process ∈ self.settled process.kind) (kind : Kind) :
    (self.lists kind).nodes.countP (fun node => node.pid = process.pid) =
      if process.kind = kind then 1 else 0 := by
  have runs := (mem_settled.mp settled).1
  rw [← countP_books kind _ (kept.positive process runs), (kept.books kind).countP_eq, countP_map]
  by_cases same : process.kind = kind
  · subst same
    have unique : ((self.settled process.kind).map Process.pid).Nodup :=
      (filter_sublist.map _).nodup kept.pids
    rw [if_pos rfl, (perm_cons_filter_key_ne unique settled).countP_eq, countP_cons_of_pos
      (by simp), Nat.add_eq_right, countP_eq_zero]
    intro other member
    simpa using (mem_filter.mp member).2
  · rw [if_neg same, countP_eq_zero]
    intro other member
    simp only [Function.comp, decide_eq_true_eq]
    intro samePid
    have isProcess := process_eq_of_pid kept (mem_settled.mp member).1 runs samePid
    exact same (isProcess ▸ (mem_settled.mp member).2.1)

theorem oneNode_of_kept : OneNode self := by
  intro process runs complete
  have settled : process ∈ self.settled process.kind := mem_settled.mpr ⟨runs, rfl, complete⟩
  have devices := countP_settled kept settled .device
  have services := countP_settled kept settled .service
  simp only [NodeLists.nodes, lists, countP_append] at devices services
  simp only [countP_append]
  cases kind : process.kind <;> simp only [kind, reduceCtorEq, if_true, if_false] at devices services
    <;> omega

theorem allChildrenExited_of_kept (isOver : Over self) :
    self.devices.pending = [] ∧ self.services.pending = [] ∧ self.allChildrenExited = true := by
  have noPending : ∀ kind, (self.lists kind).pending = [] := by
    intro kind
    rw [eq_nil_iff_forall_not_mem]
    intro node member
    obtain ⟨process, runs, _⟩ := process_of_pending kept member
    rw [isOver.running] at runs
    cases runs
  have devices : self.devices.pending = [] := noPending .device
  have services : self.services.pending = [] := noPending .service
  refine ⟨devices, services, ?_⟩
  simp [allChildrenExited, isOver.devices, isOver.services, devices, services]

theorem find?_running (runs : process ∈ self.running) :
    (self.running.find? fun other => other.launch == process.launch) = some process :=
  (find?_key kept.launches).mpr ⟨runs, rfl⟩

theorem increment_attaches
    (settled : process ∈ self.settled process.kind) (search : Node → Bool) (fill : Node → Node)
    (identifier : String)
    (byName : ∀ node, search node = true ↔ node.name process.kind = process.name)
    (unregistered : ∀ node ∈ (self.lists process.kind).registered, node.pid ≠ process.pid)
    (pids : ∀ node, (fill node).pid = node.pid)
    (keeps : ∀ node, (fill node).address = node.address) :
    (self.increment process.kind search fill identifier).allocated = self.allocated ∧
      AttachedTo self (self.increment process.kind search fill identifier) process := by
  obtain ⟨node, found, nodePid⟩ := pending_found kept settled search byName unregistered
  have result : self.increment process.kind search fill identifier =
      self.withLists process.kind
        { pending := (self.lists process.kind).pending.eraseP search
          registered := (self.lists process.kind).registered ++ [fill node] } := by
    simp only [increment, found]
  rw [result]
  refine ⟨withLists_allocated _ _ _, node, ?_, fill node, ?_, nodePid, ?_, keeps node⟩
  · exact mem_append_left _ (mem_of_find?_eq_some found)
  · rw [lists_withLists]
    exact mem_append_right _ (mem_singleton_self _)
  · rw [pids, nodePid]

theorem device_attaches (runs : process ∈ self.running) (isDevice : process.kind = .device)
    (complete : process ∉ self.launching)
    (profile : self.findProfile process.identifier = true) (label : String)
    (answers : DeviceAnswers) :
    let after := (self.registerDevice
      (some ⟨.ofProcess process.launch, process.identifier, label⟩) answers).1
    after.allocated = self.allocated ∧
      (self.internalShutdown = false → Accepts answers → AttachedTo self after process) := by
  have settled : process ∈ self.settled process.kind := mem_settled.mpr ⟨runs, rfl, complete⟩
  have isNamed : process.name = process.identifier := name_of_kind isDevice
  have attaches : self.deviceIsRegistered (.ofProcess process.launch) = false →
      (self.incrementRegisteredDevices
        ⟨.ofProcess process.launch, process.identifier, label⟩).allocated = self.allocated ∧
      AttachedTo self (self.incrementRegisteredDevices
        ⟨.ofProcess process.launch, process.identifier, label⟩) process := by
    intro unregistered
    unfold incrementRegisteredDevices
    rw [← isDevice]
    apply increment_attaches kept settled
    · intro node
      rw [isDevice, isNamed, beq_iff_eq]
      rfl
    · rw [isDevice]
      intro node member same
      have known := (deviceIsRegistered_iff self _).mpr
        ⟨node, member, registered_device kept runs member same⟩
      rw [unregistered] at known
      cases known
    · intro node
      rfl
    · intro node
      rfl
  intro after
  constructor
  · rcases registerDevice_cases self ⟨.ofProcess process.launch, process.identifier, label⟩
      answers profile with same | ⟨unregistered, registered⟩
    · exact congrArg DeviceManager.allocated same
    · exact (congrArg DeviceManager.allocated registered).trans (attaches unregistered).1
  · intro serving accepts
    cases known : self.deviceIsRegistered (.ofProcess process.launch) with
    | false =>
        have accepted := @registerDevice_accepted self
          ⟨.ofProcess process.launch, process.identifier, label⟩ answers profile serving
          accepts known
        rw [show after = _ from congrArg Prod.fst accepted]
        exact (attaches known).2
    | true =>
        have same : after = self := by
          simp [after, registerDevice, serving, known]
        obtain ⟨node, member, reference⟩ := (deviceIsRegistered_iff self _).mp known
        have nodePid := registered_object kept runs member reference
        rw [same]
        unfold AttachedTo
        rw [isDevice]
        exact ⟨node, mem_append_right _ member, node, member, nodePid, nodePid, rfl⟩

theorem service_attaches (runs : process ∈ self.running) (isService : process.kind = .service)
    (complete : process ∉ self.launching) (domain : DomainAnswer) :
    let after := (self.registerService (some (.ofProcess process.launch)) process.label domain).1
    after.allocated = self.allocated ∧
      (self.registeredWithDomain = false ∨ domain = .accepted → AttachedTo self after process) := by
  have settled : process ∈ self.settled process.kind := mem_settled.mpr ⟨runs, rfl, complete⟩
  have isNamed : process.name = process.label := name_of_kind isService
  have attaches : self.serviceIsRegistered process.label = false →
      (self.incrementRegisteredServices (.ofProcess process.launch) process.label).allocated = self.allocated ∧
      AttachedTo self (self.incrementRegisteredServices (.ofProcess process.launch) process.label) process := by
    intro unregistered
    unfold incrementRegisteredServices
    rw [← isService]
    apply increment_attaches kept settled
    · intro node
      rw [isService, isNamed, beq_iff_eq]
      rfl
    · intro node member same
      obtain ⟨other, otherSettled, otherPid, otherName⟩ := process_of_node kept
        (mem_append_right _ member) (same ▸ kept.positive process runs)
      have isProcess := process_eq_of_pid kept (mem_settled.mp otherSettled).1 runs
        (otherPid.trans same)
      rw [isService] at member otherName
      rw [isProcess, isNamed] at otherName
      have known := (serviceIsRegistered_iff self process.label).mpr
        ⟨node, member, otherName.symm⟩
      rw [unregistered] at known
      cases known
    · intro node
      rfl
    · intro node
      rfl
  intro after
  constructor
  · rcases registerService_cases self (.ofProcess process.launch) process.label domain with
      same | ⟨unregistered, registered⟩
    · exact congrArg DeviceManager.allocated same
    · exact (congrArg DeviceManager.allocated registered).trans (attaches unregistered).1
  · intro accepted
    cases known : self.serviceIsRegistered process.label with
    | false =>
        have registered : after = self.incrementRegisteredServices (.ofProcess process.launch) process.label := by
          rcases accepted with offline | accepted
          · simp [after, registerService, known, offline]
          · simp [after, registerService, known, accepted]
        rw [registered]
        exact (attaches known).2
    | true =>
        have same : after = self := by
          simp [after, registerService, known]
        obtain ⟨node, member, labelled⟩ := (serviceIsRegistered_iff self _).mp known
        have nodePid : node.pid = process.pid := by
          rcases kept.attached .service node member with positive | apart
          · obtain ⟨other, otherSettled, otherPid, otherName⟩ := @process_of_node self kept
              .service node (mem_append_right _ member) positive
            obtain ⟨otherRuns, otherKind, _⟩ := mem_settled.mp otherSettled
            have isProcess := kept.names other otherRuns process runs
              (otherKind.trans isService.symm) (otherName.trans (labelled.trans isNamed.symm))
            rw [← otherPid, isProcess]
          · exact absurd labelled.symm (apart process runs isService)
        rw [same]
        unfold AttachedTo
        rw [isService]
        exact ⟨node, mem_append_right _ member, node, member, nodePid, nodePid, rfl⟩

theorem registersWell_of_kept (event : Event) (orderly : Orderly event self) : RegistersWell event self := by
  cases event with
  | registerDevice caller label answers =>
      cases caller with
      | nil => trivial
      | launched launch =>
          rintro process runs rfl isDevice
          have result : step (.registerDevice (.launched process.launch) label answers) self =
              (self.registerDevice (some ⟨.ofProcess process.launch, process.identifier, label⟩) answers).1 := by
            simp [step, kept.alive, find?_running kept runs, isDevice]
          rw [result]
          exact device_attaches kept runs isDevice
            (fun launching => orderly.1 process launching rfl) (orderly.2 process runs rfl) label
            answers
      | other number identifier =>
          intro serving unregistered accepts
          have accepted := @registerDevice_accepted self ⟨.other number, identifier, label⟩
            answers orderly.1 serving accepts unregistered
          refine ⟨by rw [accepted], ?_⟩
          have result : step (.registerDevice (.other number identifier) label answers) self =
              self.incrementRegisteredDevices ⟨.other number, identifier, label⟩ := by
            simp [step, kept.alive, accepted]
          rw [result]
          have absent : (self.lists .device).pending.find?
              (fun node => node.identifier == identifier) = none := by
            rw [find?_eq_none]
            intro node member passes
            obtain ⟨process, runs, isDevice, _, names⟩ := process_of_pending kept member
            rw [name_of_kind isDevice] at names
            have sameName : node.identifier = identifier := by simpa using passes
            exact orderly.2 process runs isDevice (names.trans sameName)
          simp only [incrementRegisteredDevices, increment, absent]
          exact ⟨_, mem_append_right _ (mem_singleton_self _), rfl, rfl⟩
  | registerService caller domain =>
      cases caller with
      | launched launch =>
          rintro process runs rfl isService
          have result : step (.registerService (.launched process.launch) domain) self =
              (self.registerService (some (.ofProcess process.launch)) process.label domain).1
              := by
            simp [step, kept.alive, find?_running kept runs, isService]
          rw [result]
          exact service_attaches kept runs isService
            (fun launching => orderly process launching rfl) domain
      | other number name => trivial
      | nil => trivial
  | _ => trivial

end

/-- In an orderly run every launched process keeps one node, registrations attach to it, and
when all is over no child is waited for; when besides nothing without a process unregisters,
every node has then been deleted once. -/
theorem registry_kept (registeredWithDomain internalShutdown : Bool) (events : List Event) :
    (Along step Orderly (initial registeredWithDomain internalShutdown) events →
      OneNode (run step (initial registeredWithDomain internalShutdown) events) ∧
      (∀ event, Orderly event (run step (initial registeredWithDomain internalShutdown) events) →
        RegistersWell event (run step (initial registeredWithDomain internalShutdown) events)) ∧
      (Over (run step (initial registeredWithDomain internalShutdown) events) →
        (run step (initial registeredWithDomain internalShutdown) events).allChildrenExited = true)) ∧
    (Along step (fun event self => Orderly event self ∧ Freeing event self)
        (initial registeredWithDomain internalShutdown) events →
      Over (run step (initial registeredWithDomain internalShutdown) events) →
      (run step (initial registeredWithDomain internalShutdown) events).freed.Perm
        (range (run step (initial registeredWithDomain internalShutdown) events).allocated))
    := by
  constructor
  · intro along
    have kept : Kept (run step (initial registeredWithDomain internalShutdown) events) := by
      apply invariant_run Kept kept_step _ along
      exact kept_initial registeredWithDomain internalShutdown
    refine ⟨oneNode_of_kept kept, registersWell_of_kept kept, ?_⟩
    intro isOver
    exact (allChildrenExited_of_kept kept isOver).2.2
  · intro along isOver
    have both : Kept (run step (initial registeredWithDomain internalShutdown) events) ∧
        Counted (run step (initial registeredWithDomain internalShutdown) events) := by
      apply invariant_run (fun state => Kept state ∧ Counted state) _ _ along
      · intro event state ⟨kept, counted⟩ ⟨orderly, freeing⟩
        exact ⟨kept_step event state kept orderly, counted_step event state kept counted orderly freeing⟩
      · exact ⟨kept_initial registeredWithDomain internalShutdown, Perm.refl _⟩
    obtain ⟨kept, counted⟩ := both
    obtain ⟨devices, services, _⟩ := allChildrenExited_of_kept kept isOver
    have nothing : (run step (initial registeredWithDomain internalShutdown) events).owned = [] := by
      simp [owned, addresses, NodeLists.nodes, lists, devices, services, isOver.devices, isOver.services]
    unfold Counted at counted
    rw [nothing, nil_append] at counted
    exact counted

instance orderlyDecidable : (event : Event) → (self : DeviceManager) → Decidable (Orderly event self)
  | .deploy _ _, _ => isTrue trivial
  | .fork _ kind identifier label, self => inferInstanceAs (Decidable
      ((∀ process ∈ self.running, process.kind = kind → process.name ≠ processName kind identifier label) ∧
      (kind = .service → ∀ node ∈ self.services.registered, node.label ≠ label)))
  | .addPending _, _ => isTrue trivial
  | .registerDevice (.launched launch) _ _, self => inferInstanceAs (Decidable
      ((∀ process ∈ self.launching, process.launch ≠ launch) ∧
      ∀ process ∈ self.running, process.launch = launch → self.findProfile process.identifier = true))
  | .registerDevice (.other _ identifier) _ _, self => inferInstanceAs (Decidable
      (self.findProfile identifier = true ∧
      ∀ process ∈ self.running, process.kind = .device → process.identifier ≠ identifier))
  | .registerDevice .nil _ _, _ => isTrue trivial
  | .registerService (.launched launch) _, self => inferInstanceAs (Decidable
      (∀ process ∈ self.launching, process.launch ≠ launch))
  | .registerService (.other _ name) _, self => inferInstanceAs (Decidable
      (∀ process ∈ self.running, process.kind = .service → process.label ≠ name))
  | .registerService .nil _, _ => isTrue trivial
  | .unregisterDevice _ _, _ => isTrue trivial
  | .unregisterService _ _, _ => isTrue trivial
  | .childExited pid, self => inferInstanceAs (Decidable (∀ process ∈ self.launching, process.pid ≠ pid))

def deviceLife : List Event :=
  [.deploy 0 "gpp", .fork 7 .device "gpp" "GPP_1", .addPending 0,
    .registerDevice (.launched 0) "GPP_1" ⟨none, none, none, false⟩,
    .unregisterDevice (some (.ofProcess 0)) true, .childExited 7]

theorem deviceLife_ends : (run step (initial true false) deviceLife).allChildrenExited = true :=
  ((registry_kept true false deviceLife).1 (by decide)).2.2
    ⟨by decide, by decide, by decide, by decide⟩

/-- The exit of a child is handled before the parent has added its node: the node is pending for
ever. -/
theorem early_exit_stays_pending : ¬ RegistryKept (initial true false) := by
  intro promise
  have final := (promise [.deploy 0 "gpp", .fork 7 .device "gpp" "GPP_1", .childExited 7,
    .addPending 0]).2.2 ⟨by decide, by decide, by decide, by decide⟩
  cases final.1

end DeviceManager

end Redhawk.Processes
