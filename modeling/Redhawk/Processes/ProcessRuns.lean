import Redhawk.Processes.ProcessSteps

/-!
Registrations attach the object of a launched process to the node of its process, or add a node without
a process; over whole runs every launched process has one node, and in the end everything is freed.
-/

namespace Redhawk.Processes

open Library List

namespace DeviceManager

variable {self : DeviceManager} {node : Node}

theorem process_of_pending (kept : Kept self) {kind : Kind} (member : node ∈ (self.lists kind).pending) :
    ∃ process ∈ self.running, process.kind = kind ∧ process.pid = node.pid ∧ process.name = node.name kind := by
  obtain ⟨process, settled, pids, names⟩ := process_of_node kept
    (mem_append_left _ member) (kept.pendingPids kind node member)
  rw [mem_settled] at settled
  exact ⟨process, settled.1, settled.2.1, pids, names⟩

variable {process : Process}

theorem pending_found (kept : Kept self) (settled : process ∈ self.settled process.kind) (search : Node → Bool)
    (byName : ∀ node, search node = true ↔ node.name process.kind = process.name)
    (unregistered : ∀ node ∈ (self.lists process.kind).registered, node.pid ≠ process.pid) :
    ∃ node, (self.lists process.kind).pending.find? search = some node ∧ node.pid = process.pid := by
  obtain ⟨own, ownMember, ownPid, ownName⟩ := node_of_process kept settled
  have inPending : own ∈ (self.lists process.kind).pending := by
    rcases mem_append.mp ownMember with pending | registered
    · exact pending
    · exact absurd ownPid (unregistered own registered)
  have isFound : ((self.lists process.kind).pending.find? search).isSome := by
    rw [find?_isSome]
    exact ⟨own, inPending, (byName own).mpr ownName⟩
  obtain ⟨node, found⟩ := Option.isSome_iff_exists.mp isFound
  refine ⟨node, found, ?_⟩
  have nodeName := (byName node).mp (find?_some found)
  obtain ⟨other, otherRuns, otherKind, otherPid, otherName⟩ :=
    process_of_pending kept (mem_of_find?_eq_some found)
  have isProcess := kept.names other otherRuns process (mem_settled.mp settled).1 otherKind
    (otherName.trans nodeName)
  rw [← otherPid, isProcess]

theorem registered_device (kept : Kept self)
    (runs : process ∈ self.running) (member : node ∈ self.devices.registered)
    (same : node.pid = process.pid) : node.reference = some (.ofProcess process.launch) := by
  rcases kept.attached .device node member with ⟨other, otherRuns, otherPid, reference⟩ | foreign
  · have isProcess := process_eq_of_pid kept otherRuns runs (otherPid.trans same)
    exact isProcess ▸ reference
  · exact absurd (same.symm.trans foreign.1) (kept.positive process runs)

theorem registered_object (kept : Kept self)
    (runs : process ∈ self.running) (member : node ∈ self.devices.registered)
    (same : node.reference = some (.ofProcess process.launch)) : node.pid = process.pid := by
  rcases kept.attached .device node member with ⟨other, otherRuns, otherPid, reference⟩ | foreign
  · rw [same, Option.some.injEq, Reference.ofProcess.injEq] at reference
    rw [← otherPid, process_eq_of_launch kept otherRuns runs reference.symm]
  · obtain ⟨_, number, reference⟩ := foreign
    rw [same] at reference
    cases reference

theorem deviceIsRegistered_iff (self : DeviceManager) (device : Reference) :
    self.deviceIsRegistered device = true ↔ ∃ node ∈ self.devices.registered, node.reference = some device := by
  simp [deviceIsRegistered]

theorem serviceIsRegistered_iff (self : DeviceManager) (name : String) :
    self.serviceIsRegistered name = true ↔ ∃ node ∈ self.services.registered, node.label = name := by
  simp [serviceIsRegistered]

theorem kept_launched_device (kept : Kept self) (settled : process ∈ self.settled .device)
    (unregistered : self.deviceIsRegistered (.ofProcess process.launch) = false) (label : String) :
    Kept (self.incrementRegisteredDevices ⟨.ofProcess process.launch, process.identifier, label⟩)
    := by
  obtain ⟨runs, isDevice, _⟩ := mem_settled.mp settled
  have isNamed : process.name = process.identifier := name_of_kind isDevice
  apply kept_increment kept
  · intro node
    rfl
  · intro node _
    rfl
  · intro node member passes
    obtain ⟨other, otherRuns, otherKind, otherPid, otherName⟩ := process_of_pending kept member
    have sameName : node.identifier = process.identifier := by simpa using passes
    have isProcess := kept.names other otherRuns process runs (otherKind.trans isDevice.symm)
      (otherName.trans (sameName.trans isNamed.symm))
    subst isProcess
    exact Or.inl ⟨other, otherRuns, otherPid, rfl⟩
  · intro absent
    rw [← isDevice] at settled
    obtain ⟨node, found, _⟩ := pending_found kept settled
      (fun node => node.identifier == process.identifier)
      (by
        intro node
        rw [isDevice, isNamed, beq_iff_eq]
        rfl)
      (by
        rw [isDevice]
        intro node member same
        have known := (deviceIsRegistered_iff self _).mpr
          ⟨node, member, registered_device kept runs member same⟩
        rw [unregistered] at known
        cases known)
    rw [isDevice] at found
    have passes := find?_some found
    rw [absent node (mem_of_find?_eq_some found)] at passes
    cases passes

theorem kept_other_device (kept : Kept self) {number : Nat}
    {identifier : String} (apart : ∀ process ∈ self.running, process.kind = .device →
      process.identifier ≠ identifier) (label : String) :
    Kept (self.incrementRegisteredDevices ⟨.other number, identifier, label⟩) := by
  apply kept_increment kept
  · intro node
    rfl
  · intro node _
    rfl
  · intro node member passes
    obtain ⟨other, otherRuns, otherKind, _, otherName⟩ := process_of_pending kept member
    have sameName : node.identifier = identifier := by simpa using passes
    rw [name_of_kind otherKind] at otherName
    exact absurd (otherName.trans sameName) (apart other otherRuns otherKind)
  · intro _ node noProcess
    exact Or.inr ⟨noProcess, number, rfl⟩

theorem kept_service (kept : Kept self) (service : Reference)
    {name : String} (unregistered : self.serviceIsRegistered name = false)
    (complete : ∀ process ∈ self.running, process.kind = .service → process.label = name →
      process ∉ self.launching) :
    Kept (self.incrementRegisteredServices service name) := by
  apply kept_increment kept
  · intro node
    rfl
  · intro node passes
    have sameName : node.label = name := by simpa using passes
    exact sameName.symm
  · intro node member _
    exact Or.inl (kept.pendingPids .service node member)
  · intro absent node _
    refine Or.inr ?_
    intro process runs isService sameName
    have isNamed : process.name = process.label := name_of_kind isService
    have settled : process ∈ self.settled process.kind :=
      mem_settled.mpr ⟨runs, rfl, complete process runs isService sameName⟩
    obtain ⟨found, result, _⟩ := pending_found kept settled
      (fun node => node.label == name)
      (by
        intro node
        rw [isService, isNamed, beq_iff_eq, show process.label = name from sameName]
        rfl)
      (by
        rw [isService]
        intro node member same
        obtain ⟨other, otherSettled, otherPid, otherName⟩ := process_of_node kept
          (mem_append_right _ member) (same ▸ kept.positive process runs)
        have isProcess := process_eq_of_pid kept (mem_settled.mp otherSettled).1 runs
          (otherPid.trans same)
        have labelled : node.label = name := by
          rw [isProcess, isNamed] at otherName
          exact otherName.symm.trans sameName
        have known := (serviceIsRegistered_iff self name).mpr ⟨node, member, labelled⟩
        rw [unregistered] at known
        cases known)
    rw [isService] at result
    have passes := find?_some result
    rw [absent found (mem_of_find?_eq_some result)] at passes
    cases passes

def Accepts (answers : DeviceAnswers) : Prop :=
  answers.constructRaises = none ∧ answers.startUpRaises = none ∧
    answers.configureRaises = none ∧ answers.nameTaken = false

variable (self : DeviceManager)

theorem registerDevice_cases (device : RegisteringDevice)
    (answers : DeviceAnswers) (found : self.findProfile device.identifier = true) :
    (self.registerDevice (some device) answers).1 = self ∨
      (self.deviceIsRegistered device.reference = false ∧
        (self.registerDevice (some device) answers).1 = self.incrementRegisteredDevices device) := by
  unfold registerDevice
  simp only [found, Bool.true_eq_false, if_false]
  split
  · exact Or.inl rfl
  · split
    · exact Or.inl rfl
    · next unregistered =>
        rw [Bool.not_eq_true] at unregistered
        split
        · exact Or.inl rfl
        · split
          · exact Or.inl rfl
          · exact Or.inr ⟨unregistered, rfl⟩

theorem registerDevice_accepted {self : DeviceManager} {device : RegisteringDevice}
    {answers : DeviceAnswers} (found : self.findProfile device.identifier = true)
    (serving : self.internalShutdown = false) (accepts : Accepts answers)
    (unregistered : self.deviceIsRegistered device.reference = false) :
    self.registerDevice (some device) answers = (self.incrementRegisteredDevices device, .done) := by
  obtain ⟨construct, startUp, configure, name⟩ := accepts
  simp [registerDevice, serving, unregistered, found, construct, startUp, configure, name]

theorem registerService_cases (service : Reference) (name : String) (domain : DomainAnswer) :
    (self.registerService (some service) name domain).1 = self ∨
      (self.serviceIsRegistered name = false ∧
        (self.registerService (some service) name domain).1 = self.incrementRegisteredServices service name) := by
  unfold registerService
  dsimp only
  split
  · exact Or.inl rfl
  · next unregistered =>
      rw [Bool.not_eq_true] at unregistered
      split
      · exact Or.inl rfl
      · split
        · exact Or.inl rfl
        · exact Or.inr ⟨unregistered, rfl⟩

theorem unregisterDevice_cases (device : Option Reference) (answers : Bool) :
    (self.unregisterDevice device answers).1 = self ∨
      ∃ reference, device = some reference ∧ answers = true ∧
        (self.unregisterDevice device answers).1 = (self.decrementRegisteredDevices reference).1 := by
  cases device with
  | none => exact Or.inl rfl
  | some reference =>
      cases answers with
      | false => exact Or.inl rfl
      | true =>
          refine Or.inr ⟨reference, rfl, rfl, ?_⟩
          simp only [unregisterDevice, Bool.true_eq_false, if_false]
          split <;> next result => rw [result]

theorem unregisterService_cases (service : Option Reference) (name : String) :
    (self.unregisterService service name).1 = self ∨
      (service.isSome ∧ (self.unregisterService service name).1 = (self.decrementRegisteredServices name).1) := by
  cases service with
  | none => exact Or.inl rfl
  | some reference =>
      refine Or.inr ⟨rfl, ?_⟩
      unfold unregisterService
      dsimp only
      split
      · next result => rw [result]
      · next result =>
          rw [result]
          split <;> rfl

theorem find?_launch {self : DeviceManager} {launch : Nat} {process : Process}
    (found : (self.running.find? fun process => process.launch == launch) = some process) :
    process ∈ self.running ∧ process.launch = launch :=
  ⟨List.mem_of_find?_eq_some found, by simpa using List.find?_some found⟩

theorem kept_step (event : Event) (self : DeviceManager) (kept : Kept self)
    (orderly : Orderly event self) : Kept (step event self) := by
  unfold step
  rw [if_neg (by simp [kept.alive])]
  cases event with
  | deploy placement identifier => exact kept_deploy kept placement identifier
  | fork pid kind identifier label => exact kept_fork kept orderly
  | addPending launch => exact kept_addPending kept launch
  | registerDevice caller label answers =>
      cases caller with
      | nil => exact kept
      | other number identifier =>
          rcases registerDevice_cases self ⟨.other number, identifier, label⟩ answers orderly.1
            with same | ⟨_, registered⟩
          · simp only [same]
            exact kept
          · simp only [registered]
            exact kept_other_device kept orderly.2 label
      | launched launch =>
          dsimp only
          split
          · next process found =>
              obtain ⟨runs, rfl⟩ := find?_launch found
              split
              · next isDevice =>
                  have profile := orderly.2 process runs rfl
                  rcases registerDevice_cases self
                    ⟨.ofProcess process.launch, process.identifier, label⟩ answers profile with
                    same | ⟨unregistered, registered⟩
                  · rw [same]
                    exact kept
                  · rw [registered]
                    refine kept_launched_device kept ?_ unregistered label
                    exact mem_settled.mpr ⟨runs, isDevice, fun launching => orderly.1 process launching rfl⟩
              · exact kept
          · exact kept
  | registerService caller domain =>
      cases caller with
      | nil => exact kept
      | other number name =>
          rcases registerService_cases self (.other number) name domain with
            same | ⟨unregistered, registered⟩
          · simp only [same]
            exact kept
          · simp only [registered]
            apply kept_service kept _ unregistered
            intro process runs isService sameName
            exact absurd sameName (orderly process runs isService)
      | launched launch =>
          dsimp only
          split
          · next process found =>
              obtain ⟨runs, rfl⟩ := find?_launch found
              split
              · next isService =>
                  rcases registerService_cases self (.ofProcess process.launch) process.label
                    domain with same | ⟨unregistered, registered⟩
                  · rw [same]
                    exact kept
                  · rw [registered]
                    apply kept_service kept _ unregistered
                    intro other otherRuns otherService sameName launching
                    have isProcess := kept.names other otherRuns process runs
                      (otherService.trans isService.symm)
                      ((name_of_kind otherService).trans (sameName.trans (name_of_kind isService).symm))
                    exact orderly other launching (by rw [isProcess])
              · exact kept
          · exact kept
  | unregisterDevice device answers =>
      rcases unregisterDevice_cases self device answers with same | ⟨reference, _, _, done⟩
      · simp only [same]
        exact kept
      · simp only [done]
        exact kept_decrement kept .device _
  | unregisterService service name =>
      rcases unregisterService_cases self service name with same | ⟨_, done⟩
      · simp only [same]
        exact kept
      · simp only [done]
        exact kept_decrement kept .service _
  | childExited pid =>
      dsimp only
      split
      · next known =>
          obtain ⟨process, runs, rfl⟩ := List.mem_map.mp known
          apply kept_childExited kept
          exact mem_settled.mpr ⟨runs, rfl, fun launching => orderly process launching rfl⟩
      · exact kept

theorem kept_initial (registeredWithDomain internalShutdown : Bool) :
    Kept (initial registeredWithDomain internalShutdown) := by
  constructor
  · rfl
  · exact List.nodup_nil
  · intro process member
    cases member
  · exact List.nodup_nil
  · intro process member
    cases member
  · intro process member
    cases member
  · intro first member
    cases member
  · intro kind
    cases kind <;> exact List.Perm.refl _
  · intro kind node member
    cases kind <;> cases member
  · intro kind node member
    cases kind <;> cases member

end DeviceManager

end Redhawk.Processes
