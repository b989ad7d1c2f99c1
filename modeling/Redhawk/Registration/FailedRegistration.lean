import Redhawk.Registration.DeviceManagers

/-!
What a registration that raises `RegisterError` leaves behind: nothing if it ends before the file
system is mounted, the mount otherwise.
-/

namespace Redhawk.Registration

open Connections FileSystem List Option

structure Unchanged (before after : DomainManager) : Prop where
  deviceManagers : after.registeredDeviceManagers = before.registeredDeviceManagers
  mounts : after.mounts = before.mounts
  connectionsByRequester :
    after.connections.connectionsByRequester = before.connections.connectionsByRequester
  globalConnections : after.connections.globalConnections = before.connections.globalConnections
  stored : after.stored = before.stored

structure DeviceManager.Works (deviceMgr : DeviceManager) : Prop where
  reference : deviceMgr.reference.isSome = true
  answers : ∀ call, deviceMgr.answers call = true
  loaded : deviceMgr.loaded.isSome = true

namespace DomainManager

/-- With the cause removed, what would have been registered before can be registered after. -/
def RetrySucceeds (deviceMgr : DeviceManager) (before after : DomainManager) : Prop :=
  ∀ env (retry : DeviceManager), retry.Works → retry.identifier = deviceMgr.identifier →
    (before.localRegisterDeviceManager env retry).2 = .done →
    (after.localRegisterDeviceManager env retry).2 = .done

def FailsCleanly (env : Environment) (deviceMgr : DeviceManager) (self : DomainManager) : Prop :=
  Unchanged self (self.localRegisterDeviceManager env deviceMgr).1 ∧
    RetrySucceeds deviceMgr self (self.localRegisterDeviceManager env deviceMgr).1

def Mounts (deviceMgr : DeviceManager) (self : DomainManager) : Prop :=
  deviceMgr.answers .labelMount = true ∧ deviceMgr.answers .fileSysMount = true ∧
    ∃ mounts, mount (DeviceManager.mountPoint deviceMgr.label) deviceMgr.fileSys self.mounts = .ok mounts

def StoredBack (env : Environment) (deviceMgr : DeviceManager) (reference : ObjRef)
    (self : DomainManager) : Prop :=
  let archived (nodes : List DeviceManagerNode) : Prop :=
    self.stored.deviceManagers = nodes.map DeviceManagerNode.toDeviceManagerNode
  if env.stores (self.stores + 1) then archived self.registeredDeviceManagers
  else env.stores self.stores = true → archived (self.registeredDeviceManagers ++ [deviceMgr.node reference])

/-- A device manager that is registered and alive refuses the other, or nothing was mounted. -/
def Harmless (env : Environment) (deviceMgr : DeviceManager) (reference : ObjRef) (self : DomainManager) : Prop :=
  match self.findDeviceManagerById deviceMgr.identifier with
  | some node =>
    self.connections.domain.exists_ node.deviceManager = true ∧ deviceMgr.answers .identifierAlive = true
  | none => ¬self.Mounts deviceMgr ∧ self.StoredBack env deviceMgr reference

variable {env : Environment} {deviceMgr : DeviceManager} {reference : ObjRef}
  {self next : DomainManager}

section Lengths

@[simp] theorem store_managers (write : StoredTables → StoredTables) :
    (self.store env write).registeredDeviceManagers = self.registeredDeviceManagers := rfl

theorem removeDeviceManager_length {identifier : String}
    (found : (self.findDeviceManagerById identifier).isSome = true) :
    (self.removeDeviceManager env identifier).registeredDeviceManagers.length + 1 =
      self.registeredDeviceManagers.length := by
  obtain ⟨node, isFirst⟩ := isSome_iff_exists.mp found
  have member := mem_of_find?_eq_some isFirst
  have own := find?_some isFirst
  have erased : (self.registeredDeviceManagers.eraseP fun other =>
      other.identifier == identifier).length = self.registeredDeviceManagers.length - 1 :=
    length_eraseP_of_mem member own
  have positive := length_pos_of_mem member
  simp only [removeDeviceManager, storeDeviceManagers, store_managers, erased]
  omega

theorem foldl_managers {β : Type} {step : DomainManager → β → DomainManager} {items : List β}
    (keeps : ∀ self item, (step self item).registeredDeviceManagers = self.registeredDeviceManagers) :
    (items.foldl step self).registeredDeviceManagers = self.registeredDeviceManagers := by
  induction items generalizing self with
  | nil => rfl
  | cons item rest ih => rw [foldl_cons, ih, keeps]

theorem localUnregisterDeviceManager_length {node : DeviceManagerNode}
    (found : self.findDeviceManagerById node.identifier = some node) :
    (self.localUnregisterDeviceManager env node).registeredDeviceManagers.length + 1 =
      self.registeredDeviceManagers.length := by
  unfold localUnregisterDeviceManager
  have before : ∀ broken : DomainManager, broken.registeredDeviceManagers = self.registeredDeviceManagers →
      (((broken.removeDeviceManagerDevices env node.identifier).removeDeviceManagerServices env
        node.identifier).unmountDeviceMgrFileSys node.label).registeredDeviceManagers =
          self.registeredDeviceManagers := by
    intro broken same
    have devices : (broken.removeDeviceManagerDevices env
        node.identifier).registeredDeviceManagers = broken.registeredDeviceManagers :=
      foldl_managers fun _ _ => rfl
    have services : ∀ other : DomainManager, (other.removeDeviceManagerServices env
        node.identifier).registeredDeviceManagers = other.registeredDeviceManagers :=
      fun other => foldl_managers fun _ _ => rfl
    exact (services _).trans (devices.trans same)
  have same := before (storeConnections env { self with
    connections := deviceManagerUnregistered env.objects node.label self.connections }) rfl
  rw [removeDeviceManager_length, same]
  unfold findDeviceManagerById at found ⊢
  rw [same, found]
  rfl

end Lengths

section Failures

def MountedFor (deviceMgr : DeviceManager) (before after : List (MountPoint ObjRef)) : Prop :=
  ∃ fs, after = before ++ [⟨normalizeMountPath (DeviceManager.mountPoint deviceMgr.label), fs⟩]

theorem mountDeviceMgrFileSys_cases (deviceMgr : DeviceManager) (self : DomainManager) :
    (¬self.Mounts deviceMgr ∧ self.mountDeviceMgrFileSys deviceMgr = none) ∨
      (self.Mounts deviceMgr ∧ ∃ mounts, MountedFor deviceMgr self.mounts mounts ∧
        self.mountDeviceMgrFileSys deviceMgr = some { self with mounts := mounts }) := by
  unfold mountDeviceMgrFileSys
  by_cases answers : deviceMgr.answers .labelMount = true ∧ deviceMgr.answers .fileSysMount = true
  · rw [answers.1, answers.2]
    cases mounted : mount (DeviceManager.mountPoint deviceMgr.label) deviceMgr.fileSys self.mounts with
    | error error =>
        refine .inl ⟨?_, rfl⟩
        rintro ⟨_, _, mounts, done⟩
        rw [mounted] at done
        cases done
    | ok mounts =>
        obtain ⟨fs, -, rfl, -⟩ := mount_ok mounted
        exact .inr ⟨⟨answers.1, answers.2, _, mounted⟩, _, ⟨fs, rfl⟩, rfl⟩
  · have refused : (!deviceMgr.answers .labelMount || !deviceMgr.answers .fileSysMount) = true := by
      rw [not_and_or] at answers
      simpa using answers
    rw [refused]
    refine .inl ⟨?_, rfl⟩
    rintro ⟨label, fileSys, _⟩
    exact answers ⟨label, fileSys⟩

theorem mountAndConnect_failed (failed : (self.mountAndConnect env deviceMgr).1 = false) :
    (¬self.Mounts deviceMgr ∧ (self.mountAndConnect env deviceMgr).2 = self) ∨
      (self.Mounts deviceMgr ∧ ∃ mounts, MountedFor deviceMgr self.mounts mounts ∧
        (self.mountAndConnect env deviceMgr).2 = { self with mounts := mounts }) := by
  unfold mountAndConnect at failed ⊢
  rcases mountDeviceMgrFileSys_cases deviceMgr self with
    ⟨fails, none⟩ | ⟨succeeds, mounts, added, mounted⟩
  · rw [none]
    exact .inl ⟨fails, rfl⟩
  · rw [mounted] at failed ⊢
    dsimp only at failed ⊢
    cases read : loadDcd deviceMgr { self with mounts := mounts } with
    | none => exact .inr ⟨succeeds, mounts, added, rfl⟩
    | some loaded =>
        rw [read] at failed
        cases failed

theorem loadDcd_works (works : deviceMgr.Works) (self : DomainManager) :
    (self.loadDcd deviceMgr).isSome = true := by
  unfold loadDcd
  rw [works.answers, works.answers, if_neg (by decide)]
  cases self.findDeviceManagerById deviceMgr.identifier with
  | none => rw [isSome_map, works.loaded]
  | some node =>
      dsimp only
      cases node.dcd with
      | none => rw [isSome_map, works.loaded]
      | some dcd => rfl

theorem mountAndConnect_works (works : deviceMgr.Works) :
    (self.mountAndConnect env deviceMgr).1 = true ↔ self.Mounts deviceMgr := by
  unfold mountAndConnect
  rcases mountDeviceMgrFileSys_cases deviceMgr self with
    ⟨fails, none⟩ | ⟨succeeds, mounts, -, mounted⟩
  · rw [none]
    exact ⟨(nomatch ·), fun mounts => absurd mounts fails⟩
  · obtain ⟨⟨dcd, loaded⟩, read⟩ := isSome_iff_exists.mp
      (loadDcd_works works { self with mounts := mounts })
    rw [mounted]
    dsimp only
    rw [read]
    exact ⟨fun _ => succeeds, fun _ => rfl⟩

theorem registerNew_raised (raised : (self.registerNew env deviceMgr reference).2 = .registerError) :
    ∃ added next, self.addDeviceMgr env deviceMgr reference = some added ∧
      ((¬added.Mounts deviceMgr ∧ next = added) ∨
        (added.Mounts deviceMgr ∧ ∃ mounts, MountedFor deviceMgr added.mounts mounts ∧
          next = { added with mounts := mounts })) ∧
      (next.findDeviceManagerById deviceMgr.identifier).isSome = true ∧
      (self.registerNew env deviceMgr reference).1 =
        next.removeDeviceManager env deviceMgr.identifier := by
  unfold registerNew at raised ⊢
  cases adds : self.addDeviceMgr env deviceMgr reference with
  | none =>
      rw [adds] at raised
      cases raised
  | some added =>
      rw [adds] at raised
      dsimp only at raised ⊢
      have failures := @mountAndConnect_failed env deviceMgr added
      generalize added.mountAndConnect env deviceMgr = result at raised failures ⊢
      obtain ⟨succeeded, next⟩ := result
      cases succeeded with
      | true => cases raised
      | false =>
          dsimp only at raised ⊢
          by_cases found : (next.findDeviceManagerById deviceMgr.identifier).isSome = true
          · rw [if_pos found]
            exact ⟨added, next, rfl, failures rfl, found, rfl⟩
          · rw [if_neg found] at raised
            cases raised

theorem addDeviceMgr_cases {added : DomainManager}
    (adds : self.addDeviceMgr env deviceMgr reference = some added) :
    added = self ∨ added = storeDeviceManagers env { self with
      registeredDeviceManagers := self.registeredDeviceManagers ++ [deviceMgr.node reference] } := by
  unfold addDeviceMgr at adds
  split_ifs at adds
  · exact .inl (some.inj adds).symm
  · exact .inr (some.inj adds).symm

theorem registerNew_length (raised : (self.registerNew env deviceMgr reference).2 = .registerError) :
    (self.registerNew env deviceMgr reference).1.registeredDeviceManagers.length ≤
      self.registeredDeviceManagers.length := by
  obtain ⟨added, next, adds, failed, found, after⟩ := registerNew_raised raised
  have removed := @removeDeviceManager_length env next _ found
  have same : next.registeredDeviceManagers = added.registeredDeviceManagers := by
    rcases failed with ⟨_, rfl⟩ | ⟨_, mounts, _, rfl⟩
    · rfl
    · rfl
  have grown : added.registeredDeviceManagers.length ≤ self.registeredDeviceManagers.length + 1 := by
    rcases addDeviceMgr_cases adds with rfl | rfl
    · omega
    · simp [storeDeviceManagers]
  rw [after]
  rw [same] at removed
  omega

theorem registerNew_unknown (unknown : self.findDeviceManagerById deviceMgr.identifier = none)
    (raised : (self.registerNew env deviceMgr reference).2 = .registerError) :
    ∃ mounts,
      ((¬self.Mounts deviceMgr ∧ mounts = self.mounts) ∨
        (self.Mounts deviceMgr ∧ MountedFor deviceMgr self.mounts mounts)) ∧
      (self.registerNew env deviceMgr reference).1 =
        { (({ self with registeredDeviceManagers := self.registeredDeviceManagers ++
              [deviceMgr.node reference] } : DomainManager).storeDeviceManagers env |>.store env
            fun stored => { stored with
              deviceManagers :=
                self.registeredDeviceManagers.map DeviceManagerNode.toDeviceManagerNode }) with
          registeredDeviceManagers := self.registeredDeviceManagers
          mounts := mounts } := by
  obtain ⟨added, next, adds, failed, found, after⟩ := registerNew_raised raised
  rcases addDeviceMgr_cases adds with rfl | rfl
  · -- Nothing was added, and then there is nothing to find.
    have absent : next.findDeviceManagerById deviceMgr.identifier = none := by
      rcases failed with ⟨_, rfl⟩ | ⟨_, mounts, _, rfl⟩
      · exact unknown
      · exact unknown
    rw [absent] at found
    cases found
  · have others : ∀ node ∈ self.registeredDeviceManagers, ¬(node.identifier == deviceMgr.identifier) = true := by
      intro node member same
      exact find?_eq_none.mp unknown node member same
    have erased : (self.registeredDeviceManagers ++ [deviceMgr.node reference]).eraseP
        (fun node => node.identifier == deviceMgr.identifier) = self.registeredDeviceManagers := by
      rw [eraseP_append_right _ others]
      simp [DeviceManager.node]
    refine ⟨next.mounts, ?_, ?_⟩
    · rcases failed with ⟨fails, rfl⟩ | ⟨succeeds, mounts, added, rfl⟩
      · exact .inl ⟨fails, rfl⟩
      · exact .inr ⟨succeeds, added⟩
    · rw [after]
      rcases failed with ⟨fails, rfl⟩ | ⟨succeeds, mounts, _, rfl⟩
      · simp only [removeDeviceManager, storeDeviceManagers, store, erased]
      · simp only [removeDeviceManager, storeDeviceManagers, store, erased]

end Failures

section Retries

theorem registration_works (works : deviceMgr.Works)
    (unknown : self.findDeviceManagerById deviceMgr.identifier = none) :
    (self.localRegisterDeviceManager env deviceMgr).2 = .done ↔ self.Mounts deviceMgr := by
  obtain ⟨reference, referenced⟩ := isSome_iff_exists.mp works.reference
  let added := storeDeviceManagers env { self with
    registeredDeviceManagers := self.registeredDeviceManagers ++ [deviceMgr.node reference] }
  have adds : self.addDeviceMgr env deviceMgr reference = some added := by
    unfold addDeviceMgr deviceMgrIsRegistered
    rw [works.answers, works.answers, works.answers, unknown]
    rfl
  have connects : (added.mountAndConnect env deviceMgr).1 = true ↔ self.Mounts deviceMgr :=
    mountAndConnect_works works
  unfold localRegisterDeviceManager
  rw [referenced]
  rw [works.answers, unknown]
  dsimp only [Bool.not_true, Bool.false_eq_true, if_false]
  rw [if_neg (by simp), registerNew, adds, ← connects]
  dsimp only
  generalize added.mountAndConnect env deviceMgr = result
  obtain ⟨succeeded, next⟩ := result
  cases succeeded with
  | true => exact ⟨fun _ => rfl, fun _ => rfl⟩
  | false =>
      dsimp only
      split_ifs
      · exact ⟨(nomatch ·), (nomatch ·)⟩
      · exact ⟨(nomatch ·), (nomatch ·)⟩

theorem retrySucceeds_of_same {after : DomainManager}
    (managers : after.registeredDeviceManagers = self.registeredDeviceManagers)
    (mounts : after.mounts = self.mounts)
    (unknown : self.findDeviceManagerById deviceMgr.identifier = none) :
    RetrySucceeds deviceMgr self after := by
  intro env retry works same done
  have unknownBefore : self.findDeviceManagerById retry.identifier = none := same ▸ unknown
  have unknownAfter : after.findDeviceManagerById retry.identifier = none := by
    rw [findDeviceManagerById, managers]
    exact unknownBefore
  obtain ⟨label, fileSys, possible⟩ := (registration_works works unknownBefore).mp done
  rw [← mounts] at possible
  exact (registration_works works unknownAfter).mpr ⟨label, fileSys, possible⟩

end Retries

section Stored

variable {nodes more : List Persistence.DeviceManagerNode}

theorem storedBack_iff (self : DomainManager) (env : Environment) :
    ((self.store env fun stored => { stored with deviceManagers := more }).store env
        fun stored => { stored with deviceManagers := nodes }).stored = self.stored ↔
      if env.stores (self.stores + 1) then self.stored.deviceManagers = nodes
      else env.stores self.stores = true → self.stored.deviceManagers = more := by
  have same : ∀ (tables : StoredTables) (written : List Persistence.DeviceManagerNode),
      { tables with deviceManagers := written } = tables ↔ tables.deviceManagers = written := by
    intro tables written
    constructor
    · intro equal
      rw [← equal]
    · rintro rfl
      rfl
  simp only [store]
  by_cases second : env.stores (self.stores + 1) = true
  · rw [if_pos second, if_pos second, ← same]
    split_ifs
    · rfl
    · rfl
  · rw [if_neg second, if_neg second]
    by_cases first : env.stores self.stores = true
    · rw [if_pos first, same]
      exact ⟨fun equal _ => equal, fun equal => equal first⟩
    · rw [if_neg first]
      exact ⟨fun _ stored => absurd stored first, fun _ => rfl⟩

end Stored

section Cases

theorem localRegisterDeviceManager_answered (referenced : deviceMgr.reference = some reference)
    (raised : (self.localRegisterDeviceManager env deviceMgr).2 = .registerError) :
    self.localRegisterDeviceManager env deviceMgr =
      match self.findDeviceManagerById deviceMgr.identifier with
      | none => self.registerNew env deviceMgr reference
      | some node =>
        if self.connections.domain.exists_ node.deviceManager &&
            deviceMgr.answers .identifierAlive then (self, .registerError)
        else (self.localUnregisterDeviceManager env node).registerNew env deviceMgr reference := by
  unfold localRegisterDeviceManager at raised ⊢
  rw [referenced] at raised ⊢
  by_cases answered : deviceMgr.answers .identifier = true
  · rw [answered]
    rfl
  · rw [Bool.not_eq_true] at answered
    rw [answered] at raised
    cases raised

theorem dead_length {node : DeviceManagerNode} (referenced : deviceMgr.reference = some reference)
    (raised : (self.localRegisterDeviceManager env deviceMgr).2 = .registerError)
    (known : self.findDeviceManagerById deviceMgr.identifier = some node)
    (dead : ¬(self.connections.domain.exists_ node.deviceManager = true ∧
      deviceMgr.answers .identifierAlive = true)) :
    (self.localRegisterDeviceManager env deviceMgr).1.registeredDeviceManagers.length <
      self.registeredDeviceManagers.length := by
  have own : node.identifier = deviceMgr.identifier := by
    have same := find?_some known
    exact beq_iff_eq.mp same
  have registers := localRegisterDeviceManager_answered referenced raised
  rw [← Bool.and_eq_true] at dead
  rw [known] at registers
  dsimp only at registers
  rw [if_neg dead] at registers
  rw [registers] at raised ⊢
  rw [← own] at known
  have cleaned := @localUnregisterDeviceManager_length env self node known
  have registered := registerNew_length raised
  omega

theorem not_unchanged_of_mounted {after : DomainManager}
    (mounted : MountedFor deviceMgr self.mounts after.mounts) : ¬Unchanged self after := by
  intro unchanged
  obtain ⟨fs, mounts⟩ := mounted
  have lengths := congrArg length (mounts.symm.trans unchanged.mounts)
  simp at lengths

section

variable (referenced : deviceMgr.reference = some reference)
  (raised : (self.localRegisterDeviceManager env deviceMgr).2 = .registerError)
  (unknown : self.findDeviceManagerById deviceMgr.identifier = none)

include referenced raised unknown

theorem unknown_iff :
    self.FailsCleanly env deviceMgr ↔ ¬self.Mounts deviceMgr ∧ self.StoredBack env deviceMgr reference := by
  unfold FailsCleanly
  have registers := localRegisterDeviceManager_answered referenced raised
  rw [unknown] at registers
  rw [registers] at raised ⊢
  obtain ⟨mounts, alternatives, after⟩ := registerNew_unknown unknown raised
  have stored := @storedBack_iff
    (self.registeredDeviceManagers.map DeviceManagerNode.toDeviceManagerNode)
    ((self.registeredDeviceManagers ++ [deviceMgr.node reference]).map DeviceManagerNode.toDeviceManagerNode)
    { self with registeredDeviceManagers :=
        self.registeredDeviceManagers ++ [deviceMgr.node reference] } env
  rw [after]
  rcases alternatives with ⟨fails, rfl⟩ | ⟨succeeds, mounted⟩
  · constructor
    · rintro ⟨unchanged, -⟩
      exact ⟨fails, stored.mp unchanged.stored⟩
    · rintro ⟨-, back⟩
      exact ⟨⟨rfl, rfl, rfl, rfl, stored.mpr back⟩, retrySucceeds_of_same rfl rfl unknown⟩
  · constructor
    · rintro ⟨unchanged, -⟩
      exact absurd unchanged (not_unchanged_of_mounted mounted)
    · rintro ⟨fails, -⟩
      exact absurd succeeds fails

end

end Cases

/-- The registration changes nothing exactly when it is refused at once, or fails before the mount
with the database as it should be. -/
theorem failed_registration_iff (referenced : deviceMgr.reference = some reference)
    (raised : (self.localRegisterDeviceManager env deviceMgr).2 = .registerError) :
    self.FailsCleanly env deviceMgr ↔ self.Harmless env deviceMgr reference := by
  unfold Harmless
  cases known : self.findDeviceManagerById deviceMgr.identifier with
  | none => exact unknown_iff referenced raised known
  | some node =>
      constructor
      · intro clean
        by_contra dead
        have shorter := dead_length referenced raised known dead
        rw [clean.1.deviceManagers] at shorter
        exact lt_irrefl _ shorter
      · intro alive
        have refused : (self.localRegisterDeviceManager env deviceMgr).1 = self := by
          rw [localRegisterDeviceManager_answered referenced raised, known]
          dsimp only
          rw [alive.1, alive.2]
          rfl
        unfold FailsCleanly
        rw [refused]
        exact ⟨⟨rfl, rfl, rfl, rfl, rfl⟩, fun _ _ _ _ done => done⟩

def quietEnvironment : Environment where
  objects :=
    { isPort := fun _ => true, isPortSupplier := fun _ => true, getPort := fun _ _ => some none
      connectPort := fun _ _ _ => none, isA := fun _ _ => false, channel := fun _ => none
      fileManager := 0, domainManager := 0 }
  stores _ := true
  uuid _ := "DCE:1"
  releaseApplications _ connections := connections

def emptyDomain : DomainManager where
  registeredDeviceManagers := []
  registeredDevices := []
  registeredServices := []
  mounts := []
  connections :=
    { domain :=
        { devices := [], services := [], applications := [], otherComponents := fun _ => none
          names := fun _ => none, channelNames := [], eventChannels := [], exists_ := fun _ => true
          portCalls := [] }
      connectionsByRequester := []
      globalConnections := [] }
  stored := { deviceManagers := [], devices := [], services := [], connections := [] }
  stores := 0

def node1 (fileSys : Option ObjRef) (dcd : Option DeviceManagerConfiguration) : DeviceManager where
  reference := some 7
  identifier := "DCE:7"
  label := "node1"
  fileSys := fileSys
  answers _ := true
  preloaded := dcd
  loaded := dcd

theorem failed_registration_nil_fileSys :
    emptyDomain.FailsCleanly quietEnvironment (node1 none (some ⟨"node1", []⟩)) := by
  apply (failed_registration_iff rfl rfl).mpr
  refine ⟨?_, rfl⟩
  rintro ⟨_, _, mounts, done⟩
  cases done

theorem unreadable_dcd_leaves_mount :
    (emptyDomain.localRegisterDeviceManager quietEnvironment (node1 (some 8) none)).2 = .registerError ∧
      ¬emptyDomain.FailsCleanly quietEnvironment (node1 (some 8) none) ∧
      ((emptyDomain.localRegisterDeviceManager quietEnvironment (node1 (some 8) none)).1
        |>.localRegisterDeviceManager quietEnvironment (node1 (some 8) (some ⟨"node1", []⟩))).2 =
        .registerError := by
  refine ⟨rfl, ?_, rfl⟩
  rintro ⟨unchanged, -⟩
  have mounts := unchanged.mounts
  cases mounts

end DomainManager

end Redhawk.Registration
