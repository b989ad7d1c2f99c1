import Redhawk.Deployment.PlacementAttempts

/-!
What is left of the implementations that were tried before the one that a component is placed with, and
of the one at which the placement raises.
-/

namespace Redhawk.Deployment

open Redhawk.Library Redhawk.Library.Grants List

section Loop

variable (request : PlacementRequest) (component : Component) (registeredDevices : List DeviceNode)

/-- The loop comes to an implementation: the usesdevices of the component are satisfied, and the
implementations before it fail. -/
structure ComesTo (earlier : List (Implementation × Nat)) (choice : Implementation × Nat) : Prop where
  satisfied : ∃ assignments, usesDevicesEnd request.componentUsesDevices component.softpkg.usesDevice =
    .satisfied assignments
  listed : ∃ later, component.softpkg.implementations.zipIdx = earlier ++ choice :: later
  fail : ∀ other ∈ earlier, (ending request component registeredDevices other).Fails

/-- Before an implementation that is placed none has left dependencies in the deployment, and one that
raises leaves nothing allocated. -/
structure LeavesNothing : Prop where
  placed : ∀ earlier choice node dependencies assignments,
    ComesTo request component registeredDevices earlier choice →
    ending request component registeredDevices choice = .placed node dependencies assignments →
    ∀ other ∈ earlier, ending request component registeredDevices other = .failed []
  raised : ∀ earlier choice leaked, ComesTo request component registeredDevices earlier choice →
    ending request component registeredDevices choice = .raised leaked → leaked = []

end Loop

def componentPurposes (request : PlacementRequest) : List Purpose :=
  request.componentUsesDevices.requestIDs.map (.usesDevice none)

/-- The deployment is that of one implementation, and what is allocated is what was allocated before,
for the component and for that implementation. -/
structure KeepsOnly (request : PlacementRequest) (helper : CreateHelper) (component : Component)
    (after : Placing) (implementation : Implementation) (index : Nat) : Prop where
  offered : component.softpkg.implementations[index]? = some implementation
  selected : after.deployment.implementation = some implementation
  deployed : ∃ node devices capacity,
    requestedDevices request.assignedDeviceId component helper.registeredDevices = .ok devices ∧
    request.devices index = some capacity ∧
    allocateRequest implementation.processorDeps implementation.osDeps component.deviceRequires capacity
      devices = some node ∧
    after.deployment.assignedDevice = some node ∧
    resolveSoftpkgDependencies request.profiles node request.fuel ⟨component.softpkg, implementation⟩ =
      some (.met after.deployment.dependencies)
  usesDevices : ∃ common own,
    usesDevicesEnd request.componentUsesDevices component.softpkg.usesDevice = .satisfied common ∧
    usesDevicesEnd (request.usesDevices index) implementation.usesDevice = .satisfied own ∧
    after.deployment.usesDeviceAssignments = common ++ own
  kept : ∃ kept, after.helper.allocator.held = helper.allocator.held ++ kept ∧
    kept.map Grant.purpose = componentPurposes request ++ implementationPurposes request index ∧
    after.helper.allocations = helper.allocations ++ kept.map Grant.id

/-- A component that is placed keeps only what belongs to the chosen implementation, and one that is not
keeps nothing of any implementation. -/
def EndsClean (request : PlacementRequest) (helper : CreateHelper) (component : Component) :
    PlacementOutcome × Placing → Prop
  | (.placed, after) => ∃ implementation index, KeepsOnly request helper component after implementation index
  | (.failed _, after) => ∀ grant ∈ after.helper.allocator.held,
      grant ∈ helper.allocator.held ∨ ∃ requestID, grant.purpose = .usesDevice none requestID
  | (.unending, _) => True

def OnlyChosenKept (request : PlacementRequest) (helper : CreateHelper) (component : Component) : Prop :=
  EndsClean request helper component
    (allocateComponent request helper (createComponentDeployment component))

section Results

variable {request : PlacementRequest} {component : Component} {registeredDevices : List DeviceNode}
  {choice : Implementation × Nat}

theorem ending_placed {node : DeviceNode} {dependencies : List SoftPkgDeployment}
    {assignments : List UsesDeviceAssignment}
    (placed : ending request component registeredDevices choice = .placed node dependencies assignments) :
    usesDevicesEnd (request.usesDevices choice.2) choice.1.usesDevice = .satisfied assignments ∧
      ∃ devices capacity, requestedDevices request.assignedDeviceId component registeredDevices = .ok devices ∧
        request.devices choice.2 = some capacity ∧
        allocateRequest choice.1.processorDeps choice.1.osDeps component.deviceRequires capacity
          devices = some node ∧
        resolveSoftpkgDependencies request.profiles node request.fuel ⟨component.softpkg, choice.1⟩ =
          some (.met dependencies) := by
  rw [ending] at placed
  split at placed
  · cases placed
  · cases placed
  rename_i own satisfied
  rw [endingDeployed] at placed
  split at placed
  · cases placed
  · cases placed
  rename_i devices capacity listed answer
  split at placed
  · cases placed
  rename_i found allocated
  split at placed
  · cases placed
  rw [endingResolved] at placed
  split at placed
  · cases placed
  · cases placed
  · cases placed
  rename_i trees resolved
  cases placed
  exact ⟨satisfied, devices, capacity, listed, answer, allocated, resolved⟩

theorem ending_raised {leaked : List Purpose}
    (raised : ending request component registeredDevices choice = .raised leaked) :
    ∀ purpose ∈ leaked, ∀ requestID, purpose ≠ .usesDevice none requestID := by
  rw [ending] at raised
  split at raised
  · cases raised
    intro purpose member requestID same
    obtain ⟨other, -, rfl⟩ := mem_map.mp member
    cases same
  · cases raised
  rw [endingDeployed] at raised
  split at raised
  · cases raised
    rintro _ ⟨⟩
  · cases raised
    rintro _ ⟨⟩
  split at raised
  · cases raised
  split at raised
  · cases raised
    intro purpose member requestID same
    rw [mem_singleton.mp member] at same
    cases same
  rw [endingResolved] at raised
  split at raised
  · cases raised
  · cases raised
    rintro _ ⟨⟩
  · cases raised
  · cases raised

end Results

section Condition

variable {request : PlacementRequest} {component : Component} {registeredDevices : List DeviceNode}
  {earlier : List (Implementation × Nat)} {choice : Implementation × Nat}

theorem leavesNothing_of_not_satisfied
    (unsatisfied : ∀ assignments, usesDevicesEnd request.componentUsesDevices
      component.softpkg.usesDevice ≠ .satisfied assignments) :
    LeavesNothing request component registeredDevices where
  placed _ _ _ _ _ comes _ := absurd comes.satisfied fun ⟨assignments, satisfied⟩ =>
    unsatisfied assignments satisfied
  raised _ _ _ comes _ := absurd comes.satisfied fun ⟨assignments, satisfied⟩ =>
    unsatisfied assignments satisfied

theorem leavesNothing_of_fail (fail : ∀ other ∈ component.softpkg.implementations.zipIdx,
      (ending request component registeredDevices other).Fails) :
    LeavesNothing request component registeredDevices where
  placed earlier choice node dependencies assignments comes placed := by
    obtain ⟨later, listed⟩ := comes.listed
    obtain ⟨left, failed⟩ := fail choice (by simp [listed])
    exact nomatch failed.symm.trans placed
  raised earlier choice leaked comes raised := by
    obtain ⟨later, listed⟩ := comes.listed
    obtain ⟨left, failed⟩ := fail choice (by simp [listed])
    exact nomatch failed.symm.trans raised

section

variable (comes : ComesTo request component registeredDevices earlier choice)
  (ends : ¬(ending request component registeredDevices choice).Fails)

include comes ends

theorem ComesTo.unique {others : List (Implementation × Nat)} {other : Implementation × Nat}
    (also : ComesTo request component registeredDevices others other)
    (stops : ¬(ending request component registeredDevices other).Fails) :
    others = earlier ∧ other = choice := by
  obtain ⟨later, listed⟩ := comes.listed
  obtain ⟨rest, split⟩ := also.listed
  exact first_unique (listed.symm.trans split) comes.fail ends also.fail stops

theorem leavesNothing_iff :
    LeavesNothing request component registeredDevices ↔
      match ending request component registeredDevices choice with
      | .placed .. => ∀ other ∈ earlier, ending request component registeredDevices other = .failed []
      | .raised leaked => leaked = []
      | _ => True := by
  constructor
  · intro leaves
    cases ending : ending request component registeredDevices choice with
    | failed left => trivial
    | raised leaked => exact leaves.raised earlier choice leaked comes ending
    | unending => trivial
    | placed node dependencies assignments =>
        exact leaves.placed earlier choice node dependencies assignments comes ending
  · intro holds
    constructor
    · intro others other node dependencies assignments also placed
      obtain ⟨rfl, rfl⟩ := comes.unique ends also (by rw [placed]; exact nofun)
      rwa [placed] at holds
    · intro others other leaked also raised
      obtain ⟨rfl, rfl⟩ := comes.unique ends also (by rw [raised]; exact nofun)
      rwa [raised] at holds

end

end Condition

section Loop

variable {request : PlacementRequest} {first last : Placing} {earlier : List (Implementation × Nat)}

def leftBy (request : PlacementRequest) (first : Placing) (earlier : List (Implementation × Nat)) :
    List SoftPkgDeployment :=
  earlier.flatMap fun other =>
    (ending request first.deployment.toComponent first.helper.registeredDevices other).left

structure FailedSoFar (request : PlacementRequest) (first : Placing)
    (earlier : List (Implementation × Nat)) (state : Placing) : Prop where
  fail : ∀ other ∈ earlier,
    (ending request first.deployment.toComponent first.helper.registeredDevices other).Fails
  trying : Trying first (leftBy request first earlier) [] state

theorem FailedSoFar.concat {choice : Implementation × Nat} {state next : Placing}
    (sofar : FailedSoFar request first earlier state)
    (failed : tryImplementation request choice state = (none, next)) :
    FailedSoFar request first (earlier ++ [choice]) next := by
  have spec := @tryImplementation_spec request first state (leftBy request first earlier) choice
    sofar.trying
  rw [failed] at spec
  cases ends : ending request first.deployment.toComponent first.helper.registeredDevices choice with
  | failed added =>
      rw [ends] at spec
      obtain ⟨after, same, tried⟩ := spec
      cases same
      constructor
      · exact forall_mem_concat.mpr ⟨sofar.fail, ⟨added, ends⟩⟩
      · rw [leftBy, flatMap_append, flatMap_singleton, ends]
        exact tried
  | raised leaked =>
      rw [ends] at spec
      obtain ⟨error, after, extra, same, -⟩ := spec
      exact nomatch same
  | unending =>
      rw [ends] at spec
      obtain ⟨after, same⟩ := spec
      exact nomatch same
  | placed node dependencies assignments =>
      rw [ends] at spec
      obtain ⟨after, same, -⟩ := spec
      exact nomatch same

theorem failedSoFar (fails : Fails (tryImplementation request) earlier first last) :
    FailedSoFar request first earlier last := by
  have begun : FailedSoFar request first [] first := ⟨nofun, Trying.start first⟩
  have step : ∀ (before : List (Implementation × Nat)) choice state next, True →
      FailedSoFar request first before state → tryImplementation request choice state = (none, next) →
      FailedSoFar request first (before ++ [choice]) next :=
    fun before choice state next _ sofar failed => sofar.concat failed
  exact Fails.invariant _ step begun (fun _ _ => trivial) fails

theorem leftBy_eq_nil_iff (fail : ∀ other ∈ earlier,
      (ending request first.deployment.toComponent first.helper.registeredDevices other).Fails) :
    leftBy request first earlier = [] ↔ ∀ other ∈ earlier,
      ending request first.deployment.toComponent first.helper.registeredDevices other = .failed [] := by
  rw [leftBy, flatMap_eq_nil_iff]
  refine forall_congr' fun other => forall_congr' fun member => ?_
  obtain ⟨left, failed⟩ := fail other member
  rw [failed, Ending.left, Ending.failed.injEq]

end Loop

section Start

variable {request : PlacementRequest} {helper : CreateHelper} {component : Component}
  {allocator : Grants Purpose} {owned : List (Grant Purpose)} {common : List UsesDeviceAssignment}
  {last : Placing}

def satisfiedStart (helper : CreateHelper) (component : Component) (allocator : Grants Purpose)
    (owned : List (Grant Purpose)) (common : List UsesDeviceAssignment) : Placing :=
  ⟨{ helper with allocator := allocator, allocations := helper.allocations ++ owned.map Grant.id },
    createComponentDeployment component, common⟩

theorem endsClean_of_common {error : PlacementError}
    (scope : Scope helper.allocator.held last.helper.allocator owned)
    (purposes : ∀ grant ∈ owned, ∃ requestID, grant.purpose = .usesDevice none requestID) :
    EndsClean request helper component (.failed error, last) := by
  intro grant member
  rw [scope.held] at member
  exact (mem_append.mp member).imp_right (purposes grant)

theorem common_purposes {requestIDs : List String}
    (purposes : owned.map Grant.purpose = requestIDs.map (.usesDevice none)) :
    ∀ grant ∈ owned, ∃ requestID, grant.purpose = .usesDevice none requestID := by
  intro grant member
  have purpose : grant.purpose ∈ requestIDs.map (.usesDevice none) :=
    purposes ▸ mem_map_of_mem member
  obtain ⟨requestID, -, same⟩ := mem_map.mp purpose
  exact ⟨requestID, same.symm⟩

theorem raised_iff {error : PlacementError} (scope : Scope helper.allocator.held allocator owned)
    (purposes : owned.map Grant.purpose = componentPurposes request) {extra : List (Grant Purpose)}
    (leaks : Scope allocator.held last.helper.allocator extra)
    (own : ∀ purpose ∈ extra.map Grant.purpose, ∀ requestID, purpose ≠ .usesDevice none requestID) :
    EndsClean request helper component (.failed error, last) ↔ extra.map Grant.purpose = [] := by
  rw [map_eq_nil_iff]
  constructor
  · intro clean
    refine eq_nil_iff_forall_not_mem.mpr fun grant member => ?_
    rcases clean grant (by rw [leaks.held]; exact mem_append_right _ member) with old | ⟨id, same⟩
    · refine leaks.fresh grant ?_ grant member rfl
      rw [scope.held]
      exact mem_append_left _ old
    · exact own _ (mem_map_of_mem member) id same
  · rintro rfl
    have scope := scope.trans leaks
    rw [append_nil] at scope
    exact endsClean_of_common scope (common_purposes purposes)

theorem placed_iff (scope : Scope helper.allocator.held allocator owned)
    (purposes : owned.map Grant.purpose = componentPurposes request)
    (satisfied : usesDevicesEnd request.componentUsesDevices component.softpkg.usesDevice = .satisfied common)
    {left dependencies : List SoftPkgDeployment} {choice : Implementation × Nat} {node : DeviceNode}
    {assignments : List UsesDeviceAssignment}
    (listed : choice ∈ component.softpkg.implementations.zipIdx)
    (placed : ending request component helper.registeredDevices choice = .placed node dependencies assignments)
    (kept : Kept (satisfiedStart helper component allocator owned common) left choice
      (implementationPurposes request choice.2) node dependencies assignments last) :
    EndsClean request helper component (.placed, last) ↔ left = [] := by
  obtain ⟨own, devices, capacity, requested, answer, allocated, resolved⟩ := ending_placed placed
  obtain ⟨extra, held, itsPurposes, allocations⟩ := kept.kept
  constructor
  · rintro ⟨implementation, index, keeps⟩
    have same : implementation = choice.1 :=
      Option.some.inj (keeps.selected.symm.trans kept.implementation)
    obtain ⟨other, -, -, -, -, -, assigned, trees⟩ := keeps.deployed
    obtain rfl : other = node := Option.some.inj (assigned.symm.trans kept.assignedDevice)
    rw [same, resolved, kept.dependencies, Option.some.injEq, Searched.met.injEq] at trees
    have lengths := congrArg length trees
    rw [append_assoc, length_append, length_append] at lengths
    exact length_eq_zero_iff.mp (by omega)
  · rintro rfl
    refine ⟨choice.1, choice.2, mem_zipIdx_iff_getElem?.mp listed, kept.implementation,
      ⟨node, devices, capacity, requested, answer, allocated, kept.assignedDevice, ?_⟩,
      ⟨common, assignments, satisfied, own, kept.assignments⟩, owned ++ extra, ?_, ?_, ?_⟩
    · rw [resolved, kept.dependencies]
      rfl
    · rw [held, satisfiedStart, scope.held, append_assoc]
    · rw [map_append, purposes, itsPurposes]
    · rw [allocations, satisfiedStart, map_append, append_assoc]

theorem tryImplementations_found (first : Placing) {outcome : PlacementOutcome}
    (found : firstOf (tryImplementation request) first.deployment.softpkg.implementations.zipIdx first =
      (some outcome, last)) : tryImplementations request first = (outcome, last) := by
  rw [tryImplementations, found]

theorem tryImplementations_failed (first : Placing)
    (failed : firstOf (tryImplementation request) first.deployment.softpkg.implementations.zipIdx first =
      (none, last)) : ∃ error, tryImplementations request first = (.failed error, last) := by
  rw [tryImplementations, failed]
  exact ⟨_, rfl⟩

theorem endsClean_iff (scope : Scope helper.allocator.held allocator owned)
    (purposes : owned.map Grant.purpose = componentPurposes request)
    (satisfied : usesDevicesEnd request.componentUsesDevices component.softpkg.usesDevice = .satisfied common) :
    EndsClean request helper component
        (tryImplementations request (satisfiedStart helper component allocator owned common)) ↔
      LeavesNothing request component helper.registeredDevices := by
  rcases firstOf_cases (tryImplementation request) component.softpkg.implementations.zipIdx
    (satisfiedStart helper component allocator owned common) with
    ⟨last, fails, result⟩ | ⟨earlier, choice, later, middle, outcome, last, listed, fails, tried, result⟩
  · obtain ⟨fail, trying⟩ := failedSoFar fails
    obtain ⟨error, ended⟩ :=
      tryImplementations_failed (satisfiedStart helper component allocator owned common) result
    refine iff_of_true ?_ (leavesNothing_of_fail fail)
    have scope := scope.trans trying.scope
    rw [append_nil] at scope
    rw [ended]
    exact endsClean_of_common scope (common_purposes purposes)
  · obtain ⟨fail, trying⟩ := failedSoFar fails
    have comes : ComesTo request component helper.registeredDevices earlier choice :=
      ⟨⟨common, satisfied⟩, ⟨later, listed⟩, fail⟩
    have spec := @tryImplementation_spec request _ middle _ choice trying
    rw [tried] at spec
    rw [tryImplementations_found (satisfiedStart helper component allocator owned common) result]
    cases ends : ending request component helper.registeredDevices choice with
    | failed left =>
        obtain ⟨next, same, -⟩ : EndsAs request _ _ choice (some outcome, last) (.failed left) :=
          ends ▸ spec
        exact nomatch same
    | raised leaked =>
        obtain ⟨error, next, extra, same, leaks, left⟩ :
          EndsAs request _ _ choice (some outcome, last) (.raised leaked) := ends ▸ spec
        cases same
        rw [leavesNothing_iff comes (by rw [ends]; exact nofun), ends, ← left]
        exact raised_iff scope purposes leaks (left ▸ ending_raised ends)
    | unending =>
        obtain ⟨next, same⟩ : EndsAs request _ _ choice (some outcome, last) .unending := ends ▸ spec
        cases same
        rw [leavesNothing_iff comes (by rw [ends]; exact nofun), ends]
        exact Iff.rfl
    | placed node dependencies assignments =>
        obtain ⟨next, same, kept⟩ :
          EndsAs request _ _ choice (some outcome, last) (.placed node dependencies assignments) :=
            ends ▸ spec
        cases same
        rw [leavesNothing_iff comes (by rw [ends]; exact nofun), ends]
        exact (placed_iff scope purposes satisfied (by simp [listed]) ends kept).trans
          (leftBy_eq_nil_iff fail)

end Start

def libraryFor (spdFile : String) (processorDeps : List String) : SoftPkg :=
  ⟨spdFile, [⟨"cpp", "lib.so", none, processorDeps, [], [], []⟩], []⟩

def fastOrPlain : Component where
  identifier := "demod_1:wave_1"
  instantiationId := "demod_1"
  softpkg := ⟨"demod.spd.xml",
    [⟨"fast", "demod", none, [], [], [⟨"fft.spd.xml", none⟩, ⟨"simd.spd.xml", none⟩], []⟩,
      ⟨"plain", "demod", none, [], [], [], []⟩], []⟩
  deviceRequires := []

def oneLibraryShort : PlacementRequest where
  assignedDeviceId := ""
  profiles := [libraryFor "fft.spd.xml" [], libraryFor "simd.spd.xml" ["armv7"]]
  fuel := 2
  componentUsesDevices := .answered []
  usesDevices _ := .answered []
  devices _ := some fun _ => true
  nic _ := some none
  allDevicesBusy := false

def oneGpp : CreateHelper :=
  ⟨[⟨"GPP_1", "GPP_1", 0, [], []⟩], [⟨"GPP_1", "GPP_1", 0, [], []⟩], ⟨[], 0, nofun⟩, []⟩

end Redhawk.Deployment
