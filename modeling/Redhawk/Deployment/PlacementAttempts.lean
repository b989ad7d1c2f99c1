import Redhawk.Deployment.ComponentPlacement

/-!
What the attempt with one implementation does to the deployment and to what is allocated, by how it ends.
-/

namespace Redhawk.Deployment

open Redhawk.Library Redhawk.Library.Grants AllocationResponse List

def UsesDeviceAnswer.requestIDs : UsesDeviceAnswer → List String
  | .raised granted => granted
  | .answered responses => responses.map requestID

/-- How a request for usesdevices ends, with those that stay allocated where it raises. -/
inductive UsesDevicesEnd
  | raised (leaked : List String)
  | unsatisfied
  | satisfied (assignments : List UsesDeviceAssignment)

def usesDevicesEnd (answer : UsesDeviceAnswer) (usesDevices : List UsesDevice) : UsesDevicesEnd :=
  match answer with
  | .raised granted => .raised granted
  | .answered responses =>
    let reconciled := reconcile (usesDeviceMap usesDevices) responses
    if reconciled.raised then
      .raised ((responses.drop reconciled.recorded).map requestID)
    else if reconciled.unassigned.isEmpty then .satisfied reconciled.assignments
    else .unsatisfied

theorem recorded_eq {map : List UsesDevice} {responses : List AllocationResponse}
    (answered : (reconcile map responses).raised = false) :
    (reconcile map responses).recorded = responses.length := by
  induction responses generalizing map with
  | nil => rfl
  | cons response rest ih =>
      rw [reconcile, length_cons] at *
      split at answered
      · exact congrArg (· + 1) (ih answered)
      · split at answered
        · rename_i answers
          rw [if_pos answers]
          exact congrArg (· + 1) (ih answered)
        · exact nomatch answered

theorem revoke_recorded (allocator : Grants Purpose) (purposes : List Purpose) (recorded : Nat) :
    ∃ extra, Scope allocator.held
        ((allocator.grant purposes).revoke ((allocator.ids purposes).take recorded)) extra ∧
      extra.map Grant.purpose = purposes.drop recorded := by
  have parts := numbered_append allocator.next (purposes.take recorded) (purposes.drop recorded)
  rw [take_append_drop] at parts
  have held : (allocator.grant purposes).held = allocator.held ++
      numbered allocator.next (purposes.take recorded) ++
      numbered (allocator.next + (purposes.take recorded).length) (purposes.drop recorded) := by
    rw [held_grant, parts, append_assoc]
  have ids : (allocator.ids purposes).take recorded =
      (numbered allocator.next (purposes.take recorded)).map Grant.id := by
    rw [Grants.ids, ← map_take, numbered_take]
  refine ⟨numbered (allocator.next + (purposes.take recorded).length) (purposes.drop recorded),
    ⟨?_, fun old older mine member => ?_⟩, numbered_purposes _ _⟩
  · rw [ids]
    refine held_revoke_of held fun other member mine own => ?_
    have bounds := numbered_bounds own
    rcases mem_append.mp member with old | later
    · have below := allocator.known other old
      omega
    · have above := (numbered_bounds later).1
      omega
  · have below := allocator.known old older
    have above := (numbered_bounds member).1
    omega

def AllocatesAs (purpose : String → Purpose) (answer : UsesDeviceAnswer) (allocator : Grants Purpose)
    (result : UsesDevices × Grants Purpose) : UsesDevicesEnd → Prop
  | .raised leaked => ∃ after extra, result = (.raised, after) ∧ Scope allocator.held after extra ∧
      extra.map Grant.purpose = leaked.map purpose
  | .unsatisfied => ∃ assignments after, result = (.unsatisfied assignments, after) ∧ after.held = allocator.held
  | .satisfied assignments => ∃ after owned, result = (.satisfied assignments (owned.map Grant.id), after) ∧
      Scope allocator.held after owned ∧ owned.map Grant.purpose = answer.requestIDs.map purpose

theorem allocateUsesDevices_spec (purpose : String → Purpose) (answer : UsesDeviceAnswer)
    (usesDevices : List UsesDevice) (allocator : Grants Purpose) :
    AllocatesAs purpose answer allocator
      (allocateUsesDevices purpose answer usesDevices allocator)
      (usesDevicesEnd answer usesDevices) := by
  cases answer with
  | raised granted =>
      have scope := Scope.grant allocator (granted.map purpose)
      exact ⟨_, _, rfl, scope, numbered_purposes _ _⟩
  | answered responses =>
      have requested : (responses.map fun response => purpose response.requestID) =
          (responses.map requestID).map purpose := (map_map ..).symm
      have scope := Scope.grant allocator
        ((responses.map requestID).map purpose)
      simp only [usesDevicesEnd, allocateUsesDevices, requested]
      cases ends : (reconcile (usesDeviceMap usesDevices) responses).raised with
      | true =>
          obtain ⟨extra, kept, purposes⟩ := revoke_recorded allocator
            ((responses.map requestID).map purpose)
            (reconcile (usesDeviceMap usesDevices) responses).recorded
          exact ⟨_, extra, rfl, kept, by rw [purposes, map_drop, map_drop]⟩
      | false =>
          have all : (allocator.ids ((responses.map requestID).map purpose)).take
              (reconcile (usesDeviceMap usesDevices) responses).recorded =
              (numbered allocator.next
                ((responses.map requestID).map purpose)).map Grant.id := by
            rw [Grants.ids, ← map_take, numbered_take, recorded_eq ends, take_of_length_le]
            simp
          simp only [all]
          cases (reconcile (usesDeviceMap usesDevices) responses).unassigned.isEmpty with
          | true => exact ⟨_, _, rfl, scope, numbered_purposes _ _⟩
          | false => exact ⟨_, _, rfl, scope.revoke⟩

/-- How the attempt with one implementation ends: with the dependencies that were added for it where the
loop goes on, with what stays allocated where it raises. -/
inductive Ending
  | failed (left : List SoftPkgDeployment)
  | raised (leaked : List Purpose)
  | unending
  | placed (node : DeviceNode) (dependencies : List SoftPkgDeployment)
      (assignments : List UsesDeviceAssignment)

section Ending

variable (request : PlacementRequest) (component : Component)

def endingResolved (choice : Implementation × Nat) (node : DeviceNode)
    (assignments : List UsesDeviceAssignment) : Ending :=
  match resolveSoftpkgDependencies request.profiles node request.fuel ⟨component.softpkg, choice.1⟩ with
  | none => .unending
  | some (.raised _) => .raised []
  | some (.missed left) => .failed left
  | some (.met dependencies) => .placed node dependencies assignments

variable (registeredDevices : List DeviceNode)

def endingDeployed (choice : Implementation × Nat) (assignments : List UsesDeviceAssignment) : Ending :=
  match requestedDevices request.assignedDeviceId component registeredDevices,
    request.devices choice.2 with
  | .error _, _ => .raised []
  | .ok _, none => .raised []
  | .ok devices, some capacity =>
    match allocateRequest choice.1.processorDeps choice.1.osDeps component.deviceRequires capacity
      devices with
    | none => .failed []
    | some node =>
      match request.nic choice.2 with
      | none => .raised [.deployment choice.2]
      | some _ => endingResolved request component choice node assignments

def ending (choice : Implementation × Nat) : Ending :=
  match usesDevicesEnd (request.usesDevices choice.2) choice.1.usesDevice with
  | .raised leaked => .raised (leaked.map (.usesDevice (some choice.2)))
  | .unsatisfied => .failed []
  | .satisfied assignments => endingDeployed request component registeredDevices choice assignments

end Ending

/-- The state of the loop: what is allocated for the implementation that is being tried, and what those
before it have left in the deployment. -/
structure Trying (start : Placing) (left : List SoftPkgDeployment) (owned : List (Grant Purpose))
    (state : Placing) : Prop where
  scope : Scope start.helper.allocator.held state.helper.allocator owned
  allocations : state.helper.allocations = start.helper.allocations
  registered : state.helper.registeredDevices = start.helper.registeredDevices
  component : state.deployment.toComponent = start.deployment.toComponent
  dependencies : state.deployment.dependencies = start.deployment.dependencies ++ left
  assignments : state.deployment.usesDeviceAssignments ++ state.assignedDevices =
    start.deployment.usesDeviceAssignments ++ start.assignedDevices

def Ending.left : Ending → List SoftPkgDeployment
  | .failed left => left
  | _ => []

def Ending.Fails (ends : Ending) : Prop :=
  ∃ left, ends = .failed left

structure Kept (start : Placing) (left : List SoftPkgDeployment) (choice : Implementation × Nat)
    (purposes : List Purpose) (node : DeviceNode) (dependencies : List SoftPkgDeployment)
    (assignments : List UsesDeviceAssignment) (last : Placing) : Prop where
  implementation : last.deployment.implementation = some choice.1
  assignedDevice : last.deployment.assignedDevice = some node
  dependencies : last.deployment.dependencies = start.deployment.dependencies ++ left ++ dependencies
  assignments : last.deployment.usesDeviceAssignments =
    start.deployment.usesDeviceAssignments ++ start.assignedDevices ++ assignments
  kept : ∃ owned, last.helper.allocator.held = start.helper.allocator.held ++ owned ∧
    owned.map Grant.purpose = purposes ∧
    last.helper.allocations = start.helper.allocations ++ owned.map Grant.id

def implementationPurposes (request : PlacementRequest) (index : Nat) : List Purpose :=
  (request.usesDevices index).requestIDs.map (.usesDevice (some index)) ++ [.deployment index]

def EndsAs (request : PlacementRequest) (start : Placing) (left : List SoftPkgDeployment)
    (choice : Implementation × Nat) (result : Option PlacementOutcome × Placing) : Ending → Prop
  | .failed added => ∃ next, result = (none, next) ∧ Trying start (left ++ added) [] next
  | .raised leaked => ∃ error last extra, result = (some (.failed error), last) ∧
      Scope start.helper.allocator.held last.helper.allocator extra ∧
      extra.map Grant.purpose = leaked
  | .unending => ∃ last, result = (some .unending, last)
  | .placed node dependencies assignments => ∃ last, result = (some .placed, last) ∧
      Kept start left choice (implementationPurposes request choice.2) node dependencies assignments
        last

section Attempt

variable {request : PlacementRequest} {first state : Placing} {left : List SoftPkgDeployment}
  {choice : Implementation × Nat} {owned : List (Grant Purpose)}

theorem Trying.start (first : Placing) : Trying first [] [] first :=
  ⟨scope_nil.mpr rfl, rfl, rfl, rfl, (append_nil _).symm, rfl⟩

section

variable (trying : Trying first left owned state)
include trying

theorem Trying.withAllocator {allocator : Grants Purpose}
    {extra : List (Grant Purpose)} (scope : Scope state.helper.allocator.held allocator extra) :
    Trying first left (owned ++ extra) (state.withAllocator allocator) :=
  { trying with scope := trying.scope.trans scope }

theorem Trying.release : Trying first left [] (state.release (owned.map Grant.id)) :=
  { trying with scope := scope_nil.mpr trying.scope.revoke }

theorem Trying.setImplementation (implementation : Implementation) :
    Trying first left owned (state.setImplementation implementation).transferUsesDeviceAssignments :=
  { trying with assignments := (append_nil _).trans trying.assignments }

theorem Trying.setNicAssignment (interface : Option String) :
    Trying first left owned (state.setNicAssignment interface) :=
  { trying with }

theorem Trying.setAssignedDevice (node : DeviceNode) :
    Trying first left owned (state.setAssignedDevice node) :=
  { trying with }

theorem Trying.addDependencies (added : List SoftPkgDeployment) :
    Trying first (left ++ added) owned (state.addDependencies added) :=
  { trying with
    dependencies := by
      rw [← append_assoc, ← trying.dependencies]
      rfl }

end

theorem resolveOnDevice_spec {node : DeviceNode} (trying : Trying first left owned state)
    (purposes : owned.map Grant.purpose = implementationPurposes request choice.2)
    (implementation : state.deployment.implementation = some choice.1)
    (assignedDevice : state.deployment.assignedDevice = some node)
    (transferred : state.assignedDevices = []) (assignments : List UsesDeviceAssignment) :
    EndsAs request first left choice
      (resolveOnDevice request choice.1 node (owned.map Grant.id) assignments state)
      (endingResolved request first.deployment.toComponent choice node assignments) := by
  have softpkg : state.deployment.softpkg = first.deployment.softpkg :=
    congrArg Component.softpkg trying.component
  rw [resolveOnDevice, softpkg, endingResolved]
  cases resolveSoftpkgDependencies request.profiles node request.fuel
    ⟨first.deployment.softpkg, choice.1⟩ with
  | none => exact ⟨state, rfl⟩
  | some searched =>
      cases searched with
      | raised added =>
          exact ⟨_, _, [], rfl, (trying.addDependencies added).release.scope, rfl⟩
      | missed added => exact ⟨_, rfl, (trying.addDependencies added).release⟩
      | met added =>
          refine ⟨_, rfl, implementation, assignedDevice, ?_, ?_, owned, trying.scope.held, purposes, ?_⟩
          · exact congrArg (· ++ added) trying.dependencies
          · have whole := trying.assignments
            rw [transferred, append_nil] at whole
            exact congrArg (· ++ assignments) whole
          · exact congrArg (· ++ owned.map Grant.id) trying.allocations

theorem deployImplementation_spec (trying : Trying first left owned state)
    (purposes : owned.map Grant.purpose =
      (request.usesDevices choice.2).requestIDs.map (.usesDevice (some choice.2)))
    (assignments : List UsesDeviceAssignment) :
    EndsAs request first left choice
      (deployImplementation request choice.1 choice.2 (owned.map Grant.id) assignments state)
      (endingDeployed request first.deployment.toComponent first.helper.registeredDevices choice
        assignments) := by
  have trying := trying.setImplementation choice.1
  rw [deployImplementation, allocateComponentToDevice, trying.component, trying.registered, endingDeployed]
  cases requestedDevices request.assignedDeviceId first.deployment.toComponent
    first.helper.registeredDevices with
  | error error => exact ⟨_, _, [], rfl, trying.release.scope, rfl⟩
  | ok devices =>
      simp only [allocateDeployment]
      cases request.devices choice.2 with
      | none => exact ⟨_, _, [], rfl, trying.release.scope, rfl⟩
      | some capacity =>
          simp only
          cases allocateRequest choice.1.processorDeps choice.1.osDeps first.deployment.deviceRequires
            capacity devices with
          | none =>
              refine ⟨_, rfl, ?_⟩
              rw [append_nil]
              exact trying.release
          | some node =>
              have scope := Scope.grant
                (state.setImplementation choice.1).transferUsesDeviceAssignments.helper.allocator
                [Purpose.deployment choice.2]
              cases request.nic choice.2 with
              | none => exact ⟨_, _, _, rfl, trying.scope.revoke_under scope, rfl⟩
              | some interface =>
                  have granted := (trying.withAllocator scope).setNicAssignment interface
                  have ready := granted.setAssignedDevice node
                  have spec := @resolveOnDevice_spec request first _ left choice _ node ready
                    (by rw [map_append, purposes]; rfl) rfl rfl rfl assignments
                  rw [map_append] at spec
                  exact spec

theorem tryImplementation_spec (trying : Trying first left [] state) :
    EndsAs request first left choice (tryImplementation request choice state)
      (ending request first.deployment.toComponent first.helper.registeredDevices choice) := by
  have uses := allocateUsesDevices_spec (.usesDevice (some choice.2)) (request.usesDevices choice.2)
    choice.1.usesDevice state.helper.allocator
  rw [tryImplementation, ending]
  revert uses
  cases usesDevicesEnd (request.usesDevices choice.2) choice.1.usesDevice with
  | raised leaked =>
      rintro ⟨after, extra, answer, scope, purposes⟩
      rw [answer]
      exact ⟨_, _, extra, rfl, (trying.withAllocator scope).scope, purposes⟩
  | unsatisfied =>
      rintro ⟨assignments, after, answer, held⟩
      rw [answer]
      refine ⟨_, rfl, ?_⟩
      rw [append_nil]
      exact trying.withAllocator (scope_nil.mpr held)
  | satisfied assignments =>
      rintro ⟨after, owned, answer, scope, purposes⟩
      rw [answer]
      exact deployImplementation_spec (trying.withAllocator scope) purposes assignments

end Attempt

end Redhawk.Deployment
