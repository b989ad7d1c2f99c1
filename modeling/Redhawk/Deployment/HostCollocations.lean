import Redhawk.Deployment.ComponentDeployments
import Redhawk.Library.SearchLoops

/-!
The placement of a host collocation once its devices are known: `placeHostCollocation`, which goes
through the combinations of implementations, and `allocateHostCollocation` for one of them.
-/

namespace Redhawk.Deployment

open Redhawk.Library

/-- What both lists allow, of which an empty one allows everything; `none` where that is nothing. -/
def mergeDependencies {Dependency : Type} [DecidableEq Dependency] (first second : List Dependency) :
    Option (List Dependency) :=
  if second.isEmpty then some first
  else if first.isEmpty then some second
  else
    let merged := eraseLoop (fun dependency => second.contains dependency) [] first
    if merged.isEmpty then none else some merged

/-- A collocation is to be placed, with how everything that is asked for it answers. What is asked for a
combination is asked by how many have been attempted before, the NIC of a component also by its position;
where a component has no NIC nothing is assigned. -/
structure CollocationRequest where
  deviceRequires : PropertyMap
  profiles : List SoftPkg
  fuel : Nat
  devices : Nat → DeviceAnswer
  nic : Nat → Nat → NicAnswer

structure Collocating where
  helper : CreateHelper
  deployments : List ComponentDeployment
  /-- The implementations of the combinations that have been attempted. -/
  tried : List (List (Option Implementation))

namespace Collocating

variable (state : Collocating)

def withAllocator (allocator : Grants Purpose) : Collocating :=
  { state with helper := { state.helper with allocator := allocator } }

def setImplementation (position : Nat) (implementation : Implementation) : Collocating :=
  { state with deployments := state.deployments.modify position fun deployment =>
      { deployment with implementation := some implementation } }

def attempting : Collocating :=
  { state with
    tried := state.tried ++ [state.deployments.map ComponentDeployment.implementation] }

def keep (allocationID : Nat) (node : DeviceNode) : Collocating :=
  { state with helper := { state.helper with
      executableDevices := rotateDeviceList state.helper.executableDevices node.identifier
      allocations := state.helper.allocations ++ [allocationID] } }

def release (allocationID : Nat) : Collocating :=
  state.withAllocator (state.helper.allocator.revoke [allocationID])

end Collocating

inductive Deployed
  | all
  | missed
  | raised
  | unending
  /-- An implementation is read that has not been set. -/
  | undefined

inductive CollocationOutcome
  | placed
  | raised
  | unending
  | undefined

section Search

variable (request : CollocationRequest)

def deployEach (attempt : Nat) (node : DeviceNode) :
    Nat → List ComponentDeployment → Deployed × List ComponentDeployment
  | _, [] => (.all, [])
  | position, deployment :: rest =>
    match deployment.implementation with
    | none => (.undefined, { deployment with dependencies := [] } :: rest)
    | some implementation =>
      match resolveSoftpkgDependencies request.profiles node request.fuel
        ⟨deployment.softpkg, implementation⟩ with
      | none => (.unending, { deployment with dependencies := [] } :: rest)
      | some (.raised added) => (.raised, { deployment with dependencies := added } :: rest)
      | some (.missed added) => (.missed, { deployment with dependencies := added } :: rest)
      | some (.met added) =>
        match request.nic attempt position with
        | none =>
          (.raised, { deployment with dependencies := added, assignedDevice := some node } :: rest)
        | some interface =>
          let behind := deployEach attempt node (position + 1) rest
          (behind.1,
            { deployment with
              dependencies := added
              assignedDevice := some node
              nicAssignment := interface.orElse fun _ => deployment.nicAssignment } :: behind.2)

def deployOn (attempt allocationID : Nat) (node : DeviceNode) (state : Collocating) :
    Option CollocationOutcome × Collocating :=
  match deployEach request attempt node 0 state.deployments with
  | (.all, deployments) => (some .placed, { state with deployments }.keep allocationID node)
  | (.missed, deployments) => (none, { state with deployments }.release allocationID)
  | (.raised, deployments) => (some .raised, { state with deployments }.release allocationID)
  | (.unending, deployments) => (some .unending, { state with deployments })
  | (.undefined, deployments) => (some .undefined, { state with deployments })

def allocateHostCollocation (deploymentDevices : List DeviceNode) (processorDeps : List String)
    (osDeps : List NameVersionPair) (state : Collocating) : Option CollocationOutcome × Collocating :=
  match allocateDeployment processorDeps osDeps request.deviceRequires (.deployment state.tried.length)
    (request.devices state.tried.length) deploymentDevices state.helper.allocator with
  | (.raised, allocator) => (some .raised, state.attempting.withAllocator allocator)
  | (.refused, allocator) => (none, state.attempting.withAllocator allocator)
  | (.granted allocationID node, allocator) =>
    deployOn request state.tried.length allocationID node (state.attempting.withAllocator allocator)

/-- The components from one position on; `none` stands for `false`. -/
def placeHostCollocation (deploymentDevices : List DeviceNode) :
    List Component → Nat → List String → List NameVersionPair → Collocating →
      Option CollocationOutcome × Collocating
  | [], _, processorDeps, osDeps, state =>
    allocateHostCollocation request deploymentDevices processorDeps osDeps state
  | component :: rest, position, processorDeps, osDeps, state =>
    firstOf (fun implementation state =>
      match mergeDependencies processorDeps implementation.processorDeps with
      | none => (none, state)
      | some procList =>
        match mergeDependencies osDeps implementation.osDeps with
        | none => (none, state)
        | some osList =>
          placeHostCollocation deploymentDevices rest (position + 1) procList osList
            (state.setImplementation position implementation))
      component.softpkg.implementations state

def searchCollocation (deploymentDevices : List DeviceNode) (helper : CreateHelper)
    (components : List Component) : Option CollocationOutcome × Collocating :=
  placeHostCollocation request deploymentDevices components 0 [] []
    ⟨helper, components.map createComponentDeployment, []⟩

end Search

end Redhawk.Deployment
