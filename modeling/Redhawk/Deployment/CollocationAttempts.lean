import Redhawk.Deployment.HostCollocations
import Redhawk.Library.CommonEntries

/-!
One combination of implementations of a host collocation: what its dependencies have in common, when it
is deployed on a device, and what the attempt does to the search.
-/

namespace Redhawk.Deployment

open Redhawk.Library Redhawk.Library.Grants ComponentDeployment

abbrev Combination := List (Component × Implementation)

namespace Combination

variable (combination : Combination)

def processors : List (List String) :=
  combination.map fun pair => pair.2.processorDeps

def systems : List (List NameVersionPair) :=
  combination.map fun pair => pair.2.osDeps

def selected : List (Option Implementation) :=
  combination.map fun pair => some pair.2

def Offered : Prop :=
  ∀ pair ∈ combination, pair.2 ∈ pair.1.softpkg.implementations

def Agrees : Prop :=
  HaveCommon combination.processors ∧ HaveCommon combination.systems

end Combination

section Claims

variable (request : CollocationRequest) (devices : List DeviceNode)

def allocatedDevice (combination : Combination) (attempt : Nat) : Option DeviceNode :=
  (request.devices attempt).bind fun capacity =>
    allocateRequest (common combination.processors) (common combination.systems) request.deviceRequires
      capacity devices

/-- A device is allocated, and the dependencies of every implementation are resolved for it. -/
def Succeeds (combination : Combination) (attempt : Nat) : Prop :=
  ∃ node, allocatedDevice request devices combination attempt = some node ∧
    ∀ pair ∈ combination, ∃ trees, resolveSoftpkgDependencies request.profiles node request.fuel
      ⟨pair.1.softpkg, pair.2⟩ = some (.met trees)

structure AllOn (components : List Component) (node : DeviceNode)
    (deployments : List ComponentDeployment) : Prop where
  each : deployments.map toComponent = components
  deployed : ∀ deployment ∈ deployments, ∃ implementation ∈ deployment.softpkg.implementations,
    deployment.implementation = some implementation ∧
    deployment.assignedDevice = some node ∧
    checkProcessor implementation.processorDeps node.prf = true ∧
    checkOs implementation.osDeps node.prf = true ∧
    resolveSoftpkgDependencies request.profiles node request.fuel ⟨deployment.softpkg, implementation⟩ =
      some (.met deployment.dependencies)

def Idle (helper after : CreateHelper) : Prop :=
  after.allocator.held = helper.allocator.held ∧ after.allocations = helper.allocations

/-- What is held besides what was before is allocated for the combination that the deployments have. -/
def KeptFor (helper : CreateHelper) (after : Collocating) : Prop :=
  ∃ attempt grant, grant.purpose = .deployment attempt ∧
    after.tried[attempt]? = some (after.deployments.map implementation) ∧
    after.helper.allocator.held = helper.allocator.held ++ [grant] ∧
    after.helper.allocations = helper.allocations ++ [grant.id]

end Claims

section Merge

variable {Dependency : Type} [DecidableEq Dependency] {lists : List (List Dependency)}
  {second merged : List Dependency}

theorem mergeDependencies_eq (agree : HaveCommon lists) :
    mergeDependencies (common lists) second =
      if common (lists ++ [second]) = [] ∧ second ≠ [] then none
      else some (common (lists ++ [second])) := by
  by_cases all : second = []
  · have same : common (lists ++ [second]) = common lists := by rw [common_concat, all]; rfl
    simp [mergeDependencies, all ▸ same, all]
  by_cases nothing : common lists = []
  · have same := @common_concat_of_empty _ lists _ second (haveCommon_iff.mp agree nothing)
    simp [mergeDependencies, nothing, same, all]
  · have some : (lists.filter fun list => !list.isEmpty).isEmpty = false := by
      rw [Bool.eq_false_iff]
      intro empty
      exact nothing (common_eq_nil_of_empty (by simpa using empty))
    have same : common (lists ++ [second]) = (common lists).filter fun entry => second.contains entry := by
      rw [common_concat, some, if_neg (by simpa using all), if_neg Bool.false_ne_true]
    rw [same, mergeDependencies, if_neg (by simpa using all), if_neg (by simpa using nothing), eraseLoop_eq]
    simp [all]

theorem mergeDependencies_some (agree : HaveCommon lists)
    (some : mergeDependencies (common lists) second = some merged) :
    merged = common (lists ++ [second]) ∧ HaveCommon (lists ++ [second]) := by
  rw [mergeDependencies_eq agree] at some
  split at some
  · exact nomatch some
  · rename_i kept
    refine ⟨(Option.some.inj some).symm, (haveCommon_concat agree).mpr fun nothing => ?_⟩
    exact not_not.mp fun asks => kept ⟨nothing, asks⟩

theorem mergeDependencies_none (agree : HaveCommon lists)
    (none : mergeDependencies (common lists) second = none) : ¬HaveCommon (lists ++ [second]) := by
  rw [mergeDependencies_eq agree] at none
  split at none
  · rename_i ruledOut
    exact fun still => ruledOut.2 ((haveCommon_concat agree).mp still ruledOut.1)
  · exact nomatch none

end Merge

section Deploy

variable {request : CollocationRequest} {attempt : Nat} {node : DeviceNode}

def selection (deployments : List ComponentDeployment) : List (Component × Option Implementation) :=
  deployments.map fun deployment => (deployment.toComponent, deployment.implementation)

theorem selection_deployEach (position : Nat) (deployments : List ComponentDeployment) :
    selection (deployEach request attempt node position deployments).2 = selection deployments := by
  induction deployments generalizing position with
  | nil => rfl
  | cons deployment rest ih =>
      rw [deployEach]
      split
      · rfl
      split
      · rfl
      · rfl
      · rfl
      split
      · rfl
      · exact congrArg (_ :: ·) (ih (position + 1))

def ComesOut (request : CollocationRequest) (node : DeviceNode) (before : List ComponentDeployment) :
    Deployed × List ComponentDeployment → Prop
  | (.all, after) => ∀ deployment ∈ after, ∃ implementation,
      deployment.implementation = some implementation ∧ deployment.assignedDevice = some node ∧
      resolveSoftpkgDependencies request.profiles node request.fuel
        ⟨deployment.softpkg, implementation⟩ = some (.met deployment.dependencies)
  | (.missed, _) => ∃ deployment ∈ before, ∃ implementation added,
      deployment.implementation = some implementation ∧
      resolveSoftpkgDependencies request.profiles node request.fuel
        ⟨deployment.softpkg, implementation⟩ = some (.missed added)
  | (.undefined, _) => ∃ deployment ∈ before, deployment.implementation = none
  | (.raised, _) => True
  | (.unending, _) => True

theorem deployEach_spec (position : Nat) (deployments : List ComponentDeployment) :
    ComesOut request node deployments (deployEach request attempt node position deployments) := by
  induction deployments generalizing position with
  | nil => exact nofun
  | cons deployment rest ih =>
      rw [deployEach]
      split
      · rename_i unset
        exact ⟨deployment, List.mem_cons_self, unset⟩
      rename_i implementation set
      split
      · trivial
      · trivial
      · rename_i added missed
        exact ⟨deployment, List.mem_cons_self, implementation, added, set, missed⟩
      rename_i added met
      split
      · trivial
      have behind := ih (position + 1)
      revert behind
      generalize deployEach request attempt node (position + 1) rest = result
      obtain ⟨deployed, after⟩ := result
      cases deployed with
      | all =>
          intro behind
          refine List.forall_mem_cons.mpr ⟨⟨implementation, set, rfl, met⟩, behind⟩
      | missed =>
          rintro ⟨other, member, missed⟩
          exact ⟨other, List.mem_cons_of_mem _ member, missed⟩
      | raised => exact id
      | unending => exact id
      | undefined =>
          rintro ⟨other, member, unset⟩
          exact ⟨other, List.mem_cons_of_mem _ member, unset⟩

end Deploy

section Leaf

variable {request : CollocationRequest} {devices : List DeviceNode} {helper : CreateHelper}
  {path : Combination} {rest : List Component} {state : Collocating}

structure Reached (helper : CreateHelper) (path : Combination) (rest : List Component)
    (state : Collocating) : Prop where
  idle : Idle helper state.helper
  selected : ∃ others : List (Component × Option Implementation), others.map Prod.fst = rest ∧
    selection state.deployments = path.map (fun pair => (pair.1, some pair.2)) ++ others

def Covered (request : CollocationRequest) (devices : List DeviceNode)
    (tried : List (List (Option Implementation))) (combination : Combination) : Prop :=
  ∃ attempt, tried[attempt]? = some combination.selected ∧ ¬Succeeds request devices combination attempt

def Explores (request : CollocationRequest) (devices : List DeviceNode) (helper : CreateHelper)
    (path : Combination) (rest : List Component) (state : Collocating) :
    Option CollocationOutcome × Collocating → Prop
  | (none, next) => Reached helper path rest next ∧ state.tried <+: next.tried ∧
      ∀ more : Combination, more.map Prod.fst = rest → more.Offered → (path ++ more).Agrees →
        Covered request devices next.tried (path ++ more)
  | (some .placed, last) =>
      (∃ node ∈ devices, AllOn request (path.map Prod.fst ++ rest) node last.deployments) ∧
      KeptFor helper last
  | (some .raised, last) => Idle helper last.helper
  | (some .unending, _) => True
  | (some .undefined, _) => False

theorem Covered.later {tried later : List (List (Option Implementation))} (longer : tried <+: later)
    {combination : Combination} (covered : Covered request devices tried combination) :
    Covered request devices later combination := by
  obtain ⟨attempt, there, failed⟩ := covered
  obtain ⟨more, rfl⟩ := longer
  have bound := (List.getElem?_eq_some_iff.mp there).1
  exact ⟨attempt, by rwa [List.getElem?_append_left bound], failed⟩

theorem allocatedDevice_right (agrees : path.Agrees) {attempt : Nat} {node : DeviceNode}
    (allocated : allocatedDevice request devices path attempt = some node) :
    node ∈ devices ∧ ∀ pair ∈ path, checkProcessor pair.2.processorDeps node.prf = true ∧
      checkOs pair.2.osDeps node.prf = true := by
  obtain ⟨capacity, -, found⟩ := Option.bind_eq_some_iff.mp allocated
  refine ⟨List.mem_of_find?_eq_some found, fun pair member => ?_⟩
  have passes := List.find?_some found
  rw [Bool.and_eq_true, matchesDevice, Bool.and_eq_true, Bool.and_eq_true] at passes
  exact ⟨any_of_common agrees.1 (List.mem_map_of_mem member) passes.1.1.1,
    any_of_common agrees.2 (List.mem_map_of_mem member) passes.1.1.2⟩

section Selected

variable {deployments : List ComponentDeployment}

section

variable (selected : selection deployments = path.map fun pair => (pair.1, some pair.2))
include selected

theorem exists_pair {deployment : ComponentDeployment} (member : deployment ∈ deployments) :
    ∃ pair ∈ path, pair.1 = deployment.toComponent ∧ deployment.implementation = some pair.2 := by
  have inside : (deployment.toComponent, deployment.implementation) ∈
      path.map fun pair => (pair.1, some pair.2) := selected ▸ List.mem_map_of_mem member
  obtain ⟨pair, own, same⟩ := List.mem_map.mp inside
  exact ⟨pair, own, congrArg Prod.fst same, (congrArg Prod.snd same).symm⟩

theorem components_of_selection : deployments.map toComponent = path.map Prod.fst := by
  have first := congrArg (List.map Prod.fst) selected
  rwa [selection, List.map_map, List.map_map] at first

theorem implementations_of_selection : deployments.map implementation = path.selected := by
  have second := congrArg (List.map Prod.snd) selected
  rwa [selection, List.map_map, List.map_map] at second

end

end Selected

section Deployed

variable {attempt : Nat} {node : DeviceNode} {start : Collocating}

structure Allocated (request : CollocationRequest) (devices : List DeviceNode) (helper : CreateHelper)
    (path : Combination) (attempt : Nat) (node : DeviceNode) (grant : Grant Purpose)
    (state : Collocating) : Prop where
  allocated : allocatedDevice request devices path attempt = some node
  scope : Scope helper.allocator.held state.helper.allocator [grant]
  allocations : state.helper.allocations = helper.allocations
  selected : selection state.deployments = path.map fun pair => (pair.1, some pair.2)
  purpose : grant.purpose = .deployment attempt
  tried : state.tried[attempt]? = some path.selected

variable {grant : Grant Purpose}

theorem Allocated.missed (allocated : Allocated request devices helper path attempt node grant state)
    {deployment : ComponentDeployment} (member : deployment ∈ state.deployments)
    {implementation : Implementation} {added : List SoftPkgDeployment}
    (set : deployment.implementation = some implementation)
    (missed : resolveSoftpkgDependencies request.profiles node request.fuel
      ⟨deployment.softpkg, implementation⟩ = some (.missed added)) :
    ¬Succeeds request devices path attempt := by
  rintro ⟨other, same, resolve⟩
  obtain rfl := Option.some.inj (allocated.allocated.symm.trans same)
  obtain ⟨pair, own, component, selected⟩ := exists_pair allocated.selected member
  obtain rfl := Option.some.inj (set.symm.trans selected)
  obtain ⟨trees, met⟩ := resolve pair own
  rw [component] at met
  exact nomatch missed.symm.trans met

theorem deployOn_spec (offered : path.Offered) (agrees : path.Agrees)
    (allocated : Allocated request devices helper path attempt node grant state)
    (before : start.tried <+: state.tried) :
    Explores request devices helper path [] start
      (deployOn request attempt grant.id node state) := by
  have comesOut := @deployEach_spec request attempt node 0 state.deployments
  have kept := @selection_deployEach request attempt node 0 state.deployments
  rw [deployOn]
  revert comesOut kept
  generalize deployEach request attempt node 0 state.deployments = result
  obtain ⟨deployed, after⟩ := result
  intro comesOut kept
  have selected := kept.trans allocated.selected
  have released : Idle helper ({ state with deployments := after }.release grant.id).helper :=
    ⟨allocated.scope.revoke, allocated.allocations⟩
  cases deployed with
  | all =>
      obtain ⟨listed, right⟩ := allocatedDevice_right agrees allocated.allocated
      refine ⟨⟨node, listed, ?_, fun deployment member => ?_⟩, attempt, grant, allocated.purpose, ?_,
        allocated.scope.held, congrArg (· ++ [grant.id]) allocated.allocations⟩
      · rw [List.append_nil]
        exact components_of_selection selected
      · obtain ⟨implementation, set, assigned, met⟩ := comesOut deployment member
        obtain ⟨pair, own, component, same⟩ := exists_pair selected member
        obtain rfl := Option.some.inj (set.symm.trans same)
        refine ⟨pair.2, ?_, set, assigned, (right pair own).1, (right pair own).2, met⟩
        rw [← component]
        exact offered pair own
      · exact allocated.tried.trans (congrArg some (implementations_of_selection selected).symm)
  | missed =>
      obtain ⟨deployment, member, implementation, added, set, missed⟩ := comesOut
      refine ⟨⟨released, [], rfl, ?_⟩, before, fun more none _ _ => ⟨attempt, ?_⟩⟩
      · rw [List.append_nil]
        exact selected
      · rw [List.map_eq_nil_iff.mp none, List.append_nil]
        exact ⟨allocated.tried, allocated.missed member set missed⟩
  | raised => exact released
  | unending => trivial
  | undefined =>
      obtain ⟨deployment, member, unset⟩ := comesOut
      obtain ⟨pair, -, -, set⟩ := exists_pair allocated.selected member
      exact nomatch unset.symm.trans set

theorem allocateHostCollocation_spec (offered : path.Offered) (agrees : path.Agrees)
    (reached : Reached helper path [] state) :
    Explores request devices helper path [] state
      (allocateHostCollocation request devices (common path.processors) (common path.systems) state) := by
  obtain ⟨idle, others, none, selected⟩ := reached
  rw [List.map_eq_nil_iff.mp none, List.append_nil] at selected
  have logged : state.attempting.tried[state.tried.length]? = some path.selected := by
    rw [Collocating.attempting, List.getElem?_concat_length]
    exact congrArg some (implementations_of_selection selected)
  have before : state.tried <+: state.attempting.tried := List.prefix_append _ _
  have asked : allocatedDevice request devices path state.tried.length =
      (request.devices state.tried.length).bind fun capacity => allocateRequest (common path.processors)
        (common path.systems) request.deviceRequires capacity devices := rfl
  rw [allocateHostCollocation]
  cases answer : request.devices state.tried.length with
  | none => exact idle
  | some capacity =>
      rw [answer, Option.bind_some] at asked
      simp only [allocateDeployment]
      cases found : allocateRequest (common path.processors) (common path.systems) request.deviceRequires
        capacity devices with
      | none =>
          refine ⟨⟨idle, [], rfl, ?_⟩, before, fun more empty _ _ => ⟨state.tried.length, ?_⟩⟩
          · rw [List.append_nil]
            exact selected
          · rw [List.map_eq_nil_iff.mp empty, List.append_nil]
            refine ⟨logged, ?_⟩
            rintro ⟨node, allocated, -⟩
            exact nomatch (asked.trans found).symm.trans allocated
      | some node =>
          have scope := Scope.grant state.helper.allocator [Purpose.deployment state.tried.length]
          refine @deployOn_spec request devices helper path _ _ node state ⟨_, _⟩ offered agrees
            ⟨asked.trans found, idle.1 ▸ scope, idle.2, selected, rfl, logged⟩ before

end Deployed

end Leaf

end Redhawk.Deployment
