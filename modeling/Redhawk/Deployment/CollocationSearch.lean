import Redhawk.Deployment.CollocationAttempts

/-!
The search for a combination of implementations that a host collocation is placed with: what it ends
with, and that it attempts every combination that could be right.
-/

namespace Redhawk.Deployment

open Redhawk.Library Combination List

section Branches

variable {request : CollocationRequest} {devices : List DeviceNode} {helper : CreateHelper}
  {path : Combination} {component : Component} {rest : List Component} {state : Collocating}
  {implementation : Implementation}

def branch (request : CollocationRequest) (devices : List DeviceNode) (rest : List Component)
    (position : Nat) (processorDeps : List String) (osDeps : List NameVersionPair)
    (implementation : Implementation) (state : Collocating) :
    Option CollocationOutcome × Collocating :=
  match mergeDependencies processorDeps implementation.processorDeps with
  | none => (none, state)
  | some procList =>
    match mergeDependencies osDeps implementation.osDeps with
    | none => (none, state)
    | some osList => placeHostCollocation request devices rest (position + 1) procList osList
        (state.setImplementation position implementation)

theorem placeHostCollocation_cons (position : Nat) (processorDeps : List String) (osDeps : List NameVersionPair) :
    placeHostCollocation request devices (component :: rest) position processorDeps osDeps state =
      firstOf (branch request devices rest position processorDeps osDeps)
        component.softpkg.implementations state := rfl

def BranchCovered (request : CollocationRequest) (devices : List DeviceNode) (path : Combination)
    (component : Component) (rest : List Component) (implementation : Implementation)
    (tried : List (List (Option Implementation))) : Prop :=
  ∀ more : Combination, more.map Prod.fst = rest → more.Offered →
    Agrees (path ++ (component, implementation) :: more) →
    Covered request devices tried (path ++ (component, implementation) :: more)

def Branches (request : CollocationRequest) (devices : List DeviceNode) (helper : CreateHelper)
    (path : Combination) (component : Component) (rest : List Component) (state : Collocating)
    (implementation : Implementation) : Option CollocationOutcome × Collocating → Prop
  | (none, next) => Reached helper path (component :: rest) next ∧ state.tried <+: next.tried ∧
      BranchCovered request devices path component rest implementation next.tried
  | (some outcome, last) =>
      Explores request devices helper path (component :: rest) state (some outcome, last)

theorem modify_length {β : Type} (front : List β) (item : β) (rest : List β) (change : β → β) :
    (front ++ item :: rest).modify front.length change = front ++ change item :: rest := by
  induction front with
  | nil => rfl
  | cons first front ih => simpa using ih

theorem selection_modify (deployments : List ComponentDeployment) (position : Nat) :
    selection (deployments.modify position fun deployment =>
        { deployment with implementation := some implementation }) =
      (selection deployments).modify position fun pair => (pair.1, some implementation) := by
  induction deployments generalizing position with
  | nil => cases position <;> rfl
  | cons deployment rest ih =>
      cases position with
      | zero => rfl
      | succ position => exact congrArg (_ :: ·) (ih position)

theorem Reached.setImplementation (reached : Reached helper path (component :: rest) state) :
    Reached helper (path ++ [(component, implementation)]) rest
      (state.setImplementation path.length implementation) where
  idle := reached.idle
  selected := by
    obtain ⟨others, listed, selected⟩ := reached.selected
    obtain ⟨⟨first, old⟩, others, rfl, rfl, rfl⟩ := map_eq_cons_iff.mp listed
    refine ⟨others, rfl, ?_⟩
    rw [Collocating.setImplementation, selection_modify, selected, map_append, append_assoc]
    have there := modify_length (path.map fun pair => (pair.1, some pair.2)) (first, old) others
      fun pair => (pair.1, some implementation)
    rwa [length_map] at there

theorem Reached.parent (reached : Reached helper (path ++ [(component, implementation)]) rest state) :
    Reached helper path (component :: rest) state where
  idle := reached.idle
  selected := by
    obtain ⟨others, listed, selected⟩ := reached.selected
    refine ⟨(component, some implementation) :: others, congrArg (component :: ·) listed, ?_⟩
    rw [selected, map_append, append_assoc]
    rfl

theorem Explores.parent {result : Option CollocationOutcome × Collocating}
    (explores : Explores request devices helper (path ++ [(component, implementation)]) rest
      (state.setImplementation path.length implementation) result) :
    Branches request devices helper path component rest state implementation result := by
  obtain ⟨outcome, next⟩ := result
  cases outcome with
  | none =>
      obtain ⟨reached, before, covered⟩ := explores
      refine ⟨reached.parent, before, fun more listed offered agrees => ?_⟩
      have whole := covered more listed offered
      rw [append_assoc, singleton_append] at whole
      exact whole agrees
  | some outcome =>
      cases outcome with
      | placed =>
          obtain ⟨⟨node, listed, all⟩, kept⟩ := explores
          refine ⟨⟨node, listed, ?_⟩, kept⟩
          rwa [map_append, append_assoc] at all
      | raised => exact explores
      | unending => exact explores
      | undefined => exact explores

theorem processors_concat (path : Combination) (pair : Component × Implementation) :
    Combination.processors (path ++ [pair]) = path.processors ++ [pair.2.processorDeps] :=
  map_append

theorem systems_concat (path : Combination) (pair : Component × Implementation) :
    Combination.systems (path ++ [pair]) = path.systems ++ [pair.2.osDeps] :=
  map_append

theorem Combination.Agrees.along {pair : Component × Implementation} {more : Combination}
    (agrees : Combination.Agrees (path ++ pair :: more)) : Combination.Agrees (path ++ [pair]) := by
  rw [← singleton_append, ← append_assoc] at agrees
  obtain ⟨processors, systems⟩ := agrees
  rw [Combination.processors, map_append] at processors
  rw [Combination.systems, map_append] at systems
  exact ⟨processors.front, systems.front⟩

theorem branch_spec
    (deeper : ∀ (path : Combination) (state : Collocating), path.Offered → path.Agrees →
      Reached helper path rest state → Explores request devices helper path rest state
        (placeHostCollocation request devices rest path.length (common path.processors)
          (common path.systems) state))
    (offered : path.Offered) (agrees : path.Agrees)
    (reached : Reached helper path (component :: rest) state)
    (own : implementation ∈ component.softpkg.implementations) :
    Branches request devices helper path component rest state implementation
      (branch request devices rest path.length (common path.processors) (common path.systems)
        implementation state) := by
  have skipped (apart : ¬Agrees (path ++ [(component, implementation)])) :
      Branches request devices helper path component rest state implementation (none, state) :=
    ⟨reached, prefix_refl _, fun more _ _ all => absurd all.along apart⟩
  rw [branch]
  cases processors : mergeDependencies (common path.processors) implementation.processorDeps with
  | none =>
      refine skipped fun both => mergeDependencies_none agrees.1 processors ?_
      exact processors_concat path (component, implementation) ▸ both.1
  | some procList =>
      obtain ⟨rfl, haveProcessor⟩ := mergeDependencies_some agrees.1 processors
      cases systems : mergeDependencies (common path.systems) implementation.osDeps with
      | none =>
          refine skipped fun both => mergeDependencies_none agrees.2 systems ?_
          exact systems_concat path (component, implementation) ▸ both.2
      | some osList =>
          obtain ⟨rfl, haveSystem⟩ := mergeDependencies_some agrees.2 systems
          have explores := deeper (path ++ [(component, implementation)])
            (state.setImplementation path.length implementation)
            (by
              intro pair member
              rcases mem_append.mp member with earlier | last
              · exact offered pair earlier
              · rw [mem_singleton.mp last]
                exact own)
            ⟨processors_concat path (component, implementation) ▸ haveProcessor,
              systems_concat path (component, implementation) ▸ haveSystem⟩
            reached.setImplementation
          rw [length_append, length_singleton, processors_concat, systems_concat] at explores
          exact explores.parent

/-- The invariant of the loop over the implementations of a component. -/
structure Branched (request : CollocationRequest) (devices : List DeviceNode) (helper : CreateHelper)
    (path : Combination) (component : Component) (rest : List Component) (start : Collocating)
    (earlier : List Implementation) (state : Collocating) : Prop where
  reached : Reached helper path (component :: rest) state
  before : start.tried <+: state.tried
  covered : ∀ implementation ∈ earlier,
    BranchCovered request devices path component rest implementation state.tried

theorem Branched.concat {start next : Collocating} {earlier : List Implementation}
    (branched : Branched request devices helper path component rest start earlier state)
    (branches : Branches request devices helper path component rest state implementation (none, next)) :
    Branched request devices helper path component rest start (earlier ++ [implementation]) next where
  reached := branches.1
  before := branched.before.trans branches.2.1
  covered other member := by
    rcases mem_append.mp member with old | new
    · exact fun more listed offered agrees =>
        (branched.covered other old more listed offered agrees).later branches.2.1
    · rw [mem_singleton.mp new]
      exact branches.2.2

end Branches

/-- How the search should end for the components: with all of them on one device, or, when every
combination that agrees has been attempted without success, with nothing allocated. -/
def SearchedWell (request : CollocationRequest) (devices : List DeviceNode) (helper : CreateHelper)
    (components : List Component) :
    Option CollocationOutcome × Collocating → Prop
  | (some .placed, after) => (∃ node ∈ devices, AllOn request components node after.deployments) ∧
      KeptFor helper after
  | (none, after) => Idle helper after.helper ∧
      ∀ combination : Combination, combination.map Prod.fst = components → combination.Offered →
        combination.Agrees → ∃ attempt, after.tried[attempt]? = some combination.selected ∧
          ¬Succeeds request devices combination attempt
  | (some .raised, after) => Idle helper after.helper
  | (some .unending, _) => True
  | (some .undefined, _) => False

section Recursion

variable {request : CollocationRequest} {devices : List DeviceNode} {helper : CreateHelper}

theorem placeHostCollocation_spec (rest : List Component) : ∀ (path : Combination) (state : Collocating),
    path.Offered → path.Agrees → Reached helper path rest state →
      Explores request devices helper path rest state
        (placeHostCollocation request devices rest path.length (common path.processors)
          (common path.systems) state) := by
  induction rest with
  | nil =>
      intro path state offered agrees reached
      exact allocateHostCollocation_spec offered agrees reached
  | cons component rest deeper =>
      intro path state offered agrees reached
      have step : ∀ earlier implementation middle next, implementation ∈ component.softpkg.implementations →
          Branched request devices helper path component rest state earlier middle →
          branch request devices rest path.length (common path.processors) (common path.systems)
            implementation middle = (none, next) →
          Branched request devices helper path component rest state (earlier ++ [implementation])
            next := by
        intro earlier implementation middle next own branched failed
        exact branched.concat (failed ▸ branch_spec deeper offered agrees branched.reached own)
      have begun : Branched request devices helper path component rest state [] state :=
        ⟨reached, prefix_refl _, nofun⟩
      rw [placeHostCollocation_cons]
      rcases firstOf_cases (branch request devices rest path.length (common path.processors)
        (common path.systems)) component.softpkg.implementations state with
        ⟨last, fails, ends⟩ | ⟨earlier, implementation, later, middle, outcome, last, listed, fails, found, ends⟩
      · rw [ends]
        have branched := Fails.invariant _ step begun (fun _ => id) fails
        refine ⟨branched.reached, branched.before, fun more components offers agree => ?_⟩
        obtain ⟨⟨first, implementation⟩, more, rfl, rfl, rfl⟩ := map_eq_cons_iff.mp components
        have own := offers _ mem_cons_self
        exact branched.covered implementation own more rfl
          (fun pair member => offers pair (mem_cons_of_mem _ member)) agree
      · rw [ends]
        have branched := Fails.invariant _ step begun
          (fun other member => by simp [listed, member]) fails
        have own : implementation ∈ component.softpkg.implementations := by simp [listed]
        have spec := branch_spec deeper offered agrees branched.reached own
        rw [found] at spec
        cases outcome <;> exact spec

/-- The search places every component on one device that is right for it, or it ends with nothing
allocated and has attempted every combination that agrees. -/
theorem searchCollocation_well (request : CollocationRequest) (devices : List DeviceNode)
    (helper : CreateHelper) (components : List Component) :
    SearchedWell request devices helper components
      (searchCollocation request devices helper components) := by
  have reached : Reached helper [] components ⟨helper, components.map createComponentDeployment, []⟩ := by
    refine ⟨⟨rfl, rfl⟩, components.map fun component => (component, none), ?_, ?_⟩
    · rw [map_map]
      exact map_id _
    · rw [selection, map_map]
      rfl
  have explores := @placeHostCollocation_spec request devices helper components [] _ (by rintro _ ⟨⟩)
    ⟨.inl (by rintro _ ⟨⟩), .inl (by rintro _ ⟨⟩)⟩ reached
  change Explores request devices helper [] components _
    (searchCollocation request devices helper components) at explores
  revert explores
  generalize searchCollocation request devices helper components = result
  obtain ⟨outcome, last⟩ := result
  cases outcome with
  | none =>
      rintro ⟨reached, -, covered⟩
      exact ⟨reached.idle, covered⟩
  | some outcome => cases outcome <;> exact id

end Recursion

def PairwiseCompatible {Dependency : Type} (lists : List (List Dependency)) : Prop :=
  ∀ first ∈ lists, ∀ second ∈ lists, first ≠ [] → second ≠ [] → ∃ entry ∈ first, entry ∈ second

/-- The device has the capacity whenever it is asked, and is right for every implementation. -/
def TakesAll (request : CollocationRequest) (combination : Combination) (node : DeviceNode) : Prop :=
  (∀ attempt, ∃ capacity, request.devices attempt = some capacity ∧ capacity node = true) ∧
    node.requiresProps.equals request.deviceRequires = true ∧
    ∀ pair ∈ combination, checkProcessor pair.2.processorDeps node.prf = true ∧
      checkOs pair.2.osDeps node.prf = true ∧
      ∃ trees, resolveSoftpkgDependencies request.profiles node request.fuel
        ⟨pair.1.softpkg, pair.2⟩ = some (.met trees)

/-- The search fails only if no combination that is compatible in pairs has a device that takes it. -/
def PairwiseComplete (request : CollocationRequest) (devices : List DeviceNode) (helper : CreateHelper)
    (components : List Component) : Prop :=
  (searchCollocation request devices helper components).1 = none →
    ∀ combination : Combination, combination.map Prod.fst = components → combination.Offered →
      PairwiseCompatible combination.processors → PairwiseCompatible combination.systems →
      ¬∃ node ∈ devices, TakesAll request combination node

def builtFor (processorDeps : List String) : Implementation :=
  ⟨"cpp", "bin", none, processorDeps, [], [], []⟩

def componentFor (name : String) (processorDeps : List String) : Component :=
  ⟨name ++ ":wave_1", name, ⟨name ++ ".spd.xml", [builtFor processorDeps], []⟩, []⟩

def threeComponents : List Component :=
  [componentFor "a" ["x86", "x86_64"], componentFor "b" ["x86_64", "i686"], componentFor "c" ["x86", "i686"]]

def twoProcessors : DeviceNode :=
  ⟨"GPP_1", "GPP_1", 0, [.simple "processor_name" (some "x86") "eq",
    .simple "processor_name" (some "x86_64") "eq"], []⟩

def alwaysGranted : CollocationRequest where
  deviceRequires := []
  profiles := []
  fuel := 1
  devices _ := some fun _ => true
  nic _ _ := some none

theorem pairs_do_not_suffice :
    ¬PairwiseComplete alwaysGranted [twoProcessors] ⟨[], [], ⟨[], 0, nofun⟩, []⟩ threeComponents := by
  intro complete
  refine complete rfl [(componentFor "a" ["x86", "x86_64"], builtFor ["x86", "x86_64"]),
    (componentFor "b" ["x86_64", "i686"], builtFor ["x86_64", "i686"]),
    (componentFor "c" ["x86", "i686"], builtFor ["x86", "i686"])] rfl ?_ ?_ ?_ ⟨twoProcessors, ?_, ?_⟩
  · simp [Offered, componentFor]
  · simp [PairwiseCompatible, processors, builtFor]
  · simp [PairwiseCompatible, systems, builtFor]
  · exact mem_cons_self
  · refine ⟨fun _ => ⟨_, rfl, rfl⟩, rfl, ?_⟩
    simp only [forall_mem_cons]
    exact ⟨⟨by decide +kernel, rfl, [], rfl⟩, ⟨by decide +kernel, rfl, [], rfl⟩,
      ⟨by decide +kernel, rfl, [], rfl⟩, nofun⟩

end Redhawk.Deployment
