import Redhawk.Nodes.PlacementAttempts

/-!
Which configurations a node starts up as promised: one launch for each instantiation that can be
deployed, and its profile found under its identifier.
-/

namespace Redhawk.Nodes

open Nodes.Deployment List Option

variable {Value Ref : Type} (node : Node Value Ref) (dcd : DeviceConfiguration Ref)

def Deployment.Wanted (deployment : Deployment Value Ref) (manager : Manager Value Ref) : Prop :=
  deployment.canDeploy node dcd ∧
    ∀ parent, deployment.placement.compositePartOfDeviceID = some parent → parent ∈ manager.launches.map Launch.id

structure LaunchedOnce (manager : Manager Value Ref) : Prop where
  once : ∀ deployment ∈ deployments node dcd, deployment.Wanted node dcd manager →
    ∀ id ∈ deployment.ids, (manager.launches.map Launch.id).count id = 1
  none : ∀ deployment ∈ deployments node dcd, ¬deployment.Wanted node dcd manager →
    ∀ id ∈ deployment.ids, id ∉ manager.launches.map Launch.id
  own : ∀ launch ∈ manager.launches, ∃ deployment ∈ deployments node dcd,
    ∃ instantiation ∈ deployment.placement.instantiations, launch.IsOwn node dcd deployment instantiation
  found : ∀ launch ∈ manager.launches, manager.findProfile launch.id = some launch.profile

def StartsUp : Prop :=
  ∃ manager, postConstructor node dcd = .ok manager ∧ LaunchedOnce node dcd manager

def ParentDeployed (parent : String) : Prop :=
  ∃ deployment ∈ standalonePlacements node dcd, deployment.deploys node ∧ parent ∈ deployment.ids

structure Orderly : Prop where
  /-- A part of a composite that is started by itself comes behind its parent. -/
  parents : ∀ before deployment after,
    standalonePlacements node dcd = before ++ deployment :: after → deployment.joins node →
      ∀ parent, deployment.placement.compositePartOfDeviceID = some parent →
        parent ∈ dcd.ids ∨ deployment.canDeploy node dcd →
          parent ∈ before.flatMap (launchIds node dcd) ∧ node.registered parent ≠ ""
  single : ∀ deployment ∈ standalonePlacements node dcd, deployment.canDeploy node dcd →
    deployment.placement.others = [] ∧ node.raises deployment.placement.first.instantiationId = false
  /-- The parent of a library that can be deployed is in the last of the other placements. -/
  composites : ∀ deployment ∈ compositePlacements node dcd, deployment.joins node →
    ∀ parent, deployment.placement.compositePartOfDeviceID = some parent →
      ParentDeployed node dcd parent →
        parent ∈ (standalonePlacements node dcd).flatMap (launchIds node dcd) ∧
        node.registered parent ≠ "" ∧
        (deployment.canDeploy node dcd →
          (∃ last, (standalonePlacements node dcd).getLast? = some last ∧ parent ∈ last.ids) ∧
          deployment.placement.others = [] ∧
          node.raises deployment.placement.first.instantiationId = false)
  /-- The parent of a library that can be deployed is no library that is launched. -/
  nested : ∀ deployment ∈ compositePlacements node dcd, deployment.canDeploy node dcd →
    ∀ parent, deployment.placement.compositePartOfDeviceID = some parent →
      ∀ other ∈ compositePlacements node dcd, parent ∈ other.launchIds node dcd →
        ∀ device, other.placement.compositePartOfDeviceID = some device → ¬ParentDeployed node dcd device

variable {node dcd}

theorem byObject_deployments : ByObject (deployments node dcd) := by
  intro one memberOne other memberOther same
  obtain ⟨⟨placement, object⟩, listed, made⟩ := mem_filterMap.mp memberOne
  obtain ⟨⟨placement', object'⟩, listed', made'⟩ := mem_filterMap.mp memberOther
  obtain ⟨loaded, load, rfl⟩ := map_eq_some_iff.mp made
  obtain ⟨loaded', load', rfl⟩ := map_eq_some_iff.mp made'
  subst same
  rw [mem_zipIdx_iff_getElem?] at listed listed'
  have equal : placement = placement' := some.inj (listed.symm.trans listed')
  subst equal
  rw [load] at load'
  cases load'
  rfl

variable {deployment : Deployment Value Ref}

theorem mem_placements (member : deployment ∈ deployments node dcd) :
    dcd.componentPlacements[deployment.object]? = some deployment.placement := by
  obtain ⟨⟨placement, object⟩, listed, made⟩ := mem_filterMap.mp member
  obtain ⟨loaded, -, rfl⟩ := map_eq_some_iff.mp made
  rwa [mem_zipIdx_iff_getElem?] at listed

variable {id : String}

theorem ids_subset (member : deployment ∈ deployments node dcd) (listed : id ∈ deployment.ids) : id ∈ dcd.ids :=
  mem_flatMap.mpr ⟨_, mem_of_getElem? (mem_placements member), listed⟩

theorem ids_nodup (member : deployment ∈ deployments node dcd) : deployment.ids.Nodup :=
  (nodup_flatMap.mp dcd.unique).1 _ (mem_of_getElem? (mem_placements member))

theorem eq_of_shared {one other : Deployment Value Ref} (memberOne : one ∈ deployments node dcd)
    (memberOther : other ∈ deployments node dcd) (first : id ∈ one.ids)
    (second : id ∈ other.ids) : one = other := by
  apply byObject_deployments one memberOne other memberOther
  have placedOne := mem_placements memberOne
  have placedOther := mem_placements memberOther
  have apart := (nodup_flatMap.mp dcd.unique).2
  rw [pairwise_iff_getElem] at apart
  obtain ⟨belowOne, atOne⟩ := List.getElem?_eq_some_iff.mp placedOne
  obtain ⟨belowOther, atOther⟩ := List.getElem?_eq_some_iff.mp placedOther
  rcases Nat.lt_trichotomy one.object other.object with less | same | less
  · have disjoint := apart one.object other.object belowOne belowOther less
    rw [Function.onFun_apply, atOne, atOther] at disjoint
    exact absurd second (disjoint first)
  · exact same
  · have disjoint := apart other.object one.object belowOther belowOne less
    rw [Function.onFun_apply, atOne, atOther] at disjoint
    exact absurd first (disjoint second)

def fromParent (node : Node Value Ref) (parent : String)
    (placements : List (Deployment Value Ref)) : List (Deployment Value Ref) :=
  placements.dropWhile fun deployment => !(deployment.ids.contains parent && deployment.deploys node)

def compositeAttempts (node : Node Value Ref) (standalone : List (Deployment Value Ref))
    (deployment : Deployment Value Ref) : List (Deployment Value Ref) :=
  replicate (fromParent node (deployment.placement.compositePartOfDeviceID.getD "")
    standalone).length deployment

def allAttempts (node : Node Value Ref) (dcd : DeviceConfiguration Ref) : List (Deployment Value Ref) :=
  standalonePlacements node dcd ++
    (compositePlacements node dcd).flatMap (compositeAttempts node (standalonePlacements node dcd))

section Runs

variable {attempts rest : List (Deployment Value Ref)} {manager next : Manager Value Ref}

theorem byObject_of_subset (within : attempts ⊆ deployments node dcd) : ByObject attempts :=
  fun one memberOne other memberOther =>
    byObject_deployments one (within memberOne) other (within memberOther)

section

variable (placed : Placed node dcd attempts manager)
include placed

theorem Placed.place {deployment : Deployment Value Ref}
    (within : attempts ++ [deployment] ⊆ deployments node dcd)
    (done : manager.place node dcd deployment = .ok next) :
    Placed node dcd (attempts ++ [deployment]) next := by
  have objects := byObject_of_subset within
  exact placed.tried objects (Manager.tried_place (placed.profileOf_implementation objects) done)

theorem Placed.run (within : attempts ++ rest ⊆ deployments node dcd)
    (done : rest.foldlM (Manager.place node dcd) manager = .ok next) :
    Placed node dcd (attempts ++ rest) next := by
  induction rest generalizing attempts manager with
  | nil =>
      cases done
      rwa [append_nil]
  | cons deployment rest ih =>
      rw [append_cons] at within ⊢
      rw [foldlM_cons] at done
      obtain ⟨between, first, done⟩ := Library.bind_eq_ok_iff.mp done
      have now := (append_subset.mp within).1
      exact ih (placed.place now first) within done

theorem Placed.run_ok_iff (within : attempts ++ rest ⊆ deployments node dcd) :
    (∃ next, rest.foldlM (Manager.place node dcd) manager = .ok next) ↔
      ∀ before deployment after, rest = before ++ deployment :: after →
        Manager.Placeable node dcd deployment
          ((attempts ++ before).flatMap (launchIds node dcd)) := by
  induction rest generalizing attempts manager with
  | nil => simp [pure, Except.pure]
  | cons deployment rest ih =>
      rw [append_cons] at within
      have now := (append_subset.mp within).1
      have here := @Manager.place_ok_iff _ _ node dcd _ _
        (placed.profileOf_implementation (byObject_of_subset now))
      rw [placed.launched] at here
      rw [foldlM_cons]
      constructor
      · rintro ⟨next, done⟩ before other after split
        obtain ⟨between, first, done⟩ := Library.bind_eq_ok_iff.mp done
        cases before with
        | nil =>
            obtain ⟨rfl, rfl⟩ := cons.inj split
            rw [append_nil]
            exact here.mp ⟨between, first⟩
        | cons _ before =>
            obtain ⟨rfl, rfl⟩ := cons.inj split
            rw [append_cons]
            exact (ih (placed.place now first) within).mp ⟨next, done⟩ before other after rfl
      · intro all
        have head := all [] deployment rest rfl
        rw [append_nil] at head
        obtain ⟨between, first⟩ := here.mpr head
        rw [first]
        refine (ih (placed.place now first) within).mpr fun before other after split => ?_
        have later := all (deployment :: before) other after (by rw [split]; rfl)
        rwa [append_cons] at later

section

variable (within : attempts ⊆ deployments node dcd)

include within

theorem Placed.isDeployed {parent : Deployment Value Ref}
    (member : parent ∈ attempts) {id : String} (listed : id ∈ parent.ids) :
    manager.isDeployed id = parent.deploys node := by
  unfold Manager.isDeployed
  rw [placed.deployed, Bool.eq_iff_iff, List.any_eq_true]
  constructor
  · rintro ⟨other, deployed, found⟩
    obtain ⟨same, tried, made⟩ := mem_flatMap.mp deployed
    split at made
    next deploys =>
      rw [eq_of_mem_replicate made, contains_iff_mem] at found
      rwa [eq_of_shared (within member) (within tried) listed found]
    next => cases made
  · intro deploys
    refine ⟨parent, mem_flatMap.mpr ⟨parent, member, ?_⟩, contains_iff_mem.mpr listed⟩
    rw [if_pos deploys]
    exact mem_replicate.mpr ⟨by simp [DevicePlacement.instantiations], rfl⟩

theorem Placed.placeComposite_eq {deployment : Deployment Value Ref}
    (member : deployment ∈ deployments node dcd) (parent : String)
    {standalone : List (Deployment Value Ref)} (placedBefore : standalone ⊆ attempts) (found : Bool) :
    manager.placeComposite node dcd deployment parent standalone found =
      (replicate (if found then standalone else fromParent node parent standalone).length
        deployment).foldlM (Manager.place node dcd) manager := by
  induction standalone generalizing attempts manager found with
  | nil => cases found <;> rfl
  | cons other rest ih =>
      have before : rest ⊆ attempts := fun _ member => placedBefore (mem_cons_of_mem _ member)
      have search : (other.ids.contains parent && manager.isDeployed parent) =
          (other.ids.contains parent && other.deploys node) := by
        cases named : other.ids.contains parent with
        | false => rfl
        | true =>
            rw [placed.isDeployed within (placedBefore mem_cons_self) (contains_iff_mem.mp named)]
      have again : ∀ manager : Manager Value Ref, Placed node dcd attempts manager →
          (manager.place node dcd deployment).bind
            (Manager.placeComposite node dcd deployment parent rest true) =
          (replicate (rest.length + 1) deployment).foldlM (Manager.place node dcd) manager := by
        intro manager placed
        rw [replicate_succ, foldlM_cons]
        cases first : manager.place node dcd deployment with
        | error stop => rfl
        | ok next =>
            have now : attempts ++ [deployment] ⊆ deployments node dcd :=
              append_subset.mpr ⟨within, by simpa using member⟩
            exact ih (placed.place now first) now
              (Subset.trans before (subset_append_left ..)) true
      unfold Manager.placeComposite
      rw [search]
      cases found with
      | true => exact again manager placed
      | false =>
          unfold fromParent
          rw [dropWhile_cons]
          cases matched : other.ids.contains parent && other.deploys node with
          | true => exact again manager placed
          | false => exact ih placed within before false

theorem Placed.placeComposites_eq {standalone composites : List (Deployment Value Ref)}
    (placedBefore : standalone ⊆ attempts) (members : composites ⊆ deployments node dcd) :
    manager.placeComposites node dcd standalone composites =
      (composites.flatMap (compositeAttempts node standalone)).foldlM
        (Manager.place node dcd) manager := by
  unfold Manager.placeComposites
  induction composites generalizing attempts manager with
  | nil => rfl
  | cons deployment rest ih =>
      obtain ⟨member, members⟩ := cons_subset.mp members
      have search : manager.placeComposite node dcd deployment
          (deployment.placement.compositePartOfDeviceID.getD "") standalone false =
            (compositeAttempts node standalone deployment).foldlM (Manager.place node dcd) manager :=
        placed.placeComposite_eq within member _ placedBefore false
      rw [foldlM_cons, flatMap_cons, foldlM_append, search]
      cases first : (compositeAttempts node standalone deployment).foldlM (Manager.place node dcd)
          manager with
      | error stop => rfl
      | ok next =>
          have now : attempts ++ compositeAttempts node standalone deployment ⊆ deployments node dcd := by
            refine append_subset.mpr ⟨within, fun other made => ?_⟩
            rw [eq_of_mem_replicate made]
            exact member
          exact ih (placed.run now first) now
            (Subset.trans placedBefore (subset_append_left ..)) members

end

end

end Runs

theorem standalone_subset : standalonePlacements node dcd ⊆ deployments node dcd :=
  fun _ member => (mem_filter.mp member).1

theorem composite_subset : compositePlacements node dcd ⊆ deployments node dcd :=
  fun _ member => (mem_filter.mp member).1

theorem allAttempts_subset : allAttempts node dcd ⊆ deployments node dcd := by
  refine append_subset.mpr ⟨standalone_subset, fun deployment member => ?_⟩
  obtain ⟨composite, listed, made⟩ := mem_flatMap.mp member
  rw [eq_of_mem_replicate made]
  exact composite_subset listed

theorem postConstructor_eq :
    postConstructor node dcd = (allAttempts node dcd).foldlM (Manager.place node dcd) Manager.initial := by
  unfold postConstructor allAttempts
  rw [foldlM_append]
  cases first : (standalonePlacements node dcd).foldlM (Manager.place node dcd) Manager.initial with
  | error stop => rfl
  | ok manager =>
      have placed := placed_initial.run (by simpa using standalone_subset) first
      exact placed.placeComposites_eq standalone_subset (Subset.refl _) composite_subset

theorem objects_nodup : ((deployments node dcd).map object).Nodup := by
  have within : ∀ placements : List (DevicePlacement Ref × Nat),
      ((placements.filterMap fun placed =>
        (node.loadProfile placed.1.fileRefId).map fun loaded =>
          (⟨placed.1, placed.2, loaded⟩ : Deployment Value Ref)).map object).Sublist
        (placements.map Prod.snd) := by
    intro placements
    induction placements with
    | nil => exact .slnil
    | cons placed rest ih =>
        cases load : node.loadProfile placed.1.fileRefId with
        | none => simpa [load] using ih.cons placed.2
        | some loaded => simpa [load] using ih.cons_cons placed.2
  refine (within _).nodup ?_
  rw [zipIdx_map_snd]
  exact nodup_range'

theorem count_filter_objects (keep : Deployment Value Ref → Bool) (member : deployment ∈ deployments node dcd) :
    (((deployments node dcd).filter keep).map object).count deployment.object =
      if keep deployment then 1 else 0 := by
  have nodup : (((deployments node dcd).filter keep).map object).Nodup :=
    objects_nodup.sublist (filter_sublist.map _)
  cases kept : keep deployment with
  | true =>
      exact count_eq_one_of_mem nodup
        (mem_map_of_mem (mem_filter.mpr ⟨member, kept⟩))
  | false =>
      refine count_eq_zero_of_not_mem fun listed => ?_
      obtain ⟨other, found, same⟩ := mem_map.mp listed
      obtain ⟨known, keeps⟩ := mem_filter.mp found
      have equal := byObject_deployments other known deployment member same
      rw [equal, kept] at keeps
      cases keeps

theorem count_replicate_object (one other : Deployment Value Ref) (times : Nat) :
    ((replicate times one).map object).count other.object =
      if one.object = other.object then times else 0 := by
  rw [map_replicate, count_replicate]
  simp [beq_iff_eq]

theorem count_allAttempts (member : deployment ∈ deployments node dcd) :
    ((allAttempts node dcd).map object).count deployment.object =
      if deployment.isCompositePart then
        (compositeAttempts node (standalonePlacements node dcd) deployment).length
      else 1 := by
  have again : ∀ composites ⊆ deployments node dcd,
      ((composites.flatMap (compositeAttempts node (standalonePlacements node dcd))).map
        object).count deployment.object =
        (composites.map object).count deployment.object *
          (compositeAttempts node (standalonePlacements node dcd) deployment).length := by
    intro composites within
    induction composites with
    | nil => simp
    | cons other rest ih =>
        obtain ⟨listed, within⟩ := cons_subset.mp within
        rw [flatMap_cons, map_append, count_append, ih within, map_cons,
          count_cons, compositeAttempts, count_replicate_object]
        by_cases same : other.object = deployment.object
        · have equal := byObject_deployments other listed deployment member same
          subst equal
          simp [compositeAttempts, Nat.add_mul, Nat.add_comm]
        · simp [same]
  rw [allAttempts, map_append, count_append, again _ composite_subset,
    standalonePlacements, compositePlacements, count_filter_objects _ member,
    count_filter_objects _ member]
  cases deployment.isCompositePart <;> simp

theorem count_launched {attempts : List (Deployment Value Ref)} (within : attempts ⊆ deployments node dcd)
    (member : deployment ∈ deployments node dcd) (listed : id ∈ deployment.ids) :
    (attempts.flatMap (launchIds node dcd)).count id =
      if deployment.canDeploy node dcd then
        (attempts.map object).count deployment.object
      else 0 := by
  induction attempts with
  | nil => simp
  | cons other rest ih =>
      obtain ⟨known, within⟩ := cons_subset.mp within
      rw [flatMap_cons, count_append, ih within, map_cons, count_cons]
      by_cases same : other.object = deployment.object
      · have equal := byObject_deployments other known deployment member same
        subst equal
        unfold launchIds
        cases other.canDeploy node dcd with
        | false => simp
        | true =>
            simp only [if_true, beq_self_eq_true]
            rw [count_eq_one_of_mem (ids_nodup member) listed, Nat.add_comm]
      · have none : (other.launchIds node dcd).count id = 0 := by
          refine count_eq_zero_of_not_mem fun launched => ?_
          unfold launchIds at launched
          split at launched
          · exact same (congrArg _ (eq_of_shared known member launched listed))
          · cases launched
        simp [none, same]

theorem fromParent_cases (parent : String) (placements : List (Deployment Value Ref)) :
    (∃ before deployment after, placements = before ++ deployment :: after ∧
      deployment.deploys node ∧ parent ∈ deployment.ids ∧
      fromParent node parent placements = deployment :: after) ∨
    (fromParent node parent placements = [] ∧
      ∀ deployment ∈ placements, deployment.deploys node → parent ∉ deployment.ids) := by
  induction placements with
  | nil => exact .inr ⟨rfl, by simp⟩
  | cons other rest ih =>
      unfold fromParent at ih ⊢
      rw [dropWhile_cons]
      by_cases matched : other.deploys node = true ∧ parent ∈ other.ids
      · refine .inl ⟨[], other, rest, rfl, matched.1, matched.2, ?_⟩
        simp [matched.1, matched.2]
      · rw [if_pos (by grind)]
        rcases ih with ⟨before, deployment, after, rfl, deploys, listed, found⟩ | ⟨none, all⟩
        · exact .inl ⟨other :: before, deployment, after, rfl, deploys, listed, found⟩
        · exact .inr ⟨none, forall_mem_cons.mpr ⟨fun deploys listed =>
            matched ⟨deploys, listed⟩, all⟩⟩

theorem fromParent_pos_iff (parent : String) :
    0 < (fromParent node parent (standalonePlacements node dcd)).length ↔ ParentDeployed node dcd parent := by
  rcases @fromParent_cases _ _ node parent (standalonePlacements node dcd) with
    ⟨before, deployment, after, split, deploys, listed, found⟩ | ⟨none, all⟩
  · rw [found]
    exact iff_of_true (Nat.succ_pos _) ⟨deployment, by simp [split], deploys, listed⟩
  · rw [none]
    refine iff_of_false (Nat.lt_irrefl 0) ?_
    rintro ⟨deployment, member, deploys, listed⟩
    exact all deployment member deploys listed

theorem fromParent_one_iff {parent : String} (deployed : ParentDeployed node dcd parent) :
    (fromParent node parent (standalonePlacements node dcd)).length = 1 ↔
      ∃ last, (standalonePlacements node dcd).getLast? = some last ∧ parent ∈ last.ids := by
  rcases @fromParent_cases _ _ node parent (standalonePlacements node dcd) with
    ⟨before, deployment, after, split, deploys, listed, found⟩ | ⟨none, all⟩
  · have nodup : ((standalonePlacements node dcd).map object).Nodup :=
      objects_nodup.sublist (filter_sublist.map _)
    rw [found]
    cases after with
    | nil =>
        refine iff_of_true rfl ⟨deployment, ?_, listed⟩
        rw [split, getLast?_concat]
    | cons other after =>
        refine iff_of_false (by simp) ?_
        rintro ⟨last, ends, named⟩
        have behind : last ∈ other :: after := by
          rw [split, getLast?_append_of_ne_nil _ (cons_ne_nil _ _), getLast?_cons_cons] at ends
          exact mem_of_getLast? ends
        have same : deployment = last :=
          eq_of_shared (standalone_subset (split ▸ mem_append_right _ mem_cons_self))
            (standalone_subset (split ▸ mem_append_right _ (mem_cons_of_mem _ behind)))
            listed named
        subst same
        rw [split, map_append, map_cons] at nodup
        exact (nodup_cons.mp nodup.of_append_right).1 (mem_map_of_mem behind)
  · obtain ⟨deployment, member, deploys, listed⟩ := deployed
    exact absurd listed (all deployment member deploys)

theorem exists_parent (member : deployment ∈ compositePlacements node dcd) :
    ∃ parent, deployment.placement.compositePartOfDeviceID = some parent :=
  isSome_iff_exists.mp (Bool.and_eq_true_iff.mp (mem_filter.mp member).2).1

theorem compositePart (member : deployment ∈ compositePlacements node dcd) {parent : String}
    (part : deployment.placement.compositePartOfDeviceID = some parent) :
    deployment.isCompositePart = true ∧
      (compositeAttempts node (standalonePlacements node dcd) deployment).length =
        (fromParent node parent (standalonePlacements node dcd)).length := by
  refine ⟨(mem_filter.mp member).2, ?_⟩
  rw [compositeAttempts, length_replicate, part]
  rfl

variable {manager : Manager Value Ref}

theorem Placed.count_launch (placed : Placed node dcd (allAttempts node dcd) manager)
    (member : deployment ∈ deployments node dcd) (listed : id ∈ deployment.ids) :
    (manager.launches.map Launch.id).count id =
      if deployment.canDeploy node dcd then
        if deployment.isCompositePart then
          (compositeAttempts node (standalonePlacements node dcd) deployment).length
        else 1
      else 0 := by
  rw [placed.launched, count_launched allAttempts_subset member listed, count_allAttempts member]

theorem Placed.mem_launches (placed : Placed node dcd (allAttempts node dcd) manager) :
    id ∈ manager.launches.map Launch.id ↔
      ∃ deployment ∈ allAttempts node dcd, id ∈ deployment.launchIds node dcd := by
  rw [placed.launched, mem_flatMap]

theorem mem_launchIds :
    id ∈ deployment.launchIds node dcd ↔ deployment.canDeploy node dcd = true ∧ id ∈ deployment.ids := by
  unfold launchIds
  split <;> simp [*]

theorem Placed.findProfile (placed : Placed node dcd (allAttempts node dcd) manager)
    (member : deployment ∈ allAttempts node dcd)
    (deploys : deployment.deploys node = true) {last : ComponentInstantiation Ref}
    (ends : deployment.placement.instantiations.getLast? = some last)
    (listed : id ∈ deployment.ids) :
    manager.findProfile id =
      if last.instantiationId = id then some (manager.profileOf deployment) else none := by
  have joins : ∀ other : Deployment Value Ref, other.deploys node = true → other.joins node = true :=
    fun other deploys => (Bool.and_eq_true_iff.mp deploys).1
  have within : ∀ other ∈ manager.deployed_comps, other ∈ allAttempts node dcd ∧ other.deploys node = true := by
    intro other found
    rw [placed.deployed] at found
    obtain ⟨same, tried, made⟩ := mem_flatMap.mp found
    split at made
    next deploys =>
      rw [eq_of_mem_replicate made]
      exact ⟨tried, deploys⟩
    next => cases made
  have only : ∀ other ∈ manager.deployed_comps,
      (manager.profileOf other).instantiationId = id → other = deployment := by
    intro other found named
    obtain ⟨tried, reached⟩ := within other found
    obtain ⟨own, finish⟩ : ∃ own, other.placement.instantiations.getLast? = some own :=
      ⟨_, getLast?_eq_some_getLast (cons_ne_nil _ _)⟩
    rw [placed.last other tried (joins other reached) own finish] at named
    refine eq_of_shared (allAttempts_subset tried) (allAttempts_subset member) ?_ listed
    rw [← named]
    exact mem_map_of_mem (mem_of_getLast? finish)
  have here : (manager.profileOf deployment).instantiationId = last.instantiationId :=
    placed.last deployment member (joins deployment deploys) last ends
  unfold Manager.findProfile
  by_cases named : last.instantiationId = id
  · rw [if_pos named]
    have listed : deployment ∈ manager.deployed_comps := by
      rw [placed.deployed]
      refine mem_flatMap.mpr ⟨deployment, member, ?_⟩
      rw [if_pos deploys]
      exact mem_replicate.mpr ⟨by simp [DevicePlacement.instantiations], rfl⟩
    cases search : manager.deployed_comps.find? fun deployment =>
        (manager.profileOf deployment).instantiationId == id with
    | none =>
        have none := find?_eq_none.mp search deployment listed
        rw [here, named] at none
        simp at none
    | some other =>
        have found := find?_some search
        rw [only other (mem_of_find?_eq_some search) (by simpa using found)]
        rfl
  · rw [if_neg named]
    rw [map_eq_none_iff, find?_eq_none]
    intro other found matched
    have same := only other found (by simpa using matched)
    rw [same, here] at matched
    exact named (by simpa using matched)

theorem isCompositePart_of_standalone
    (member : deployment ∈ standalonePlacements node dcd) : deployment.isCompositePart = false := by
  simpa using (mem_filter.mp member).2

theorem mem_allAttempts_standalone
    (member : deployment ∈ standalonePlacements node dcd) : deployment ∈ allAttempts node dcd :=
  mem_append_left _ member

theorem mem_allAttempts_composite (member : deployment ∈ compositePlacements node dcd) {parent : String}
    (part : deployment.placement.compositePartOfDeviceID = some parent) :
    deployment ∈ allAttempts node dcd ↔ ParentDeployed node dcd parent := by
  obtain ⟨is, times⟩ := compositePart member part
  rw [← fromParent_pos_iff, ← times]
  have counted := count_allAttempts (composite_subset member)
  rw [is, if_pos rfl] at counted
  rw [← counted, count_pos_iff]
  constructor
  · exact mem_map_of_mem
  · intro tried
    obtain ⟨other, found, same⟩ := mem_map.mp tried
    rwa [byObject_deployments other (allAttempts_subset found) deployment (composite_subset member) same] at found

theorem first_mem_ids (deployment : Deployment Value Ref) :
    deployment.placement.first.instantiationId ∈ deployment.ids :=
  mem_cons_self

theorem LaunchedOnce.launched (kept : LaunchedOnce node dcd manager)
    (member : deployment ∈ deployments node dcd) (listed : id ∈ deployment.ids)
    (launched : id ∈ manager.launches.map Launch.id) :
    deployment.Wanted node dcd manager ∧ (manager.launches.map Launch.id).count id = 1 := by
  by_cases wanted : deployment.Wanted node dcd manager
  · exact ⟨wanted, kept.once deployment member wanted id listed⟩
  · exact absurd launched (kept.none deployment member wanted id listed)

section Necessary

variable (placed : Placed node dcd (allAttempts node dcd) manager)
  (kept : LaunchedOnce node dcd manager)
include placed kept

theorem single_of_found {deployment : Deployment Value Ref}
    (member : deployment ∈ allAttempts node dcd) (can : deployment.canDeploy node dcd = true) :
    deployment.placement.others = [] := by
  have known := allAttempts_subset member
  have launched : deployment.placement.first.instantiationId ∈ manager.launches.map Launch.id :=
    placed.mem_launches.mpr ⟨deployment, member, mem_launchIds.mpr ⟨can, first_mem_ids deployment⟩⟩
  obtain ⟨launch, listed, named⟩ := mem_map.mp launched
  have found := kept.found launch listed
  rw [named] at found
  cases others : deployment.placement.others with
  | nil => rfl
  | cons other rest =>
      obtain ⟨last, ends⟩ : ∃ last, deployment.placement.instantiations.getLast? = some last :=
        ⟨_, getLast?_eq_some_getLast (cons_ne_nil _ _)⟩
      rw [placed.findProfile member (Bool.and_eq_true_iff.mp can).1 ends (first_mem_ids deployment)]
        at found
      split at found
      next same =>
        have nodup := ids_nodup known
        have behind : last ∈ other :: rest := by
          rw [DevicePlacement.instantiations, others, getLast?_cons_cons] at ends
          exact mem_of_getLast? ends
        rw [ids, DevicePlacement.ids, DevicePlacement.instantiations, others,
          map_cons, nodup_cons, ← same] at nodup
        exact absurd (mem_map_of_mem behind) nodup.1
      next => cases found

theorem orderly_of_once
    (placeable : ∀ before deployment after, allAttempts node dcd = before ++ deployment :: after →
      Manager.Placeable node dcd deployment (before.flatMap (launchIds node dcd))) :
    Orderly node dcd := by
  have launches : ∀ deployment ∈ allAttempts node dcd, deployment.canDeploy node dcd = true →
      deployment.Wanted node dcd manager ∧
        (manager.launches.map Launch.id).count deployment.placement.first.instantiationId = 1 :=
    fun deployment member can => kept.launched (allAttempts_subset member)
      (first_mem_ids deployment) (placed.mem_launches.mpr
        ⟨deployment, member, mem_launchIds.mpr ⟨can, first_mem_ids deployment⟩⟩)
  have quiet : ∀ deployment ∈ allAttempts node dcd, deployment.canDeploy node dcd = true →
      node.raises deployment.placement.first.instantiationId = false := by
    intro deployment member can
    obtain ⟨before, after, split⟩ := append_of_mem member
    have joins := (Bool.and_eq_true_iff.mp (Bool.and_eq_true_iff.mp can).1).1
    exact (placeable before deployment after split joins).2 can _ (first_mem_ids deployment)
  constructor
  · intro before deployment after split joins parent part asked
    have whole : allAttempts node dcd = before ++ deployment :: (after ++
        (compositePlacements node dcd).flatMap
          (compositeAttempts node (standalonePlacements node dcd))) := by
      rw [allAttempts, split, append_assoc, cons_append]
    refine (placeable before deployment _ whole joins).1 parent part ?_
    rcases asked with listed | can
    · exact listed
    · have launched := (launches deployment (by rw [whole]; simp) can).1.2 parent part
      obtain ⟨other, tried, own⟩ := placed.mem_launches.mp launched
      exact ids_subset (allAttempts_subset tried) (mem_launchIds.mp own).2
  · intro deployment member can
    have tried := mem_allAttempts_standalone member
    exact ⟨single_of_found placed kept tried can, quiet deployment tried can⟩
  · intro deployment member joins parent part deployed
    have tried := (mem_allAttempts_composite member part).mpr deployed
    obtain ⟨before, after, split⟩ := append_of_mem tried
    obtain ⟨host, standalone, deploys, listed⟩ := deployed
    obtain ⟨launched, registers⟩ := (placeable before deployment after split joins).1 parent part
      (ids_subset (standalone_subset standalone) listed)
    obtain ⟨other, early, own⟩ := mem_flatMap.mp launched
    have same : other = host := by
      refine eq_of_shared (allAttempts_subset ?_) (standalone_subset standalone)
        (mem_launchIds.mp own).2 listed
      rw [split]
      exact mem_append_left _ early
    subst same
    refine ⟨mem_flatMap.mpr ⟨other, standalone, own⟩, registers, fun can => ⟨?_,
      single_of_found placed kept tried can, quiet deployment tried can⟩⟩
    obtain ⟨is, times⟩ := compositePart member part
    have once := (launches deployment tried can).2
    rw [placed.count_launch (composite_subset member) (first_mem_ids deployment), if_pos can, is,
      if_pos rfl, times] at once
    exact (fromParent_one_iff ⟨other, standalone, deploys, listed⟩).mp once
  · intro deployment member can parent part other composite own device hosted deployed
    have tried := (mem_allAttempts_composite composite hosted).mpr deployed
    have wanted : deployment.Wanted node dcd manager := by
      refine ⟨can, fun _ named => ?_⟩
      rw [part] at named
      cases named
      exact placed.mem_launches.mpr ⟨other, tried, own⟩
    have once := kept.once deployment (composite_subset member) wanted _ (first_mem_ids deployment)
    obtain ⟨is, times⟩ := compositePart member part
    rw [placed.count_launch (composite_subset member) (first_mem_ids deployment), if_pos can, is,
      if_pos rfl, times] at once
    have there : ParentDeployed node dcd parent := (fromParent_pos_iff parent).mp (by omega)
    obtain ⟨host, standalone, -, listed⟩ := there
    have same := eq_of_shared (standalone_subset standalone) (composite_subset composite) listed
      (mem_launchIds.mp own).2
    rw [same] at standalone
    have alone := isCompositePart_of_standalone standalone
    rw [(mem_filter.mp composite).2] at alone
    cases alone

end Necessary

theorem split_allAttempts {before after : List (Deployment Value Ref)}
    (split : allAttempts node dcd = before ++ deployment :: after) :
    (∃ rest, standalonePlacements node dcd = before ++ deployment :: rest) ∨
    (deployment ∈ compositePlacements node dcd ∧ standalonePlacements node dcd ⊆ before) := by
  have later : ∀ rest : List (Deployment Value Ref),
      (compositePlacements node dcd).flatMap
        (compositeAttempts node (standalonePlacements node dcd)) = rest ++ deployment :: after →
      deployment ∈ compositePlacements node dcd := by
    intro rest made
    have tried : deployment ∈ (compositePlacements node dcd).flatMap
        (compositeAttempts node (standalonePlacements node dcd)) := by
      rw [made]
      simp
    obtain ⟨composite, member, again⟩ := mem_flatMap.mp tried
    rwa [eq_of_mem_replicate again]
  rcases append_eq_append_iff.mp split with ⟨more, front, back⟩ | ⟨more, front, back⟩
  · refine .inr ⟨later more back, ?_⟩
    rw [front]
    exact subset_append_left ..
  · cases more with
    | nil =>
        refine .inr ⟨later [] back.symm, ?_⟩
        rw [front, append_nil]
        exact Subset.refl _
    | cons other rest =>
        obtain ⟨rfl, -⟩ := cons.inj back
        exact .inl ⟨rest, front⟩

theorem Orderly.placeable (orderly : Orderly node dcd) {before after : List (Deployment Value Ref)}
    (split : allAttempts node dcd = before ++ deployment :: after) :
    Manager.Placeable node dcd deployment (before.flatMap (launchIds node dcd)) := by
  have only : ∀ id ∈ deployment.ids, deployment.placement.others = [] →
      node.raises deployment.placement.first.instantiationId = false → node.raises id = false := by
    intro id listed single quiet
    rw [ids, DevicePlacement.ids, DevicePlacement.instantiations, single] at listed
    rw [mem_singleton.mp listed]
    exact quiet
  intro joins
  rcases split_allAttempts split with ⟨rest, standalone⟩ | ⟨composite, all⟩
  · have member : deployment ∈ standalonePlacements node dcd := by
      rw [standalone]
      simp
    refine ⟨fun parent part listed => orderly.parents before deployment rest standalone joins parent
      part (.inl listed), fun can id listed => ?_⟩
    obtain ⟨single, quiet⟩ := orderly.single deployment member can
    exact only id listed single quiet
  · obtain ⟨parent, part⟩ := exists_parent composite
    have tried : deployment ∈ allAttempts node dcd := by
      rw [split]
      simp
    obtain ⟨launched, registers, found⟩ := orderly.composites deployment composite joins parent part
      ((mem_allAttempts_composite composite part).mp tried)
    refine ⟨fun _ named _ => ?_, fun can id listed => ?_⟩
    · rw [part] at named
      cases named
      obtain ⟨host, standalone, own⟩ := mem_flatMap.mp launched
      exact ⟨mem_flatMap.mpr ⟨host, all standalone, own⟩, registers⟩
    · obtain ⟨-, single, quiet⟩ := found can
      exact only id listed single quiet

section Sufficient

variable (orderly : Orderly node dcd) (placed : Placed node dcd (allAttempts node dcd) manager)
include orderly placed

variable {deployment : Deployment Value Ref}

theorem Orderly.wanted (tried : deployment ∈ allAttempts node dcd) (can : deployment.canDeploy node dcd = true) :
    deployment.Wanted node dcd manager ∧ deployment.placement.others = [] ∧
      ((allAttempts node dcd).map object).count deployment.object = 1 := by
  have joins := (Bool.and_eq_true_iff.mp (Bool.and_eq_true_iff.mp can).1).1
  have counted := count_allAttempts (allAttempts_subset tried)
  obtain ⟨before, after, split⟩ := append_of_mem tried
  rcases split_allAttempts split with ⟨rest, standalone⟩ | ⟨composite, -⟩
  · have member : deployment ∈ standalonePlacements node dcd := by
      rw [standalone]
      simp
    rw [isCompositePart_of_standalone member] at counted
    refine ⟨⟨can, fun parent part => ?_⟩, (orderly.single deployment member can).1, counted⟩
    obtain ⟨launched, -⟩ := orderly.parents before deployment rest standalone joins parent part
      (.inr can)
    obtain ⟨host, early, own⟩ := mem_flatMap.mp launched
    refine placed.mem_launches.mpr ⟨host, ?_, own⟩
    rw [split]
    exact mem_append_left _ early
  · obtain ⟨parent, part⟩ := exists_parent composite
    obtain ⟨is, times⟩ := compositePart composite part
    have deployed := (mem_allAttempts_composite composite part).mp tried
    obtain ⟨launched, -, found⟩ := orderly.composites deployment composite joins parent part deployed
    obtain ⟨last, single, -⟩ := found can
    rw [is, if_pos rfl, times, (fromParent_one_iff deployed).mpr last] at counted
    refine ⟨⟨can, fun _ named => ?_⟩, single, counted⟩
    rw [part] at named
    cases named
    obtain ⟨host, standalone, own⟩ := mem_flatMap.mp launched
    exact placed.mem_launches.mpr ⟨host, mem_allAttempts_standalone standalone, own⟩

theorem Orderly.tried (member : deployment ∈ deployments node dcd)
    (wanted : deployment.Wanted node dcd manager) : deployment ∈ allAttempts node dcd := by
  cases part : deployment.isCompositePart with
  | false => exact mem_allAttempts_standalone (mem_filter.mpr ⟨member, by simp [part]⟩)
  | true =>
      have composite : deployment ∈ compositePlacements node dcd := mem_filter.mpr ⟨member, part⟩
      obtain ⟨parent, named⟩ := exists_parent composite
      refine (mem_allAttempts_composite composite named).mpr ?_
      obtain ⟨host, early, own⟩ := placed.mem_launches.mp (wanted.2 parent named)
      obtain ⟨can, listed⟩ := mem_launchIds.mp own
      cases hosted : host.isCompositePart with
      | false =>
          exact ⟨host, mem_filter.mpr ⟨allAttempts_subset early, by simp [hosted]⟩,
            (Bool.and_eq_true_iff.mp can).1, listed⟩
      | true =>
          have library : host ∈ compositePlacements node dcd :=
            mem_filter.mpr ⟨allAttempts_subset early, hosted⟩
          obtain ⟨device, on⟩ := exists_parent library
          exact absurd ((mem_allAttempts_composite library on).mp early)
            (orderly.nested deployment composite wanted.1 parent named host library own device on)

theorem Orderly.once (tried : deployment ∈ allAttempts node dcd)
    (can : deployment.canDeploy node dcd = true) {id : String} (listed : id ∈ deployment.ids) :
    (manager.launches.map Launch.id).count id = 1 := by
  rw [placed.launched, count_launched allAttempts_subset (allAttempts_subset tried) listed, if_pos can]
  exact (orderly.wanted placed tried can).2.2

theorem Orderly.launch {launch : Launch Value Ref} (member : launch ∈ manager.launches) :
    ∃ deployment ∈ allAttempts node dcd, deployment.canDeploy node dcd = true ∧
      deployment.placement.others = [] ∧ launch.id = deployment.placement.first.instantiationId ∧
      launch.IsOwn node dcd deployment deployment.placement.first ∧
      manager.profileOf deployment = launch.profile := by
  obtain ⟨deployment, tried, own⟩ := placed.mem_launches.mp (mem_map_of_mem member)
  obtain ⟨can, listed⟩ := mem_launchIds.mp own
  obtain ⟨-, single, once⟩ := orderly.wanted placed tried can
  obtain ⟨other, launched, own, profile⟩ := placed.own deployment tried once single can
  have named : launch.id = deployment.placement.first.instantiationId := by
    rw [ids, DevicePlacement.ids, DevicePlacement.instantiations, single] at listed
    exact mem_singleton.mp listed
  have nodup : (manager.launches.map Launch.id).Nodup := by
    rw [nodup_iff_count_le_one]
    intro id
    by_cases there : id ∈ manager.launches.map Launch.id
    · obtain ⟨deployment, tried, own⟩ := placed.mem_launches.mp there
      obtain ⟨can, listed⟩ := mem_launchIds.mp own
      exact Nat.le_of_eq (orderly.once placed tried can listed)
    · rw [count_eq_zero_of_not_mem there]
      exact Nat.zero_le 1
  have same : launch = other := by
    refine inj_on_of_nodup_map nodup member launched ?_
    rw [named, Launch.id, own.context]
  subst same
  exact ⟨deployment, tried, can, single, named, own, profile⟩

theorem Orderly.launchedOnce : LaunchedOnce node dcd manager where
  once deployment member wanted id listed :=
    orderly.once placed (orderly.tried placed member wanted) wanted.1 listed
  none deployment member unwanted id listed launched := by
    obtain ⟨other, tried, own⟩ := placed.mem_launches.mp launched
    obtain ⟨can, own⟩ := mem_launchIds.mp own
    have same := eq_of_shared (allAttempts_subset tried) member own listed
    subst same
    exact unwanted (orderly.wanted placed tried can).1
  own launch member := by
    obtain ⟨deployment, tried, -, -, -, own, -⟩ := orderly.launch placed member
    exact ⟨deployment, allAttempts_subset tried, _, mem_cons_self, own⟩
  found launch member := by
    obtain ⟨deployment, tried, can, single, named, -, profile⟩ := orderly.launch placed member
    have ends : deployment.placement.instantiations.getLast? = some deployment.placement.first := by
      rw [DevicePlacement.instantiations, single]
      rfl
    rw [named, placed.findProfile tried (Bool.and_eq_true_iff.mp can).1 ends
      (first_mem_ids deployment), if_pos rfl, profile]

end Sufficient

/-- A node starts up as promised if and only if its configuration is orderly. -/
theorem startsUp_iff (node : Node Value Ref) (dcd : DeviceConfiguration Ref) :
    StartsUp node dcd ↔ Orderly node dcd := by
  have within : [] ++ allAttempts node dcd ⊆ deployments node dcd := allAttempts_subset
  have run_ok := placed_initial.run_ok_iff within
  have books : ∀ manager, postConstructor node dcd = .ok manager →
      Placed node dcd (allAttempts node dcd) manager := by
    intro manager done
    rw [postConstructor_eq] at done
    exact placed_initial.run within done
  rw [← postConstructor_eq] at run_ok
  constructor
  · rintro ⟨manager, done, kept⟩
    exact orderly_of_once (books manager done) kept (run_ok.mp ⟨manager, done⟩)
  · intro orderly
    obtain ⟨manager, done⟩ := run_ok.mpr fun before deployment after split =>
      orderly.placeable split
    exact ⟨manager, done, orderly.launchedOnce (books manager done)⟩

def plainNode (profiles : String → Option (ProgramProfile Nat)) : Node Nat Nat where
  loadProfile := profiles
  joinPRFProperties _ := none
  normalize path file := path ++ file
  getLocalPath file := file
  fileExists _ := true
  executable _ := true
  overridePropertyValue _ ref := ref.value
  simpleValue value := value
  affinityProperty _ := none
  registered id := id
  isExecutableDevice _ := true
  raises _ := false

def plainProfile (name : String) (codeType : CodeType) : ProgramProfile Nat where
  spdFileName := name
  spdPath := "/"
  selectedImplementation := ⟨name, codeType, "", name⟩
  componentType := "device"
  prf := []
  configureProperties := []
  ctorProperties := []
  options := []
  factoryParameters := []
  execParameters := []
  affinityOptions := []
  identifier := ""
  instantiationId := ""
  namingServiceName := ""
  usageName := ""
  loggingConfig := ("", "")

def plainPlacement (id : String) (parent : Option String) : DevicePlacement Nat :=
  ⟨id, parent, ⟨id, id, "", [], [], ("", "")⟩, []⟩

def personaNode : Node Nat Nat :=
  plainNode fun file =>
    some (plainProfile file (if file = "persona" then .sharedLibrary else .executable))

def personaConfiguration : DeviceConfiguration Nat where
  componentPlacements :=
    [plainPlacement "parent" none, plainPlacement "other" none, plainPlacement "persona" (some "parent")]
  unique := by decide

theorem persona_launched_twice :
    (postConstructor personaNode personaConfiguration).toOption.map
        (fun manager => manager.launches.map Launch.id) =
      some ["parent", "other", "persona", "persona"] ∧
    ¬StartsUp personaNode personaConfiguration := by
  have launches : (postConstructor personaNode personaConfiguration).toOption.map
      (fun manager => manager.launches.map Launch.id) = some ["parent", "other", "persona", "persona"] := by
    decide
  refine ⟨launches, ?_⟩
  rintro ⟨manager, done, kept⟩
  rw [done] at launches
  have listed : manager.launches.map Launch.id = ["parent", "other", "persona", "persona"] :=
    some.inj launches
  have launched : "persona" ∈ manager.launches.map Launch.id := by
    rw [listed]
    decide
  obtain ⟨launch, member, named⟩ := mem_map.mp launched
  obtain ⟨deployment, known, instantiation, own, own'⟩ := kept.own launch member
  have shown : "persona" ∈ deployment.ids := by
    rw [← named, Launch.id, own'.context]
    exact mem_map_of_mem own
  have once := (kept.launched known shown launched).2
  rw [listed] at once
  exact absurd once (by decide)

end Redhawk.Nodes
