import Redhawk.Library.Lists
import Redhawk.Nodes.NodePlacements

/-!
What the attempts to place components leave behind: the launches, the list of what was deployed and
the profile objects, for any sequence of attempts.
-/

namespace Redhawk.Nodes

open List Option

variable {Value Ref : Type} (node : Node Value Ref) (dcd : DeviceConfiguration Ref)

namespace Deployment

def parentIOR (deployment : Deployment Value Ref) : String :=
  match deployment.placement.compositePartOfDeviceID with
  | none => ""
  | some parent => if parent ∈ dcd.ids then node.registered parent else ""

def joins (deployment : Deployment Value Ref) : Bool :=
  (deployment.loaded.addDeviceImplProperties node).isSome

def reaches (deployment : Deployment Value Ref) : Bool :=
  (deployment.codeFilePath node).isSome && deployment.componentType.isSome

def deploys (deployment : Deployment Value Ref) : Bool :=
  deployment.joins node && deployment.reaches node

def granted (deployment : Deployment Value Ref) : Bool :=
  if deployment.loaded.isSharedLibrary then
    deployment.placement.compositePartOfDeviceID.isSome &&
      node.isExecutableDevice (deployment.parentIOR node dcd)
  else (deployment.codeFilePath node).any node.executable

def canDeploy (deployment : Deployment Value Ref) : Bool :=
  deployment.deploys node && deployment.granted node dcd

def ownProfile (deployment : Deployment Value Ref) (instantiation : ComponentInstantiation Ref) :
    Option (ProgramProfile Value) :=
  (deployment.loaded.addDeviceImplProperties node).map fun profile =>
    (profile.setInstantiation node instantiation).overrideProperties node instantiation

def launchIds (deployment : Deployment Value Ref) : List String :=
  if deployment.canDeploy node dcd then deployment.ids else []

end Deployment

structure Launch.IsOwn (launch : Launch Value Ref) (deployment : Deployment Value Ref)
    (instantiation : ComponentInstantiation Ref) : Prop where
  context : launch.instantiation = instantiation
  usageName : launch.usageName = Manager.createUsageName instantiation
  componentType : deployment.componentType = some launch.componentType
  codeFilePath : deployment.codeFilePath node = some launch.codeFilePath
  compositeDeviceIOR : launch.compositeDeviceIOR = deployment.parentIOR node dcd
  profile : deployment.ownProfile node instantiation = some launch.profile

namespace ProgramProfile

theorem overrideProperty_kept (profile : ProgramProfile Value) (propref : ComponentProperty Ref) :
    (profile.overrideProperty node propref).selectedImplementation = profile.selectedImplementation ∧
      (profile.overrideProperty node propref).instantiationId = profile.instantiationId := by
  unfold overrideProperty
  split
  · exact ⟨rfl, rfl⟩
  · split
    · exact ⟨rfl, rfl⟩
    · unfold overrideValue
      repeat' split
      all_goals exact ⟨rfl, rfl⟩

theorem overrideProperties_kept (profile : ProgramProfile Value) (instantiation : ComponentInstantiation Ref) :
    (profile.overrideProperties node instantiation).selectedImplementation = profile.selectedImplementation ∧
      (profile.overrideProperties node instantiation).instantiationId = profile.instantiationId := by
  unfold overrideProperties
  induction instantiation.properties generalizing profile with
  | nil => exact ⟨rfl, rfl⟩
  | cons propref rest ih =>
      obtain ⟨implementation, id⟩ := ih (profile.overrideProperty node propref)
      obtain ⟨implementation', id'⟩ := profile.overrideProperty_kept node propref
      exact ⟨implementation.trans implementation', id.trans id'⟩

theorem foldl_kept {Item : Type} {add : ProgramProfile Value → Item → ProgramProfile Value}
    (keeps : ∀ profile item, (add profile item).selectedImplementation = profile.selectedImplementation)
    (items : List Item) (profile : ProgramProfile Value) :
    (items.foldl add profile).selectedImplementation = profile.selectedImplementation := by
  induction items generalizing profile with
  | nil => rfl
  | cons item rest ih => rw [foldl_cons, ih, keeps]

theorem addDeviceImplProperties_kept {profile joined : ProgramProfile Value}
    (done : profile.addDeviceImplProperties node = some joined) :
    joined.selectedImplementation = profile.selectedImplementation := by
  obtain ⟨devProps, -, rfl⟩ := map_eq_some_iff.mp done
  rw [foldl_kept, foldl_kept, foldl_kept, foldl_kept]
  · intro profile prop
    rfl
  · intro profile prop
    rfl
  · intro profile prop
    rfl
  · intro profile prop
    split <;> rfl

theorem addDeviceImplProperties_isSome {one other : ProgramProfile Value}
    (same : one.selectedImplementation = other.selectedImplementation) :
    (one.addDeviceImplProperties node).isSome = (other.addDeviceImplProperties node).isSome := by
  unfold addDeviceImplProperties
  rw [isSome_map, isSome_map, same]

end ProgramProfile

namespace Manager

variable {node dcd} {manager next : Manager Value Ref} {deployment : Deployment Value Ref}

@[simp]
theorem profileOf_setProfile (profile : ProgramProfile Value) :
    (manager.setProfile deployment profile).profileOf deployment = profile := by
  simp [profileOf, setProfile]

@[simp]
theorem profileOf_deploy (other : Deployment Value Ref) :
    (manager.deploy other).profileOf deployment = manager.profileOf deployment := rfl

@[simp]
theorem profileOf_launch (launch : Launch Value Ref) :
    (manager.launch launch).profileOf deployment = manager.profileOf deployment := rfl

@[simp]
theorem setProfile_deploy (one other : ProgramProfile Value) :
    ((manager.setProfile deployment one).deploy deployment).setProfile deployment other =
      (manager.setProfile deployment other).deploy deployment := by
  simp [setProfile, deploy, Function.update_idem]

structure Touches (deployment : Deployment Value Ref) (manager next : Manager Value Ref) : Prop where
  others : ∀ object ≠ deployment.object, next.profiles object = manager.profiles object
  implementation : (next.profileOf deployment).selectedImplementation =
    (manager.profileOf deployment).selectedImplementation

theorem Touches.trans {last : Manager Value Ref} (first : Touches deployment manager next)
    (second : Touches deployment next last) : Touches deployment manager last where
  others object other := (second.others object other).trans (first.others object other)
  implementation := second.implementation.trans first.implementation

structure Turn (node : Node Value Ref) (dcd : DeviceConfiguration Ref)
    (deployment : Deployment Value Ref) (instantiations : List (ComponentInstantiation Ref))
    (manager next : Manager Value Ref) : Prop where
  touches : Touches deployment manager next
  grows : manager.launches ⊆ next.launches
  deployed : next.deployed_comps = manager.deployed_comps ++
    if deployment.reaches node then replicate instantiations.length deployment else []
  launched : next.launches.map Launch.id = manager.launches.map Launch.id ++
    if deployment.reaches node && deployment.granted node dcd then
      instantiations.map ComponentInstantiation.instantiationId
    else []
  last : ∀ instantiation, instantiations.getLast? = some instantiation →
    (next.profileOf deployment).instantiationId = instantiation.instantiationId

theorem placeInstantiation_out (out : deployment.reaches node = false) (ior : String)
    (instantiation : ComponentInstantiation Ref) :
    manager.placeInstantiation node deployment ior instantiation =
      .ok (manager.setProfile deployment
        ((manager.profileOf deployment).setInstantiation node instantiation)) := by
  unfold placeInstantiation
  unfold Deployment.reaches at out
  cases code : deployment.codeFilePath node with
  | none => rfl
  | some codeFilePath =>
      cases type : deployment.componentType with
      | none => rfl
      | some componentType => simp [code, type] at out

theorem placeInstantiation_reaches {codeFilePath componentType : String}
    (code : deployment.codeFilePath node = some codeFilePath)
    (type : deployment.componentType = some componentType)
    (instantiation : ComponentInstantiation Ref) :
    let profile := ((manager.profileOf deployment).setInstantiation node
      instantiation).overrideProperties node instantiation
    let placed := (manager.setProfile deployment profile).deploy deployment
    manager.placeInstantiation node deployment (deployment.parentIOR node dcd) instantiation =
      if deployment.granted node dcd then
        if node.raises instantiation.instantiationId then .error .raised
        else .ok (placed.launch ⟨instantiation, createUsageName instantiation, componentType,
          codeFilePath, deployment.parentIOR node dcd, profile⟩)
      else .ok placed := by
  have granted : deployment.granted node dcd =
      !(if deployment.loaded.isSharedLibrary then
          deployment.placement.compositePartOfDeviceID.isNone ||
            !node.isExecutableDevice (deployment.parentIOR node dcd)
        else !node.executable codeFilePath) := by
    unfold Deployment.granted
    rw [code]
    split <;> simp
  unfold placeInstantiation
  rw [code, type, granted]
  simp only [createDeviceThreadAndHandleExceptions, createDeviceThread, profileOf_deploy,
    profileOf_setProfile, setProfile_deploy, Launch.id]
  cases (if deployment.loaded.isSharedLibrary then
      deployment.placement.compositePartOfDeviceID.isNone ||
        !node.isExecutableDevice (deployment.parentIOR node dcd)
    else !node.executable codeFilePath) <;> rfl

theorem placeInstantiation_ok_iff (manager : Manager Value Ref) (instantiation : ComponentInstantiation Ref) :
    (∃ next, manager.placeInstantiation node deployment (deployment.parentIOR node dcd)
      instantiation = .ok next) ↔
      (deployment.reaches node && deployment.granted node dcd →
        node.raises instantiation.instantiationId = false) := by
  cases reach : deployment.reaches node with
  | false => simp [placeInstantiation_out reach]
  | true =>
      obtain ⟨code, type⟩ := Bool.and_eq_true_iff.mp reach
      obtain ⟨codeFilePath, code⟩ := isSome_iff_exists.mp code
      obtain ⟨componentType, type⟩ := isSome_iff_exists.mp type
      rw [placeInstantiation_reaches code type]
      cases deployment.granted node dcd <;> cases node.raises instantiation.instantiationId <;> simp

variable {instantiation : ComponentInstantiation Ref}

theorem turn_placeInstantiation
    (done : manager.placeInstantiation node deployment (deployment.parentIOR node dcd)
      instantiation = .ok next) : Turn node dcd deployment [instantiation] manager next := by
  cases reach : deployment.reaches node with
  | false =>
      rw [placeInstantiation_out reach] at done
      cases done
      refine ⟨⟨fun object other => ?_, ?_⟩, fun _ => id, ?_, ?_, ?_⟩
      · simp [setProfile, Function.update_of_ne other]
      · simp [ProgramProfile.setInstantiation]
      · simp [setProfile, reach]
      · simp [setProfile, reach]
      · simp [ProgramProfile.setInstantiation]
  | true =>
      obtain ⟨code, type⟩ := Bool.and_eq_true_iff.mp reach
      obtain ⟨codeFilePath, code⟩ := isSome_iff_exists.mp code
      obtain ⟨componentType, type⟩ := isSome_iff_exists.mp type
      rw [placeInstantiation_reaches code type] at done
      have kept : (((manager.profileOf deployment).setInstantiation node
            instantiation).overrideProperties node instantiation).selectedImplementation =
              (manager.profileOf deployment).selectedImplementation ∧
          (((manager.profileOf deployment).setInstantiation node
            instantiation).overrideProperties node instantiation).instantiationId =
              instantiation.instantiationId :=
        ProgramProfile.overrideProperties_kept node _ instantiation
      cases grant : deployment.granted node dcd with
      | false =>
          simp only [grant, Bool.false_eq_true, if_false] at done
          cases done
          refine ⟨⟨fun object other => ?_, ?_⟩, fun _ => id, ?_, ?_, ?_⟩
          · simp [setProfile, deploy, Function.update_of_ne other]
          · simpa using kept.1
          · simp [setProfile, deploy, reach]
          · simp [setProfile, deploy, grant]
          · simpa using kept.2
      | true =>
          cases raise : node.raises instantiation.instantiationId with
          | true => simp [grant, raise] at done
          | false =>
              simp only [grant, raise, Bool.false_eq_true, if_false, if_true] at done
              cases done
              refine ⟨⟨fun object other => ?_, ?_⟩, ?_, ?_, ?_, ?_⟩
              · simp [setProfile, deploy, launch, Function.update_of_ne other]
              · simpa using kept.1
              · exact subset_append_left ..
              · simp [setProfile, deploy, launch, reach]
              · simp [setProfile, deploy, launch, reach, grant, Launch.id]
              · simpa using kept.2

theorem Turn.append {last : Manager Value Ref} {front back : List (ComponentInstantiation Ref)}
    (first : Turn node dcd deployment front manager next)
    (second : Turn node dcd deployment back next last) (more : back ≠ []) :
    Turn node dcd deployment (front ++ back) manager last where
  touches := first.touches.trans second.touches
  grows := Subset.trans first.grows second.grows
  deployed := by
    rw [second.deployed, first.deployed, append_assoc, length_append, replicate_add]
    split <;> rfl
  launched := by
    rw [second.launched, first.launched, append_assoc, map_append]
    split <;> rfl
  last instantiation found := by
    rw [getLast?_append_of_ne_nil _ more] at found
    exact second.last instantiation found

theorem turn_foldlM {instantiations : List (ComponentInstantiation Ref)} (some : instantiations ≠ [])
    (done : instantiations.foldlM
      (placeInstantiation node deployment (deployment.parentIOR node dcd)) manager = .ok next) :
    Turn node dcd deployment instantiations manager next := by
  induction instantiations generalizing manager with
  | nil => exact absurd rfl some
  | cons instantiation rest ih =>
      rw [foldlM_cons] at done
      obtain ⟨between, first, done⟩ := Library.bind_eq_ok_iff.mp done
      have turn := turn_placeInstantiation first
      cases rest with
      | nil =>
          cases done
          exact turn
      | cons other rest => exact turn.append (ih (by simp) done) (by simp)

theorem foldlM_ok_iff (instantiations : List (ComponentInstantiation Ref)) :
    (∃ next, instantiations.foldlM
      (placeInstantiation node deployment (deployment.parentIOR node dcd)) manager = .ok next) ↔
      ∀ instantiation ∈ instantiations, deployment.reaches node && deployment.granted node dcd →
        node.raises instantiation.instantiationId = false := by
  induction instantiations generalizing manager with
  | nil => simp [pure, Except.pure]
  | cons instantiation rest ih =>
      rw [forall_mem_cons, ← placeInstantiation_ok_iff manager, foldlM_cons]
      cases first : manager.placeInstantiation node deployment (deployment.parentIOR node dcd)
          instantiation with
      | error stop => simp [bind, Except.bind]
      | ok between => simpa [bind, Except.bind] using ih

theorem own_placeInstantiation
    (joined : deployment.loaded.addDeviceImplProperties node = some (manager.profileOf deployment))
    (reach : deployment.reaches node = true) (grant : deployment.granted node dcd = true)
    (done : manager.placeInstantiation node deployment (deployment.parentIOR node dcd) instantiation = .ok next) :
    ∃ launch ∈ next.launches, launch.IsOwn node dcd deployment instantiation ∧
      next.profileOf deployment = launch.profile := by
  obtain ⟨code, type⟩ := Bool.and_eq_true_iff.mp reach
  obtain ⟨codeFilePath, code⟩ := isSome_iff_exists.mp code
  obtain ⟨componentType, type⟩ := isSome_iff_exists.mp type
  rw [placeInstantiation_reaches code type] at done
  cases raise : node.raises instantiation.instantiationId with
  | true => simp [grant, raise] at done
  | false =>
      simp only [grant, raise, Bool.false_eq_true, if_false, if_true] at done
      cases done
      refine ⟨_, mem_append_right _ mem_cons_self, ⟨rfl, rfl, type, code, rfl, ?_⟩, ?_⟩
      · unfold Deployment.ownProfile
        rw [joined]
        rfl
      · simp

def Placeable (node : Node Value Ref) (dcd : DeviceConfiguration Ref)
    (deployment : Deployment Value Ref) (launched : List String) : Prop :=
  deployment.joins node →
    (∀ parent, deployment.placement.compositePartOfDeviceID = some parent → parent ∈ dcd.ids →
      parent ∈ launched ∧ node.registered parent ≠ "") ∧
    (deployment.canDeploy node dcd → ∀ id ∈ deployment.ids, node.raises id = false)

theorem getCompositeDeviceIOR_cases (node : Node Value Ref) (dcd : DeviceConfiguration Ref)
    (manager : Manager Value Ref) (deployment : Deployment Value Ref) :
    (manager.getCompositeDeviceIOR node dcd deployment.placement = some (deployment.parentIOR node dcd) ∧
      ∀ parent, deployment.placement.compositePartOfDeviceID = some parent → parent ∈ dcd.ids →
        parent ∈ manager.launches.map Launch.id ∧ node.registered parent ≠ "") ∨
    (manager.getCompositeDeviceIOR node dcd deployment.placement = none ∧
      ∃ parent, deployment.placement.compositePartOfDeviceID = some parent ∧ parent ∈ dcd.ids ∧
        ¬(parent ∈ manager.launches.map Launch.id ∧ node.registered parent ≠ "")) := by
  unfold getCompositeDeviceIOR Deployment.parentIOR
  cases part : deployment.placement.compositePartOfDeviceID with
  | none => exact .inl ⟨rfl, fun _ none => by cases none⟩
  | some parent =>
      by_cases known : parent ∈ dcd.ids
      · simp only [known, if_true, getIORfromID, List.any_eq_true, beq_iff_eq]
        by_cases launched : ∃ launch ∈ manager.launches, launch.id = parent
        · have listed : parent ∈ manager.launches.map Launch.id := mem_map.mpr launched
          rw [if_pos launched]
          by_cases registers : node.registered parent = ""
          · refine .inr ⟨if_pos registers, parent, rfl, known, fun both => both.2 registers⟩
          · refine .inl ⟨if_neg registers, ?_⟩
            rintro _ ⟨⟩ -
            exact ⟨listed, registers⟩
        · rw [if_neg launched]
          exact .inr ⟨if_pos rfl, parent, rfl, known, fun both => launched (mem_map.mp both.1)⟩
      · simp only [known, if_false]
        refine .inl ⟨trivial, ?_⟩
        rintro _ ⟨⟩ listed
        exact absurd listed known

section

variable (same : (manager.profileOf deployment).selectedImplementation = deployment.loaded.selectedImplementation)

include same

theorem place_ok_iff :
    (∃ next, manager.place node dcd deployment = .ok next) ↔
      Placeable node dcd deployment (manager.launches.map Launch.id) := by
  have joined := ProgramProfile.addDeviceImplProperties_isSome node same
  unfold place Placeable
  cases join : (manager.profileOf deployment).addDeviceImplProperties node with
  | none =>
      rw [join] at joined
      have out : deployment.joins node = false := joined.symm
      simp [out]
  | some profile =>
      rw [join] at joined
      have joins : deployment.joins node = true := joined.symm
      have can : deployment.canDeploy node dcd = (deployment.reaches node && deployment.granted node dcd) := by
        simp [Deployment.canDeploy, Deployment.deploys, joins]
      dsimp only
      rcases getCompositeDeviceIOR_cases node dcd
          (manager.setProfile deployment profile) deployment with ⟨ior, known⟩ | ⟨ior, missing⟩
      · rw [ior]
        rw [foldlM_ok_iff, can]
        constructor
        · intro quiet _
          refine ⟨known, fun deploys id member => ?_⟩
          obtain ⟨instantiation, listed, rfl⟩ := mem_map.mp member
          exact quiet instantiation listed deploys
        · intro placeable instantiation listed deploys
          exact (placeable joins).2 deploys _ (mem_map_of_mem listed)
      · rw [ior]
        obtain ⟨parent, part, listed, unknown⟩ := missing
        constructor
        · rintro ⟨next, done⟩
          cases done
        · intro placeable
          exact absurd ((placeable joins).1 parent part listed) unknown

structure Tried (node : Node Value Ref) (dcd : DeviceConfiguration Ref)
    (deployment : Deployment Value Ref) (manager next : Manager Value Ref) : Prop where
  others : ∀ object ≠ deployment.object, next.profiles object = manager.profiles object
  implementation : (next.profileOf deployment).selectedImplementation =
    (manager.profileOf deployment).selectedImplementation
  grows : manager.launches ⊆ next.launches
  deployed : next.deployed_comps = manager.deployed_comps ++
    if deployment.deploys node then
      replicate deployment.placement.instantiations.length deployment
    else []
  launched : next.launches.map Launch.id = manager.launches.map Launch.id ++ deployment.launchIds node dcd
  last : deployment.joins node →
    ∀ instantiation, deployment.placement.instantiations.getLast? = some instantiation →
      (next.profileOf deployment).instantiationId = instantiation.instantiationId
  own : manager.profileOf deployment = deployment.loaded → deployment.placement.others = [] →
    deployment.canDeploy node dcd →
      ∃ launch ∈ next.launches, launch.IsOwn node dcd deployment deployment.placement.first ∧
        next.profileOf deployment = launch.profile

theorem tried_place (done : manager.place node dcd deployment = .ok next) :
    Tried node dcd deployment manager next := by
  have joined := ProgramProfile.addDeviceImplProperties_isSome node same
  unfold place at done
  cases join : (manager.profileOf deployment).addDeviceImplProperties node with
  | none =>
      rw [join] at done joined
      cases done
      have out : deployment.joins node = false := joined.symm
      have none : deployment.deploys node = false := by simp [Deployment.deploys, out]
      exact ⟨fun _ _ => rfl, rfl, fun _ => id, by simp [none],
        by simp [Deployment.launchIds, Deployment.canDeploy, none], by simp [out],
        by simp [Deployment.canDeploy, none]⟩
  | some profile =>
      rw [join] at done joined
      have joins : deployment.joins node = true := joined.symm
      have deploys : deployment.deploys node = deployment.reaches node := by
        simp [Deployment.deploys, joins]
      have can : deployment.canDeploy node dcd = (deployment.reaches node && deployment.granted node dcd) := by
        rw [Deployment.canDeploy, deploys]
      dsimp only at done
      rcases getCompositeDeviceIOR_cases node dcd
          (manager.setProfile deployment profile) deployment with ⟨ior, -⟩ | ⟨ior, -⟩
      · rw [ior] at done
        dsimp only at done
        have turn := turn_foldlM (cons_ne_nil _ _) done
        refine ⟨fun object other => ?_, ?_, turn.grows, ?_, ?_, fun _ => turn.last, ?_⟩
        · rw [turn.touches.others object other]
          simp [setProfile, Function.update_of_ne other]
        · rw [turn.touches.implementation, profileOf_setProfile]
          exact ProgramProfile.addDeviceImplProperties_kept node join
        · rw [turn.deployed, deploys]
          rfl
        · rw [turn.launched, Deployment.launchIds, can]
          rfl
        · intro fresh single deployable
          rw [can, Bool.and_eq_true] at deployable
          rw [DevicePlacement.instantiations, single, foldlM_cons] at done
          obtain ⟨last, first, done⟩ := Library.bind_eq_ok_iff.mp done
          cases done
          refine own_placeInstantiation ?_ deployable.1 deployable.2 first
          rw [profileOf_setProfile, ← join, fresh]
      · rw [ior] at done
        cases done

end

end Manager

structure Placed (attempts : List (Deployment Value Ref)) (manager : Manager Value Ref) : Prop where
  launched : manager.launches.map Launch.id = attempts.flatMap (Deployment.launchIds node dcd)
  deployed : manager.deployed_comps = attempts.flatMap fun deployment =>
    if deployment.deploys node then
      replicate deployment.placement.instantiations.length deployment
    else []
  untouched : ∀ object ∉ attempts.map Deployment.object, manager.profiles object = none
  implementation : ∀ deployment ∈ attempts,
    (manager.profileOf deployment).selectedImplementation = deployment.loaded.selectedImplementation
  last : ∀ deployment ∈ attempts, deployment.joins node →
    ∀ instantiation, deployment.placement.instantiations.getLast? = some instantiation →
      (manager.profileOf deployment).instantiationId = instantiation.instantiationId
  own : ∀ deployment ∈ attempts, (attempts.map Deployment.object).count deployment.object = 1 →
    deployment.placement.others = [] → deployment.canDeploy node dcd →
      ∃ launch ∈ manager.launches, launch.IsOwn node dcd deployment deployment.placement.first ∧
        manager.profileOf deployment = launch.profile

variable {node dcd} {attempts : List (Deployment Value Ref)} {manager next : Manager Value Ref}
  {deployment : Deployment Value Ref}

theorem placed_initial : Placed node dcd [] (Manager.initial : Manager Value Ref) where
  launched := rfl
  deployed := rfl
  untouched _ _ := rfl
  implementation _ none := by cases none
  last _ none := by cases none
  own _ none := by cases none

def ByObject (attempts : List (Deployment Value Ref)) : Prop :=
  ∀ one ∈ attempts, ∀ other ∈ attempts, one.object = other.object → one = other

theorem Placed.profileOf_implementation (placed : Placed node dcd attempts manager)
    (objects : ByObject (attempts ++ [deployment])) :
    (manager.profileOf deployment).selectedImplementation = deployment.loaded.selectedImplementation := by
  by_cases tried : deployment.object ∈ attempts.map Deployment.object
  · obtain ⟨other, member, same⟩ := mem_map.mp tried
    have equal := objects other (by simp [member]) deployment (by simp) same
    subst equal
    exact placed.implementation other member
  · rw [Manager.profileOf, placed.untouched _ tried]
    rfl

theorem Placed.tried (placed : Placed node dcd attempts manager) (objects : ByObject (attempts ++ [deployment]))
    (tried : Manager.Tried node dcd deployment manager next) :
    Placed node dcd (attempts ++ [deployment]) next := by
  have kept : ∀ other : Deployment Value Ref, other.object ≠ deployment.object →
      next.profileOf other = manager.profileOf other := by
    intro other different
    rw [Manager.profileOf, tried.others _ different]
    rfl
  have equal : ∀ other ∈ attempts, other.object = deployment.object → other = deployment :=
    fun other member => objects other (by simp [member]) deployment (by simp)
  constructor
  · rw [tried.launched, placed.launched, flatMap_append, flatMap_singleton]
  · rw [tried.deployed, placed.deployed, flatMap_append, flatMap_singleton]
  · intro object fresh
    rw [map_append, mem_append, not_or] at fresh
    rw [tried.others object (by simpa using fresh.2), placed.untouched object fresh.1]
  · intro other member
    by_cases same : other.object = deployment.object
    · have : other = deployment := by
        rcases mem_append.mp member with earlier | last
        · exact equal other earlier same
        · exact mem_singleton.mp last
      subst this
      rw [tried.implementation, placed.profileOf_implementation objects]
    · rw [kept other same]
      rcases mem_append.mp member with earlier | last
      · exact placed.implementation other earlier
      · rw [mem_singleton] at last
        exact absurd (congrArg Deployment.object last) same
  · intro other member joins
    by_cases same : other.object = deployment.object
    · have : other = deployment := by
        rcases mem_append.mp member with earlier | last
        · exact equal other earlier same
        · exact mem_singleton.mp last
      subst this
      exact tried.last joins
    · rw [kept other same]
      rcases mem_append.mp member with earlier | last
      · exact placed.last other earlier joins
      · rw [mem_singleton] at last
        exact absurd (congrArg Deployment.object last) same
  · intro other member once single can
    rw [map_append, count_append] at once
    rcases mem_append.mp member with earlier | last
    · have counted : 0 < (attempts.map Deployment.object).count other.object :=
        count_pos_iff.mpr (mem_map_of_mem earlier)
      have different : other.object ≠ deployment.object := by
        intro same
        rw [map_singleton, same, count_singleton_self] at once
        rw [same] at counted
        omega
      obtain ⟨launch, listed, own, profile⟩ := placed.own other earlier (by omega) single can
      exact ⟨launch, tried.grows listed, own, by rw [kept other different, profile]⟩
    · rw [mem_singleton] at last
      subst last
      refine tried.own ?_ single can
      rw [Manager.profileOf, placed.untouched]
      · rfl
      · intro before
        have counted := count_pos_iff.mpr before
        rw [map_singleton, count_singleton_self] at once
        omega

end Redhawk.Nodes
