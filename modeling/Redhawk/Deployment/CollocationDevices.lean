import Redhawk.Deployment.SoftPkgs
import Redhawk.Library.SearchLoops

/-!
The devices on which a host collocation is attempted: the filters of `_placeHostCollocation`, and when
they leave the devices that satisfy the collocation.
-/

namespace Redhawk.Deployment

open Redhawk.Library List

structure CollocatedComponent where
  instantiationId : String
  deviceRequires : PropertyMap

/-- What the filters depend on: the collocation, the devices that the user assigned, and the devices that
the application uses. -/
structure Collocation where
  instanceName : String
  components : List CollocatedComponent
  devices : List (String × String)
  usesDeviceRefs : List String
  /-- `none` where the application has no such usesdevice, `some none` for a nil reference. -/
  lookupDeviceUsedByApplication : String → Option (Option DeviceRef)
  sameHost : DeviceRef → DeviceRef → Bool
  label : DeviceRef → String

namespace Collocation

variable (collocation : Collocation)

def identifier (component : CollocatedComponent) : String :=
  component.instantiationId ++ ":" ++ collocation.instanceName

def assignedDevices : List String :=
  collocation.components.filterMap fun component =>
    collocation.devices.lookup component.instantiationId

def devReq : String × PropertyMap :=
  collocation.components.foldl (fun devReq component =>
    if component.deviceRequires.isEmpty then devReq
    else (collocation.identifier component, component.deviceRequires)) ("", [])

def reqUsesDevices : Option (List DeviceRef) :=
  (collocation.usesDeviceRefs.mapM collocation.lookupDeviceUsedByApplication).map
    (filterMap id)

end Collocation

/-- How the filters end: a `LookupError`, the step past the end of the list, a `PlacementFailure`, or
the attempt. -/
inductive Placement
  | lookupError
  | pastEnd
  | placementFailure (message : String)
  | attempted (devices : List DeviceNode)

namespace Collocation

variable (collocation : Collocation)

def filterAssigned (executableDevices : List DeviceNode) : List DeviceNode :=
  if collocation.assignedDevices.isEmpty then executableDevices
  else eraseLoop (fun node => collocation.assignedDevices.contains node.identifier) []
    executableDevices

def filterRequired (deploymentDevices : List DeviceNode) : Option (List DeviceNode) :=
  if collocation.devReq.1.isEmpty then some deploymentDevices
  else eraseAdvance (fun node => node.requiresProps.equals collocation.devReq.2) [] deploymentDevices

def filterHosts (reqUsesDevices : List DeviceRef) (deploymentDevices : List DeviceNode) :
    List DeviceNode :=
  reqUsesDevices.foldl (fun nodes dev =>
    eraseLoop (fun node => collocation.sameHost dev node.device) [] nodes) deploymentDevices

def placeHostCollocation (executableDevices : List DeviceNode) : Placement :=
  match collocation.reqUsesDevices with
  | none => .lookupError
  | some reqUsesDevices =>
    match collocation.filterRequired (collocation.filterAssigned executableDevices) with
    | none => .pastEnd
    | some deploymentDevices =>
      if deploymentDevices.isEmpty then
        .placementFailure "No ExecutableDevices available to satisfy collocation."
      else
        let collocated := collocation.filterHosts reqUsesDevices deploymentDevices
        if collocated.isEmpty then
          .placementFailure ("No Collocated ExecutableDevices for Device: " ++
            ", ".intercalate (reqUsesDevices.map collocation.label))
        else .attempted collocated

def assigns (node : DeviceNode) : Bool :=
  collocation.assignedDevices.isEmpty || collocation.assignedDevices.contains node.identifier

def requires (node : DeviceNode) : Bool :=
  collocation.devReq.2.isEmpty || node.requiresProps.equals collocation.devReq.2

def hosts (reqUsesDevices : List DeviceRef) (node : DeviceNode) : Bool :=
  reqUsesDevices.all fun dev => collocation.sameHost dev node.device

def satisfying (reqUsesDevices : List DeviceRef) (executableDevices : List DeviceNode) : List DeviceNode :=
  executableDevices.filter fun node =>
    collocation.assigns node && collocation.requires node && collocation.hosts reqUsesDevices node

/-- The filters stay within the list, and the placement is attempted on the devices that satisfy the
constraints, or not at all where there are none. -/
def FilteringExact (executableDevices : List DeviceNode) : Prop :=
  ∀ reqUsesDevices, collocation.reqUsesDevices = some reqUsesDevices →
    match collocation.placeHostCollocation executableDevices with
    | .lookupError => False
    | .pastEnd => False
    | .placementFailure _ => collocation.satisfying reqUsesDevices executableDevices = []
    | .attempted devices => devices = collocation.satisfying reqUsesDevices executableDevices

/-- Where the devices assigned have a run of devices that are not for what the collocation requires, an
odd number of them is followed by a device, which is for it or not on the hosts. -/
def PassedOverElsewhere (executableDevices : List DeviceNode) : Prop :=
  ∀ reqUsesDevices, collocation.reqUsesDevices = some reqUsesDevices →
    HarmlessRuns collocation.requires (collocation.hosts reqUsesDevices)
      (executableDevices.filter collocation.assigns)

variable {collocation}

theorem devReq_isEmpty : collocation.devReq.1.isEmpty = collocation.devReq.2.isEmpty := by
  suffices ∀ devReq : String × PropertyMap, devReq.1.isEmpty = devReq.2.isEmpty →
      let last := collocation.components.foldl (fun devReq component =>
        if component.deviceRequires.isEmpty then devReq
        else (collocation.identifier component, component.deviceRequires)) devReq
      last.1.isEmpty = last.2.isEmpty from this _ rfl
  induction collocation.components with
  | nil => exact fun devReq same => same
  | cons component rest ih =>
      intro devReq same
      rw [foldl_cons]
      refine ih _ ?_
      split
      · exact same
      · rename_i given
        have named : (collocation.identifier component).isEmpty = false := by
          rw [Bool.eq_false_iff, ne_eq, String.isEmpty_iff]
          intro empty
          have length := congrArg String.length empty
          simp only [identifier, String.length_append] at length
          exact absurd length (by simp)
        rw [named]
        exact (Bool.eq_false_iff.mpr given).symm

theorem filterAssigned_eq (executableDevices : List DeviceNode) :
    collocation.filterAssigned executableDevices = executableDevices.filter collocation.assigns := by
  rw [filterAssigned]
  split
  · rename_i none
    exact (filter_eq_self.mpr fun node _ => by rw [assigns, none, Bool.true_or]).symm
  · rename_i some
    rw [eraseLoop_eq, nil_append]
    exact filter_congr fun node _ => by
      rw [assigns, Bool.eq_false_iff.mpr some, Bool.false_or]

theorem filterHosts_eq (reqUsesDevices : List DeviceRef) (deploymentDevices : List DeviceNode) :
    collocation.filterHosts reqUsesDevices deploymentDevices =
      deploymentDevices.filter (collocation.hosts reqUsesDevices) := by
  induction reqUsesDevices generalizing deploymentDevices with
  | nil => exact (filter_eq_self.mpr fun _ _ => rfl).symm
  | cons dev rest ih =>
      rw [filterHosts, foldl_cons, ← filterHosts, ih, eraseLoop_eq, nil_append, filter_filter]
      exact filter_congr fun node _ => by rw [hosts, hosts, all_cons, Bool.and_comm]

theorem filterRequired_iff {reqUsesDevices : List DeviceRef} {deploymentDevices : List DeviceNode} :
    (collocation.filterRequired deploymentDevices).map (filter (collocation.hosts reqUsesDevices)) =
      some ((deploymentDevices.filter collocation.requires).filter (collocation.hosts reqUsesDevices)) ↔
    HarmlessRuns collocation.requires (collocation.hosts reqUsesDevices) deploymentDevices := by
  rw [filterRequired, devReq_isEmpty]
  cases empty : collocation.devReq.2.isEmpty with
  | true =>
      have every : collocation.requires = fun _ => true := by
        funext node
        rw [requires, empty, Bool.true_or]
      rw [every, filter_true]
      refine iff_of_true rfl fun before run after split failing _ odd => ?_
      cases run with
      | nil => exact nomatch odd
      | cons first run => exact nomatch failing first mem_cons_self
  | false =>
      have same : collocation.requires = fun node => node.requiresProps.equals collocation.devReq.2 := by
        funext node
        rw [requires, empty, Bool.false_or]
      rw [same]
      exact eraseAdvance_filter_iff [] deploymentDevices

end Collocation

/-- The placement is attempted on the devices that satisfy the collocation just where the devices that
the second filter passes over are not on the hosts. -/
theorem filteringExact_iff (collocation : Collocation) (executableDevices : List DeviceNode) :
    collocation.FilteringExact executableDevices ↔ collocation.PassedOverElsewhere executableDevices := by
  refine forall_congr' fun reqUsesDevices => imp_congr_right fun found => ?_
  have satisfying : collocation.satisfying reqUsesDevices executableDevices =
      ((executableDevices.filter collocation.assigns).filter collocation.requires).filter
        (collocation.hosts reqUsesDevices) := by
    rw [filter_filter, filter_filter, Collocation.satisfying]
    exact filter_congr fun node _ => by
      rw [Bool.and_comm, Bool.and_comm (collocation.assigns node), Bool.and_assoc]
  rw [← Collocation.filterRequired_iff, ← satisfying, Collocation.placeHostCollocation, found,
    Collocation.filterAssigned_eq]
  simp only [Collocation.filterHosts_eq]
  cases collocation.filterRequired (executableDevices.filter collocation.assigns) with
  | none => exact iff_of_false id nofun
  | some deploymentDevices =>
      simp only [Option.map_some, Option.some.injEq]
      cases deploymentDevices with
      | nil => exact eq_comm
      | cons first rest =>
          generalize (first :: rest).filter (collocation.hosts reqUsesDevices) = collocated
          cases collocated with
          | nil => exact eq_comm
          | cons other others => exact Iff.rfl

def banded : Collocation where
  instanceName := "wave_1"
  components := [⟨"demod", [("band", .string "x")]⟩]
  devices := []
  usesDeviceRefs := []
  lookupDeviceUsedByApplication _ := none
  sameHost _ _ := false
  label _ := ""

def deviceOf (identifier : String) (requiresProps : PropertyMap) : DeviceNode :=
  ⟨identifier, identifier, 0, [], requiresProps⟩

/-- Of two devices in front that are not of the band the second is kept, and with one behind the loop
steps past the end. -/
theorem unbanded_device_attempted :
    ¬banded.FilteringExact [deviceOf "a" [], deviceOf "b" [], deviceOf "c" [("band", .string "x")]] ∧
      ¬banded.FilteringExact [deviceOf "c" [("band", .string "x")], deviceOf "a" []] := by
  constructor
  · intro exact
    have same := exact [] rfl
    have counts := congrArg length same
    exact absurd counts (by decide +kernel)
  · intro exact
    exact exact [] rfl

end Redhawk.Deployment
