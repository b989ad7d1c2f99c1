import Mathlib.Data.List.Nodup
import Redhawk.Applications.PropertyListeners

/-!
The lookup of a component by its instantiation id (`DomainManager_impl`): a device under that
identifier, else a component of a running application whose identifier the text behind a colon is
or ends.
-/

namespace Redhawk.Applications

open List

abbrev Identifier := List Char

structure RegisteredDevice where
  identifier : Identifier
  device : ResourceRef
deriving DecidableEq

structure RunningComponent where
  identifier : Identifier
  resource : ResourceRef
deriving DecidableEq

structure RunningApplication where
  identifier : Identifier
  components : List RunningComponent
deriving DecidableEq

structure RunningDomain where
  registeredDevices : List RegisteredDevice
  applications : List RunningApplication
  keyed : (applications.map RunningApplication.identifier).Nodup

def behindLastColon (text : Identifier) : Identifier :=
  (text.reverse.takeWhile (· ≠ ':')).reverse

def RunningApplication.appName (application : RunningApplication) : Identifier :=
  behindLastColon application.identifier

inductive ComponentLookup
  | outOfRange
  | nil
  | device (found : RegisteredDevice)
  | component (owner : RunningApplication) (found : RunningComponent)
deriving DecidableEq

def beginPos (identifier : Identifier) : Nat :=
  if identifier.length > 4 ∧ identifier.take 3 = ['D', 'C', 'E'] then 4 else 0

def colonPos (identifier : Identifier) : Option Nat :=
  ((identifier.drop (beginPos identifier)).findIdx? (· = ':')).map (beginPos identifier + ·)

/-- Search by a part of the id. The position in an identifier that is too short wraps around, and
`substr` throws there. -/
def searchBySubstr (appid : Identifier) :
    List RunningApplication → Except Unit (Option RunningApplication)
  | [] => .ok none
  | application :: rest =>
    if application.identifier.length < appid.length then .error ()
    else if appid = application.identifier.drop (application.identifier.length - appid.length) then
      .ok (some application)
    else searchBySubstr appid rest

namespace RunningDomain

def findDeviceById (domain : RunningDomain) (identifier : Identifier) : Option RegisteredDevice :=
  domain.registeredDevices.find? fun node => node.identifier = identifier

def applicationFor (domain : RunningDomain) (appid : Identifier) :
    Except Unit (Option RunningApplication) :=
  match domain.applications.find? fun application => application.identifier = appid with
  | some application => .ok (some application)
  | none => searchBySubstr appid domain.applications

def lookupComponentByInstantiationId (domain : RunningDomain) (identifier : Identifier) :
    ComponentLookup :=
  match domain.findDeviceById identifier with
  | some node => .device node
  | none =>
    match colonPos identifier with
    | none => .nil
    | some pos =>
      match domain.applicationFor (identifier.drop (pos + 1)) with
      | .error () => .outOfRange
      | .ok none => .nil
      | .ok (some application) =>
        let normalizedCompId := identifier.take pos ++ ':' :: application.appName
        match application.components.find? fun comp => comp.identifier = normalizedCompId with
        | some comp => .component application comp
        | none => .nil

end RunningDomain

/-- A component is called `<componentinstantiation id>:<app name>`, and the identifier has its
instantiation id before the identifier of the application, or before what stands behind a colon in
it. -/
def Denotes (identifier : Identifier) (owner : RunningApplication) (comp : RunningComponent) : Prop :=
  ∃ instantiationId, comp.identifier = instantiationId ++ ':' :: owner.appName ∧
    (identifier = instantiationId ++ ':' :: owner.identifier ∨
      ∃ suffix, ':' :: suffix <:+ owner.identifier ∧ identifier = instantiationId ++ ':' :: suffix)

structure LookupExact (domain : RunningDomain) (identifier : Identifier) (result : ComponentLookup) :
    Prop where
  total : result ≠ .outOfRange
  device : (∃ node ∈ domain.registeredDevices, node.identifier = identifier) →
    ∃ node ∈ domain.registeredDevices, node.identifier = identifier ∧ result = .device node
  component : (∀ node ∈ domain.registeredDevices, node.identifier ≠ identifier) →
    result = .nil ∨ ∃ owner ∈ domain.applications, ∃ comp ∈ owner.components,
      result = .component owner comp ∧ Denotes identifier owner comp

def searchEnd (appid : Identifier) (applications : List RunningApplication) : Option RunningApplication :=
  applications.find? fun application =>
    application.identifier.length < appid.length ∨ appid <:+ application.identifier

/-- The search does not end at an application with an identifier shorter than the text behind the
colon, and where it ends that text stands behind a colon, or no component has the name that is
looked for. -/
def RunningDomain.EndsRight (domain : RunningDomain) (identifier : Identifier) (pos : Nat) : Prop :=
  ∀ application, searchEnd (identifier.drop (pos + 1)) domain.applications = some application →
    (identifier.drop (pos + 1)).length ≤ application.identifier.length ∧
      (':' :: identifier.drop (pos + 1) <:+ application.identifier ∨
        ∀ comp ∈ application.components, comp.identifier ≠ identifier.take pos ++ ':' :: application.appName)

/-- If it comes to a search, because no device and no application has the identifier, it ends right. -/
def RunningDomain.SearchesRight (domain : RunningDomain) (identifier : Identifier) : Prop :=
  (∀ node ∈ domain.registeredDevices, node.identifier ≠ identifier) →
    ∀ pos, colonPos identifier = some pos →
      (∀ application ∈ domain.applications, application.identifier ≠ identifier.drop (pos + 1)) →
        domain.EndsRight identifier pos

theorem colonPos_spec {identifier : Identifier} {pos : Nat} (found : colonPos identifier = some pos) :
    identifier = identifier.take pos ++ ':' :: identifier.drop (pos + 1) := by
  obtain ⟨index, at_index, rfl⟩ := Option.map_eq_some_iff.mp found
  obtain ⟨bound, colon, -⟩ := findIdx?_eq_some_iff_getElem.mp at_index
  rw [length_drop] at bound
  have within : beginPos identifier + index < identifier.length := by omega
  have here : identifier[beginPos identifier + index] = ':' := by
    simpa only [getElem_drop, decide_eq_true_eq] using colon
  conv_lhs => rw [← take_append_drop (beginPos identifier + index) identifier]
  rw [drop_eq_getElem_cons within, here]

theorem searchBySubstr_eq (appid : Identifier) (applications : List RunningApplication) :
    searchBySubstr appid applications =
      match searchEnd appid applications with
      | none => .ok none
      | some application =>
        if application.identifier.length < appid.length then .error () else .ok (some application) := by
  induction applications with
  | nil => rfl
  | cons application rest ih =>
      rw [searchBySubstr, searchEnd, find?_cons]
      by_cases short : application.identifier.length < appid.length
      · simp [short]
      · by_cases ends : appid <:+ application.identifier
        · simp [short, ends, ← suffix_iff_eq_drop]
        · simpa [searchEnd, short, ends, ← suffix_iff_eq_drop] using ih

theorem searchEnd_spec {appid : Identifier} {applications : List RunningApplication}
    {application : RunningApplication} (found : searchEnd appid applications = some application) :
    application ∈ applications ∧
      (application.identifier.length < appid.length ∨ appid <:+ application.identifier) :=
  ⟨mem_of_find?_eq_some found, by simpa using find?_some found⟩

section Lookup

variable {domain : RunningDomain} {identifier : Identifier}

theorem lookup_device {node : RegisteredDevice} (found : domain.findDeviceById identifier = some node) :
    domain.lookupComponentByInstantiationId identifier = .device node := by
  rw [RunningDomain.lookupComponentByInstantiationId, found]

theorem findDeviceById_eq_none :
    domain.findDeviceById identifier = none ↔
      ∀ node ∈ domain.registeredDevices, node.identifier ≠ identifier := by
  simp [RunningDomain.findDeviceById]

theorem lookupExact_device {node : RegisteredDevice} (found : domain.findDeviceById identifier = some node) :
    LookupExact domain identifier (.device node) := by
  have member := mem_of_find?_eq_some found
  have named : node.identifier = identifier := by simpa using find?_some found
  exact ⟨by simp, fun _ => ⟨node, member, named, rfl⟩, fun none => absurd named (none node member)⟩

theorem denotes_iff {pos : Nat} (found : colonPos identifier = some pos)
    {application : RunningApplication} {comp : RunningComponent}
    (named : comp.identifier = identifier.take pos ++ ':' :: application.appName) :
    Denotes identifier application comp ↔
      application.identifier = identifier.drop (pos + 1) ∨
        ':' :: identifier.drop (pos + 1) <:+ application.identifier := by
  have split := colonPos_spec found
  have behind : ∀ text, identifier = identifier.take pos ++ ':' :: text → text = identifier.drop (pos + 1) := by
    intro text whole
    have tails := append_cancel_left (whole.symm.trans split)
    exact (cons.inj tails).2
  constructor
  · rintro ⟨instantiationId, same, whole⟩
    rw [named] at same
    obtain rfl := append_cancel_right same
    rcases whole with whole | ⟨suffix, ends, whole⟩
    · exact .inl (behind _ whole)
    · rw [behind suffix whole] at ends
      exact .inr ends
  · rintro (whole | ends)
    · exact ⟨identifier.take pos, named, .inl (by rw [whole]; exact split)⟩
    · exact ⟨identifier.take pos, named, .inr ⟨_, ends, split⟩⟩

variable (noDevice : domain.findDeviceById identifier = none)

include noDevice

theorem lookupExact_nil : LookupExact domain identifier .nil := by
  have unregistered := findDeviceById_eq_none.mp noDevice
  exact ⟨by simp, fun ⟨node, member, named⟩ => absurd named (unregistered node member), fun _ => .inl rfl⟩

theorem lookupExact_component_iff {owner : RunningApplication} {comp : RunningComponent}
    (running : owner ∈ domain.applications) (member : comp ∈ owner.components) :
    LookupExact domain identifier (.component owner comp) ↔ Denotes identifier owner comp := by
  have unregistered := findDeviceById_eq_none.mp noDevice
  constructor
  · intro exact
    rcases exact.component unregistered with none | ⟨_, _, _, _, same, denotes⟩
    · cases none
    · cases same
      exact denotes
  · intro denotes
    exact ⟨by simp, fun ⟨node, member, named⟩ => absurd named (unregistered node member),
      fun _ => .inr ⟨owner, running, comp, member, rfl, denotes⟩⟩

theorem lookupExact_found_iff {pos : Nat} (colon : colonPos identifier = some pos)
    {application : RunningApplication} (running : application ∈ domain.applications)
    (found : domain.applicationFor (identifier.drop (pos + 1)) = .ok (some application)) :
    LookupExact domain identifier (domain.lookupComponentByInstantiationId identifier) ↔
      (application.identifier = identifier.drop (pos + 1) ∨
        ':' :: identifier.drop (pos + 1) <:+ application.identifier) ∨
      ∀ comp ∈ application.components, comp.identifier ≠ identifier.take pos ++ ':' :: application.appName := by
  rw [RunningDomain.lookupComponentByInstantiationId, noDevice]
  simp only [colon, found]
  cases search : application.components.find? fun comp =>
      comp.identifier = identifier.take pos ++ ':' :: application.appName with
  | none =>
      have absent : ∀ comp ∈ application.components,
          comp.identifier ≠ identifier.take pos ++ ':' :: application.appName := by
        simpa using search
      exact iff_of_true (lookupExact_nil noDevice) (.inr absent)
  | some comp =>
      have member := mem_of_find?_eq_some search
      have named : comp.identifier = identifier.take pos ++ ':' :: application.appName := by
        simpa using find?_some search
      rw [lookupExact_component_iff noDevice running member, denotes_iff colon named]
      exact (or_iff_left fun absent => absent comp member named).symm

theorem lookupExact_colon_iff {pos : Nat} (colon : colonPos identifier = some pos) :
    LookupExact domain identifier (domain.lookupComponentByInstantiationId identifier) ↔
      ((∀ application ∈ domain.applications, application.identifier ≠ identifier.drop (pos + 1)) →
        domain.EndsRight identifier pos) := by
  cases named : domain.applications.find? fun application =>
      application.identifier = identifier.drop (pos + 1) with
  | some application =>
      have running := mem_of_find?_eq_some named
      have same : application.identifier = identifier.drop (pos + 1) := by
        simpa using find?_some named
      have found : domain.applicationFor (identifier.drop (pos + 1)) = .ok (some application) := by
        rw [RunningDomain.applicationFor, named]
      rw [lookupExact_found_iff noDevice colon running found]
      exact iff_of_true (.inl (.inl same)) fun absent => absurd same (absent application running)
  | none =>
      have absent : ∀ application ∈ domain.applications, application.identifier ≠ identifier.drop (pos + 1) := by
        simpa using named
      have searched : domain.applicationFor (identifier.drop (pos + 1)) =
          searchBySubstr (identifier.drop (pos + 1)) domain.applications := by
        rw [RunningDomain.applicationFor, named]
      rw [searchBySubstr_eq] at searched
      rw [forall_prop_of_true absent, RunningDomain.EndsRight]
      cases ended : searchEnd (identifier.drop (pos + 1)) domain.applications with
      | none =>
          rw [ended] at searched
          rw [RunningDomain.lookupComponentByInstantiationId, noDevice]
          simp only [colon, searched]
          exact iff_of_true (lookupExact_nil noDevice) (by simp)
      | some application =>
          rw [ended] at searched
          simp only [Option.some.injEq, forall_eq']
          have running := (searchEnd_spec ended).1
          by_cases short : application.identifier.length < (identifier.drop (pos + 1)).length
          · rw [RunningDomain.lookupComponentByInstantiationId, noDevice]
            simp only [colon, searched, if_pos short]
            exact iff_of_false (fun exact => exact.total rfl) fun right => absurd right.1 (by omega)
          · simp only [if_neg short] at searched
            rw [lookupExact_found_iff noDevice colon running searched,
              or_iff_right (absent application running), and_iff_right (by omega)]

end Lookup

/-- A lookup returns, gives the device of that identifier when there is one, and else at most a
component that the identifier denotes, just when its search by a part of an id goes right. -/
theorem lookup_exact_iff (domain : RunningDomain) (identifier : Identifier) :
    LookupExact domain identifier (domain.lookupComponentByInstantiationId identifier) ↔
      domain.SearchesRight identifier := by
  cases device : domain.findDeviceById identifier with
  | some node =>
      rw [lookup_device device]
      have member := mem_of_find?_eq_some device
      have named : node.identifier = identifier := by simpa using find?_some device
      exact iff_of_true (lookupExact_device device) fun none => absurd named (none node member)
  | none =>
      have unregistered := findDeviceById_eq_none.mp device
      cases colon : colonPos identifier with
      | none =>
          rw [RunningDomain.lookupComponentByInstantiationId, device]
          simp only [colon]
          refine iff_of_true (lookupExact_nil device) fun _ pos some => ?_
          rw [colon] at some
          cases some
      | some pos =>
          rw [RunningDomain.SearchesRight, forall_prop_of_true unregistered]
          simp only [colon, Option.some.injEq, forall_eq']
          exact lookupExact_colon_iff device colon

def oneApplication : RunningDomain where
  registeredDevices := []
  applications := [⟨"sad:app_1".toList, [⟨"c_1:app_1".toList, 0⟩]⟩]
  keyed := by simp

/-- The end of an identifier finds the component although no colon stands before it, and a longer
text behind the colon makes the lookup throw. -/
theorem shared_ending_found :
    ¬LookupExact oneApplication "c_1:pp_1".toList
        (oneApplication.lookupComponentByInstantiationId "c_1:pp_1".toList) ∧
      ¬LookupExact oneApplication "c_1:other_sad:app_2".toList
        (oneApplication.lookupComponentByInstantiationId "c_1:other_sad:app_2".toList) := by
  constructor
  · intro exact
    have noDevice : oneApplication.findDeviceById "c_1:pp_1".toList = none := rfl
    have colon : colonPos "c_1:pp_1".toList = some 3 := by decide
    have found : oneApplication.applicationFor ("c_1:pp_1".toList.drop (3 + 1)) =
        .ok (some ⟨"sad:app_1".toList, [⟨"c_1:app_1".toList, 0⟩]⟩) := by rfl
    have right := (lookupExact_found_iff noDevice colon (mem_singleton.mpr rfl) found).mp exact
    exact absurd right (by decide)
  · intro exact
    exact exact.total (by decide)

end Redhawk.Applications
