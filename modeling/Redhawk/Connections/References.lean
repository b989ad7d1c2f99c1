import Redhawk.Connections.ConnectionNodes

/-!
What an endpoint stands for in the current domain, and how the references it caches compare with
that.
-/

namespace Redhawk.Connections

open EndpointKind Endpoint Domain Option

structure SameRegistry (domain after : Domain) : Prop where
  devices : after.devices = domain.devices
  services : after.services = domain.services
  applications : after.applications = domain.applications
  otherComponents : after.otherComponents = domain.otherComponents
  names : after.names = domain.names
  exists_ : after.exists_ = domain.exists_

theorem SameRegistry.refl (domain : Domain) : SameRegistry domain domain :=
  ⟨rfl, rfl, rfl, rfl, rfl, rfl⟩

theorem SameRegistry.trans {first second third : Domain} (same : SameRegistry first second)
    (still : SameRegistry second third) : SameRegistry first third :=
  ⟨still.devices.trans same.devices, still.services.trans same.services,
    still.applications.trans same.applications, still.otherComponents.trans same.otherComponents,
    still.names.trans same.names, still.exists_.trans same.exists_⟩

variable {domain after : Domain}

theorem SameRegistry.symm (same : SameRegistry domain after) : SameRegistry after domain :=
  ⟨same.devices.symm, same.services.symm, same.applications.symm, same.otherComponents.symm,
    same.names.symm, same.exists_.symm⟩

theorem lookupDomainObject_registry (objects : Objects) (type name : String) (domain : Domain) :
    SameRegistry domain (lookupDomainObject objects type name domain).2 := by
  unfold lookupDomainObject createEventChannel incrementEventChannelConnections
  grind [SameRegistry]

def EndpointKind.found (objects : Objects) (domain : Domain) (kind : EndpointKind) : Option ObjRef :=
  (kind.resolve_ objects domainConnectionManager domain).1.join

theorem EndpointKind.resolve_registry (objects : Objects) (domain : Domain) (kind : EndpointKind) :
    SameRegistry domain (kind.resolve_ objects domainConnectionManager domain).2 := by
  cases kind with
  | ApplicationEndpoint identifier => exact lookupDomainObject_registry _ _ _ _
  | FindByDomainFinderEndpoint type name => exact lookupDomainObject_registry _ _ _ _
  | ServiceEndpoint name => exact lookupDomainObject_registry _ _ _ _
  | EventChannelEndpoint name => exact lookupDomainObject_registry _ _ _ _
  | _ => exact SameRegistry.refl domain

variable {objects : Objects}

theorem lookupDomainObject_found (type name : String)
    (services : type = "servicename" ∨ type = "servicetype" → after.services = domain.services)
    (applications : after.applications = domain.applications)
    (exists_ : type = "servicetype" → after.exists_ = domain.exists_) :
    (lookupDomainObject objects type name after).1 = (lookupDomainObject objects type name domain).1 := by
  unfold lookupDomainObject createEventChannel
  grind

/-- What the kind has looked up in the domain, with the type that it is looked up under. -/
def EndpointKind.domainObject : EndpointKind → Option (String × String)
  | .ApplicationEndpoint identifier => some ("application", identifier)
  | .FindByDomainFinderEndpoint type name => some (type, name)
  | .ServiceEndpoint name => some ("servicename", name)
  | .EventChannelEndpoint name => some ("eventchannel", name)
  | _ => none

theorem EndpointKind.found_congr {kind : EndpointKind}
    (lookups : ∀ type name, kind.domainObject = some (type, name) →
      (lookupDomainObject objects type name after).1 = (lookupDomainObject objects type name domain).1)
    (devices : ∀ identifier, kind = .ComponentEndpoint identifier →
      lookup after.devices identifier = lookup domain.devices identifier)
    (others : after.otherComponents = domain.otherComponents)
    (names : ∀ name, kind = .FindByNamingServiceEndpoint name → after.names = domain.names) :
    kind.found objects after = kind.found objects domain := by
  cases kind with
  | ComponentEndpoint identifier =>
      simp [found, resolve_, resolveComponent, domainConnectionManager, devices identifier rfl, others]
  | FindByNamingServiceEndpoint name => simp [found, resolve_, domainConnectionManager, names name rfl]
  | ApplicationEndpoint _ | FindByDomainFinderEndpoint _ _ | ServiceEndpoint _ | EventChannelEndpoint _ =>
      simp [found, resolve_, resolveDomainObject, lookups _ _ rfl]
  | _ => rfl

def Endpoint.named (objects : Objects) (domain : Domain) : Endpoint → Option ObjRef
  | .plain kind _ => kind.found objects domain
  | .PortEndpoint supplier_ name_ _ _ => (supplier_.named objects domain).bind fun supplier =>
    if objects.isPortSupplier supplier then (objects.getPort supplier name_).join else none

def Endpoint.fresh (objects : Objects) (domain : Domain) : Endpoint → Option ObjRef
  | .plain kind _ => kind.found objects domain
  | .PortEndpoint supplier_ name_ _ _ => (supplier_.fresh objects domain).bind fun supplier =>
    if domain.exists_ supplier && objects.isPortSupplier supplier then
      (objects.getPort supplier name_).join
    else none

/-- Every reference that the endpoint caches is what it stands for. -/
def Endpoint.UpToDate (objects : Objects) (domain : Domain) : Endpoint → Prop
  | .plain kind object_ => ∀ object ∈ object_, kind.found objects domain = some object
  | .PortEndpoint supplier_ name_ invalidPort_ object_ => supplier_.UpToDate objects domain ∧
    ∀ object ∈ object_,
      (PortEndpoint supplier_ name_ invalidPort_ object_).named objects domain = some object

def Endpoint.kind : Endpoint → EndpointKind
  | .plain kind _ => kind
  | .PortEndpoint supplier_ _ _ _ => supplier_.kind

/-- An endpoint of the kind stands for the same after a change that has brought no object to life. -/
structure SameFor (objects : Objects) (domain after : Domain) (kind : EndpointKind) : Prop where
  found : kind.found objects after = kind.found objects domain
  alive : ∀ object, after.exists_ object → domain.exists_ object

theorem SameRegistry.sameFor (same : SameRegistry domain after) (kind : EndpointKind) :
    SameFor objects domain after kind where
  found := EndpointKind.found_congr
    (fun type name _ => lookupDomainObject_found type name (fun _ => same.services) same.applications
      fun _ => same.exists_)
    (fun _ _ => same.devices ▸ rfl) same.otherComponents fun _ _ => same.names
  alive object := by rw [same.exists_]; exact id

section SameFor

variable {objects : Objects} {domain after : Domain} {endpoint : Endpoint}
  (same : SameFor objects domain after endpoint.kind)
include same

theorem SameFor.named : endpoint.named objects after = endpoint.named objects domain := by
  induction endpoint with
  | plain kind object_ => exact same.found
  | PortEndpoint supplier_ name_ invalidPort_ object_ ih => simp only [Endpoint.named, ih same]

theorem SameFor.fresh {object : ObjRef} (fresh : endpoint.fresh objects after = some object) :
    endpoint.fresh objects domain = some object := by
  induction endpoint generalizing object with
  | plain kind object_ => exact same.found.symm.trans fresh
  | PortEndpoint supplier_ name_ invalidPort_ object_ ih =>
      simp only [Endpoint.fresh, bind_eq_some_iff] at fresh ⊢
      obtain ⟨supplier, supplierFresh, port⟩ := fresh
      refine ⟨supplier, ih same supplierFresh, ?_⟩
      split at port
      · rename_i answers
        simp only [Bool.and_eq_true] at answers
        rw [if_pos (by simp [same.alive _ answers.1, answers.2])]
        exact port
      · cases port

theorem SameFor.upToDate (upToDate : endpoint.UpToDate objects domain) : endpoint.UpToDate objects after := by
  induction endpoint with
  | plain kind object_ =>
      intro object cached
      exact same.found.trans (upToDate object cached)
  | PortEndpoint supplier_ name_ invalidPort_ object_ ih =>
      refine ⟨ih same upToDate.1, fun object cached => ?_⟩
      rw [same.named]
      exact upToDate.2 object cached

end SameFor

section Resolution

variable (objects : Objects) (domain : Domain)

theorem Endpoint.fresh_named {endpoint : Endpoint} {object : ObjRef}
    (fresh : endpoint.fresh objects domain = some object) :
    endpoint.named objects domain = some object := by
  induction endpoint generalizing object with
  | plain kind object_ => exact fresh
  | PortEndpoint supplier_ name_ invalidPort_ object_ ih =>
      simp only [Endpoint.fresh, bind_eq_some_iff] at fresh
      obtain ⟨supplier, found, port⟩ := fresh
      simp only [Endpoint.named, ih found, bind_some]
      split at port
      · rename_i both
        simp only [Bool.and_eq_true] at both
        rw [if_pos both.2]
        exact port
      · cases port

theorem Endpoint.named_release (endpoint : Endpoint) :
    endpoint.release.named objects domain = endpoint.named objects domain := by
  induction endpoint with
  | plain kind object_ => rfl
  | PortEndpoint supplier_ name_ invalidPort_ object_ ih =>
      simp only [release, named, ih]

theorem Endpoint.fresh_release (endpoint : Endpoint) :
    endpoint.release.fresh objects domain = endpoint.fresh objects domain := by
  induction endpoint with
  | plain kind object_ => rfl
  | PortEndpoint supplier_ name_ invalidPort_ object_ ih =>
      simp only [release, fresh, ih]

theorem Endpoint.release_upToDate (endpoint : Endpoint) : endpoint.release.UpToDate objects domain := by
  induction endpoint with
  | plain kind object_ =>
      intro object cached
      cases cached
  | PortEndpoint supplier_ name_ invalidPort_ object_ ih =>
      refine ⟨ih, fun object cached => ?_⟩
      cases cached

theorem Endpoint.resolve_upToDate {endpoint : Endpoint} (upToDate : endpoint.UpToDate objects domain) :
    SameRegistry domain (endpoint.resolve objects domainConnectionManager domain).domain ∧
      (endpoint.resolve objects domainConnectionManager domain).endpoint.release = endpoint.release ∧
      (endpoint.resolve objects domainConnectionManager domain).endpoint.UpToDate objects domain ∧
      (∀ object, (endpoint.resolve objects domainConnectionManager domain).result.join = some object →
        (endpoint.resolve objects domainConnectionManager domain).endpoint.object = some object ∧
          endpoint.named objects domain = some object) ∧
      ∀ object, endpoint.fresh objects domain = some object →
        (endpoint.resolve objects domainConnectionManager domain).result.join = some object := by
  induction endpoint with
  | plain kind object_ =>
      cases object_ with
      | some cached =>
          have current := upToDate cached rfl
          refine ⟨SameRegistry.refl domain, rfl, upToDate, ?_, ?_⟩
          · intro object result
            obtain rfl : cached = object := some.inj result
            exact ⟨rfl, current⟩
          · intro object fresh
            exact current.symm.trans fresh
      | none =>
          refine ⟨kind.resolve_registry objects domain, rfl, ?_, ?_, fun _ fresh => fresh⟩
          · intro object cached
            exact cached
          · intro object result
            exact ⟨result, result⟩
  | PortEndpoint supplier_ name_ invalidPort_ object_ ih =>
      obtain ⟨supplierUpToDate, own⟩ := upToDate
      cases object_ with
      | some cached =>
          have current := own cached rfl
          refine ⟨SameRegistry.refl domain, rfl, ⟨supplierUpToDate, own⟩, ?_, ?_⟩
          · intro object result
            obtain rfl : cached = object := some.inj result
            exact ⟨rfl, current⟩
          · intro object fresh
            have named := fresh_named objects domain fresh
            exact current.symm.trans named
      | none =>
          obtain ⟨registry, shape, still, exact_, complete⟩ := ih supplierUpToDate
          rw [Endpoint.resolve]
          generalize supplier_.resolve objects domainConnectionManager domain = supplier at *
          have sameNamed : supplier.endpoint.named objects domain = supplier_.named objects domain := by
            rw [← Endpoint.named_release, shape, Endpoint.named_release]
          have port : ∀ object, Endpoint.fresh objects domain
              (.PortEndpoint supplier_ name_ invalidPort_ none) = some object →
              ∃ found, supplier.result.join = some found ∧
                (domain.exists_ found && objects.isPortSupplier found) = true ∧
                (objects.getPort found name_).join = some object := by
            intro object fresh
            simp only [Endpoint.fresh, bind_eq_some_iff] at fresh
            obtain ⟨found, supplierFresh, ports⟩ := fresh
            refine ⟨found, complete found supplierFresh, ?_⟩
            split at ports
            · rename_i both
              exact ⟨both, ports⟩
            · cases ports
          have nothing : ∀ invalidPort,
              (PortEndpoint supplier.endpoint name_ invalidPort none).release =
                (PortEndpoint supplier_ name_ invalidPort_ none).release ∧
              (PortEndpoint supplier.endpoint name_ invalidPort none).UpToDate
                objects domain := by
            refine fun invalidPort => ⟨by simp only [release, shape], still, ?_⟩
            intro object cached
            cases cached
          rcases result : supplier.result with _ | _ | supplierObject
          · refine ⟨registry, (nothing _).1, (nothing _).2, by simp, fun object fresh => ?_⟩
            obtain ⟨found, joined, _⟩ := port object fresh
            simp [result] at joined
          · refine ⟨registry, (nothing _).1, (nothing _).2, by simp, fun object fresh => ?_⟩
            obtain ⟨found, joined, _⟩ := port object fresh
            simp [result] at joined
          · have supplierNamed := (exact_ supplierObject (by rw [result]; rfl)).2
            have fresh_port : ∀ object, fresh objects domain
                (.PortEndpoint supplier_ name_ invalidPort_ none) = some object →
                (domain.exists_ supplierObject && objects.isPortSupplier supplierObject) = true ∧
                  (objects.getPort supplierObject name_).join = some object := by
              intro object fresh
              obtain ⟨found, joined, both⟩ := port object fresh
              rw [result] at joined
              obtain rfl : supplierObject = found := some.inj joined
              exact both
            simp only [registry.exists_, domainConnectionManager, Bool.false_eq_true, if_false]
            split
            · rename_i answers
              split
              · rename_i found answer
                have named : (supplier_.named objects domain).bind (fun supplier =>
                    if objects.isPortSupplier supplier then
                      (objects.getPort supplier name_).join else none) = found := by
                  simp only [Bool.and_eq_true] at answers
                  rw [supplierNamed, bind_some, if_pos answers.2, answer]
                  rfl
                refine ⟨registry, by simp only [Endpoint.release, shape], ⟨still, ?_⟩, ?_, ?_⟩
                · intro object cached
                  simp only [Endpoint.named, sameNamed, named]
                  exact cached
                · intro object joined
                  exact ⟨joined, named.trans joined⟩
                · intro object fresh
                  have both := fresh_port object fresh
                  rw [answer] at both
                  exact both.2
              · rename_i answer
                refine ⟨registry, (nothing _).1, (nothing _).2, by simp, fun object fresh => ?_⟩
                have both := fresh_port object fresh
                simp [answer] at both
            · rename_i silent
              refine ⟨registry, (nothing _).1, (nothing _).2, by simp, fun object fresh => ?_⟩
              exact absurd (fresh_port object fresh).1 silent

end Resolution

theorem Endpoint.kind_release (endpoint : Endpoint) : endpoint.release.kind = endpoint.kind := by
  induction endpoint with
  | plain kind object_ => rfl
  | PortEndpoint supplier_ name_ invalidPort_ object_ ih => exact ih

theorem Endpoint.checkDependency_kind (type : DependencyType) (identifier : String) (endpoint : Endpoint) :
    endpoint.checkDependency type identifier = endpoint.kind.checkDependency type identifier := by
  induction endpoint with
  | plain kind object_ => rfl
  | PortEndpoint supplier_ name_ invalidPort_ object_ ih => exact ih

def EndpointKind.refersTo (type : DependencyType) (identifier : String) : EndpointKind → Bool
  | .ComponentEndpoint identifier_ => type == .COMPONENT && identifier == identifier_
  | .ServiceEndpoint name_ => type == .SERVICENAME && identifier == name_
  | .FindByDomainFinderEndpoint type_ name_ =>
    type_ == "servicename" && type == .SERVICENAME && identifier == name_
  | _ => false

theorem EndpointKind.refersTo_checkDependency {type : DependencyType} {identifier : String}
    {kind : EndpointKind} (refers : kind.refersTo type identifier) :
    kind.checkDependency type identifier := by
  cases kind <;> simp_all [refersTo, checkDependency]

/-- Registrations of devices and services are followed by identifier: not what the naming service
finds, and not a service found by its type. -/
def EndpointKind.followed : EndpointKind → Bool
  | .FindByNamingServiceEndpoint _ => false
  | .FindByDomainFinderEndpoint type _ => type != "servicetype"
  | _ => true

structure ChangesOnly (objects : Objects) (type : DependencyType) (identifier : String)
    (domain after : Domain) : Prop where
  others : ∀ kind : EndpointKind, kind.followed → ¬ kind.refersTo type identifier →
    kind.found objects after = kind.found objects domain
  exists_ : after.exists_ = domain.exists_

variable {name : String} {table : List (String × ObjRef)}

theorem lookup_append_other {other : String} {object : ObjRef} (differs : other ≠ name) :
    lookup (table ++ [(name, object)]) other = lookup table other := by
  have miss : (name == other) = false := beq_eq_false_iff_ne.mpr (Ne.symm differs)
  simp [lookup, List.find?_append, miss]

theorem lookup_eraseP_other {other : String} (differs : other ≠ name) :
    lookup (table.eraseP fun entry => entry.1 == name) other = lookup table other := by
  induction table with
  | nil => rfl
  | cons entry rest ih =>
      simp only [lookup] at ih ⊢
      by_cases same : entry.1 = name
      · have miss : (entry.1 == other) = false := by simp [same, Ne.symm differs]
        rw [List.eraseP_cons_of_pos (by simp [same]), List.find?_cons, miss]
      · rw [List.eraseP_cons_of_neg (by simp [same]), List.find?_cons, List.find?_cons]
        split
        · rfl
        · exact ih

theorem lookup_eraseP_self {name : String} (unique : (table.map Prod.fst).Nodup) :
    lookup (table.eraseP fun entry => entry.1 == name) name = none := by
  induction table with
  | nil => rfl
  | cons entry rest ih =>
      rw [List.map_cons, List.nodup_cons] at unique
      simp only [lookup, map_eq_none_iff] at ih ⊢
      by_cases same : entry.1 = name
      · rw [List.eraseP_cons_of_pos (by simp [same]), List.find?_eq_none]
        intro other member hit
        have equal : other.1 = name := by simpa using hit
        exact unique.1 (same.trans equal.symm ▸ List.mem_map_of_mem member)
      · rw [List.eraseP_cons_of_neg (by simp [same]), List.find?_cons]
        simp only [beq_eq_false_iff_ne.mpr same]
        exact ih unique.2

theorem changesOnly_devices {identifier : String} {devices : List (String × ObjRef)}
    (others : ∀ other, other ≠ identifier → lookup devices other = lookup domain.devices other) :
    ChangesOnly objects .COMPONENT identifier domain { domain with devices } where
  others kind _ refers := by
    refine EndpointKind.found_congr (fun type name _ =>
      lookupDomainObject_found type name (fun _ => rfl) rfl fun _ => rfl) ?_ rfl fun _ _ => rfl
    rintro identifier_ rfl
    refine others identifier_ ?_
    rintro rfl
    simp [refersTo] at refers
  exists_ := rfl

theorem lookupDomainObject_servicename (objects : Objects) (name : String) (domain : Domain) :
    (lookupDomainObject objects "servicename" name domain).1 = (lookup domain.services name).map some := by
  simp [lookupDomainObject]

theorem changesOnly_services {services : List (String × ObjRef)}
    (others : ∀ other, other ≠ name → lookup services other = lookup domain.services other) :
    ChangesOnly objects .SERVICENAME name domain { domain with services } where
  others kind followed refers := by
    refine EndpointKind.found_congr (fun type other looked => ?_) (fun _ _ => rfl) rfl fun _ _ => rfl
    by_cases byName : type = "servicename"
    · subst byName
      rw [lookupDomainObject_servicename, lookupDomainObject_servicename, others other]
      rintro rfl
      cases kind <;> simp_all [EndpointKind.refersTo, EndpointKind.domainObject]
    · refine lookupDomainObject_found type other (fun either => ?_) rfl fun _ => rfl
      cases kind <;> simp_all [EndpointKind.followed, EndpointKind.domainObject]
  exists_ := rfl

section Changes

variable {objects : Objects} {type : DependencyType} {identifier : String} {domain after : Domain}
  {endpoint : Endpoint}

theorem ChangesOnly.sameFor {kind : EndpointKind} (changes : ChangesOnly objects type identifier domain after)
    (followed : kind.followed) (other : ¬ kind.refersTo type identifier) : SameFor objects domain after kind where
  found := changes.others kind followed other
  alive object := by rw [changes.exists_]; exact id

theorem Endpoint.named_none (unregistered : endpoint.kind.found objects domain = none) :
    endpoint.named objects domain = none := by
  induction endpoint with
  | plain kind object_ => exact unregistered
  | PortEndpoint supplier_ name_ invalidPort_ object_ ih =>
      simp [named, ih unregistered]

theorem Endpoint.UpToDate.unregistered (unregistered : endpoint.kind.found objects domain = none)
    (upToDate : endpoint.UpToDate objects domain) : endpoint.UpToDate objects after := by
  induction endpoint with
  | plain kind object_ =>
      intro object cached
      have found := upToDate object cached
      rw [show kind.found objects domain = none from unregistered] at found
      cases found
  | PortEndpoint supplier_ name_ invalidPort_ object_ ih =>
      refine ⟨ih unregistered upToDate.1, fun object cached => ?_⟩
      have found := upToDate.2 object cached
      rw [named_none unregistered] at found
      cases found

end Changes

end Redhawk.Connections
