import Redhawk.Gpp.NicAllocator

/-!
What is promised of the NIC allocator: the NICs that meet a request, the answers, and the books that
keep the throughput of each device with the allocations on its interfaces.
-/

namespace Redhawk.Gpp

open Library List

section Requests

variable (inet_pton : String → Option (BitVec 32)) (nics : AllocatableNics)

def deviceLoad (allocations : List NicAllocation) (device : String) : ℚ :=
  ((allocations.filter fun alloc => deviceOf alloc.interface = device).map NicAllocation.get_throughput).sum

def AllocatableNics.capacity (nic : NicState) : ℚ :=
  if nic.device = "" then nic.maximum_throughput
  else ((nics.nics.find? fun other => other.device == nic.device).getD nic).maximum_throughput

def NicAllocator.added (allocator : NicAllocator) (request : NicAllocation) (nic : NicState) : ℚ :=
  request.get_throughput -
    match allocator.find request.identifier with
    | none => 0
    | some stored => if deviceOf stored.interface = nic.device then stored.get_throughput else 0

/-- The NIC meets the constraints of the request, except perhaps that on the interface. -/
structure Fits (throughputs : Throughputs) (request : NicAllocation) (allocator : NicAllocator)
    (nic : NicState) : Prop where
  addressable : request.ip_addressable = "" ∨ ∃ address own netmask,
    inet_pton request.ip_addressable = some address ∧ inet_pton nic.v4_address = some own ∧
      inet_pton nic.v4_netmask = some netmask ∧ address &&& netmask = own &&& netmask
  multicast : request.multicast_support = "" ∨ iequals request.multicast_support "true" = nic.multicast
  throughput : max (throughputs.current nic.device)
      (deviceLoad allocator.allocations nic.device + allocator.added request nic) ≤
    nics.capacity nic * throughputs.max_throughput_percent / 100

structure Meets (throughputs : Throughputs) (request : NicAllocation) (allocator : NicAllocator)
    (nic : NicState) : Prop extends Fits inet_pton nics throughputs request allocator nic where
  interface : request.interface = "" ∨ request.interface = nic.interface

def Unaddressed (request : NicAllocation) (nic : NicState) : Prop :=
  request.ip_addressable ≠ "" ∧ (inet_pton nic.v4_address = none ∨ inet_pton nic.v4_netmask = none)

def Valid (request : NicAllocation) : Prop := validate_allocation inet_pton request = .ok ()

/-- What is promised of the answer to a request and of the allocations after it. -/
structure Answers (throughputs : Throughputs) (request : NicAllocation) (allocator : NicAllocator)
    (answer : Except String Bool × NicAllocator) : Prop where
  recorded : answer.1 = .ok true → ∃ nic ∈ nics.nics,
    Meets inet_pton nics throughputs request allocator nic ∧
      answer.2.find request.identifier = some { request with interface := nic.interface } ∧
      ∀ other, other ≠ request.identifier → answer.2.find other = allocator.find other
  kept : answer.1 ≠ .ok true → answer.2.allocations = allocator.allocations

/-- A request is granted just when it is valid and some NIC meets it, and all is as promised. -/
def Served (throughputs : Throughputs) (request : NicAllocation) (allocator : NicAllocator) : Prop :=
  ((allocator.allocate_capacity inet_pton nics throughputs request).1 = .ok true ↔
      Valid inet_pton request ∧ ∃ nic ∈ nics.nics, Meets inet_pton nics throughputs request allocator nic) ∧
    Answers inet_pton nics throughputs request allocator
      (allocator.allocate_capacity inet_pton nics throughputs request)

/-- The request is answered as it should be, if it is valid: one that some NIC meets has no NIC
without an address in front of one that meets it, which is that of the stored allocation if there is
one; one that no NIC meets does not find the NIC of the stored allocation fit in that way. -/
structure Reaches (throughputs : Throughputs) (request : NicAllocation) (allocator : NicAllocator) :
    Prop where
  reached : (∃ nic ∈ nics.nics, Meets inet_pton nics throughputs request allocator nic) →
    ∃ front nic back, nics.nics = front ++ nic :: back ∧ Meets inet_pton nics throughputs request allocator nic ∧
      (∀ other ∈ front, ¬Unaddressed inet_pton request other) ∧
      ∀ stored, allocator.find request.identifier = some stored → nic.interface = stored.interface
  ignored : (∀ nic ∈ nics.nics, ¬Meets inet_pton nics throughputs request allocator nic) →
    ∀ stored, allocator.find request.identifier = some stored → ∀ front nic back,
      nics.nics = front ++ nic :: back → nic.interface = stored.interface →
        (∀ other ∈ front, ¬Unaddressed inet_pton request other) →
          ¬Fits inet_pton nics throughputs request allocator nic

/-- The throughputs that the allocator keeps are those of its allocations, and the event is answered
as it should be. -/
def NicEvent.Faithful (event : NicEvent) (allocator : NicAllocator) : Prop :=
  (∀ device, ((event.step inet_pton nics allocator).capacities device).allocated_throughput =
      deviceLoad (event.step inet_pton nics allocator).allocations device) ∧
    match event with
    | .allocate request throughputs => Served inet_pton nics throughputs request allocator
    | .gppAllocate request throughputs check =>
        Served inet_pton nics throughputs request allocator ∧
          Answers inet_pton nics throughputs request allocator
            (allocator.gppAllocate inet_pton nics throughputs check request)
    | .deallocate request =>
        ∀ raised, (allocator.deallocate_capacity inet_pton nics request).1 = .error raised →
          (allocator.deallocate_capacity inet_pton nics request).2.allocations = allocator.allocations

/-- Through the device, an update that some NIC meets passes the check of its stored interface. -/
def NicEvent.Clear (event : NicEvent) (allocator : NicAllocator) : Prop :=
  match event with
  | .allocate request throughputs =>
      Valid inet_pton request → Reaches inet_pton nics throughputs request allocator
  | .gppAllocate request throughputs check =>
      Valid inet_pton request → Reaches inet_pton nics throughputs request allocator ∧
        ((∃ nic ∈ nics.nics, Meets inet_pton nics throughputs request allocator nic) →
          ∀ stored, allocator.find request.identifier = some stored → check stored.interface = true)
  | .deallocate _ => True

end Requests

structure NicBooks (nics : AllocatableNics) (allocator : NicAllocator) : Prop where
  distinct : (allocator.allocations.map NicAllocation.identifier).Nodup
  placed : ∀ alloc ∈ allocator.allocations, ∃ nic ∈ nics.nics, nic.interface = alloc.interface
  allocated : ∀ device, (allocator.capacities device).allocated_throughput =
    deviceLoad allocator.allocations device
  nameless : (allocator.capacities "").device = ""
  looked : ∀ alloc ∈ allocator.allocations, deviceOf alloc.interface ≠ "" →
    (allocator.capacities (deviceOf alloc.interface)).device ≠ ""
  maxima : ∀ nic ∈ nics.nics, (allocator.capacities nic.device).device ≠ "" →
    (allocator.capacities nic.device).maximum_throughput = nics.capacity nic

theorem NicBooks.new (nics : AllocatableNics) : NicBooks nics {} where
  distinct := nodup_nil
  placed := fun alloc member => by cases member
  allocated := fun device => rfl
  nameless := rfl
  looked := fun alloc member => by cases member
  maxima := fun nic _ looked => absurd rfl looked

theorem NicAllocator.find_iff {allocator : NicAllocator}
    (distinct : (allocator.allocations.map NicAllocation.identifier).Nodup) {identifier : String}
    {alloc : NicAllocation} : allocator.find identifier = some alloc ↔
      alloc ∈ allocator.allocations ∧ alloc.identifier = identifier :=
  find?_key distinct

theorem NicAllocator.find_store (alloc : NicAllocation) (allocator : NicAllocator) (identifier : String) :
    (allocator.store alloc).find identifier =
      if identifier = alloc.identifier then some alloc else allocator.find identifier := by
  unfold NicAllocator.find NicAllocator.store
  by_cases own : identifier = alloc.identifier
  · rw [if_pos own, find?_cons_of_pos (by simp [own])]
  · rw [if_neg own]
    rw [find?_cons_of_neg (by simpa using Ne.symm own), find?_filter]
    congr 1
    funext entry
    by_cases same : entry.identifier = identifier
    · simp [same, own]
    · simp [same]

theorem deviceLoad_perm {first second : List NicAllocation} (perm : first.Perm second)
    (device : String) : deviceLoad first device = deviceLoad second device :=
  ((perm.filter _).map _).sum_eq

theorem deviceLoad_cons (alloc : NicAllocation) (allocations : List NicAllocation) (device : String) :
    deviceLoad (alloc :: allocations) device =
      (if deviceOf alloc.interface = device then alloc.get_throughput else 0) +
        deviceLoad allocations device := by
  unfold deviceLoad
  by_cases own : deviceOf alloc.interface = device
  · rw [filter_cons_of_pos (by simpa using own), map_cons, sum_cons, if_pos own]
  · rw [filter_cons_of_neg (by simpa using own), if_neg own, zero_add]

theorem deviceLoad_erase {allocator : NicAllocator}
    (distinct : (allocator.allocations.map NicAllocation.identifier).Nodup) (identifier : String)
    (device : String) :
    deviceLoad (allocator.erase identifier).allocations device =
      deviceLoad allocator.allocations device -
        match allocator.find identifier with
        | none => 0
        | some stored => if deviceOf stored.interface = device then stored.get_throughput else 0 := by
  cases found : allocator.find identifier with
  | none =>
      have none : ∀ alloc ∈ allocator.allocations, alloc.identifier ≠ identifier := by
        intro alloc member same
        exact absurd ((NicAllocator.find_iff distinct).mpr ⟨member, same⟩) (by simp [found])
      have all : (allocator.erase identifier).allocations = allocator.allocations := by
        unfold NicAllocator.erase
        rw [filter_eq_self]
        intro alloc member
        simpa using none alloc member
      rw [all]
      exact (sub_zero _).symm
  | some stored =>
      obtain ⟨member, rfl⟩ := (NicAllocator.find_iff distinct).mp found
      have split := deviceLoad_perm (perm_cons_filter_key_ne distinct member) device
      rw [deviceLoad_cons] at split
      rw [split]
      exact (add_sub_cancel_left _ _).symm

section Lookup

variable {nics : AllocatableNics} {allocator : NicAllocator}

@[simp] theorem lookup_allocations (nic : NicState) :
    (allocator.lookup_nic_throughput_capacity nic).allocations = allocator.allocations := by
  unfold NicAllocator.lookup_nic_throughput_capacity
  split
  · rfl
  · rfl

@[simp] theorem lookup_allocated (nic : NicState) (device : String) :
    ((allocator.lookup_nic_throughput_capacity nic).capacities device).allocated_throughput =
      (allocator.capacities device).allocated_throughput := by
  unfold NicAllocator.lookup_nic_throughput_capacity
  split
  · by_cases own : device = nic.device
    · subst own
      simp
    · simp [own]
  · rfl

theorem lookup_other {nic : NicState} {device : String} (other : device ≠ nic.device) :
    (allocator.lookup_nic_throughput_capacity nic).capacities device = allocator.capacities device := by
  unfold NicAllocator.lookup_nic_throughput_capacity
  split
  · exact Function.update_of_ne other ..
  · rfl

theorem lookup_device {nic : NicState} (named : nic.device ≠ "") :
    ((allocator.lookup_nic_throughput_capacity nic).capacities nic.device).device ≠ "" := by
  unfold NicAllocator.lookup_nic_throughput_capacity
  split
  next => simpa using named
  next looked => exact looked

theorem NicBooks.lookup_maximum (books : NicBooks nics allocator) {front back : List NicState}
    {nic : NicState} (split : nics.nics = front ++ nic :: back)
    (looked : ∀ other ∈ front, other.device ≠ "" → (allocator.capacities other.device).device ≠ "") :
    ((allocator.lookup_nic_throughput_capacity nic).capacities nic.device).maximum_throughput =
      nics.capacity nic := by
  unfold NicAllocator.lookup_nic_throughput_capacity
  split
  next unknown =>
    simp only [Function.update_self]
    unfold AllocatableNics.capacity
    split
    next => rfl
    next named =>
      have first : nics.nics.find? (fun other => other.device == nic.device) = some nic := by
        rw [split, find?_append, find?_eq_none.mpr, Option.none_or, find?_cons_of_pos (by simp)]
        intro other member same
        rw [beq_iff_eq] at same
        have known := looked other member (same ▸ named)
        rw [same] at known
        exact known unknown
      rw [first, Option.getD_some]
  next known => exact books.maxima nic (by rw [split]; simp) known

theorem capacity_congr {nic other : NicState} (member : nic ∈ nics.nics) (named : nic.device ≠ "")
    (same : other.device = nic.device) : nics.capacity other = nics.capacity nic := by
  unfold AllocatableNics.capacity
  rw [same, if_neg named, if_neg named]
  cases found : nics.nics.find? fun other => other.device == nic.device with
  | some first => rfl
  | none => exact absurd (find?_eq_none.mp found nic member) (by simp)

theorem NicBooks.lookup_nameless (books : NicBooks nics allocator) (nic : NicState) :
    ((allocator.lookup_nic_throughput_capacity nic).capacities "").device = "" := by
  by_cases own : nic.device = ""
  · unfold NicAllocator.lookup_nic_throughput_capacity
    split
    · simp [own]
    · exact books.nameless
  · rw [lookup_other (Ne.symm own)]
    exact books.nameless

theorem NicBooks.lookup (books : NicBooks nics allocator) {nic : NicState}
    (member : nic ∈ nics.nics) (maximum : nic.device ≠ "" →
      ((allocator.lookup_nic_throughput_capacity nic).capacities nic.device).maximum_throughput =
        nics.capacity nic) :
    NicBooks nics (allocator.lookup_nic_throughput_capacity nic) where
  distinct := by
    rw [lookup_allocations]
    exact books.distinct
  placed := by
    rw [lookup_allocations]
    exact books.placed
  allocated := by
    intro device
    rw [lookup_allocations, lookup_allocated]
    exact books.allocated device
  nameless := books.lookup_nameless nic
  looked := by
    rw [lookup_allocations]
    intro alloc member named
    by_cases own : deviceOf alloc.interface = nic.device
    · rw [own] at named ⊢
      exact lookup_device named
    · rw [lookup_other own]
      exact books.looked alloc member named
  maxima := by
    intro other listed known
    by_cases own : other.device = nic.device
    · have named : nic.device ≠ "" := by
        intro empty
        rw [own, empty] at known
        exact known (books.lookup_nameless nic)
      rw [own, capacity_congr member named own]
      exact maximum named
    · rw [lookup_other own] at known ⊢
      exact books.maxima other listed known

end Lookup

end Redhawk.Gpp
