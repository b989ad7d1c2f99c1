import Redhawk.Gpp.NicLedger

/-!
The search of the NIC allocator: the first NIC that is accepted, or whose address cannot be read,
decides, and the tests of the loop are the constraints of the request.
-/

namespace Redhawk.Gpp

open List

/-- What comes of asking the NICs one after the other: the first one that accepts or raises decides. -/
inductive Searched (accepts raises : NicState → Prop) :
    List NicState → Except String (Option NicState) → Prop where
  | done : Searched accepts raises [] (.ok none)
  | raised {nic : NicState} {rest : List NicState} (text : String) (raise : raises nic) :
      Searched accepts raises (nic :: rest) (.error text)
  | found {nic : NicState} {rest : List NicState} (accept : accepts nic) :
      Searched accepts raises (nic :: rest) (.ok (some nic))
  | next {nic : NicState} {rest : List NicState} {result : Except String (Option NicState)}
      (refuse : ¬accepts nic) (quiet : ¬raises nic)
      (later : Searched accepts raises rest result) : Searched accepts raises (nic :: rest) result

variable {accepts raises : NicState → Prop}

theorem Searched.split {nics : List NicState} {nic : NicState}
    (searched : Searched accepts raises nics (.ok (some nic))) :
    ∃ front back, nics = front ++ nic :: back ∧ accepts nic ∧ ∀ other ∈ front, ¬raises other := by
  generalize answer : Except.ok (some nic) = result at searched
  induction searched with
  | done => cases answer
  | raised text raise => cases answer
  | found accept =>
      cases answer
      exact ⟨[], _, rfl, accept, by simp⟩
  | next refuse quiet later ih =>
      obtain ⟨front, back, rfl, accept, silent⟩ := ih answer
      exact ⟨_ :: front, back, rfl, accept, forall_mem_cons.mpr ⟨quiet, silent⟩⟩

theorem Searched.finds (apart : ∀ nic, accepts nic → ¬raises nic)
    {nics : List NicState} {result : Except String (Option NicState)}
    (searched : Searched accepts raises nics result) {front back : List NicState} {nic : NicState}
    (split : nics = front ++ nic :: back) (accept : accepts nic)
    (silent : ∀ other ∈ front, ¬raises other) : ∃ found, result = .ok (some found) := by
  induction searched generalizing front with
  | done => simp at split
  | raised text raise =>
      cases front with
      | nil =>
          obtain ⟨rfl, rfl⟩ := cons.inj split
          exact absurd raise (apart _ accept)
      | cons first front =>
          obtain ⟨rfl, rfl⟩ := cons.inj split
          exact absurd raise (silent _ mem_cons_self)
  | found accept => exact ⟨_, rfl⟩
  | next refuse quiet later ih =>
      cases front with
      | nil =>
          obtain ⟨rfl, rfl⟩ := cons.inj split
          exact absurd accept refuse
      | cons first front =>
          obtain ⟨rfl, rfl⟩ := cons.inj split
          exact ih rfl fun other member => silent other (mem_cons_of_mem _ member)

theorem Searched.mono {accepts' raises' : NicState → Prop} {rest : List NicState}
    {result : Except String (Option NicState)} (searched : Searched accepts raises rest result)
    (accept : ∀ nic, accepts nic ↔ accepts' nic) (raise : ∀ nic, raises nic ↔ raises' nic) :
    Searched accepts' raises' rest result := by
  induction searched with
  | done => exact .done
  | raised text raises => exact .raised text ((raise _).mp raises)
  | found accepts => exact .found ((accept _).mp accepts)
  | next refuse quiet _ ih => exact .next ((accept _).not.mp refuse) ((raise _).not.mp quiet) ih

section Search

variable (inet_pton : String → Option (BitVec 32)) (nics : AllocatableNics)
  (throughputs : Throughputs)

structure Accepts (alloc : NicAllocation) (delta : ℚ) (load : String → ℚ) (nic : NicState) :
    Prop where
  addressable : allocatable_by_is_addressable inet_pton alloc nic = .ok true
  multicast : allocatable_by_multicast_support alloc nic = true
  interface : allocatable_by_interface alloc nic = true
  throughput : max (throughputs.current nic.device) (load nic.device + delta) ≤
    nics.capacity nic * throughputs.max_throughput_percent / 100

def Raises (alloc : NicAllocation) (nic : NicState) : Prop :=
  ∃ text, allocatable_by_is_addressable inet_pton alloc nic = .error text

variable {inet_pton nics throughputs}

structure Looked (nics : AllocatableNics) (allocator next : NicAllocator) : Prop where
  books : NicBooks nics next
  same : next.allocations = allocator.allocations

variable (alloc : NicAllocation)

theorem NicBooks.search (delta : ℚ) {rest : List NicState} :
    ∀ {front : List NicState} {allocator : NicAllocator}, nics.nics = front ++ rest → NicBooks nics allocator →
      (∀ other ∈ front, other.device ≠ "" → (allocator.capacities other.device).device ≠ "") →
      Looked nics allocator (allocator.search inet_pton alloc delta throughputs rest).2 ∧
        Searched (Accepts inet_pton nics throughputs alloc delta
            (deviceLoad allocator.allocations)) (Raises inet_pton alloc) rest
          (allocator.search inet_pton alloc delta throughputs rest).1 ∧
        ∀ nic, (allocator.search inet_pton alloc delta throughputs rest).1 = .ok (some nic) →
          nic.device ≠ "" → ((allocator.search inet_pton alloc delta throughputs
            rest).2.capacities nic.device).device ≠ "" := by
  induction rest with
  | nil =>
      intro front allocator split books looked
      exact ⟨⟨books, rfl⟩, .done, fun nic found => by cases found⟩
  | cons nic rest ih =>
      intro front allocator split books looked
      have maximum := books.lookup_maximum split looked
      have books' := books.lookup (by rw [split]; simp) fun _ => maximum
      have load := books.allocated nic.device
      unfold NicAllocator.search
      cases asked : allocatable_by_is_addressable inet_pton alloc nic with
      | error text =>
          exact ⟨⟨books', lookup_allocations nic⟩, .raised text ⟨text, asked⟩,
            fun found impossible => by cases impossible⟩
      | ok addressable =>
          dsimp only
          split
          next passes =>
            simp only [Bool.and_eq_true, allocatable_by_data_rate, decide_eq_true_eq, maximum,
              lookup_allocated, load] at passes
            obtain ⟨⟨⟨addressed, multicast⟩, interface⟩, throughput⟩ := passes
            subst addressed
            refine ⟨⟨books', lookup_allocations nic⟩, .found ⟨asked, multicast, interface, throughput⟩,
              fun found same named => ?_⟩
            cases same
            exact lookup_device named
          next fails =>
            have looked' : ∀ other ∈ front ++ [nic], other.device ≠ "" →
                ((allocator.lookup_nic_throughput_capacity nic).capacities other.device).device ≠
                  "" := by
              intro other member named
              by_cases own : other.device = nic.device
              · rw [own] at named ⊢
                exact lookup_device named
              · rw [lookup_other own]
                refine looked other ?_ named
                rcases mem_append.mp member with front | last
                · exact front
                · exact absurd (congrArg NicState.device (mem_singleton.mp last)) own
            obtain ⟨kept, searched, known⟩ := ih (by rw [split]; simp) books' looked'
            rw [lookup_allocations] at searched
            refine ⟨⟨kept.books, kept.same.trans (lookup_allocations nic)⟩, ?_, known⟩
            refine .next (fun accept => fails ?_) (fun raise => ?_) searched
            · simp only [Bool.and_eq_true, allocatable_by_data_rate, decide_eq_true_eq, maximum,
                lookup_allocated, load]
              have addressed := accept.addressable
              rw [asked] at addressed
              exact ⟨⟨⟨Except.ok.inj addressed, accept.multicast⟩, accept.interface⟩, accept.throughput⟩
            · obtain ⟨text, raised⟩ := raise
              rw [asked] at raised
              cases raised

theorem addressable_iff (nic : NicState) :
    allocatable_by_is_addressable inet_pton alloc nic = .ok true ↔
      alloc.ip_addressable = "" ∨ ∃ address own netmask,
        inet_pton alloc.ip_addressable = some address ∧ inet_pton nic.v4_address = some own ∧
          inet_pton nic.v4_netmask = some netmask ∧ address &&& netmask = own &&& netmask := by
  unfold allocatable_by_is_addressable IsAddressableV4 GetV4AddressValue
  by_cases free : alloc.ip_addressable = ""
  · simp [free]
  · cases inet_pton alloc.ip_addressable with
    | none => simp [free, bind, Except.bind]
    | some address =>
        cases inet_pton nic.v4_address with
        | none => simp [free, bind, Except.bind]
        | some own =>
            cases inet_pton nic.v4_netmask with
            | none => simp [free, bind, Except.bind]
            | some netmask => simp [free, bind, Except.bind, pure, Except.pure]

variable {request : NicAllocation}

theorem raises_iff (valid : Valid inet_pton request)
    {alloc : NicAllocation} (same : alloc.ip_addressable = request.ip_addressable)
    (nic : NicState) : Raises inet_pton alloc nic ↔ Unaddressed inet_pton request nic := by
  unfold Raises Unaddressed allocatable_by_is_addressable IsAddressableV4
  rw [same]
  by_cases free : request.ip_addressable = ""
  · simp [free]
  · have known : ∃ address, inet_pton request.ip_addressable = some address := by
      cases found : inet_pton request.ip_addressable with
      | some address => exact ⟨address, rfl⟩
      | none =>
          unfold Valid validate_allocation at valid
          split at valid
          · cases valid
          · simp [GetV4AddressValue, found, bind, Except.bind] at valid
    obtain ⟨address, known⟩ := known
    rw [if_neg free]
    unfold GetV4AddressValue
    rw [known]
    cases inet_pton nic.v4_address with
    | none => simp [free, bind, Except.bind]
    | some own =>
        cases inet_pton nic.v4_netmask with
        | none => simp [free, bind, Except.bind]
        | some netmask => simp [bind, Except.bind, pure, Except.pure]

theorem multicast_iff (nic : NicState) :
    allocatable_by_multicast_support alloc nic = true ↔ alloc.multicast_support = "" ∨
      iequals alloc.multicast_support "true" = nic.multicast := by
  unfold allocatable_by_multicast_support
  by_cases free : alloc.multicast_support = ""
  · simp [free]
  · simp [free]

theorem interface_iff (nic : NicState) :
    allocatable_by_interface alloc nic = true ↔ alloc.interface = "" ∨ alloc.interface = nic.interface := by
  unfold allocatable_by_interface
  by_cases free : alloc.interface = ""
  · simp [free]
  · simp [free]

theorem accepts_new_iff {allocator : NicAllocator}
    (new : allocator.find request.identifier = none) (nic : NicState) :
    Accepts inet_pton nics throughputs request (request.get_throughput - 0)
        (deviceLoad allocator.allocations) nic ↔
      Meets inet_pton nics throughputs request allocator nic := by
  have added : allocator.added request nic = request.get_throughput - 0 := by
    rw [NicAllocator.added, new]
  constructor
  · intro accept
    refine ⟨⟨(addressable_iff request nic).mp accept.addressable,
      (multicast_iff request nic).mp accept.multicast, ?_⟩,
      (interface_iff request nic).mp accept.interface⟩
    rw [added]
    exact accept.throughput
  · intro meets
    refine ⟨(addressable_iff request nic).mpr meets.addressable, (multicast_iff request nic).mpr meets.multicast,
      (interface_iff request nic).mpr meets.interface, ?_⟩
    rw [← added]
    exact meets.throughput

theorem accepts_update_iff {allocator : NicAllocator} {stored alloc : NicAllocation}
    (known : allocator.find request.identifier = some stored)
    (merged : alloc = { request with interface := stored.interface })
    (named : stored.interface ≠ "") (nic : NicState) :
    Accepts inet_pton nics throughputs alloc (request.get_throughput - stored.get_throughput)
        (deviceLoad allocator.allocations) nic ↔
      nic.interface = stored.interface ∧ Fits inet_pton nics throughputs request allocator nic := by
  subst merged
  have added : nic.interface = stored.interface →
      allocator.added request nic = request.get_throughput - stored.get_throughput := by
    intro same
    rw [NicAllocator.added, known]
    simp [NicState.device, same]
  constructor
  · intro accept
    have own : nic.interface = stored.interface := by
      have either := (interface_iff _ nic).mp accept.interface
      exact (either.resolve_left named).symm
    refine ⟨own, (addressable_iff _ nic).mp accept.addressable, (multicast_iff _ nic).mp accept.multicast, ?_⟩
    rw [added own]
    exact accept.throughput
  · rintro ⟨own, fits⟩
    refine ⟨(addressable_iff _ nic).mpr fits.addressable,
      (multicast_iff _ nic).mpr fits.multicast, (interface_iff _ nic).mpr (.inr own.symm), ?_⟩
    rw [← added own]
    exact fits.throughput

end Search

end Redhawk.Gpp
