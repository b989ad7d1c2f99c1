import Redhawk.Gpp.NicSearch

/-!
The books of the NIC allocator through allocations, deallocations and what the GPP device undoes, and
the exact condition under which every request of a run is answered as promised.
-/

namespace Redhawk.Gpp

open Library NicAllocator NicBooks List

section Answers

variable {inet_pton : String → Option (BitVec 32)} {nics : AllocatableNics}
  {throughputs : Throughputs}

def Target (inet_pton : String → Option (BitVec 32)) (nics : AllocatableNics)
    (throughputs : Throughputs) (request : NicAllocation) (allocator : NicAllocator)
    (nic : NicState) : Prop :=
  match allocator.find request.identifier with
  | none => Meets inet_pton nics throughputs request allocator nic
  | some stored =>
      nic.interface = stored.interface ∧ Fits inet_pton nics throughputs request allocator nic

def NicAllocator.replaced (allocator : NicAllocator) (request : NicAllocation) : ℚ :=
  request.get_throughput -
    match allocator.find request.identifier with
    | none => 0
    | some stored => stored.get_throughput

variable {allocator : NicAllocator}

theorem NicBooks.stored_named (books : NicBooks nics allocator) {identifier : String} {stored : NicAllocation}
    (known : allocator.find identifier = some stored) : stored.interface ≠ "" := by
  obtain ⟨member, -⟩ := (find_iff books.distinct).mp known
  obtain ⟨nic, listed, same⟩ := books.placed stored member
  rw [← same]
  exact nics.named nic listed

theorem NicBooks.allocate_cases {allocator : NicAllocator} (books : NicBooks nics allocator)
    {request : NicAllocation} (valid : Valid inet_pton request) :
    ∃ next result, Looked nics allocator next ∧
      Searched (Target inet_pton nics throughputs request allocator)
        (Unaddressed inet_pton request) nics.nics result ∧
      (∀ nic, result = .ok (some nic) → nic.device ≠ "" → (next.capacities nic.device).device ≠ "") ∧
      allocator.allocate_capacity inet_pton nics throughputs request =
        match result with
        | .error text => (.error text, next)
        | .ok none => (.ok false, next)
        | .ok (some nic) => (.ok true,
            (next.store { request with interface := nic.interface }).addThroughput nic.device
              (allocator.replaced request)) := by
  let stored := allocator.find request.identifier
  let alloc := MergeAllocationStructs stored request
  have placed : ∀ interface, { alloc with interface := interface } = { request with interface := interface } := by
    intro interface
    cases known : stored with
    | none => simp only [alloc, known, MergeAllocationStructs]
    | some other => simp only [alloc, known, MergeAllocationStructs]
  have address : alloc.ip_addressable = request.ip_addressable := by
    have same := congrArg NicAllocation.ip_addressable (placed "")
    exact same
  have accepts : ∀ nic, Accepts inet_pton nics throughputs alloc (allocator.replaced request)
      (deviceLoad allocator.allocations) nic ↔ Target inet_pton nics throughputs request allocator nic := by
    intro nic
    unfold Target replaced
    cases known : allocator.find request.identifier with
    | none =>
        have merged : alloc = request := by
          simp only [alloc, stored, known, MergeAllocationStructs]
        rw [merged]
        exact accepts_new_iff known nic
    | some other =>
        have named := books.stored_named known
        have merged : alloc = { request with interface := other.interface } := by
          simp only [alloc, stored, known, NicAllocator.MergeAllocationStructs, if_neg named]
        exact accepts_update_iff known merged named nic
  obtain ⟨looked, searched, device⟩ := @search inet_pton nics throughputs alloc
    (allocator.replaced request) nics.nics [] allocator rfl books (by simp)
  refine ⟨_, _, looked, searched.mono accepts (raises_iff valid address), device, ?_⟩
  unfold NicAllocator.allocate_capacity
  rw [valid]
  dsimp only
  generalize answer : NicAllocator.search inet_pton _ _ throughputs nics.nics allocator = found
  change allocator.search inet_pton alloc (allocator.replaced request) throughputs nics.nics = found
    at answer
  rw [answer]
  rcases found with ⟨text | place, next⟩
  · rfl
  · cases place with
    | none => rfl
    | some nic =>
        have same := placed nic.interface
        dsimp only
        rw [same]
        rfl

variable {next : NicAllocator} {nic : NicState} {alloc : NicAllocation}

theorem NicBooks.place (books : NicBooks nics next) (member : nic ∈ nics.nics)
    (known : nic.device ≠ "" → (next.capacities nic.device).device ≠ "")
    (on : alloc.interface = nic.interface)
    (own : ∀ stored, next.find alloc.identifier = some stored → deviceOf stored.interface = nic.device) :
    NicBooks nics ((next.store alloc).addThroughput nic.device (next.replaced alloc)) := by
  have others : ((next.allocations.filter fun other =>
      other.identifier != alloc.identifier).map NicAllocation.identifier).Nodup :=
    books.distinct.sublist (filter_sublist.map _)
  have kept : ∀ device,
      (((next.store alloc).addThroughput nic.device (next.replaced alloc)).capacities
        device).device = (next.capacities device).device ∧
      (((next.store alloc).addThroughput nic.device (next.replaced alloc)).capacities
        device).maximum_throughput = (next.capacities device).maximum_throughput := by
    intro device
    by_cases same : device = nic.device
    · subst same
      simp [addThroughput, store]
    · simp [addThroughput, store, same]
  constructor
  · refine nodup_cons.mpr ⟨fun present => ?_, others⟩
    obtain ⟨other, inside, same⟩ := mem_map.mp present
    exact absurd same (by simpa using (mem_filter.mp inside).2)
  · intro other inside
    rcases mem_cons.mp inside with rfl | old
    · exact ⟨nic, member, on.symm⟩
    · exact books.placed other (mem_filter.mp old).1
  · intro device
    have before := books.allocated device
    have erased := deviceLoad_erase books.distinct alloc.identifier device
    have after : deviceLoad (((next.store alloc).addThroughput nic.device
        (next.replaced alloc)).allocations) device =
          (if nic.device = device then alloc.get_throughput else 0) +
            deviceLoad (next.erase alloc.identifier).allocations device := by
      have cons := deviceLoad_cons alloc (next.erase alloc.identifier).allocations device
      rw [on] at cons
      exact cons
    have counted : (((next.store alloc).addThroughput nic.device
        (next.replaced alloc)).capacities device).allocated_throughput =
          deviceLoad next.allocations device +
            if nic.device = device then next.replaced alloc else 0 := by
      by_cases same : nic.device = device
      · subst same
        simp [addThroughput, store, before]
      · simp [addThroughput, store, before, same, Ne.symm same]
    rw [after, counted, erased, replaced]
    cases known : next.find alloc.identifier with
    | none =>
        split
        · ring
        · ring
    | some stored =>
        dsimp only
        rw [own stored known]
        split
        · ring
        · ring
  · rw [(kept "").1]
    exact books.nameless
  · intro other inside named
    rw [(kept _).1]
    rcases mem_cons.mp inside with rfl | old
    · rw [on] at named ⊢
      exact known named
    · exact books.looked other (mem_filter.mp old).1 named
  · intro other inside looked
    rw [(kept _).1] at looked
    rw [(kept _).2]
    exact books.maxima other inside looked

theorem NicBooks.release (books : NicBooks nics allocator)
    {stored : NicAllocation} (known : allocator.find stored.identifier = some stored) :
    NicBooks nics ((allocator.addThroughput (deviceOf stored.interface)
      (-stored.get_throughput)).erase stored.identifier) := by
  have kept : ∀ device, ((allocator.addThroughput (deviceOf stored.interface)
        (-stored.get_throughput)).capacities device).device = (allocator.capacities device).device ∧
      ((allocator.addThroughput (deviceOf stored.interface)
        (-stored.get_throughput)).capacities device).maximum_throughput =
          (allocator.capacities device).maximum_throughput := by
    intro device
    by_cases same : device = deviceOf stored.interface
    · subst same
      simp [addThroughput]
    · simp [addThroughput, same]
  constructor
  · exact books.distinct.sublist (filter_sublist.map _)
  · exact fun other inside => books.placed other (mem_filter.mp inside).1
  · intro device
    have erased := deviceLoad_erase books.distinct stored.identifier device
    rw [known] at erased
    refine Eq.trans ?_ erased.symm
    change ((allocator.addThroughput _ _).capacities device).allocated_throughput = _
    by_cases same : deviceOf stored.interface = device
    · subst same
      simp [addThroughput, books.allocated, sub_eq_add_neg]
    · simp [addThroughput, books.allocated, same, Ne.symm same]
  · exact (kept "").1.trans books.nameless
  · intro other inside named
    have before := books.looked other (mem_filter.mp inside).1 named
    rw [← (kept _).1] at before
    exact before
  · intro other inside looked
    have before : (allocator.capacities other.device).device ≠ "" := by
      rw [← (kept _).1]
      exact looked
    exact (kept _).2.trans (books.maxima other inside before)

theorem NicBooks.deallocate {allocator : NicAllocator} (books : NicBooks nics allocator)
    (request : NicAllocation) :
    NicBooks nics (allocator.deallocate_capacity inet_pton nics request).2 ∧
      ((∃ text, allocator.deallocate_capacity inet_pton nics request = (.error text, allocator) ∧
          (Valid inet_pton request → allocator.find request.identifier = none)) ∨
        (allocator.deallocate_capacity inet_pton nics request).1 = .ok () ∧
          (allocator.deallocate_capacity inet_pton nics request).2.allocations =
            (allocator.erase request.identifier).allocations) := by
  unfold deallocate_capacity Valid
  split
  next text invalid =>
    refine ⟨books, .inl ⟨text, rfl, fun valid => ?_⟩⟩
    rw [invalid] at valid
    cases valid
  next =>
    cases known : allocator.find request.identifier with
    | none => exact ⟨books, .inl ⟨_, rfl, fun _ => rfl⟩⟩
    | some stored =>
        obtain ⟨member, same⟩ := (find_iff books.distinct).mp known
        obtain ⟨nic, listed, on⟩ := books.placed stored member
        have found : nics.nics.find? (fun nic => nic.interface == stored.interface) = some nic :=
          (find?_key nics.distinct).mpr ⟨listed, on⟩
        have device : nic.device = deviceOf stored.interface := congrArg deviceOf on
        have looked : nic.device ≠ "" → allocator.lookup_nic_throughput_capacity nic = allocator := by
          intro named
          rw [device] at named
          have known := books.looked stored member named
          rw [← device] at known
          exact if_neg known
        have books' : NicBooks nics (allocator.lookup_nic_throughput_capacity nic) := by
          apply books.lookup listed
          intro named
          rw [looked named]
          refine books.maxima nic listed ?_
          rw [device] at named ⊢
          exact books.looked stored member named
        have known' : (allocator.lookup_nic_throughput_capacity nic).find stored.identifier = some stored := by
          rw [same, find, lookup_allocations]
          exact known
        have released := books'.release known'
        rw [← device, same] at released
        dsimp only
        rw [found]
        refine ⟨released, .inr ⟨rfl, ?_⟩⟩
        exact congrArg (filter _) (lookup_allocations nic)

variable {request : NicAllocation}

theorem Fits.addressed (fits : Fits inet_pton nics throughputs request allocator nic) :
    ¬Unaddressed inet_pton request nic := by
  rintro ⟨asked, lacking⟩
  rcases fits.addressable with free | ⟨address, own, netmask, -, hasOwn, hasNetmask, -⟩
  · exact asked free
  · rcases lacking with none | none
    · rw [none] at hasOwn
      cases hasOwn
    · rw [none] at hasNetmask
      cases hasNetmask

theorem target_addressed (nic : NicState) (target : Target inet_pton nics throughputs request allocator nic) :
    ¬Unaddressed inet_pton request nic := by
  unfold Target at target
  split at target
  · exact target.toFits.addressed
  · exact target.2.addressed

def Placeable (inet_pton : String → Option (BitVec 32)) (nics : AllocatableNics)
    (throughputs : Throughputs) (request : NicAllocation) (allocator : NicAllocator)
    (nic : NicState) : Prop :=
  Target inet_pton nics throughputs request allocator nic ∧ ∃ front back,
    nics.nics = front ++ nic :: back ∧ ∀ other ∈ front, ¬Unaddressed inet_pton request other

theorem NicBooks.allocate {allocator : NicAllocator} (books : NicBooks nics allocator)
    {request : NicAllocation} (valid : Valid inet_pton request) :
    NicBooks nics (allocator.allocate_capacity inet_pton nics throughputs request).2 ∧
      ((∃ nic, Placeable inet_pton nics throughputs request allocator nic ∧
          (allocator.allocate_capacity inet_pton nics throughputs request).1 = .ok true ∧
          (allocator.allocate_capacity inet_pton nics throughputs request).2.allocations =
            (allocator.store { request with interface := nic.interface }).allocations) ∨
        (¬∃ nic, Placeable inet_pton nics throughputs request allocator nic) ∧
          (allocator.allocate_capacity inet_pton nics throughputs request).1 ≠ .ok true ∧
          (allocator.allocate_capacity inet_pton nics throughputs request).2.allocations =
            allocator.allocations) := by
  obtain ⟨next, result, looked, searched, device, answer⟩ :=
    @allocate_cases inet_pton nics throughputs allocator books request valid
  have nowhere : (∀ nic, result ≠ .ok (some nic)) →
      ¬∃ nic, Placeable inet_pton nics throughputs request allocator nic := by
    rintro none ⟨nic, target, front, back, split, quiet⟩
    obtain ⟨found, same⟩ := searched.finds target_addressed split target quiet
    exact none found same
  rw [answer]
  cases result with
  | error text => exact ⟨looked.books, .inr ⟨nowhere (by simp), by simp, looked.same⟩⟩
  | ok found =>
      cases found with
      | none => exact ⟨looked.books, .inr ⟨nowhere (by simp), by simp, looked.same⟩⟩
      | some nic =>
          obtain ⟨front, back, split, target, quiet⟩ := searched.split
          have same : ∀ identifier, next.find identifier = allocator.find identifier := by
            intro identifier
            rw [find, looked.same]
            rfl
          have replaced : allocator.replaced request =
              next.replaced { request with interface := nic.interface } := by
            unfold replaced
            rw [same]
            rfl
          have placed : NicBooks nics ((next.store { request with interface := nic.interface
              }).addThroughput nic.device
                (next.replaced { request with interface := nic.interface })) := by
            apply looked.books.place (by rw [split]; simp) (device nic rfl) rfl
            intro stored known
            rw [same] at known
            unfold Target at target
            rw [known] at target
            exact congrArg deviceOf target.1.symm
          rw [← replaced] at placed
          refine ⟨placed, .inl ⟨nic, ⟨target, front, back, split, quiet⟩, rfl, ?_⟩⟩
          change _ :: filter _ next.allocations = _
          rw [looked.same]
          rfl

theorem find_of_store (same : next.allocations = (allocator.store alloc).allocations) (identifier : String) :
    next.find identifier =
      if identifier = alloc.identifier then some alloc else allocator.find identifier := by
  rw [← allocator.find_store alloc identifier, find, same]
  rfl

theorem Placeable.listed
    (placeable : Placeable inet_pton nics throughputs request allocator nic) : nic ∈ nics.nics := by
  obtain ⟨-, front, back, split, -⟩ := placeable
  rw [split]
  simp

theorem Placeable.meets {other : NicState}
    (placeable : Placeable inet_pton nics throughputs request allocator nic)
    (placeable' : Placeable inet_pton nics throughputs request allocator other)
    (meets : Meets inet_pton nics throughputs request allocator other) :
    Meets inet_pton nics throughputs request allocator nic := by
  have one := placeable.1
  have two := placeable'.1
  unfold Target at one two
  cases known : allocator.find request.identifier with
  | none =>
      rw [known] at one
      exact one
  | some stored =>
      rw [known] at one two
      have same := inj_on_of_nodup_map nics.distinct placeable.listed placeable'.listed
        (one.1.trans two.1.symm)
      rw [same]
      exact meets

theorem reaches_iff (request : NicAllocation) (allocator : NicAllocator) :
    Reaches inet_pton nics throughputs request allocator ↔
      ((∃ nic ∈ nics.nics, Meets inet_pton nics throughputs request allocator nic) →
        ∃ nic, Placeable inet_pton nics throughputs request allocator nic ∧
          Meets inet_pton nics throughputs request allocator nic) ∧
      ((∀ nic ∈ nics.nics, ¬Meets inet_pton nics throughputs request allocator nic) →
        ¬∃ nic, Placeable inet_pton nics throughputs request allocator nic) := by
  constructor
  · rintro ⟨reached, ignored⟩
    constructor
    · intro some
      obtain ⟨front, nic, back, split, meets, quiet, update⟩ := reached some
      refine ⟨nic, ⟨?_, front, back, split, quiet⟩, meets⟩
      unfold Target
      split
      next => exact meets
      next stored known => exact ⟨update stored known, meets.toFits⟩
    · rintro none ⟨nic, placeable⟩
      have listed := placeable.listed
      obtain ⟨target, front, back, split, quiet⟩ := placeable
      unfold Target at target
      split at target
      next => exact none nic listed target
      next stored known => exact ignored none stored known front nic back split target.1 quiet target.2
  · rintro ⟨reached, ignored⟩
    constructor
    · intro some
      obtain ⟨nic, ⟨target, front, back, split, quiet⟩, meets⟩ := reached some
      refine ⟨front, nic, back, split, meets, quiet, fun stored known => ?_⟩
      unfold Target at target
      rw [known] at target
      exact target.1
    · intro none stored known front nic back split on quiet fits
      refine ignored none ⟨nic, ?_, front, back, split, quiet⟩
      unfold Target
      rw [known]
      exact ⟨on, fits⟩

theorem NicBooks.served_iff (books : NicBooks nics allocator) (valid : Valid inet_pton request) :
    Served inet_pton nics throughputs request allocator ↔
      Reaches inet_pton nics throughputs request allocator := by
  obtain ⟨-, outcome⟩ := @allocate inet_pton nics throughputs allocator books request valid
  rw [reaches_iff]
  constructor
  · rintro ⟨granted, recorded, -⟩
    constructor
    · intro some
      have yes := granted.mpr ⟨valid, some⟩
      obtain ⟨nic, placeable, -, stored⟩ | ⟨-, no, -⟩ := outcome
      · obtain ⟨other, listed, meets, known, -⟩ := recorded yes
        rw [find_of_store stored, if_pos rfl, Option.some.injEq] at known
        have same : nic = other := inj_on_of_nodup_map nics.distinct placeable.listed listed
          (congrArg NicAllocation.interface known)
        exact ⟨nic, placeable, same ▸ meets⟩
      · exact absurd yes no
    · rintro none ⟨nic, placeable⟩
      obtain ⟨-, -, yes, -⟩ | ⟨nowhere, -, -⟩ := outcome
      · obtain ⟨-, nic, listed, meets⟩ := granted.mp yes
        exact none nic listed meets
      · exact nowhere ⟨nic, placeable⟩
  · rintro ⟨reached, ignored⟩
    have some_of_placeable : (∃ nic, Placeable inet_pton nics throughputs request allocator nic) →
        ∃ nic ∈ nics.nics, Meets inet_pton nics throughputs request allocator nic := by
      intro placeable
      by_contra none
      exact ignored (fun nic listed meets => none ⟨nic, listed, meets⟩) placeable
    obtain ⟨nic, placeable, yes, stored⟩ | ⟨nowhere, no, same⟩ := outcome
    · have some := some_of_placeable ⟨nic, placeable⟩
      obtain ⟨other, placeable', meets⟩ := reached some
      refine ⟨⟨fun _ => ⟨valid, some⟩, fun _ => yes⟩, fun _ => ?_, fun no => absurd yes no⟩
      refine ⟨nic, placeable.listed, placeable.meets placeable' meets, ?_, fun identifier differs => ?_⟩
      · rw [find_of_store stored]
        exact if_pos rfl
      · rw [find_of_store stored]
        exact if_neg differs
    · refine ⟨⟨fun yes => absurd yes no, ?_⟩, fun yes => absurd yes no, fun _ => same⟩
      rintro ⟨-, some⟩
      obtain ⟨nic, placeable, -⟩ := reached some
      exact absurd ⟨nic, placeable⟩ nowhere

theorem allocate_invalid {request : NicAllocation} (invalid : ¬Valid inet_pton request)
    (allocator : NicAllocator) :
    ∃ text, allocator.allocate_capacity inet_pton nics throughputs request = (.error text, allocator) := by
  unfold allocate_capacity
  cases checked : validate_allocation inet_pton request with
  | error text => exact ⟨text, rfl⟩
  | ok _ => exact absurd checked invalid

theorem answers_of_kept {answer : Except String Bool × NicAllocator} (no : answer.1 ≠ .ok true)
    (same : answer.2.allocations = allocator.allocations) :
    Answers inet_pton nics throughputs request allocator answer :=
  ⟨fun yes => absurd yes no, fun _ => same⟩

theorem served_invalid {request : NicAllocation} (invalid : ¬Valid inet_pton request)
    (allocator : NicAllocator) : Served inet_pton nics throughputs request allocator := by
  obtain ⟨text, answer⟩ := @allocate_invalid inet_pton nics throughputs request invalid allocator
  unfold Served
  rw [answer]
  exact ⟨⟨fun yes => (by cases yes), fun both => absurd both.1 invalid⟩, answers_of_kept (by simp) rfl⟩

theorem NicBooks.allocated_books {allocator : NicAllocator} (books : NicBooks nics allocator)
    (request : NicAllocation) :
    NicBooks nics (allocator.allocate_capacity inet_pton nics throughputs request).2 := by
  by_cases valid : Valid inet_pton request
  · exact (books.allocate valid).1
  · obtain ⟨text, answer⟩ := @allocate_invalid inet_pton nics throughputs request valid allocator
    rw [answer]
    exact books

theorem gppAllocate_cases (check : String → Bool) (request : NicAllocation) (allocator : NicAllocator) :
    ((allocator.allocate_capacity inet_pton nics throughputs request).1 ≠ .ok true ∧
        (allocator.gppAllocate inet_pton nics throughputs check request).1 ≠ .ok true ∧
        (allocator.gppAllocate inet_pton nics throughputs check request).2 =
          (allocator.allocate_capacity inet_pton nics throughputs request).2) ∨
      (allocator.allocate_capacity inet_pton nics throughputs request).1 = .ok true ∧
        ((∀ status, (allocator.allocate_capacity inet_pton nics throughputs request).2.find
            request.identifier = some status → check status.interface = true) ∧
          allocator.gppAllocate inet_pton nics throughputs check request =
            allocator.allocate_capacity inet_pton nics throughputs request ∨
        (∃ status, (allocator.allocate_capacity inet_pton nics throughputs request).2.find
            request.identifier = some status ∧ check status.interface = false) ∧
          (allocator.gppAllocate inet_pton nics throughputs check request).1 ≠ .ok true ∧
          (allocator.gppAllocate inet_pton nics throughputs check request).2 =
            ((allocator.allocate_capacity inet_pton nics throughputs
              request).2.deallocate_capacity inet_pton nics request).2) := by
  unfold gppAllocate
  rcases allocator.allocate_capacity inet_pton nics throughputs request with ⟨text | granted, next⟩
  · exact .inl ⟨by simp, by simp, rfl⟩
  · cases granted with
    | false => exact .inl ⟨by simp, by simp, rfl⟩
    | true =>
        right
        dsimp only
        cases known : next.find request.identifier with
        | none => exact ⟨rfl, .inl ⟨fun status impossible => (by cases impossible), rfl⟩⟩
        | some status =>
            cases passes : check status.interface with
            | true =>
                refine ⟨rfl, .inl ⟨fun other same => ?_, by simp [passes]⟩⟩
                cases same
                exact passes
            | false => exact ⟨rfl, .inr ⟨⟨status, rfl, passes⟩, by simp [passes], by simp [passes]⟩⟩

theorem NicBooks.gpp_books (books : NicBooks nics allocator) (check : String → Bool) (request : NicAllocation) :
    NicBooks nics (allocator.gppAllocate inet_pton nics throughputs check request).2 := by
  have allocated := @allocated_books inet_pton nics throughputs allocator books request
  obtain ⟨-, -, same⟩ | ⟨-, ⟨-, same⟩ | ⟨-, -, same⟩⟩ :=
    @gppAllocate_cases inet_pton nics throughputs check request allocator
  · rw [same]
    exact allocated
  · rw [same]
    exact allocated
  · rw [same]
    exact (allocated.deallocate request).1

theorem NicBooks.undone_iff (books : NicBooks nics next) (valid : Valid inet_pton request)
    (named : alloc.identifier = request.identifier)
    (stored : next.allocations = (allocator.store alloc).allocations) :
    (next.deallocate_capacity inet_pton nics request).2.allocations = allocator.allocations ↔
      allocator.find request.identifier = none := by
  have known : next.find request.identifier = some alloc := by
    rw [find_of_store stored, if_pos named.symm]
  obtain ⟨-, ⟨text, -, none⟩ | ⟨-, erased⟩⟩ := @deallocate inet_pton nics next books request
  · rw [none valid] at known
    cases known
  · have without : (next.erase request.identifier).allocations =
        allocator.allocations.filter fun other => other.identifier != request.identifier := by
      change next.allocations.filter _ = _
      rw [stored]
      change (alloc :: allocator.allocations.filter _).filter _ = _
      rw [filter_cons_of_neg (by simp [named]), named, filter_filter]
      congr 1
      funext other
      exact Bool.and_self _
    rw [erased, without, filter_eq_self]
    unfold find
    simp

theorem NicBooks.gpp_iff (books : NicBooks nics allocator)
    (check : String → Bool) (valid : Valid inet_pton request)
    (served : Served inet_pton nics throughputs request allocator) :
    Answers inet_pton nics throughputs request allocator
        (allocator.gppAllocate inet_pton nics throughputs check request) ↔
      ((∃ nic ∈ nics.nics, Meets inet_pton nics throughputs request allocator nic) →
        ∀ stored, allocator.find request.identifier = some stored → check stored.interface = true) := by
  have outcome := @allocate inet_pton nics throughputs allocator books request valid
  obtain ⟨no, gppNo, same⟩ | ⟨yes, cases⟩ :=
    @gppAllocate_cases inet_pton nics throughputs check request allocator
  · refine iff_of_true (answers_of_kept gppNo ?_) fun some => absurd (served.1.mpr ⟨valid, some⟩) no
    rw [same]
    exact served.2.kept no
  · have some := (served.1.mp yes).2
    obtain ⟨books', ⟨nic, placeable, -, stored⟩ | ⟨-, no, -⟩⟩ := outcome
    · have known := find_of_store stored request.identifier
      rw [if_pos rfl] at known
      -- an update stays on its interface
      have stays : ∀ other, allocator.find request.identifier = Option.some other →
          other.interface = nic.interface := by
        intro other found
        have target := placeable.1
        unfold Target at target
        rw [found] at target
        exact target.1.symm
      rcases cases with ⟨passes, same⟩ | ⟨⟨status, found, fails⟩, gppNo, undone⟩
      · rw [same]
        refine iff_of_true served.2 fun _ other found => ?_
        rw [stays other found]
        exact passes _ known
      · rw [known, Option.some.injEq] at found
        subst found
        have named : ({ request with interface := nic.interface } : NicAllocation).identifier =
            request.identifier := rfl
        have iff := books'.undone_iff valid named stored
        rw [← undone] at iff
        constructor
        · intro answers _ other found
          rw [iff.mp (answers.kept gppNo)] at found
          cases found
        · intro checked
          refine answers_of_kept gppNo (iff.mpr ?_)
          by_contra exists'
          obtain ⟨other, found⟩ := Option.ne_none_iff_exists'.mp exists'
          have passes := checked some other found
          rw [stays other found] at passes
          exact absurd (fails.symm.trans passes) Bool.false_ne_true
    · exact absurd yes no

theorem NicBooks.step {allocator : NicAllocator} (books : NicBooks nics allocator)
    (event : NicEvent) : NicBooks nics (event.step inet_pton nics allocator) := by
  cases event with
  | allocate request throughputs => exact books.allocated_books request
  | gppAllocate request throughputs check => exact books.gpp_books check request
  | deallocate request => exact (books.deallocate request).1

theorem NicBooks.faithful_iff (books : NicBooks nics allocator) (event : NicEvent) :
    event.Faithful inet_pton nics allocator ↔ event.Clear inet_pton nics allocator := by
  refine (and_iff_right (books.step event).allocated).trans ?_
  cases event with
  | allocate request throughputs =>
      by_cases valid : Valid inet_pton request
      · exact (books.served_iff valid).trans ⟨fun reaches _ => reaches, fun reaches => reaches valid⟩
      · exact iff_of_true (served_invalid valid allocator) fun valid' => absurd valid' valid
  | gppAllocate request throughputs check =>
      by_cases valid : Valid inet_pton request
      · constructor
        · rintro ⟨served, answers⟩ _
          exact ⟨(books.served_iff valid).mp served, (books.gpp_iff check valid served).mp answers⟩
        · intro clear
          obtain ⟨reaches, checked⟩ := clear valid
          have served := (books.served_iff valid).mpr reaches
          exact ⟨served, (books.gpp_iff check valid served).mpr checked⟩
      · have served := @served_invalid inet_pton nics throughputs request valid allocator
        refine iff_of_true ⟨served, ?_⟩ fun valid' => absurd valid' valid
        obtain ⟨text, answer⟩ := @allocate_invalid inet_pton nics throughputs request valid allocator
        have no : (allocator.allocate_capacity inet_pton nics throughputs request).1 ≠ .ok true := by
          simp [answer]
        obtain ⟨-, gppNo, same⟩ | ⟨yes, -⟩ :=
          @gppAllocate_cases inet_pton nics throughputs check request allocator
        · refine answers_of_kept gppNo ?_
          rw [same, answer]
        · exact absurd yes no
  | deallocate request =>
      refine iff_of_true ?_ trivial
      intro raised failed
      obtain ⟨-, ⟨text, same, -⟩ | ⟨done, -⟩⟩ :=
        @deallocate inet_pton nics allocator books request
      · rw [same]
      · rw [done] at failed
        cases failed

end Answers

/-- In every run the throughputs kept are those of the allocations; every event of the run is answered
as promised just when each meets its condition in the state it meets. -/
theorem nic_allocations_exact_iff (inet_pton : String → Option (BitVec 32)) (nics : AllocatableNics)
    (events : List NicEvent) :
    (∀ device, ((run (NicEvent.step inet_pton nics) {} events).capacities device).allocated_throughput =
      deviceLoad (run (NicEvent.step inet_pton nics) {} events).allocations device) ∧
    (Along (NicEvent.step inet_pton nics) (NicEvent.Faithful inet_pton nics) {} events ↔
      Along (NicEvent.step inet_pton nics) (NicEvent.Clear inet_pton nics) {} events) := by
  constructor
  · have books := invariant_run (NicBooks nics) (fun event _ books _ => books.step event)
      (new nics) (along_true (NicEvent.step inet_pton nics) {} events)
    exact books.allocated
  · exact along_iff (NicBooks nics) (fun event _ books => books.faithful_iff event)
      (fun event _ books _ => books.step event) (new nics)

def unaddressedFirst : AllocatableNics where
  nics := [⟨"eth0", "INVALID", "INVALID", true, 1000⟩, ⟨"eth1", "10.0.0.2", "255.255.255.0", true, 1000⟩]
  distinct := by decide
  named := by decide

def dottedAddresses (address : String) : Option (BitVec 32) :=
  if address = "10.0.0.1" then some 167772161
  else if address = "10.0.0.2" then some 167772162
  else if address = "255.255.255.0" then some 4294967040
  else none

/-- A NIC without an address keeps a request from the NIC behind it. -/
theorem unaddressed_nic_raises :
    ¬Along (NicEvent.step dottedAddresses unaddressedFirst)
      (NicEvent.Faithful dottedAddresses unaddressedFirst) {}
      [.allocate ⟨"a", 0, 1, "", "10.0.0.1", ""⟩ ⟨fun _ => 0, 80⟩] := by
  rintro ⟨⟨-, granted, -⟩, -⟩
  have yes := granted.mpr ⟨by rfl, ⟨"eth1", "10.0.0.2", "255.255.255.0", true, 1000⟩, by
    simp [unaddressedFirst], ⟨.inr ⟨_, _, _, rfl, rfl, rfl, by decide⟩, .inl rfl,
      by decide +kernel⟩, .inl rfl⟩
  have raised : ∃ text, (allocate_capacity dottedAddresses unaddressedFirst
      ⟨fun _ => 0, 80⟩ ⟨"a", 0, 1, "", "10.0.0.1", ""⟩ {}).1 = .error text := ⟨_, rfl⟩
  cases yes

end Redhawk.Gpp
