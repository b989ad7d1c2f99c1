import Mathlib.Algebra.BigOperators.Group.List.Basic
import Mathlib.Algebra.Order.Ring.Rat
import Mathlib.Tactic.Ring
import Redhawk.Library.Lists
import Redhawk.Library.Runs

/-!
The allocation of network interfaces (`NicAllocator.cpp`) and what the GPP device makes of it
(`allocateCapacity_nic_allocation`).

Floating-point numbers are exact rationals; `inet_pton` is a parameter. The allocations stand in any
order, a capacity that was not looked up yet is the one a lookup would create, and what is measured
comes with each call.
-/

namespace Redhawk.Gpp

open Library

structure NicAllocation where
  identifier : String
  data_rate : ℚ
  data_size : Int
  multicast_support : String
  ip_addressable : String
  interface : String
deriving DecidableEq

structure NicState where
  interface : String
  v4_address : String
  v4_netmask : String
  multicast : Bool
  speed_mbit_per_sec : BitVec 64

def deviceOf (interface : String) : String :=
  String.ofList (interface.toList.takeWhile fun c => c ≠ '.')

def NicState.device (nic : NicState) : String := deviceOf nic.interface

structure AllocatableNics where
  nics : List NicState
  distinct : (nics.map NicState.interface).Nodup
  named : ∀ nic ∈ nics, nic.interface ≠ ""

structure DeviceThroughputCapacity where
  device : String := ""
  maximum_throughput : ℚ := 0
  allocated_throughput : ℚ := 0

structure NicAllocator where
  allocations : List NicAllocation := []
  capacities : String → DeviceThroughputCapacity := fun _ => {}

structure Throughputs where
  current : String → ℚ
  max_throughput_percent : ℚ

def MBITS_TO_BITS : BitVec 64 := 1000000

def NicState.maximum_throughput (nic : NicState) : ℚ :=
  ((nic.speed_mbit_per_sec * MBITS_TO_BITS).toNat : ℚ)

def iequals (first second : String) : Bool :=
  first.toList.map Char.toLower == second.toList.map Char.toLower

def NicAllocation.get_throughput (alloc : NicAllocation) : ℚ := alloc.data_rate * alloc.data_size

section Model

variable (inet_pton : String → Option (BitVec 32))

def GetV4AddressValue (address : String) : Except String (BitVec 32) :=
  match inet_pton address with
  | some value => .ok value
  | none => .error ("Address not in valid IPv4 presentation format (address=" ++ address ++ ")")

def IsAddressableV4 (addr1 addr2 netmask : String) : Except String Bool := do
  let v4_address1 ← GetV4AddressValue inet_pton addr1
  let v4_address2 ← GetV4AddressValue inet_pton addr2
  let v4_netmask ← GetV4AddressValue inet_pton netmask
  return v4_address1 &&& v4_netmask == v4_address2 &&& v4_netmask

def validate_allocation (alloc : NicAllocation) : Except String Unit :=
  if alloc.identifier = "" then .error "Invalid allocation (identifier=\"\")"
  else do
    if alloc.ip_addressable ≠ "" then
      let _ ← GetV4AddressValue inet_pton alloc.ip_addressable
    if alloc.multicast_support ≠ "" ∧ ¬iequals alloc.multicast_support "true" ∧
        ¬iequals alloc.multicast_support "false" then
      .error ("Invalid allocation (multicast_support=\"" ++ alloc.multicast_support ++ "\")")
    else .ok ()

def allocatable_by_is_addressable (alloc : NicAllocation) (nic : NicState) : Except String Bool :=
  if alloc.ip_addressable = "" then .ok true
  else IsAddressableV4 inet_pton alloc.ip_addressable nic.v4_address nic.v4_netmask

def allocatable_by_multicast_support (alloc : NicAllocation) (nic : NicState) : Bool :=
  if alloc.multicast_support = "" then true
  else iequals alloc.multicast_support "true" == nic.multicast

def allocatable_by_interface (alloc : NicAllocation) (nic : NicState) : Bool :=
  if alloc.interface = "" then true else alloc.interface == nic.interface

def allocatable_by_data_rate (delta : ℚ) (capacity : DeviceThroughputCapacity) (current percent : ℚ) : Bool :=
  max current (capacity.allocated_throughput + delta) ≤ capacity.maximum_throughput * percent / 100

namespace NicAllocator

def find (identifier : String) (allocator : NicAllocator) : Option NicAllocation :=
  allocator.allocations.find? fun alloc => alloc.identifier == identifier

def store (alloc : NicAllocation) (allocator : NicAllocator) : NicAllocator :=
  { allocator with
    allocations := alloc :: allocator.allocations.filter fun other =>
      other.identifier != alloc.identifier }

def erase (identifier : String) (allocator : NicAllocator) : NicAllocator :=
  { allocator with
    allocations := allocator.allocations.filter fun other => other.identifier != identifier }

def lookup_nic_throughput_capacity (nic : NicState) (allocator : NicAllocator) : NicAllocator :=
  if (allocator.capacities nic.device).device = "" then
    { allocator with
      capacities := Function.update allocator.capacities nic.device
        { allocator.capacities nic.device with
          device := nic.device
          maximum_throughput := nic.maximum_throughput } }
  else allocator

def addThroughput (device : String) (delta : ℚ) (allocator : NicAllocator) : NicAllocator :=
  { allocator with
    capacities := Function.update allocator.capacities device
      { allocator.capacities device with
        allocated_throughput := (allocator.capacities device).allocated_throughput + delta } }

def MergeAllocationStructs (merged : Option NicAllocation) (updated : NicAllocation) : NicAllocation :=
  match merged with
  | none => updated
  | some merged =>
    { updated with
      interface := if merged.interface = "" then updated.interface else merged.interface }

def search (alloc : NicAllocation) (delta : ℚ) (throughputs : Throughputs) :
    List NicState → NicAllocator → Except String (Option NicState) × NicAllocator
  | [], allocator => (.ok none, allocator)
  | nic :: rest, allocator =>
    let allocator := allocator.lookup_nic_throughput_capacity nic
    match allocatable_by_is_addressable inet_pton alloc nic with
    | .error raised => (.error raised, allocator)
    | .ok addressable =>
      if addressable && allocatable_by_multicast_support alloc nic &&
          allocatable_by_interface alloc nic &&
          allocatable_by_data_rate delta (allocator.capacities nic.device)
            (throughputs.current nic.device) throughputs.max_throughput_percent then
        (.ok (some nic), allocator)
      else search alloc delta throughputs rest allocator

def allocate_capacity (nics : AllocatableNics) (throughputs : Throughputs)
    (input_alloc : NicAllocation) (allocator : NicAllocator) : Except String Bool × NicAllocator :=
  match validate_allocation inet_pton input_alloc with
  | .error raised => (.error raised, allocator)
  | .ok () =>
    let stored := allocator.find input_alloc.identifier
    let delta := input_alloc.get_throughput -
      match stored with
      | none => 0
      | some alloc => alloc.get_throughput
    let alloc := MergeAllocationStructs stored input_alloc
    match search inet_pton alloc delta throughputs nics.nics allocator with
    | (.error raised, allocator) => (.error raised, allocator)
    | (.ok none, allocator) => (.ok false, allocator)
    | (.ok (some nic), allocator) =>
      (.ok true,
        (allocator.store { alloc with interface := nic.interface }).addThroughput nic.device delta)

def deallocate_capacity (nics : AllocatableNics) (alloc : NicAllocation)
    (allocator : NicAllocator) : Except String Unit × NicAllocator :=
  match validate_allocation inet_pton alloc with
  | .error raised => (.error raised, allocator)
  | .ok () =>
    match allocator.find alloc.identifier with
    | none =>
      (.error ("Unknown allocation (identifier=\"" ++ alloc.identifier ++ "\")"), allocator)
    | some stored =>
      let allocator :=
        match nics.nics.find? fun nic => nic.interface == stored.interface with
        | none => allocator
        | some nic =>
          (allocator.lookup_nic_throughput_capacity nic).addThroughput nic.device
            (-stored.get_throughput)
      (.ok (), allocator.erase alloc.identifier)

/-- `GPP_i::allocateCapacity_nic_allocation`. The answer of `_check_exec_partition` is for the
interface in the status of the allocation, which is that of the stored one. -/
def gppAllocate (nics : AllocatableNics) (throughputs : Throughputs)
    (check_exec_partition : String → Bool) (alloc : NicAllocation) (allocator : NicAllocator) :
    Except String Bool × NicAllocator :=
  match allocator.allocate_capacity inet_pton nics throughputs alloc with
  | (.error _, allocator) => (.error "Invalid allocation", allocator)
  | (.ok false, allocator) => (.ok false, allocator)
  | (.ok true, allocator) =>
    match allocator.find alloc.identifier with
    | none => (.ok true, allocator)
    | some status =>
      if check_exec_partition status.interface then (.ok true, allocator)
      else
        (.error ("Not enough processor capacity on socket that services NIC:" ++ status.interface),
          (allocator.deallocate_capacity inet_pton nics alloc).2)

end NicAllocator

inductive NicEvent where
  | allocate (alloc : NicAllocation) (throughputs : Throughputs)
  | gppAllocate (alloc : NicAllocation) (throughputs : Throughputs) (check_exec_partition : String → Bool)
  | deallocate (alloc : NicAllocation)

def NicEvent.step (nics : AllocatableNics) (event : NicEvent) (allocator : NicAllocator) : NicAllocator :=
  match event with
  | .allocate alloc throughputs => (allocator.allocate_capacity inet_pton nics throughputs alloc).2
  | .gppAllocate alloc throughputs check =>
      (allocator.gppAllocate inet_pton nics throughputs check alloc).2
  | .deallocate alloc => (allocator.deallocate_capacity inet_pton nics alloc).2

end Model

end Redhawk.Gpp
