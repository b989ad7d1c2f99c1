import Mathlib.Data.List.Basic

/-!
One allocation request of the domain's allocation manager against the devices of the domain: which
devices are tried, in which order, and what capacity they are left holding. Each device answers as
it likes; what it answers to each call is an input.
-/

namespace Redhawk.Allocation

abbrev DeviceRef := Nat

abbrev DataType := String × String

abbrev Properties := List DataType

/-- A device of the domain. `prf` gives the allocation properties of its profile, with true for
those whose action is `external`. -/
structure DeviceNode where
  identifier : String
  device : DeviceRef
  deviceManager : Nat
  prf : List (String × Bool)
  requiresProps : Properties
  deriving DecidableEq, Repr

inductive CapacityAnswer where
  | granted
  | refused
  | raised
  deriving DecidableEq, Repr

/-- What one device answers while one request is served. A result is `none` where the call raises
an exception; `allocateCapacity` and `deallocateCapacity` are indexed by the number of calls of
`allocateCapacity` that succeeded before, resp. by the one of them that is undone. -/
structure DeviceAnswers where
  objectExists : Bool
  busy : Option Bool
  matchesProperty : DataType → Option Bool
  convert : DataType → Option DataType
  allocateCapacity : Nat → CapacityAnswer
  deallocateCapacity : Nat → Bool

inductive Call where
  | allocated (device : DeviceRef) (properties : Properties)
  | deallocated (device : DeviceRef) (properties : Properties)
  deriving DecidableEq, Repr

structure Request where
  requestID : String
  allocationProperties : Properties
  requestedDevices : List (Option DeviceRef)
  sourceID : String
  deriving DecidableEq, Repr

/-- What the devices answer while one request is served: a requested device its identifier, unless
that call raises. -/
structure Answers where
  identifier : DeviceRef → Option String
  device : DeviceRef → DeviceAnswers

def hasListenerAllocation (requestedProperties : Properties) : Bool :=
  requestedProperties.any fun p => p.1 == "FRONTEND::listener_allocation"

def partitionLoop : List String → Properties → Properties → List Properties
  | _, current, [] => if current = [] then [] else [current]
  | identifiers, current, p :: rest =>
    if p.1 ∈ identifiers then current :: partitionLoop [p.1] [p] rest
    else partitionLoop (p.1 :: identifiers) (current ++ [p]) rest

def partitionProperties (properties : Properties) : List Properties :=
  partitionLoop [] [] properties

def undo (device : DeviceRef) (answers : DeviceAnswers) : List Properties → List Call
  | [] => []
  | granted :: earlier =>
    (if answers.deallocateCapacity earlier.length then [.deallocated device granted] else []) ++
      undo device answers earlier

def completeLoop (device : DeviceRef) (answers : DeviceAnswers) :
    List Properties → List Properties → Bool × List Call
  | _, [] => (true, [])
  | done, properties :: rest =>
    match answers.allocateCapacity done.length with
    | .granted =>
      let next := completeLoop device answers (properties :: done) rest
      (next.1, .allocated device properties :: next.2)
    | .refused => (false, undo device answers done)
    | .raised => (false, undo device answers done)

def completeAllocations (device : DeviceRef) (answers : DeviceAnswers)
    (allocations : List Properties) : Bool × List Call :=
  completeLoop device answers [] allocations

/-- The dependencies against the profile of the device: whether they match, and the external ones,
which need capacity. An allocation request names no processor and no operating system. -/
def checkDeviceMatching (node : DeviceNode) (answers : DeviceAnswers) :
    Properties → Properties → Option (Bool × Properties)
  | externalProperties, [] => some (true, externalProperties)
  | externalProperties, dependency :: rest =>
    match node.prf.lookup dependency.1 with
    | none => some (false, externalProperties)
    | some true =>
      match answers.convert dependency with
      | none => none
      | some converted => checkDeviceMatching node answers (externalProperties ++ [converted]) rest
    | some false =>
      match answers.matchesProperty dependency with
      | none => none
      | some false => some (false, externalProperties)
      | some true => checkDeviceMatching node answers externalProperties rest

def checkPartitionMatching (node : DeviceNode) : Bool :=
  node.requiresProps.isEmpty

inductive Tried where
  | raised
  | failed
  | succeeded (allocatedProperties : Properties)
  deriving DecidableEq, Repr

def allocateDevice (requestedProperties : Properties) (node : DeviceNode)
    (answers : DeviceAnswers) : Tried × List Call :=
  if !answers.objectExists then (.failed, [])
  else
    match answers.busy with
    | none => (.failed, [])
    | some busy =>
      if busy && !hasListenerAllocation requestedProperties then (.failed, [])
      else
        match checkDeviceMatching node answers [] requestedProperties with
        | none => (.raised, [])
        | some (false, _) => (.failed, [])
        | some (true, allocProps) =>
          if !checkPartitionMatching node then (.failed, [])
          else if allocProps = [] then (.succeeded [], [])
          else
            let completed :=
              completeAllocations node.device answers (partitionProperties allocProps)
            (if completed.1 then .succeeded allocProps else .failed, completed.2)

def allocateRequest (requestedProperties : Properties) (answers : DeviceRef → DeviceAnswers) :
    List DeviceNode → Option (Option (DeviceNode × Properties)) × List Call
  | [] => (some none, [])
  | node :: rest =>
    let tried := allocateDevice requestedProperties node (answers node.device)
    match tried.1 with
    | .raised => (none, tried.2)
    | .succeeded allocated => (some (some (node, allocated)), tried.2)
    | .failed =>
      let next := allocateRequest requestedProperties answers rest
      (next.1, tried.2 ++ next.2)

/-- The loop that erases the unwanted devices: `passed` lies before the iterator, and the iterator
points at the head of the list, or at its end. Erasing moves the iterator to the next device, behind
which the loop goes on; `none` is the step past the end of the list. -/
def filterLoop (requested : List String) :
    List DeviceNode → List DeviceNode → Option (List DeviceNode)
  | passed, [] => some passed
  | passed, node :: rest =>
    if node.identifier ∈ requested then filterLoop requested (passed ++ [node]) rest
    else
      match rest with
      | [] => none
      | next :: rest => filterLoop requested (passed ++ [next]) rest

def devicesTried (requestedDeviceIDs : List String) (devices : List DeviceNode) :
    Option (List DeviceNode) :=
  if requestedDeviceIDs.isEmpty then some devices else filterLoop requestedDeviceIDs [] devices

end Redhawk.Allocation
