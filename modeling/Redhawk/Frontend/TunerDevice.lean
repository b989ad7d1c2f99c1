import Mathlib.Data.Rat.Floor

/-!
Allocation and deallocation of tuners by a front-end device (`fe_tuner_device.cpp`).

Frequencies and rates are exact rationals. The hooks of the device are given by their answers: what
they return or throw, and what they leave in the status of the tuner they are called on. The
routing hooks and the notification of listeners do not touch what is modelled.
-/

namespace Redhawk.Frontend

def floatingPointCompare (lhs rhs : ℚ) : Int :=
  let scaled := (lhs - rhs) * 10
  if 0 ≤ scaled then ⌊scaled + 1 / 2⌋ else -⌊-scaled + 1 / 2⌋

structure FrontendTunerAllocation where
  tuner_type : String
  allocation_id : String
  center_frequency : ℚ
  bandwidth : ℚ
  bandwidth_tolerance : ℚ
  sample_rate : ℚ
  sample_rate_tolerance : ℚ
  device_control : Bool
  group_id : String
  rf_flow_id : String
deriving DecidableEq

structure FrontendListenerAllocation where
  existing_allocation_id : String
  listener_allocation_id : String
deriving DecidableEq

structure TunerStatus where
  tuner_type : String
  group_id : String
  rf_flow_id : String
  center_frequency : ℚ
  bandwidth : ℚ
  sample_rate : ℚ
  enabled : Bool
  allocation_id_csv : String
deriving DecidableEq

structure TunerAllocationIds where
  control_allocation_id : String := ""
  listener_allocation_ids : List String := []
deriving DecidableEq

inductive UsageType where
  | idle
  | active
  | busy
deriving DecidableEq

/-- What the code or a hook throws, with the texts that reach the caller; `other` is any exception
that none of the handlers names. -/
inductive Raised where
  | logicError
  | badParameter
  | allocationAlreadyExists (message : String)
  | invalidCapacity (message : String)
  | other
deriving DecidableEq

def Raised.isInvalidCapacity : Raised → Bool
  | .allocationAlreadyExists _ | .invalidCapacity _ => true
  | _ => false

/-- An entry of the requested capacities with what its value sets the property to; a value that does
not parse leaves the property at what was set by then. -/
inductive Capacity where
  | tuner (value : FrontendTunerAllocation) (parses : Bool)
  | listener (value : FrontendListenerAllocation) (parses : Bool)
  | scanner (parses : Bool)
  | unknown (id : String)

structure HookAnswer (α : Type) where
  outcome : Except Raised α
  center_frequency : ℚ
  bandwidth : ℚ
  sample_rate : ℚ
  enabled : Bool

def HookAnswer.apply {α : Type} (answer : HookAnswer α) (status : TunerStatus) : TunerStatus :=
  { status with
    center_frequency := answer.center_frequency
    bandwidth := answer.bandwidth
    sample_rate := answer.sample_rate
    enabled := answer.enabled }

structure Entry where
  capacity : Capacity
  deviceDisable : HookAnswer Unit
  deviceDeleteTuning : HookAnswer Bool

structure AllocationAnswers where
  deviceSetTuning : Nat → HookAnswer Bool
  deviceEnable : Nat → HookAnswer Unit

structure Device where
  count : Nat
  frontend_tuner_status : Nat → TunerStatus
  tuner_allocation_ids : Nat → TunerAllocationIds
  allocation_id_to_tuner_id : String → Option Nat
  frontend_tuner_allocation : FrontendTunerAllocation
  frontend_listener_allocation : FrontendListenerAllocation
  usageState : UsageType

def createAllocationIdCsv (ids : TunerAllocationIds) : String :=
  let control :=
    if ids.control_allocation_id.isEmpty then "" else ids.control_allocation_id ++ ","
  let csv := ids.listener_allocation_ids.foldl (fun csv id => csv ++ (id ++ ",")) control
  if csv.isEmpty then csv else String.ofList csv.toList.dropLast

def Device.allocatedCount (device : Device) : Nat :=
  (List.range device.count).countP fun tuner_id =>
    !(device.tuner_allocation_ids tuner_id).control_allocation_id.isEmpty

def Device.updateUsageState (device : Device) : UsageType :=
  if device.allocatedCount = 0 then .idle
  else if device.allocatedCount = device.count then .busy
  else .active

def Device.refreshUsage (device : Device) : Device :=
  { device with usageState := device.updateUsageState }

def Device.setStatus (tuner_id : Nat) (status : TunerStatus) (device : Device) : Device :=
  { device with
    frontend_tuner_status := Function.update device.frontend_tuner_status tuner_id status }

def Device.updateCsv (tuner_id : Nat) (device : Device) : Device :=
  device.setStatus tuner_id { device.frontend_tuner_status tuner_id with
    allocation_id_csv := createAllocationIdCsv (device.tuner_allocation_ids tuner_id) }

def Device.assign (tuner_id : Nat) (ids : TunerAllocationIds) (allocation_id : String)
    (device : Device) : Device :=
  Device.updateCsv tuner_id { device with
    tuner_allocation_ids := Function.update device.tuner_allocation_ids tuner_id ids
    allocation_id_to_tuner_id :=
      match device.allocation_id_to_tuner_id allocation_id with
      | some _ => device.allocation_id_to_tuner_id
      | none => Function.update device.allocation_id_to_tuner_id allocation_id (some tuner_id) }

def Device.getTunerMapping (allocation_id : String) (device : Device) : Option Nat :=
  device.allocation_id_to_tuner_id allocation_id

def Device.removeListenerMapping (tuner_id : Nat) (allocation_id : String) (device : Device) : Device :=
  let ids := device.tuner_allocation_ids tuner_id
  { device with
    tuner_allocation_ids := Function.update device.tuner_allocation_ids tuner_id { ids with
      listener_allocation_ids :=
        ids.listener_allocation_ids.filter fun id => id != allocation_id }
    allocation_id_to_tuner_id :=
      Function.update device.allocation_id_to_tuner_id allocation_id none }

def Device.removeTunerMapping (tuner_id : Nat) (answer : HookAnswer Bool) (device : Device) :
    Device × Except Raised Unit :=
  let device := device.setStatus tuner_id (answer.apply (device.frontend_tuner_status tuner_id))
  match answer.outcome with
  | .error raised => (device, .error raised)
  | .ok _ =>
      ({ device with
          allocation_id_to_tuner_id := fun id =>
            if device.allocation_id_to_tuner_id id = some tuner_id then none
            else device.allocation_id_to_tuner_id id
          tuner_allocation_ids := Function.update device.tuner_allocation_ids tuner_id {} },
        .ok ())

def Device.enableTuner (tuner_id : Nat) (enable : Bool) (answer : HookAnswer Unit)
    (device : Device) : Device × Except Raised Unit :=
  let status := device.frontend_tuner_status tuner_id
  if status.enabled = enable then (device, .ok ())
  else (device.setStatus tuner_id (answer.apply status), answer.outcome)

variable (request : FrontendTunerAllocation)

def listenerRequestValidation (status : TunerStatus) : Bool :=
  if floatingPointCompare request.center_frequency 0 < 0 ∨
      floatingPointCompare request.bandwidth 0 < 0 ∨
      floatingPointCompare request.sample_rate 0 < 0 ∨
      floatingPointCompare request.bandwidth_tolerance 0 < 0 ∨
      floatingPointCompare request.sample_rate_tolerance 0 < 0 then false
  else if floatingPointCompare (request.center_frequency - request.bandwidth / 2)
      (status.center_frequency - status.bandwidth / 2) < 0 then false
  else if 0 < floatingPointCompare (request.center_frequency + request.bandwidth / 2)
      (status.center_frequency + status.bandwidth / 2) then false
  else if 0 < floatingPointCompare request.bandwidth status.bandwidth then false
  else if floatingPointCompare request.bandwidth 0 ≠ 0 ∧
      floatingPointCompare
        (request.bandwidth + request.bandwidth * request.bandwidth_tolerance / 100)
        status.bandwidth < 0 then false
  else if 0 < floatingPointCompare request.sample_rate status.sample_rate then false
  else if floatingPointCompare request.sample_rate 0 ≠ 0 ∧
      floatingPointCompare
        (request.sample_rate + request.sample_rate * request.sample_rate_tolerance / 100)
        status.sample_rate < 0 then false
  else true

def outOfTolerance (requested tolerance returned : ℚ) : Bool :=
  floatingPointCompare requested 0 ≠ 0 ∧
    (floatingPointCompare returned requested < 0 ∨
      0 < floatingPointCompare returned (requested + requested * tolerance / 100))

def Device.deallocateTuner (tuner_id : Nat) (allocation_id : String) (entry : Entry)
    (device : Device) : Device × Except Raised Unit :=
  if (device.tuner_allocation_ids tuner_id).control_allocation_id = allocation_id then
    match device.enableTuner tuner_id false entry.deviceDisable with
    | (device, .error raised) => (device, .error raised)
    | (device, .ok ()) =>
        match device.removeTunerMapping tuner_id entry.deviceDeleteTuning with
        | (device, .error raised) => (device, .error raised)
        | (device, .ok ()) => (device.updateCsv tuner_id, .ok ())
  else ((device.removeListenerMapping tuner_id allocation_id).updateCsv tuner_id, .ok ())

def Device.deallocateOne (entry : Entry) (device : Device) : Device × Except Raised Unit :=
  match entry.capacity with
  | .scanner _ => (device, .ok ())
  | .unknown _ => (device, .error (.invalidCapacity "UNKNOWN ALLOCATION PROPERTY"))
  | .tuner value parses =>
      let device := { device with frontend_tuner_allocation := value }
      if !parses then (device, .error (.invalidCapacity "COULD NOT PARSE CAPACITY"))
      else match device.getTunerMapping value.allocation_id with
        | none => (device, .error (.invalidCapacity "ALLOCATION_ID NOT FOUND"))
        | some tuner_id => device.deallocateTuner tuner_id value.allocation_id entry
  | .listener value parses =>
      let device := { device with frontend_listener_allocation := value }
      if !parses then (device, .error (.invalidCapacity "COULD NOT PARSE CAPACITY"))
      else match device.getTunerMapping value.listener_allocation_id with
        | none => (device, .error (.invalidCapacity "ALLOCATION_ID NOT FOUND"))
        | some tuner_id =>
            if (device.tuner_allocation_ids tuner_id).control_allocation_id =
                value.listener_allocation_id then
              (device, .error (.invalidCapacity "Controlling allocation id cannot be used as a listener id"))
            else ((device.removeListenerMapping tuner_id value.listener_allocation_id).updateCsv tuner_id, .ok ())

/-- `_deallocateCapacity`: an exception that is no `InvalidCapacity` is logged and skipped. -/
def deallocateCapacity : List Entry → Device → Device × Except Raised Unit
  | [], device => (device.refreshUsage, .ok ())
  | entry :: rest, device =>
      match device.deallocateOne entry with
      | (device, .ok ()) => deallocateCapacity rest device
      | (device, .error raised) =>
          if raised.isInvalidCapacity then (device.refreshUsage, .error raised)
          else deallocateCapacity rest device.refreshUsage

def Capacity.isTuner : Capacity → Bool
  | .tuner _ _ => true
  | _ => false

def Capacity.isListener : Capacity → Bool
  | .listener _ _ => true
  | _ => false

def Capacity.isScanner : Capacity → Bool
  | .scanner _ => true
  | _ => false

def Device.setProperty (capacity : Capacity) (device : Device) : Device × Bool :=
  match capacity with
  | .tuner value parses => ({ device with frontend_tuner_allocation := value }, parses)
  | .listener value parses => ({ device with frontend_listener_allocation := value }, parses)
  | .scanner parses => (device, parses)
  | .unknown _ => (device, false)

/-- The loop of `checkValidIds`; `message` is its error for an ID it does not know. -/
def setProperties (message : String) : List Entry → Device → Device × Except Raised Unit
  | [], device => (device, .ok ())
  | entry :: rest, device =>
      match entry.capacity with
      | .unknown _ => (device, .error (.invalidCapacity message))
      | capacity =>
          let (device, parsed) := device.setProperty capacity
          if !parsed then (device, .error (.invalidCapacity "COULD NOT PARSE CAPACITY"))
          else setProperties message rest device

def Device.checkValidIds (scanning : Bool) (entries : List Entry) (device : Device) :
    Device × Except Raised Unit :=
  if scanning then setProperties "UNKNOWN ALLOCATION PROPERTY1" entries device
  else if entries.any fun entry => entry.capacity.isScanner then
    (device, .error (.invalidCapacity
      "FRONTEND::scanner_allocation found in allocation; this is not a scanning device"))
  else setProperties "Invalid allocation property" entries device

def mismatched (status : TunerStatus) : Bool :=
  status.tuner_type ≠ request.tuner_type ∨ (request.group_id ≠ "" ∧ request.group_id ≠ status.group_id) ∨
    (request.rf_flow_id ≠ "" ∧ request.rf_flow_id ≠ status.rf_flow_id ∧ request.tuner_type ≠ "CHANNELIZER")

def preload (status : TunerStatus) : TunerStatus :=
  { status with
    bandwidth := request.bandwidth
    center_frequency := request.center_frequency
    sample_rate := request.sample_rate }

def restore (original status : TunerStatus) : TunerStatus :=
  { status with
    bandwidth :=
      if status.bandwidth = request.bandwidth then original.bandwidth else status.bandwidth
    center_frequency :=
      if status.center_frequency = request.center_frequency then original.center_frequency
      else status.center_frequency
    sample_rate :=
      if status.sample_rate = request.sample_rate then original.sample_rate
      else status.sample_rate }

def Device.finishAllocation (tuner_id : Nat)
    (answers : AllocationAnswers) (device : Device) : Device × Except Raised Bool :=
  let status := device.frontend_tuner_status tuner_id
  if outOfTolerance request.sample_rate request.sample_rate_tolerance status.sample_rate then
    (device, .error .logicError)
  else if outOfTolerance request.bandwidth request.bandwidth_tolerance status.bandwidth then
    (device, .error .logicError)
  else if request.device_control then
    match device.enableTuner tuner_id true (answers.deviceEnable tuner_id) with
    | (device, .error _) => (device, .error .logicError)
    | (device, .ok ()) => (device.refreshUsage, .ok true)
  else (device.refreshUsage, .ok true)

def tryTuners (request : FrontendTunerAllocation) (answers : AllocationAnswers) :
    List Nat → Device → Device × Except Raised Bool
  | [], device => (device, .error .logicError)
  | tuner_id :: rest, device =>
      let status := device.frontend_tuner_status tuner_id
      let ids := device.tuner_allocation_ids tuner_id
      if mismatched request status then tryTuners request answers rest device
      else if request.device_control then
        if ids.control_allocation_id ≠ "" then
          let device := device.setStatus tuner_id (restore request status (preload request status))
          tryTuners request answers rest device
        else
          let answer := answers.deviceSetTuning tuner_id
          let tuned := answer.apply (preload request status)
          match answer.outcome with
          | .error raised => (device.setStatus tuner_id tuned, .error raised)
          | .ok false =>
              tryTuners request answers rest
                (device.setStatus tuner_id (restore request status tuned))
          | .ok true =>
              ((device.setStatus tuner_id tuned).assign tuner_id
                { ids with control_allocation_id := request.allocation_id }
                request.allocation_id).finishAllocation request tuner_id answers
      else if request.tuner_type = "CHANNELIZER" ∨ request.tuner_type = "TX" then
        (device, .error (.invalidCapacity
          (request.tuner_type ++ " allocation with device_control=false is invalid.")))
      else if ids.control_allocation_id = "" ∨ !listenerRequestValidation request status then
        tryTuners request answers rest device
      else
        (device.assign tuner_id { ids with
            listener_allocation_ids := ids.listener_allocation_ids ++ [request.allocation_id] }
          request.allocation_id).finishAllocation request tuner_id answers

def Device.allocateTuner (answers : AllocationAnswers) (device : Device) : Device × Except Raised Bool :=
  let request := device.frontend_tuner_allocation
  if request.allocation_id = "" then (device, .error (.invalidCapacity "MISSING ALLOCATION_ID"))
  else if (device.getTunerMapping request.allocation_id).isSome then
    (device, .error (.allocationAlreadyExists "ALLOCATION_ID ALREADY IN USE"))
  else tryTuners request answers (List.range device.count) device

def Device.allocateListener (device : Device) : Device × Except Raised Bool :=
  let request := device.frontend_listener_allocation
  if request.existing_allocation_id = "" then
    (device, .error (.invalidCapacity "MISSING EXISTING ALLOCATION ID"))
  else if request.listener_allocation_id = "" then
    (device, .error (.invalidCapacity "MISSING LISTENER ALLOCATION ID"))
  else if (device.getTunerMapping request.listener_allocation_id).isSome then
    (device, .error (.allocationAlreadyExists "LISTENER ALLOCATION ID ALREADY IN USE"))
  else match device.getTunerMapping request.existing_allocation_id with
    | none => (device, .error .badParameter)
    | some tuner_id =>
        let status := device.frontend_tuner_status tuner_id
        let ids := device.tuner_allocation_ids tuner_id
        if status.tuner_type = "CHANNELIZER" ∨ status.tuner_type = "TX" then
          (device, .error (.invalidCapacity
            ("allocateCapacity: listener allocations are not permitted for " ++
              status.tuner_type ++ " tuner type")))
        else
          (device.assign tuner_id { ids with
              listener_allocation_ids :=
                ids.listener_allocation_ids ++ [request.listener_allocation_id] }
            request.listener_allocation_id, .ok true)

def allocateFirst (answers : AllocationAnswers) :
    List Entry → Device → Device × Except Raised Bool
  | [], device => (device, .ok true)
  | entry :: rest, device =>
      match entry.capacity with
      | .tuner _ _ => device.allocateTuner answers
      | .listener _ _ => device.allocateListener
      | .scanner _ => allocateFirst answers rest device
      | .unknown _ => (device, .error (.invalidCapacity "UNKNOWN ALLOCATION PROPERTY2"))

def allocateCapacity (scanning : Bool) (entries : List Entry) (answers : AllocationAnswers)
    (device : Device) : Device × Except Raised Bool :=
  match device.checkValidIds scanning entries with
  | (device, .error raised) => (device, .error raised)
  | (device, .ok ()) =>
      let hasListener := entries.any (fun entry => entry.capacity.isListener) ||
        (entries.any (fun entry => entry.capacity.isTuner) && !device.frontend_tuner_allocation.device_control)
      if !hasListener && device.usageState == .busy then (device, .ok false)
      else match allocateFirst answers entries device with
        | (device, .ok allocated) => (device, .ok allocated)
        | (device, .error raised) =>
            match raised with
            | .logicError | .badParameter => ((deallocateCapacity entries device).1, .ok false)
            | .allocationAlreadyExists _ => (device, .error raised)
            | .invalidCapacity _ | .other => ((deallocateCapacity entries device).1, .error raised)

def Device.new (count : Nat) (statuses : Nat → TunerStatus)
    (tuner : FrontendTunerAllocation) (listener : FrontendListenerAllocation) : Device where
  count := count
  frontend_tuner_status := fun tuner_id => { statuses tuner_id with allocation_id_csv := "" }
  tuner_allocation_ids := fun _ => {}
  allocation_id_to_tuner_id := fun _ => none
  frontend_tuner_allocation := tuner
  frontend_listener_allocation := listener
  usageState := .idle

inductive DeviceCall where
  | allocateCapacity (entries : List Entry) (answers : AllocationAnswers)
  | deallocateCapacity (entries : List Entry)

def DeviceCall.step (scanning : Bool) (call : DeviceCall) (device : Device) : Device :=
  match call with
  | .allocateCapacity entries answers =>
      (Frontend.allocateCapacity scanning entries answers device).1
  | .deallocateCapacity entries => (Frontend.deallocateCapacity entries device).1

end Redhawk.Frontend
