import Redhawk.Library.Runs

/-!
The process registry of a device manager: the pending and registered lists of device and service
nodes, what launching, registering, unregistering and the exit of a child do to them, and the
processes themselves.

A launch has two steps, the fork and the addition of the node to the pending list, and anything
can happen between them. `address` tells the allocations of nodes apart, `freed` lists the
addresses that were deleted.
-/

namespace Redhawk.Processes

inductive Kind
  | device
  | service
  deriving DecidableEq

/-- Object references: the object of a launched process, told apart by the number of its launch,
or any other object. -/
inductive Reference
  | ofProcess (launch : Nat)
  | other (number : Nat)
  deriving DecidableEq

structure Node where
  address : Nat
  identifier : String
  label : String
  reference : Option Reference
  pid : Nat
  deriving DecidableEq

structure NodeLists where
  pending : List Node
  registered : List Node

structure Process where
  pid : Nat
  launch : Nat
  kind : Kind
  identifier : String
  label : String
  deriving DecidableEq

/-- `launching` has the processes whose node the parent has not added yet, `running` those whose
exit has not been handled. -/
structure DeviceManager where
  devices : NodeLists
  services : NodeLists
  deployedComps : List Nat
  instantiationIdentifier : Nat → String
  registeredWithDomain : Bool
  internalShutdown : Bool
  launching : List Process
  running : List Process
  launches : Nat
  allocated : Nat
  freed : List Nat
  crashed : Bool

inductive Outcome
  | done
  | ignored
  | invalidObjectReference (msg : String)
  | systemException
  | crashed
  deriving DecidableEq

structure RegisteringDevice where
  reference : Reference
  identifier : String
  label : String

/-- What the registering device answers to the calls that set it up, each with the text of what
it raises, and whether its name is bound already. -/
structure DeviceAnswers where
  constructRaises : Option String
  startUpRaises : Option String
  configureRaises : Option String
  nameTaken : Bool

inductive DomainAnswer
  | accepted
  | registerError
  | otherException
  deriving DecidableEq

namespace DeviceManager

variable (self : DeviceManager)

def lists : Kind → NodeLists
  | .device => self.devices
  | .service => self.services

def withLists (kind : Kind) (lists : NodeLists) : DeviceManager :=
  match kind with
  | .device => { self with devices := lists }
  | .service => { self with services := lists }

/-- `setIdentifier` on the profile of a placement, which all its instantiations share, and the
addition to the deployed components. -/
def deploy (placement : Nat) (identifier : String) : DeviceManager :=
  { self with
    deployedComps := self.deployedComps ++ [placement]
    instantiationIdentifier := fun other =>
      if other = placement then identifier else self.instantiationIdentifier other }

def fork (pid : Nat) (kind : Kind) (identifier label : String) : DeviceManager :=
  if pid = 0 ∨ pid ∈ self.running.map Process.pid then self
  else
    let process : Process :=
      { pid := pid, launch := self.launches, kind := kind, identifier := identifier,
        label := label }
    { self with
      launching := self.launching ++ [process]
      running := self.running ++ [process]
      launches := self.launches + 1 }

def addPending (launch : Nat) : DeviceManager :=
  match self.launching.find? fun process => process.launch == launch with
  | none => self
  | some process =>
    let node : Node :=
      { address := self.allocated, identifier := process.identifier, label := process.label,
        reference := none, pid := process.pid }
    let lists := self.lists process.kind
    { self.withLists process.kind { lists with pending := lists.pending ++ [node] } with
      launching := self.launching.filter fun process => process.launch ≠ launch
      allocated := self.allocated + 1 }

/-- `increment_registeredDevices` and `increment_registeredServices`: the first pending node
that the search finds, or else a new node without a process, is filled in and registered. -/
def increment (kind : Kind) (search : Node → Bool) (fill : Node → Node)
    (identifier : String) : DeviceManager :=
  let lists := self.lists kind
  match lists.pending.find? search with
  | some node =>
    self.withLists kind
      { pending := lists.pending.eraseP search, registered := lists.registered ++ [fill node] }
  | none =>
    let node : Node :=
      { address := self.allocated, identifier := identifier, label := "", reference := none,
        pid := 0 }
    { self.withLists kind { lists with registered := lists.registered ++ [fill node] } with
      allocated := self.allocated + 1 }

def incrementRegisteredDevices (device : RegisteringDevice) : DeviceManager :=
  self.increment .device (fun node => node.identifier == device.identifier)
    (fun node => { node with label := device.label, reference := some device.reference })
    device.identifier

def incrementRegisteredServices (service : Reference) (name : String) : DeviceManager :=
  self.increment .service (fun node => node.label == name)
    (fun node => { node with label := name, reference := some service }) name

/-- `decrement_registeredDevices` and `decrement_registeredServices`: the node is pending again
when it has a process. A node without one is dropped and not deleted. -/
def decrement (kind : Kind) (search : Node → Bool) : DeviceManager × Bool :=
  let lists := self.lists kind
  match lists.registered.find? search with
  | none => (self, false)
  | some node =>
    (self.withLists kind
      { pending := if node.pid ≠ 0 then lists.pending ++ [node] else lists.pending
        registered := lists.registered.eraseP search }, true)

def decrementRegisteredDevices (device : Reference) : DeviceManager × Bool :=
  self.decrement .device fun node => node.reference == some device

def decrementRegisteredServices (name : String) : DeviceManager × Bool :=
  self.decrement .service fun node => node.label == name

def deviceIsRegistered (device : Reference) : Bool :=
  self.devices.registered.any fun node => node.reference == some device

def serviceIsRegistered (name : String) : Bool :=
  self.services.registered.any fun node => node.label == name

def findProfile (identifier : String) : Bool :=
  self.deployedComps.any fun placement => self.instantiationIdentifier placement == identifier

def registerDevice (registeringDevice : Option RegisteringDevice)
    (answers : DeviceAnswers) : DeviceManager × Outcome :=
  match registeringDevice with
  | none =>
    (self, .invalidObjectReference
      "[DeviceManager::registerDevice] Cannot register Device. registeringDevice is a nil reference.")
  | some device =>
    if self.internalShutdown then (self, .ignored)
    else if self.deviceIsRegistered device.reference then (self, .ignored)
    else if self.findProfile device.identifier = false then
      -- the profile that was not found is dereferenced
      ({ self with crashed := true }, .crashed)
    else
      match (answers.constructRaises <|> answers.startUpRaises) <|> answers.configureRaises with
      | some msg => (self, .invalidObjectReference msg)
      | none =>
        if answers.nameTaken then (self, .ignored)
        else (self.incrementRegisteredDevices device, .done)

def registerService (registeringService : Option Reference)
    (name : String) (domain : DomainAnswer) : DeviceManager × Outcome :=
  match registeringService with
  | none =>
    (self, .invalidObjectReference "Cannot register service, registeringService is a nil reference.")
  | some service =>
    if self.serviceIsRegistered name then (self, .ignored)
    else if self.registeredWithDomain ∧ domain = .registerError then (self, .ignored)
    else if self.registeredWithDomain ∧ domain = .otherException then (self, .systemException)
    else (self.incrementRegisteredServices service name, .done)

def unregisterDevice (registeredDevice : Option Reference) (answers : Bool) : DeviceManager × Outcome :=
  match registeredDevice with
  | none =>
    (self, .invalidObjectReference "Cannot unregister Device. registeringDevice is a nil reference.")
  | some device =>
    if answers = false then (self, .invalidObjectReference "")
    else
      match self.decrementRegisteredDevices device with
      | (next, true) => (next, .done)
      | (next, false) =>
        (next, .invalidObjectReference "Cannot unregister Device. registeringDevice was not registered.")

def unregisterService (registeredService : Option Reference) (name : String) : DeviceManager × Outcome :=
  match registeredService with
  | none =>
    (self, .invalidObjectReference "Cannot unregister Service. registeringService is a nil reference.")
  | some _ =>
    match self.decrementRegisteredServices name with
    | (next, true) => (next, .done)
    | (next, false) =>
      if self.services.pending.any fun node => node.label == name then (next, .ignored)
      else
        (next, .invalidObjectReference "Cannot unregister Service. registeringService was not registered.")

/-- `getDeviceNode`, and the same search among the services: the node with a process id is taken
off the pending list, or else off the registered list. -/
def takeNode (lists : NodeLists) (pid : Nat) : Option Node × NodeLists :=
  match lists.pending.find? fun node => node.pid == pid with
  | some node =>
    (some node, { lists with pending := lists.pending.eraseP fun node => node.pid == pid })
  | none =>
    match lists.registered.find? fun node => node.pid == pid with
    | some node =>
      (some node, { lists with registered := lists.registered.eraseP fun node => node.pid == pid })
    | none => (none, lists)

def childExited (pid : Nat) : DeviceManager :=
  let (deviceNode, devices) := takeNode self.devices pid
  let (serviceNode, services) := takeNode self.services pid
  let self := { self with devices := devices, services := services }
  match deviceNode, serviceNode with
  | some node, _ => { self with freed := self.freed ++ [node.address] }
  | none, some node => { self with freed := self.freed ++ [node.address] }
  | none, none => self

def allChildrenExited : Bool :=
  if self.services.registered.any fun node => node.pid ≠ 0 then false
  else
    self.devices.pending.length == 0 && self.devices.registered.length == 0 &&
      self.services.pending.length == 0

end DeviceManager

/-- Who calls: the object of a launched process, by the number of its launch, another object with
an identifier or name of its own, or nobody (a nil reference). -/
inductive Caller
  | launched (launch : Nat)
  | other (number : Nat) (name : String)
  | nil

inductive Event
  | deploy (placement : Nat) (identifier : String)
  | fork (pid : Nat) (kind : Kind) (identifier label : String)
  | addPending (launch : Nat)
  | registerDevice (caller : Caller) (label : String) (answers : DeviceAnswers)
  | registerService (caller : Caller) (domain : DomainAnswer)
  | unregisterDevice (device : Option Reference) (answers : Bool)
  | unregisterService (service : Option Reference) (name : String)
  | childExited (pid : Nat)

namespace DeviceManager

def step (event : Event) (self : DeviceManager) : DeviceManager :=
  if self.crashed then self
  else
    match event with
    | .deploy placement identifier => self.deploy placement identifier
    | .fork pid kind identifier label => self.fork pid kind identifier label
    | .addPending launch => self.addPending launch
    | .registerDevice .nil _ answers => (self.registerDevice none answers).1
    | .registerDevice (.other number identifier) label answers =>
      (self.registerDevice (some ⟨.other number, identifier, label⟩) answers).1
    | .registerDevice (.launched launch) label answers =>
      match self.running.find? fun process => process.launch == launch with
      | some process =>
        if process.kind = .device then
          (self.registerDevice (some ⟨.ofProcess launch, process.identifier, label⟩) answers).1
        else self
      | none => self
    | .registerService .nil domain => (self.registerService none "" domain).1
    | .registerService (.other number name) domain =>
      (self.registerService (some (.other number)) name domain).1
    | .registerService (.launched launch) domain =>
      match self.running.find? fun process => process.launch == launch with
      | some process =>
        if process.kind = .service then
          (self.registerService (some (.ofProcess launch)) process.label domain).1
        else self
      | none => self
    | .unregisterDevice device answers => (self.unregisterDevice device answers).1
    | .unregisterService service name => (self.unregisterService service name).1
    | .childExited pid =>
      if pid ∈ self.running.map Process.pid then
        { self with running := self.running.filter fun process => process.pid ≠ pid }.childExited
          pid
      else self

def initial (registeredWithDomain internalShutdown : Bool) : DeviceManager :=
  { devices := ⟨[], []⟩, services := ⟨[], []⟩, deployedComps := []
    instantiationIdentifier := fun _ => ""
    registeredWithDomain := registeredWithDomain, internalShutdown := internalShutdown
    launching := [], running := [], launches := 0, allocated := 0, freed := [], crashed := false }

end DeviceManager

end Redhawk.Processes
