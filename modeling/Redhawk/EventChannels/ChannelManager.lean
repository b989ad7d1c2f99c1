import Redhawk.Library.Runs

/-!
The event channel manager of a domain: the records of the channels with their registrants, and
the proxies of publishers and subscribers, which are kept by registration id alone.

What the event service, the naming service and the clients answer are inputs of the calls.
-/

namespace Redhawk.EventChannels

structure ChannelRegistration where
  channelName : String
  fqn : String
  autoRelease : Bool
  release : Bool
  registrants : List String

structure Proxy where
  number : Nat
  channelName : String
  deriving DecidableEq

abbrev ProxyMap := List (String × Proxy)

/-- `obtained` counts the proxies, `established` logs those whose registration was made,
`disconnected` has those that were told to disconnect. `undefined` is set once freed memory was
read. -/
structure EventChannelManager where
  domainContext : String
  channels : List ChannelRegistration
  subProxies : ProxyMap
  pubProxies : ProxyMap
  obtained : Nat
  established : ProxyMap
  disconnected : List Nat
  undefined : Bool

inductive ManagerError
  | channelAlreadyExists
  | channelDoesNotExist
  | invalidChannelName
  | operationFailed
  | operationNotAllowed
  | registrationAlreadyExists
  | registrationDoesNotExist
  | registrationsExists
  | serviceUnavailable
  | systemException
  deriving DecidableEq

inductive Outcome
  | done
  | raised (error : ManagerError)
  | undefined
  deriving DecidableEq

def isQualified (cname : String) : Bool :=
  cname.toList.contains '.'

def isspace (letter : Char) : Bool :=
  letter = ' ' || (9 ≤ letter.toNat && letter.toNat ≤ 13)

def validateChannelName (cname : String) : Bool :=
  let tmp := cname.toList.filter fun letter => !isspace letter
  tmp ≠ [] && tmp ≠ "''".toList && tmp ≠ "\"\"".toList && !tmp.contains '.' && !tmp.contains ':'

abbrev Uuid := { text : String // text ≠ "" }

namespace EventChannelManager

variable (self : EventChannelManager)

def getFQN (cname : String) : String :=
  self.domainContext ++ "." ++ cname

def channelExists (cname : String) : Bool :=
  (isQualified cname && self.channels.any fun record => record.fqn == cname) ||
    self.channels.any fun record => record.channelName == cname

def getChannelRegistration (cname : String) : Option ChannelRegistration :=
  (if isQualified cname then self.channels.find? fun record => record.fqn == cname else none) <|>
    self.channels.find? fun record => record.channelName == cname

def addChannelRegistration (cname fqn : String) (autoRelease : Bool) : EventChannelManager :=
  if self.channels.any fun record => record.channelName == cname then self
  else
    { self with channels := self.channels ++
        [{ channelName := cname, fqn := fqn, autoRelease := autoRelease, release := false,
           registrants := [] }] }

def deleteChannelRegistration (cname : String) : EventChannelManager :=
  { self with channels := self.channels.filter fun record => record.channelName ≠ cname }

def modify (record : ChannelRegistration)
    (change : ChannelRegistration → ChannelRegistration) : EventChannelManager :=
  { self with channels := self.channels.map fun other =>
      if other.channelName = record.channelName then change other else other }

variable (available : Bool)

def createChannel (service : Option ManagerError) (channelName : String) (autoRelease : Bool) :
    EventChannelManager × Outcome :=
  if available = false then (self, .raised .serviceUnavailable)
  else if validateChannelName channelName = false then (self, .raised .invalidChannelName)
  else if self.channelExists channelName then (self, .raised .channelAlreadyExists)
  else
    match service with
    | some error => (self, .raised error)
    | none =>
      (self.addChannelRegistration channelName (self.getFQN channelName) autoRelease, .done)

def create (service : Option ManagerError)
    (channelName : String) (autoRelease : Bool) : EventChannelManager × Outcome :=
  match self.createChannel available service channelName autoRelease with
  | (next, .raised .invalidChannelName) => (next, .raised .operationFailed)
  | result => result

def markForRegistrations (channelName : String) : EventChannelManager × Outcome :=
  if available = false then (self, .raised .serviceUnavailable)
  else
    match self.getChannelRegistration channelName with
    | none => (self, .raised .channelDoesNotExist)
    | some record =>
      (self.modify record fun record => { record with autoRelease := true }, .done)

def regIdExists (cname regId : String) : Bool :=
  regId ≠ "" &&
    match self.getChannelRegistration cname with
    | some record => record.registrants.contains regId
    | none => false

/-- An empty registration id stands for a generated one: `generated` is the first that is not used
on the channel. -/
def effectiveId (regId : String) (generated : Uuid) : String :=
  if regId = "" then generated else regId

def registerResource
    (service : Option ManagerError) (channelName regId : String) : EventChannelManager × Outcome :=
  if available = false then (self, .raised .serviceUnavailable)
  else if self.regIdExists channelName regId then (self, .raised .registrationAlreadyExists)
  else if validateChannelName channelName = false then (self, .raised .invalidChannelName)
  else
    let insert (record : ChannelRegistration) : ChannelRegistration :=
      { record with registrants := record.registrants ++ [regId] }
    match self.getChannelRegistration channelName with
    | some record =>
      if record.release then (self, .raised .operationNotAllowed)
      else (self.modify record insert, .done)
    | none =>
      match self.createChannel available service channelName false with
      | (next, .done) =>
        match next.getChannelRegistration channelName with
        | none => (next, .raised .operationFailed)
        | some record => (next.modify record insert, .done)
      | (next, .raised .channelAlreadyExists) => (next, .raised .operationFailed)
      | result => result

/-- What the event service answers when a proxy is obtained: whether a channel of that name is
bound in the naming service, whether there is an administration, and whether the proxy can be
connected to the client. -/
structure ProxyAnswers where
  resolved : Bool
  admin : Bool
  connects : Bool

def getOrCreate (service : Option ManagerError)
    (resolved : Bool) (channelName : String) : EventChannelManager × Outcome :=
  if validateChannelName channelName = false then (self, .raised .invalidChannelName)
  else if self.channelExists channelName then (self, .done)
  else if resolved then (self, .done)
  else
    match self.createChannel available service channelName false with
    | (next, .done) => (next, .done)
    | (next, _) => (next, .raised .operationFailed)

def insertProxy (proxies : ProxyMap) (regId : String) (proxy : Proxy) : ProxyMap :=
  proxies.filter (fun entry => entry.1 ≠ regId) ++ [(regId, proxy)]

def registerConsumer (service : Option ManagerError) (answers : ProxyAnswers) (channelName regId : String) :
    EventChannelManager × Outcome :=
  match self.getOrCreate available service answers.resolved channelName with
  | (next, .done) =>
    if answers.admin = false then (next, .raised .operationFailed)
    else
      let proxy : Proxy := { number := next.obtained, channelName := channelName }
      let next := { next with obtained := next.obtained + 1 }
      if answers.connects = false then (next, .raised .operationFailed)
      else
        match next.registerResource available service channelName regId with
        | (next, .done) =>
          ({ next with
              subProxies := insertProxy next.subProxies regId proxy
              established := next.established ++ [(regId, proxy)] }, .done)
        | (next, outcome) =>
          ({ next with disconnected := next.disconnected ++ [proxy.number] }, outcome)
  | result => result

def registerPublisher (service : Option ManagerError) (answers : ProxyAnswers) (channelName regId : String) :
    EventChannelManager × Outcome :=
  match self.getOrCreate available service answers.resolved channelName with
  | (next, .done) =>
    if answers.admin = false then (next, .raised .operationFailed)
    else
      let proxy : Proxy := { number := next.obtained, channelName := channelName }
      let next := { next with obtained := next.obtained + 1 }
      match next.registerResource available service channelName regId with
      | (next, .done) =>
        if answers.connects = false then (next, .raised .systemException)
        else
          ({ next with
              pubProxies := insertProxy next.pubProxies regId proxy
              established := next.established ++ [(regId, proxy)] }, .done)
      | result => result
  | result => result

def dropProxies (regId : String) : EventChannelManager :=
  let found := (self.subProxies ++ self.pubProxies).filter fun entry => entry.1 = regId
  { self with
    subProxies := self.subProxies.filter fun entry => entry.1 ≠ regId
    pubProxies := self.pubProxies.filter fun entry => entry.1 ≠ regId
    disconnected := self.disconnected ++ found.map fun entry => entry.2.number }

def unregisterId (cname regId : String) : EventChannelManager × Outcome :=
  let self := self.dropProxies regId
  if regId = "" then (self, .raised .registrationDoesNotExist)
  else
    match self.getChannelRegistration cname with
    | none => (self, .raised .channelDoesNotExist)
    | some record =>
      if record.registrants.contains regId = false then
        (self, .raised .registrationDoesNotExist)
      else
        let left := record.registrants.filter fun other => other ≠ regId
        let self := self.modify record fun record =>
          { record with registrants := record.registrants.filter fun other => other ≠ regId }
        if left = [] ∧ record.autoRelease then (self.deleteChannelRegistration cname, .done)
        else (self, .done)

def unregister (cname regId : String) : EventChannelManager × Outcome :=
  if available = false then (self, .raised .serviceUnavailable)
  else self.unregisterId cname regId

def releaseChannel (cname : String) : EventChannelManager × Outcome :=
  if available = false then (self, .raised .serviceUnavailable)
  else
    match self.getChannelRegistration cname with
    | none => (self, .raised .channelDoesNotExist)
    | some record =>
      if record.registrants.length > 0 then
        (self.modify record fun record => { record with autoRelease := true, release := true },
          .raised .registrationsExists)
      else (self.deleteChannelRegistration cname, .done)

/-- The loop of `forceRelease` over the registrants of a record. Its condition reads the record
again, which is gone when the last unregistration has deleted it. -/
def unregisterAll (cname recordName : String) :
    List String → EventChannelManager → EventChannelManager × Outcome
  | [], self => (self, .done)
  | regId :: rest, self =>
    match self.unregisterId cname regId with
    | (next, .done) =>
      if next.channels.any fun record => record.channelName == recordName then
        unregisterAll cname recordName rest next
      else ({ next with undefined := true }, .undefined)
    | result => result

def forceRelease (cname : String) : EventChannelManager × Outcome :=
  if available = false then (self, .raised .serviceUnavailable)
  else
    match self.getChannelRegistration cname with
    | none => (self, .raised .channelDoesNotExist)
    | some record =>
      match unregisterAll cname record.channelName record.registrants self with
      | (next, .done) => next.releaseChannel available cname
      | result => result

end EventChannelManager

/-- The calls of the manager. `available` says whether the channel factory can be reached. -/
inductive Call
  | create (channelName : String) (service : Option ManagerError)
  | createForRegistrations (channelName : String) (service : Option ManagerError)
  | markForRegistrations (channelName : String)
  | registerResource (channelName regId : String) (generated : Uuid) (service : Option ManagerError)
  | registerConsumer (channelName regId : String) (generated : Uuid)
      (service : Option ManagerError)
      (answers : EventChannelManager.ProxyAnswers)
  | registerPublisher (channelName regId : String) (generated : Uuid)
      (service : Option ManagerError)
      (answers : EventChannelManager.ProxyAnswers)
  | unregister (channelName regId : String)
  | release (channelName : String)
  | forceRelease (channelName : String)

structure Event where
  call : Call
  available : Bool

namespace EventChannelManager

def perform (event : Event) (self : EventChannelManager) : EventChannelManager × Outcome :=
  match event.call with
  | .create channelName service => self.create event.available service channelName false
  | .createForRegistrations channelName service =>
    self.create event.available service channelName true
  | .markForRegistrations channelName => self.markForRegistrations event.available channelName
  | .registerResource channelName regId generated service =>
    self.registerResource event.available service channelName (effectiveId regId generated)
  | .registerConsumer channelName regId generated service answers =>
    self.registerConsumer event.available service answers channelName
      (effectiveId regId generated)
  | .registerPublisher channelName regId generated service answers =>
    self.registerPublisher event.available service answers channelName
      (effectiveId regId generated)
  | .unregister channelName regId => self.unregister event.available channelName regId
  | .release channelName => self.releaseChannel event.available channelName
  | .forceRelease channelName => self.forceRelease event.available channelName

def step (event : Event) (self : EventChannelManager) : EventChannelManager :=
  if self.undefined then self else (self.perform event).1

def initial (domainContext : String) : EventChannelManager :=
  { domainContext := domainContext, channels := [], subProxies := [], pubProxies := []
    obtained := 0, established := [], disconnected := [], undefined := false }

end EventChannelManager

end Redhawk.EventChannels
