import Redhawk.EventChannels.ChannelUnregistrations

/-!
The event channel manager with what is outside of its table: the channel object of each record,
the bindings of the naming service, and the objects that the event service has alive.
-/

namespace Redhawk.EventChannels

open Function

/-- `bound` is by the path of the naming context, the root is `""`. -/
structure NamingService where
  initRef : String → Option Nat
  bound : String → String → Option Nat

inductive Lookup
  | initRef
  | domainQualified
  | domainPlain
  | rootQualified
  deriving DecidableEq

/-- What becomes of a lookup: the name is no name, the naming service raises, the object that was
found is no event channel, or it is one. -/
inductive LookupAnswer
  | invalidName
  | failed
  | foreign
  | channel
  deriving DecidableEq

structure ChannelDomain where
  manager : EventChannelManager
  channel : String → Option Nat
  naming : NamingService
  objects : List Nat
  created : Nat
  enableNsResolution : Bool

/-- What the services do while a channel is released: whether the channel factory can be reached,
the naming service unbinds, and the event service destroys. -/
structure Services where
  available : Bool
  unbinds : Bool
  destroys : Bool

/-- `factory` is what `_createChannel` raises, `binds` whether the new object gets bound. -/
structure CreateAnswers where
  available : Bool
  lookups : Lookup → LookupAnswer
  factory : Option ManagerError
  binds : Bool

namespace NamingService

def bind (self : NamingService) (context name : String) (object : Nat) : NamingService :=
  { self with
    bound := update self.bound context
      (update (self.bound context) name (some object)) }

def unbind (self : NamingService) (context name : String) : NamingService :=
  { self with
    bound := update self.bound context (update (self.bound context) name none) }

theorem unbind_eq_self_iff {self : NamingService} {context name : String} :
    self.unbind context name = self ↔ self.bound context name = none := by
  constructor
  · intro same
    have own : (self.unbind context name).bound context name = none := by
      simp [unbind]
    rw [same] at own
    exact own
  · intro unbound
    have inner : update (self.bound context) name none = self.bound context := by
      rw [← unbound, update_eq_self]
    rw [unbind, inner, update_eq_self]

end NamingService

namespace ChannelDomain

variable (self : ChannelDomain)

def lookUp (cname : String) : Lookup → Option Nat
  | .initRef => self.naming.initRef (self.manager.getFQN cname)
  | .domainQualified => self.naming.bound self.manager.domainContext (self.manager.getFQN cname)
  | .domainPlain => self.naming.bound self.manager.domainContext cname
  | .rootQualified => self.naming.bound "" (self.manager.getFQN cname)

def resolveNs (self : ChannelDomain) (lookups : Lookup → LookupAnswer) (cname : String) :
    List Lookup → Except ManagerError (Option Nat)
  | [] => .ok none
  | lookup :: rest =>
    match lookups lookup, self.lookUp cname lookup with
    | .invalidName, _ =>
      if lookup = .initRef then self.resolveNs lookups cname rest
      else .error .invalidChannelName
    | .foreign, some _ => .ok none
    | .channel, some object => .ok (some object)
    | _, _ => self.resolveNs lookups cname rest

def lookupOrder : List Lookup := [.initRef, .domainQualified, .domainPlain, .rootQualified]

def addChannelRegistration (cname fqn : String) (object : Nat) (autoRelease : Bool) : ChannelDomain :=
  { self with
    manager := self.manager.addChannelRegistration cname fqn autoRelease
    channel := update self.channel cname (some object) }

def createObject (binds : Bool) (cname : String) : ChannelDomain :=
  { self with
    naming :=
      if binds then self.naming.bind self.manager.domainContext cname self.created
      else self.naming
    objects := self.objects ++ [self.created]
    created := self.created + 1 }

def resolved (answers : CreateAnswers) (channelName : String) : Except ManagerError (Option Nat) :=
  if self.enableNsResolution then self.resolveNs answers.lookups channelName lookupOrder
  else .ok none

def create (answers : CreateAnswers) (channelName : String)
    (autoRelease : Bool) : ChannelDomain × Outcome :=
  if answers.available = false then (self, .raised .serviceUnavailable)
  else if validateChannelName channelName = false then (self, .raised .invalidChannelName)
  else if self.manager.channelExists channelName then (self, .raised .channelAlreadyExists)
  else
    let fqn := self.manager.getFQN channelName
    match self.resolved answers channelName with
    | .error error => (self, .raised error)
    | .ok (some object) => (self.addChannelRegistration channelName fqn object autoRelease, .done)
    | .ok none =>
      match answers.factory with
      | some error => (self, .raised error)
      | none =>
        ((self.createObject answers.binds channelName).addChannelRegistration channelName fqn
          self.created autoRelease, .done)

variable (services : Services)

def destroyed (cname : String) : List Nat :=
  if services.destroys then self.objects.filter fun object => self.channel cname ≠ some object
  else self.objects

def deleteChannelRegistration (cname : String) : ChannelDomain :=
  if self.manager.channels.any fun record => record.channelName == cname then
    { self with
      manager := self.manager.deleteChannelRegistration cname
      channel := update self.channel cname none
      objects := self.destroyed services cname }
  else self

def unbind (cname : String) : ChannelDomain :=
  { self with
    naming :=
      if services.unbinds then self.naming.unbind self.manager.domainContext cname
      else self.naming }

def markReleased (record : ChannelRegistration) : ChannelRegistration :=
  { record with autoRelease := true, release := true }

def release (cname : String) : ChannelDomain × Outcome :=
  if services.available = false then (self, .raised .serviceUnavailable)
  else
    match self.manager.getChannelRegistration cname with
    | none => (self, .raised .channelDoesNotExist)
    | some record =>
      if record.registrants.length > 0 then
        ({ self with manager := self.manager.modify record markReleased }, .raised .registrationsExists)
      else ((self.unbind services cname).deleteChannelRegistration services cname, .done)

def unregister (cname regId : String) : ChannelDomain × Outcome :=
  if services.available = false then (self, .raised .serviceUnavailable)
  else
    let self := { self with manager := self.manager.dropProxies regId }
    if regId = "" then (self, .raised .registrationDoesNotExist)
    else
      match self.manager.getChannelRegistration cname with
      | none => (self, .raised .channelDoesNotExist)
      | some record =>
        if record.registrants.contains regId = false then
          (self, .raised .registrationDoesNotExist)
        else
          let left := record.registrants.filter fun other => other ≠ regId
          let self := { self with
            manager := self.manager.modify record fun old => EventChannelManager.eraseId old regId }
          if left = [] ∧ record.autoRelease then
            (self.deleteChannelRegistration services cname, .done)
          else (self, .done)

def registerResource (answers : CreateAnswers) (channelName regId : String) : ChannelDomain × Outcome :=
  if answers.available = false then (self, .raised .serviceUnavailable)
  else if self.manager.regIdExists channelName regId then
    (self, .raised .registrationAlreadyExists)
  else if validateChannelName channelName = false then (self, .raised .invalidChannelName)
  else
    let insert (record : ChannelRegistration) : ChannelRegistration :=
      { record with registrants := record.registrants ++ [regId] }
    match self.manager.getChannelRegistration channelName with
    | some record =>
      if record.release then (self, .raised .operationNotAllowed)
      else ({ self with manager := self.manager.modify record insert }, .done)
    | none =>
      match self.create answers channelName false with
      | (next, .done) =>
        match next.manager.getChannelRegistration channelName with
        | none => (next, .raised .operationFailed)
        | some record => ({ next with manager := next.manager.modify record insert }, .done)
      | (next, .raised .channelAlreadyExists) => (next, .raised .operationFailed)
      | result => result

def unregisterEach (cname : String) (regIds : List String) (self : ChannelDomain) : ChannelDomain :=
  regIds.foldl (fun self regId => (self.unregister services cname regId).1) self

def initial (domainContext : String) : ChannelDomain where
  manager := EventChannelManager.initial domainContext
  channel _ := none
  naming := { initRef := fun _ => none, bound := fun _ _ => none }
  objects := []
  created := 0
  enableNsResolution := true

section Refinement

end Refinement

end ChannelDomain

end Redhawk.EventChannels
