import Redhawk.Library.Runs

/-!
Property listeners of an application: `registerPropertyListener` and `unregisterPropertyListener` of
`Application_impl`, which register a listener with each component that one of its properties belongs
to.
-/

namespace Redhawk.Applications

open Redhawk.Library

abbrev ResourceRef := Nat

structure Registration where
  regId : Nat
  component : ResourceRef
  listener : Nat
  propIds : List String
  interval : Rat
deriving DecidableEq

structure PropertyChangeRecord where
  regId : Nat
  comp : ResourceRef
deriving DecidableEq

structure ExternalProperty where
  propertyId : String
  component : ResourceRef
deriving DecidableEq

structure Application where
  properties : List (String × ExternalProperty)
  assemblyController : Option ResourceRef
  releaseAlreadyCalled : Bool
  propertyChangeRegistrations : List (Nat × List PropertyChangeRecord)
deriving DecidableEq

/-- The application and what its components hold; an identifier that is generated is a new one. -/
structure System where
  application : Application
  registrations : List Registration
  nextId : Nat
deriving DecidableEq

/-- How the components answer during one call. While it is traced they are asked for their identifiers,
by the first loop once for each external property. -/
structure Answers where
  isNil : ResourceRef → Bool
  registers : ResourceRef → Bool
  unregisters : ResourceRef → Bool
  tracing : Bool
  describes : Nat → Bool
  identifies : ResourceRef → Bool

structure Call where
  listener : Nat
  propIds : List String
  interval : Rat
  answers : Answers

abbrev CompRegs := List (ResourceRef × List String)

def pushBack (comp : ResourceRef) (propId : String) : CompRegs → CompRegs
  | [] => [(comp, [propId])]
  | (other, ids) :: rest =>
    if comp = other then (other, ids ++ [propId]) :: rest
    else if comp < other then (comp, [propId]) :: (other, ids) :: rest
    else (other, ids) :: pushBack comp propId rest

def compRegs (application : Application) (answers : Answers) :
    Nat → List String → CompRegs → Option CompRegs
  | _, [], regs => some regs
  | index, extId :: rest, regs =>
    match application.properties.lookup extId with
    | some external =>
      if answers.tracing && !answers.describes index then none
      else compRegs application answers (index + 1) rest
        (pushBack external.component external.propertyId regs)
    | none =>
      match application.assemblyController with
      | some acResource =>
        compRegs application answers (index + 1) rest (pushBack acResource extId regs)
      | none => compRegs application answers (index + 1) rest regs

namespace System

def register (system : System) (call : Call) (comp : ResourceRef) (propIds : List String) : System :=
  { system with
    registrations := system.registrations ++ [⟨system.nextId, comp, call.listener, propIds, call.interval⟩]
    nextId := system.nextId + 1 }

def unregister (system : System) (answers : Answers) (record : PropertyChangeRecord) : System :=
  if answers.unregisters record.comp then
    { system with
      registrations := system.registrations.filter fun held =>
        !(held.component == record.comp && held.regId == record.regId) }
  else system

end System

namespace Answers

def accepts (answers : Answers) (comp : ResourceRef) : Bool :=
  !answers.isNil comp && answers.registers comp

def completes (answers : Answers) (comp : ResourceRef) : Bool :=
  answers.accepts comp && !(answers.tracing && !answers.identifies comp)

end Answers

def registerEach (call : Call) :
    CompRegs → List PropertyChangeRecord → System → Bool × List PropertyChangeRecord × System
  | [], pcRecs, system => (true, pcRecs, system)
  | (comp, propIds) :: rest, pcRecs, system =>
    if call.answers.accepts comp then
      if call.answers.tracing && !call.answers.identifies comp then
        (false, pcRecs, system.register call comp propIds)
      else
        registerEach call rest (pcRecs ++ [⟨system.nextId, comp⟩]) (system.register call comp propIds)
    else (false, pcRecs, system)

/-- How a registration ends; `readsPastEnd` is the undefined step of reading a record of an empty
vector, and a call that is skipped returns the empty string. -/
inductive Outcome
  | registered (regId : Nat)
  | skipped
  | raised
  | readsPastEnd
deriving DecidableEq

inductive Unregistered
  | done
  | skipped
  | InvalidIdentifier
deriving DecidableEq

namespace System

def registerPropertyListener (system : System) (call : Call) : Outcome × System :=
  if system.application.releaseAlreadyCalled then (.skipped, system)
  else
    match compRegs system.application call.answers 0 call.propIds [] with
    | none => (.raised, system)
    | some regs =>
      match registerEach call regs [] system with
      | (false, [], after) => (.readsPastEnd, after)
      | (false, first :: _, after) => (.raised, after.unregister call.answers first)
      | (true, pcRecs, after) =>
        (.registered after.nextId,
          { after with
            application.propertyChangeRegistrations :=
              (after.nextId, pcRecs) :: after.application.propertyChangeRegistrations
            nextId := after.nextId + 1 })

def unregisterPropertyListener (system : System) (answers : Answers) (regId : Nat) :
    Unregistered × System :=
  if system.application.releaseAlreadyCalled then (.skipped, system)
  else
    match system.application.propertyChangeRegistrations.lookup regId with
    | none => (.InvalidIdentifier, system)
    | some pcRecs =>
      let after := pcRecs.foldl (fun now record =>
        if answers.isNil record.comp then now else now.unregister answers record) system
      (.done, { after with
        application.propertyChangeRegistrations :=
          after.application.propertyChangeRegistrations.filter fun entry => entry.1 != regId })

end System

/-- What happens to an application: the calls, `releaseObject`, changes of its external properties and
of its assembly controller, and what its components do on their own or for others. -/
inductive Event
  | register (call : Call)
  | unregister (answers : Answers) (regId : Nat)
  | releaseObject
  | configure (properties : List (String × ExternalProperty)) (assemblyController : Option ResourceRef)
  | registerDirectly (call : Call) (comp : ResourceRef)
  | drop (given : Registration → Bool)

def step : Event → System → System
  | .register call, system => (system.registerPropertyListener call).2
  | .unregister answers regId, system => (system.unregisterPropertyListener answers regId).2
  | .releaseObject, system => { system with application.releaseAlreadyCalled := true }
  | .configure properties assemblyController, system =>
    { system with
      application.properties := properties
      application.assemblyController := assemblyController }
  | .registerDirectly call comp, system => system.register call comp call.propIds
  | .drop given, system =>
    { system with registrations := system.registrations.filter fun held => !given held }

def System.start (properties : List (String × ExternalProperty))
    (assemblyController : Option ResourceRef) : System :=
  ⟨⟨properties, assemblyController, false, []⟩, [], 0⟩

end Redhawk.Applications
