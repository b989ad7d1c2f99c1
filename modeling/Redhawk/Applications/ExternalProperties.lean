import Mathlib.Data.String.Basic
import Redhawk.Library.Batches

/-!
The properties of an application (`Application_impl`): `query` and `configure` translate each id into a
component and a property of it, ask every component once for all it is concerned with, and `query` of an
empty list translates back.

A component is referred to by its identifier. A null Any is `none`.
-/

namespace Redhawk.Applications.Routing

open Redhawk.Library

variable {Value : Type}

abbrev AnyEntry (Value : Type) := String × Option Value

/-- What a call raises: an exception of CORBA, as from a component that is gone or a nil reference, or
`UnknownProperties`. -/
inductive QueryRaised (Value : Type)
  | systemException
  | unknownProperties (invalidProperties : List (AnyEntry Value))

structure ComponentProperty (Value : Type) where
  id : String
  value : Option Value
  isQueryable : Bool

/-- The property set of a component. `takes` tells the entries that its `configure` does not refuse. -/
structure Component (Value : Type) where
  alive : Bool
  propTable : List (ComponentProperty Value)
  queryTimestamp : Option Value
  takes : AnyEntry Value → Bool
  unique : (propTable.map ComponentProperty.id).Nodup

namespace Component

variable (component : Component Value)

def queryAll : List (AnyEntry Value) :=
  (component.propTable.filter ComponentProperty.isQueryable).map fun property =>
    (property.id, property.value)

def queryOne (id : String) : Option (Option Value) :=
  if id = "QUERY_TIMESTAMP" then some component.queryTimestamp
  else
    match component.propTable.find? fun property => property.id == id with
    | some property => if property.isQueryable then some property.value else none
    | none => none

def query (configProperties : List (AnyEntry Value)) :
    Except (QueryRaised Value) (List (AnyEntry Value)) :=
  if component.alive then
    if configProperties.length = 0 then .ok component.queryAll
    else
      let invalidProperties := configProperties.filter fun entry => (component.queryOne entry.1).isNone
      if invalidProperties.length ≠ 0 then .error (.unknownProperties invalidProperties)
      else .ok (configProperties.map fun entry =>
        (entry.1, (component.queryOne entry.1).getD entry.2))
  else .error .systemException

/-- The entries that `PropertySet_impl::configure` puts into the exception it raises, if any. -/
def configure (configProperties : List (AnyEntry Value)) :
    Except (QueryRaised Value) (List (AnyEntry Value)) :=
  if component.alive then .ok (configProperties.filter fun entry => !component.takes entry)
  else .error .systemException

end Component

structure ExternalProperty where
  property_id : String
  access : String
  component : Option String

structure Application (Value : Type) where
  properties : List (String × ExternalProperty)
  assemblyController : String
  component : String → Component Value
  sorted : (properties.map Prod.fst).Pairwise (· < ·)

inductive Routed (Value : Type)
  | skipped
  | invalid (entry : AnyEntry Value)
  | batched (compId : String) (entry : AnyEntry Value)

abbrev Batch (Value : Type) := Batches String (AnyEntry Value)

def routeEach {Item : Type} (route : Item → Except (QueryRaised Value) (Routed Value)) :
    List Item → Batch Value → List (AnyEntry Value) →
      Except (QueryRaised Value) (Batch Value × List (AnyEntry Value))
  | [], batch, invalidProperties => .ok (batch, invalidProperties)
  | item :: rest, batch, invalidProperties =>
    match route item with
    | .error raised => .error raised
    | .ok .skipped => routeEach route rest batch invalidProperties
    | .ok (.invalid entry) => routeEach route rest batch (invalidProperties ++ [entry])
    | .ok (.batched compId entry) => routeEach route rest (batch.add compId entry) invalidProperties

inductive ConfigureEnd (Value : Type)
  | returned
  | partialConfiguration (invalidProperties : List (AnyEntry Value))
  | invalidConfiguration (msg : String) (invalidProperties : List (AnyEntry Value))
  | systemException

/-- The calls that `configure` makes, each with the component that is called. -/
structure Configured (Value : Type) where
  calls : List (String × List (AnyEntry Value))
  answer : ConfigureEnd Value

def configureEnd (length : Nat) (invalidProperties : List (AnyEntry Value)) : ConfigureEnd Value :=
  if invalidProperties.isEmpty then .returned
  else if invalidProperties.length < length then .partialConfiguration invalidProperties
  else .invalidConfiguration "No matching external properties found" invalidProperties

namespace Application

variable (app : Application Value)

def identifier (component : Option String) : Except (QueryRaised Value) String :=
  match component with
  | some compId => if (app.component compId).alive then .ok compId else .error .systemException
  | none => .error .systemException

def sendOn (external : ExternalProperty) (entry : AnyEntry Value) :
    Except (QueryRaised Value) (Routed Value) :=
  match external.component with
  | none => .ok (.invalid entry)
  | some _ =>
    match app.identifier external.component with
    | .error raised => .error raised
    | .ok compId => .ok (.batched compId (external.property_id, entry.2))

def getExternalPropertyIdAmong (compIdIn propIdIn : String) :
    List (String × ExternalProperty) → Except (QueryRaised Value) String
  | [] => .ok ""
  | (extId, external) :: rest =>
    match app.identifier external.component with
    | .error raised => .error raised
    | .ok compId =>
      if compId = compIdIn ∧ external.property_id = propIdIn then .ok extId
      else getExternalPropertyIdAmong compIdIn propIdIn rest

def getExternalPropertyId (compIdIn propIdIn : String) : Except (QueryRaised Value) String :=
  app.getExternalPropertyIdAmong compIdIn propIdIn app.properties

def translateBack (compId : String) :
    List (AnyEntry Value) → Except (QueryRaised Value) (List (AnyEntry Value))
  | [] => .ok []
  | (id, value) :: rest =>
    match app.getExternalPropertyId compId id with
    | .error raised => .error raised
    | .ok extId =>
      match translateBack compId rest with
      | .error raised => .error raised
      | .ok translated => .ok ((extId, value) :: translated)

def queryExternal :
    Batch Value → List (AnyEntry Value) → List (AnyEntry Value) →
      Except (QueryRaised Value) (List (AnyEntry Value) × List (AnyEntry Value))
  | [], configProperties, invalidProperties => .ok (configProperties, invalidProperties)
  | (compId, entries) :: rest, configProperties, invalidProperties =>
    match (app.component compId).query entries with
    | .error .systemException => .error .systemException
    | .error (.unknownProperties unknown) =>
      queryExternal rest configProperties (invalidProperties ++ unknown)
    | .ok queried =>
      match app.translateBack compId queried with
      | .error raised => .error raised
      | .ok translated => queryExternal rest (configProperties ++ translated) invalidProperties

def addUnpromoted :
    List (AnyEntry Value) → List (AnyEntry Value) → Except (QueryRaised Value) (List (AnyEntry Value))
  | [], configProperties => .ok configProperties
  | (id, value) :: rest, configProperties =>
    match app.getExternalPropertyId app.assemblyController id with
    | .error raised => .error raised
    | .ok extId =>
      if extId = "" then addUnpromoted rest (configProperties ++ [(id, value)])
      else addUnpromoted rest configProperties

def routePromoted (promoted : String × ExternalProperty) : Except (QueryRaised Value) (Routed Value) :=
  if promoted.2.access = "writeonly" then .ok .skipped
  else app.sendOn promoted.2 (promoted.1, none)

def queryAll : Except (QueryRaised Value) (List (AnyEntry Value)) :=
  match routeEach app.routePromoted app.properties [] [] with
  | .error raised => .error raised
  | .ok (batch, invalidProperties) =>
    match app.queryExternal batch [] invalidProperties with
    | .error raised => .error raised
    | .ok (configProperties, invalidProperties) =>
      match (app.component app.assemblyController).query [] with
      | .error .systemException => .error .systemException
      | .error (.unknownProperties unknown) =>
        .error (.unknownProperties (invalidProperties ++ unknown))
      | .ok tempProp =>
        match app.addUnpromoted tempProp configProperties with
        | .error raised => .error raised
        | .ok configProperties =>
          if invalidProperties.isEmpty then .ok configProperties
          else .error (.unknownProperties invalidProperties)

def queryBatch :
    Batch Value → Batch Value → List (AnyEntry Value) →
      Except (QueryRaised Value) (Batch Value × List (AnyEntry Value))
  | [], answered, invalidProperties => .ok (answered, invalidProperties)
  | (compId, entries) :: rest, answered, invalidProperties =>
    match (app.component compId).query entries with
    | .error .systemException => .error .systemException
    | .error (.unknownProperties unknown) =>
      queryBatch rest (answered ++ [(compId, entries)]) (invalidProperties ++ unknown)
    | .ok queried => queryBatch rest (answered ++ [(compId, queried)]) invalidProperties

def denotes (id : String) : Except (QueryRaised Value) (String × String) :=
  match app.properties.lookup id with
  | some external =>
    match app.identifier external.component with
    | .error raised => .error raised
    | .ok compId => .ok (compId, external.property_id)
  | none => .ok (app.assemblyController, id)

def foundValue (compId propId : String) (answered : Batch Value) (value : Option Value) : Option Value :=
  answered.flat.foldl (fun value found =>
    if compId = found.1 ∧ propId = found.2.1 then found.2.2 else value) value

def findValues (answered : Batch Value) :
    List (AnyEntry Value) → Except (QueryRaised Value) (List (AnyEntry Value))
  | [] => .ok []
  | (extId, value) :: rest =>
    match app.denotes extId with
    | .error raised => .error raised
    | .ok (compId, propId) =>
      match findValues answered rest with
      | .error raised => .error raised
      | .ok found => .ok ((extId, foundValue compId propId answered value) :: found)

def routeQueried (entry : AnyEntry Value) : Except (QueryRaised Value) (Routed Value) :=
  match app.properties.lookup entry.1 with
  | some external =>
    if external.access = "writeonly" then .ok (.invalid entry) else app.sendOn external entry
  | none => .ok (.batched app.assemblyController entry)

def queryListed (configProperties : List (AnyEntry Value)) :
    Except (QueryRaised Value) (List (AnyEntry Value)) :=
  match routeEach app.routeQueried configProperties [(app.assemblyController, [])] [] with
  | .error raised => .error raised
  | .ok (batch, invalidProperties) =>
    match app.queryBatch batch [] invalidProperties with
    | .error raised => .error raised
    | .ok (answered, invalidProperties) =>
      match app.findValues answered configProperties with
      | .error raised => .error raised
      | .ok found =>
        if invalidProperties.isEmpty then .ok found
        else .error (.unknownProperties invalidProperties)

def query (configProperties : List (AnyEntry Value)) :
    Except (QueryRaised Value) (List (AnyEntry Value)) :=
  if configProperties.length = 0 then app.queryAll else app.queryListed configProperties

def configureBatch :
    Batch Value → List (String × List (AnyEntry Value)) → List (AnyEntry Value) →
      List (String × List (AnyEntry Value)) × Except (QueryRaised Value) (List (AnyEntry Value))
  | [], calls, invalidProperties => (calls, .ok invalidProperties)
  | (compId, entries) :: rest, calls, invalidProperties =>
    match (app.component compId).configure entries with
    | .error raised => (calls, .error raised)
    | .ok refused => configureBatch rest (calls ++ [(compId, entries)]) (invalidProperties ++ refused)

def routeConfigured (entry : AnyEntry Value) : Except (QueryRaised Value) (Routed Value) :=
  match app.properties.lookup entry.1 with
  | some external => app.sendOn external entry
  | none => .ok (.batched app.assemblyController entry)

def configure (configProperties : List (AnyEntry Value)) : Configured Value :=
  match routeEach app.routeConfigured configProperties [(app.assemblyController, [])] [] with
  | .error _ => ⟨[], .systemException⟩
  | .ok (batch, invalidProperties) =>
    match app.configureBatch batch [] invalidProperties with
    | (calls, .error _) => ⟨calls, .systemException⟩
    | (calls, .ok invalidProperties) => ⟨calls, configureEnd configProperties.length invalidProperties⟩

end Application

end Redhawk.Applications.Routing
