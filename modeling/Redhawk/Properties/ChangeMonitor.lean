import Mathlib.Data.List.Sort
import Redhawk.Library.Runs

/-!
Property change reporting of a property set: the monitors that compare a property variable
with the value of the previous pass, the registrations of change listeners with a callback for
every property they cover, and the service function that passes over the registry.

Times are microseconds. A registration id is the number that its UUID prints, in the order in
which the registry keeps them.
-/

namespace Redhawk.Properties

inductive PropertyKind
  | simple
  | struct
  | sequence
  | structSequence
  deriving DecidableEq

def PropertyKind.Variable (α : Type) : PropertyKind → Type
  | .simple | .struct => α
  | .sequence | .structSequence => List α

instance variableDecidableEq {α : Type} [DecidableEq α] : (kind : PropertyKind) → DecidableEq (kind.Variable α)
  | .simple | .struct => inferInstanceAs (DecidableEq α)
  | .sequence | .structSequence => inferInstanceAs (DecidableEq (List α))

def differs {α : Type} [DecidableEq α] : (kind : PropertyKind) → kind.Variable α → kind.Variable α → Bool
  | .simple, old, ref => decide ((old : α) ≠ ref)
  | .struct, old, ref => decide ((ref : α) ≠ old)
  | .sequence, old, ref => decide ((ref : List α).length ≠ (old : List α).length)
  | .structSequence, old, ref => decide ((ref : List α).length ≠ (old : List α).length)

@[simp] theorem differs_self {α : Type} [DecidableEq α] (kind : PropertyKind)
    (held : kind.Variable α) : differs kind held held = false := by
  cases kind <;> simp [differs]

structure Monitor (α : Type) (kind : PropertyKind) where
  old : kind.Variable α
  tested : Bool
  diff : Bool

namespace Monitor

variable {α : Type} [DecidableEq α] {kind : PropertyKind}

def isChanged (monitor : Monitor α kind) (ref : kind.Variable α) : Bool × Monitor α kind :=
  if monitor.tested then
    (monitor.diff, monitor)
  else
    let diff := differs kind monitor.old ref || monitor.diff
    (diff, { monitor with tested := true, diff := diff })

def reset (_monitor : Monitor α kind) (ref : kind.Variable α) : Monitor α kind :=
  { old := ref, tested := false, diff := false }

theorem isChanged_again (monitor : Monitor α kind) (ref : kind.Variable α) :
    ((monitor.isChanged ref).2.isChanged ref).1 = (monitor.isChanged ref).1 := by
  unfold isChanged
  split <;> simp_all

theorem isChanged_reset (monitor : Monitor α kind) (ref ref' : kind.Variable α) :
    ((monitor.reset ref).isChanged ref').1 = differs kind ref ref' := by
  simp [isChanged, reset]

end Monitor

structure PCL_Callback where
  isChanged : Bool
  isRecorded : Bool
  changed_of_recorded : isRecorded = true → isChanged = true

namespace PCL_Callback

def fresh : PCL_Callback := ⟨false, false, by simp⟩

def recordChanged (callback : PCL_Callback) : PCL_Callback :=
  if callback.isRecorded then callback else ⟨true, true, by simp⟩

def reset (_callback : PCL_Callback) : PCL_Callback := ⟨false, false, by simp⟩

@[simp] theorem recordChanged_isChanged (callback : PCL_Callback) :
    callback.recordChanged.isChanged = true := by
  unfold recordChanged
  split
  · next recorded => exact callback.changed_of_recorded recorded
  · rfl

end PCL_Callback

abbrev PropertyReportTable (PropId : Type) := List (PropId × PCL_Callback)

structure PropertyChangeRec (PropId : Type) where
  regId : Nat
  reportInterval : Int
  expiration : Int
  props : PropertyReportTable PropId

/-- What the properties of a component are; `propTable` lists the ids. -/
structure PropertyTable (PropId : Type) where
  propTable : List PropId
  kind : PropId → PropertyKind
  isQueryable : PropId → Bool
  isConfigurable : PropId → Bool
  enableNil : PropId → Bool

variable {PropId α : Type}

structure PropertySet (table : PropertyTable PropId) (α : Type) where
  value : (id : PropId) → (table.kind id).Variable α
  isNil : PropId → Bool
  propMonitors : (id : PropId) → Monitor α (table.kind id)
  propChangeRegistry : List (PropertyChangeRec PropId)

/-- What a listener is told: for each changed property its value, nothing when it is nil. -/
structure Notification (table : PropertyTable PropId) (α : Type) where
  regId : Nat
  props : List ((id : PropId) × Option ((table.kind id).Variable α))

def Notification.Contains {table : PropertyTable PropId} (notification : Notification table α)
    (id : PropId) : Prop :=
  id ∈ notification.props.map Sigma.fst

/-- What a client sends as the new value of a property: a value that converts to the
property's type, a null, or something else. -/
inductive PropertyAny (α : Type) (kind : PropertyKind)
  | converts (value : kind.Variable α)
  | null
  | other

inductive ListenerReference
  | eventChannel
  | propertyChangeListener
  | neither
  deriving DecidableEq

inductive PropertySetError (PropId : Type)
  | partialConfiguration (invalidProperties : List PropId)
  | invalidConfiguration (msg : String) (invalidProperties : List PropId)
  | unknownProperties (invalidProperties : List PropId)
  | invalidObjectReference
  | invalidIdentifier
  deriving DecidableEq

variable {table : PropertyTable PropId} [DecidableEq PropId] [DecidableEq α]

def voidListeners (id : PropId) (registry : List (PropertyChangeRec PropId)) :
    List (PropertyChangeRec PropId) :=
  registry.map fun record =>
    { record with props := record.props.map fun (key, callback) =>
        (key, if key = id then callback.recordChanged else callback) }

namespace PropertySet

def getValue (self : PropertySet table α) (id : PropId) : Option ((table.kind id).Variable α) :=
  if table.enableNil id && self.isNil id then none else some (self.value id)

def setVariable (self : PropertySet table α) (id : PropId)
    (newValue : (table.kind id).Variable α) : PropertySet table α :=
  { self with value := Function.update self.value id newValue }

/-- The tail of `PropertyWrapper::setValue`: the callbacks fire when the value, nil included,
is not the one before. -/
def valueChanged (before after : PropertySet table α) (id : PropId) : PropertySet table α :=
  if after.getValue id = before.getValue id then after
  else { after with propChangeRegistry := voidListeners id after.propChangeRegistry }

def clearSequence (kind : PropertyKind) (held : kind.Variable α) : kind.Variable α :=
  match kind, held with
  | .simple, held | .struct, held => held
  | .sequence, _ | .structSequence, _ => ([] : List α)

def setValue (self : PropertySet table α) (id : PropId) (any : PropertyAny α (table.kind id)) :
    PropertySet table α × Bool :=
  match any with
  | .converts newValue =>
    let stored := { self.setVariable id newValue with
      isNil := Function.update self.isNil id false }
    (valueChanged self stored id, true)
  | .null =>
    if table.kind id = .sequence ∨ table.kind id = .structSequence then
      (self.setVariable id (clearSequence (table.kind id) (self.value id)), true)
    else
      let stored := { self with isNil := Function.update self.isNil id (table.enableNil id) }
      (valueChanged self stored id, true)
  | .other => (self, false)

end PropertySet

structure Setting (table : PropertyTable PropId) (α : Type) where
  id : PropId
  value : PropertyAny α (table.kind id)

namespace PropertySet

def configureProperty (setting : Setting table α) (self : PropertySet table α) :
    PropertySet table α × Bool :=
  if setting.id ∈ table.propTable ∧ table.isConfigurable setting.id then
    self.setValue setting.id setting.value
  else
    (self, false)

def configureLoop (self : PropertySet table α) :
    List (Setting table α) → Nat → List PropId → PropertySet table α × Nat × List PropId
  | [], validProperties, invalidProperties => (self, validProperties, invalidProperties)
  | setting :: rest, validProperties, invalidProperties =>
    match configureProperty setting self with
    | (next, true) => next.configureLoop rest (validProperties + 1) invalidProperties
    | (next, false) =>
      next.configureLoop rest validProperties (invalidProperties ++ [setting.id])

def configure (self : PropertySet table α) (configProperties : List (Setting table α)) :
    PropertySet table α × Except (PropertySetError PropId) Unit :=
  let (next, validProperties, invalidProperties) := self.configureLoop configProperties 0 []
  if invalidProperties.length > 0 then
    if validProperties > 0 then
      (next, .error (.partialConfiguration invalidProperties))
    else
      (next, .error (.invalidConfiguration "No matching properties found" invalidProperties))
  else
    (next, .ok ())

end PropertySet

def PropertyReportTable.insert (props : PropertyReportTable PropId) (id : PropId) :
    PropertyReportTable PropId :=
  if id ∈ props.map Prod.fst then props else props ++ [(id, PCL_Callback.fresh)]

/-- The loop over the requested ids. `count` is the number of invalid ids before the last one
was added. -/
def requestedProperties (table : PropertyTable PropId) :
    List PropId → PropertyReportTable PropId → List PropId → Nat → PropertyReportTable PropId × List PropId × Nat
  | [], props, invalidProperties, count => (props, invalidProperties, count)
  | id :: rest, props, invalidProperties, count =>
    if id ∈ table.propTable ∧ table.isQueryable id then
      requestedProperties table rest (props.insert id) invalidProperties count
    else
      requestedProperties table rest props (invalidProperties ++ [id]) invalidProperties.length

def listenedProperties (table : PropertyTable PropId) (propIds : List PropId) :
    PropertyReportTable PropId × List PropId × Nat :=
  if propIds.length = 0 then
    ((table.propTable.filter table.isQueryable).foldl PropertyReportTable.insert [], [], 0)
  else
    requestedProperties table propIds [] [] 0

/-- The registry is a map: a registration under an id that is there is not inserted. -/
def insertRecord (record : PropertyChangeRec PropId) (registry : List (PropertyChangeRec PropId)) :
    List (PropertyChangeRec PropId) :=
  if record.regId ∈ registry.map (·.regId) then registry
  else registry.orderedInsert (fun left right => left.regId ≤ right.regId) record

namespace PropertySet

/-- `regId` is the id that is generated and `clock` the time that is read. -/
def registerPropertyListener (self : PropertySet table α) (listener : ListenerReference)
    (propIds : List PropId) (interval : Int) (regId : Nat) (clock : Int) :
    PropertySet table α × Except (PropertySetError PropId) Nat :=
  let (props, invalidProperties, count) := listenedProperties table propIds
  if count > 0 then
    (self, .error (.unknownProperties invalidProperties))
  else if listener = .neither then
    (self, .error .invalidObjectReference)
  else
    let record : PropertyChangeRec PropId :=
      { regId := regId, reportInterval := interval, expiration := clock + interval,
        props := props }
    ({ self with propChangeRegistry := insertRecord record self.propChangeRegistry }, .ok regId)

def unregisterPropertyListener (self : PropertySet table α) (regId : Nat) :
    PropertySet table α × Except (PropertySetError PropId) Unit :=
  if regId ∈ self.propChangeRegistry.map (·.regId) then
    ({ self with propChangeRegistry :=
        self.propChangeRegistry.filter fun record => record.regId ≠ regId }, .ok ())
  else
    (self, .error .invalidIdentifier)

end PropertySet

abbrev PropertyMonitorTable (table : PropertyTable PropId) (α : Type) :=
  (id : PropId) → Monitor α (table.kind id)

def recordChanges (value : (id : PropId) → (table.kind id).Variable α) :
    PropertyMonitorTable table α → PropertyReportTable PropId →
      PropertyMonitorTable table α × PropertyReportTable PropId
  | monitors, [] => (monitors, [])
  | monitors, (id, callback) :: rest =>
    let (changed, monitor) := (monitors id).isChanged (value id)
    let (monitors', rest') := recordChanges value (Function.update monitors id monitor) rest
    (monitors', (id, if changed then callback.recordChanged else callback) :: rest')

def resetMonitors (value : (id : PropId) → (table.kind id).Variable α)
    (monitors : PropertyMonitorTable table α) : PropertyMonitorTable table α :=
  fun id => (monitors id).reset (value id)

def PropertyChangeRec.expired (record : PropertyChangeRec PropId) (now : Int) : Bool :=
  decide ((record.expiration - now).tdiv 1000 ≤ 0)

namespace PropertySet

def reportProps (self : PropertySet table α) (props : PropertyReportTable PropId) :
    List ((id : PropId) × Option ((table.kind id).Variable α)) :=
  (props.filter fun entry => entry.2.isChanged).map fun entry => ⟨entry.1, self.getValue entry.1⟩

def report (self : PropertySet table α) (now : Int) (clock : Nat → Int)
    (record : PropertyChangeRec PropId) : PropertyChangeRec PropId × List (Notification table α) :=
  if record.expired now then
    let rptProps := self.reportProps record.props
    let reset := record.props.map fun (id, callback) =>
      (id, if callback.isChanged then callback.reset else callback)
    ({ record with props := reset, expiration := clock record.regId + record.reportInterval },
      if rptProps.length > 0 then [{ regId := record.regId, props := rptProps }] else [])
  else
    (record, [])

def serviceLoop (self : PropertySet table α) (now : Int) (clock : Nat → Int) :
    PropertyMonitorTable table α → List (PropertyChangeRec PropId) →
      PropertyMonitorTable table α × List (PropertyChangeRec PropId) ×
        List (Notification table α)
  | monitors, [] => (monitors, [], [])
  | monitors, record :: rest =>
    let (monitors, props) := recordChanges self.value monitors record.props
    let (record, sent) := self.report now clock { record with props := props }
    let (monitors, records, notifications) :=
      self.serviceLoop now clock (resetMonitors self.value monitors) rest
    (monitors, record :: records, sent ++ notifications)

/-- One pass at time `now`; `clock` is the time read after the report of a registration. -/
def propertyChangeServiceFunction (self : PropertySet table α) (now : Int) (clock : Nat → Int) :
    PropertySet table α × List (Notification table α) :=
  let (monitors, registry, notifications) :=
    self.serviceLoop now clock self.propMonitors self.propChangeRegistry
  ({ self with propMonitors := monitors, propChangeRegistry := registry }, notifications)

end PropertySet

inductive Event (table : PropertyTable PropId) (α : Type)
  | configure (configProperties : List (Setting table α))
  | assign (id : PropId) (newValue : (table.kind id).Variable α)
  | register (listener : ListenerReference) (propIds : List PropId) (interval : Int)
      (regId : Nat) (clock : Int)
  | unregister (regId : Nat)
  | pass (now : Int) (clock : Nat → Int)

namespace PropertySet

def step (event : Event table α) (self : PropertySet table α) : PropertySet table α :=
  match event with
  | .configure configProperties => (self.configure configProperties).1
  | .assign id newValue => self.setVariable id newValue
  | .register listener propIds interval regId clock =>
    (self.registerPropertyListener listener propIds interval regId clock).1
  | .unregister regId => (self.unregisterPropertyListener regId).1
  | .pass now clock => (self.propertyChangeServiceFunction now clock).1

def initial (table : PropertyTable PropId) (value : (id : PropId) → (table.kind id).Variable α)
    (isNil : PropId → Bool) : PropertySet table α :=
  { value := value, isNil := isNil,
    propMonitors := fun id => { old := value id, tested := false, diff := false },
    propChangeRegistry := [] }

end PropertySet

end Redhawk.Properties
