import Redhawk.Properties.PropertyWrappers

/-!
`PropertySet_impl::configure` and `initializeProperties`: the turn of each entry and the loop over them.

The code of the user that an entry meets, its query and custom configure functions, listeners and
callbacks, comes with the entry; it changes no other property.
-/

namespace Redhawk.Properties

/-- The exceptions that are told apart: one of the standard library, `InvalidConfiguration`, another one
of CORBA, or none of these. -/
inductive Raised
  | standard
  | invalidConfiguration
  | corba
  | foreign
deriving DecidableEq

/-- What the code of the user does at the turn of an entry. A query function answers before the value is
set and behind it. -/
structure Handlers (kind : PropertyKind) (α : Type) where
  query : Option (Except Raised (kind.Variable α) × Except Raised (kind.Variable α))
  configure : kind.Variable α → Configured kind α
  configureRaises : Raised
  listenerRaises : Listener → Option Raised
  callbackRaises : Option Raised
  sendEventRaises : Option Raised

/-- `basic` tells the properties whose values `compare_anys` compares, `hasCallback` those with a
property callback. -/
structure ConfigurableTable (PropId : Type) where
  propTable : List PropId
  kind : PropId → PropertyKind
  isConfigurable : PropId → Bool
  isProperty : PropId → Bool
  isEvent : PropId → Bool
  basic : PropId → Bool
  hasCallback : PropId → Bool
  propertyChangePort : Bool
  basic_simple : ∀ id, basic id = true → kind id = .simple

variable {PropId α : Type}

structure Turn (table : ConfigurableTable PropId) (α : Type) where
  id : PropId
  value : PropertyAny α (table.kind id)
  handlers : Handlers (table.kind id) α

abbrev Wrappers (table : ConfigurableTable PropId) (α : Type) :=
  (id : PropId) → PropertyWrapper (table.kind id) α

abbrev ConfigureEntry (table : ConfigurableTable PropId) (α : Type) :=
  (id : PropId) × PropertyAny α (table.kind id)

structure Tried (kind : PropertyKind) (α : Type) where
  wrapper : PropertyWrapper kind α
  raised : Option Raised
  callbackRun : Bool

variable {table : ConfigurableTable PropId}

def Turn.entry (turn : Turn table α) : ConfigureEntry table α := ⟨turn.id, turn.value⟩

def Turn.call (turn : Turn table α) : SetCall (table.kind turn.id) α where
  any := turn.value
  configure := turn.handlers.configure
  listenerThrows listener := (turn.handlers.listenerRaises listener).isSome

def PropertyWrapper.getValue {kind : PropertyKind} (self : PropertyWrapper kind α)
    (query : Option (Except Raised (kind.Variable α))) :
    PropertyWrapper kind α × Except Raised (Option (kind.Variable α)) :=
  if self.enableNil && self.isNil then (self, .ok none)
  else
    match query with
    | none => (self, .ok (some self.value))
    | some (.ok value) => (self.setVariable value, .ok (some value))
    | some (.error raised) => (self, .error raised)

def compareAnys [BEq α] {kind : PropertyKind} (basic : Bool) (before after : Option (kind.Variable α)) : Bool :=
  match before, after with
  | some before, some after => basic && valueEquals kind before after
  | _, _ => false

section Bodies

variable [BEq α] (turn : Turn table α)

/-- What `setValue` raises: its own complaint, or the first exception of the code of the user. -/
def setValueRaises (wrapper : PropertyWrapper (table.kind turn.id) α) (callbacks : Bool) : Option Raised :=
  let called := (wrapper.setValue turn.call callbacks).2
  let listenersRaise := called.findSome? fun call => turn.handlers.listenerRaises call.listener
  match turn.value with
  | .other => some .standard
  | .null => listenersRaise
  | .converts newValue =>
    if wrapper.configured && (turn.handlers.configure newValue).throws then
      some turn.handlers.configureRaises
    else listenersRaise

def comparesUnequal (wrapper : PropertyWrapper (table.kind turn.id) α) : Bool :=
  match turn.value with
  | .null => wrapper.toPointer.isSome
  | .converts newValue => !equals wrapper.toPointer (some newValue)
  | .other => true

def changeRaises (sendEvent : Bool) : Option Raised :=
  (if table.hasCallback turn.id then turn.handlers.callbackRaises else none).or
    (if sendEvent then turn.handlers.sendEventRaises else none)

def configureBody (wrapper : PropertyWrapper (table.kind turn.id) α) : Tried (table.kind turn.id) α :=
  let sendEvent :=
    table.propertyChangePort && table.isEvent turn.id && comparesUnequal turn wrapper
  let (queried, beforeValue) := wrapper.getValue (turn.handlers.query.map Prod.fst)
  match beforeValue with
  | .error raised => ⟨queried, some raised, false⟩
  | .ok beforeValue =>
    let set := (queried.setValue turn.call true).1
    match setValueRaises turn queried true with
    | some raised => ⟨set, some raised, false⟩
    | none =>
      let (after, afterValue) := set.getValue (turn.handlers.query.map Prod.snd)
      match afterValue with
      | .error raised => ⟨after, some raised, false⟩
      | .ok afterValue =>
        if compareAnys (table.basic turn.id) beforeValue afterValue then ⟨after, none, false⟩
        else ⟨after, changeRaises turn sendEvent, table.hasCallback turn.id⟩

def initializeBody (wrapper : PropertyWrapper (table.kind turn.id) α) : Tried (table.kind turn.id) α :=
  ⟨(wrapper.setValue turn.call false).1, setValueRaises turn wrapper false, false⟩

end Bodies

/-- What the loops of `configure` and `initializeProperties` do not share. -/
structure Loop (table : ConfigurableTable PropId) (α : Type) where
  allowed : PropId → Bool
  body : (turn : Turn table α) → PropertyWrapper (table.kind turn.id) α → Tried (table.kind turn.id) α
  caught : Raised → Bool

/-- `catch` of `std::exception`, of `InvalidConfiguration`, which is thrown on, and of
`CORBA::Exception`. -/
def configureLoop [BEq α] : Loop table α where
  allowed := table.isConfigurable
  body := configureBody
  caught raised := raised == .standard || raised == .corba

def initializeLoop [BEq α] : Loop table α where
  allowed := table.isProperty
  body := initializeBody
  caught raised := raised == .standard || raised == .invalidConfiguration || raised == .corba

inductive Ending
  | valid
  | invalid
  | escapes (raised : Raised)
deriving DecidableEq

def Loop.ending (loop : Loop table α) (raised : Option Raised) : Ending :=
  match raised with
  | none => .valid
  | some raised => if loop.caught raised then .invalid else .escapes raised

structure Turned (table : ConfigurableTable PropId) (α : Type) where
  wrappers : Wrappers table α
  ending : Ending
  callbackRun : Bool

structure Progress (table : ConfigurableTable PropId) (α : Type) where
  wrappers : Wrappers table α
  validProperties : Nat
  invalidProperties : List (ConfigureEntry table α)
  callbacksRun : List PropId
  escaped : Option Raised

def begun (wrappers : Wrappers table α) : Progress table α := ⟨wrappers, 0, [], [], none⟩

inductive ConfigureAnswer (table : ConfigurableTable PropId) (α : Type)
  | returned
  | partialConfiguration (invalidProperties : List (ConfigureEntry table α))
  | invalidConfiguration (msg : String) (invalidProperties : List (ConfigureEntry table α))
  | alreadyInitialized
  | escaped (raised : Raised)

structure ConfigureResult (table : ConfigurableTable PropId) (α : Type) where
  wrappers : Wrappers table α
  callbacksRun : List PropId
  answer : ConfigureAnswer table α

section Calls

variable [DecidableEq PropId]

def Loop.reaches (loop : Loop table α) (turn : Turn table α) : Bool :=
  decide (turn.id ∈ table.propTable) && loop.allowed turn.id

def Loop.take (loop : Loop table α) (turn : Turn table α) (wrappers : Wrappers table α) : Turned table α :=
  if loop.reaches turn then
    let tried := loop.body turn (wrappers turn.id)
    ⟨Function.update wrappers turn.id tried.wrapper, loop.ending tried.raised, tried.callbackRun⟩
  else ⟨wrappers, .invalid, false⟩

def Loop.run (loop : Loop table α) :
    List (Turn table α) → Progress table α → Progress table α
  | [], progress => progress
  | turn :: rest, progress =>
    let turned := loop.take turn progress.wrappers
    let next : Progress table α :=
      { progress with
        wrappers := turned.wrappers
        callbacksRun := progress.callbacksRun ++ if turned.callbackRun then [turn.id] else [] }
    match turned.ending with
    | .valid => loop.run rest { next with validProperties := progress.validProperties + 1 }
    | .invalid =>
      loop.run rest { next with invalidProperties := progress.invalidProperties ++ [turn.entry] }
    | .escapes raised => { next with escaped := some raised }

variable [BEq α]

def configureProperties (wrappers : Wrappers table α) (configProperties : List (Turn table α)) :
    ConfigureResult table α :=
  let progress := configureLoop.run configProperties (begun wrappers)
  let answer :=
    match progress.escaped with
    | some raised => .escaped raised
    | none =>
      if progress.invalidProperties.length > 0 then
        if progress.validProperties > 0 then .partialConfiguration progress.invalidProperties
        else .invalidConfiguration "No matching properties found" progress.invalidProperties
      else .returned
  ⟨progress.wrappers, progress.callbacksRun, answer⟩

def initializeProperties (propertiesInitialized : Bool) (wrappers : Wrappers table α)
    (ctorProps : List (Turn table α)) : ConfigureResult table α :=
  if propertiesInitialized then ⟨wrappers, [], .alreadyInitialized⟩
  else
    let progress := initializeLoop.run ctorProps (begun wrappers)
    let answer :=
      match progress.escaped with
      | some raised => .escaped raised
      | none =>
        if progress.invalidProperties.length > 0 then
          if progress.invalidProperties.length < ctorProps.length then
            .partialConfiguration progress.invalidProperties
          else .invalidConfiguration "No matching properties found" progress.invalidProperties
        else .returned
    ⟨progress.wrappers, progress.callbacksRun, answer⟩

end Calls

end Redhawk.Properties
