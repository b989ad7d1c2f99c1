import Redhawk.Properties.ChangeMonitor

/-!
The wrapper of a property (`PropertyWrapper`, `SequenceProperty`): setting its value from an Any and
the change listeners that are called when the value, nil included, is no longer the one before.
-/

namespace Redhawk.Properties

open List

def PropertyKind.isSequence : PropertyKind → Bool
  | .simple | .struct => false
  | .sequence | .structSequence => true

variable {α : Type} {kind : PropertyKind}

def valueEquals [BEq α] : (kind : PropertyKind) → kind.Variable α → kind.Variable α → Bool
  | .simple | .struct => fun (left right : α) => left == right
  | .sequence | .structSequence => fun (left right : List α) => left == right

def equals [BEq α] (oldValue newValue : Option (kind.Variable α)) : Bool :=
  match oldValue, newValue with
  | some oldValue, some newValue => valueEquals kind oldValue newValue
  | none, none => true
  | _, _ => false

abbrev Listener := Nat

/-- A call of a change listener with what it is given. A value that is passed by reference is missing
when the pointer behind the reference is null. -/
inductive ListenerCall (Value : Type)
  | byPointer (listener : Listener) (oldValue newValue : Option Value)
  | byValue (listener : Listener) (oldValue newValue : Option Value)
  | noArguments (listener : Listener)

def ListenerCall.listener {Value : Type} : ListenerCall Value → Listener
  | .byPointer listener _ _ | .byValue listener _ _ | .noArguments listener => listener

def ListenerCall.Complete {Value : Type} : ListenerCall Value → Prop
  | .byValue _ oldValue newValue => oldValue.isSome = true ∧ newValue.isSome = true
  | .byPointer _ _ _ | .noArguments _ => True

/-- By-value listeners and nil values exclude each other, and a sequence is never nil. -/
structure PropertyWrapper (kind : PropertyKind) (α : Type) where
  value : kind.Variable α
  enableNil : Bool
  isNil : Bool
  configured : Bool
  pointerListeners : List Listener
  valueListeners : List Listener
  voidListeners : List Listener
  byValue_held : valueListeners ≠ [] → enableNil = false
  sequence_held : kind.isSequence = true → isNil = false

/-- What a custom configure function makes of the variable and of its nil flag; it may throw. -/
structure Configured (kind : PropertyKind) (α : Type) where
  value : kind.Variable α
  isNil : Bool
  throws : Bool

/-- A call of `setValue`, with what a custom configure function and the listeners do in it. -/
structure SetCall (kind : PropertyKind) (α : Type) where
  any : PropertyAny α kind
  configure : kind.Variable α → Configured kind α
  listenerThrows : Listener → Bool

def callEach {Value : Type} (throws : Listener → Bool) :
    List (ListenerCall Value) → List (ListenerCall Value)
  | [] => []
  | call :: rest => if throws call.listener then [call] else call :: callEach throws rest

namespace PropertyWrapper

variable (self : PropertyWrapper kind α)

def setEnableNil (enable : Bool) : Except String (PropertyWrapper kind α) :=
  if guarded : enable = true ∧ self.valueListeners ≠ [] then
    .error "cannot enable nil values while using by-value change listeners"
  else
    .ok { self with
      enableNil := enable
      byValue_held := fun used => by
        cases enable with
        | true => exact absurd ⟨rfl, used⟩ guarded
        | false => rfl }

def addValueListener (func : Listener) : Except String (PropertyWrapper kind α) :=
  if enabled : self.enableNil = true then
    .error "cannot set by-value change listener with nil values enabled"
  else
    .ok { self with
      valueListeners := self.valueListeners ++ [func]
      byValue_held := fun _ => Bool.eq_false_iff.mpr enabled }

def setNil (nil : Bool) : PropertyWrapper kind α :=
  { self with
    isNil := !kind.isSequence && nil
    sequence_held := fun sequence => by rw [sequence]; rfl }

def setVariable (newValue : kind.Variable α) : PropertyWrapper kind α :=
  { self with value := newValue }

def toPointer : Option (kind.Variable α) :=
  if self.enableNil && self.isNil then none else some self.value

def store (call : SetCall kind α) (newValue : kind.Variable α) : PropertyWrapper kind α × Bool :=
  if self.configured then
    let answer := call.configure newValue
    ((self.setVariable answer.value).setNil answer.isNil, answer.throws)
  else
    ((self.setVariable newValue).setNil false, false)

def notifications (oldValue newValue : Option (kind.Variable α)) : List (ListenerCall (kind.Variable α)) :=
  self.pointerListeners.map (.byPointer · oldValue newValue) ++
    self.valueListeners.map (.byValue · oldValue newValue) ++ self.voidListeners.map .noArguments

def listeners : List Listener :=
  self.pointerListeners ++ self.valueListeners ++ self.voidListeners

variable [BEq α]

def valueChanged (call : SetCall kind α) (callbacks : Bool) (after : PropertyWrapper kind α) :
    List (ListenerCall (kind.Variable α)) :=
  if callbacks && !equals self.toPointer after.toPointer then
    callEach call.listenerThrows (after.notifications self.toPointer after.toPointer)
  else []

def setValueSuper (call : SetCall kind α) (callbacks : Bool) :
    PropertyWrapper kind α × List (ListenerCall (kind.Variable α)) :=
  match call.any with
  | .converts newValue =>
    let (after, throws) := self.store call newValue
    if throws then (after, []) else (after, self.valueChanged call callbacks after)
  | .null =>
    let after := self.setNil self.enableNil
    (after, self.valueChanged call callbacks after)
  | .other => (self, [])

def setValue (call : SetCall kind α) (callbacks : Bool) :
    PropertyWrapper kind α × List (ListenerCall (kind.Variable α)) :=
  match call.any with
  | .null =>
    if kind.isSequence then (self.setVariable (PropertySet.clearSequence kind self.value), [])
    else self.setValueSuper call callbacks
  | _ => self.setValueSuper call callbacks

end PropertyWrapper

theorem callEach_eq_self_iff {Value : Type} {throws : Listener → Bool} (calls : List (ListenerCall Value)) :
    callEach throws calls = calls ↔ ∀ call ∈ calls.dropLast, throws call.listener = false := by
  induction calls with
  | nil => simp [callEach]
  | cons call rest ih =>
      rw [callEach]
      cases rest with
      | nil => simp [callEach]
      | cons next others =>
          rw [dropLast_cons_of_ne_nil (cons_ne_nil next others), forall_mem_cons]
          cases thrown : throws call.listener with
          | true => simp
          | false => simpa using ih

theorem callEach_sub {Value : Type} {throws : Listener → Bool} {calls : List (ListenerCall Value)}
    {called : ListenerCall Value} (member : called ∈ callEach throws calls) : called ∈ calls := by
  induction calls with
  | nil => exact member
  | cons first rest ih =>
      rw [callEach] at member
      split at member
      · rw [mem_singleton.mp member]
        exact mem_cons_self
      · rcases mem_cons.mp member with rfl | later
        · exact mem_cons_self
        · exact mem_cons_of_mem first (ih later)

namespace PropertyWrapper

variable {self : PropertyWrapper kind α} {call : SetCall kind α}
variable (oldValue newValue : Option (kind.Variable α))

theorem notifications_listeners :
    (self.notifications oldValue newValue).map ListenerCall.listener = self.listeners := by
  simp [notifications, listeners, Function.comp_def, ListenerCall.listener]

def Returns (self : PropertyWrapper kind α) (call : SetCall kind α) : Prop :=
  ∀ listener ∈ self.listeners.dropLast, call.listenerThrows listener = false

theorem callEach_notifications_iff :
    callEach call.listenerThrows (self.notifications oldValue newValue) =
      self.notifications oldValue newValue ↔ self.Returns call := by
  rw [callEach_eq_self_iff, Returns, ← notifications_listeners oldValue newValue, ← map_dropLast,
    forall_mem_map]

theorem notifications_complete (after : PropertyWrapper kind α) (sameNil : after.enableNil = self.enableNil) :
    ∀ called ∈ after.notifications self.toPointer after.toPointer, called.Complete := by
  intro called member
  rw [notifications, mem_append, mem_append] at member
  rcases member with (pointer | value) | void
  · obtain ⟨listener, -, rfl⟩ := mem_map.mp pointer
    trivial
  · obtain ⟨listener, registered, rfl⟩ := mem_map.mp value
    have disabled : after.enableNil = false := after.byValue_held (ne_nil_of_mem registered)
    simp [ListenerCall.Complete, toPointer, disabled, ← sameNil]
  · obtain ⟨listener, -, rfl⟩ := mem_map.mp void
    trivial

structure Keeps (before after : PropertyWrapper kind α) : Prop where
  enableNil : after.enableNil = before.enableNil
  pointerListeners : after.pointerListeners = before.pointerListeners
  valueListeners : after.valueListeners = before.valueListeners
  voidListeners : after.voidListeners = before.voidListeners

theorem Keeps.notifications {after : PropertyWrapper kind α} (keeps : self.Keeps after) :
    after.notifications = self.notifications := by
  funext oldValue newValue
  simp only [PropertyWrapper.notifications, keeps.pointerListeners, keeps.valueListeners, keeps.voidListeners]

theorem store_keeps (newValue : kind.Variable α) : self.Keeps (self.store call newValue).1 := by
  unfold store
  split <;> exact ⟨rfl, rfl, rfl, rfl⟩

theorem setNil_keeps (nil : Bool) : self.Keeps (self.setNil nil) := ⟨rfl, rfl, rfl, rfl⟩

theorem store_throws (newValue : kind.Variable α) :
    (self.store call newValue).2 = (self.configured && (call.configure newValue).throws) := by
  unfold store
  cases self.configured <;> rfl

theorem setVariable_toPointer (sequence : kind.isSequence = true) (newValue : kind.Variable α) :
    (self.setVariable newValue).toPointer = some newValue := by
  simp [setVariable, toPointer, self.sequence_held sequence]

theorem setNil_toPointer (plain : ¬kind.isSequence = true) :
    (self.setNil self.enableNil).toPointer =
      if self.enableNil then none else some self.value := by
  simp [setNil, toPointer, Bool.eq_false_iff.mpr plain]

variable [BEq α]

/-- Every listener is told of a change, with the old and the new value, and nobody of anything else. -/
def Told (self after : PropertyWrapper kind α) (calls : List (ListenerCall (kind.Variable α))) : Prop :=
  calls = (if equals self.toPointer after.toPointer then []
    else self.notifications self.toPointer after.toPointer) ∧ ∀ called ∈ calls, called.Complete

theorem told_nobody_iff {after : PropertyWrapper kind α} :
    self.Told after [] ↔ equals self.toPointer after.toPointer = true ∨ self.listeners = [] := by
  have silent : [] = self.notifications self.toPointer after.toPointer ↔ self.listeners = [] := by
    rw [← notifications_listeners self.toPointer after.toPointer, map_eq_nil_iff, eq_comm]
  rw [Told]
  cases same : equals self.toPointer after.toPointer with
  | true => simp
  | false => simpa using silent

theorem told_valueChanged_iff {after : PropertyWrapper kind α} (keeps : self.Keeps after) :
    self.Told after (self.valueChanged call true after) ↔
      (equals self.toPointer after.toPointer = false → self.Returns call) := by
  have complete := notifications_complete after keeps.enableNil
  rw [keeps.notifications] at complete
  rw [valueChanged, keeps.notifications, Told]
  cases same : equals self.toPointer after.toPointer with
  | true => simp
  | false =>
      have called : ∀ called ∈ callEach call.listenerThrows
          (self.notifications self.toPointer after.toPointer), called.Complete := fun called member =>
        complete called (callEach_sub member)
      simp only [Bool.not_false, Bool.and_true, if_true, Bool.false_eq_true, if_false,
        callEach_notifications_iff, forall_const]
      exact and_iff_left called

def Reports (self : PropertyWrapper kind α) (call : SetCall kind α) : Prop :=
  call.any ≠ .other → self.Told (self.setValue call true).1 (self.setValue call true).2

/-- What a call asks of the state it meets: nil finds a sequence empty; a custom configure function
that throws has left the value as it was; and where the value changes no listener but the last
throws. Without listeners the first two are not asked. -/
def Clear (self : PropertyWrapper kind α) (call : SetCall kind α) : Prop :=
  match call.any with
  | .other => True
  | .null =>
    if kind.isSequence then
      equals self.toPointer (some (PropertySet.clearSequence kind self.value)) = true ∨ self.listeners = []
    else
      equals self.toPointer (if self.enableNil then none else some self.value) = false → self.Returns call
  | .converts newValue =>
    let stored := (self.store call newValue).1
    if self.configured && (call.configure newValue).throws then
      equals self.toPointer stored.toPointer = true ∨ self.listeners = []
    else
      equals self.toPointer stored.toPointer = false → self.Returns call

theorem reports_iff (self : PropertyWrapper kind α) (call : SetCall kind α) :
    self.Reports call ↔ self.Clear call := by
  unfold Reports Clear setValue
  cases given : call.any with
  | other => simp
  | null =>
      rw [forall_prop_of_true (by simp)]
      simp only
      split
      · next sequence => rw [told_nobody_iff, setVariable_toPointer sequence]
      · next plain =>
          simp only [setValueSuper, given]
          rw [told_valueChanged_iff (setNil_keeps _), setNil_toPointer plain]
  | converts newValue =>
      rw [forall_prop_of_true (by simp)]
      simp only [setValueSuper, given, ← store_throws]
      split
      · exact told_nobody_iff
      · exact told_valueChanged_iff (store_keeps newValue)

def meets (self : PropertyWrapper kind α) :
    List (SetCall kind α) → List (PropertyWrapper kind α × SetCall kind α)
  | [] => []
  | call :: rest => (self, call) :: (self.setValue call true).1.meets rest

/-- Every call of a run reports its change, and no other, just when every call of it is clear. -/
theorem run_reports_iff (self : PropertyWrapper kind α) (calls : List (SetCall kind α)) :
    (∀ met ∈ self.meets calls, met.1.Reports met.2) ↔ ∀ met ∈ self.meets calls, met.1.Clear met.2 :=
  forall₂_congr fun met _ => reports_iff met.1 met.2

end PropertyWrapper

def heldSequence : PropertyWrapper .sequence Nat where
  value := [3]
  enableNil := false
  isNil := false
  configured := false
  pointerListeners := [0]
  valueListeners := []
  voidListeners := []
  byValue_held := by simp
  sequence_held := by simp

/-- Nil empties the sequence and its listener is not called. -/
theorem cleared_unreported :
    ¬∀ met ∈ heldSequence.meets [⟨.null, fun newValue => ⟨newValue, false, false⟩, fun _ => false⟩],
      met.1.Reports met.2 := by
  intro reports
  have told := (reports _ (mem_singleton.mpr rfl) (by simp)).1
  exact absurd told (cons_ne_nil _ _).symm

end Redhawk.Properties
