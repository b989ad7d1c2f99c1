import Redhawk.Properties.ChangeMonitor

/-!
How `registerPropertyListener` and `unregisterPropertyListener` of `PropertySet_impl` hang callbacks
on the properties: a registration makes a callback for every property it covers, adds it to the
change listeners of that property and keeps it in the registry.
-/

namespace Redhawk.Properties

open List

variable {PropId : Type} [DecidableEq PropId]

abbrev CallbackRef := Nat

abbrev CallbackTable (PropId : Type) := List (PropId × CallbackRef)

def CallbackTable.insert (props : CallbackTable PropId) (id : PropId) (callback : CallbackRef) :
    CallbackTable PropId :=
  if id ∈ props.map Prod.fst then props else props ++ [(id, callback)]

def PropertyTable.listens (table : PropertyTable PropId) (id : PropId) : Bool :=
  id ∈ table.propTable && table.isQueryable id

/-- The loop over the requested ids. `count` is the number of invalid ids before the last one was
added. -/
def requestedCallbacks (table : PropertyTable PropId) :
    List PropId → CallbackRef → CallbackTable PropId → List PropId → Nat →
      CallbackTable PropId × List PropId × Nat
  | [], _, props, invalidProperties, count => (props, invalidProperties, count)
  | id :: rest, callback, props, invalidProperties, count =>
    if table.listens id then
      requestedCallbacks table rest (callback + 1) (props.insert id callback) invalidProperties count
    else
      requestedCallbacks table rest (callback + 1) props (invalidProperties ++ [id])
        invalidProperties.length

def queryableCallbacks (table : PropertyTable PropId) :
    List PropId → CallbackRef → CallbackTable PropId → CallbackTable PropId
  | [], _, props => props
  | id :: rest, callback, props =>
    queryableCallbacks table rest (callback + 1)
      (if table.isQueryable id then props.insert id callback else props)

def listenedCallbacks (table : PropertyTable PropId) (propIds : List PropId) (callback : CallbackRef) :
    CallbackTable PropId × List PropId × Nat :=
  if propIds.length = 0 then (queryableCallbacks table table.propTable callback [], [], 0)
  else requestedCallbacks table propIds callback [] [] 0

def callbacksMade (table : PropertyTable PropId) (propIds : List PropId) : Nat :=
  if propIds.length = 0 then table.propTable.length else propIds.length

def addChangeListeners (table : PropertyTable PropId) :
    CallbackTable PropId → (PropId → List CallbackRef) → PropId → List CallbackRef
  | [], voidListeners => voidListeners
  | (id, callback) :: rest, voidListeners =>
    addChangeListeners table rest
      (if id ∈ table.propTable then
        Function.update voidListeners id (voidListeners id ++ [callback])
      else voidListeners)

def removeChangeListeners (table : PropertyTable PropId) :
    CallbackTable PropId → (PropId → List CallbackRef) → PropId → List CallbackRef
  | [], voidListeners => voidListeners
  | (id, callback) :: rest, voidListeners =>
    removeChangeListeners table rest
      (if id ∈ table.propTable then
        Function.update voidListeners id ((voidListeners id).filter (· ≠ callback))
      else voidListeners)

structure WiredRec (PropId : Type) where
  regId : Nat
  listener : ListenerReference
  reportInterval : Int
  expiration : Int
  props : CallbackTable PropId

def insertWired (record : WiredRec PropId) (registry : List (WiredRec PropId)) : List (WiredRec PropId) :=
  if record.regId ∈ registry.map (·.regId) then registry
  else registry.orderedInsert (fun left right => left.regId ≤ right.regId) record

/-! The callbacks of a request. -/

variable {props : CallbackTable PropId} {id : PropId} {callback : CallbackRef}

theorem CallbackTable.mem_insert {entry : PropId × CallbackRef} (member : entry ∈ props.insert id callback) :
    entry ∈ props ∨ entry = (id, callback) := by
  unfold insert at member
  split at member
  · exact .inl member
  · exact (mem_append.mp member).imp_right mem_singleton.mp

variable {table : PropertyTable PropId}

theorem requestedCallbacks_new {low : CallbackRef} :
    ∀ (ids : List PropId) (callback : CallbackRef) (props : CallbackTable PropId)
      (invalidProperties : List PropId) (count : Nat), low ≤ callback →
      (∀ entry ∈ props, low ≤ entry.2 ∧ entry.2 < callback) →
      ∀ entry ∈ (requestedCallbacks table ids callback props invalidProperties count).1,
        low ≤ entry.2 ∧ entry.2 < callback + ids.length
  | [], _, _, _, _, _, new => new
  | id :: rest, callback, props, invalidProperties, count, from_low, new => by
      intro entry member
      have later : ∀ entry ∈ props, low ≤ entry.2 ∧ entry.2 < callback + 1 := fun entry held =>
        ⟨(new entry held).1, Nat.lt_succ_of_lt (new entry held).2⟩
      rw [length_cons, Nat.add_comm rest.length 1, ← Nat.add_assoc]
      rw [requestedCallbacks] at member
      split at member
      · refine requestedCallbacks_new rest _ _ _ _ (Nat.le_succ_of_le from_low) ?_ entry member
        intro entry held
        rcases CallbackTable.mem_insert held with old | rfl
        · exact later entry old
        · exact ⟨from_low, Nat.lt_succ_self callback⟩
      · exact requestedCallbacks_new rest _ _ _ _ (Nat.le_succ_of_le from_low) later entry member

theorem queryableCallbacks_new {low : CallbackRef} :
    ∀ (ids : List PropId) (callback : CallbackRef) (props : CallbackTable PropId), low ≤ callback →
      (∀ entry ∈ props, low ≤ entry.2 ∧ entry.2 < callback) →
      ∀ entry ∈ queryableCallbacks table ids callback props, low ≤ entry.2 ∧ entry.2 < callback + ids.length
  | [], _, _, _, new => new
  | id :: rest, callback, props, from_low, new => by
      intro entry member
      rw [length_cons, Nat.add_comm rest.length 1, ← Nat.add_assoc]
      refine queryableCallbacks_new rest _ _ (Nat.le_succ_of_le from_low) ?_ entry member
      intro entry held
      split at held
      · rcases CallbackTable.mem_insert held with old | rfl
        · exact ⟨(new entry old).1, Nat.lt_succ_of_lt (new entry old).2⟩
        · exact ⟨from_low, Nat.lt_succ_self callback⟩
      · exact ⟨(new entry held).1, Nat.lt_succ_of_lt (new entry held).2⟩

theorem listenedCallbacks_new (table : PropertyTable PropId) (propIds : List PropId) (callback : CallbackRef) :
    ∀ entry ∈ (listenedCallbacks table propIds callback).1,
      callback ≤ entry.2 ∧ entry.2 < callback + callbacksMade table propIds := by
  unfold listenedCallbacks callbacksMade
  split
  · exact queryableCallbacks_new _ _ _ (Nat.le_refl _) (by simp)
  · exact requestedCallbacks_new _ _ _ _ _ (Nat.le_refl _) (by simp)

theorem requestedCallbacks_invalid :
    ∀ (ids : List PropId) (callback : CallbackRef) (props : CallbackTable PropId)
      (invalidProperties : List PropId),
      (requestedCallbacks table ids callback props invalidProperties (invalidProperties.length - 1)).2 =
        (invalidProperties ++ ids.filter fun id => !table.listens id,
          (invalidProperties ++ ids.filter fun id => !table.listens id).length - 1)
  | [], _, _, invalidProperties => by simp [requestedCallbacks]
  | id :: rest, callback, props, invalidProperties => by
      rw [requestedCallbacks]
      cases listened : table.listens id with
      | true =>
          rw [if_pos rfl, requestedCallbacks_invalid rest, filter_cons, listened]
          rfl
      | false =>
          have counted : invalidProperties.length = (invalidProperties ++ [id]).length - 1 := by simp
          rw [if_neg Bool.false_ne_true, counted, requestedCallbacks_invalid rest, filter_cons, listened]
          simp

theorem listenedCallbacks_invalid (table : PropertyTable PropId) (propIds : List PropId)
    (callback : CallbackRef) :
    (listenedCallbacks table propIds callback).2 =
      (propIds.filter fun id => !table.listens id, (propIds.filter fun id => !table.listens id).length - 1) := by
  unfold listenedCallbacks
  split
  · next none =>
      rw [length_eq_zero_iff.mp none]
      rfl
  · exact requestedCallbacks_invalid propIds callback [] []

/-! The change listeners of the properties. -/

def callbacksOf (props : CallbackTable PropId) (id : PropId) : List CallbackRef :=
  (props.filter fun entry => entry.1 = id).map Prod.snd

theorem mem_callbacksOf : callback ∈ callbacksOf props id ↔ (id, callback) ∈ props := by
  simp [callbacksOf]

section

variable (props : CallbackTable PropId) (voidListeners : PropId → List CallbackRef) (id : PropId)

theorem addChangeListeners_apply :
    addChangeListeners table props voidListeners id =
      if id ∈ table.propTable then voidListeners id ++ callbacksOf props id else voidListeners id := by
  induction props generalizing voidListeners with
  | nil => simp [addChangeListeners, callbacksOf]
  | cons entry rest ih =>
      obtain ⟨key, callback⟩ := entry
      rw [addChangeListeners, ih]
      by_cases same : id = key
      · subst same
        by_cases known : id ∈ table.propTable
        · simp [known, callbacksOf]
        · simp [known]
      · have other : ¬key = id := fun eq => same eq.symm
        by_cases known : key ∈ table.propTable
        · simp [known, same, other, callbacksOf]
        · simp [known, other, callbacksOf]

theorem removeChangeListeners_apply :
    removeChangeListeners table props voidListeners id =
      if id ∈ table.propTable then
        (voidListeners id).filter fun callback => callback ∉ callbacksOf props id
      else voidListeners id := by
  induction props generalizing voidListeners with
  | nil => simp [removeChangeListeners, callbacksOf]
  | cons entry rest ih =>
      obtain ⟨key, callback⟩ := entry
      rw [removeChangeListeners, ih]
      by_cases same : id = key
      · subst same
        by_cases known : id ∈ table.propTable
        · simp [known, callbacksOf, filter_filter, Bool.and_comm]
        · simp [known]
      · have other : ¬key = id := fun eq => same eq.symm
        by_cases known : key ∈ table.propTable
        · simp [known, same, other, callbacksOf]
        · simp [known, other, callbacksOf]

end

variable {voidListeners : PropId → List CallbackRef}

theorem removeChangeListeners_add (new : ∀ id, ∀ callback ∈ voidListeners id, (id, callback) ∉ props) :
    removeChangeListeners table props (addChangeListeners table props voidListeners) = voidListeners := by
  funext id
  rw [removeChangeListeners_apply, addChangeListeners_apply]
  by_cases known : id ∈ table.propTable
  · have kept : (voidListeners id).filter (fun callback => callback ∉ callbacksOf props id) =
        voidListeners id := by
      refine filter_eq_self.mpr fun callback held => ?_
      rw [decide_eq_true_eq, mem_callbacksOf]
      exact new id callback held
    have dropped : (callbacksOf props id).filter (fun callback => callback ∉ callbacksOf props id) = [] := by
      refine filter_eq_nil_iff.mpr fun callback made => ?_
      simpa using made
    rw [if_pos known, if_pos known, filter_append, kept, dropped, append_nil]
  · rw [if_neg known, if_neg known]

structure ListenerBooks (PropId : Type) where
  voidListeners : PropId → List CallbackRef
  propChangeRegistry : List (WiredRec PropId)
  threadRunning : Bool
  nextCallback : CallbackRef
  callbacks_made : ∀ id, ∀ callback ∈ voidListeners id, callback < nextCallback

abbrev ListenerBooks.NewId (books : ListenerBooks PropId) :=
  { regId : Nat // ∀ held ∈ books.propChangeRegistry, held.regId ≠ regId }

omit [DecidableEq PropId] in
theorem insertWired_spec {record : WiredRec PropId} {registry : List (WiredRec PropId)}
    (new : ∀ held ∈ registry, held.regId ≠ record.regId) :
    (insertWired record registry).find? (fun held => held.regId = record.regId) = some record ∧
      (insertWired record registry).filter (fun held => held.regId ≠ record.regId) = registry := by
  have absent : record.regId ∉ registry.map (·.regId) := by simpa using new
  rw [insertWired, if_neg absent]
  clear absent
  induction registry with
  | nil => simp
  | cons held rest ih =>
      have here := new held (by simp)
      have others := ih fun later inside => new later (mem_cons_of_mem held inside)
      have kept : rest.filter (fun held => held.regId ≠ record.regId) = rest :=
        filter_eq_self.mpr fun later inside => by simpa using new later (by simp [inside])
      rw [orderedInsert_cons]
      by_cases before : record.regId ≤ held.regId
      · rw [if_pos before]
        simp only [find?_cons, filter_cons, here, kept, decide_true, ne_eq,
          not_true_eq_false, not_false_eq_true, decide_false, if_true, Bool.false_eq_true, if_false,
          and_self]
      · rw [if_neg before, find?_cons, filter_cons]
        simpa [here] using others

theorem addChangeListeners_made {next made : CallbackRef}
    (held : ∀ id, ∀ callback ∈ voidListeners id, callback < next) (grows : next ≤ made)
    (new : ∀ entry ∈ props, entry.2 < made) :
    ∀ id, ∀ callback ∈ addChangeListeners table props voidListeners id, callback < made := by
  intro id callback member
  rw [addChangeListeners_apply] at member
  split at member
  · rcases mem_append.mp member with old | added
    · exact Nat.lt_of_lt_of_le (held id callback old) grows
    · exact new (id, callback) (mem_callbacksOf.mp added)
  · exact Nat.lt_of_lt_of_le (held id callback member) grows

theorem removeChangeListeners_sub (member : callback ∈ removeChangeListeners table props voidListeners id) :
    callback ∈ voidListeners id := by
  rw [removeChangeListeners_apply] at member
  split at member
  · exact mem_of_mem_filter member
  · exact member

namespace ListenerBooks

def wasted (books : ListenerBooks PropId) (callbacks : Nat) : ListenerBooks PropId :=
  { books with
    nextCallback := books.nextCallback + callbacks
    callbacks_made := fun id callback held =>
      Nat.lt_of_lt_of_le (books.callbacks_made id callback held) (Nat.le_add_right _ _) }

def register (books : ListenerBooks PropId) (table : PropertyTable PropId) (record : WiredRec PropId)
    (made : Nat) (new : ∀ entry ∈ record.props, entry.2 < books.nextCallback + made) :
    ListenerBooks PropId where
  voidListeners := addChangeListeners table record.props books.voidListeners
  propChangeRegistry := insertWired record books.propChangeRegistry
  threadRunning := true
  nextCallback := books.nextCallback + made
  callbacks_made := addChangeListeners_made books.callbacks_made (Nat.le_add_right _ _) new

/-- `interval` is in microseconds, `uuid` the id that is generated and `clock` the time that is read. -/
def registerPropertyListener (books : ListenerBooks PropId) (table : PropertyTable PropId)
    (listener : ListenerReference) (propIds : List PropId) (interval : Int) (uuid : books.NewId)
    (clock : Int) : ListenerBooks PropId × Except (PropertySetError PropId) Nat :=
  let listened := listenedCallbacks table propIds books.nextCallback
  if listened.2.2 > 0 then
    (books.wasted (callbacksMade table propIds), .error (.unknownProperties listened.2.1))
  else if listener = .neither then
    (books.wasted (callbacksMade table propIds), .error .invalidObjectReference)
  else
    let record : WiredRec PropId :=
      { regId := uuid.1, listener := listener, reportInterval := interval,
        expiration := clock + interval, props := listened.1 }
    (books.register table record (callbacksMade table propIds) fun entry member =>
      (listenedCallbacks_new table propIds books.nextCallback entry member).2, .ok uuid.1)

def unregisterPropertyListener (books : ListenerBooks PropId) (table : PropertyTable PropId)
    (regId : Nat) : ListenerBooks PropId × Except (PropertySetError PropId) Unit :=
  match books.propChangeRegistry.find? fun record => record.regId = regId with
  | none => (books, .error .invalidIdentifier)
  | some record =>
    let rest := books.propChangeRegistry.filter fun record => record.regId ≠ regId
    ({ books with
        voidListeners := removeChangeListeners table record.props books.voidListeners
        propChangeRegistry := rest
        threadRunning := if rest.length = 0 then false else books.threadRunning
        callbacks_made := fun id callback held =>
          books.callbacks_made id callback (removeChangeListeners_sub held) }, .ok ())

structure SameListeners (left right : ListenerBooks PropId) : Prop where
  voidListeners : left.voidListeners = right.voidListeners
  propChangeRegistry : left.propChangeRegistry = right.propChangeRegistry

end ListenerBooks

/-- The list is checked: the call fails with `UnknownProperties` just when an id is unknown or not
queryable, names those ids and leaves no listener behind; else the listeners are as before once the
identifier that is returned has been unregistered. -/
structure RegistrationChecked (table : PropertyTable PropId) (books : ListenerBooks PropId)
    (listener : ListenerReference) (propIds : List PropId) (interval : Int) (uuid : books.NewId)
    (clock : Int) : Prop where
  raised_iff : (∃ invalid, (books.registerPropertyListener table listener propIds interval uuid clock).2 =
      .error (.unknownProperties invalid)) ↔ ∃ id ∈ propIds, table.listens id = false
  named : ∀ invalid, (books.registerPropertyListener table listener propIds interval uuid clock).2 =
      .error (.unknownProperties invalid) → invalid = propIds.filter fun id => !table.listens id
  kept : ∀ invalid, (books.registerPropertyListener table listener propIds interval uuid clock).2 =
      .error (.unknownProperties invalid) →
        (books.registerPropertyListener table listener propIds interval uuid clock).1.SameListeners books
  restored : ∀ regId,
    (books.registerPropertyListener table listener propIds interval uuid clock).2 = .ok regId →
      ((books.registerPropertyListener table listener propIds interval uuid clock).1
        |>.unregisterPropertyListener table regId).2 = .ok () ∧
      ((books.registerPropertyListener table listener propIds interval uuid clock).1
        |>.unregisterPropertyListener table regId).1.SameListeners books

section Registering

variable {table : PropertyTable PropId} {books : ListenerBooks PropId} {propIds : List PropId}

open ListenerBooks

theorem registerPropertyListener_cases (table : PropertyTable PropId) (books : ListenerBooks PropId)
    (listener : ListenerReference) (propIds : List PropId) (interval : Int) (uuid : books.NewId)
    (clock : Int) :
    (1 < (propIds.filter fun id => !table.listens id).length ∧
      books.registerPropertyListener table listener propIds interval uuid clock =
        (books.wasted (callbacksMade table propIds),
          .error (.unknownProperties (propIds.filter fun id => !table.listens id)))) ∨
    ((propIds.filter fun id => !table.listens id).length ≤ 1 ∧
      (books.registerPropertyListener table listener propIds interval uuid clock =
        (books.wasted (callbacksMade table propIds), .error .invalidObjectReference) ∨
      ∃ record made new, (∀ held ∈ books.propChangeRegistry, held.regId ≠ record.regId) ∧
        (∀ entry ∈ record.props, books.nextCallback ≤ entry.2) ∧
        books.registerPropertyListener table listener propIds interval uuid clock =
          (books.register table record made new, .ok record.regId))) := by
  unfold registerPropertyListener
  simp only [listenedCallbacks_invalid]
  by_cases several : 1 < (propIds.filter fun id => !table.listens id).length
  · exact .inl ⟨several, if_pos (by omega)⟩
  · rw [if_neg (by omega)]
    refine .inr ⟨by omega, ?_⟩
    by_cases neither : listener = .neither
    · exact .inl (if_pos neither)
    · rw [if_neg neither]
      have new := listenedCallbacks_new table propIds books.nextCallback
      exact .inr ⟨_, _, fun entry member => (new entry member).2, uuid.2,
        fun entry member => (new entry member).1, rfl⟩

theorem unregister_register {record : WiredRec PropId} {made : Nat}
    (new : ∀ entry ∈ record.props, entry.2 < books.nextCallback + made)
    (unlike : ∀ held ∈ books.propChangeRegistry, held.regId ≠ record.regId)
    (fresh : ∀ entry ∈ record.props, books.nextCallback ≤ entry.2) :
    ((books.register table record made new).unregisterPropertyListener table record.regId).2 = .ok () ∧
      ((books.register table record made new).unregisterPropertyListener table
        record.regId).1.SameListeners books := by
  have found : (books.register table record made new).propChangeRegistry.find?
      (fun held => held.regId = record.regId) = some record := (insertWired_spec unlike).1
  have unheld : ∀ id, ∀ callback ∈ books.voidListeners id, (id, callback) ∉ record.props := by
    intro id callback held member
    exact Nat.not_lt.mpr (fresh (id, callback) member) (books.callbacks_made id callback held)
  rw [unregisterPropertyListener, found]
  exact ⟨rfl, removeChangeListeners_add unheld, (insertWired_spec unlike).2⟩

theorem exists_unlistened_iff :
    (∃ id ∈ propIds, table.listens id = false) ↔ 0 < (propIds.filter fun id => !table.listens id).length := by
  simp

end Registering

/-- The check goes wrong just for lists with a single id that is unknown or not queryable. -/
theorem registration_checked_iff (table : PropertyTable PropId) (books : ListenerBooks PropId)
    (listener : ListenerReference) (propIds : List PropId) (interval : Int) (uuid : books.NewId)
    (clock : Int) :
    RegistrationChecked table books listener propIds interval uuid clock ↔
      (propIds.filter fun id => !table.listens id).length ≠ 1 := by
  rcases registerPropertyListener_cases table books listener propIds interval uuid clock with
    ⟨several, raised⟩ | ⟨few, ended⟩
  · refine iff_of_true ⟨?_, ?_, ?_, ?_⟩ (by omega)
    · rw [raised, exists_unlistened_iff]
      exact iff_of_true ⟨_, rfl⟩ (by omega)
    · intro invalid same
      rw [raised] at same
      cases same
      rfl
    · intro invalid _
      rw [raised]
      exact ⟨rfl, rfl⟩
    · intro regId same
      rw [raised] at same
      cases same
  · have quiet : ∀ invalid,
        (books.registerPropertyListener table listener propIds interval uuid clock).2 ≠
          .error (.unknownProperties invalid) := by
      intro invalid same
      rcases ended with refused | ⟨record, made, new, -, -, registered⟩
      · rw [refused] at same
        cases same
      · rw [registered] at same
        cases same
    constructor
    · intro checked single
      obtain ⟨invalid, same⟩ := checked.raised_iff.mpr (exists_unlistened_iff.mpr (by omega))
      exact quiet invalid same
    · intro several
      refine ⟨?_, fun invalid same => absurd same (quiet invalid),
        fun invalid same => absurd same (quiet invalid), ?_⟩
      · rw [exists_unlistened_iff]
        exact iff_of_false (fun ⟨invalid, same⟩ => quiet invalid same) (by omega)
      · intro regId same
        rcases ended with refused | ⟨record, made, new, unlike, fresh, registered⟩
        · rw [refused] at same
          cases same
        · rw [registered] at same ⊢
          cases same
          exact unregister_register new unlike fresh

def pairTable : PropertyTable Nat where
  propTable := [0, 1]
  kind := fun _ => .simple
  isQueryable := fun id => id = 0
  isConfigurable := fun _ => true
  enableNil := fun _ => false

def unlistened : ListenerBooks Nat where
  voidListeners := fun _ => []
  propChangeRegistry := []
  threadRunning := false
  nextCallback := 0
  callbacks_made := by simp

/-- A list with one unknown id is accepted, and its known id is listened to. -/
theorem single_unknown_accepted :
    ¬RegistrationChecked pairTable unlistened .eventChannel [0, 2] 1000 ⟨7, by simp [unlistened]⟩ 0 := by
  intro checked
  obtain ⟨invalid, raised⟩ := checked.raised_iff.mpr ⟨2, by simp, by decide⟩
  cases raised

end Redhawk.Properties
