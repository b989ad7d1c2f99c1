import Mathlib.Data.List.Nodup

/-!
How `ProgramProfile` completes the struct values of a device manager's profile with empty sequences,
and how it looks for a struct value that is only partly set.
-/

namespace Redhawk.Nodes.PartialStructs

open List Function

/-- Properties or fields under their identifiers. -/
structure Keyed (Entry : Type) where
  ids : List String
  get : String → Entry
  distinct : ids.Nodup

variable {Entry Value : Type}

def Keyed.find (list : Keyed Entry) (id : String) : Option Entry :=
  if id ∈ list.ids then some (list.get id) else none

inductive FieldKind where
  | simple
  | sequence (type : String)
  deriving DecidableEq

abbrev Definition := Keyed FieldKind

inductive Property where
  | simple | simpleSequence
  | struct (fields : Definition)
  | structSequence (fields : Definition)

/-- No value of a field is a nil value. -/
abbrev Struct (Value : Type) := Keyed (Option Value)

/-- The values of properties; in a sequence, `none` is an element that is no struct. -/
inductive PropertyValue (Value : Type) where
  | struct (fields : Struct Value)
  | sequence (elements : List (Option (Struct Value)))
  | other (value : Option Value)

abbrev Properties (Value : Type) := List (String × PropertyValue Value)

def Keyed.isSequence (definition : Definition) (id : String) : Bool :=
  match definition.find id with
  | some (.sequence _) => true
  | _ => false

def Keyed.isSimple (definition : Definition) (id : String) : Bool := definition.find id = some .simple

/-- Some picked field of the struct is set, or nil. -/
def Keyed.has (struct : Struct Value) (set : Bool) (picks : String → Bool) : Bool :=
  struct.ids.any fun id => (struct.get id).isSome == set && picks id

section Fill

-- `strings_to_any` of no strings, for the type of the elements
variable (emptySequence : String → Value)

/-- The second pass over the fields. `none` is the call through the null pointer that the cast of a
simple property to a sequence property gives. -/
def fillFields (definition : Definition) :
    List String → (String → Option Value) → Option (String → Option Value)
  | [], fields => some fields
  | id :: rest, fields =>
      match fields id, definition.find id with
      | none, some .simple => none
      | none, some (.sequence type) => fillFields definition rest (update fields id (some (emptySequence type)))
      | _, _ => fillFields definition rest fields

def fillStruct (definition : Definition) (structProps : Struct Value) : Option (Struct Value) :=
  let nilSeq := structProps.has false definition.isSequence
  let nonNilVal := structProps.has true definition.isSimple
  if nilSeq && nonNilVal then
    (fillFields emptySequence definition structProps.ids structProps.get).map fun get =>
      { structProps with get := get }
  else some structProps

def fillProperty (prf : Keyed Property) (property : String × PropertyValue Value) :
    Option (String × PropertyValue Value) :=
  match prf.find property.1, property.2 with
  | some (.struct definition), .struct fields =>
      (fillStruct emptySequence definition fields).map fun filled => (property.1, .struct filled)
  | _, _ => some property

def fillSeqForStructProperty (prf : Keyed Property) (props : Properties Value) : Option (Properties Value) :=
  props.mapM (fillProperty emptySequence prf)

end Fill

/-- `foundSeq`: a sequence in any struct property of the profile. -/
def foundSeq (prf : Keyed Property) (id : String) : Bool :=
  prf.ids.any fun property =>
    match prf.get property with
    | .struct definition => definition.isSequence id
    | _ => false

/-- The loop of `checkStruct`; the state is 1 behind a set field and -1 behind a nil one. -/
def checkFields (prf : Keyed Property) (fields : String → Option Value) : Int → List String → Bool
  | _, [] => false
  | state, id :: rest =>
      if (fields id).isNone then
        if foundSeq prf id then checkFields prf fields state rest
        else if state = 0 then checkFields prf fields (-1) rest
        else if state = 1 then true
        else checkFields prf fields state rest
      else if state = 0 then checkFields prf fields 1 rest
      else if state = -1 then true
      else checkFields prf fields state rest

def checkStruct (prf : Keyed Property) (struct : Struct Value) : Bool :=
  checkFields prf struct.get 0 struct.ids

/-- The structs of a property, each with its definition. -/
def structsOf (prf : Keyed Property) (property : String × PropertyValue Value) :
    List (Definition × Struct Value) :=
  match prf.find property.1, property.2 with
  | some (.struct definition), .struct fields => [(definition, fields)]
  | some (.structSequence definition), .sequence elements => (elements.filterMap id).map (definition, ·)
  | _, _ => []

/-- No struct is the empty list. -/
def iteratePartialStruct (prf : Keyed Property) (props : Properties Value) : Option (Struct Value) :=
  ((props.flatMap (structsOf prf)).find? fun entry => checkStruct prf entry.2).map Prod.snd

section Specification

variable (emptySequence : String → Value) (definition : Definition) (prf : Keyed Property)

def filled (value : Option Value) : Option FieldKind → Option Value
  | some (.sequence type) => some (value.getD (emptySequence type))
  | _ => value

/-- The nil sequences of a struct with a set simple field are made empty. -/
def completed (struct : Struct Value) : Struct Value :=
  if struct.has true definition.isSimple then
    { struct with get := fun id =>
        if id ∈ struct.ids then filled emptySequence (struct.get id) (definition.find id) else struct.get id }
  else struct

def completedProperty (property : String × PropertyValue Value) : String × PropertyValue Value :=
  match prf.find property.1, property.2 with
  | some (.struct definition), .struct fields => (property.1, .struct (completed emptySequence definition fields))
  | _, _ => property

/-- A set simple field and a nil sequence start the completion, and a nil simple field stops it. -/
def Crashes (property : String × PropertyValue Value) : Prop :=
  match prf.find property.1, property.2 with
  | some (.struct definition), .struct fields => fields.has false definition.isSequence ∧
      fields.has true definition.isSimple ∧ fields.has false definition.isSimple
  | _, _ => False

def isPartial (entry : Definition × Struct Value) : Bool :=
  entry.2.has false entry.1.isSimple && entry.2.has true fun _ => true

/-- A nil field of a partial struct may be one that no struct property has as a sequence. -/
def suspect (entry : Definition × Struct Value) : Bool :=
  entry.2.has false (fun id => !foundSeq prf id) && entry.2.has true fun _ => true

structure Detects (props : Properties Value) : Prop where
  found : (iteratePartialStruct prf props).isSome ↔ ∃ entry ∈ props.flatMap (structsOf prf), isPartial entry
  told : ∀ struct ∈ iteratePartialStruct prf props,
    ∃ entry ∈ props.flatMap (structsOf prf), entry.2 = struct ∧ isPartial entry

/-- The first suspect struct is partial, and without one there is none that is. -/
def Told (props : Properties Value) : Prop :=
  match (props.flatMap (structsOf prf)).find? (suspect prf) with
  | some first => ∃ entry ∈ props.flatMap (structsOf prf), entry.2 = first.2 ∧ isPartial entry
  | none => ∀ entry ∈ props.flatMap (structsOf prf), ¬isPartial entry

end Specification

section Proofs

variable {emptySequence : String → Value} {definition : Definition} {prf : Keyed Property}

theorem fillFields_cons (id : String) (rest : List String) (fields : String → Option Value) :
    fillFields emptySequence definition (id :: rest) fields =
      if (fields id).isSome == false && definition.isSimple id then none
      else fillFields emptySequence definition rest
        (update fields id (filled emptySequence (fields id) (definition.find id))) := by
  rw [fillFields, Keyed.isSimple]
  have kept (value) (same : fields id = value) : update fields id value = fields := by rw [← same, update_eq_self]
  generalize definition.find id = kind
  cases value : fields id <;> rcases kind with _ | _ | type <;> simp [filled, kept _ value]

theorem filled_filled (value : Option Value) (kind : Option FieldKind) :
    filled emptySequence (filled emptySequence value kind) kind = filled emptySequence value kind := by
  rcases kind with _ | _ | type <;> rfl

theorem fillFields_eq (ids : List String) (fields : String → Option Value) :
    fillFields emptySequence definition ids fields =
      if ids.any (fun id => (fields id).isSome == false && definition.isSimple id) then none
      else some fun id =>
        if id ∈ ids then filled emptySequence (fields id) (definition.find id) else fields id := by
  induction ids generalizing fields with
  | nil => simp [fillFields]
  | cons id rest ih =>
      rw [fillFields_cons, ih, any_cons]
      cases stops : (fields id).isSome == false && definition.isSimple id with
      | true => rfl
      | false =>
          have same (later : String) :
              ((update fields id (filled emptySequence (fields id) (definition.find id)) later).isSome == false &&
                definition.isSimple later) = ((fields later).isSome == false && definition.isSimple later) := by
            by_cases here : later = id <;> grind [Keyed.isSimple, filled, update_self, update_of_ne]
          simp only [same, Bool.false_or, Bool.false_eq_true, if_false]
          congr 2
          funext later
          by_cases here : later = id <;> grind [filled_filled, update_self, update_of_ne]

theorem checkFields_iff (fields : String → Option Value) (ids : List String) :
    (checkFields prf fields 1 ids = ids.any fun id => (fields id).isSome == false && !foundSeq prf id) ∧
    (checkFields prf fields (-1) ids = ids.any fun id => (fields id).isSome == true && true) ∧
    (checkFields prf fields 0 ids =
      (ids.any (fun id => (fields id).isSome == false && !foundSeq prf id) &&
        ids.any fun id => (fields id).isSome == true && true)) := by
  induction ids with
  | nil => simp [checkFields]
  | cons id rest ih =>
      obtain ⟨set, nil, start⟩ := ih
      simp only [checkFields, any_cons]
      cases fields id with
      | none => by_cases sequence : foundSeq prf id <;> simp_all
      | some value => simp_all

theorem checkStruct_eq (entry : Definition × Struct Value) : checkStruct prf entry.2 = suspect prf entry :=
  (checkFields_iff entry.2.get entry.2.ids).2.2

theorem fillStruct_eq (struct : Struct Value) : fillStruct emptySequence definition struct =
    if struct.has false definition.isSequence ∧ struct.has true definition.isSimple ∧
      struct.has false definition.isSimple then none
    else some (completed emptySequence definition struct) := by
  unfold fillStruct completed
  cases active : struct.has true definition.isSimple with
  | false => simp
  | true =>
      cases needed : struct.has false definition.isSequence with
      | true =>
          rw [fillFields_eq, ← Keyed.has]
          cases stops : struct.has false definition.isSimple <;> simp
      | false =>
          -- the completion has nothing to do
          have unneeded (id) (listed : id ∈ struct.ids) :
              filled emptySequence (struct.get id) (definition.find id) = struct.get id := by
            have other := any_eq_false.mp needed id listed
            cases value : struct.get id <;> grind [Keyed.isSequence, filled]
          simp +contextual [unneeded]

theorem fillProperty_iff (property : String × PropertyValue Value) :
    fillProperty emptySequence prf property = some (completedProperty emptySequence prf property) ↔
      ¬Crashes prf property := by
  unfold fillProperty completedProperty Crashes
  split
  · rw [fillStruct_eq]
    split <;> simp_all
  · simp

theorem fill_iff (props : Properties Value) :
    fillSeqForStructProperty emptySequence prf props = some (props.map (completedProperty emptySequence prf)) ↔
      ∀ property ∈ props, ¬Crashes prf property := by
  unfold fillSeqForStructProperty
  induction props with
  | nil => simp
  | cons property rest ih =>
      rw [forall_mem_cons, ← ih, ← @fillProperty_iff _ emptySequence, mapM_cons, map_cons]
      cases fillProperty emptySequence prf property with
      | none => simp
      | some filled => cases rest.mapM (fillProperty emptySequence prf) <;> simp

theorem detects_iff (props : Properties Value) : Detects prf props ↔ Told prf props := by
  have result : iteratePartialStruct prf props =
      ((props.flatMap (structsOf prf)).find? (suspect prf)).map Prod.snd := by
    simp only [iteratePartialStruct, checkStruct_eq]
  unfold Told
  cases first : (props.flatMap (structsOf prf)).find? (suspect prf) with
  | none =>
      rw [first] at result
      exact ⟨fun detects entry member isPartial => by simpa [result] using detects.found.mpr ⟨entry, member, isPartial⟩,
        fun none => ⟨by simpa [result] using none, by simp [result]⟩⟩
  | some first' =>
      rw [first] at result
      rw [Option.map_some] at result
      refine ⟨fun detects => detects.told _ result, fun ⟨entry, member, same, isPartial⟩ => ⟨?_, ?_⟩⟩
      · exact iff_of_true (by simp [result]) ⟨entry, member, isPartial⟩
      · intro struct listed
        exact ⟨entry, member, same.trans (Option.some.inj (result.symm.trans listed)), isPartial⟩

end Proofs

def sample : Definition := ⟨["a", "b", "c"], fun id => if id = "c" then .sequence "long" else .simple, by decide⟩

def onlyFirst (ids : List String) (distinct : ids.Nodup) : Struct Unit :=
  ⟨ids, fun id => if id = "a" then some () else none, distinct⟩

end Redhawk.Nodes.PartialStructs
