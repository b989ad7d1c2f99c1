import Redhawk.Capacity.AllOrNothing
import Redhawk.Capacity.CapacityBounds

/-!
What a deallocation that raises leaves of a device: the legacy loop, which applies the entries before
it has looked at all of them, and the loop over callbacks.
-/

namespace Redhawk.Capacity

open PropertyMap List

def RejectedKeeps (device : Device) (rejected : Prop) (after : Device) : Prop :=
  rejected → after.propTable = device.propTable ∧ after.usageState = device.usageState

def Reply.Rejected (reply : Reply) : Prop := ∃ exception, reply = .raised exception

def restored (id : String) (stored : Properties) (value : Any) : Any :=
  stored.foldl (fun value request => if request.id = id then deallocate value request.value else value)
    value

def restoredTable (propTable : PropertyMap) (stored : Properties) : PropertyMap where
  entries := propTable.entries.map fun property =>
    { property with value := restored property.id stored property.value }
  unique := by
    have ids : (propTable.entries.map fun property =>
        { property with value := restored property.id stored property.value }).map Property.id =
          propTable.entries.map Property.id := by
      simp [Function.comp_def]
    rw [ids]
    exact propTable.unique

def rightType (device : Device) (request : DataType) : Bool :=
  (getPropertyFromId device.propTable request.id).all fun property =>
    isValidType property.value request.value

def exceeds (device : Device) (stored : Properties) (request : DataType) : Bool :=
  (getPropertyFromId device.propTable request.id).any fun property =>
    device.originalCap.any fun original => original.id == request.id &&
      compareAnys (deallocate (restored request.id stored property.value) request.value)
        original.value == .FIRST_BIGGER

/-- The requests that stay within the original capacities, each with its place in the list. -/
def within (device : Device) (outcome : Nat → SetOutcome) :
    Properties → Nat → Properties → List (Nat × DataType)
  | [], _, _ => []
  | request :: rest, i, stored =>
      if exceeds device stored request then within device outcome rest (i + 1) stored
      else (i, request) :: within device outcome rest (i + 1)
        (if outcome i = .raisesBefore then stored else stored ++ [request])

def storedOf (outcome : Nat → SetOutcome) (list : List (Nat × DataType)) : Properties :=
  (list.filter fun entry => outcome entry.1 ≠ .raisesBefore).map Prod.snd

def ComesToNothing (propTable : PropertyMap) (stored : Properties) : Prop :=
  ∀ id property, getPropertyFromId propTable id = some property → property.value.type.counts →
    property.value.type.narrow (requested stored id) = 0

/-- Where some entry is rejected, those before one of the wrong type, or all of them, give back nothing,
and in the latter case the device is active and some property remains below its original value. -/
def HarmlessRejection (device : Device) (capacities : Properties) (outcome : Nat → SetOutcome) : Prop :=
  let checked := capacities.takeWhile (rightType device)
  let list := within device outcome checked 0 []
  checked ≠ capacities ∨ list.length ≠ checked.length ∨ (∃ entry ∈ list, outcome entry.1 ≠ .completes) →
    ComesToNothing device.propTable (storedOf outcome list) ∧
      (checked = capacities → device.usageState = .ACTIVE ∧
        totalCap device.originalCap device.propTable (list.map fun entry => entry.2.id) = false)

section Values

theorem restored_append (id : String) (stored : Properties) (request : DataType) (value : Any) :
    restored id (stored ++ [request]) value =
      if request.id = id then deallocate (restored id stored value) request.value
      else restored id stored value := by
  rw [restored, foldl_append]
  rfl

@[simp] theorem restored_type (id : String) (stored : Properties) (value : Any) :
    (restored id stored value).type = value.type := by
  induction stored generalizing value with
  | nil => rfl
  | cons request rest ih =>
      have next := ih (if request.id = id then deallocate value request.value else value)
      rw [restored] at next
      rw [restored, foldl_cons, next]
      split
      · exact deallocate_type ..
      · rfl

theorem TypeCode.narrow_add (type : TypeCode) (first second : Int) :
    type.narrow (type.narrow first + second) = type.narrow (first + second) := by
  have same := type.narrow_sub first (-second)
  rwa [Int.sub_neg, Int.sub_neg] at same

theorem restored_counts {value : Any} (counts : value.type.counts) (id : String) (stored : Properties) :
    restored id stored value = Any.store value.type (value.value + requested stored id) := by
  induction stored generalizing value with
  | nil => rw [requested_nil, Int.add_zero, Any.store_self]; rfl
  | cons request rest ih =>
      rw [restored, foldl_cons, requested_cons]
      by_cases named : request.id = id
      · have next := @ih (deallocate value request.value) (by rwa [deallocate_type])
        rw [restored] at next
        rw [if_pos named, if_pos named, next, deallocate_type, deallocate_counts counts]
        refine Any.ext rfl ?_
        show value.type.narrow (value.type.narrow (value.value + request.value.value) + _) = _
        rw [TypeCode.narrow_add, Int.add_assoc]
        rfl
      · have next := ih counts
        rw [restored] at next
        rw [if_neg named, if_neg named, next, Int.zero_add]

theorem restored_not_counts {value : Any} (opaqueType : ¬value.type.counts) (id : String)
    (stored : Properties) : restored id stored value = value := by
  induction stored with
  | nil => rfl
  | cons request rest ih =>
      rw [restored] at ih
      rw [restored, foldl_cons, deallocate_not_counts opaqueType, ite_self, ih]

theorem restored_eq_iff (id : String) (stored : Properties) (value : Any) :
    restored id stored value = value ↔ (value.type.counts → value.type.narrow (requested stored id) = 0) := by
  by_cases counts : value.type.counts
  · have iff := Any.store_sub_iff value (-requested stored id)
    rw [Int.sub_neg] at iff
    have negated : value.type.narrow (-requested stored id) = 0 ↔
        value.type.narrow (requested stored id) = 0 := by
      cases code : value.type with
      | other kind => exact absurd counts (by rw [code]; exact not_false)
      | tk_ulong => simp only [TypeCode.narrow]; omega
      | tk_long => simp only [TypeCode.narrow, Int.bmod]; omega
      | tk_short => simp only [TypeCode.narrow, Int.bmod]; omega
    rw [restored_counts counts, iff, negated]
    exact ⟨fun nothing _ => nothing, fun nothing => nothing counts⟩
  · exact iff_of_true (restored_not_counts counts id stored) fun type => absurd type counts

theorem PropertyMap.ext {left right : PropertyMap} (entries : left.entries = right.entries) :
    left = right := by
  cases left
  cases right
  subst entries
  rfl

theorem restoredTable_eq_iff (propTable : PropertyMap) (stored : Properties) :
    restoredTable propTable stored = propTable ↔ ComesToNothing propTable stored := by
  have each : restoredTable propTable stored = propTable ↔
      ∀ property ∈ propTable.entries, restored property.id stored property.value = property.value := by
    constructor
    · intro same property member
      have entries : propTable.entries.map (fun property =>
          { property with value := restored property.id stored property.value }) = propTable.entries.map id := by
        rw [map_id]
        exact congrArg entries same
      exact congrArg Property.value (map_inj_left.mp entries property member)
    · intro same
      refine ext ?_
      conv_rhs => rw [← map_id propTable.entries]
      refine map_congr_left fun property member => ?_
      rw [same property member]
      rfl
  rw [each]
  constructor
  · intro same id property found counts
    obtain ⟨member, rfl⟩ := getPropertyFromId_some.mp found
    exact (restored_eq_iff _ _ _).mp (same property member) counts
  · intro nothing property member
    exact (restored_eq_iff _ _ _).mpr
      (nothing property.id property (getPropertyFromId_some.mpr ⟨member, rfl⟩))

theorem getPropertyFromId_restored (propTable : PropertyMap) (stored : Properties) (id : String) :
    getPropertyFromId (restoredTable propTable stored) id =
      (getPropertyFromId propTable id).map fun property =>
        { property with value := restored id stored property.value } := by
  simp only [getPropertyFromId, restoredTable, find?_map]
  have same : ((fun property : Property => property.id == id) ∘ fun property : Property =>
      ({ property with value := restored property.id stored property.value } : Property)) =
        fun property => property.id == id := rfl
  rw [same]
  cases found : propTable.entries.find? fun property => property.id == id with
  | none => rfl
  | some property =>
      have named : property.id = id := by simpa using find?_some found
      simp [named]

theorem setValue_restored {propTable : PropertyMap} {request : DataType} {property : Property}
    (found : getPropertyFromId propTable request.id = some property) (stored : Properties) :
    (restoredTable propTable stored).setValue request.id
        (deallocate (restored request.id stored property.value) request.value) =
      restoredTable propTable (stored ++ [request]) := by
  refine ext ?_
  show (propTable.entries.map _).map _ = propTable.entries.map _
  rw [map_map]
  refine map_congr_left fun other member => ?_
  rw [restored_append]
  by_cases named : other.id = request.id
  · have same := getPropertyFromId_some.mpr ⟨member, named⟩
    obtain rfl := Option.some.inj (same.symm.trans found)
    simp [assign, named]
  · have different : ¬request.id = other.id := fun equal => named equal.symm
    simp [assign, named, different]

end Values

section Loop

variable {device : Device} {outcome : Nat → SetOutcome}

theorem storedOf_cons (entry : Nat × DataType) (list : List (Nat × DataType)) :
    storedOf outcome (entry :: list) =
      (if outcome entry.1 = .raisesBefore then [] else [entry.2]) ++ storedOf outcome list := by
  by_cases before : outcome entry.1 = .raisesBefore <;> simp [storedOf, before]

theorem within_length (capacities : Properties) (i : Nat) (stored : Properties) :
    (within device outcome capacities i stored).length ≤ capacities.length := by
  induction capacities generalizing i stored with
  | nil => exact Nat.le_refl _
  | cons request rest ih =>
      rw [within]
      split
      · exact Nat.le_succ_of_le (ih ..)
      · exact Nat.succ_le_succ (ih ..)

theorem release_result (capacities : Properties) (rest : Properties) (ii : Nat) (stored : Properties)
    (released : Released) (table : released.propTable = restoredTable device.propTable stored)
    (valid : ∀ request ∈ rest, ∃ property, getPropertyFromId device.propTable request.id = some property) :
    let checked := rest.takeWhile (rightType device)
    let list := within device outcome checked ii stored
    let result := release capacities device.originalCap outcome rest ii released
    (result.1 = none ∧ checked = rest ∨ (∃ exception, result.1 = some exception) ∧ checked ≠ rest) ∧
      result.2.propTable = restoredTable device.propTable (stored ++ storedOf outcome list) ∧
      (result.2.invalidProps = [] ↔ released.invalidProps = [] ∧ ∀ entry ∈ list, outcome entry.1 = .completes) ∧
      (result.2.overCaps = [] ↔ released.overCaps = [] ∧ list.length = checked.length) ∧
      result.2.deallocations = released.deallocations ++ list.map fun entry => entry.2.id := by
  induction rest generalizing ii stored released with
  | nil =>
      refine ⟨.inl ⟨rfl, rfl⟩, ?_, ?_, ?_, ?_⟩
      · simpa [release, within, storedOf] using table
      · simp [release, within]
      · simp [release, within]
      · simp [release, within]
  | cons request rest ih =>
      obtain ⟨property, found⟩ := valid request mem_cons_self
      have valid' := fun other member => valid other (mem_cons_of_mem _ member)
      have here : getPropertyFromId released.propTable request.id =
          some { property with value := restored request.id stored property.value } := by
        rw [table, getPropertyFromId_restored, found]
        rfl
      have typed : isValidType (restored request.id stored property.value) request.value =
          rightType device request := by
        rw [rightType, found, Option.all_some, isValidType, isValidType, restored_type]
      dsimp only
      rw [release, here]
      dsimp only
      rw [typed]
      cases right : rightType device request with
      | false =>
          rw [takeWhile_cons_of_neg (by simp [right])]
          refine ⟨.inr ⟨⟨_, rfl⟩, by simp⟩, ?_, ?_, ?_, ?_⟩
          · rw [within, storedOf, filter_nil, map_nil, append_nil]
            exact table
          all_goals simp [within]
      | true =>
          rw [takeWhile_cons_of_pos right, within]
          simp only [ne_eq, cons_inj_right, Bool.not_true, Bool.false_eq_true, if_false]
          generalize beyond : (device.originalCap.filter fun original => original.id == request.id &&
            compareAnys (deallocate (restored request.id stored property.value) request.value)
              original.value == .FIRST_BIGGER) = exceeded
          have exceeding : exceeds device stored request = true ↔ exceeded ≠ [] := by
            rw [exceeds, found, Option.any_some, ← beyond]
            simp
          by_cases more : exceeded ≠ []
          · -- over the original: noted, and nothing set
            rw [if_pos more, if_pos (exceeding.mpr more)]
            obtain ⟨ends, table', invalid, overCaps, deallocations⟩ := ih (ii + 1) stored
              { released with overCaps := released.overCaps ++ replicate exceeded.length request } table valid'
            refine ⟨ends, table', invalid, ?_, deallocations⟩
            have short := @within_length device outcome (rest.takeWhile (rightType device)) (ii + 1) stored
            rw [overCaps, length_cons]
            refine iff_of_false (fun noted => more ?_) (by omega)
            simpa using (append_eq_nil_iff.mp noted.1).2
          · rw [if_neg more, if_neg (mt exceeding.mp more)]
            obtain ⟨ends, table', invalid, overCaps, deallocations⟩ := ih (ii + 1)
              (if outcome ii = .raisesBefore then stored else stored ++ [request])
              { released with
                propTable := store (outcome ii) request.id
                  (deallocate (restored request.id stored property.value) request.value) released.propTable
                invalidProps := if outcome ii = .completes then released.invalidProps
                  else released.invalidProps ++ [request]
                deallocations := released.deallocations ++ [request.id] }
              (by
                rw [table]
                cases sets : outcome ii with
                | raisesBefore => rfl
                | _ => exact setValue_restored found stored)
              valid'
            refine ⟨ends, ?_, ?_, ?_, ?_⟩
            · rw [table', storedOf_cons]
              split <;> simp
            · rw [invalid, forall_mem_cons, ← and_assoc]
              refine and_congr_left fun _ => ?_
              split <;> simp [*]
            · rw [overCaps, length_cons, length_cons, Nat.succ_inj]
            · rw [deallocations, map_cons, append_assoc]
              rfl

end Loop

section Legacy

variable {device : Device} {capacities : Properties} {outcome : Nat → SetOutcome}

theorem legacy_rejectedKeeps_iff (device : Device) (capacities : Properties) (outcome : Nat → SetOutcome) :
    RejectedKeeps device (deallocateCapacity device capacities outcome).1.Rejected
        (deallocateCapacity device capacities outcome).2 ↔
      (Deallocating device capacities → HarmlessRejection device capacities outcome) := by
  by_cases reached : Deallocating device capacities
  · simp only [reached, forall_const]
    obtain ⟨accepted, free⟩ := reached
    simp only [Refused, not_or, ne_eq, not_not, Bool.not_eq_true] at accepted
    obtain ⟨unlocked, enabled, busy, valid⟩ := accepted
    have known : ∀ request ∈ capacities, ∃ property,
        getPropertyFromId device.propTable request.id = some property := by
      intro request member
      obtain ⟨property, found, -⟩ := validateCapacities_none.mp valid request member
      exact ⟨property, found⟩
    have start : device.propTable = restoredTable device.propTable [] :=
      ((restoredTable_eq_iff device.propTable []).mpr fun id _ _ _ => by
        rw [requested_nil, TypeCode.narrow_zero]).symm
    obtain ⟨ends, table, invalid, overCaps, deallocations⟩ := @release_result device outcome capacities
      capacities 0 [] ⟨device.propTable, [], [], []⟩ start known
    simp only [nil_append, true_and] at table invalid overCaps deallocations
    rw [deallocateCapacity, unlocked, enabled, deallocateCapacityLegacy, free, valid, busy, HarmlessRejection]
    simp only [Bool.false_eq_true, if_false]
    generalize release capacities device.originalCap outcome capacities 0
      ⟨device.propTable, [], [], []⟩ = result at ends table invalid overCaps deallocations
    generalize capacities.takeWhile (rightType device) = checked at *
    generalize within device outcome checked 0 [] = list at *
    have kept : result.2.propTable = device.propTable ↔
        ComesToNothing device.propTable (storedOf outcome list) := by
      rw [table, restoredTable_eq_iff]
    rcases ends with ⟨none, all⟩ | ⟨⟨exception, raised⟩, early⟩
    · -- every entry was looked at
      have usage (nothing : result.2.propTable = device.propTable) :
          (if totalCap device.originalCap result.2.propTable result.2.deallocations then
              UsageType.IDLE else .ACTIVE) = device.usageState ↔ device.usageState = .ACTIVE ∧
            totalCap device.originalCap device.propTable (list.map fun entry => entry.2.id) = false := by
        have notIdle : device.usageState ≠ .IDLE := by
          rw [Device.isIdle, beq_eq_false_iff_ne] at busy
          exact busy
        rw [nothing, deallocations]
        split
        · rename_i total
          rw [total]
          exact iff_of_false (fun idle => notIdle idle.symm) fun both => by cases both.2
        · rename_i below
          rw [and_iff_left (by simpa using below), eq_comm]
      rw [none]
      simp only [RejectedKeeps, Reply.Rejected, all, ne_eq, not_true, false_or, true_implies]
      rw [← kept]
      have rejects : (¬list.length = capacities.length ∨ ∃ entry ∈ list, ¬outcome entry.1 = .completes) ↔
          ¬(result.2.invalidProps = [] ∧ result.2.overCaps = []) := by
        rw [invalid, overCaps, all, not_and_or, or_comm]
        push Not
        rfl
      rw [rejects]
      by_cases accepts : result.2.invalidProps = [] ∧ result.2.overCaps = []
      · rw [if_neg (not_not.mpr accepts.1), if_neg (not_not.mpr accepts.2)]
        exact iff_of_true (by rintro ⟨-, ⟨⟩⟩) fun rejected => absurd accepts rejected
      · simp only [accepts, not_false_eq_true, true_implies]
        refine Iff.trans ?_ (and_congr_right usage)
        split
        · simp only [Reply.raised.injEq, exists_eq', true_implies]
        · rw [if_pos fun fits => accepts ⟨not_not.mp ‹_›, fits⟩]
          simp only [Reply.raised.injEq, exists_eq', true_implies]
    · rw [raised]
      simp only [RejectedKeeps, Reply.Rejected, Reply.raised.injEq, exists_eq', true_implies, ne_eq,
        early, not_false_eq_true, true_or, false_implies, and_true]
      exact kept
  · refine iff_of_true (fun _ => ?_) fun reaches => absurd reaches reached
    cases free : device.propertySetAccess with
    | false =>
        have refused : Refused device capacities := by
          by_contra accepted
          exact reached ⟨accepted, free⟩
        obtain ⟨exception, same⟩ := deallocateCapacity_refused refused free outcome
        rw [same]
        exact ⟨rfl, rfl⟩
    | true =>
        rw [deallocateCapacity]
        split
        · exact ⟨rfl, rfl⟩
        split
        · exact ⟨rfl, rfl⟩
        rw [deallocateCapacityLegacy, free]
        exact ⟨rfl, rfl⟩

end Legacy

def Ending.Rejected : Ending → Prop
  | .reply given => given.Rejected
  | .callback => False

def Device.shown (device : Device) : List Property × UsageType :=
  (device.propTable.entries, device.usageState)

namespace AllocationImpl

def AtEach (impl : AllocationImpl) (P : DataType → Device → Prop) : Properties → Device → Prop
  | [], _ => True
  | capacity :: rest, device =>
      P capacity device ∧ AtEach impl P rest (impl.deallocate capacity device).2

/-- What deallocation callbacks are written for: one that changes anything gives something back, so
that no later one takes it away again. -/
structure GivesBack (impl : AllocationImpl) where
  given : List Property × UsageType → Nat
  gives : ∀ capacity device, (impl.deallocate capacity device).2.shown ≠ device.shown →
    given device.shown < given (impl.deallocate capacity device).2.shown

/-- Where one of the callbacks raises and no other exception ends the call, none of them changes
anything. -/
def HarmlessRejection (impl : AllocationImpl) (device : Device) (capacities : Properties) : Prop :=
  device.isLocked = false → device.isDisabled = false → validateCapacities device.propTable capacities = none →
    impl.AtEach (fun capacity found => (impl.deallocate capacity found).1 ≠ .raisedOther) capacities
      device →
    ¬impl.AtEach (fun capacity found => (impl.deallocate capacity found).1 ≠ .raised) capacities
      device →
    impl.AtEach (fun capacity found => (impl.deallocate capacity found).2.shown = found.shown)
      capacities device

variable {impl : AllocationImpl}

theorem deallocateEach_ends (capacities : Properties) (device : Device) :
    ((impl.deallocateEach capacities device).1.1 = true ↔
      impl.AtEach (fun capacity found => (impl.deallocate capacity found).1 ≠ .raisedOther) capacities
        device) ∧
    ((impl.deallocateEach capacities device).1.1 = true →
      ((impl.deallocateEach capacities device).1.2 = [] ↔
        impl.AtEach (fun capacity found => (impl.deallocate capacity found).1 ≠ .raised) capacities
          device) ∧
      (impl.deallocateEach capacities device).2 =
        capacities.foldl (fun found capacity => (impl.deallocate capacity found).2) device) := by
  induction capacities generalizing device with
  | nil => exact ⟨iff_of_true rfl trivial, fun _ => ⟨iff_of_true rfl trivial, rfl⟩⟩
  | cons capacity rest ih =>
      obtain ⟨ended, whole⟩ := ih (impl.deallocate capacity device).2
      rw [AtEach, AtEach, deallocateEach, foldl_cons]
      generalize impl.deallocate capacity device = result at ended whole ⊢
      obtain ⟨answer, after⟩ := result
      cases answer with
      | raisedOther => exact ⟨iff_of_false (by rintro ⟨⟩) fun both => both.1 rfl, by rintro ⟨⟩⟩
      | raised =>
          refine ⟨ended.trans (and_iff_right (by rintro ⟨⟩)).symm, fun finished => ⟨?_, (whole finished).2⟩⟩
          exact iff_of_false (cons_ne_nil _ _) fun both => both.1 rfl
      | done =>
          exact ⟨ended.trans (and_iff_right (by rintro ⟨⟩)).symm, fun finished =>
            ⟨(whole finished).1.trans (and_iff_right (by rintro ⟨⟩)).symm, (whole finished).2⟩⟩
      | notImplemented =>
          exact ⟨ended.trans (and_iff_right (by rintro ⟨⟩)).symm, fun finished =>
            ⟨(whole finished).1.trans (and_iff_right (by rintro ⟨⟩)).symm, (whole finished).2⟩⟩

theorem shown_kept (capacities : Properties) (device : Device)
    (each : impl.AtEach (fun capacity found => (impl.deallocate capacity found).2.shown = found.shown)
      capacities device) :
    (capacities.foldl (fun found capacity => (impl.deallocate capacity found).2) device).shown =
      device.shown := by
  induction capacities generalizing device with
  | nil => rfl
  | cons capacity rest ih => exact (ih _ each.2).trans each.1

theorem GivesBack.grows (gives : impl.GivesBack) (capacities : Properties) (device : Device) :
    gives.given device.shown ≤ gives.given
      (capacities.foldl (fun found capacity => (impl.deallocate capacity found).2) device).shown := by
  induction capacities generalizing device with
  | nil => exact Nat.le_refl _
  | cons capacity rest ih =>
      refine Nat.le_trans ?_ (ih _)
      by_cases same : (impl.deallocate capacity device).2.shown = device.shown
      · rw [same]
      · exact Nat.le_of_lt (gives.gives capacity device same)

theorem GivesBack.kept_each (gives : impl.GivesBack) (capacities : Properties) (device : Device)
    (kept : (capacities.foldl (fun found capacity => (impl.deallocate capacity found).2) device).shown =
      device.shown) :
    impl.AtEach (fun capacity found => (impl.deallocate capacity found).2.shown = found.shown)
      capacities device := by
  induction capacities generalizing device with
  | nil => trivial
  | cons capacity rest ih =>
      rw [foldl_cons] at kept
      have same : (impl.deallocate capacity device).2.shown = device.shown := by
        by_contra differs
        have more := gives.gives capacity device differs
        have grown := gives.grows rest (impl.deallocate capacity device).2
        rw [kept] at grown
        omega
      exact ⟨same, ih _ (kept.trans same.symm)⟩

theorem rejectedKeeps_iff_shown {device after : Device} {rejected : Prop} :
    RejectedKeeps device rejected after ↔ (rejected → after.shown = device.shown) := by
  refine imp_congr_right fun _ => ?_
  rw [Device.shown, Device.shown, Prod.mk.injEq]
  exact and_congr_left fun _ => ⟨congrArg entries, ext⟩

theorem rejectedKeeps_iff (device : Device) (capacities : Properties) :
    (impl.HarmlessRejection device capacities →
      RejectedKeeps device (impl.deallocateCapacity device capacities).1.Rejected
        (impl.deallocateCapacity device capacities).2) ∧
    (impl.GivesBack → RejectedKeeps device (impl.deallocateCapacity device capacities).1.Rejected
        (impl.deallocateCapacity device capacities).2 →
      impl.HarmlessRejection device capacities) := by
  obtain ⟨ended, whole⟩ := @deallocateEach_ends impl capacities device
  rw [rejectedKeeps_iff_shown, HarmlessRejection, deallocateCapacity]
  cases device.isLocked with
  | true => exact ⟨fun _ _ => rfl, by rintro _ _ ⟨⟩⟩
  | false =>
  cases device.isDisabled with
  | true => exact ⟨fun _ _ => rfl, by rintro _ _ _ ⟨⟩⟩
  | false =>
  rw [deallocateCapacityNew]
  cases validateCapacities device.propTable capacities with
  | some invalid => exact ⟨fun _ _ => rfl, by rintro _ _ _ _ ⟨⟩⟩
  | none =>
      generalize impl.deallocateEach capacities device = result at ended whole ⊢
      obtain ⟨⟨finished, invalidProps⟩, after⟩ := result
      simp only [Bool.false_eq_true, if_false, true_implies] at ended whole ⊢
      rw [← ended]
      cases finished with
      | false => exact ⟨fun _ => False.elim, by rintro _ _ ⟨⟩⟩
      | true =>
          obtain ⟨none, same⟩ := whole rfl
          simp only [true_implies, if_true]
          rw [← none]
          by_cases failed : invalidProps = []
          · rw [if_neg (not_not.mpr failed)]
            exact ⟨fun _ rejected => (rejected.elim fun _ done => by cases done),
              fun _ _ some => absurd failed some⟩
          · rw [if_pos failed, same]
            refine ⟨fun harmless _ => shown_kept _ _ (harmless failed), fun gives kept _ => ?_⟩
            exact gives.kept_each _ _ (kept ⟨_, rfl⟩)

end AllocationImpl

/-- A deallocation that is rejected changes nothing: a legacy one just where what it gave back before
that comes to nothing; one with callbacks where none of them changed anything and, if what they give
back is not taken away again, only there. -/
theorem rejected_keeps_iff (device : Device) (capacities : Properties) :
    (∀ outcome, RejectedKeeps device (deallocateCapacity device capacities outcome).1.Rejected
        (deallocateCapacity device capacities outcome).2 ↔
      (Deallocating device capacities → HarmlessRejection device capacities outcome)) ∧
    ∀ impl : AllocationImpl,
      (impl.HarmlessRejection device capacities →
        RejectedKeeps device (impl.deallocateCapacity device capacities).1.Rejected
          (impl.deallocateCapacity device capacities).2) ∧
      (impl.GivesBack → RejectedKeeps device (impl.deallocateCapacity device capacities).1.Rejected
          (impl.deallocateCapacity device capacities).2 →
        impl.HarmlessRejection device capacities) :=
  ⟨legacy_rejectedKeeps_iff device capacities, fun _ => AllocationImpl.rejectedKeeps_iff device capacities⟩

def inUseTens : Device :=
  (allocateCapacity (Device.start tens .UNLOCKED .ENABLED) (amount "memory" 3 ++ amount "streams" 4) accepting).2

def unwilling : AllocationImpl := fun id =>
  { fromAny := fun _ => true
    allocator := none
    deallocator := some fun _ device => (if id = "streams" then .raised else .done, device) }

theorem unwilling_rejectedKeeps :
    RejectedKeeps inUseTens
      (unwilling.deallocateCapacity inUseTens (amount "memory" 2 ++ amount "streams" 5)).1.Rejected
      (unwilling.deallocateCapacity inUseTens (amount "memory" 2 ++ amount "streams" 5)).2 :=
  ((rejected_keeps_iff inUseTens (amount "memory" 2 ++ amount "streams" 5)).2 unwilling).1
    fun _ _ _ _ _ => ⟨rfl, rfl, trivial⟩

/-- The streams would exceed their original capacity, and the memory has been given back by then. -/
theorem rejected_gives_memory_back :
    ¬RejectedKeeps inUseTens
      (deallocateCapacity inUseTens (amount "memory" 2 ++ amount "streams" 5) accepting).1.Rejected
      (deallocateCapacity inUseTens (amount "memory" 2 ++ amount "streams" 5) accepting).2 := by
  intro keeps
  have raised : (deallocateCapacity inUseTens (amount "memory" 2 ++ amount "streams" 5) accepting).1 =
      .raised (.InvalidCapacity "Following properties exceeded original bounds"
        (amount "streams" 5)) := by decide +kernel
  have entries := congrArg entries (keeps ⟨_, raised⟩).1
  revert entries
  decide +kernel

end Redhawk.Capacity
