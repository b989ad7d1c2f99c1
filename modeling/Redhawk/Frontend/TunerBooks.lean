import Redhawk.Frontend.TunerDevice
import Redhawk.Library.Runs

/-!
The four records of the allocations of a front-end device agree in every state: the map of
allocation IDs, the IDs of each tuner, their text in the status and the usage state.
-/

namespace Redhawk.Frontend

open Library Device List

def allIds (ids : TunerAllocationIds) : List String :=
  (if ids.control_allocation_id = "" then [] else [ids.control_allocation_id]) ++ ids.listener_allocation_ids

def Device.idsOf (device : Device) (tuner_id : Nat) : List String :=
  allIds (device.tuner_allocation_ids tuner_id)

def Capacity.namedId : Capacity → Option String
  | .tuner value _ => some value.allocation_id
  | .listener value _ => some value.listener_allocation_id
  | .scanner _ | .unknown _ => none

def InUse (id : String) (device : Device) : Prop :=
  device.allocation_id_to_tuner_id id ≠ none ∨ ∃ tuner_id < device.count, id ∈ device.idsOf tuner_id

structure Bookkept (device : Device) : Prop where
  mapped : ∀ id tuner_id, device.allocation_id_to_tuner_id id = some tuner_id ↔
    tuner_id < device.count ∧ id ∈ device.idsOf tuner_id
  nonempty : ∀ tuner_id < device.count, ∀ id ∈ device.idsOf tuner_id, id ≠ ""
  usedOnce : ∀ tuner_id < device.count, (device.idsOf tuner_id).Nodup ∧
    ∀ other < device.count, ∀ id ∈ device.idsOf tuner_id, id ∈ device.idsOf other → other = tuner_id
  headed : ∀ tuner_id < device.count,
    (device.tuner_allocation_ids tuner_id).listener_allocation_ids ≠ [] →
      (device.tuner_allocation_ids tuner_id).control_allocation_id ≠ ""
  csv : ∀ tuner_id < device.count,
    (device.frontend_tuner_status tuner_id).allocation_id_csv.toList =
      [','].intercalate ((device.idsOf tuner_id).map String.toList)
  usage : device.usageState =
    if ∀ tuner_id < device.count,
      (device.tuner_allocation_ids tuner_id).control_allocation_id = "" then .idle
    else if ∀ tuner_id < device.count,
      (device.tuner_allocation_ids tuner_id).control_allocation_id ≠ "" then .busy
    else .active

theorem toList_foldl_commas (ids : List String) (csv : String) :
    (ids.foldl (fun csv id => csv ++ (id ++ ",")) csv).toList =
      csv.toList ++ ids.flatMap fun id => id.toList ++ [','] := by
  induction ids generalizing csv with
  | nil => simp
  | cons id rest ih =>
      rw [foldl_cons, ih]
      simp

theorem dropLast_commas (ids : List (List Char)) :
    (ids.flatMap fun id => id ++ [',']).dropLast = [','].intercalate ids := by
  induction ids with
  | nil => rfl
  | cons id rest ih =>
      cases rest with
      | nil => simp [intercalate]
      | cons next rest =>
          have some : ((next :: rest).flatMap fun id => id ++ [',']) ≠ [] := by simp
          rw [flatMap_cons, dropLast_append_of_ne_nil some, ih]
          simp [intercalate, intersperse]

theorem createAllocationIdCsv_toList (ids : TunerAllocationIds) :
    (createAllocationIdCsv ids).toList = [','].intercalate ((allIds ids).map String.toList) := by
  have whole : ∀ control : String, (if control.isEmpty then "" else control ++ ",").toList =
      (if control = "" then [] else [control]).flatMap fun id => id.toList ++ [','] := by
    intro control
    by_cases empty : control = ""
    · simp [empty]
    · simp [empty, String.isEmpty_iff]
  have text := toList_foldl_commas ids.listener_allocation_ids
    (if ids.control_allocation_id.isEmpty then "" else ids.control_allocation_id ++ ",")
  rw [whole, ← flatMap_append] at text
  rw [← dropLast_commas, flatMap_map, allIds]
  unfold createAllocationIdCsv
  dsimp only
  generalize ids.listener_allocation_ids.foldl (fun csv id => csv ++ (id ++ ","))
    (if ids.control_allocation_id.isEmpty then "" else ids.control_allocation_id ++ ",") = csv
    at text ⊢
  rw [← text]
  by_cases empty : csv = ""
  · subst empty
    rfl
  · rw [if_neg (by simpa [String.isEmpty_iff] using empty), String.toList_ofList]

structure Books (device : Device) : Prop where
  mapped : ∀ id tuner_id, device.allocation_id_to_tuner_id id = some tuner_id ↔
    tuner_id < device.count ∧ id ∈ device.idsOf tuner_id
  nonempty : ∀ tuner_id < device.count, "" ∉ device.idsOf tuner_id
  once : ∀ tuner_id < device.count, (device.idsOf tuner_id).Nodup
  headed : ∀ tuner_id < device.count,
    (device.tuner_allocation_ids tuner_id).listener_allocation_ids ≠ [] →
      (device.tuner_allocation_ids tuner_id).control_allocation_id ≠ ""
  csv : ∀ tuner_id < device.count, (device.frontend_tuner_status tuner_id).allocation_id_csv =
    createAllocationIdCsv (device.tuner_allocation_ids tuner_id)

def UsageOk (device : Device) : Prop :=
  device.usageState = device.updateUsageState

theorem Device.usage_spec (device : Device) : device.updateUsageState =
    if ∀ tuner_id < device.count,
      (device.tuner_allocation_ids tuner_id).control_allocation_id = "" then .idle
    else if ∀ tuner_id < device.count,
      (device.tuner_allocation_ids tuner_id).control_allocation_id ≠ "" then .busy
    else .active := by
  have none : device.allocatedCount = 0 ↔ ∀ tuner_id < device.count,
      (device.tuner_allocation_ids tuner_id).control_allocation_id = "" := by
    simp [allocatedCount, countP_eq_zero]
  have all : device.allocatedCount = device.count ↔ ∀ tuner_id < device.count,
      (device.tuner_allocation_ids tuner_id).control_allocation_id ≠ "" := by
    have length : device.count = (range device.count).length := by simp
    rw [allocatedCount]
    conv_lhs => rhs; rw [length]
    rw [countP_eq_length]
    simp
  simp only [updateUsageState, none, all]

variable {device : Device}

theorem Books.bookkept (books : Books device) (usage : UsageOk device) : Bookkept device where
  mapped := books.mapped
  nonempty := by
    rintro tuner_id bound id member rfl
    exact books.nonempty tuner_id bound member
  usedOnce := by
    intro tuner_id bound
    refine ⟨books.once tuner_id bound, ?_⟩
    intro other otherBound id member otherMember
    have here := (books.mapped id tuner_id).mpr ⟨bound, member⟩
    have there := (books.mapped id other).mpr ⟨otherBound, otherMember⟩
    exact Option.some.inj (there.symm.trans here)
  headed := books.headed
  csv := by
    intro tuner_id bound
    rw [books.csv tuner_id bound]
    exact createAllocationIdCsv_toList _
  usage := usage.trans device.usage_spec

structure SameBooks (device next : Device) : Prop where
  count : next.count = device.count
  ids : next.tuner_allocation_ids = device.tuner_allocation_ids
  map : next.allocation_id_to_tuner_id = device.allocation_id_to_tuner_id
  csv : ∀ tuner_id, (next.frontend_tuner_status tuner_id).allocation_id_csv =
    (device.frontend_tuner_status tuner_id).allocation_id_csv

theorem SameBooks.refl (device : Device) : SameBooks device device :=
  ⟨rfl, rfl, rfl, fun _ => rfl⟩

theorem SameBooks.trans {first second third : Device} (one : SameBooks first second)
    (two : SameBooks second third) : SameBooks first third where
  count := two.count.trans one.count
  ids := two.ids.trans one.ids
  map := two.map.trans one.map
  csv := fun tuner_id => (two.csv tuner_id).trans (one.csv tuner_id)

variable {next : Device}

theorem SameBooks.books (same : SameBooks device next) (books : Books device) : Books next := by
  have idsOf : ∀ tuner_id, next.idsOf tuner_id = device.idsOf tuner_id := by
    intro tuner_id
    rw [idsOf, same.ids]
    rfl
  constructor
  · intro id tuner_id
    rw [same.map, same.count, idsOf]
    exact books.mapped id tuner_id
  · intro tuner_id
    rw [same.count, idsOf]
    exact books.nonempty tuner_id
  · intro tuner_id
    rw [same.count, idsOf]
    exact books.once tuner_id
  · intro tuner_id
    rw [same.count, same.ids]
    exact books.headed tuner_id
  · intro tuner_id
    rw [same.count, same.csv, same.ids]
    exact books.csv tuner_id

theorem SameBooks.updateUsageState (same : SameBooks device next) :
    next.updateUsageState = device.updateUsageState := by
  have counts : next.allocatedCount = device.allocatedCount := by
    simp only [Device.allocatedCount, same.count, same.ids]
  simp only [Device.updateUsageState, counts, same.count]

variable {tuner_id : Nat}

theorem sameBooks_setStatus {status : TunerStatus}
    (csv : status.allocation_id_csv = (device.frontend_tuner_status tuner_id).allocation_id_csv) :
    SameBooks device (device.setStatus tuner_id status) := by
  refine ⟨rfl, rfl, rfl, ?_⟩
  intro other
  by_cases same : other = tuner_id
  · subst same
    simp [setStatus, csv]
  · simp [setStatus, same]

theorem sameBooks_enableTuner (device : Device) (tuner_id : Nat) (enable : Bool)
    (answer : HookAnswer Unit) : SameBooks device (device.enableTuner tuner_id enable answer).1 := by
  unfold enableTuner
  dsimp only
  split
  · exact .refl device
  · exact sameBooks_setStatus rfl

theorem sameBooks_refreshUsage (device : Device) : SameBooks device device.refreshUsage :=
  ⟨rfl, rfl, rfl, fun _ => rfl⟩

theorem usageOk_refreshUsage (device : Device) : UsageOk device.refreshUsage := rfl

theorem Books.rebook (books : Books device)
    (bound : tuner_id < device.count) {ids : TunerAllocationIds} {map : String → Option Nat}
    (own : ∀ id, map id = some tuner_id ↔ id ∈ allIds ids)
    (others : ∀ id other, other ≠ tuner_id →
      (map id = some other ↔ device.allocation_id_to_tuner_id id = some other))
    (nonempty : "" ∉ allIds ids) (once : (allIds ids).Nodup)
    (headed : ids.listener_allocation_ids ≠ [] → ids.control_allocation_id ≠ "") :
    Books (updateCsv tuner_id { device with
      tuner_allocation_ids := Function.update device.tuner_allocation_ids tuner_id ids
      allocation_id_to_tuner_id := map }) := by
  have idsOf : ∀ other, (updateCsv tuner_id { device with
      tuner_allocation_ids := Function.update device.tuner_allocation_ids tuner_id ids
      allocation_id_to_tuner_id := map }).idsOf other =
        if other = tuner_id then allIds ids else device.idsOf other := by
    intro other
    by_cases same : other = tuner_id
    · subst same
      simp [idsOf, updateCsv, setStatus]
    · simp [idsOf, updateCsv, setStatus, same]
  constructor
  · intro id other
    rw [idsOf]
    change map id = some other ↔ other < device.count ∧ _
    by_cases same : other = tuner_id
    · subst same
      rw [if_pos rfl, own]
      exact (and_iff_right bound).symm
    · rw [if_neg same, others id other same]
      exact books.mapped id other
  · intro other otherBound
    rw [idsOf]
    split
    next => exact nonempty
    next => exact books.nonempty other otherBound
  · intro other otherBound
    rw [idsOf]
    split
    next => exact once
    next => exact books.once other otherBound
  · intro other otherBound
    by_cases same : other = tuner_id
    · subst same
      simpa [updateCsv, setStatus] using headed
    · simpa [updateCsv, setStatus, same] using books.headed other otherBound
  · intro other otherBound
    by_cases same : other = tuner_id
    · subst same
      simp [updateCsv, setStatus]
    · simpa [updateCsv, setStatus, same] using books.csv other otherBound

variable {id : String}

theorem Books.bound (books : Books device)
    (found : device.allocation_id_to_tuner_id id = some tuner_id) : tuner_id < device.count :=
  ((books.mapped id tuner_id).mp found).1

theorem Books.removeListenerMapping (books : Books device)
    (found : device.allocation_id_to_tuner_id id = some tuner_id)
    (listener : (device.tuner_allocation_ids tuner_id).control_allocation_id ≠ id) :
    Books ((device.removeListenerMapping tuner_id id).updateCsv tuner_id) := by
  have bound := books.bound found
  have remaining : allIds { device.tuner_allocation_ids tuner_id with
      listener_allocation_ids :=
        (device.tuner_allocation_ids tuner_id).listener_allocation_ids.filter
          fun other => other != id } =
      (device.idsOf tuner_id).filter fun other => other != id := by
    unfold idsOf allIds
    rw [filter_append]
    split
    next => rfl
    next => rw [filter_cons_of_pos (by simpa using listener), filter_nil]
  apply books.rebook bound
  · intro other
    rw [remaining]
    by_cases same : other = id
    · subst same
      simp
    · simp [same, books.mapped, bound]
  · intro other tuner differs
    by_cases same : other = id
    · subst same
      simp [found, differs.symm]
    · simp [same]
  · rw [remaining]
    exact fun member => books.nonempty tuner_id bound (mem_filter.mp member).1
  · rw [remaining]
    exact (books.once tuner_id bound).filter _
  · intro some
    apply books.headed tuner_id bound
    intro empty
    exact some (by simp [empty])

theorem Books.removeTunerMapping (books : Books device)
    (bound : tuner_id < device.count) {answer : HookAnswer Bool} {deleted : Bool}
    (returns : answer.outcome = .ok deleted) :
    Books ((device.removeTunerMapping tuner_id answer).1.updateCsv tuner_id) := by
  have tuned : Books (device.setStatus tuner_id (answer.apply (device.frontend_tuner_status tuner_id))) := by
    apply SameBooks.books _ books
    exact sameBooks_setStatus rfl
  unfold Device.removeTunerMapping
  rw [returns]
  apply tuned.rebook bound
  · intro id
    simp [allIds]
  · intro id other differs
    split
    next found => simp [found, differs.symm]
    next => rfl
  · simp [allIds]
  · simp [allIds]
  · simp

def Entry.Quiet (entry : Entry) : Prop :=
  (∀ raised, entry.deviceDisable.outcome = .error raised → raised.isInvalidCapacity = true) ∧
    ∀ raised, entry.deviceDeleteTuning.outcome = .error raised → raised.isInvalidCapacity = true

structure Freed (entry : Entry) (id : Option String) (device : Device)
    (result : Device × Except Raised Unit) : Prop where
  books : Books result.1
  fewer : ∀ other tuner_id, result.1.allocation_id_to_tuner_id other = some tuner_id →
    device.allocation_id_to_tuner_id other = some tuner_id
  removed : result.2 = .ok () → ∀ named, id = some named → result.1.allocation_id_to_tuner_id named = none
  loud : entry.Quiet → ∀ raised, result.2 = .error raised → raised.isInvalidCapacity = true

theorem Freed.of_same {entry : Entry} {id : Option String} {raised : Raised}
    (books : Books device) (same : SameBooks device next)
    (kind : entry.Quiet → raised.isInvalidCapacity = true) :
    Freed entry id device (next, .error raised) where
  books := same.books books
  fewer := by
    intro other tuner_id found
    rw [← same.map]
    exact found
  removed := fun done => by cases done
  loud := by
    intro quiet again thrown
    obtain rfl : raised = again := Except.error.inj thrown
    exact kind quiet

theorem Freed.before {entry : Entry} {id : Option String}
    {result : Device × Except Raised Unit} (freed : Freed entry id next result)
    (same : SameBooks device next) : Freed entry id device result where
  books := freed.books
  fewer := by
    intro named tuner_id found
    rw [← same.map]
    exact freed.fewer named tuner_id found
  removed := freed.removed
  loud := freed.loud

theorem Books.freeListener (books : Books device) (found : device.allocation_id_to_tuner_id id = some tuner_id)
    (listener : (device.tuner_allocation_ids tuner_id).control_allocation_id ≠ id)
    (entry : Entry) : Freed entry (some id) device
      ((device.removeListenerMapping tuner_id id).updateCsv tuner_id, .ok ()) where
  books := books.removeListenerMapping found listener
  fewer := by
    intro other tuner still
    change Function.update device.allocation_id_to_tuner_id id none other = some tuner at still
    by_cases same : other = id
    · subst same
      simp at still
    · simpa [same] using still
  removed := by
    rintro - named ⟨⟩
    exact Function.update_self ..
  loud := by
    intro quiet raised thrown
    cases thrown

theorem Device.enableTuner_error (device : Device) (tuner_id : Nat) (enable : Bool)
    (answer : HookAnswer Unit) : ∀ raised,
      (device.enableTuner tuner_id enable answer).2 = .error raised → answer.outcome = .error raised := by
  intro raised thrown
  unfold Device.enableTuner at thrown
  dsimp only at thrown
  split at thrown
  · cases thrown
  · exact thrown

theorem Books.deallocateTuner (books : Books device) (found : device.allocation_id_to_tuner_id id = some tuner_id)
    (entry : Entry) : Freed entry (some id) device (device.deallocateTuner tuner_id id entry) := by
  unfold Device.deallocateTuner
  split
  next control =>
    have same := sameBooks_enableTuner device tuner_id false entry.deviceDisable
    have disabled := device.enableTuner_error tuner_id false entry.deviceDisable
    cases result : device.enableTuner tuner_id false entry.deviceDisable with
    | mk next outcome =>
        rw [result] at same disabled
        cases outcome with
        | error raised => exact .of_same books same fun quiet => quiet.1 raised (disabled raised rfl)
        | ok done =>
            cases done
            dsimp only
            have tuned := same.books books
            have bound := tuned.bound (same.map ▸ found)
            cases returns : entry.deviceDeleteTuning.outcome with
            | error raised =>
                have broken : next.removeTunerMapping tuner_id entry.deviceDeleteTuning =
                    (next.setStatus tuner_id (entry.deviceDeleteTuning.apply
                      (next.frontend_tuner_status tuner_id)), .error raised) := by
                  rw [Device.removeTunerMapping, returns]
                rw [broken]
                exact .of_same books (same.trans (sameBooks_setStatus rfl))
                  fun quiet => quiet.2 raised returns
            | ok deleted =>
                have removed := tuned.removeTunerMapping bound returns
                rw [Device.removeTunerMapping, returns] at removed ⊢
                constructor
                · exact removed
                · intro other tuner still
                  change (if next.allocation_id_to_tuner_id other = some tuner_id then none
                    else next.allocation_id_to_tuner_id other) = some tuner at still
                  split at still
                  next => cases still
                  next => exact same.map ▸ still
                · rintro - named ⟨⟩
                  change (if next.allocation_id_to_tuner_id id = some tuner_id then none
                    else next.allocation_id_to_tuner_id id) = none
                  rw [same.map, if_pos found]
                · intro quiet raised thrown
                  cases thrown
  next listener => exact books.freeListener found listener entry

theorem Books.deallocateOne (books : Books device) (entry : Entry) :
    Freed entry entry.capacity.namedId device (device.deallocateOne entry) := by
  unfold Device.deallocateOne
  cases entry.capacity with
  | scanner parses =>
      constructor
      · exact books
      · exact fun _ _ found => found
      · intro done named none
        cases none
      · intro quiet raised thrown
        cases thrown
  | unknown id => exact .of_same books (.refl device) fun _ => rfl
  | tuner value parses =>
      have same : SameBooks device { device with frontend_tuner_allocation := value } :=
        ⟨rfl, rfl, rfl, fun _ => rfl⟩
      dsimp only
      split
      next => exact .of_same books same fun _ => rfl
      next =>
        cases found : device.allocation_id_to_tuner_id value.allocation_id with
        | none =>
            simp only [getTunerMapping, found]
            exact .of_same books same fun _ => rfl
        | some tuner_id =>
            simp only [getTunerMapping, found]
            exact ((same.books books).deallocateTuner found entry).before same
  | listener value parses =>
      have same : SameBooks device { device with frontend_listener_allocation := value } :=
        ⟨rfl, rfl, rfl, fun _ => rfl⟩
      dsimp only
      split
      next => exact .of_same books same fun _ => rfl
      next =>
        cases found : device.allocation_id_to_tuner_id value.listener_allocation_id with
        | none =>
            simp only [getTunerMapping, found]
            exact .of_same books same fun _ => rfl
        | some tuner_id =>
            simp only [getTunerMapping, found]
            split
            next => exact .of_same books same fun _ => rfl
            next listener => exact ((same.books books).freeListener found listener entry).before same

structure Deallocated (entries : List Entry) (device : Device) (result : Device × Except Raised Unit) : Prop where
  books : Books result.1
  usage : UsageOk result.1
  fewer : ∀ id tuner_id, result.1.allocation_id_to_tuner_id id = some tuner_id →
    device.allocation_id_to_tuner_id id = some tuner_id
  removed : (∀ entry ∈ entries, entry.Quiet) → result.2 = .ok () → ∀ entry ∈ entries, ∀ id,
    entry.capacity.namedId = some id → result.1.allocation_id_to_tuner_id id = none

theorem Books.deallocateCapacity (books : Books device) (entries : List Entry) :
    Deallocated entries device (Frontend.deallocateCapacity entries device) := by
  induction entries generalizing device with
  | nil =>
      exact ⟨(sameBooks_refreshUsage device).books books, usageOk_refreshUsage device,
        fun _ _ found => found, fun _ _ entry member => by cases member⟩
  | cons entry rest ih =>
      have one := books.deallocateOne entry
      unfold Frontend.deallocateCapacity
      cases step : device.deallocateOne entry with
      | mk next outcome =>
          rw [step] at one
          cases outcome with
          | ok done =>
              cases done
              obtain ⟨books', usage, fewer, removed⟩ := ih one.books
              refine ⟨books', usage, fun id tuner_id found =>
                one.fewer id tuner_id (fewer id tuner_id found), ?_⟩
              intro quiet done other member id named
              rcases mem_cons.mp member with rfl | later
              · -- what is removed stays removed
                have gone := one.removed rfl id named
                cases back : (Frontend.deallocateCapacity rest next).1.allocation_id_to_tuner_id id with
                | none => rfl
                | some tuner_id =>
                    have present := fewer id tuner_id back
                    rw [gone] at present
                    cases present
              · exact removed (fun entry member => quiet entry (mem_cons_of_mem _ member))
                  done other later id named
          | error raised =>
              have same := sameBooks_refreshUsage next
              dsimp only
              split
              next loud =>
                exact ⟨same.books one.books, usageOk_refreshUsage next, one.fewer, fun _ done => by cases done⟩
              next silent =>
                obtain ⟨books', usage, fewer, removed⟩ := ih (same.books one.books)
                refine ⟨books', usage, fun id tuner_id found =>
                  one.fewer id tuner_id (fewer id tuner_id found), ?_⟩
                intro quiet
                exact absurd (one.loud (quiet entry mem_cons_self) raised rfl) silent

end Redhawk.Frontend
