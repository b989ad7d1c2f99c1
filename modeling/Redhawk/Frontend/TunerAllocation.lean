import Redhawk.Frontend.TunerBooks

/-!
The books through an allocation and its clean-up, and over every run of a front-end device.
-/

namespace Redhawk.Frontend

open Library Device DeviceCall List

variable {device : Device}

theorem SameBooks.usageOk {next : Device} (same : SameBooks device next)
    (state : next.usageState = device.usageState) (usage : UsageOk device) : UsageOk next := by
  rw [UsageOk, state, same.updateUsageState]
  exact usage

variable {tuner_id : Nat} {id : String}

section

variable (books : Books device) (bound : tuner_id < device.count) (fresh : device.allocation_id_to_tuner_id id = none) (nonempty : id ≠ "")
include books bound fresh nonempty

theorem Books.assign {ids : TunerAllocationIds}
    (members : ∀ other, other ∈ allIds ids ↔ other = id ∨ other ∈ device.idsOf tuner_id)
    (once : (allIds ids).Nodup)
    (headed : ids.listener_allocation_ids ≠ [] → ids.control_allocation_id ≠ "") :
    Books (device.assign tuner_id ids id) := by
  unfold Device.assign
  rw [fresh]
  apply books.rebook bound
  · intro other
    rw [members]
    by_cases same : other = id
    · subst same
      simp
    · simp [same, books.mapped, bound]
  · intro other tuner differs
    by_cases same : other = id
    · subst same
      simp [fresh, differs.symm]
    · simp [same]
  · rw [members]
    rintro (empty | present)
    · exact nonempty empty.symm
    · exact books.nonempty tuner_id bound present
  · exact once
  · exact headed

theorem Books.assignControl (free : (device.tuner_allocation_ids tuner_id).control_allocation_id = "") :
    Books (device.assign tuner_id
      { device.tuner_allocation_ids tuner_id with control_allocation_id := id } id) := by
  have listeners : (device.tuner_allocation_ids tuner_id).listener_allocation_ids = [] := by
    by_contra some
    exact books.headed tuner_id bound some free
  have none : device.idsOf tuner_id = [] := by simp [idsOf, allIds, free, listeners]
  apply books.assign bound fresh nonempty
  · simp [none, allIds, nonempty, listeners]
  · simp [allIds, nonempty, listeners]
  · simp [listeners]

theorem Books.assignListener (control : (device.tuner_allocation_ids tuner_id).control_allocation_id ≠ "") :
    Books (device.assign tuner_id { device.tuner_allocation_ids tuner_id with
      listener_allocation_ids :=
        (device.tuner_allocation_ids tuner_id).listener_allocation_ids ++ [id] } id) := by
  have appended : allIds { device.tuner_allocation_ids tuner_id with
      listener_allocation_ids :=
        (device.tuner_allocation_ids tuner_id).listener_allocation_ids ++ [id] } =
      device.idsOf tuner_id ++ [id] := by simp [idsOf, allIds]
  have unused : id ∉ device.idsOf tuner_id := by
    intro member
    rw [(books.mapped id tuner_id).mpr ⟨bound, member⟩] at fresh
    cases fresh
  apply books.assign bound fresh nonempty
  · intro other
    rw [appended, mem_append, mem_singleton]
    exact or_comm
  · rw [appended, nodup_append]
    refine ⟨books.once tuner_id bound, by simp, ?_⟩
    rintro other member last isLast rfl
    exact unused (mem_singleton.mp isLast ▸ member)
  · exact fun _ => control

end

theorem usageOk_assignListener (usage : UsageOk device) (tuner_id : Nat)
    (id : String) : UsageOk (device.assign tuner_id { device.tuner_allocation_ids tuner_id with
      listener_allocation_ids :=
        (device.tuner_allocation_ids tuner_id).listener_allocation_ids ++ [id] } id) := by
  have counts : (device.assign tuner_id { device.tuner_allocation_ids tuner_id with
      listener_allocation_ids :=
        (device.tuner_allocation_ids tuner_id).listener_allocation_ids ++ [id] } id).allocatedCount =
      device.allocatedCount := by
    apply countP_congr
    intro other member
    by_cases same : other = tuner_id
    · subst same
      simp [assign, updateCsv, setStatus]
    · simp [assign, updateCsv, setStatus, same]
  have state : (device.assign tuner_id { device.tuner_allocation_ids tuner_id with
      listener_allocation_ids :=
        (device.tuner_allocation_ids tuner_id).listener_allocation_ids ++ [id] } id).updateUsageState =
      device.updateUsageState := by
    simp only [updateUsageState, counts]
    rfl
  rw [UsageOk, state]
  exact usage

structure Settled (result : Device × Except Raised Bool) : Prop where
  books : Books result.1
  done : ∀ allocated, result.2 = .ok allocated → UsageOk result.1
  refused : ∀ message, result.2 = .error (.allocationAlreadyExists message) → UsageOk result.1

theorem Settled.of_usage (books : Books device) (usage : UsageOk device)
    (outcome : Except Raised Bool) : Settled (device, outcome) :=
  ⟨books, fun _ _ => usage, fun _ _ => usage⟩

theorem Books.finishAllocation (books : Books device)
    (request : FrontendTunerAllocation) (tuner_id : Nat) (answers : AllocationAnswers) :
    Settled (device.finishAllocation request tuner_id answers) := by
  have cleaned : ∀ {next : Device}, SameBooks device next → Settled (next, .error .logicError) := by
    intro next same
    constructor
    · exact same.books books
    · intro allocated done
      cases done
    · intro message refused
      cases refused
  have finished : ∀ {next : Device}, SameBooks device next → Settled (next.refreshUsage, .ok true) := by
    intro next same
    exact .of_usage ((same.trans (sameBooks_refreshUsage next)).books books)
      (usageOk_refreshUsage next) _
  unfold Device.finishAllocation
  dsimp only
  split
  · exact cleaned (.refl device)
  split
  · exact cleaned (.refl device)
  split
  · have same := sameBooks_enableTuner device tuner_id true (answers.deviceEnable tuner_id)
    cases result : device.enableTuner tuner_id true (answers.deviceEnable tuner_id) with
    | mk next outcome =>
        rw [result] at same
        cases outcome with
        | error raised => exact cleaned same
        | ok enabled =>
            cases enabled
            exact finished same
  · exact finished (.refl device)

theorem Books.tryTuners {request : FrontendTunerAllocation} (nonempty : request.allocation_id ≠ "")
    (answers : AllocationAnswers) (tuners : List Nat) (books : Books device)
    (usage : UsageOk device) (bounds : ∀ tuner_id ∈ tuners, tuner_id < device.count)
    (fresh : device.allocation_id_to_tuner_id request.allocation_id = none) :
    Settled (Frontend.tryTuners request answers tuners device) := by
  induction tuners generalizing device with
  | nil => exact .of_usage books usage _
  | cons tuner_id rest ih =>
      have bound : tuner_id < device.count := bounds tuner_id mem_cons_self
      have later : ∀ other ∈ rest, other < device.count :=
        fun other member => bounds other (mem_cons_of_mem tuner_id member)
      -- the next tuner is tried with the status of this one changed
      have skip : ∀ status : TunerStatus, status.allocation_id_csv =
          (device.frontend_tuner_status tuner_id).allocation_id_csv →
          Settled (Frontend.tryTuners request answers rest (device.setStatus tuner_id status)) := by
        intro status csv
        have same : SameBooks device (device.setStatus tuner_id status) := sameBooks_setStatus csv
        exact ih (same.books books) (same.usageOk rfl usage) later fresh
      unfold Frontend.tryTuners
      dsimp only
      split
      next => exact ih books usage later fresh
      split
      next =>
        split
        next => exact skip _ rfl
        next free =>
          have same : SameBooks device (device.setStatus tuner_id
              ((answers.deviceSetTuning tuner_id).apply
                (preload request (device.frontend_tuner_status tuner_id)))) :=
            sameBooks_setStatus rfl
          split
          next => exact .of_usage (same.books books) (same.usageOk rfl usage) _
          next => exact skip _ rfl
          next =>
            have unallocated : (device.tuner_allocation_ids tuner_id).control_allocation_id = "" := by
              simpa using free
            apply Books.finishAllocation
            exact (same.books books).assignControl bound fresh nonempty unallocated
      next =>
        split
        next => exact .of_usage books usage _
        split
        next => exact ih books usage later fresh
        next suitable =>
          apply Books.finishAllocation
          apply books.assignListener bound fresh nonempty
          intro free
          exact suitable (.inl free)

section

variable (books : Books device) (usage : UsageOk device)

include books usage

theorem Books.allocateTuner (answers : AllocationAnswers) : Settled (device.allocateTuner answers) := by
  unfold Device.allocateTuner
  dsimp only
  split
  · exact .of_usage books usage _
  next nonempty =>
    split
    · exact .of_usage books usage _
    next fresh =>
      refine Books.tryTuners nonempty answers _ books usage ?_ ?_
      · exact fun tuner_id member => mem_range.mp member
      · simpa [Device.getTunerMapping] using fresh

theorem Books.allocateListener : Settled device.allocateListener := by
  unfold Device.allocateListener
  dsimp only
  split
  · exact .of_usage books usage _
  split
  · exact .of_usage books usage _
  next nonempty =>
    split
    · exact .of_usage books usage _
    next unused =>
      split
      · exact .of_usage books usage _
      next tuner_id existing =>
        split
        · exact .of_usage books usage _
        · have fresh : device.allocation_id_to_tuner_id
              device.frontend_listener_allocation.listener_allocation_id = none := by
            simpa [getTunerMapping] using unused
          obtain ⟨bound, member⟩ := (books.mapped _ tuner_id).mp existing
          have control : (device.tuner_allocation_ids tuner_id).control_allocation_id ≠ "" := by
            intro free
            have listeners := books.headed tuner_id bound
            rw [idsOf, allIds, if_pos free, nil_append] at member
            exact listeners (ne_nil_of_mem member) free
          exact .of_usage (books.assignListener bound fresh nonempty control)
            (usageOk_assignListener usage tuner_id _) _

theorem Books.allocateFirst (answers : AllocationAnswers) (entries : List Entry) :
    Settled (Frontend.allocateFirst answers entries device) := by
  induction entries with
  | nil => exact .of_usage books usage _
  | cons entry rest ih =>
      unfold Frontend.allocateFirst
      cases entry.capacity with
      | tuner value parses => exact books.allocateTuner usage answers
      | listener value parses => exact books.allocateListener usage
      | scanner parses => exact ih
      | unknown id => exact .of_usage books usage _

end

theorem sameBooks_setProperty (device : Device) (capacity : Capacity) :
    SameBooks device (device.setProperty capacity).1 ∧
      (device.setProperty capacity).1.usageState = device.usageState := by
  cases capacity with
  | tuner value parses => exact ⟨⟨rfl, rfl, rfl, fun _ => rfl⟩, rfl⟩
  | listener value parses => exact ⟨⟨rfl, rfl, rfl, fun _ => rfl⟩, rfl⟩
  | scanner parses => exact ⟨.refl device, rfl⟩
  | unknown id => exact ⟨.refl device, rfl⟩

theorem sameBooks_setProperties (message : String) (entries : List Entry) (device : Device) :
    SameBooks device (setProperties message entries device).1 ∧
      (setProperties message entries device).1.usageState = device.usageState := by
  induction entries generalizing device with
  | nil => exact ⟨.refl device, rfl⟩
  | cons entry rest ih =>
      have set := sameBooks_setProperty device entry.capacity
      unfold setProperties
      split
      next => exact ⟨.refl device, rfl⟩
      next =>
        dsimp only
        split
        next => exact set
        next =>
          have tail := ih (device.setProperty entry.capacity).1
          exact ⟨set.1.trans tail.1, tail.2.trans set.2⟩

theorem sameBooks_checkValidIds (scanning : Bool) (entries : List Entry) (device : Device) :
    SameBooks device (device.checkValidIds scanning entries).1 ∧
      (device.checkValidIds scanning entries).1.usageState = device.usageState := by
  unfold checkValidIds
  split
  · exact sameBooks_setProperties _ entries device
  split
  · exact ⟨.refl device, rfl⟩
  · exact sameBooks_setProperties _ entries device

theorem Books.allocateCapacity (books : Books device) (usage : UsageOk device)
    (scanning : Bool) (entries : List Entry) (answers : AllocationAnswers) :
    Books (Frontend.allocateCapacity scanning entries answers device).1 ∧
      UsageOk (Frontend.allocateCapacity scanning entries answers device).1 := by
  obtain ⟨same, state⟩ := sameBooks_checkValidIds scanning entries device
  unfold Frontend.allocateCapacity
  cases checked : device.checkValidIds scanning entries with
  | mk next outcome =>
      rw [checked] at same state
      have books' := same.books books
      have usage' := same.usageOk state usage
      cases outcome with
      | error raised => exact ⟨books', usage'⟩
      | ok valid =>
          cases valid
          dsimp only
          split
          next => exact ⟨books', usage'⟩
          next =>
            have settled := books'.allocateFirst usage' answers entries
            cases attempt : Frontend.allocateFirst answers entries next with
            | mk after result =>
                rw [attempt] at settled
                have cleaned := settled.books.deallocateCapacity entries
                cases result with
                | ok allocated => exact ⟨settled.books, settled.done allocated rfl⟩
                | error raised =>
                    cases raised with
                    | allocationAlreadyExists message =>
                        exact ⟨settled.books, settled.refused message rfl⟩
                    | logicError => exact ⟨cleaned.books, cleaned.usage⟩
                    | badParameter => exact ⟨cleaned.books, cleaned.usage⟩
                    | invalidCapacity message => exact ⟨cleaned.books, cleaned.usage⟩
                    | other => exact ⟨cleaned.books, cleaned.usage⟩

theorem Books.step (scanning : Bool) (call : DeviceCall) (device : Device)
    (right : Books device ∧ UsageOk device) :
    Books (call.step scanning device) ∧ UsageOk (call.step scanning device) := by
  cases call with
  | allocateCapacity entries answers =>
      exact right.1.allocateCapacity right.2 scanning entries answers
  | deallocateCapacity entries =>
      have freed := right.1.deallocateCapacity entries
      exact ⟨freed.books, freed.usage⟩

theorem Books.new (count : Nat) (statuses : Nat → TunerStatus) (tuner : FrontendTunerAllocation)
    (listener : FrontendListenerAllocation) :
    Books (Device.new count statuses tuner listener) ∧ UsageOk (Device.new count statuses tuner listener) := by
  constructor
  · constructor <;> simp [Device.new, Device.idsOf, allIds, createAllocationIdCsv]
  · simp [UsageOk, Device.new, Device.updateUsageState, Device.allocatedCount]

theorem Bookkept.not_inUse (kept : Bookkept device)
    (unmapped : device.allocation_id_to_tuner_id id = none) : ¬InUse id device := by
  rintro (mapped | ⟨tuner_id, bound, member⟩)
  · exact mapped unmapped
  · rw [(kept.mapped id tuner_id).mpr ⟨bound, member⟩] at unmapped
    cases unmapped

/-- The records agree in every state; and a deallocation that returns leaves none of its IDs in use,
unless a hook throws an exception that the loop skips. -/
theorem tuner_books_agree (scanning : Bool) (count : Nat) (statuses : Nat → TunerStatus)
    (tuner : FrontendTunerAllocation) (listener : FrontendListenerAllocation)
    (calls : List DeviceCall) :
    Bookkept (run (step scanning) (new count statuses tuner listener) calls) ∧
      ∀ entries : List Entry, (∀ entry ∈ entries, entry.Quiet) →
        (deallocateCapacity entries (run (step scanning)
          (new count statuses tuner listener) calls)).2 = .ok () →
        ∀ entry ∈ entries, ∀ id, entry.capacity.namedId = some id →
          ¬InUse id (run (step scanning) (new count statuses tuner listener)
            (calls ++ [.deallocateCapacity entries])) := by
  have right : ∀ calls, Books (run (step scanning)
      (new count statuses tuner listener) calls) ∧ UsageOk (run (step scanning)
        (new count statuses tuner listener) calls) := by
    intro calls
    exact invariant_run (fun device => Books device ∧ UsageOk device)
      (fun call device right _ => Books.step scanning call device right)
      (Books.new count statuses tuner listener) (along_true _ _ calls)
  refine ⟨(right calls).1.bookkept (right calls).2, ?_⟩
  intro entries quiet returns entry member id named
  have after := right (calls ++ [.deallocateCapacity entries])
  apply (after.1.bookkept after.2).not_inUse
  rw [run_append]
  exact ((right calls).1.deallocateCapacity entries).removed quiet returns entry member id named

def answerAs {α : Type} (outcome : Except Raised α) (enabled : Bool) : HookAnswer α :=
  ⟨outcome, 0, 0, 0, enabled⟩

def anyTuner (id : String) : FrontendTunerAllocation :=
  ⟨"RX", id, 0, 0, 0, 0, 0, true, "", ""⟩

theorem tuner_books_agree_released :
    ¬InUse "A" (run (step false) (new 1
      (fun _ => ⟨"RX", "", "", 0, 0, 0, false, ""⟩) (anyTuner "") ⟨"", ""⟩)
      ([.allocateCapacity [⟨.tuner (anyTuner "A") true, answerAs (.ok ()) false, answerAs (.ok true) false⟩]
        ⟨fun _ => answerAs (.ok true) false, fun _ => answerAs (.ok ()) true⟩] ++
        [.deallocateCapacity [⟨.tuner (anyTuner "A") true, answerAs (.ok ()) false,
          answerAs (.ok true) false⟩]])) :=
  (tuner_books_agree false 1 (fun _ => ⟨"RX", "", "", 0, 0, 0, false, ""⟩) (anyTuner "") ⟨"", ""⟩
    [.allocateCapacity [⟨.tuner (anyTuner "A") true, answerAs (.ok ()) false, answerAs (.ok true) false⟩]
      ⟨fun _ => answerAs (.ok true) false, fun _ => answerAs (.ok ()) true⟩]).2
    [⟨.tuner (anyTuner "A") true, answerAs (.ok ()) false, answerAs (.ok true) false⟩]
    (by simp [Entry.Quiet, answerAs]) (by decide +kernel) _ mem_cons_self "A" rfl

theorem throwing_disable_keeps_id :
    ¬∀ (calls : List DeviceCall) (entries : List Entry),
      (deallocateCapacity entries (run (step false) (new 1
        (fun _ => ⟨"RX", "", "", 0, 0, 0, false, ""⟩) (anyTuner "") ⟨"", ""⟩) calls)).2 = .ok () →
      ∀ entry ∈ entries, ∀ id, entry.capacity.namedId = some id →
        ¬InUse id (run (step false) (new 1
          (fun _ => ⟨"RX", "", "", 0, 0, 0, false, ""⟩) (anyTuner "") ⟨"", ""⟩)
          (calls ++ [.deallocateCapacity entries])) := by
  intro always
  have freed := always
    [.allocateCapacity [⟨.tuner (anyTuner "A") true, answerAs (.ok ()) false, answerAs (.ok true) false⟩]
      ⟨fun _ => answerAs (.ok true) false, fun _ => answerAs (.ok ()) true⟩]
    [⟨.tuner (anyTuner "A") true, answerAs (.error .other) true, answerAs (.ok true) false⟩]
    (by decide +kernel) _ mem_cons_self "A" rfl
  apply freed
  left
  decide +kernel

end Redhawk.Frontend
