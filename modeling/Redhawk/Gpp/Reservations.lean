import Mathlib.Data.Finmap
import Mathlib.Tactic.Linarith
import Redhawk.Library.Runs

/-!
The reservation requests of the GPP device (`GPP.cpp`) against the list of the requests granted
and not yet given back, over every run of allocations and deallocations.

Capacities are exact rationals; `strtof` and the `abs` that overload resolution picks are
parameters. A vector read past its end gives `none`: from there on nothing is promised.
-/

namespace Redhawk.Gpp

open Library List Option

structure ReservationRequest where
  objId : String
  kinds : List String
  values : List String
deriving DecidableEq

abbrev Reservation := Finmap fun _ : String => ℚ

abbrev ApplicationReservationMap := Finmap fun _ : String => Reservation

section Model

def Reservation.add (kind : String) (capacity : ℚ) (reservation : Reservation) : Reservation :=
  match reservation.lookup kind with
  | none => reservation.insert kind capacity
  | some amount => reservation.insert kind (amount + capacity)

def Reservation.subtract (kind : String) (capacity : ℚ) (reservation : Reservation) : Reservation :=
  reservation.insert kind ((reservation.lookup kind).getD 0 - capacity)

variable (strtof : String → ℚ) (abs : ℚ → ℚ)

def forKinds (apply : String → ℚ → Reservation → Reservation) :
    List String → List String → Reservation → Option Reservation
  | [], _, reservation => some reservation
  | kind :: kinds, value :: values, reservation =>
      forKinds apply kinds values (apply kind (strtof value) reservation)
  | _ :: _, [], _ => none

/-- The two answers of `isBusy` are `busy`, on entry, and `busyAfter`, after the usage state was
updated. -/
def allocateReservationRequest (busy busyAfter : Bool) (request : ReservationRequest)
    (reservations : ApplicationReservationMap) : Option (Bool × ApplicationReservationMap) :=
  if busy then some (false, reservations)
  else do
    let present := (reservations.lookup request.objId).getD ∅
    let recorded ← forKinds strtof Reservation.add request.kinds request.values present
    if busyAfter then do
      let undone ← forKinds strtof Reservation.subtract request.kinds request.values recorded
      let first ← request.kinds.head?
      if abs ((undone.lookup first).getD 0) ≤ 1 / 10000 then
        some (false, reservations.erase request.objId)
      else some (false, reservations.insert request.objId undone)
    else some (true, reservations.insert request.objId recorded)

def deallocateReservationRequest (request : ReservationRequest)
    (reservations : ApplicationReservationMap) : ApplicationReservationMap :=
  reservations.erase request.objId

/-- `granted` is a history variable, the requests granted and not yet given back. -/
structure GppReservations where
  applicationReservations : ApplicationReservationMap := ∅
  granted : List ReservationRequest := []

inductive ReservationCall where
  | allocate (request : ReservationRequest) (busy busyAfter : Bool)
  | deallocate (request : ReservationRequest)

def ReservationCall.perform : ReservationCall → GppReservations → Option (Bool × GppReservations)
  | .allocate request busy busyAfter, gpp =>
      (allocateReservationRequest strtof abs busy busyAfter request
          gpp.applicationReservations).map fun (answer, reservations) =>
        (answer, { applicationReservations := reservations
                   granted := if answer then request :: gpp.granted else gpp.granted })
  | .deallocate request, gpp =>
      some (true,
        { applicationReservations :=
            deallocateReservationRequest request gpp.applicationReservations
          granted := gpp.granted.erase request })

def serveReservation (call : ReservationCall) (gpp : Option GppReservations) : Option GppReservations :=
  gpp.bind fun gpp => (call.perform strtof abs gpp).map Prod.snd

end Model

section Amounts

def Reservation.amount (reservation : Reservation) (kind : String) : ℚ :=
  (reservation.lookup kind).getD 0

def amountOf (reservations : ApplicationReservationMap) (objId kind : String) : ℚ :=
  ((reservations.lookup objId).getD ∅).amount kind

variable (strtof : String → ℚ)

def asked : List String → List String → String → ℚ
  | kind :: kinds, value :: values, k =>
      (if kind = k then strtof value else 0) + asked kinds values k
  | _, _, _ => 0

def ReservationRequest.share (objId kind : String) (request : ReservationRequest) : ℚ :=
  if request.objId = objId then asked strtof request.kinds request.values kind else 0

def Balanced (gpp : GppReservations) : Prop :=
  ∀ objId kind, amountOf gpp.applicationReservations objId kind =
    (gpp.granted.map (ReservationRequest.share strtof objId kind)).sum

theorem Reservation.amount_add (kind k : String) (capacity : ℚ) (reservation : Reservation) :
    (reservation.add kind capacity).amount k =
      reservation.amount k + if kind = k then capacity else 0 := by
  unfold Reservation.add
  by_cases same : k = kind
  · subst same
    cases found : reservation.lookup k <;> simp [Reservation.amount, found]
  · have other : kind ≠ k := fun equal => same equal.symm
    cases found : reservation.lookup kind <;>
      simp [Reservation.amount, Finmap.lookup_insert_of_ne _ same, other]

theorem Reservation.amount_subtract (kind k : String) (capacity : ℚ) (reservation : Reservation) :
    (reservation.subtract kind capacity).amount k =
      reservation.amount k - if kind = k then capacity else 0 := by
  unfold Reservation.subtract
  by_cases same : k = kind
  · subst same
    simp [Reservation.amount]
  · have other : kind ≠ k := fun equal => same equal.symm
    simp [Reservation.amount, Finmap.lookup_insert_of_ne _ same, other]

theorem Reservation.mem_add {kind k : String} {capacity : ℚ} {reservation : Reservation} :
    k ∈ reservation.add kind capacity ↔ k = kind ∨ k ∈ reservation := by
  unfold Reservation.add
  cases reservation.lookup kind <;> simp [Finmap.mem_insert]

theorem Reservation.mem_subtract {kind k : String} {capacity : ℚ} {reservation : Reservation} :
    k ∈ reservation.subtract kind capacity ↔ k = kind ∨ k ∈ reservation := by
  simp [Reservation.subtract, Finmap.mem_insert]

theorem Reservation.ext_amount {first second : Reservation}
    (kinds : ∀ k, k ∈ first ↔ k ∈ second) (amounts : ∀ k, first.amount k = second.amount k) :
    first = second := by
  apply Finmap.ext_lookup
  intro k
  have same := amounts k
  cases left : first.lookup k with
  | none =>
      have absent : k ∉ second := (kinds k).not.mp (Finmap.lookup_eq_none.mp left)
      rw [Finmap.lookup_eq_none.mpr absent]
  | some amount =>
      have present : k ∈ second := (kinds k).mp (Finmap.mem_iff.mpr ⟨amount, left⟩)
      obtain ⟨other, right⟩ := Finmap.mem_iff.mp present
      simp only [Reservation.amount, left, right, getD_some] at same
      rw [right, same]

end Amounts

section Loops

variable {kinds values : List String} {reservation result : Reservation}

theorem forKinds_returns (strtof : String → ℚ) (apply : String → ℚ → Reservation → Reservation)
    (enough : kinds.length ≤ values.length) (reservation : Reservation) :
    ∃ result, forKinds strtof apply kinds values reservation = some result := by
  induction kinds generalizing values reservation with
  | nil => exact ⟨reservation, by simp [forKinds]⟩
  | cons kind kinds ih =>
      cases values with
      | nil => simp at enough
      | cons value values =>
          simp only [length_cons, Nat.add_le_add_iff_right] at enough
          exact ih enough _

variable {strtof : String → ℚ}

theorem forKinds_mem (apply : String → ℚ → Reservation → Reservation)
    (adds : ∀ kind capacity (r : Reservation) k, k ∈ apply kind capacity r ↔ k = kind ∨ k ∈ r)
    (done : forKinds strtof apply kinds values reservation = some result) (k : String) :
    k ∈ result ↔ k ∈ kinds ∨ k ∈ reservation := by
  induction kinds generalizing values reservation with
  | nil =>
      obtain rfl := some.inj (by simpa [forKinds] using done)
      simp
  | cons kind kinds ih =>
      cases values with
      | nil => simp [forKinds] at done
      | cons value values =>
          rw [ih done, adds, mem_cons]
          tauto

theorem forKinds_add_amount (k : String)
    (done : forKinds strtof Reservation.add kinds values reservation = some result) :
    result.amount k = reservation.amount k + asked strtof kinds values k := by
  induction kinds generalizing values reservation with
  | nil =>
      obtain rfl := some.inj (by simpa [forKinds] using done)
      simp [asked]
  | cons kind kinds ih =>
      cases values with
      | nil => simp [forKinds] at done
      | cons value values =>
          rw [ih done, Reservation.amount_add, asked, add_assoc]

theorem forKinds_subtract_amount (k : String)
    (done : forKinds strtof Reservation.subtract kinds values reservation = some result) :
    result.amount k = reservation.amount k - asked strtof kinds values k := by
  induction kinds generalizing values reservation with
  | nil =>
      obtain rfl := some.inj (by simpa [forKinds] using done)
      simp [asked]
  | cons kind kinds ih =>
      cases values with
      | nil => simp [forKinds] at done
      | cons value values =>
          rw [ih done, Reservation.amount_subtract, asked, sub_sub]

theorem forKinds_undone (strtof : String → ℚ) (enough : kinds.length ≤ values.length)
    (reservation : Reservation) :
    ∃ recorded undone, forKinds strtof Reservation.add kinds values reservation = some recorded ∧
      forKinds strtof Reservation.subtract kinds values recorded = some undone ∧
      (∀ k, undone.amount k = reservation.amount k) ∧
      ∀ k, k ∈ undone ↔ k ∈ kinds ∨ k ∈ reservation := by
  obtain ⟨recorded, records⟩ := forKinds_returns strtof Reservation.add enough reservation
  obtain ⟨undone, undoes⟩ := forKinds_returns strtof Reservation.subtract enough recorded
  refine ⟨recorded, undone, records, undoes, fun k => ?_, fun k => ?_⟩
  · rw [forKinds_subtract_amount k undoes, forKinds_add_amount k records, add_sub_cancel_right]
  · rw [forKinds_mem _ (fun _ _ _ _ => Reservation.mem_subtract) undoes,
      forKinds_mem _ (fun _ _ _ _ => Reservation.mem_add) records]
    tauto

end Loops

section Steps

variable (strtof : String → ℚ) (abs : ℚ → ℚ)

/-- A request that is turned down after it was recorded can be taken back: its object has no
entry, or has one with all the kinds and a first amount that is not taken for zero. -/
def Restorable (reservations : ApplicationReservationMap) (request : ReservationRequest) : Prop :=
  ∃ first, request.kinds.head? = some first ∧
    ∀ reservation, reservations.lookup request.objId = some reservation →
      (∀ kind ∈ request.kinds, kind ∈ reservation) ∧ 1 / 10000 < abs (reservation.amount first)

/-- No call outside what the bookkeeping by object can undo: every kind has a value, a request
turned down late is restorable, and a request is given back alone. -/
def Orderly (call : ReservationCall) (gpp : Option GppReservations) : Prop :=
  ∀ gpp' ∈ gpp, match call with
    | .allocate request busy busyAfter => busy = true ∨
        request.kinds.length ≤ request.values.length ∧
          (busyAfter = true → Restorable abs gpp'.applicationReservations request)
    | .deallocate request =>
        ∀ other ∈ gpp'.granted.erase request, other.objId ≠ request.objId

/-- The call has a defined result that is balanced, and an answer of `false` changes nothing. -/
def Faithful (call : ReservationCall) (gpp : Option GppReservations) : Prop :=
  ∃ before answer after, gpp = some before ∧
    call.perform strtof abs before = some (answer, after) ∧ Balanced strtof after ∧
    (answer = false → after.applicationReservations = before.applicationReservations)

variable {strtof abs} (reservations : ApplicationReservationMap)

theorem amountOf_insert (objId other kind : String) (reservation : Reservation) :
    amountOf (reservations.insert objId reservation) other kind =
      if objId = other then reservation.amount kind else amountOf reservations other kind := by
  by_cases same : other = objId
  · subst same
    simp [amountOf]
  · have differs : objId ≠ other := fun equal => same equal.symm
    simp [amountOf, Finmap.lookup_insert_of_ne _ same, differs]

theorem amountOf_erase (objId other kind : String) :
    amountOf (reservations.erase objId) other kind =
      if objId = other then 0 else amountOf reservations other kind := by
  by_cases same : other = objId
  · subst same
    simp [amountOf, Reservation.amount]
  · have differs : objId ≠ other := fun equal => same equal.symm
    simp [amountOf, Finmap.lookup_erase_ne same, differs]

variable {request : ReservationRequest}

theorem allocate_refused (strtof : String → ℚ) {reservations : ApplicationReservationMap}
    (zero : abs 0 = 0) (enough : request.kinds.length ≤ request.values.length)
    (restorable : Restorable abs reservations request) :
    allocateReservationRequest strtof abs false true request reservations = some (false, reservations) := by
  obtain ⟨first, head, kept⟩ := restorable
  obtain ⟨recorded, undone, records, undoes, amounts, kinds⟩ := forKinds_undone strtof enough
    ((reservations.lookup request.objId).getD ∅)
  have firstAmount : (undone.lookup first).getD 0 =
      ((reservations.lookup request.objId).getD ∅).amount first := amounts first
  simp only [allocateReservationRequest, Bool.false_eq_true, if_false, records, undoes, head,
    bind_eq_bind, bind_some, if_true, firstAmount]
  cases found : reservations.lookup request.objId with
  | none =>
      have nothing : Reservation.amount ((none : Option Reservation).getD ∅) first = 0 := by
        simp [Reservation.amount]
      rw [nothing, zero, if_pos (by norm_num)]
      refine congrArg some (Prod.ext rfl (Finmap.ext_lookup fun objId => ?_))
      by_cases same : objId = request.objId
      · subst same
        rw [Finmap.lookup_erase, found]
      · exact Finmap.lookup_erase_ne same
  | some reservation =>
      obtain ⟨present, positive⟩ := kept reservation found
      rw [getD_some, if_neg (not_le.mpr positive)]
      have restored : undone = reservation := by
        apply Reservation.ext_amount
        · intro k
          rw [kinds k, found, getD_some]
          exact ⟨fun either => either.elim (present k) id, .inr⟩
        · intro k
          rw [amounts k, found, getD_some]
      refine congrArg some (Prod.ext rfl (Finmap.ext_lookup fun objId => ?_))
      by_cases same : objId = request.objId
      · subst same
        rw [Finmap.lookup_insert, restored, found]
      · exact Finmap.lookup_insert_of_ne _ same

variable {gpp : GppReservations}

theorem allocate_granted (abs : ℚ → ℚ)
    (enough : request.kinds.length ≤ request.values.length) (balanced : Balanced strtof gpp) :
    ∃ reservations, allocateReservationRequest strtof abs false false request
        gpp.applicationReservations = some (true, reservations) ∧
      Balanced strtof ⟨reservations, request :: gpp.granted⟩ := by
  obtain ⟨recorded, records⟩ := forKinds_returns strtof Reservation.add enough
    ((gpp.applicationReservations.lookup request.objId).getD ∅)
  refine ⟨gpp.applicationReservations.insert request.objId recorded, ?_, fun objId kind => ?_⟩
  · simp [allocateReservationRequest, records]
  · rw [amountOf_insert, map_cons, sum_cons, ← balanced objId kind]
    by_cases same : request.objId = objId
    · subst same
      rw [if_pos rfl, forKinds_add_amount kind records, ReservationRequest.share, if_pos rfl, add_comm, amountOf]
    · rw [if_neg same, ReservationRequest.share, if_neg same, zero_add]

theorem deallocate_balanced (alone : ∀ other ∈ gpp.granted.erase request, other.objId ≠ request.objId)
    (balanced : Balanced strtof gpp) :
    Balanced strtof ⟨deallocateReservationRequest request gpp.applicationReservations,
      gpp.granted.erase request⟩ := by
  have none : ∀ kind, ((gpp.granted.erase request).map
      (ReservationRequest.share strtof request.objId kind)).sum = 0 := by
    intro kind
    apply sum_eq_zero
    intro share member
    obtain ⟨other, present, rfl⟩ := mem_map.mp member
    rw [ReservationRequest.share, if_neg (alone other present)]
  intro objId kind
  rw [deallocateReservationRequest, amountOf_erase]
  by_cases same : request.objId = objId
  · subst same
    rw [if_pos rfl, none]
  · rw [if_neg same, balanced objId kind]
    by_cases member : request ∈ gpp.granted
    · rw [((perm_cons_erase member).map _).sum_eq, map_cons, sum_cons,
        ReservationRequest.share, if_neg same, zero_add]
    · rw [erase_of_not_mem member]

theorem perform_faithful (zero : abs 0 = 0) {call : ReservationCall}
    (balanced : Balanced strtof gpp) (orderly : Orderly abs call (some gpp)) :
    Faithful strtof abs call (some gpp) := by
  have orderly := orderly gpp rfl
  cases call with
  | allocate request busy busyAfter =>
      rcases orderly with rfl | ⟨enough, restorable⟩
      · exact ⟨gpp, false, gpp, rfl, rfl, balanced, fun _ => rfl⟩
      · cases busy with
        | true => exact ⟨gpp, false, gpp, rfl, rfl, balanced, fun _ => rfl⟩
        | false =>
            cases busyAfter with
            | true =>
                have refused := allocate_refused strtof zero enough (restorable rfl)
                exact ⟨gpp, false, gpp, rfl, by simp [ReservationCall.perform, refused], balanced,
                  fun _ => rfl⟩
            | false =>
                obtain ⟨reservations, granted, after⟩ :=
                  allocate_granted abs enough balanced
                exact ⟨gpp, true, ⟨reservations, request :: gpp.granted⟩, rfl,
                  by simp [ReservationCall.perform, granted], after, fun refused => by cases refused⟩
  | deallocate request =>
      exact ⟨gpp, true, _, rfl, rfl, deallocate_balanced orderly balanced, fun refused => by cases refused⟩

theorem Faithful.serve {call : ReservationCall} {gpp : Option GppReservations}
    (faithful : Faithful strtof abs call gpp) :
    ∃ after, serveReservation strtof abs call gpp = some after ∧ Balanced strtof after := by
  obtain ⟨before, answer, after, rfl, performed, balanced, _⟩ := faithful
  exact ⟨after, by simp [serveReservation, performed], balanced⟩

end Steps

section Examples

def twoCores (objId : String) : ReservationRequest := ⟨objId, ["cpucores"], ["2"]⟩

def magnitude (x : ℚ) : ℚ := if 0 ≤ x then x else -x

end Examples

end Redhawk.Gpp
