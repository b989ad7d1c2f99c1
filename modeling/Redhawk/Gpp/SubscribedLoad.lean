import Mathlib.Algebra.Order.BigOperators.Group.List
import Mathlib.Tactic.FieldSimp
import Mathlib.Tactic.Ring
import Redhawk.Gpp.ProcessGroups
import Redhawk.Gpp.Reservations

/-!
The load that the GPP device has subscribed (`updateProcessStats`): what the components use, and what
they and their applications have reserved beyond that. Floating-point numbers are exact rationals.
-/

namespace Redhawk.Gpp

open List

section Model

structure Utilization where
  component_load : ℚ
  system_load : ℚ
  subscribed : ℚ
  maximum : ℚ

structure GppStats where
  processor_cores : Nat
  cores_pos : 0 < processor_cores
  reserved_capacity_per_component : ℚ
  thresholds_ignore : Bool
  thresholds_cpu_idle : ℚ
  modified_cpu_idle : ℚ
  systemTicks : Int
  userTicks : Int
  groups : ProcessGroups
  pids : List MeasuredComponent
  applicationReservations : AList fun _ : String => Reservation
  n_reservations : Nat
  utilization : Utilization

def MeasuredComponent.get_process_time (groups : ProcessGroups) (ticks : Int → Option Int)
    (component : MeasuredComponent) : Int :=
  match groups.grp_children.lookup (component.pid : Int) with
  | none => 0
  | some grp => ((grp.pids.mapM ticks).map sum).getD (-1)

def MeasuredComponent.add_history (ptime : Int) (component : MeasuredComponent) : MeasuredComponent :=
  let ptime := if ptime < 0 then 0 else ptime
  let pstat_idx := component.pstat_idx + 1
  { component with
    pstat_idx := pstat_idx
    pstat_history := fun index =>
      if index = pstat_idx then BitVec.ofInt 64 ptime else component.pstat_history index }

def MeasuredComponent.get_pstat_usage (component : MeasuredComponent) : Int :=
  (component.pstat_history component.pstat_idx - component.pstat_history (component.pstat_idx - 1)).toInt

namespace GppStats

variable (gpp : GppStats)

def idle_capacity_modifier : ℚ :=
  100 * gpp.reserved_capacity_per_component / gpp.processor_cores

def cpucores (appName : String) : Option ℚ :=
  (gpp.applicationReservations.lookup appName).bind fun reservation => reservation.lookup "cpucores"

def measure (ticks : Int → Option Int) (inverse_load_per_core : ℚ) (component : MeasuredComponent) :
    MeasuredComponent :=
  if component.terminated then component
  else
    let component := component.add_history (component.get_process_time gpp.groups ticks)
    { component with core_usage := component.get_pstat_usage * inverse_load_per_core }

end GppStats

structure LoadTotals where
  usage : String → ℚ := fun _ => 0
  reservation_set : ℚ := 0
  nres : Nat := 0
  aggregate_usage : ℚ := 0
  non_specialized_aggregate_usage : ℚ := 0

namespace LoadTotals

def use (appName : String) (percent_core : ℚ) (totals : LoadTotals) : LoadTotals :=
  { totals with
    usage := Function.update totals.usage appName (totals.usage appName + percent_core) }

def reserve (percent : ℚ) (totals : LoadTotals) : LoadTotals :=
  { totals with reservation_set := totals.reservation_set + percent }

def specialized (load : ℚ) (totals : LoadTotals) : LoadTotals :=
  { totals with aggregate_usage := totals.aggregate_usage + load }

def nonSpecialized (load : ℚ) (totals : LoadTotals) : LoadTotals :=
  { totals with
    non_specialized_aggregate_usage := totals.non_specialized_aggregate_usage + load }

def count (totals : LoadTotals) : LoadTotals := { totals with nres := totals.nres + 1 }

end LoadTotals

namespace GppStats

variable (gpp : GppStats)

def visit (inverse_load_per_core : ℚ) (totals : LoadTotals) (component : MeasuredComponent) : LoadTotals :=
  if component.terminated then totals
  else
    let percent_core := component.core_usage
    let res := component.reservation
    let totals :=
      if (gpp.cpucores component.appName).isSome then totals.use component.appName percent_core
      else totals
    if component.app_started then
      let totals :=
        if percent_core < res then
          totals.reserve (100 * (res - percent_core) / gpp.processor_cores)
        else totals
      if res = -1 then totals.nonSpecialized (percent_core / inverse_load_per_core)
      else totals.specialized (percent_core / inverse_load_per_core)
    else if (gpp.cpucores component.appName).isSome then totals
    else if res = -1 then totals.count.reserve gpp.idle_capacity_modifier
    else totals.count.reserve (100 * res / gpp.processor_cores)

def found_app (pids : List MeasuredComponent) : Bool :=
  pids.any fun component => (gpp.applicationReservations.lookup component.appName).isSome

def addApplication (pids : List MeasuredComponent) (usage : String → ℚ) (reservation_set : ℚ)
    (application : Σ _ : String, Reservation) : ℚ :=
  match application.2.lookup "cpucores" with
  | none => reservation_set
  | some reserved =>
    if !gpp.found_app pids then
      reservation_set +
        if reserved = -1 then gpp.idle_capacity_modifier
        else 100 * reserved / gpp.processor_cores
    else if usage application.1 < reserved then
      reservation_set + 100 * (reserved - usage application.1) / gpp.processor_cores
    else reservation_set

/-- `system` and `user` are what the clocks show. -/
def updateProcessStats {lexicalCast : String → Option Int} {getpagesize : Nat}
    (snapshot : Snapshot lexicalCast getpagesize) (ticks : Int → Option Int) (system user : Int) :
    GppStats :=
  let gpp := { gpp with groups := gpp.groups.update_grp_child_pids snapshot }
  let system_elapsed := system - gpp.systemTicks
  let user_elapsed := user - gpp.userTicks
  let inverse_load_per_core : ℚ := gpp.processor_cores / system_elapsed
  let pids := gpp.pids.map (gpp.measure ticks inverse_load_per_core)
  let totals := pids.foldl (gpp.visit inverse_load_per_core) {}
  let reservation_set := gpp.applicationReservations.entries.foldl
    (gpp.addApplication pids totals.usage) totals.reservation_set
  let component_load := totals.aggregate_usage * inverse_load_per_core +
    totals.non_specialized_aggregate_usage * inverse_load_per_core
  let estimate_total : ℚ := user_elapsed * inverse_load_per_core
  let limited := !gpp.thresholds_ignore && decide (0 ≤ gpp.thresholds_cpu_idle)
  { gpp with
    systemTicks := system
    userTicks := user
    pids := pids
    n_reservations := totals.nres
    modified_cpu_idle :=
      if limited then gpp.thresholds_cpu_idle + reservation_set else gpp.modified_cpu_idle
    utilization := {
      component_load := component_load
      system_load := max component_load estimate_total
      subscribed := reservation_set * gpp.processor_cores / 100 + component_load
      maximum :=
        if limited then gpp.processor_cores * (1 - gpp.thresholds_cpu_idle / 100)
        else gpp.processor_cores } }

end GppStats

end Model

namespace GppStats

variable (gpp : GppStats)

def shortfall (reserved used : ℚ) : ℚ := max 0 (reserved - used)

def orDefault (reserved : ℚ) : ℚ :=
  if reserved = -1 then gpp.reserved_capacity_per_component else reserved

def componentShare (component : MeasuredComponent) : ℚ :=
  if component.terminated then 0
  else if component.app_started then shortfall component.reservation component.core_usage
  else if (gpp.cpucores component.appName).isSome then 0
  else gpp.orDefault component.reservation

def ownUsage (pids : List MeasuredComponent) (appName : String) : ℚ :=
  (pids.map fun component =>
    if component.terminated = false ∧ component.appName = appName then component.core_usage
    else 0).sum

def applicationShare (pids : List MeasuredComponent) (application : Σ _ : String, Reservation) : ℚ :=
  match application.2.lookup "cpucores" with
  | none => 0
  | some reserved =>
    if reserved = -1 ∧ ∀ component ∈ pids, component.appName ≠ application.1 then
      gpp.reserved_capacity_per_component
    else shortfall reserved (ownUsage pids application.1)

def measuredLoad (pids : List MeasuredComponent) : ℚ :=
  (pids.map fun component =>
    if component.terminated = false ∧ component.app_started = true then component.core_usage
    else 0).sum

def subscribedLoad (pids : List MeasuredComponent) : ℚ :=
  measuredLoad pids + (pids.map gpp.componentShare).sum +
    (gpp.applicationReservations.entries.map (gpp.applicationShare pids)).sum

/-- If a process belongs to an application with an entry, the default reservation is nothing or each
application that reserves -1 cores has a process; otherwise no other negative amount is reserved. -/
structure Separate (pids : List MeasuredComponent) : Prop where
  own : gpp.found_app pids = true → gpp.reserved_capacity_per_component = 0 ∨
    ∀ application ∈ gpp.applicationReservations.entries,
      application.2.lookup "cpucores" = some (-1) → ∃ component ∈ pids, component.appName = application.1
  amounts : gpp.found_app pids = false → ∀ application ∈ gpp.applicationReservations.entries,
    ∀ reserved, application.2.lookup "cpucores" = some reserved → reserved ≠ -1 → 0 ≤ reserved

theorem percent_orDefault (reserved : ℚ) : 100 * gpp.orDefault reserved / gpp.processor_cores =
    if reserved = -1 then gpp.idle_capacity_modifier else 100 * reserved / gpp.processor_cores := by
  unfold orDefault
  split
  · rfl
  · rfl

theorem percent_shortfall (reserved used : ℚ) :
    100 * shortfall reserved used / gpp.processor_cores =
      if used < reserved then 100 * (reserved - used) / gpp.processor_cores else 0 := by
  unfold shortfall
  split
  next below => rw [max_eq_right (sub_nonneg.mpr below.le)]
  next enough => rw [max_eq_left (sub_nonpos.mpr (not_lt.mp enough)), mul_zero, zero_div]

section

variable (inverse_load_per_core : ℚ) (totals : LoadTotals) (component : MeasuredComponent)

theorem visit_reservation_set :
    (gpp.visit inverse_load_per_core totals component).reservation_set =
      totals.reservation_set + 100 * gpp.componentShare component / gpp.processor_cores := by
  unfold visit componentShare
  simp only [apply_ite LoadTotals.reservation_set, LoadTotals.use, LoadTotals.reserve,
    LoadTotals.specialized, LoadTotals.nonSpecialized, LoadTotals.count, ite_self]
  split
  · rw [mul_zero, zero_div, add_zero]
  · split
    · rw [percent_shortfall, add_ite, add_zero]
    · split
      · rw [mul_zero, zero_div, add_zero]
      · rw [percent_orDefault, add_ite]

theorem visit_usage {appName : String} (shared : (gpp.cpucores appName).isSome = true) :
    (gpp.visit inverse_load_per_core totals component).usage appName =
      totals.usage appName +
        if component.terminated = false ∧ component.appName = appName then component.core_usage
        else 0 := by
  unfold visit
  simp only [apply_ite LoadTotals.usage, LoadTotals.use, LoadTotals.reserve,
    LoadTotals.specialized, LoadTotals.nonSpecialized, LoadTotals.count, ite_self]
  cases ended : component.terminated with
  | true => simp
  | false =>
      by_cases own : component.appName = appName
      · subst own
        simp [shared]
      · have other : appName ≠ component.appName := fun same => own same.symm
        simp [own, other, apply_ite (fun usage : String → ℚ => usage appName)]

theorem visit_load :
    (gpp.visit inverse_load_per_core totals component).aggregate_usage +
        (gpp.visit inverse_load_per_core totals component).non_specialized_aggregate_usage =
      totals.aggregate_usage + totals.non_specialized_aggregate_usage +
        if component.terminated = false ∧ component.app_started = true then
          component.core_usage / inverse_load_per_core
        else 0 := by
  unfold visit
  simp only [apply_ite LoadTotals.aggregate_usage,
    apply_ite LoadTotals.non_specialized_aggregate_usage, LoadTotals.use, LoadTotals.reserve,
    LoadTotals.specialized, LoadTotals.nonSpecialized, LoadTotals.count, ite_self]
  cases ended : component.terminated with
  | true => simp
  | false =>
      cases started : component.app_started with
      | false => simp
      | true =>
          by_cases specific : component.reservation = -1
          · simp [specific, add_assoc]
          · simp [specific, add_right_comm]

end

section Loop

variable (inverse_load_per_core : ℚ) (totals : LoadTotals) (pids : List MeasuredComponent)

theorem fold_reservation_set :
    (pids.foldl (gpp.visit inverse_load_per_core) totals).reservation_set =
      totals.reservation_set + 100 * (pids.map gpp.componentShare).sum / gpp.processor_cores := by
  induction pids generalizing totals with
  | nil => simp
  | cons component rest ih =>
      rw [foldl_cons, ih, visit_reservation_set, map_cons, sum_cons]
      ring

theorem fold_usage {appName : String} (shared : (gpp.cpucores appName).isSome = true) :
    (pids.foldl (gpp.visit inverse_load_per_core) totals).usage appName =
      totals.usage appName + ownUsage pids appName := by
  unfold ownUsage
  induction pids generalizing totals with
  | nil => simp
  | cons component rest ih =>
      rw [foldl_cons, ih, gpp.visit_usage _ _ _ shared, map_cons, sum_cons, add_assoc]

theorem fold_load :
    (pids.foldl (gpp.visit inverse_load_per_core) totals).aggregate_usage +
        (pids.foldl (gpp.visit inverse_load_per_core) totals).non_specialized_aggregate_usage =
      totals.aggregate_usage + totals.non_specialized_aggregate_usage +
        measuredLoad pids / inverse_load_per_core := by
  unfold measuredLoad
  induction pids generalizing totals with
  | nil => simp
  | cons component rest ih =>
      rw [foldl_cons, ih, visit_load, map_cons, sum_cons, add_div, add_assoc]
      split
      · rfl
      · rw [zero_div]

end Loop

def addedShare (pids : List MeasuredComponent) (application : Σ _ : String, Reservation) : ℚ :=
  match application.2.lookup "cpucores" with
  | none => 0
  | some reserved =>
    if gpp.found_app pids then shortfall reserved (ownUsage pids application.1)
    else gpp.orDefault reserved

variable {application : Σ _ : String, Reservation}

theorem cpucores_of_mem (member : application ∈ gpp.applicationReservations.entries) :
    gpp.cpucores application.1 = application.2.lookup "cpucores" := by
  unfold cpucores
  rw [Option.mem_def.mp (AList.mem_lookup_iff.mpr member)]
  rfl

variable {pids : List MeasuredComponent}

theorem addApplication_share {inverse_load_per_core : ℚ}
    (member : application ∈ gpp.applicationReservations.entries) (reservation_set : ℚ) :
    gpp.addApplication pids (pids.foldl (gpp.visit inverse_load_per_core) {}).usage reservation_set
        application =
      reservation_set + 100 * gpp.addedShare pids application / gpp.processor_cores := by
  have reserves := gpp.cpucores_of_mem member
  unfold addApplication addedShare
  cases found : application.2.lookup "cpucores" with
  | none => simp
  | some reserved =>
      rw [found] at reserves
      have shared : (gpp.cpucores application.1).isSome = true := by
        rw [reserves]
        rfl
      have usage := gpp.fold_usage inverse_load_per_core {} pids shared
      rw [zero_add] at usage
      rw [usage]
      cases present : gpp.found_app pids with
      | false => simp [percent_orDefault]
      | true =>
          simp only [Bool.not_true, Bool.false_eq_true, if_false, if_true]
          rw [percent_shortfall, add_ite, add_zero]

theorem fold_applications (inverse_load_per_core : ℚ) (pids : List MeasuredComponent) :
    ∀ (applications : List (Σ _ : String, Reservation)) (reservation_set : ℚ),
      (∀ application ∈ applications, application ∈ gpp.applicationReservations.entries) →
      applications.foldl
          (gpp.addApplication pids (pids.foldl (gpp.visit inverse_load_per_core) {}).usage)
          reservation_set =
        reservation_set + 100 * (applications.map (gpp.addedShare pids)).sum /
          gpp.processor_cores := by
  intro applications
  induction applications with
  | nil => simp
  | cons application rest ih =>
      intro reservation_set members
      rw [foldl_cons, gpp.addApplication_share (members application mem_cons_self),
        ih _ fun other member => members other (mem_cons_of_mem _ member), map_cons,
        sum_cons]
      ring

theorem measuredLoad_cancel {ticks : Int → Option Int} {inverse_load_per_core : ℚ}
    (pids : List MeasuredComponent) :
    measuredLoad (pids.map (gpp.measure ticks inverse_load_per_core)) / inverse_load_per_core *
        inverse_load_per_core =
      measuredLoad (pids.map (gpp.measure ticks inverse_load_per_core)) := by
  by_cases stopped : inverse_load_per_core = 0
  · -- nothing is measured while the clock stands
    have nothing : measuredLoad (pids.map (gpp.measure ticks inverse_load_per_core)) = 0 := by
      unfold measuredLoad
      rw [map_map]
      apply sum_eq_zero
      intro load member
      obtain ⟨component, -, rfl⟩ := mem_map.mp member
      cases ended : component.terminated with
      | true => simp [measure, ended]
      | false => simp [measure, ended, stopped]
    rw [nothing, zero_div, zero_mul]
  · exact div_mul_cancel₀ _ stopped

section Update

variable {lexicalCast : String → Option Int} {getpagesize : Nat}
  (snapshot : Snapshot lexicalCast getpagesize) (ticks : Int → Option Int) (system user : Int)

theorem update_component_load :
    (gpp.updateProcessStats snapshot ticks system user).utilization.component_load =
      measuredLoad (gpp.updateProcessStats snapshot ticks system user).pids := by
  let after : GppStats := { gpp with groups := gpp.groups.update_grp_child_pids snapshot }
  let inverse_load_per_core : ℚ := gpp.processor_cores / ((system - gpp.systemTicks : Int) : ℚ)
  let pids := gpp.pids.map (after.measure ticks inverse_load_per_core)
  let totals := pids.foldl (after.visit inverse_load_per_core) {}
  have load := after.fold_load inverse_load_per_core {} pids
  have cancel : measuredLoad pids / inverse_load_per_core * inverse_load_per_core =
      measuredLoad pids := after.measuredLoad_cancel gpp.pids
  change totals.aggregate_usage * inverse_load_per_core +
    totals.non_specialized_aggregate_usage * inverse_load_per_core = measuredLoad pids
  rw [← add_mul, load, zero_add, zero_add, cancel]

theorem update_subscribed :
    (gpp.updateProcessStats snapshot ticks system user).utilization.subscribed =
      measuredLoad (gpp.updateProcessStats snapshot ticks system user).pids +
        ((gpp.updateProcessStats snapshot ticks system user).pids.map gpp.componentShare).sum +
        (gpp.applicationReservations.entries.map
          (gpp.addedShare (gpp.updateProcessStats snapshot ticks system user).pids)).sum := by
  let after : GppStats := { gpp with groups := gpp.groups.update_grp_child_pids snapshot }
  have cores : (after.processor_cores : ℚ) ≠ 0 := Nat.cast_ne_zero.mpr gpp.cores_pos.ne'
  let inverse_load_per_core : ℚ := gpp.processor_cores / ((system - gpp.systemTicks : Int) : ℚ)
  let pids := gpp.pids.map (after.measure ticks inverse_load_per_core)
  let totals := pids.foldl (after.visit inverse_load_per_core) {}
  have shares := after.fold_reservation_set inverse_load_per_core {} pids
  have applications := after.fold_applications inverse_load_per_core pids
    after.applicationReservations.entries totals.reservation_set fun _ member => member
  have subscribed : (gpp.updateProcessStats snapshot ticks system user).utilization.subscribed =
      after.applicationReservations.entries.foldl (after.addApplication pids totals.usage)
          totals.reservation_set * after.processor_cores / 100 +
        (gpp.updateProcessStats snapshot ticks system user).utilization.component_load := rfl
  rw [subscribed, applications, shares, update_component_load, zero_add]
  change _ = _ + (pids.map after.componentShare).sum +
    (after.applicationReservations.entries.map (after.addedShare pids)).sum
  have cancel : ∀ first second : ℚ, (100 * first / after.processor_cores +
      100 * second / after.processor_cores) * after.processor_cores / 100 = first + second := by
    intro first second
    field_simp [cores]
  rw [cancel, add_comm, add_assoc]

end Update

theorem sum_map_eq_iff {α : Type} {f g : α → ℚ} {items : List α} (below : ∀ item ∈ items, f item ≤ g item) :
    (items.map f).sum = (items.map g).sum ↔ ∀ item ∈ items, f item = g item := by
  induction items with
  | nil => simp
  | cons item rest ih =>
      obtain ⟨first, others⟩ := forall_mem_cons.mp below
      have sums := sum_le_sum others
      rw [map_cons, map_cons, sum_cons, sum_cons, forall_mem_cons, ← ih others]
      constructor
      · intro same
        exact ⟨by linarith, by linarith⟩
      · rintro ⟨one, all⟩
        rw [one, all]

theorem found_own (member : application ∈ gpp.applicationReservations.entries) {component : MeasuredComponent}
    (listed : component ∈ pids) (own : component.appName = application.1) :
    gpp.found_app pids = true := by
  apply any_eq_true.mpr
  refine ⟨component, listed, ?_⟩
  rw [own, Option.mem_def.mp (AList.mem_lookup_iff.mpr member)]
  rfl

theorem ownUsage_of_none {appName : String}
    (none : ∀ component ∈ pids, component.appName ≠ appName) : ownUsage pids appName = 0 := by
  apply sum_eq_zero
  intro usage member
  obtain ⟨component, listed, rfl⟩ := mem_map.mp member
  rw [if_neg fun both => none component listed both.2]

def Unplaced (pids : List MeasuredComponent) (application : Σ _ : String, Reservation) : Prop :=
  application.2.lookup "cpucores" = some (-1) ∧ ∀ component ∈ pids, component.appName ≠ application.1

theorem share_of_unplaced (found : gpp.found_app pids = true) (unplaced : Unplaced pids application) :
    gpp.addedShare pids application = 0 ∧
      gpp.applicationShare pids application = gpp.reserved_capacity_per_component := by
  obtain ⟨reserves, none⟩ := unplaced
  constructor
  · simp [addedShare, reserves, found, ownUsage_of_none none, shortfall]
  · simp only [applicationShare, reserves]
    exact if_pos ⟨trivial, none⟩

theorem share_of_placed (found : gpp.found_app pids = true) (placed : ¬Unplaced pids application) :
    gpp.addedShare pids application = gpp.applicationShare pids application := by
  unfold addedShare applicationShare
  cases reserves : application.2.lookup "cpucores" with
  | none => rfl
  | some reserved =>
      dsimp only
      rw [if_pos found, if_neg]
      rintro ⟨rfl, none⟩
      exact placed ⟨reserves, none⟩

theorem share_of_none (member : application ∈ gpp.applicationReservations.entries)
    (absent : gpp.found_app pids = false) :
    gpp.addedShare pids application ≤ gpp.applicationShare pids application ∧
      (gpp.addedShare pids application = gpp.applicationShare pids application ↔
        ∀ reserved, application.2.lookup "cpucores" = some reserved → reserved ≠ -1 → 0 ≤ reserved) := by
  have none : ∀ component ∈ pids, component.appName ≠ application.1 := by
    intro component listed own
    have found := gpp.found_own member listed own
    exact absurd (absent.symm.trans found) Bool.false_ne_true
  unfold addedShare applicationShare
  cases reserves : application.2.lookup "cpucores" with
  | none => simp
  | some reserved =>
      simp only [absent, Bool.false_eq_true, if_false, ownUsage_of_none none, orDefault, shortfall,
        sub_zero, Option.some.injEq, forall_eq']
      by_cases default : reserved = -1
      · rw [if_pos default, if_pos ⟨default, none⟩]
        exact ⟨le_rfl, iff_of_true rfl fun other => absurd default other⟩
      · rw [if_neg default, if_neg fun both => default both.1, right_eq_sup]
        exact ⟨le_max_right _ _, fun positive _ => positive, fun positive => positive default⟩

theorem shares_eq_iff_of_found (found : gpp.found_app pids = true) :
    (gpp.applicationReservations.entries.map (gpp.addedShare pids)).sum =
        (gpp.applicationReservations.entries.map (gpp.applicationShare pids)).sum ↔
      gpp.reserved_capacity_per_component = 0 ∨
        ∀ application ∈ gpp.applicationReservations.entries, ¬Unplaced pids application := by
  have each : ∀ application, gpp.addedShare pids application = gpp.applicationShare pids application ∨
      gpp.addedShare pids application = 0 ∧
        gpp.applicationShare pids application = gpp.reserved_capacity_per_component := by
    intro application
    by_cases unplaced : Unplaced pids application
    · exact .inr (gpp.share_of_unplaced found unplaced)
    · exact .inl (gpp.share_of_placed found unplaced)
  -- the differences all have the sign of the default reservation
  have all : (gpp.applicationReservations.entries.map (gpp.addedShare pids)).sum =
        (gpp.applicationReservations.entries.map (gpp.applicationShare pids)).sum ↔
      ∀ application ∈ gpp.applicationReservations.entries,
        gpp.addedShare pids application = gpp.applicationShare pids application := by
    rcases le_total 0 gpp.reserved_capacity_per_component with positive | negative
    · apply sum_map_eq_iff
      intro application _
      rcases each application with same | ⟨zero, default⟩
      · exact same.le
      · rw [zero, default]
        exact positive
    · rw [eq_comm, sum_map_eq_iff]
      · simp only [eq_comm]
      · intro application _
        rcases each application with same | ⟨zero, default⟩
        · exact same.ge
        · rw [zero, default]
          exact negative
  rw [all]
  constructor
  · intro same
    by_cases default : gpp.reserved_capacity_per_component = 0
    · exact .inl default
    · refine .inr fun application member unplaced => default ?_
      obtain ⟨zero, reserved⟩ := gpp.share_of_unplaced found unplaced
      rw [← reserved, ← same application member, zero]
  · rintro (default | placed) application member
    · rcases each application with same | ⟨zero, reserved⟩
      · exact same
      · rw [zero, reserved, default]
    · exact gpp.share_of_placed found (placed application member)

theorem shares_eq_iff (pids : List MeasuredComponent) :
    (gpp.applicationReservations.entries.map (gpp.addedShare pids)).sum =
        (gpp.applicationReservations.entries.map (gpp.applicationShare pids)).sum ↔
      gpp.Separate pids := by
  cases found : gpp.found_app pids with
  | false =>
      rw [sum_map_eq_iff fun application member => (gpp.share_of_none member found).1]
      constructor
      · intro same
        refine ⟨fun present => ?_, fun _ application member => ?_⟩
        · exact absurd (found.symm.trans present) Bool.false_ne_true
        · exact (gpp.share_of_none member found).2.mp (same application member)
      · intro separate application member
        exact (gpp.share_of_none member found).2.mpr (separate.amounts found application member)
  | true =>
      rw [gpp.shares_eq_iff_of_found found]
      constructor
      · intro either
        refine ⟨fun _ => either.imp_right fun placed application member reserves => ?_, fun absent => ?_⟩
        · by_contra none
          exact placed application member ⟨reserves, fun component listed own =>
            none ⟨component, listed, own⟩⟩
        · exact absurd (absent.symm.trans found) Bool.false_ne_true
      · intro separate
        refine (separate.own found).imp_right fun own application member => ?_
        rintro ⟨reserves, none⟩
        obtain ⟨component, listed, same⟩ := own application member reserves
        exact none component listed same

variable {change : MeasuredComponent → MeasuredComponent}

section

variable (names : ∀ component, (change component).appName = component.appName)
  (pids : List MeasuredComponent)

include names

theorem found_app_map : gpp.found_app (pids.map change) = gpp.found_app pids := by
  unfold found_app
  rw [any_map]
  congr 1
  funext component
  exact congrArg (fun appName => (gpp.applicationReservations.lookup appName).isSome)
    (names component)

theorem separate_map : gpp.Separate (pids.map change) ↔ gpp.Separate pids := by
  have own : ∀ appName, (∃ component ∈ pids.map change, component.appName = appName) ↔
      ∃ component ∈ pids, component.appName = appName := by
    intro appName
    simp [names]
  constructor
  · rintro ⟨placed, amounts⟩
    simp only [gpp.found_app_map names, own] at placed amounts
    exact ⟨placed, amounts⟩
  · rintro ⟨placed, amounts⟩
    constructor
    · simp only [gpp.found_app_map names, own]
      exact placed
    · simp only [gpp.found_app_map names]
      exact amounts

end

theorem measure_appName (ticks : Int → Option Int) (inverse_load_per_core : ℚ) (component : MeasuredComponent) :
    (gpp.measure ticks inverse_load_per_core component).appName = component.appName := by
  unfold measure
  split
  · rfl
  · rfl

section Update

variable {lexicalCast : String → Option Int} {getpagesize : Nat}
  (snapshot : Snapshot lexicalCast getpagesize) (ticks : Int → Option Int) (system user : Int)

/-- The component load is measured; the load that an update subscribes is that of the components and
of each application's own processes just when `Separate` holds. -/
theorem update_subscribed_iff :
    (gpp.updateProcessStats snapshot ticks system user).utilization.component_load =
        measuredLoad (gpp.updateProcessStats snapshot ticks system user).pids ∧
      ((gpp.updateProcessStats snapshot ticks system user).utilization.subscribed =
          gpp.subscribedLoad (gpp.updateProcessStats snapshot ticks system user).pids ↔
        gpp.Separate gpp.pids) := by
  refine ⟨gpp.update_component_load snapshot ticks system user, ?_⟩
  rw [update_subscribed, subscribedLoad, add_right_inj, shares_eq_iff]
  exact gpp.separate_map (measure_appName _ ticks _) gpp.pids

end Update

end GppStats

def noProcesses : Snapshot digitCast 4096 where
  names := []
  stat := fun _ => []
  distinct := nodup_nil
  readable := by
    intro pid member
    cases member

def waitingApplication : GppStats where
  processor_cores := 8
  cores_pos := by decide
  reserved_capacity_per_component := 1
  thresholds_ignore := true
  thresholds_cpu_idle := 0
  modified_cpu_idle := 0
  systemTicks := 0
  userTicks := 0
  groups := .new
  pids := [⟨⟨5, "a", "a_1", true, false, false, 0⟩, 0, 0, fun _ => 0, 0⟩]
  applicationReservations := (AList.singleton "a" ∅).insert "b" (Finmap.singleton "cpucores" (-1))
  n_reservations := 0
  utilization := ⟨0, 0, 0, 8⟩

theorem waiting_application_unsubscribed :
    ¬∀ (gpp : GppStats) (ticks : Int → Option Int) (system user : Int),
      (gpp.updateProcessStats noProcesses ticks system user).utilization.subscribed =
        gpp.subscribedLoad (gpp.updateProcessStats noProcesses ticks system user).pids := by
  intro always
  have same := always waitingApplication (fun _ => none) 800 0
  revert same
  decide +kernel

end Redhawk.Gpp
