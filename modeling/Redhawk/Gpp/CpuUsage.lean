import Mathlib.Algebra.BigOperators.Intervals
import Mathlib.Algebra.BigOperators.ModEq
import Mathlib.Algebra.Order.Field.Basic
import Mathlib.Tactic.Linarith
import Mathlib.Tactic.Ring

/-!
The CPU usage between two readings of `/proc/stat` (`CpuUsageStats`). Floating-point numbers are exact
rationals; sums of counters have the widths of the source.
-/

namespace Redhawk.Gpp

structure CpuStat where
  idx : Nat
  jiffies : List Nat

structure ProcStat where
  all : CpuStat
  cpus : List CpuStat

/-- The entries of `MetricsList` that are ever set. -/
structure Metrics where
  user : ℚ
  system : ℚ
  idle : ℚ

structure CpuUsageStats where
  prev_cpus_stat : List CpuStat
  current_cpus_stat : List CpuStat
  cpus : List Nat
  metrics : Metrics
  average : Metrics
  nhistory : Nat
  history_db : List Metrics
  cpus_all_itv : Int
  cpus_user_itv : Int

namespace CpuUsageStats

/-- `std::accumulate` from the `int` 0 on: every sum is converted back to an `int`. -/
def accumulate (jiffies : List Nat) : Int :=
  jiffies.foldl (fun (sum : Int) (jiffie : Nat) => (sum + jiffie).bmod (2 ^ 32)) 0

def sumUp (amount : CpuStat → Int) (stats : List CpuStat) : Int :=
  stats.foldl (fun accum stat => (accum + amount stat) % 2 ^ 64) 0

/-- The entries that the totals are taken over: those at the positions in the list. -/
def listed (cpus : List Nat) (stats : List CpuStat) : List CpuStat :=
  if cpus = [] then stats else cpus.filterMap fun cpu => stats[cpu]?

def sumJiffies (cpus : List Nat) (stats : List CpuStat) : Int :=
  sumUp (fun stat => accumulate stat.jiffies) (listed cpus stats)

def sumJiffieList (cpus : List Nat) (stats : List CpuStat) (jiffie_max : Nat) : Int :=
  sumUp (fun stat => accumulate (stat.jiffies.take jiffie_max)) (listed cpus stats)

def accumCpu (cpus : List Nat) (cpu_id : Nat) : Bool := decide (cpus = [] ∨ cpu_id ∈ cpus)

def sumJiffieField (cpus : List Nat) (stats : List CpuStat) (jiffie : Nat) : Int :=
  sumUp (fun stat => stat.jiffies.getD jiffie 0) (stats.filter fun stat => accumCpu cpus stat.idx)

def getIntervalTotal (self : CpuUsageStats) : Int :=
  if self.prev_cpus_stat = [] then 0
  else (sumJiffies self.cpus self.current_cpus_stat - sumJiffies self.cpus self.prev_cpus_stat) % 2 ^ 64

def getUserTotal (self : CpuUsageStats) : Int :=
  if self.prev_cpus_stat = [] then 0
  else (sumJiffieList self.cpus self.current_cpus_stat 2 - sumJiffieList self.cpus self.prev_cpus_stat 2) % 2 ^ 64

def calcMetric (self : CpuUsageStats) (jiffie : Nat) (diff_total : Int) : ℚ :=
  let diff_jiffie : Int := (sumJiffieField self.cpus self.current_cpus_stat jiffie -
    sumJiffieField self.cpus self.prev_cpus_stat jiffie) % 2 ^ 64
  if diff_total ≠ 0 then diff_jiffie / diff_total * 100 else 0

def calcAverage (history : List Metrics) (jiffie : Metrics → ℚ) : ℚ :=
  if history.length > 0 then (history.map jiffie).sum / history.length else 0

def pushBack (capacity : Nat) (history : List Metrics) (metrics : Metrics) : List Metrics :=
  (history ++ [metrics]).drop (history.length + 1 - capacity)

def required (cpus : List Nat) (contents : ProcStat) : List CpuStat :=
  if cpus = [] then [contents.all] else contents.cpus

def new (cpus : List Nat) (nhistory : Nat) (contents : ProcStat) : CpuUsageStats :=
  ⟨[], required cpus contents, cpus, ⟨0, 0, 0⟩, ⟨0, 0, 0⟩, nhistory, [], 0, 0⟩

def updateStats (self : CpuUsageStats) (contents : ProcStat) : CpuUsageStats :=
  { self with
    prev_cpus_stat := self.current_cpus_stat
    current_cpus_stat := required self.cpus contents }

/-- `compute_statistics`, where `/proc/stat` holds `contents`. -/
def computeStatistics (self : CpuUsageStats) (contents : ProcStat) : CpuUsageStats :=
  let self := self.updateStats contents
  let total := self.getIntervalTotal
  let metrics := ⟨self.calcMetric 0 total, self.calcMetric 2 total, self.calcMetric 3 total⟩
  let history := pushBack self.nhistory self.history_db metrics
  { self with
    cpus_all_itv := total
    cpus_user_itv := self.getUserTotal
    metrics := metrics
    history_db := history
    average := ⟨calcAverage history Metrics.user, calcAverage history Metrics.system,
      calcAverage history Metrics.idle⟩ }

def after (cpus : List Nat) (nhistory : Nat) (first : ProcStat) (readings : List ProcStat) :
    CpuUsageStats :=
  readings.foldl computeStatistics (new cpus nhistory first)

open Finset

theorem accumulate_eq (jiffies : List Nat) :
    accumulate jiffies = jiffies.sum - 2 ^ 32 * ((jiffies.sum + 2 ^ 31) / 2 ^ 32) := by
  have wrapped : accumulate jiffies = (jiffies.sum : Int).bmod (2 ^ 32) := by
    induction jiffies using List.reverseRecOn with
    | nil => rfl
    | append_singleton front last ih =>
        rw [accumulate, List.foldl_append, ← accumulate, ih]
        simp [Int.bmod_add_bmod]
  rw [wrapped, Int.bmod_def]
  split <;> omega

theorem sumUp_modEq (amount : CpuStat → Int) (stats : List CpuStat) :
    sumUp amount stats ≡ (stats.map amount).sum [ZMOD 2 ^ 64] := by
  induction stats using List.reverseRecOn with
  | nil => rfl
  | append_singleton front last ih =>
      simp only [sumUp, List.foldl_append, List.foldl_cons, List.foldl_nil, List.map_append,
        List.sum_append, List.map_cons, List.map_nil, List.sum_cons, List.sum_nil, add_zero]
      exact (Int.mod_modEq _ _).trans (ih.add_right _)

theorem sum_positions (cpus : List Nat) (stats : List CpuStat) (amount : CpuStat → Int) :
    ((cpus.filterMap fun cpu => stats[cpu]?).map amount).sum =
      ∑ p ∈ range stats.length, cpus.count p * (stats[p]?).elim 0 amount := by
  induction cpus with
  | nil => simp
  | cons cpu cpus ih =>
      have picked : ∑ p ∈ range stats.length, (if cpu = p then 1 else 0) * (stats[p]?).elim 0 amount =
          (stats[cpu]?).elim 0 amount := by
        simp only [ite_mul, one_mul, zero_mul, sum_ite_eq, mem_range]
        split
        · rfl
        · rename_i outside
          simp [List.getElem?_eq_none (Nat.not_lt.mp outside)]
      have counted : ∀ p, ((cpu :: cpus).count p : Int) = cpus.count p + if cpu = p then 1 else 0 := by
        intro p
        simp [List.count_cons]
      simp only [counted, add_mul, sum_add_distrib, ← ih, picked]
      cases at_ : stats[cpu]? <;> simp [at_, add_comm]

theorem sum_identifiers (chosen : CpuStat → Bool) (stats : List CpuStat) (amount : CpuStat → Int) :
    ((stats.filter chosen).map amount).sum =
      ∑ p ∈ range stats.length, (stats[p]?).elim 0 fun stat => if chosen stat then amount stat else 0 := by
  induction stats with
  | nil => rfl
  | cons stat stats ih =>
      rw [List.length_cons, sum_range_succ']
      simp only [List.getElem?_cons_succ, ← ih, List.getElem?_cons_zero, Option.elim_some, List.filter_cons]
      split <;> simp [add_comm]

end CpuUsageStats

section Exactness

open CpuUsageStats

def CpuStat.total (stat : CpuStat) : Int := (stat.jiffies.sum : Nat)

def CpuStat.field (jiffie : Nat) (stat : CpuStat) : Int := stat.jiffies.getD jiffie 0

/-- How often the sum of the counters has left the range of an `int`. -/
def CpuStat.overflows (stat : CpuStat) : Int := (stat.total + 2 ^ 31) / 2 ^ 32

/-- The same CPU later: none of its counters has gone back. -/
def CpuStat.Follows (before after : CpuStat) : Prop :=
  before.idx = after.idx ∧ List.Forall₂ (· ≤ ·) before.jiffies after.jiffies

structure ProcStat.Follows (prev cur : ProcStat) : Prop where
  all : prev.all.Follows cur.all
  cpus : List.Forall₂ CpuStat.Follows prev.cpus cur.cpus

/-- The monitored CPUs are those with the identifiers in the list, and all of them without a list. -/
def monitored (cpus : List Nat) (contents : ProcStat) : List CpuStat :=
  if cpus = [] then [contents.all] else contents.cpus.filter fun stat => decide (stat.idx ∈ cpus)

def growth (cpus : List Nat) (prev cur : ProcStat) (amount : CpuStat → Int) : Int :=
  ((monitored cpus cur).map amount).sum - ((monitored cpus prev).map amount).sum

/-- The usage reported is that of the monitored CPUs between the two readings. -/
structure CpuUsageStats.Exact (cpus : List Nat) (prev cur : ProcStat) (stats : CpuUsageStats) :
    Prop where
  total : stats.cpus_all_itv = growth cpus prev cur CpuStat.total
  percentages : ∀ metric ∈ [(0, stats.metrics.user), (2, stats.metrics.system), (3, stats.metrics.idle)],
    metric.2 = 100 * (growth cpus prev cur (CpuStat.field metric.1) : ℚ) /
      growth cpus prev cur CpuStat.total ∧ 0 ≤ metric.2 ∧ metric.2 ≤ 100
  together : stats.metrics.user + stats.metrics.system + stats.metrics.idle ≤ 100

/-- Each position in the file is in the list once where the CPU there has an identifier in the list, and
not at all otherwise. -/
def Aligned (cpus ids : List Nat) : Prop :=
  ∀ p id, ids[p]? = some id → cpus.count p % 2 ^ 64 = if id ∈ cpus then 1 else 0

variable {cpus ids : List Nat} {prev cur : ProcStat}

theorem listed_modEq (aligned : Aligned cpus (prev.cpus.map CpuStat.idx)) (amount : CpuStat → Int) :
    ((listed cpus (required cpus prev)).map amount).sum ≡ ((monitored cpus prev).map amount).sum
      [ZMOD 2 ^ 64] := by
  by_cases every : cpus = []
  · simp [listed, required, monitored, every]
  · simp only [listed, required, monitored, every, if_false]
    rw [sum_positions, sum_identifiers]
    refine Int.ModEq.sum fun p _ => ?_
    cases at_ : prev.cpus[p]? with
    | none => simp
    | some stat =>
        have count := aligned p stat.idx (by simp [at_])
        have agrees : (cpus.count p : Int) ≡ if stat.idx ∈ cpus then 1 else 0 [ZMOD 2 ^ 64] := by
          split at count <;> simp_all [Int.ModEq] <;> omega
        simpa [ite_mul] using agrees.mul_right (amount stat)

theorem growth_add (first second : CpuStat → Int) :
    growth cpus prev cur (fun stat => first stat + second stat) =
      growth cpus prev cur first + growth cpus prev cur second := by
  simp only [growth, List.sum_map_add]
  omega

theorem growth_nonneg (cpus : List Nat) (follows : prev.Follows cur) {amount : CpuStat → Int}
    (grows : ∀ before after, CpuStat.Follows before after → amount before ≤ amount after) :
    0 ≤ growth cpus prev cur amount := by
  have paired : List.Forall₂ CpuStat.Follows (monitored cpus prev) (monitored cpus cur) := by
    unfold monitored
    split
    · exact .cons follows.all .nil
    · exact List.rel_filter (fun _ _ same => by simp [same.1]) follows.cpus
  have sums : ((monitored cpus prev).map amount).sum ≤ ((monitored cpus cur).map amount).sum := by
    refine List.Forall₂.sum_le_sum ?_
    rw [List.forall₂_map_left_iff, List.forall₂_map_right_iff]
    exact paired.imp grows
  exact Int.sub_nonneg_of_le sums

theorem growth_accumulate :
    growth cpus prev cur (fun stat => accumulate stat.jiffies) =
      growth cpus prev cur CpuStat.total - 2 ^ 32 * growth cpus prev cur CpuStat.overflows := by
  have parts : (fun stat : CpuStat => accumulate stat.jiffies) =
      fun stat => stat.total + -2 ^ 32 * stat.overflows := by
    funext stat
    rw [accumulate_eq, CpuStat.overflows, CpuStat.total]
    omega
  rw [parts, growth_add]
  simp only [growth, List.sum_map_mul_left]
  omega

theorem filter_required (contents : ProcStat) :
    (required cpus contents).filter (fun stat => accumCpu cpus stat.idx) = monitored cpus contents := by
  by_cases every : cpus = [] <;> simp [required, monitored, accumCpu, every]

theorem fields_bounded {before after : CpuStat} (follows : before.Follows after) :
    before.field 0 ≤ after.field 0 ∧ before.field 2 ≤ after.field 2 ∧ before.field 3 ≤ after.field 3 ∧
      before.total - (before.field 0 + before.field 2 + before.field 3) ≤
        after.total - (after.field 0 + after.field 2 + after.field 3) := by
  obtain ⟨_, early⟩ := before
  obtain ⟨_, late⟩ := after
  obtain ⟨_, counters⟩ := follows
  simp only [CpuStat.field, CpuStat.total] at counters ⊢
  rcases counters with _ | ⟨user, _ | ⟨nice, _ | ⟨system, _ | ⟨idle, rest⟩⟩⟩⟩
  case cons.cons.cons.cons =>
    have others := rest.sum_le_sum
    simp only [List.sum_cons, List.getD_cons_zero, List.getD_cons_succ]
    omega
  all_goals simp <;> omega

theorem growth_fields (cpus : List Nat) (follows : prev.Follows cur) :
    0 ≤ growth cpus prev cur (CpuStat.field 0) ∧ 0 ≤ growth cpus prev cur (CpuStat.field 2) ∧
      0 ≤ growth cpus prev cur (CpuStat.field 3) ∧ growth cpus prev cur (CpuStat.field 0) +
        growth cpus prev cur (CpuStat.field 2) + growth cpus prev cur (CpuStat.field 3) ≤
          growth cpus prev cur CpuStat.total := by
  have others := growth_nonneg cpus follows fun _ _ pair => (fields_bounded pair).2.2.2
  have parts : CpuStat.total = fun stat => stat.field 0 + (stat.field 2 + (stat.field 3 +
      (stat.total - (stat.field 0 + stat.field 2 + stat.field 3)))) := by
    funext stat
    omega
  refine ⟨growth_nonneg cpus follows fun _ _ pair => (fields_bounded pair).1,
    growth_nonneg cpus follows fun _ _ pair => (fields_bounded pair).2.1,
    growth_nonneg cpus follows fun _ _ pair => (fields_bounded pair).2.2.1, ?_⟩
  rw [parts, growth_add, growth_add, growth_add]
  omega

section Step

variable {self : CpuUsageStats} (list : self.cpus = cpus)
  (seen : self.current_cpus_stat = required cpus prev)
include list seen

theorem total_listed (empty : required cpus prev = [] → required cpus cur = []) :
    (self.computeStatistics cur).cpus_all_itv =
      (((listed cpus (required cpus cur)).map fun stat => accumulate stat.jiffies).sum -
        ((listed cpus (required cpus prev)).map fun stat => accumulate stat.jiffies).sum) % 2 ^ 64 := by
  simp only [computeStatistics, updateStats, getIntervalTotal, seen, list]
  split
  · rename_i none_
    simp [none_, empty none_, listed]
  · exact (sumUp_modEq _ _).sub (sumUp_modEq _ _)

theorem total_computed (follows : prev.Follows cur) (aligned : Aligned cpus (prev.cpus.map CpuStat.idx)) :
    (self.computeStatistics cur).cpus_all_itv = (growth cpus prev cur CpuStat.total -
      2 ^ 32 * growth cpus prev cur CpuStat.overflows) % 2 ^ 64 := by
  have same : cur.cpus.map CpuStat.idx = prev.cpus.map CpuStat.idx :=
    (List.forall₂_eq_eq_eq ▸ List.forall₂_map_left_iff.mpr (List.forall₂_map_right_iff.mpr
      (follows.cpus.imp fun _ _ pair => pair.1)) : prev.cpus.map CpuStat.idx = _).symm
  have empty : required cpus prev = [] → required cpus cur = [] := by
    unfold required
    split
    · exact nofun
    · exact fun none_ => List.forall₂_nil_left_iff.mp (none_ ▸ follows.cpus)
  rw [total_listed list seen empty, ← growth_accumulate]
  exact (listed_modEq (same ▸ aligned) _).sub (listed_modEq aligned _)

theorem metric_computed (jiffie : Nat) (total : Int) :
    (self.updateStats cur).calcMetric jiffie total = if total ≠ 0 then
      ((growth cpus prev cur (CpuStat.field jiffie) % 2 ^ 64 : Int) : ℚ) / total * 100 else 0 := by
  have sums : (sumJiffieField cpus (required cpus cur) jiffie -
      sumJiffieField cpus (required cpus prev) jiffie) % 2 ^ 64 =
        growth cpus prev cur (CpuStat.field jiffie) % 2 ^ 64 := by
    simp only [sumJiffieField, filter_required]
    exact (sumUp_modEq _ _).sub (sumUp_modEq _ _)
  simp only [calcMetric, updateStats, list, seen, sums]

theorem metric_exact {jiffie : Nat} {total : Int} (below : 0 ≤ growth cpus prev cur (CpuStat.field jiffie))
    (above : growth cpus prev cur (CpuStat.field jiffie) ≤ total) (small : total < 2 ^ 64) :
    let metric := (self.updateStats cur).calcMetric jiffie total
    metric = 100 * (growth cpus prev cur (CpuStat.field jiffie) : ℚ) / total ∧ 0 ≤ metric ∧ metric ≤ 100 := by
  intro metric
  have value : metric = 100 * (growth cpus prev cur (CpuStat.field jiffie) : ℚ) / total := by
    refine (metric_computed list seen jiffie total).trans ?_
    rw [Int.emod_eq_of_lt below (above.trans_lt small)]
    split
    · ring
    · rename_i zero
      simp [not_not.mp zero]
  have nonneg : (0 : ℚ) ≤ growth cpus prev cur (CpuStat.field jiffie) := Int.cast_nonneg below
  have most : (growth cpus prev cur (CpuStat.field jiffie) : ℚ) ≤ total := Int.cast_le.mpr above
  refine ⟨value, value ▸ div_nonneg (by linarith) (by linarith), value ▸ ?_⟩
  exact div_le_of_le_mul₀ (by linarith) (by norm_num) (by linarith)

theorem exact_iff (follows : prev.Follows cur) (aligned : Aligned cpus (prev.cpus.map CpuStat.idx)) :
    (self.computeStatistics cur).Exact cpus prev cur ↔
      growth cpus prev cur CpuStat.total < 2 ^ 64 ∧ 2 ^ 32 ∣ growth cpus prev cur CpuStat.overflows := by
  have computed := total_computed list seen follows aligned
  obtain ⟨user, system, idle, within⟩ := growth_fields cpus follows
  constructor
  · intro exact_
    have total := exact_.total
    omega
  · rintro ⟨small, times⟩
    have total : (self.updateStats cur).getIntervalTotal = growth cpus prev cur CpuStat.total :=
      computed.trans (by omega)
    have first := metric_exact list seen user (by omega) small
    have second := metric_exact list seen system (by omega) small
    have third := metric_exact list seen idle (by omega) small
    refine ⟨total, ?_, ?_⟩
    · simp only [computeStatistics, total, List.forall_mem_cons]
      exact ⟨first, second, third, fun _ none => absurd none List.not_mem_nil⟩
    · simp only [computeStatistics, total, first.1, second.1, third.1, ← add_div, ← mul_add]
      refine div_le_of_le_mul₀ (Int.cast_nonneg (by omega)) (by norm_num) ?_
      exact mul_le_mul_of_nonneg_left (by exact_mod_cast within) (by norm_num)

end Step

variable (nhistory : Nat)

theorem after_snoc (first cur : ProcStat) (readings : List ProcStat) :
    after cpus nhistory first (readings ++ [cur]) =
      (after cpus nhistory first readings).computeStatistics cur := by
  simp [after]

theorem after_state (first : ProcStat) (readings : List ProcStat) :
    let stats := after cpus nhistory first readings
    stats.cpus = cpus ∧ stats.nhistory = nhistory ∧
      stats.current_cpus_stat = required cpus (readings.getLastD first) := by
  induction readings using List.reverseRecOn with
  | nil => exact ⟨rfl, rfl, rfl⟩
  | append_singleton readings cur ih =>
      obtain ⟨list, capacity, _⟩ := ih
      rw [after_snoc, List.getLastD_concat]
      exact ⟨list, capacity, by simp [computeStatistics, updateStats, list]⟩

def percentages (cpus : List Nat) (nhistory : Nat) (first : ProcStat) (readings : List ProcStat) :
    List Metrics :=
  (List.range readings.length).map fun call =>
    (after cpus nhistory first (readings.take (call + 1))).metrics

theorem percentages_snoc (first cur : ProcStat) (readings : List ProcStat) :
    percentages cpus nhistory first (readings ++ [cur]) = percentages cpus nhistory first readings ++
      [(after cpus nhistory first (readings ++ [cur])).metrics] := by
  simp only [percentages, List.length_append, List.length_singleton, List.range_succ, List.map_append,
    List.map_singleton]
  congr 1
  · refine List.map_congr_left fun call inside => ?_
    rw [List.take_append_of_le_length (List.mem_range.mp inside)]
  · rw [List.take_of_length_le (by simp)]

theorem history_percentages (first : ProcStat) (readings : List ProcStat) :
    (after cpus nhistory first readings).history_db =
      (percentages cpus nhistory first readings).drop (readings.length - nhistory) := by
  induction readings using List.reverseRecOn with
  | nil => simp [after, new, percentages]
  | append_singleton readings cur ih =>
      have count : (percentages cpus nhistory first readings).length = readings.length := by
        simp [percentages]
      have pushed : (after cpus nhistory first (readings ++ [cur])).history_db =
          pushBack (after cpus nhistory first readings).nhistory
            (after cpus nhistory first readings).history_db
            (after cpus nhistory first (readings ++ [cur])).metrics := by
        rw [after_snoc]
        rfl
      rw [pushed, (after_state nhistory first readings).2.1, percentages_snoc, pushBack, ih,
        ← List.drop_append_of_le_length (by omega), List.drop_drop]
      simp
      omega

def mean (history : List Metrics) (jiffie : Metrics → ℚ) : ℚ :=
  (history.map jiffie).sum / history.length

theorem calcAverage_eq (history : List Metrics) (jiffie : Metrics → ℚ) :
    calcAverage history jiffie = mean history jiffie := by
  unfold calcAverage
  split
  · rfl
  · rename_i none_
    simp [mean, List.eq_nil_of_length_eq_zero (Nat.le_zero.mp (Nat.not_lt.mp none_))]

def pulse (ids : List Nat) (position jiffies : Nat) : ProcStat :=
  ⟨⟨0, []⟩, ids.mapIdx fun p id => ⟨id, [if p = position then jiffies else 0]⟩⟩

theorem pulse_follows (ids : List Nat) (position : Nat) :
    (pulse ids position 0).Follows (pulse ids position 1) := by
  refine ⟨⟨rfl, .nil⟩, List.forall₂_iff_get.mpr ⟨by simp [pulse], fun p _ _ => ?_⟩⟩
  simp only [pulse, List.get_eq_getElem, List.getElem_mapIdx]
  exact ⟨rfl, .cons (by split <;> simp) .nil⟩

theorem sum_pulse {position id : Nat} (at_ : ids[position]? = some id) (jiffies : Nat)
    (times : Nat → Int) (amount : CpuStat → Int) (silent : ∀ id, amount ⟨id, [0]⟩ = 0) :
    ∑ p ∈ Finset.range (pulse ids position jiffies).cpus.length,
      times p * ((pulse ids position jiffies).cpus[p]?).elim 0 amount =
        times position * amount ⟨id, [jiffies]⟩ := by
  rw [Finset.sum_eq_single position]
  · simp [pulse, at_]
  · intro p _ other
    cases found : ids[p]? <;> simp [pulse, found, other, silent]
  · intro outside
    have inside := (List.getElem?_eq_some_iff.mp at_).1
    simp [pulse, inside] at outside

theorem growth_pulse (some_ : cpus ≠ []) {position id : Nat} (at_ : ids[position]? = some id)
    {amount : CpuStat → Int} (silent : ∀ id, amount ⟨id, [0]⟩ = 0) :
    growth cpus (pulse ids position 0) (pulse ids position 1) amount =
      if id ∈ cpus then amount ⟨id, [1]⟩ else 0 := by
  have sums (jiffies : Nat) : ((monitored cpus (pulse ids position jiffies)).map amount).sum =
      if id ∈ cpus then amount ⟨id, [jiffies]⟩ else 0 := by
    have pulsed := sum_pulse at_ jiffies (fun _ => 1)
      (fun stat => if decide (stat.idx ∈ cpus) then amount stat else 0) (by simp [silent])
    rw [monitored, if_neg some_, sum_identifiers]
    simpa using pulsed
  simp [growth, sums, silent]

end Exactness

open CpuUsageStats in
/-- The averages are the means of the last percentages. The percentages and totals are right as long as
the list selects the same CPUs by position as by identifier and no sum of counters outgrows its type. -/
theorem cpu_usage_exact_iff (cpus ids : List Nat) :
    (∀ nhistory first readings cur,
      let last := (percentages cpus nhistory first (readings ++ [cur])).drop
        ((readings ++ [cur]).length - nhistory)
      (after cpus nhistory first (readings ++ [cur])).average =
        ⟨mean last Metrics.user, mean last Metrics.system, mean last Metrics.idle⟩) ∧
    (Aligned cpus ids ↔ ∀ nhistory first readings cur,
      let prev := readings.getLastD first
      prev.cpus.map CpuStat.idx = ids → prev.Follows cur →
      ((after cpus nhistory first (readings ++ [cur])).Exact cpus prev cur ↔
        growth cpus prev cur CpuStat.total < 2 ^ 64 ∧ 2 ^ 32 ∣ growth cpus prev cur CpuStat.overflows)) := by
  refine ⟨fun nhistory first readings cur => ?_, ?_, ?_⟩
  · rw [← history_percentages]
    simp only [after_snoc, computeStatistics, calcAverage_eq]
  · intro aligned nhistory first readings cur prev named follows
    have state := @after_state cpus nhistory first readings
    rw [after_snoc]
    exact exact_iff state.1 state.2.2 follows (named ▸ aligned)
  · intro right p id at_
    by_cases none_ : cpus = []
    · simp [none_]
    · have counts (jiffies : Nat) :
          ((listed cpus (required cpus (pulse ids p jiffies))).map fun stat =>
            accumulate stat.jiffies).sum = cpus.count p * accumulate [jiffies] := by
        rw [listed, required, if_neg none_, if_neg none_, sum_positions]
        exact sum_pulse at_ jiffies (fun p => cpus.count p) (fun stat => accumulate stat.jiffies)
          fun _ => rfl
      have empty : required cpus (pulse ids p 0) = [] → required cpus (pulse ids p 1) = [] := by
        simp [required, none_, pulse]
      have total : growth cpus (pulse ids p 0) (pulse ids p 1) CpuStat.total =
          if id ∈ cpus then 1 else 0 := growth_pulse none_ at_ fun _ => rfl
      have overflows : growth cpus (pulse ids p 0) (pulse ids p 1) CpuStat.overflows = 0 := by
        rw [growth_pulse none_ at_ fun _ => by simp [CpuStat.overflows, CpuStat.total]]
        simp [CpuStat.overflows, CpuStat.total]
      have exact_ := (right 5 (pulse ids p 0) [] (pulse ids p 1)
        (List.ext_getElem (by simp [pulse]) (by simp [pulse])) (pulse_follows ids p)).mpr
          ⟨total ▸ by split <;> decide, overflows ▸ dvd_zero _⟩
      have computed := exact_.total
      have state := @after_state cpus 5 (pulse ids p 0) []
      rw [after_snoc, total_listed state.1 state.2.2 empty, List.getLastD_nil, total, counts, counts,
        (by decide : accumulate [1] = 1), (by decide : accumulate [0] = 0)] at computed
      split at computed <;> rename_i listed_ <;> simp only [listed_, if_true, if_false] <;> omega

/-- With CPU 1 offline the totals are those of CPU 3 where the list has CPU 2; and a sum that leaves the
range of an `int` makes a total that is almost 2⁶⁴. -/
theorem cpu_usage_misread :
    let offline (jiffies : Nat) : ProcStat :=
      ⟨⟨0, [9, 0, 0, 9]⟩, [⟨0, [1, 0, 0, 0]⟩, ⟨2, [0, 0, jiffies, 0]⟩, ⟨3, [1, 0, 0, 5 * jiffies]⟩]⟩
    let long (jiffies : Nat) : ProcStat := ⟨⟨0, [0, 0, 0, jiffies]⟩, []⟩
    let stats := CpuUsageStats.after [2] 5 (offline 1) [offline 3]
    let whole := CpuUsageStats.after [] 5 (long (2 ^ 31 - 1)) [long (2 ^ 31)]
    stats.cpus_all_itv = 10 ∧ growth [2] (offline 1) (offline 3) CpuStat.total = 2 ∧
      stats.metrics.system = 20 ∧ ¬stats.Exact [2] (offline 1) (offline 3) ∧
      whole.cpus_all_itv = 2 ^ 64 - 2 ^ 32 + 1 ∧
      ¬whole.Exact [] (long (2 ^ 31 - 1)) (long (2 ^ 31)) := by
  refine ⟨by decide +kernel, by decide +kernel, by decide +kernel, fun exact_ => ?_,
    by decide +kernel, fun exact_ => ?_⟩ <;> exact absurd exact_.total (by decide +kernel)

end Redhawk.Gpp
