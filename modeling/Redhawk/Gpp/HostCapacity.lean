import Mathlib.Data.Rat.Floor
import Redhawk.Library.Pool
import Redhawk.Library.Runs

/-!
The memory, load and multicast capacities of the GPP device (`GPP.cpp`), over every run of
allocations, deallocations and threshold changes. Floating-point numbers are exact rationals.
-/

namespace Redhawk.Gpp

open Library Int

section Model

structure GppConfig where
  memInitFree : Nat
  threshMemFreeUnits : Nat
  memCapUnits : Nat
  loadTotal : ℚ
  mcastnicInterface : String
  mcastnicIngressTotal : Int
  mcastnicEgressTotal : Int

structure Thresholds where
  ignore : Bool
  loadAvg : ℚ
  memFree : Int

/-- The fields that end in `Held` are history variables, the amounts allocated and not yet
deallocated. -/
structure GppCapacity where
  memCapacity : Int
  memCapacityThreshold : Int
  loadCapacity : ℚ
  loadFree : ℚ
  mcastnicIngressCapacity : Int
  mcastnicIngressThresholdValue : ℚ
  mcastnicEgressCapacity : Int
  mcastnicEgressThresholdValue : ℚ
  memHeld : List Int := []
  loadHeld : List ℚ := []
  ingressHeld : List Int := []
  egressHeld : List Int := []

def truncate (x : ℚ) : Int := if 0 ≤ x then ⌊x⌋ else ⌈x⌉

/-- `(int64_t)(mem_free * thresh_mem_free_units)`, an unsigned product taken as a signed number. -/
def memThreshold (config : GppConfig) (memFree : Int) : Int :=
  (BitVec.ofInt 64 (memFree * config.threshMemFreeUnits)).toInt

def memInitCapacityPercent (config : GppConfig) (memFree : Int) : ℚ :=
  let percent := ((config.memInitFree - memThreshold config memFree : Int) : ℚ) / config.memInitFree
  if percent < 0 then 100 else percent

def memLimit (config : GppConfig) (percent : ℚ) : Int :=
  truncate (config.memInitFree * percent) / config.memCapUnits

def thresholdsChanged (config : GppConfig) (nv : Thresholds) (gpp : GppCapacity) : GppCapacity :=
  let gpp := if nv.ignore || decide (nv.memFree < 0) then gpp else
    let memCapacity := memLimit config (memInitCapacityPercent config nv.memFree)
    { gpp with memCapacity := memCapacity, memCapacityThreshold := memCapacity }
  if nv.ignore || decide (nv.loadAvg < 0) then gpp else
    let loadCapacity := config.loadTotal * (nv.loadAvg / 100)
    { gpp with loadCapacity := loadCapacity, loadFree := loadCapacity }

def GppCapacity.startUp (config : GppConfig) (thresholds : Thresholds) (mcastnicThreshold : Int) : GppCapacity :=
  let loadCapacity := if thresholds.ignore || decide (thresholds.loadAvg < 0) then config.loadTotal
    else config.loadTotal * (thresholds.loadAvg / 100)
  let memCapacity := memLimit config
    (if thresholds.ignore || decide (thresholds.memFree < 0) then 100
      else memInitCapacityPercent config thresholds.memFree)
  let ingress : ℚ := config.mcastnicIngressTotal * (mcastnicThreshold / 100)
  let egress : ℚ := config.mcastnicEgressTotal * (mcastnicThreshold / 100)
  thresholdsChanged config thresholds
    { memCapacity := memCapacity
      memCapacityThreshold := memCapacity
      loadCapacity := loadCapacity
      loadFree := loadCapacity
      mcastnicIngressCapacity := truncate ingress
      mcastnicIngressThresholdValue := ingress
      mcastnicEgressCapacity := truncate egress
      mcastnicEgressThresholdValue := egress }

def adjustCapacity (origThreshold thresholdValue : ℚ) (capacity : Int) : Int :=
  if origThreshold < thresholdValue then truncate (capacity + (thresholdValue - origThreshold))
  else if thresholdValue < capacity then truncate thresholdValue
  else capacity

def mcastnicThresholdChanged (config : GppConfig) (newvalue : Int) (gpp : GppCapacity) : GppCapacity :=
  if 0 ≤ newvalue ∧ newvalue ≤ 100 then
    let origIngressThreshold := gpp.mcastnicIngressThresholdValue
    let origEgressThreshold := gpp.mcastnicIngressThresholdValue
    let ingress : ℚ := config.mcastnicIngressTotal * (newvalue / 100)
    let egress : ℚ := config.mcastnicEgressTotal * (newvalue / 100)
    { gpp with
      mcastnicIngressThresholdValue := ingress
      mcastnicEgressThresholdValue := egress
      mcastnicIngressCapacity :=
        adjustCapacity origIngressThreshold ingress gpp.mcastnicIngressCapacity
      mcastnicEgressCapacity :=
        adjustCapacity origEgressThreshold egress gpp.mcastnicEgressCapacity }
  else gpp

def capped (capacity limit : Int) : Int := if limit < capacity then limit else capacity

def allocateMemCapacity (value : Int) (busy : Bool) (gpp : GppCapacity) : Bool × GppCapacity :=
  if busy || decide (gpp.memCapacity < value) || decide (gpp.memCapacityThreshold < value) then
    (false, gpp)
  else (true, { gpp with
    memCapacity := gpp.memCapacity - value
    memHeld := value :: gpp.memHeld })

def deallocateMemCapacity (value : Int) (gpp : GppCapacity) : GppCapacity :=
  { gpp with
    memCapacity := capped (gpp.memCapacity + value) gpp.memCapacityThreshold
    memHeld := gpp.memHeld.erase value }

def allocateLoadCapacity (value : ℚ) (busy : Bool) (reservedCapacityPerComponent : ℚ)
    (gpp : GppCapacity) : Bool × GppCapacity :=
  if busy then (false, gpp)
  else if reservedCapacityPerComponent = 0 then
    if gpp.loadCapacity < value then (false, gpp)
    else (true, { gpp with
      loadCapacity := gpp.loadCapacity - value
      loadHeld := value :: gpp.loadHeld })
  else (true, { gpp with
    loadCapacity := if gpp.loadCapacity - value < 0 then 0 else gpp.loadCapacity - value
    loadHeld := value :: gpp.loadHeld })

def deallocateLoadCapacity (value : ℚ) (gpp : GppCapacity) : GppCapacity :=
  { gpp with
    loadCapacity := if gpp.loadFree < gpp.loadCapacity + value then gpp.loadFree
      else gpp.loadCapacity + value
    loadHeld := gpp.loadHeld.erase value }

def mcastRefused (config : GppConfig) (value capacity : Int) : Bool :=
  config.mcastnicInterface == "" || decide (capacity < value)

def mcastReturned (value capacity : Int) (thresholdValue : ℚ) : Int :=
  if thresholdValue < (value + capacity : Int) then truncate thresholdValue else value + capacity

def allocateMcastIngressCapacity (config : GppConfig) (value : Int) (gpp : GppCapacity) :
    Bool × GppCapacity :=
  if mcastRefused config value gpp.mcastnicIngressCapacity then (false, gpp)
  else (true, { gpp with
    mcastnicIngressCapacity := gpp.mcastnicIngressCapacity - value
    ingressHeld := value :: gpp.ingressHeld })

def deallocateMcastIngressCapacity (value : Int) (gpp : GppCapacity) : GppCapacity :=
  { gpp with
    mcastnicIngressCapacity :=
      mcastReturned value gpp.mcastnicIngressCapacity gpp.mcastnicIngressThresholdValue
    ingressHeld := gpp.ingressHeld.erase value }

def allocateMcastEgressCapacity (config : GppConfig) (value : Int) (gpp : GppCapacity) :
    Bool × GppCapacity :=
  if mcastRefused config value gpp.mcastnicEgressCapacity then (false, gpp)
  else (true, { gpp with
    mcastnicEgressCapacity := gpp.mcastnicEgressCapacity - value
    egressHeld := value :: gpp.egressHeld })

def deallocateMcastEgressCapacity (value : Int) (gpp : GppCapacity) : GppCapacity :=
  { gpp with
    mcastnicEgressCapacity :=
      mcastReturned value gpp.mcastnicEgressCapacity gpp.mcastnicEgressThresholdValue
    egressHeld := gpp.egressHeld.erase value }

inductive CapacityCall where
  | allocateMem (value : Int) (busy : Bool)
  | deallocateMem (value : Int)
  | allocateLoad (value : ℚ) (busy : Bool) (reservedCapacityPerComponent : ℚ)
  | deallocateLoad (value : ℚ)
  | allocateIngress (value : Int)
  | deallocateIngress (value : Int)
  | allocateEgress (value : Int)
  | deallocateEgress (value : Int)
  | thresholdsChanged (nv : Thresholds)
  | mcastnicThresholdChanged (newvalue : Int)

def serveCapacity (config : GppConfig) : CapacityCall → GppCapacity → GppCapacity
  | .allocateMem value busy, gpp => (allocateMemCapacity value busy gpp).2
  | .deallocateMem value, gpp => deallocateMemCapacity value gpp
  | .allocateLoad value busy reserved, gpp => (allocateLoadCapacity value busy reserved gpp).2
  | .deallocateLoad value, gpp => deallocateLoadCapacity value gpp
  | .allocateIngress value, gpp => (allocateMcastIngressCapacity config value gpp).2
  | .deallocateIngress value, gpp => deallocateMcastIngressCapacity value gpp
  | .allocateEgress value, gpp => (allocateMcastEgressCapacity config value gpp).2
  | .deallocateEgress value, gpp => deallocateMcastEgressCapacity value gpp
  | .thresholdsChanged nv, gpp => thresholdsChanged config nv gpp
  | .mcastnicThresholdChanged newvalue, gpp => mcastnicThresholdChanged config newvalue gpp

end Model

section Multicast

variable {own thresholdValue : ℚ} {capacity value : Int} {held : List Int}

theorem truncate_of_nonneg {x : ℚ} (nonneg : 0 ≤ x) : truncate x = ⌊x⌋ := by
  rw [truncate, if_pos nonneg]

theorem mcastReturned_eq (nonneg : 0 ≤ thresholdValue) :
    mcastReturned value capacity thresholdValue =
      if ⌊thresholdValue⌋ < capacity + value then ⌊thresholdValue⌋ else capacity + value := by
  rw [mcastReturned, truncate_of_nonneg nonneg, add_comm value capacity]
  simp only [floor_lt]

structure Adjustable (own thresholdValue : ℚ) (held : List Int) : Prop where
  nonneg : 0 ≤ thresholdValue
  raised : own < thresholdValue → held.sum ≤ ⌊own⌋ ∧ fract own ≤ fract thresholdValue
  lowered : thresholdValue ≤ own → held = [] ∨ ⌊thresholdValue⌋ = ⌊own⌋ ∨ ⌊thresholdValue⌋ = 0 ∨ ⌊own⌋ ≤ held.sum

theorem floor_add_sub (own thresholdValue : ℚ) (capacity : Int)
    (fractions : fract own ≤ fract thresholdValue) :
    ⌊(capacity : ℚ) + (thresholdValue - own)⌋ = capacity + (⌊thresholdValue⌋ - ⌊own⌋) := by
  rw [floor_eq_iff]
  have ownSplit := floor_add_fract own
  have newSplit := floor_add_fract thresholdValue
  have ownNonneg := fract_nonneg own
  have newLess := fract_lt_one thresholdValue
  push_cast
  constructor <;> linarith

theorem pooled_adjust (pooled : Pooled capacity ⌊own⌋ held) (adjustable : Adjustable own thresholdValue held) :
    Pooled (adjustCapacity own thresholdValue capacity) ⌊thresholdValue⌋ held where
  exact := by
    have sumNonneg : 0 ≤ held.sum := List.sum_nonneg fun a member => (pooled.positive a member).le
    have exact := pooled.exact
    simp only [available] at exact ⊢
    rw [adjustCapacity]
    split
    · rename_i raise
      obtain ⟨fits, fractions⟩ := adjustable.raised raise
      have floors : ⌊own⌋ ≤ ⌊thresholdValue⌋ := floor_le_floor raise.le
      have capacityNonneg : (0 : ℚ) ≤ capacity := by
        exact_mod_cast exact ▸ le_max_left 0 (⌊own⌋ - held.sum)
      rw [truncate_of_nonneg (by linarith), floor_add_sub own thresholdValue capacity fractions]
      omega
    · rename_i keep
      have lower := not_lt.mp keep
      have floors : ⌊thresholdValue⌋ ≤ ⌊own⌋ := floor_le_floor lower
      have newNonneg : 0 ≤ ⌊thresholdValue⌋ := floor_nonneg.mpr adjustable.nonneg
      have below : thresholdValue < capacity ↔ ⌊thresholdValue⌋ < capacity := floor_lt.symm
      rw [truncate_of_nonneg adjustable.nonneg]
      simp only [below]
      rcases adjustable.lowered lower with rfl | same | none | full
      · simp only [List.sum_nil] at exact sumNonneg ⊢
        split <;> omega
      · split <;> omega
      · split <;> omega
      · split <;> omega
  nonneg := floor_nonneg.mpr adjustable.nonneg
  positive := pooled.positive

end Multicast

section Memory

variable {config : GppConfig} {memFree : Int}

def MemThresholdFits (config : GppConfig) (memFree : Int) : Prop :=
  0 ≤ memThreshold config memFree ∧ memThreshold config memFree ≤ config.memInitFree

theorem memLimit_eq (fits : MemThresholdFits config memFree) :
    memLimit config (memInitCapacityPercent config memFree) =
      (config.memInitFree - memThreshold config memFree) / config.memCapUnits := by
  obtain ⟨nonneg, most⟩ := fits
  have rest : (0 : ℚ) ≤ ((config.memInitFree - memThreshold config memFree : Int) : ℚ) := by
    exact_mod_cast sub_nonneg.mpr most
  have percent : memInitCapacityPercent config memFree =
      ((config.memInitFree - memThreshold config memFree : Int) : ℚ) / config.memInitFree := by
    rw [memInitCapacityPercent, if_neg (not_lt.mpr (div_nonneg rest (Nat.cast_nonneg _)))]
  have product : (config.memInitFree : ℚ) * memInitCapacityPercent config memFree =
      ((config.memInitFree - memThreshold config memFree : Int) : ℚ) := by
    rw [percent]
    by_cases none : config.memInitFree = 0
    · have zero : memThreshold config memFree = 0 := by omega
      simp [none, zero]
    · have some : (config.memInitFree : ℚ) ≠ 0 := Nat.cast_ne_zero.mpr none
      rw [mul_div_cancel₀ _ some]
  rw [memLimit, product, truncate_of_nonneg rest, floor_intCast]

theorem memLimit_bounds (fits : MemThresholdFits config memFree) :
    0 ≤ memLimit config (memInitCapacityPercent config memFree) ∧
      memLimit config (memInitCapacityPercent config memFree) * config.memCapUnits ≤ config.memInitFree := by
  rw [memLimit_eq fits]
  obtain ⟨nonneg, most⟩ := fits
  have rest : 0 ≤ (config.memInitFree : Int) - memThreshold config memFree := sub_nonneg.mpr most
  refine ⟨ediv_nonneg rest (natCast_nonneg _), ?_⟩
  by_cases none : (config.memCapUnits : Int) = 0
  · simp [none]
  · have divided := Int.ediv_mul_le ((config.memInitFree : Int) - memThreshold config memFree) none
    omega

end Memory

section Runs

structure Tracked (config : GppConfig) (gpp : GppCapacity) : Prop where
  mem : Pooled gpp.memCapacity gpp.memCapacityThreshold gpp.memHeld
  load : Pooled gpp.loadCapacity gpp.loadFree gpp.loadHeld
  ingress : Pooled gpp.mcastnicIngressCapacity ⌊gpp.mcastnicIngressThresholdValue⌋ gpp.ingressHeld
  egress : Pooled gpp.mcastnicEgressCapacity ⌊gpp.mcastnicEgressThresholdValue⌋ gpp.egressHeld
  memBounded : gpp.memCapacityThreshold * config.memCapUnits ≤ config.memInitFree

def Matched (call : CapacityCall) (gpp : GppCapacity) : Prop :=
  match call with
  | .allocateMem value _ | .allocateIngress value | .allocateEgress value => 0 < value
  | .allocateLoad value _ _ => 0 < value
  | .deallocateMem value => value ∈ gpp.memHeld
  | .deallocateLoad value => value ∈ gpp.loadHeld
  | .deallocateIngress value => value ∈ gpp.ingressHeld
  | .deallocateEgress value => value ∈ gpp.egressHeld
  | .thresholdsChanged _ | .mcastnicThresholdChanged _ => True

/-- Memory or load that is outstanding does not survive a change of its threshold, so there is
none, or the new limit is zero. -/
structure Restarts (config : GppConfig) (nv : Thresholds) (gpp : GppCapacity) : Prop where
  mem : nv.ignore = false → 0 ≤ nv.memFree → MemThresholdFits config nv.memFree ∧
    (gpp.memHeld = [] ∨ memLimit config (memInitCapacityPercent config nv.memFree) = 0)
  load : nv.ignore = false → 0 ≤ nv.loadAvg → 0 ≤ config.loadTotal * (nv.loadAvg / 100) ∧
    (gpp.loadHeld = [] ∨ config.loadTotal * (nv.loadAvg / 100) = 0)

/-- The egress capacity is adjusted from the ingress threshold, which must not show. -/
structure Adjusts (config : GppConfig) (newvalue : Int) (gpp : GppCapacity) : Prop where
  ingress : Adjustable gpp.mcastnicIngressThresholdValue
    (config.mcastnicIngressTotal * (newvalue / 100)) gpp.ingressHeld
  egress : Adjustable gpp.mcastnicEgressThresholdValue
    (config.mcastnicEgressTotal * (newvalue / 100)) gpp.egressHeld
  independent : gpp.mcastnicEgressThresholdValue = gpp.mcastnicIngressThresholdValue ∨
    config.mcastnicEgressTotal * (newvalue / 100) ≤ gpp.mcastnicEgressThresholdValue ∧
      config.mcastnicEgressTotal * (newvalue / 100) ≤ gpp.mcastnicIngressThresholdValue

def Sound (config : GppConfig) (call : CapacityCall) (gpp : GppCapacity) : Prop :=
  match call with
  | .deallocateMem value => Refills gpp.memCapacityThreshold value gpp.memHeld
  | .deallocateLoad value => Refills gpp.loadFree value gpp.loadHeld
  | .deallocateIngress value => Refills ⌊gpp.mcastnicIngressThresholdValue⌋ value gpp.ingressHeld
  | .deallocateEgress value => Refills ⌊gpp.mcastnicEgressThresholdValue⌋ value gpp.egressHeld
  | .thresholdsChanged nv => Restarts config nv gpp
  | .mcastnicThresholdChanged newvalue =>
      0 ≤ newvalue ∧ newvalue ≤ 100 → Adjusts config newvalue gpp
  | _ => True

structure SoundStart (config : GppConfig) (thresholds : Thresholds) (mcastnicThreshold : Int) :
    Prop where
  active : thresholds.ignore = false
  mem : 0 ≤ thresholds.memFree
  fits : MemThresholdFits config thresholds.memFree
  load : 0 ≤ config.loadTotal
  ingress : 0 ≤ (config.mcastnicIngressTotal : ℚ) * (mcastnicThreshold / 100)
  egress : 0 ≤ (config.mcastnicEgressTotal : ℚ) * (mcastnicThreshold / 100)

variable {config : GppConfig} {gpp : GppCapacity}

theorem pooled_start {K : Type} [CommRing K] [LinearOrder K] {limit : K} (nonneg : 0 ≤ limit) :
    Pooled limit limit [] :=
  ⟨(available_nil nonneg).symm, nonneg, by simp⟩

theorem Tracked.thresholdsChanged (tracked : Tracked config gpp) {nv : Thresholds}
    (restarts : Restarts config nv gpp) : Tracked config (thresholdsChanged config nv gpp) := by
  have memory : Tracked config (if nv.ignore || decide (nv.memFree < 0) then gpp else
      { gpp with
        memCapacity := memLimit config (memInitCapacityPercent config nv.memFree)
        memCapacityThreshold := memLimit config (memInitCapacityPercent config nv.memFree) }) := by
    split
    · exact tracked
    · rename_i enabled
      simp only [Bool.or_eq_true, decide_eq_true_eq, not_or, Bool.not_eq_true, not_lt] at enabled
      obtain ⟨fits, unused⟩ := restarts.mem enabled.1 enabled.2
      have bounds := memLimit_bounds fits
      exact { tracked with
        mem := tracked.mem.restart bounds.1 unused
        memBounded := bounds.2 }
  simp only [Gpp.thresholdsChanged]
  generalize stepped : (if nv.ignore || decide (nv.memFree < 0) then gpp else
      { gpp with
        memCapacity := memLimit config (memInitCapacityPercent config nv.memFree)
        memCapacityThreshold := memLimit config (memInitCapacityPercent config nv.memFree) }) =
    after at memory
  have loadHeld : after.loadHeld = gpp.loadHeld := by
    rw [← stepped]
    split <;> rfl
  split
  · exact memory
  · rename_i enabled
    simp only [Bool.or_eq_true, decide_eq_true_eq, not_or, Bool.not_eq_true, not_lt] at enabled
    obtain ⟨nonneg, unused⟩ := restarts.load enabled.1 enabled.2
    exact { memory with load := memory.load.restart nonneg (loadHeld ▸ unused) }

theorem adjustCapacity_of_independent {own other thresholdValue : ℚ} (capacity : Int)
    (independent : own = other ∨ thresholdValue ≤ own ∧ thresholdValue ≤ other) :
    adjustCapacity other thresholdValue capacity = adjustCapacity own thresholdValue capacity := by
  rcases independent with rfl | ⟨below, belowOther⟩
  · rfl
  · rw [adjustCapacity, adjustCapacity, if_neg (not_lt.mpr belowOther), if_neg (not_lt.mpr below)]

theorem Tracked.mcastnicThresholdChanged (tracked : Tracked config gpp) {newvalue : Int}
    (adjusts : 0 ≤ newvalue ∧ newvalue ≤ 100 → Adjusts config newvalue gpp) :
    Tracked config (mcastnicThresholdChanged config newvalue gpp) := by
  unfold Gpp.mcastnicThresholdChanged
  split
  · rename_i percent
    obtain ⟨ingress, egress, independent⟩ := adjusts percent
    exact { tracked with
      ingress := pooled_adjust tracked.ingress ingress
      egress := by
        dsimp only
        rw [adjustCapacity_of_independent _ independent]
        exact pooled_adjust tracked.egress egress }
  · exact tracked

theorem Tracked.serve (tracked : Tracked config gpp) {call : CapacityCall}
    (matched : Matched call gpp) (sound : Sound config call gpp) :
    Tracked config (serveCapacity config call gpp) := by
  cases call with
  | allocateMem value busy =>
      simp only [serveCapacity, allocateMemCapacity]
      split
      · exact tracked
      · rename_i granted
        simp only [Bool.or_eq_true, decide_eq_true_eq, not_or, not_lt] at granted
        exact { tracked with mem := tracked.mem.take matched granted.1.2 }
  | deallocateMem value => exact { tracked with mem := tracked.mem.give matched sound }
  | allocateLoad value busy reserved =>
      simp only [serveCapacity, allocateLoadCapacity]
      split
      · exact tracked
      · split
        · split
          · exact tracked
          · rename_i granted
            exact { tracked with load := tracked.load.take matched (not_lt.mp granted) }
        · exact { tracked with load := tracked.load.takeDownToZero matched }
  | deallocateLoad value => exact { tracked with load := tracked.load.give matched sound }
  | allocateIngress value =>
      simp only [serveCapacity, allocateMcastIngressCapacity]
      split
      · exact tracked
      · rename_i granted
        simp only [mcastRefused, Bool.or_eq_true, decide_eq_true_eq, not_or, not_lt] at granted
        exact { tracked with ingress := tracked.ingress.take matched granted.2 }
  | deallocateIngress value =>
      refine { tracked with ingress := ?_ }
      simp only [serveCapacity, deallocateMcastIngressCapacity]
      rw [mcastReturned_eq (floor_nonneg.mp tracked.ingress.nonneg)]
      exact tracked.ingress.give matched sound
  | allocateEgress value =>
      simp only [serveCapacity, allocateMcastEgressCapacity]
      split
      · exact tracked
      · rename_i granted
        simp only [mcastRefused, Bool.or_eq_true, decide_eq_true_eq, not_or, not_lt] at granted
        exact { tracked with egress := tracked.egress.take matched granted.2 }
  | deallocateEgress value =>
      refine { tracked with egress := ?_ }
      simp only [serveCapacity, deallocateMcastEgressCapacity]
      rw [mcastReturned_eq (floor_nonneg.mp tracked.egress.nonneg)]
      exact tracked.egress.give matched sound
  | thresholdsChanged nv => exact tracked.thresholdsChanged sound
  | mcastnicThresholdChanged newvalue => exact tracked.mcastnicThresholdChanged sound

theorem Tracked.startUp {thresholds : Thresholds} {mcastnicThreshold : Int}
    (start : SoundStart config thresholds mcastnicThreshold) :
    Tracked config (GppCapacity.startUp config thresholds mcastnicThreshold) := by
  have bounds := memLimit_bounds start.fits
  have share : 0 ≤ thresholds.loadAvg → 0 ≤ config.loadTotal * (thresholds.loadAvg / 100) :=
    fun nonneg => mul_nonneg start.load (div_nonneg nonneg (by norm_num))
  apply Tracked.thresholdsChanged
  · have enabled : (thresholds.ignore || decide (thresholds.memFree < 0)) = false := by
      simp [start.active, start.mem]
    simp only [enabled, Bool.false_eq_true, if_false]
    refine ⟨pooled_start bounds.1, pooled_start ?_, ?_, ?_, bounds.2⟩
    · split
      · exact start.load
      · rename_i set
        simp only [start.active, Bool.false_or, decide_eq_true_eq, not_lt] at set
        exact share set
    · rw [truncate_of_nonneg start.ingress]
      exact pooled_start (floor_nonneg.mpr start.ingress)
    · rw [truncate_of_nonneg start.egress]
      exact pooled_start (floor_nonneg.mpr start.egress)
  · exact ⟨fun _ _ => ⟨start.fits, .inl rfl⟩, fun _ nonneg => ⟨share nonneg, .inl rfl⟩⟩

def smallHost : GppConfig where
  memInitFree := 100
  threshMemFreeUnits := 1
  memCapUnits := 1
  loadTotal := 10
  mcastnicInterface := "eth0"
  mcastnicIngressTotal := 100
  mcastnicEgressTotal := 50

def smallThresholds : Thresholds := ⟨false, 80, 20⟩

end Runs

end Redhawk.Gpp
