import Redhawk.Bulkio.SampleTimes

/-!
The operators of `bulkio_time_operators.cpp` over exact rational seconds.
-/

namespace Redhawk.Bulkio.PrecisionUTCTime

def sub (lhs : PrecisionUTCTime) (seconds : ℚ) : PrecisionUTCTime :=
  normalize { lhs with
    tfsec := lhs.tfsec - fractionPart seconds
    twsec := lhs.twsec - wholePart seconds }

def difference (lhs rhs : PrecisionUTCTime) : ℚ := lhs.twsec - rhs.twsec + (lhs.tfsec - rhs.tfsec)

def equal (lhs rhs : PrecisionUTCTime) : Bool :=
  lhs.tcmode == rhs.tcmode && lhs.tcstatus == rhs.tcstatus && lhs.toff == rhs.toff &&
    lhs.twsec == rhs.twsec && lhs.tfsec == rhs.tfsec

def notEqual (lhs rhs : PrecisionUTCTime) : Bool :=
  lhs.tcmode != rhs.tcmode || lhs.tcstatus != rhs.tcstatus || lhs.toff != rhs.toff ||
    lhs.twsec != rhs.twsec || lhs.tfsec != rhs.tfsec

/-- The fractions decide where the whole seconds are the same. -/
def compares (order : ℚ → ℚ → Bool) (lhs rhs : PrecisionUTCTime) : Bool :=
  if lhs.twsec = rhs.twsec then order lhs.tfsec rhs.tfsec else order lhs.twsec rhs.twsec

def less : PrecisionUTCTime → PrecisionUTCTime → Bool := compares fun lhs rhs => lhs < rhs
def lessEqual : PrecisionUTCTime → PrecisionUTCTime → Bool := compares fun lhs rhs => lhs ≤ rhs
def greater : PrecisionUTCTime → PrecisionUTCTime → Bool := compares fun lhs rhs => rhs < lhs
def greaterEqual : PrecisionUTCTime → PrecisionUTCTime → Bool := compares fun lhs rhs => rhs ≤ lhs

structure Normal (time : PrecisionUTCTime) : Prop where
  nonneg : 0 ≤ time.tfsec
  below : time.tfsec < 1
  whole : ∃ whole : Int, time.twsec = whole

structure ExactArithmetic (time : PrecisionUTCTime) : Prop where
  normalize : time.normalize.Normal ∧ time.normalize.seconds = time.seconds
  add (a : ℚ) : (time.add a).Normal ∧ (time.add a).seconds = time.seconds + a
  sub (a : ℚ) : (time.sub a).Normal ∧ (time.sub a).seconds = time.seconds - a
  add_difference (a : ℚ) : (time.add a).difference time = a
  add_add (a b : ℚ) : ((time.add a).add b).seconds = (time.add (a + b)).seconds

/-- What makes two times more than the same instant. -/
def SameKind (lhs rhs : PrecisionUTCTime) : Prop :=
  lhs.tcmode = rhs.tcmode ∧ lhs.tcstatus = rhs.tcstatus ∧ lhs.toff = rhs.toff

structure Ordered (lhs rhs : PrecisionUTCTime) : Prop where
  less : lhs.less rhs ↔ lhs.seconds < rhs.seconds
  lessEqual : lhs.lessEqual rhs ↔ lhs.seconds ≤ rhs.seconds
  greater : lhs.greater rhs ↔ rhs.seconds < lhs.seconds
  greaterEqual : lhs.greaterEqual rhs ↔ rhs.seconds ≤ lhs.seconds
  negative : lhs.difference rhs < 0 ↔ lhs.less rhs
  positive : 0 < lhs.difference rhs ↔ lhs.greater rhs
  notEqual : lhs.notEqual rhs = !lhs.equal rhs

theorem fractionPart_eq (seconds : ℚ) :
    fractionPart seconds = (seconds.num.tmod seconds.den : Int) / seconds.den := by
  have positive : (seconds.den : ℚ) ≠ 0 := by exact_mod_cast seconds.den_nz
  have split : ((seconds.num.tmod seconds.den + seconds.den * seconds.num.tdiv seconds.den : Int) : ℚ) =
      seconds.num := congrArg _ (Int.tmod_add_mul_tdiv ..)
  push_cast at split
  rw [eq_div_iff positive, fractionPart, wholePart, sub_mul, Rat.mul_den_eq_num, ← split]
  ring

theorem fractionPart_bounds (seconds : ℚ) : -1 < fractionPart seconds ∧ fractionPart seconds < 1 := by
  have positive : (0 : Int) < seconds.den := by exact_mod_cast seconds.den_pos
  have cast : (0 : ℚ) < seconds.den := by exact_mod_cast seconds.den_pos
  have lower : ((-seconds.den : Int) : ℚ) < (seconds.num.tmod seconds.den : Int) :=
    Int.cast_lt.mpr (Int.lt_tmod_of_pos seconds.num positive)
  have upper : ((seconds.num.tmod seconds.den : Int) : ℚ) < (seconds.den : Int) :=
    Int.cast_lt.mpr (Int.tmod_lt_of_pos seconds.num positive)
  push_cast at lower upper
  rw [fractionPart_eq, lt_div_iff₀ cast, div_lt_iff₀ cast]
  exact ⟨by linarith, by linarith⟩

variable (time : PrecisionUTCTime)

theorem normalize_normal : time.normalize.Normal := by
  obtain ⟨lower, upper⟩ := fractionPart_bounds (time.tfsec + fractionPart time.twsec)
  simp only [normalize]
  split
  · rename_i negative
    refine ⟨by dsimp only; linarith, by dsimp only; linarith, ?_⟩
    exact ⟨time.twsec.num.tdiv time.twsec.den + (_ - 1), by simp only [wholePart]; push_cast; rfl⟩
  · rename_i nonneg
    refine ⟨not_lt.mp nonneg, upper, ?_⟩
    exact ⟨time.twsec.num.tdiv time.twsec.den + _, by simp only [wholePart]; push_cast; rfl⟩

theorem sub_seconds (seconds : ℚ) : (time.sub seconds).seconds = time.seconds - seconds := by
  rw [sub, normalize_seconds]
  simp only [PrecisionUTCTime.seconds, fractionPart]
  ring

theorem difference_eq (lhs rhs : PrecisionUTCTime) : lhs.difference rhs = lhs.seconds - rhs.seconds := by
  simp only [difference, seconds]
  ring

theorem exactArithmetic : time.ExactArithmetic where
  normalize := ⟨normalize_normal time, normalize_seconds time⟩
  add a := ⟨normalize_normal _, add_seconds time a⟩
  sub a := ⟨normalize_normal _, sub_seconds time a⟩
  add_difference a := by rw [difference_eq, add_seconds, add_sub_cancel_left]
  add_add a b := by rw [add_seconds, add_seconds, add_seconds, add_assoc]

section Order

variable {lhs rhs : PrecisionUTCTime} (left : lhs.Normal) (right : rhs.Normal)
include left right

theorem whole_lt (less : lhs.twsec < rhs.twsec) : lhs.seconds < rhs.seconds := by
  obtain ⟨first, isFirst⟩ := left.whole
  obtain ⟨second, isSecond⟩ := right.whole
  rw [isFirst, isSecond, Int.cast_lt, Int.lt_iff_add_one_le] at less
  have apart : ((first + 1 : Int) : ℚ) ≤ second := Int.cast_le.mpr less
  push_cast at apart
  have below := left.below
  have nonneg := right.nonneg
  simp only [seconds, isFirst, isSecond]
  linarith

theorem less_iff : lhs.less rhs ↔ lhs.seconds < rhs.seconds := by
  unfold less compares
  rcases lt_trichotomy lhs.twsec rhs.twsec with before | same | after
  · simp [before.ne, before, whole_lt left right before]
  · simp [seconds, same]
  · simp [after.ne', not_lt.mpr after.le, not_lt.mpr (whole_lt right left after).le]

theorem equal_iff : lhs.equal rhs ↔ lhs.seconds = rhs.seconds ∧ lhs.SameKind rhs := by
  have instant : lhs.seconds = rhs.seconds ↔ lhs.twsec = rhs.twsec ∧ lhs.tfsec = rhs.tfsec := by
    refine ⟨fun same => ?_, fun same => by rw [seconds, same.1, same.2, seconds]⟩
    rcases lt_trichotomy lhs.twsec rhs.twsec with before | whole | after
    · exact absurd same (whole_lt left right before).ne
    · exact ⟨whole, by simpa [seconds, whole] using same⟩
    · exact absurd same (whole_lt right left after).ne'
  simp only [equal, Bool.and_eq_true, beq_iff_eq, instant, SameKind]
  tauto

end Order

theorem lessEqual_eq (lhs rhs : PrecisionUTCTime) : lhs.lessEqual rhs = !rhs.less lhs := by
  simp only [lessEqual, less, compares, @eq_comm _ rhs.twsec]
  split <;> simp [← not_lt]

theorem greater_eq (lhs rhs : PrecisionUTCTime) : lhs.greater rhs = rhs.less lhs := by
  simp only [greater, less, compares, eq_comm]

theorem greaterEqual_eq (lhs rhs : PrecisionUTCTime) : lhs.greaterEqual rhs = !lhs.less rhs := by
  simp only [greaterEqual, less, compares]
  split <;> simp [← not_lt]

theorem ordered {lhs rhs : PrecisionUTCTime} (left : lhs.Normal) (right : rhs.Normal) : lhs.Ordered rhs where
  less := less_iff left right
  lessEqual := by rw [lessEqual_eq, Bool.not_eq_true', ← Bool.not_eq_true, less_iff right left, not_lt]
  greater := by rw [greater_eq, less_iff right left]
  greaterEqual := by rw [greaterEqual_eq, Bool.not_eq_true', ← Bool.not_eq_true, less_iff left right, not_lt]
  negative := by rw [difference_eq, sub_neg, less_iff left right]
  positive := by rw [difference_eq, sub_pos, greater_eq, less_iff right left]
  notEqual := by simp [notEqual, equal, bne]

/-- The arithmetic is exact, and the operators order normal times by their instants; times of one
instant are equal if they are of one kind besides. -/
theorem time_operators_exact (lhs : PrecisionUTCTime) :
    lhs.ExactArithmetic ∧ (lhs.Normal → ∀ rhs : PrecisionUTCTime, rhs.Normal →
      lhs.Ordered rhs ∧ (lhs.equal rhs ↔ lhs.seconds = rhs.seconds ∧ lhs.SameKind rhs)) :=
  ⟨exactArithmetic lhs, fun left _ right => ⟨ordered left right, equal_iff left right⟩⟩

theorem same_instant_not_equal :
    ¬∀ lhs rhs : PrecisionUTCTime, lhs.Normal → rhs.Normal →
      lhs.Ordered rhs ∧ (lhs.equal rhs ↔ lhs.seconds = rhs.seconds) := by
  intro all
  have normal : ∀ tcstatus, { notSet with tcstatus := tcstatus }.Normal := fun _ =>
    ⟨le_refl 0, one_pos, 0, Int.cast_zero.symm⟩
  exact absurd ((all _ _ (normal 0) (normal 1)).2.mpr rfl) (by decide)

end Redhawk.Bulkio.PrecisionUTCTime
