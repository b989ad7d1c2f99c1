import Redhawk.Library.Decimals

/-!
The arithmetic of `sdds_time.py`, where floating point numbers are exact. A time is a number of
ticks of 250 picoseconds and a number of parts of a tick, of which there are 2^32.
-/

namespace Redhawk.Sdds

open Library

/-- A number of Python: a whole one, or one in floating point. -/
inductive Number where
  | long (number : Int)
  | float (number : ℚ)
deriving DecidableEq

namespace Number

def value : Number → ℚ
  | long number => number
  | float number => number

def toLong : Number → Int
  | long number => number
  | float number => truncate number

def plus : Number → Number → Number
  | long first, long second => long (first + second)
  | first, second => float (first.value + second.value)

def minus : Number → Number → Number
  | long first, long second => long (first - second)
  | first, second => float (first.value - second.value)

end Number

def cmp (first second : ℚ) : Int :=
  if first < second then -1 else if first = second then 0 else 1

structure Time where
  ps250_ : Int
  pf250_ : Number
deriving DecidableEq

namespace Time

def ticFreq : ℚ := 4000000000
def two32 : ℚ := 4294967296

def difference (t1 t2 : Time) : Time :=
  if t2.pf250_.value ≤ t1.pf250_.value then
    { ps250_ := t1.ps250_ - t2.ps250_, pf250_ := t1.pf250_.minus t2.pf250_ }
  else
    -- The constant is a floating point number, and so is what is added to it.
    { ps250_ := t1.ps250_ - (t2.ps250_ + 1)
      pf250_ := (Number.float two32).plus (t1.pf250_.minus t2.pf250_) }

/-- A number in floating point cannot be shifted. -/
def sum (t1 t2 : Time) : Option Time :=
  match (Number.long t1.pf250_.toLong).plus t2.pf250_ with
  | .long tfrac =>
    some { ps250_ := t1.ps250_ + (t2.ps250_ + tfrac / 4294967296), pf250_ := .long tfrac }
  | .float _ => none

/-- The parts of a tick in an offset in seconds, beside its whole ticks. -/
def offsetParts (offset : ℚ) : Int := truncate ((modf (offset * ticFreq)).1 * two32)

def iadd (t1 : Time) (offset : ℚ) : Time :=
  let tfrac := t1.pf250_.toLong + offsetParts offset
  { ps250_ := t1.ps250_ + ((modf (offset * ticFreq)).2 + tfrac / 4294967296)
    pf250_ := .long tfrac }

def isub (t1 : Time) (offset : ℚ) : Time := t1.iadd (-offset)

def compare (t1 t2 : Time) : Int :=
  if t1.ps250_ = t2.ps250_ then cmp t1.pf250_.value t2.pf250_.value
  else cmp t1.ps250_ t2.ps250_

def instant (time : Time) : ℚ := time.ps250_ + time.pf250_.value / two32

def Normalized (time : Time) : Prop :=
  ∃ parts : Int, time.pf250_ = .long parts ∧ 0 ≤ parts ∧ parts < 4294967296

def Represents (time : Time) (instant : ℚ) : Prop := time.Normalized ∧ time.instant = instant

structure Exact (a b : Time) (offset : ℚ) : Prop where
  sums : ∃ result, a.sum b = some result ∧ result.Represents (a.instant + b.instant)
  differences : (a.difference b).Represents (a.instant - b.instant)
  plus : (a.iadd offset).Represents (a.instant + offset * ticFreq)
  minus : (a.isub offset).Represents (a.instant - offset * ticFreq)
  sumBack : (a.sum b).map (·.difference b) = some a
  plusBack : (a.iadd offset).isub offset = a
  ordered : a.compare b = cmp a.instant b.instant

structure NoCarry (a b : Time) (offset : ℚ) : Prop where
  sums : a.pf250_.toLong + b.pf250_.toLong < 4294967296
  differences : b.pf250_.toLong ≤ a.pf250_.toLong
  plus : 0 ≤ a.pf250_.toLong + offsetParts offset ∧ a.pf250_.toLong + offsetParts offset < 4294967296
  minus : 0 ≤ a.pf250_.toLong - offsetParts offset ∧ a.pf250_.toLong - offsetParts offset < 4294967296

theorem modf_neg (number : ℚ) : modf (-number) = (-(modf number).1, -(modf number).2) := by
  have odd : truncate (-number) = -truncate number := by
    rcases lt_trichotomy number 0 with below | rfl | above
    · simp [truncate, not_le.mpr below, below.le, Int.floor_neg]
    · simp [truncate]
    · simp [truncate, not_le.mpr above, above.le, Int.ceil_neg]
  simp only [modf, odd, Int.cast_neg]
  ring_nf

variable {offset : ℚ} (whole : ∃ parts : Int, offset * ticFreq * two32 = parts)

include whole

theorem offsetParts_value : (offsetParts offset : ℚ) = (modf (offset * ticFreq)).1 * two32 := by
  obtain ⟨parts, eq⟩ := whole
  have split := modf_sum (offset * ticFreq)
  have integral : (modf (offset * ticFreq)).1 * two32 =
      ((parts - (modf (offset * ticFreq)).2 * 4294967296 : Int) : ℚ) := by
    push_cast
    rw [← eq, ← split]
    simp only [two32, modf]
    ring
  rw [offsetParts, integral, truncate_intCast]

theorem offsetParts_neg : offsetParts (-offset) = -offsetParts offset := by
  have negated : ∃ parts : Int, -offset * ticFreq * two32 = parts := by
    obtain ⟨parts, eq⟩ := whole
    exact ⟨-parts, by push_cast; rw [← eq]; ring⟩
  have parts := offsetParts_value negated
  rw [neg_mul, modf_neg, neg_mul, ← offsetParts_value whole] at parts
  exact_mod_cast parts

/-- The tick that is carried is counted a second time in the parts. -/
theorem iadd_represents_iff {time : Time} (normalized : time.Normalized) :
    (time.iadd offset).Represents (time.instant + offset * ticFreq) ↔
      0 ≤ time.pf250_.toLong + offsetParts offset ∧ time.pf250_.toLong + offsetParts offset < 4294967296 := by
  constructor
  · rintro ⟨⟨parts, eq, lower, upper⟩, -⟩
    cases eq
    exact ⟨lower, upper⟩
  · rintro ⟨lower, upper⟩
    obtain ⟨parts, eq, -, -⟩ := normalized
    refine ⟨⟨_, rfl, lower, upper⟩, ?_⟩
    rw [eq] at lower upper
    have none : (parts + offsetParts offset) / 4294967296 = 0 :=
      Int.ediv_eq_zero_of_lt lower upper
    have split := modf_sum (offset * ticFreq)
    have fraction := offsetParts_value whole
    simp only [instant, iadd, eq, Number.toLong, none, Number.value, add_zero]
    generalize modf (offset * ticFreq) = ticks at split fraction ⊢
    push_cast
    rw [fraction, ← split]
    simp only [two32]
    ring

theorem iadd_isub {time : Time} (normalized : time.Normalized)
    (lower : 0 ≤ time.pf250_.toLong + offsetParts offset)
    (upper : time.pf250_.toLong + offsetParts offset < 4294967296) :
    (time.iadd offset).isub offset = time := by
  obtain ⟨ps250, pf250⟩ := time
  obtain ⟨parts, rfl, nonneg, bound⟩ := normalized
  have none : (parts + offsetParts offset) / 4294967296 = 0 :=
    Int.ediv_eq_zero_of_lt lower upper
  have back : (parts + offsetParts offset + -offsetParts offset) / 4294967296 = 0 := by
    rw [add_neg_cancel_right]
    exact Int.ediv_eq_zero_of_lt nonneg bound
  simp only [isub, iadd, offsetParts_neg whole, neg_mul, modf_neg, Number.toLong, none, back]
  congr 1
  · ring
  · rw [add_neg_cancel_right]

omit whole

variable {a b : Time}

section

variable (first : a.Normalized) (second : b.Normalized)

include first second

theorem sum_represents_iff :
    (∃ result, a.sum b = some result ∧ result.Represents (a.instant + b.instant)) ↔
      a.pf250_.toLong + b.pf250_.toLong < 4294967296 := by
  obtain ⟨parts, left, nonneg, -⟩ := first
  obtain ⟨others, right, positive, -⟩ := second
  simp only [sum, left, right, Number.plus, Number.toLong, Option.some.injEq, exists_eq_left']
  constructor
  · rintro ⟨⟨_, eq, -, upper⟩, -⟩
    cases eq
    exact upper
  · intro upper
    have none : (parts + others) / 4294967296 = 0 := Int.ediv_eq_zero_of_lt (by omega) upper
    refine ⟨⟨_, rfl, by omega, upper⟩, ?_⟩
    simp only [instant, none, left, right, Number.value, add_zero]
    push_cast
    ring

/-- With a borrow the instant is right, but the parts are a floating point number. -/
theorem difference_instant : (a.difference b).instant = a.instant - b.instant := by
  obtain ⟨parts, left, -⟩ := first
  obtain ⟨others, right, -⟩ := second
  simp only [difference, instant, left, right]
  split
  · simp only [Number.minus, Number.value]
    push_cast
    ring
  · simp only [Number.minus, Number.plus, Number.value, two32]
    push_cast
    ring

theorem difference_represents_iff :
    (a.difference b).Represents (a.instant - b.instant) ↔ b.pf250_.toLong ≤ a.pf250_.toLong := by
  rw [Represents, and_iff_left (difference_instant first second)]
  obtain ⟨parts, left, nonneg, bound⟩ := first
  obtain ⟨others, right, positive, limit⟩ := second
  simp only [Normalized, difference, left, right, Number.value, Number.toLong, Int.cast_le]
  split
  · rename_i reaches
    exact iff_of_true ⟨_, rfl, by omega, by omega⟩ reaches
  · rename_i borrows
    refine iff_of_false ?_ borrows
    rintro ⟨_, eq, -⟩
    cases eq

theorem sum_difference (upper : a.pf250_.toLong + b.pf250_.toLong < 4294967296) :
    (a.sum b).map (·.difference b) = some a := by
  obtain ⟨ps250, pf250⟩ := a
  obtain ⟨parts, rfl, nonneg, -⟩ := first
  obtain ⟨others, right, positive, -⟩ := second
  simp only [right, Number.toLong] at upper
  have none : (parts + others) / 4294967296 = 0 := Int.ediv_eq_zero_of_lt (by omega) upper
  have reaches : others ≤ parts + others := by omega
  simp only [sum, right, Number.toLong, Number.plus, Option.map_some, difference, Number.value,
    Int.cast_le, if_pos reaches, none, Number.minus]
  congr 2
  · ring
  · rw [add_sub_cancel_right]

theorem compare_instants : a.compare b = cmp a.instant b.instant := by
  obtain ⟨parts, left, nonneg, bound⟩ := first
  obtain ⟨others, right, positive, limit⟩ := second
  have scaled (t : Time) (n : Int) (eq : t.pf250_ = .long n) :
      t.instant = ((t.ps250_ * 4294967296 + n : Int) : ℚ) / two32 := by
    simp only [instant, eq, Number.value, two32]
    push_cast
    ring
  have order (x y : ℚ) : cmp (x / two32) (y / two32) = cmp x y := by
    have positive : (0 : ℚ) < two32 := by norm_num [two32]
    simp only [cmp, div_lt_div_iff_of_pos_right positive, div_left_inj' positive.ne']
  rw [scaled a parts left, scaled b others right, order]
  simp only [compare, left, right, Number.value, cmp, Int.cast_lt, Int.cast_inj]
  split_ifs <;> omega

end

theorem sdds_time_exact_iff {a b : Time} (first : a.Normalized) (second : b.Normalized)
    (whole : ∃ parts : Int, offset * ticFreq * two32 = parts) :
    Exact a b offset ↔ NoCarry a b offset := by
  have negated : ∃ parts : Int, -offset * ticFreq * two32 = parts := by
    obtain ⟨parts, eq⟩ := whole
    exact ⟨-parts, by push_cast; rw [← eq]; ring⟩
  have minus := iadd_represents_iff negated first
  rw [offsetParts_neg whole, ← sub_eq_add_neg, neg_mul, ← sub_eq_add_neg] at minus
  constructor
  · intro exact
    exact { sums := (sum_represents_iff first second).mp exact.sums
            differences := (difference_represents_iff first second).mp exact.differences
            plus := (iadd_represents_iff whole first).mp exact.plus
            minus := minus.mp exact.minus }
  · intro none
    exact { sums := (sum_represents_iff first second).mpr none.sums
            differences := (difference_represents_iff first second).mpr none.differences
            plus := (iadd_represents_iff whole first).mpr none.plus
            minus := minus.mpr none.minus
            sumBack := sum_difference first second none.sums
            plusBack := iadd_isub whole first none.plus.1 none.plus.2
            ordered := compare_instants first second }

def atParts (parts : Int) : Time := { ps250_ := 5, pf250_ := .long parts }

theorem atParts_normalized {parts : Int} (lower : 0 ≤ parts) (upper : parts < 4294967296) :
    (atParts parts).Normalized := ⟨parts, rfl, lower, upper⟩

theorem sdds_time_exact_in_a_second : Exact (atParts 7) (atParts 3) 1 := by
  have none : offsetParts 1 = 0 := by
    norm_num [offsetParts, modf, truncate, ticFreq]
  exact (sdds_time_exact_iff (atParts_normalized (by decide) (by decide))
    (atParts_normalized (by decide) (by decide))
    ⟨17179869184000000000, by norm_num [ticFreq, two32]⟩).mpr
    { sums := by decide, differences := by decide
      plus := by rw [none]; decide, minus := by rw [none]; decide }

/-- Two halves of a tick: the tick is carried and stays in the parts as well. -/
theorem half_ticks_miscounted : (atParts 2147483648).Normalized ∧
    (atParts 2147483648).sum (atParts 2147483648) =
      some { ps250_ := 11, pf250_ := .long 4294967296 } ∧
    ¬ Exact (atParts 2147483648) (atParts 2147483648) 0 := by
  have normalized := atParts_normalized (show (0 : Int) ≤ 2147483648 by decide) (by decide)
  refine ⟨normalized, rfl, fun exact => ?_⟩
  have bounded := (sum_represents_iff normalized normalized).mp exact.sums
  revert bounded
  decide

end Time

end Redhawk.Sdds
