import Mathlib.Algebra.GroupWithZero.Nat
import Mathlib.Tactic.Common

/-!
The proleptic Gregorian calendar in UTC: broken-down time from seconds since 1970 and back.
-/

namespace Redhawk.Library

def isLeap (year : Int) : Bool := year % 4 = 0 && (year % 100 ≠ 0 || year % 400 = 0)

def yearLength (year : Int) : Nat := if isLeap year then 366 else 365

def monthLengths (year : Int) : List Nat :=
  [31, if isLeap year then 29 else 28, 31, 30, 31, 30, 31, 31, 30, 31, 30, 31]

def daysBefore (year : Int) : Int :=
  (year - 1) * 365 + (year - 1) / 4 - (year - 1) / 100 + (year - 1) / 400

def epoch : Int := 719162

def yearOf (day : Int) : Int × Int :=
  let behind400 := day % 146097
  let centuries := min (behind400 / 36524) 3
  let behind100 := behind400 - centuries * 36524
  let fours := behind100 / 1461
  let behind4 := behind100 % 1461
  let ones := min (behind4 / 365) 3
  (day / 146097 * 400 + centuries * 100 + fours * 4 + ones + 1, behind4 - ones * 365)

def monthOf : List Nat → Nat → Nat × Nat
  | [], day => (0, day)
  | length :: rest, day =>
    if day < length then (0, day)
    else
      let (month, day) := monthOf rest (day - length)
      (month + 1, day)

/-- Broken-down time: `year` is the full year, `month` and `day` count from one. -/
structure CivilTime where
  year : Int
  month : Int
  day : Int
  hour : Int
  minute : Int
  second : Int
deriving DecidableEq

def civilTime (seconds : Int) : CivilTime :=
  let (year, yearDay) := yearOf (seconds / 86400 + epoch)
  let (month, day) := monthOf (monthLengths year) yearDay.toNat
  { year, month := month + 1, day := day + 1
    hour := seconds % 86400 / 3600, minute := seconds % 3600 / 60, second := seconds % 60 }

/-- Months outside the year are carried into it; days and less just count. -/
def secondsOf (time : CivilTime) : Int :=
  let year := time.year + (time.month - 1) / 12
  let month := ((time.month - 1) % 12).toNat
  let days := daysBefore year + ((monthLengths year).take month).sum + (time.day - 1) - epoch
  days * 86400 + time.hour * 3600 + time.minute * 60 + time.second

theorem yearOf_periods (day : Int) :
    ∃ eras centuries fours ones : Int, (yearOf day).1 = eras * 400 + centuries * 100 + fours * 4 + ones + 1 ∧
      day = eras * 146097 + centuries * 36524 + fours * 1461 + ones * 365 + (yearOf day).2 ∧
      (0 ≤ centuries ∧ centuries ≤ 3) ∧ (0 ≤ fours ∧ fours ≤ 24) ∧ (0 ≤ ones ∧ ones ≤ 3) ∧
      0 ≤ (yearOf day).2 ∧
      ((yearOf day).2 < 365 ∨ (yearOf day).2 = 365 ∧ ones = 3 ∧ (fours = 24 → centuries = 3)) := by
  obtain ⟨centuries, isCenturies⟩ : ∃ centuries, centuries = min (day % 146097 / 36524) 3 := ⟨_, rfl⟩
  have inCentury : 0 ≤ day % 146097 - centuries * 36524 ∧
      day % 146097 - centuries * 36524 < 36524 + if centuries = 3 then 1 else 0 := by
    split <;> omega
  obtain ⟨behind100, isBehind100⟩ : ∃ behind, behind = day % 146097 - centuries * 36524 := ⟨_, rfl⟩
  obtain ⟨ones, isOnes⟩ : ∃ ones, ones = min (behind100 % 1461 / 365) 3 := ⟨_, rfl⟩
  have year : yearOf day = (day / 146097 * 400 + centuries * 100 + behind100 / 1461 * 4 + ones + 1,
      behind100 % 1461 - ones * 365) := by
    rw [isOnes, isBehind100, isCenturies]
    rfl
  rw [year]
  refine ⟨day / 146097, centuries, behind100 / 1461, ones, rfl, ?_, by omega, ?_, by omega, ?_, ?_⟩ <;>
    split at inCentury <;> omega

theorem yearOf_day (day : Int) : daysBefore (yearOf day).1 + (yearOf day).2 = day := by
  obtain ⟨eras, centuries, fours, ones, year, sum, bounds⟩ := yearOf_periods day
  rw [year, daysBefore]
  omega

theorem yearOf_bounds (day : Int) : 0 ≤ (yearOf day).2 ∧ (yearOf day).2 < yearLength (yearOf day).1 := by
  obtain ⟨eras, centuries, fours, ones, year, -, hundreds, quads, singles, lower, upper⟩ :=
    yearOf_periods day
  refine ⟨lower, ?_⟩
  rcases upper with short | ⟨last, leap⟩
  · have atLeast : 365 ≤ yearLength (yearOf day).1 := by
      unfold yearLength
      split <;> decide
    omega
  · have isLeap : isLeap (yearOf day).1 = true := by
      simp only [isLeap, Bool.and_eq_true, Bool.or_eq_true, decide_eq_true_eq]
      omega
    rw [yearLength, if_pos isLeap]
    omega

theorem monthOf_day (lengths : List Nat) (day : Nat) :
    (lengths.take (monthOf lengths day).1).sum + (monthOf lengths day).2 = day := by
  induction lengths generalizing day with
  | nil => simp [monthOf]
  | cons length rest ih =>
      unfold monthOf
      split
      · simp
      · have behind := ih (day - length)
        simp only [List.take_succ_cons, List.sum_cons]
        omega

theorem monthOf_lt {lengths : List Nat} {day : Nat} (within : day < lengths.sum) :
    (monthOf lengths day).1 < lengths.length := by
  induction lengths generalizing day with
  | nil => simp at within
  | cons length rest ih =>
      unfold monthOf
      split
      · simp
      · rw [List.sum_cons] at within
        exact Nat.succ_lt_succ (ih (show day - length < rest.sum by omega))

theorem monthOf_within {lengths : List Nat} {day : Nat} (within : day < lengths.sum) :
    ∃ length ∈ lengths, (monthOf lengths day).2 < length := by
  induction lengths generalizing day with
  | nil => simp at within
  | cons length rest ih =>
      unfold monthOf
      split
      · next short => exact ⟨length, List.mem_cons_self, short⟩
      · rw [List.sum_cons] at within
        obtain ⟨found, member, less⟩ := ih (show day - length < rest.sum by omega)
        exact ⟨found, List.mem_cons_of_mem length member, less⟩

theorem monthLengths_le {year : Int} {length : Nat} (member : length ∈ monthLengths year) :
    length ≤ 31 := by
  unfold monthLengths at member
  split at member <;> revert length <;> decide

theorem sum_monthLengths (year : Int) : (monthLengths year).sum = yearLength year := by
  unfold monthLengths yearLength
  split <;> rfl

theorem civilTime_ranges (seconds : Int) :
    (1 ≤ (civilTime seconds).month ∧ (civilTime seconds).month ≤ 12) ∧
      (1 ≤ (civilTime seconds).day ∧ (civilTime seconds).day ≤ 31) ∧
      (0 ≤ (civilTime seconds).hour ∧ (civilTime seconds).hour < 24) ∧
      (0 ≤ (civilTime seconds).minute ∧ (civilTime seconds).minute < 60) ∧
      0 ≤ (civilTime seconds).second ∧ (civilTime seconds).second < 60 := by
  obtain ⟨lower, upper⟩ := yearOf_bounds (seconds / 86400 + epoch)
  have within : (yearOf (seconds / 86400 + epoch)).2.toNat <
      (monthLengths (yearOf (seconds / 86400 + epoch)).1).sum := by
    rw [sum_monthLengths]
    omega
  have month := monthOf_lt within
  have twelve : (monthLengths (yearOf (seconds / 86400 + epoch)).1).length = 12 := rfl
  obtain ⟨length, member, day⟩ := monthOf_within within
  have short := monthLengths_le member
  simp only [civilTime]
  omega

theorem secondsOf_civilTime (seconds : Int) : secondsOf (civilTime seconds) = seconds := by
  have months := (civilTime_ranges seconds).1
  obtain ⟨lower, -⟩ := yearOf_bounds (seconds / 86400 + epoch)
  have days := yearOf_day (seconds / 86400 + epoch)
  have inYear := monthOf_day (monthLengths (yearOf (seconds / 86400 + epoch)).1)
    (yearOf (seconds / 86400 + epoch)).2.toNat
  have noCarry : ((civilTime seconds).month - 1) / 12 = 0 := by omega
  have month : ((civilTime seconds).month - 1) % 12 = (civilTime seconds).month - 1 := by omega
  rw [secondsOf, noCarry, month]
  simp only [civilTime, Int.add_zero, Int.add_sub_cancel, Int.toNat_natCast]
  omega

example : civilTime 951782400 = ⟨2000, 2, 29, 0, 0, 0⟩ := by decide +kernel

end Redhawk.Library
