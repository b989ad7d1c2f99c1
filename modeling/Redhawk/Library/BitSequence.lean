import Mathlib.Data.Nat.Count
import Mathlib.Data.Nat.Bitwise

/-!
Finite sequences of bits, given as a function and a length: their value as a number, their
lexicographic order, and what a comparison piece by piece says about the whole.
-/

namespace Redhawk.Library

open Nat

def valueOf (b : Nat → Bool) : Nat → Nat
  | 0 => 0
  | n + 1 => 2 * valueOf b n + (b n).toNat

def LexLess (a b : Nat → Bool) (n : Nat) : Prop :=
  ∃ i < n, (∀ j < i, a j = b j) ∧ a i = false ∧ b i = true

/-- `r` has the sign of the comparison of the first `n` bits of `a` with those of `b`. -/
def Compares (a b : Nat → Bool) (n : Nat) (r : Int) : Prop :=
  (r = 0 ∧ ∀ i < n, a i = b i) ∨ (0 < r ∧ LexLess b a n) ∨ (r < 0 ∧ LexLess a b n)

variable {a b : Nat → Bool} {m n : Nat} {r : Int}

theorem testBit_valueOf (b : Nat → Bool) :
    ∀ n j, (valueOf b n).testBit j = (decide (j < n) && b (n - 1 - j)) := by
  intro n
  induction n with
  | zero => intro j; simp [valueOf]
  | succ n ih =>
    intro j
    cases j with
    | zero => cases last : b n <;> simp [valueOf, last]
    | succ j =>
      have half : (2 * valueOf b n + (b n).toNat) / 2 = valueOf b n := by
        have small := Bool.toNat_lt (b n)
        omega
      have place : n + 1 - 1 - (j + 1) = n - 1 - j := by omega
      rw [valueOf, testBit_succ, half, ih, place]
      simp

theorem LexLess.mono (less : LexLess a b n) (more : n ≤ m) : LexLess a b m := by
  obtain ⟨i, inside, same, low, high⟩ := less
  exact ⟨i, by omega, same, low, high⟩

theorem LexLess.asymm (less : LexLess a b n) : ¬ LexLess b a n := by
  rintro ⟨j, _, sameBelow, low, high⟩
  obtain ⟨i, _, same, lower, higher⟩ := less
  rcases Nat.lt_trichotomy i j with first | both | later
  · rw [sameBelow i first, lower] at higher
    cases higher
  · rw [both, high] at lower
    cases lower
  · rw [same j later, low] at high
    cases high

theorem LexLess.differ (less : LexLess a b n) : ¬ ∀ i < n, a i = b i := by
  obtain ⟨i, inside, _, low, high⟩ := less
  intro same
  rw [same i inside, high] at low
  cases low

theorem LexLess.append (same : ∀ i < n, a i = b i)
    (less : LexLess (fun i => a (n + i)) (fun i => b (n + i)) m) : LexLess a b (n + m) := by
  obtain ⟨i, inside, below, low, high⟩ := less
  refine ⟨n + i, by omega, ?_, low, high⟩
  intro j before
  by_cases start : j < n
  · exact same j start
  · have shifted := below (j - n) (by omega)
    have place : n + (j - n) = j := by omega
    simpa only [place] using shifted

theorem valueOf_congr (same : ∀ i < n, a i = b i) : valueOf a n = valueOf b n := by
  induction n with
  | zero => rfl
  | succ n ih =>
    rw [valueOf, valueOf, ih (fun i inside => same i (by omega)), same n (by omega)]

theorem valueOf_less (less : LexLess a b n) : valueOf a n < valueOf b n := by
  induction n with
  | zero =>
    obtain ⟨i, inside, _⟩ := less
    omega
  | succ n ih =>
    obtain ⟨i, inside, below, low, high⟩ := less
    have smallA := Bool.toNat_lt (a n)
    rw [valueOf, valueOf]
    by_cases last : i = n
    · subst last
      rw [valueOf_congr below, low, high]
      simp
    · have earlier := ih ⟨i, by omega, below, low, high⟩
      omega

theorem lex_cases (a b : Nat → Bool) :
    ∀ n, (∀ i < n, a i = b i) ∨ LexLess a b n ∨ LexLess b a n := by
  intro n
  induction n with
  | zero => exact .inl fun i inside => absurd inside (Nat.not_lt_zero i)
  | succ n ih =>
    rcases ih with same | less | more
    · cases lastA : a n <;> cases lastB : b n
      · refine .inl fun i inside => ?_
        by_cases last : i = n
        · rw [last, lastA, lastB]
        · exact same i (by omega)
      · exact .inr (.inl ⟨n, by omega, same, lastA, lastB⟩)
      · exact .inr (.inr ⟨n, by omega, fun j below => (same j below).symm, lastB, lastA⟩)
      · refine .inl fun i inside => ?_
        by_cases last : i = n
        · rw [last, lastA, lastB]
        · exact same i (by omega)
    · exact .inr (.inl (less.mono (by omega)))
    · exact .inr (.inr (more.mono (by omega)))

theorem Compares.zero (a b : Nat → Bool) : Compares a b 0 0 :=
  .inl ⟨rfl, fun i inside => absurd inside (Nat.not_lt_zero i)⟩

theorem Compares.mono (compares : Compares a b n r) (found : r ≠ 0) (more : n ≤ m) : Compares a b m r := by
  rcases compares with ⟨none, _⟩ | ⟨positive, less⟩ | ⟨negative, less⟩
  · exact absurd none found
  · exact .inr (.inl ⟨positive, less.mono more⟩)
  · exact .inr (.inr ⟨negative, less.mono more⟩)

theorem Compares.append (same : ∀ i < n, a i = b i)
    (next : Compares (fun i => a (n + i)) (fun i => b (n + i)) m r) : Compares a b (n + m) r := by
  rcases next with ⟨none, equal⟩ | ⟨positive, less⟩ | ⟨negative, less⟩
  · refine .inl ⟨none, fun i inside => ?_⟩
    by_cases start : i < n
    · exact same i start
    · have place : n + (i - n) = i := by omega
      rw [← place]
      exact equal (i - n) (by omega)
  · exact .inr (.inl ⟨positive, less.append fun i inside => (same i inside).symm⟩)
  · exact .inr (.inr ⟨negative, less.append same⟩)

theorem Compares.same (compares : Compares a b n 0) : ∀ i < n, a i = b i := by
  rcases compares with ⟨_, same⟩ | ⟨positive, _⟩ | ⟨negative, _⟩
  · exact same
  · omega
  · omega

theorem Compares.zero_iff (compares : Compares a b n r) : r = 0 ↔ ∀ i < n, a i = b i := by
  rcases compares with ⟨none, same⟩ | ⟨positive, less⟩ | ⟨negative, less⟩
  · exact iff_of_true none same
  · exact iff_of_false (by omega) fun same => less.differ fun i inside => (same i inside).symm
  · exact iff_of_false (by omega) less.differ

theorem Compares.positive_iff (compares : Compares a b n r) : 0 < r ↔ LexLess b a n := by
  rcases compares with ⟨none, same⟩ | ⟨positive, less⟩ | ⟨negative, less⟩
  · exact iff_of_false (by omega) fun less => less.differ fun i inside => (same i inside).symm
  · exact iff_of_true positive less
  · exact iff_of_false (by omega) less.asymm

theorem Compares.negative_iff (compares : Compares a b n r) : r < 0 ↔ LexLess a b n := by
  rcases compares with ⟨none, same⟩ | ⟨positive, less⟩ | ⟨negative, less⟩
  · exact iff_of_false (by omega) fun less => less.differ same
  · exact iff_of_false (by omega) less.asymm
  · exact iff_of_true negative less

theorem count_congr {p q : Nat → Prop} [DecidablePred p] [DecidablePred q]
    (same : ∀ i < n, p i ↔ q i) : count p n = count q n := by
  induction n with
  | zero => rfl
  | succ n ih =>
    rw [count_succ, count_succ, ih fun i inside => same i (by omega)]
    simp only [same n (by omega)]

theorem count_reverse (b : Nat → Bool) :
    ∀ n, count (fun j => b (n - 1 - j)) n = count (fun j => b j) n := by
  intro n
  induction n with
  | zero => rfl
  | succ n ih =>
    have shifted : count (fun j => b (n + 1 - 1 - (j + 1))) n = count (fun j => b (n - 1 - j)) n := by
      apply count_congr
      intro j inside
      have index : n + 1 - 1 - (j + 1) = n - 1 - j := by omega
      rw [index]
    rw [count_succ', count_succ, shifted, ih]
    rfl

theorem count_window (b : Nat → Bool) {width : Nat} (small : n ≤ width) :
    count (fun j => decide (j < n) && b (n - 1 - j)) width = count (fun j => b j) n := by
  have split : width = n + (width - n) := by omega
  rw [split, count_add, ← count_reverse b n]
  have above : count (fun k => decide (n + k < n) && b (n - 1 - (n + k))) (width - n) = 0 := by
    rw [@count_congr _ _ (fun _ => False) _ _ (by simp)]
    simp
  rw [above, Nat.add_zero]
  apply count_congr
  intro j inside
  simp [inside]

end Redhawk.Library
