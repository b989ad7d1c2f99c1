import Mathlib.Algebra.Order.BigOperators.Group.List
import Mathlib.Tactic.Linarith
import Mathlib.Tactic.Ring

/-!
What is left of a limited amount when part of it is handed out, and the single number that keeps
track of it through handing out and giving back.
-/

namespace Redhawk.Library

open List

variable {K : Type} [CommRing K] [LinearOrder K]

def available (limit : K) (held : List K) : K := max 0 (limit - held.sum)

variable {limit : K}

theorem available_nil (nonneg : 0 ≤ limit) : available limit [] = limit := by
  simp [available, nonneg]

structure Pooled (capacity limit : K) (held : List K) : Prop where
  exact : capacity = available limit held
  nonneg : 0 ≤ limit
  positive : ∀ a ∈ held, 0 < a

variable [IsStrictOrderedRing K] {held : List K}

theorem available_zero (nonneg : 0 ≤ held.sum) : available 0 held = 0 := by
  simp [available, nonneg]

variable {amount : K}

theorem available_cons_max (nonneg : 0 ≤ amount) :
    available limit (amount :: held) = max 0 (available limit held - amount) := by
  simp only [available, sum_cons]
  rcases le_total 0 (limit - held.sum) with rest | none
  · rw [max_eq_right rest, sub_sub, add_comm]
  · rw [max_eq_left none, zero_sub, max_eq_left (neg_nonpos.mpr nonneg), max_eq_left (by linarith)]

theorem sum_erase_eq (member : amount ∈ held) : (held.erase amount).sum = held.sum - amount := by
  have split := (perm_cons_erase member).sum_eq
  rw [sum_cons] at split
  linarith

def Refills (limit amount : K) (held : List K) : Prop :=
  held.sum ≤ limit ∨ limit = 0 ∨ held.sum = amount

theorem available_erase (nonneg : 0 ≤ limit)
    (positive : ∀ a ∈ held, 0 < a) (member : amount ∈ held) (refills : Refills limit amount held) :
    available limit (held.erase amount) = min (available limit held + amount) limit := by
  have rest : 0 ≤ (held.erase amount).sum :=
    sum_nonneg fun a later => (positive a (mem_of_mem_erase later)).le
  have amountPositive := positive amount member
  have split := sum_erase_eq member
  rcases refills with fits | rfl | alone
  · rw [available, available, split, max_eq_right (by linarith), max_eq_right (by linarith),
      min_eq_left (by linarith)]
    ring
  · rw [available_zero rest, available_zero (by linarith), zero_add, min_eq_right amountPositive.le]
  · have none : (held.erase amount).sum = 0 := by linarith
    rw [available, none, sub_zero, max_eq_right nonneg]
    rw [eq_comm, min_eq_right_iff]
    have := le_max_right 0 (limit - held.sum)
    simp only [available]
    linarith

section Pooled

variable {capacity limit amount : K} {held : List K}

section

variable (pooled : Pooled capacity limit held)
include pooled

theorem Pooled.take (positive : 0 < amount)
    (fits : amount ≤ capacity) : Pooled (capacity - amount) limit (amount :: held) where
  exact := by
    rw [available_cons_max positive.le, max_eq_right (sub_nonneg.mpr (pooled.exact ▸ fits)), pooled.exact]
  nonneg := pooled.nonneg
  positive := forall_mem_cons.mpr ⟨positive, pooled.positive⟩

theorem Pooled.takeDownToZero (positive : 0 < amount) :
    Pooled (if capacity - amount < 0 then 0 else capacity - amount) limit (amount :: held) where
  exact := by
    rw [available_cons_max positive.le, ← pooled.exact]
    split
    · rename_i below
      rw [max_eq_left below.le]
    · rename_i above
      rw [max_eq_right (not_lt.mp above)]
  nonneg := pooled.nonneg
  positive := forall_mem_cons.mpr ⟨positive, pooled.positive⟩

theorem Pooled.give (member : amount ∈ held) (refills : Refills limit amount held) :
    Pooled (if limit < capacity + amount then limit else capacity + amount) limit
      (held.erase amount) where
  exact := by
    rw [available_erase pooled.nonneg pooled.positive member refills, ← pooled.exact]
    split
    · rename_i above
      rw [min_eq_right above.le]
    · rename_i within
      rw [min_eq_left (not_lt.mp within)]
  nonneg := pooled.nonneg
  positive a later := pooled.positive a (mem_of_mem_erase later)

theorem Pooled.restart {fresh : K} (nonneg : 0 ≤ fresh)
    (unused : held = [] ∨ fresh = 0) : Pooled fresh fresh held where
  exact := by
    rcases unused with rfl | rfl
    · rw [available_nil nonneg]
    · rw [available_zero (sum_nonneg fun a member => (pooled.positive a member).le)]
  nonneg := nonneg
  positive := pooled.positive

end

end Pooled

end Redhawk.Library
