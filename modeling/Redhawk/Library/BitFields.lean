import Redhawk.Library.BitSequence

/-!
Fields of bits in a memory, where bit `b` of byte `k` is bit `8 * k + b`. A big-endian field consists of
bytes, the most significant one first.
-/

namespace Redhawk.Library

abbrev BitMap := Nat → Bool

structure BitField where
  start : Nat
  count : Nat
  bigEndian : Bool
  bytes : bigEndian = true → 8 ∣ count
deriving DecidableEq

namespace BitField

def Inside (field : BitField) (place : Nat) : Prop :=
  field.start ≤ place ∧ place < field.start + field.count

instance (field : BitField) : DecidablePred field.Inside :=
  fun _ => inferInstanceAs (Decidable (_ ∧ _))

def turn (field : BitField) (bit : Nat) : Nat :=
  if field.bigEndian then field.count - 8 - bit / 8 * 8 + bit % 8 else bit

def get (field : BitField) (memory : BitMap) : Nat :=
  valueOf (fun digit => memory (field.start + field.turn (field.count - 1 - digit))) field.count

def set (field : BitField) (value : Nat) (memory : BitMap) : BitMap := fun place =>
  if field.Inside place then value.testBit (field.turn (place - field.start)) else memory place

def Apart (first second : BitField) : Prop :=
  first.start + first.count ≤ second.start ∨ second.start + second.count ≤ first.start

instance (first second : BitField) : Decidable (Apart first second) := inferInstanceAs (Decidable (_ ∨ _))

variable {field other : BitField} {value bit : Nat} {memory later : BitMap}

theorem turn_lt (inside : bit < field.count) : field.turn bit < field.count := by
  unfold turn
  split
  · have bytes := field.bytes ‹_›
    omega
  · exact inside

theorem turn_turn (inside : bit < field.count) : field.turn (field.turn bit) = bit := by
  unfold turn
  split
  · have bytes := field.bytes ‹_›
    omega
  · rfl

theorem testBit_get : (field.get memory).testBit bit =
    (decide (bit < field.count) && memory (field.start + field.turn bit)) := by
  rw [get, testBit_valueOf]
  by_cases inside : bit < field.count
  · rw [show field.count - 1 - (field.count - 1 - bit) = bit by omega]
  · simp [inside]

theorem get_lt : field.get memory < 2 ^ field.count :=
  Nat.lt_pow_two_of_testBit _ fun bit beyond => by simp [testBit_get, Nat.not_lt.mpr beyond]

theorem get_eq_iff : field.get later = field.get memory ↔
    ∀ place, field.Inside place → later place = memory place := by
  constructor
  · intro same place inside
    have within : place - field.start < field.count := by have := inside.1; have := inside.2; omega
    have bits := congrArg (fun number => number.testBit (field.turn (place - field.start))) same
    simp only [testBit_get, turn_lt within, turn_turn within, decide_true, Bool.true_and] at bits
    rwa [Nat.add_sub_cancel' inside.1] at bits
  · intro same
    refine Nat.eq_of_testBit_eq fun bit => ?_
    rw [testBit_get, testBit_get]
    by_cases inside : bit < field.count
    · rw [same _ ⟨Nat.le_add_right .., Nat.add_lt_add_left (turn_lt inside) _⟩]
    · simp [inside]

theorem get_set (small : value < 2 ^ field.count) : field.get (field.set value memory) = value := by
  refine Nat.eq_of_testBit_eq fun bit => ?_
  rw [testBit_get]
  by_cases inside : bit < field.count
  · rw [set, if_pos ⟨Nat.le_add_right .., Nat.add_lt_add_left (turn_lt inside) _⟩, Nat.add_sub_cancel_left,
      turn_turn inside]
    simp [inside]
  · rw [Nat.testBit_lt_two_pow (small.trans_le (Nat.pow_le_pow_right (by decide) (not_lt.mp inside)))]
    simp [inside]

theorem set_get : field.set (field.get memory) memory = memory := by
  funext place
  unfold set
  split
  · rename_i inside
    have within : place - field.start < field.count := by have := inside.1; have := inside.2; omega
    rw [testBit_get, turn_turn within, Nat.add_sub_cancel' inside.1]
    simp [turn_lt within]
  · rfl

theorem get_set_apart (apart : other.Apart field) : field.get (other.set value memory) = field.get memory :=
  get_eq_iff.mpr fun _ inside => if_neg fun both => by
    have := inside.1; have := inside.2; have := both.1; have := both.2
    rcases apart with apart | apart <;> omega

/-- A field inside another one keeps its number exactly when the write changes nothing. -/
theorem get_set_within (within : ∀ place, field.Inside place → other.Inside place)
    (small : value < 2 ^ field.count) :
    other.get (field.set value memory) = other.get memory ↔ field.get memory = value := by
  refine ⟨fun same => ?_, fun same => by rw [← same, set_get]⟩
  rw [← get_eq_iff.mpr fun place inside => get_eq_iff.mp same place (within place inside), get_set small]

end BitField

def setAll (writes : List (BitField × Nat)) (memory : BitMap) : BitMap :=
  writes.foldl (fun memory write => write.1.set write.2 memory) memory

structure Settable (writes : List (BitField × Nat)) : Prop where
  apart : writes.Pairwise fun first second => second.1.Apart first.1
  small : ∀ write ∈ writes, write.2 < 2 ^ write.1.count

variable {writes : List (BitField × Nat)} {field : BitField} {memory : BitMap}

theorem get_setAll_apart (apart : ∀ write ∈ writes, write.1.Apart field) :
    field.get (setAll writes memory) = field.get memory := by
  induction writes generalizing memory with
  | nil => rfl
  | cons write rest ih =>
      rw [List.forall_mem_cons] at apart
      exact (ih apart.2).trans (BitField.get_set_apart apart.1)

theorem setAll_outside {place : Nat} (outside : ∀ write ∈ writes, ¬write.1.Inside place) :
    setAll writes memory place = memory place := by
  induction writes generalizing memory with
  | nil => rfl
  | cons write rest ih =>
      rw [List.forall_mem_cons] at outside
      exact (ih outside.2).trans (if_neg outside.1)

theorem Settable.get (settable : Settable writes) :
    ∀ write ∈ writes, write.1.get (setAll writes memory) = write.2 := by
  induction writes generalizing memory with
  | nil => simp
  | cons write rest ih =>
      obtain ⟨apart, small⟩ := settable
      rw [List.pairwise_cons] at apart
      rw [List.forall_mem_cons] at small ⊢
      exact ⟨(get_setAll_apart apart.1).trans (BitField.get_set small.1), ih ⟨apart.2, small.2⟩⟩

theorem Settable.setAll_eq_iff (settable : Settable writes) :
    setAll writes memory = memory ↔ ∀ write ∈ writes, write.1.get memory = write.2 := by
  refine ⟨fun same => ?_, fun held => ?_⟩
  · rw [← same]
    exact settable.get
  · clear settable
    induction writes with
    | nil => rfl
    | cons write rest ih =>
        rw [List.forall_mem_cons] at held
        rw [setAll, List.foldl_cons, ← held.1, BitField.set_get]
        exact ih held.2

end Redhawk.Library
