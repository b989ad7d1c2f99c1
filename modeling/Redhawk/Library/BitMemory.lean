import Mathlib.Data.List.Basic
import Mathlib.Data.Nat.Bitwise
import Mathlib.Tactic.IntervalCases

/-!
A byte memory seen as one sequence of bits, the most significant bit of each byte first, and values
that are copied byte by byte. Bit `i` of the memory lies in byte `i / 8`.
-/

namespace Redhawk.Library

open List

abbrev Byte := BitVec 8

abbrev Memory := Nat → Byte

variable (memory : Memory)

def bit (i : Nat) : Bool := (memory (i / 8)).getLsbD (7 - i % 8)

def byteOf (b : Nat → Bool) : Byte :=
  BitVec.ofBoolListBE [b 0, b 1, b 2, b 3, b 4, b 5, b 6, b 7]

def ofBits (b : Nat → Bool) : Memory := fun a => byteOf fun k => b (8 * a + k)

def readBits (start count : Nat) : Byte :=
  byteOf fun k => decide (8 - count ≤ k) && bit memory (start + (k - (8 - count)))

def writeBits (start count : Nat) (value : Byte) : Memory :=
  ofBits fun i => if start ≤ i ∧ i < start + count then value.getLsbD (count - 1 - (i - start))
    else bit memory i

def Written (before after : Memory) (start count : Nat) (values : Nat → Bool) : Prop :=
  ∀ i, bit after i = if start ≤ i ∧ i < start + count then values (i - start) else bit before i

def Apart (start count other length : Nat) : Prop :=
  start + count ≤ other ∨ other + length ≤ start

@[simp] theorem getLsbD_byteOf (b : Nat → Bool) (j : Nat) :
    (byteOf b).getLsbD j = (decide (j < 8) && b (7 - j)) := by
  rw [byteOf, BitVec.getLsbD_ofBoolListBE]
  by_cases inside : j < 8
  · interval_cases j <;> rfl
  · have outside : ¬ j < [b 0, b 1, b 2, b 3, b 4, b 5, b 6, b 7].length := inside
    simp only [outside, inside, decide_false, Bool.false_and]

theorem byte_ext {x y : Byte} (same : ∀ j < 8, x.getLsbD j = y.getLsbD j) : x = y := by
  apply BitVec.eq_of_getLsbD_eq
  intro j inside
  exact same j inside

theorem memory_ext {before after : Memory} (same : ∀ i, bit before i = bit after i) : before = after := by
  funext a
  apply byte_ext
  intro j inside
  have atBit := same (8 * a + (7 - j))
  have byte : (8 * a + (7 - j)) / 8 = a := by omega
  have place : 7 - (8 * a + (7 - j)) % 8 = j := by omega
  simpa only [bit, byte, place] using atBit

@[simp] theorem bit_ofBits (b : Nat → Bool) (i : Nat) : bit (ofBits b) i = b i := by
  have place : 8 * (i / 8) + (7 - (7 - i % 8)) = i := by omega
  have inside : 7 - i % 8 < 8 := by omega
  simp only [bit, ofBits, getLsbD_byteOf, place, inside, decide_true, Bool.true_and]

theorem getLsbD_readBits (start : Nat) {count : Nat} (small : count ≤ 8) (j : Nat) :
    (readBits memory start count).getLsbD j = (decide (j < count) && bit memory (start + (count - 1 - j))) := by
  by_cases inside : j < count
  · have place : 7 - j - (8 - count) = count - 1 - j := by omega
    have byte : j < 8 := by omega
    have low : 8 - count ≤ 7 - j := by omega
    simp only [readBits, getLsbD_byteOf, place, byte, low, inside, decide_true, Bool.true_and]
  · have outside : (decide (j < 8) && decide (8 - count ≤ 7 - j)) = false := by
      simp only [Bool.and_eq_false_iff, decide_eq_false_iff_not]
      omega
    rw [readBits, getLsbD_byteOf, ← Bool.and_assoc, outside]
    simp [inside]

theorem bit_writeBits (start count : Nat) (value : Byte) (i : Nat) :
    bit (writeBits memory start count value) i =
      if start ≤ i ∧ i < start + count then value.getLsbD (count - 1 - (i - start))
      else bit memory i := by
  simp [writeBits]

namespace Written

variable {before after : Memory} {start count : Nat} {values : Nat → Bool}

theorem start_of (before : Memory) (start : Nat) (values : Nat → Bool) :
    Written before before start 0 values := by
  intro i
  rw [if_neg (by omega)]

section

variable (written : Written before after start count values)
include written

theorem inside {i : Nat} (within : i < count) : bit after (start + i) = values i := by
  rw [written, if_pos (by omega), Nat.add_sub_cancel_left]

theorem outside {i : Nat} (without : i < start ∨ start + count ≤ i) : bit after i = bit before i := by
  rw [written, if_neg (by omega)]

theorem extend {more : Nat} {value : Byte}
    (next : ∀ j < more, value.getLsbD (more - 1 - j) = values (count + j)) :
    Written before (writeBits after (start + count) more value) start (count + more) values := by
  intro i
  rw [bit_writeBits]
  by_cases new : start + count ≤ i ∧ i < start + count + more
  · have place : i - start = count + (i - (start + count)) := by omega
    rw [if_pos new, next _ (by omega), if_pos (by omega), place]
  · rw [if_neg new, written]
    by_cases old : start ≤ i ∧ i < start + count
    · rw [if_pos old, if_pos (by omega)]
    · rw [if_neg old, if_neg (by omega)]

end

theorem extend_upTo {place more total : Nat} {value : Byte}
    (written : Written before after start (min place total) values)
    (next : ∀ j < more, value.getLsbD (more - 1 - j) =
      if place + j < total then values (place + j) else bit after (start + place + j)) :
    Written before (writeBits after (start + place) more value) start (min (place + more) total)
      values := by
  intro i
  rw [bit_writeBits]
  by_cases new : start + place ≤ i ∧ i < start + place + more
  · have index : start + place + (i - (start + place)) = i := by omega
    rw [if_pos new, next _ (by omega), index]
    by_cases short : place + (i - (start + place)) < total
    · have same : place + (i - (start + place)) = i - start := by omega
      rw [if_pos short, if_pos (by omega), same]
    · rw [if_neg short, if_neg (by omega), written, if_neg (by omega)]
  · rw [if_neg new, written]
    by_cases old : start ≤ i ∧ i < start + min place total
    · rw [if_pos old, if_pos (by omega)]
    · rw [if_neg old, if_neg (by omega)]

theorem byte (written : Written before after start count values) {a : Nat}
    (apart : Apart start count (8 * a) 8) : after a = before a := by
  apply byte_ext
  intro j inside
  have place : (8 * a + (7 - j)) / 8 = a ∧ 7 - (8 * a + (7 - j)) % 8 = j := by omega
  have same := written.outside (i := 8 * a + (7 - j)) (by unfold Apart at apart; omega)
  simpa only [bit, place] using same

end Written

class Plain (U : Type) where
  sizeof : Nat
  bytes : U → List Byte
  ofBytes : List Byte → U
  length_bytes : ∀ value, (bytes value).length = sizeof
  ofBytes_bytes : ∀ value, ofBytes (bytes value) = value
  sizeof_lt : sizeof < 2 ^ 63

def bytesOf : Nat → Nat → List Byte
  | 0, _ => []
  | n + 1, value => BitVec.ofNat 8 value :: bytesOf n (value / 256)

def numberOf : List Byte → Nat
  | [] => 0
  | byte :: rest => byte.toNat + 256 * numberOf rest

theorem length_bytesOf (n value : Nat) : (bytesOf n value).length = n := by
  induction n generalizing value with
  | zero => rfl
  | succ n ih => rw [bytesOf, length_cons, ih]

theorem numberOf_bytesOf (n value : Nat) : numberOf (bytesOf n value) = value % 256 ^ n := by
  induction n generalizing value with
  | zero => rw [Nat.pow_zero, Nat.mod_one]; rfl
  | succ n ih =>
      have powers : 256 ^ (n + 1) = 256 * 256 ^ n := Nat.pow_succ'
      rw [bytesOf, numberOf, ih, BitVec.toNat_ofNat, powers, Nat.mod_mul]

@[reducible] def Plain.word (n : Nat) (small : n < 2 ^ 63) : Plain (BitVec (8 * n)) where
  sizeof := n
  bytes value := bytesOf n value.toNat
  ofBytes bytes := BitVec.ofNat (8 * n) (numberOf bytes)
  length_bytes value := length_bytesOf n value.toNat
  ofBytes_bytes value := by
    have width : 256 ^ n = 2 ^ (8 * n) := by rw [Nat.pow_mul]
    rw [numberOf_bytesOf, width, Nat.mod_eq_of_lt value.isLt, BitVec.ofNat_toNat, BitVec.setWidth_eq]
  sizeof_lt := small

instance : Plain (BitVec 16) := Plain.word 2 (by decide)

instance : Plain (BitVec 32) := Plain.word 4 (by decide)

instance : Plain (BitVec 64) := Plain.word 8 (by decide)

instance : Plain Bool where
  sizeof := 1
  bytes value := [BitVec.ofNat 8 value.toNat]
  ofBytes bytes := numberOf bytes != 0
  length_bytes _ := rfl
  ofBytes_bytes value := by cases value <;> rfl
  sizeof_lt := by decide

def strncpy (src : List Byte) (n : Nat) : List Byte :=
  let text := (src.take n).takeWhile (· != 0)
  text ++ replicate (n - text.length) 0

def Terminated (string : List Byte) : Prop :=
  ∃ text zeros, string = text ++ replicate zeros 0 ∧ 0 ∉ text

theorem takeWhile_zeros {text : List Byte} (clean : 0 ∉ text) (zeros : Nat) :
    (text ++ replicate zeros 0).takeWhile (· != 0) = text := by
  have each : ∀ byte ∈ text, (byte != 0) = true := by
    rintro byte member
    have nonzero : byte ≠ 0 := fun zero => clean (zero ▸ member)
    simpa using nonzero
  rw [takeWhile_append_of_pos each]
  cases zeros with
  | zero => simp
  | succ zeros => simp [replicate_succ]

theorem length_strncpy (src : List Byte) (n : Nat) : (strncpy src n).length = n := by
  have most : ((src.take n).takeWhile (· != 0)).length ≤ n :=
    Nat.le_trans (List.takeWhile_prefix _).length_le (length_take_le ..)
  rw [strncpy, length_append, length_replicate]
  omega

theorem strncpy_eq_iff (string : List Byte) :
    strncpy string string.length = string ↔ Terminated string := by
  rw [strncpy, take_length]
  constructor
  · intro same
    refine ⟨_, _, same.symm, fun member => ?_⟩
    have kept := all_eq_true.mp (all_takeWhile (l := string)) 0 member
    cases kept
  · rintro ⟨text, zeros, rfl, clean⟩
    rw [takeWhile_zeros clean, length_append, length_replicate, Nat.add_sub_cancel_left]

end Redhawk.Library
