import Redhawk.Bitops.BitGetters

/-!
Bit buffers as the strings of bits they show: `shared_bitbuffer` of `bitbuffer.cpp`, whose bytes lie in
the one memory, and `bitbuffer` of `bitbuffer.py`, with a byte array of its own.
-/

namespace Redhawk.Bitops

open Redhawk.Library List

structure SharedBitbuffer where
  data : Nat
  offset : Nat
  size : Nat
  addressable : offset + size < 2 ^ 63

def npos : Nat := 2 ^ 64 - 1

namespace SharedBitbuffer

def bits (memory : Memory) (buffer : SharedBitbuffer) : List Bool :=
  (range buffer.size).map (bitsAt memory buffer.data buffer.offset)

@[simp] theorem length_bits (memory : Memory) (buffer : SharedBitbuffer) :
    (buffer.bits memory).length = buffer.size := by simp [bits]

end SharedBitbuffer

theorem drop_take_range {β : Type} (f : Nat → β) {n i count : Nat} (within : i + count ≤ n) :
    (((range n).map f).drop i).take count = (range count).map fun k => f (i + k) := by
  refine ext_getElem ?_ fun k _ _ => ?_
  · simp only [length_take, length_drop, length_map, length_range]
    omega
  · simp

theorem map_range_add {β : Type} (f : Nat → β) (n m : Nat) :
    (range (n + m)).map f = (range n).map f ++ (range m).map fun k => f (n + k) := by
  rw [range_add, map_append, map_map]
  rfl

namespace Py

/-- Python's `bitbuffer`; `data` is the backing array. -/
structure Bitbuffer where
  data : Memory
  bits : Nat
  start : Nat

def exploded (value : Byte) : List Bool :=
  [7, 6, 5, 4, 3, 2, 1, 0].map value.getLsbD

def unpack (src : Memory) (start count : Nat) : List Bool :=
  let byte := start / 8
  let bit := start % 8
  let nbits := if bit > 0 then min (8 - bit) count else 0
  let head := if bit > 0 then ((exploded (src byte)).drop bit).take nbits else []
  let byte := if bit > 0 then byte + 1 else byte
  let count := count - nbits
  let bytes := count / 8
  let whole := (range bytes).flatMap fun k => exploded (src (byte + k))
  let remain := count % 8
  let tail := if remain > 0 then (exploded (src (byte + bytes))).take remain else []
  head ++ whole ++ tail

theorem exploded_eq (src : Memory) (byte : Nat) :
    exploded (src byte) = (range 8).map fun k => bit src (8 * byte + k) := by
  have each : ∀ k < 8, bit src (8 * byte + k) = (src byte).getLsbD (7 - k) := by
    intro k small
    have place : (8 * byte + k) / 8 = byte ∧ (8 * byte + k) % 8 = k := by omega
    rw [bit, place.1, place.2]
  have same := map_congr_left fun k member => each k (mem_range.mp member)
  rw [same]
  rfl

theorem exploded_whole (src : Memory) (byte bytes : Nat) :
    (range bytes).flatMap (fun k => exploded (src (byte + k))) =
      (range (8 * bytes)).map fun k => bit src (8 * byte + k) := by
  induction bytes with
  | zero => rfl
  | succ bytes ih =>
      rw [range_succ, flatMap_append, ih, Nat.mul_succ, map_range_add, flatMap_singleton,
        exploded_eq]
      simp only [Nat.mul_add, Nat.add_assoc]

theorem unpack_eq (src : Memory) (start count : Nat) :
    unpack src start count = (range count).map fun i => bit src (start + i) := by
  have aligned (byte count : Nat) : ((range (count / 8)).flatMap fun k =>
      exploded (src (byte + k))) ++ (if count % 8 > 0 then
        (exploded (src (byte + count / 8))).take (count % 8) else []) =
      (range count).map fun i => bit src (8 * byte + i) := by
    have tail : (if count % 8 > 0 then (exploded (src (byte + count / 8))).take (count % 8) else []) =
        (range (count % 8)).map fun k => bit src (8 * byte + (8 * (count / 8) + k)) := by
      split
      · rw [exploded_eq, ← drop_zero (l := (range 8).map _), drop_take_range _ (by omega)]
        simp [Nat.mul_add, Nat.add_assoc]
      · obtain none : count % 8 = 0 := by omega
        rw [none]
        rfl
    have whole : count = 8 * (count / 8) + count % 8 := by omega
    rw [tail, exploded_whole, ← map_range_add (fun i => bit src (8 * byte + i)), ← whole]
  simp only [unpack]
  by_cases bit' : start % 8 > 0
  · simp only [if_pos bit']
    have head : ((exploded (src (start / 8))).drop (start % 8)).take (min (8 - start % 8) count) =
        (range (min (8 - start % 8) count)).map fun k => bit src (start + k) := by
      rw [exploded_eq, drop_take_range _ (by omega)]
      refine map_congr_left fun k _ => ?_
      rw [← Nat.add_assoc]
      congr 2
      omega
    have rest := aligned (start / 8 + 1) (count - min (8 - start % 8) count)
    rw [append_assoc, rest, head]
    have whole : count = min (8 - start % 8) count + (count - min (8 - start % 8) count) := by omega
    conv_rhs => rw [whole, map_range_add]
    by_cases small : count ≤ 8 - start % 8
    · rw [Nat.min_eq_right small, Nat.sub_self]
      rfl
    · have place (k : Nat) : 8 * (start / 8 + 1) + k = start + (min (8 - start % 8) count + k) := by
        omega
      simp only [place]
  · have place : 8 * (start / 8) = start := by omega
    have rest := aligned (start / 8) count
    simp [if_neg bit', rest, place]

namespace Bitbuffer

variable (self : Bitbuffer)

def iter : List Bool := unpack self.data self.start self.bits

@[simp] theorem length_iter : self.iter.length = self.bits := by
  rw [iter, unpack_eq, length_map, length_range]

def index (pos : Int) : Nat :=
  if pos < 0 then (pos + self.bits).toNat else min pos.toNat self.bits

def indices (start : Int) (stop : Option Int) : Nat × Nat :=
  (self.index start, match stop with
    | none => self.bits
    | some stop => self.index stop)

def slice (start stop : Int) : Bitbuffer :=
  { self with bits := self.index stop - self.index start, start := self.start + self.index start }

theorem index_within {self : Bitbuffer} {pos : Nat} (within : pos ≤ self.bits) : self.index pos = pos := by
  rw [index, if_neg (by omega), Int.toNat_natCast, Nat.min_eq_left within]

theorem iter_slice {self : Bitbuffer} {start stop : Nat} (ordered : start ≤ stop) (within : stop ≤ self.bits) :
    (self.slice start stop).iter = (self.iter.drop start).take (stop - start) := by
  rw [slice, index_within within, index_within (Nat.le_trans ordered within), iter, iter, unpack_eq,
    unpack_eq, drop_take_range _ (by omega)]
  simp only [Nat.add_assoc]

end Bitbuffer

end Py

end Redhawk.Bitops
