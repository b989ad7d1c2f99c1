import Redhawk.Library.BitMemory

/-!
Reading and writing partial and split bytes. A byte pointer is an address of one flat memory, so
that two bit arrays may lie in the same buffer. Arithmetic that the source makes on `int` and stores
in a byte is made on 8 bits here where the bits above are cut off anyway.
-/

namespace Redhawk.Bitops

open Redhawk.Library BitVec

def adjustBuffer (buffer offset : Nat) : Nat × Nat :=
  (buffer + offset / 8, offset % 8)

def bitmask (nbits : Nat) : Byte :=
  ((1#32 <<< nbits) - 1#32).setWidth 8

namespace BitReader

def read (memory : Memory) (src offset bits : Nat) : Byte :=
  let shift := 8 - (offset + bits)
  (memory src >>> shift) &&& bitmask bits

def readLeft (memory : Memory) (src bits : Nat) : Byte :=
  let shift := 8 - bits
  memory src >>> shift

def readSplitByte (memory : Memory) (src offset : Nat) : Byte :=
  let shift := 8 - offset
  let value : BitVec 32 := ((memory src).setWidth 32 <<< 8) ||| (memory (src + 1)).setWidth 32
  (value >>> shift).setWidth 8

def lastBit (offset bits : Nat) : Nat := (offset + bits + (2 ^ 64 - 1)) % 2 ^ 64

def readSplit (memory : Memory) (src offset bits : Nat) : Byte :=
  let last := lastBit offset bits
  let value : BitVec 16 :=
    ((memory src).setWidth 16 <<< 8) ||| (memory (src + last / 8)).setWidth 16
  let shift := (15 + (2 ^ 64 - last)) % 2 ^ 64
  (value >>> shift).setWidth 8 &&& bitmask bits

end BitReader

namespace BitWriter

def writeByte (value dest : Byte) (offset bits : Nat) : Byte :=
  let shift := 8 - (offset + bits)
  let mask := bitmask bits <<< shift
  (dest &&& ~~~mask) ||| ((value <<< shift) &&& mask)

def write (value : Byte) (memory : Memory) (dest offset bits : Nat) : Memory :=
  Function.update memory dest (writeByte value (memory dest) offset bits)

def writeLeft (value : Byte) (memory : Memory) (dest bits : Nat) : Memory :=
  let shift := 8 - bits
  let mask := bitmask shift
  Function.update memory dest ((memory dest &&& mask) ||| (value <<< shift))

def writeSplitByte (value : Byte) (memory : Memory) (dest offset : Nat) : Memory :=
  let memory := write (value >>> offset) memory dest offset (8 - offset)
  writeLeft value memory (dest + 1) offset

def writeSplit (value : Byte) (memory : Memory) (dest offset bits : Nat) : Memory :=
  let left := min (8 - offset) bits
  let memory := write (value >>> (bits - left)) memory dest offset left
  if bits > left then writeLeft value memory (dest + 1) (bits - left) else memory

end BitWriter

theorem adjustBuffer_place (buffer offset : Nat) :
    8 * (adjustBuffer buffer offset).1 + (adjustBuffer buffer offset).2 = 8 * buffer + offset := by
  simp only [adjustBuffer]
  omega

theorem adjustBuffer_small (buffer offset : Nat) : (adjustBuffer buffer offset).2 < 8 := by
  simp only [adjustBuffer]
  omega

@[simp] theorem getLsbD_bitmask {nbits : Nat} (small : nbits ≤ 8) (j : Nat) :
    (bitmask nbits).getLsbD j = decide (j < nbits) := by
  by_cases inside : j < 8
  · interval_cases nbits <;> interval_cases j <;> rfl
  · have outside : ¬ j < nbits := by omega
    rw [getLsbD_of_ge _ _ (by omega)]
    simp [outside]

variable (memory : Memory)

theorem getLsbD_byte (a : Nat) {j : Nat} (inside : j < 8) :
    (memory a).getLsbD j = bit memory (8 * a + (7 - j)) := by
  have byte : (8 * a + (7 - j)) / 8 = a := by omega
  have place : 7 - (8 * a + (7 - j)) % 8 = j := by omega
  rw [bit, byte, place]

theorem bit_update (a : Nat) (value : Byte) (i : Nat) :
    bit (Function.update memory a value) i =
      if i / 8 = a then value.getLsbD (7 - i % 8) else bit memory i := by
  by_cases same : i / 8 = a
  · simp [bit, same]
  · simp [bit, same, Function.update_of_ne]

theorem byte_eq_readBits (a : Nat) : memory a = readBits memory (8 * a) 8 := by
  apply byte_ext
  intro j inside
  rw [getLsbD_readBits memory (8 * a) (Nat.le_refl 8), getLsbD_byte memory a inside]
  simp [inside]

theorem update_eq_writeBits (a : Nat) (value : Byte) :
    Function.update memory a value = writeBits memory (8 * a) 8 value := by
  apply memory_ext
  intro i
  rw [bit_update, bit_writeBits]
  by_cases same : i / 8 = a
  · have inside : 8 * a ≤ i ∧ i < 8 * a + 8 := by omega
    have place : 7 - i % 8 = 8 - 1 - (i - 8 * a) := by omega
    simp [same, inside, place]
  · have outside : ¬ (8 * a ≤ i ∧ i < 8 * a + 8) := by omega
    simp [same, outside]

namespace BitReader

variable {offset bits : Nat} (memory : Memory) (src : Nat)

theorem read_eq (within : offset + bits ≤ 8) :
    read memory src offset bits = readBits memory (8 * src + offset) bits := by
  apply byte_ext
  intro j inside
  rw [getLsbD_readBits _ _ (by omega), read, getLsbD_and, getLsbD_ushiftRight,
    getLsbD_bitmask (by omega)]
  by_cases low : j < bits
  · have place : 8 * src + (7 - (8 - (offset + bits) + j)) = 8 * src + offset + (bits - 1 - j) := by
      omega
    rw [getLsbD_byte _ _ (by omega), place]
    simp [low]
  · simp [low]

theorem readLeft_eq (within : bits ≤ 8) : readLeft memory src bits = readBits memory (8 * src) bits := by
  apply byte_ext
  intro j inside
  rw [getLsbD_readBits _ _ within, readLeft, getLsbD_ushiftRight]
  by_cases low : j < bits
  · have place : 8 * src + (7 - (8 - bits + j)) = 8 * src + (bits - 1 - j) := by omega
    rw [getLsbD_byte _ _ (by omega), place]
    simp [low]
  · rw [getLsbD_of_ge _ _ (by omega)]
    simp [low]

theorem getLsbD_pair {width : Nat} (wide : 16 ≤ width) (high low : Byte) {j : Nat} (inside : j < 16) :
    ((high.setWidth width <<< 8) ||| low.setWidth width).getLsbD j =
      if j < 8 then low.getLsbD j else high.getLsbD (j - 8) := by
  have small : j < width := by omega
  rw [getLsbD_or, getLsbD_shiftLeft, getLsbD_setWidth, getLsbD_setWidth]
  by_cases right : j < 8
  · simp [right, small]
  · have far : low.getLsbD j = false := getLsbD_of_ge _ _ (by omega)
    have near : j - 8 < width := by omega
    simp [right, small, near, far]

theorem readSplitByte_eq (within : offset < 8) :
    readSplitByte memory src offset = readBits memory (8 * src + offset) 8 := by
  apply byte_ext
  intro j inside
  rw [getLsbD_readBits _ _ (Nat.le_refl 8), readSplitByte, getLsbD_setWidth,
    getLsbD_ushiftRight, getLsbD_pair (by omega) _ _ (by omega)]
  by_cases right : 8 - offset + j < 8
  · have place : 8 * (src + 1) + (7 - (8 - offset + j)) = 8 * src + offset + (8 - 1 - j) := by omega
    rw [if_pos right, getLsbD_byte _ _ (by omega), place]
  · have place : 8 * src + (7 - (8 - offset + j - 8)) = 8 * src + offset + (8 - 1 - j) := by omega
    rw [if_neg right, getLsbD_byte _ _ (by omega), place]

theorem lastBit_eq (within : offset < 8) (nonempty : 1 ≤ bits)
    (small : bits ≤ 8) : lastBit offset bits = offset + bits - 1 := by
  rw [lastBit]
  omega

theorem readSplit_eq (within : offset < 8) (nonempty : 1 ≤ bits) (small : bits ≤ 8) :
    readSplit memory src offset bits = readBits memory (8 * src + offset) bits := by
  have shift : (15 + (2 ^ 64 - (offset + bits - 1))) % 2 ^ 64 = 15 - (offset + bits - 1) := by omega
  apply byte_ext
  intro j inside
  rw [getLsbD_readBits _ _ small, readSplit, lastBit_eq within nonempty small, shift,
    getLsbD_and, getLsbD_bitmask small, getLsbD_setWidth, getLsbD_ushiftRight]
  by_cases low : j < bits
  · rw [getLsbD_pair (Nat.le_refl 16) _ _ (by omega)]
    by_cases right : 15 - (offset + bits - 1) + j < 8
    · have place : 8 * (src + (offset + bits - 1) / 8) + (7 - (15 - (offset + bits - 1) + j)) =
          8 * src + offset + (bits - 1 - j) := by omega
      rw [if_pos right, getLsbD_byte _ _ (by omega), place]
      simp [low, inside]
    · have place : 8 * src + (7 - (15 - (offset + bits - 1) + j - 8)) =
          8 * src + offset + (bits - 1 - j) := by omega
      rw [if_neg right, getLsbD_byte _ _ (by omega), place]
      simp [low, inside]
  · simp [low]

end BitReader

namespace BitWriter

variable {offset bits : Nat}

theorem getLsbD_writeByte (value dest : Byte) (within : offset + bits ≤ 8) {j : Nat} (inside : j < 8) :
    (writeByte value dest offset bits).getLsbD j =
      if 8 - (offset + bits) ≤ j ∧ j < 8 - offset then value.getLsbD (j - (8 - (offset + bits)))
      else dest.getLsbD j := by
  simp only [writeByte, getLsbD_or, getLsbD_and, getLsbD_not, getLsbD_shiftLeft]
  rw [getLsbD_bitmask (by omega)]
  by_cases high : 8 - (offset + bits) ≤ j
  · by_cases low : j < 8 - offset
    · have place : j - (8 - (offset + bits)) < bits := by omega
      have above : ¬ j < 8 - (offset + bits) := by omega
      simp [high, low, place, above, inside]
    · have place : ¬ j - (8 - (offset + bits)) < bits := by omega
      simp [low, place, inside]
  · have below : j < 8 - (offset + bits) := by omega
    simp [high, below, inside]

variable (value : Byte) (memory : Memory) (dest : Nat)

theorem write_eq (within : offset + bits ≤ 8) :
    write value memory dest offset bits = writeBits memory (8 * dest + offset) bits value := by
  apply memory_ext
  intro i
  rw [write, bit_update, bit_writeBits]
  by_cases same : i / 8 = dest
  · rw [if_pos same, getLsbD_writeByte _ _ within (by omega), getLsbD_byte _ _ (by omega)]
    by_cases inside : 8 * dest + offset ≤ i ∧ i < 8 * dest + offset + bits
    · have low : 8 - (offset + bits) ≤ 7 - i % 8 ∧ 7 - i % 8 < 8 - offset := by omega
      have place : 7 - i % 8 - (8 - (offset + bits)) = bits - 1 - (i - (8 * dest + offset)) := by omega
      rw [if_pos low, if_pos inside, place]
    · have low : ¬ (8 - (offset + bits) ≤ 7 - i % 8 ∧ 7 - i % 8 < 8 - offset) := by omega
      have place : 8 * dest + (7 - (7 - i % 8)) = i := by omega
      rw [if_neg low, if_neg inside, place]
  · have outside : ¬ (8 * dest + offset ≤ i ∧ i < 8 * dest + offset + bits) := by omega
    rw [if_neg same, if_neg outside]

theorem writeLeft_eq (within : bits ≤ 8) :
    writeLeft value memory dest bits = writeBits memory (8 * dest) bits value := by
  apply memory_ext
  intro i
  rw [writeLeft, bit_update, bit_writeBits]
  by_cases same : i / 8 = dest
  · rw [if_pos same, getLsbD_or, getLsbD_and, getLsbD_bitmask (by omega),
      getLsbD_shiftLeft, getLsbD_byte _ _ (by omega)]
    have byte : 7 - i % 8 < 8 := by omega
    by_cases inside : 8 * dest ≤ i ∧ i < 8 * dest + bits
    · have low : ¬ 7 - i % 8 < 8 - bits := by omega
      have place : 7 - i % 8 - (8 - bits) = bits - 1 - (i - 8 * dest) := by omega
      simp [inside, low, place, byte]
    · have low : 7 - i % 8 < 8 - bits := by omega
      have place : 8 * dest + (7 - (7 - i % 8)) = i := by omega
      simp [inside, low, place]
  · have outside : ¬ (8 * dest ≤ i ∧ i < 8 * dest + bits) := by omega
    rw [if_neg same, if_neg outside]

theorem writeBits_pair (start left right : Nat) (value : Byte) :
    writeBits (writeBits memory start left (value >>> right)) (start + left) right value =
      writeBits memory start (left + right) value := by
  apply memory_ext
  intro i
  simp only [bit_writeBits, getLsbD_ushiftRight]
  by_cases second : start + left ≤ i ∧ i < start + left + right
  · have whole : start ≤ i ∧ i < start + (left + right) := by omega
    have place : right - 1 - (i - (start + left)) = left + right - 1 - (i - start) := by omega
    rw [if_pos second, if_pos whole, place]
  · rw [if_neg second]
    by_cases first : start ≤ i ∧ i < start + left
    · have whole : start ≤ i ∧ i < start + (left + right) := by omega
      have place : right + (left - 1 - (i - start)) = left + right - 1 - (i - start) := by omega
      rw [if_pos first, if_pos whole, place]
    · have whole : ¬ (start ≤ i ∧ i < start + (left + right)) := by omega
      rw [if_neg first, if_neg whole]

theorem writeSplitByte_eq (within : offset < 8) :
    writeSplitByte value memory dest offset = writeBits memory (8 * dest + offset) 8 value := by
  have next : 8 * (dest + 1) = 8 * dest + offset + (8 - offset) := by omega
  have whole : 8 - offset + offset = 8 := by omega
  rw [writeSplitByte, write_eq _ _ _ (by omega), writeLeft_eq _ _ _ (by omega), next, writeBits_pair, whole]

theorem writeSplit_eq (within : offset < 8) (small : bits ≤ 8) :
    writeSplit value memory dest offset bits = writeBits memory (8 * dest + offset) bits value := by
  rw [writeSplit]
  split_ifs with more
  · have left : min (8 - offset) bits = 8 - offset := by omega
    have next : 8 * (dest + 1) = 8 * dest + offset + (8 - offset) := by omega
    have whole : 8 - offset + (bits - (8 - offset)) = bits := by omega
    rw [left, write_eq _ _ _ (by omega), writeLeft_eq _ _ _ (by omega), next, writeBits_pair, whole]
  · have left : min (8 - offset) bits = bits := by omega
    rw [left, write_eq _ _ _ (by omega), Nat.sub_self, ushiftRight_zero]

end BitWriter

end Redhawk.Bitops
