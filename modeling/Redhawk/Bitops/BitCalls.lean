import Redhawk.Bitops.BitEffects

/-!
The public functions of `bitops.cpp` on a range of bits as calls, and their calls with no bits.
-/

namespace Redhawk.Bitops

open Redhawk.Library BitHandler BinaryOp UnaryOp List

namespace UnaryEffects

def getInteger : UnaryEffects (BitVec 64) :=
  ⟨UnaryOp.getInteger, fun _ bits => [.shift bits], fun _ _ _ => [], fun _ _ => rfl⟩

def setInteger : UnaryEffects (BitVec 64) :=
  ⟨UnaryOp.setInteger, fun _ bits => [.shift (64 - bits), .shift bits], fun _ _ _ => [], fun _ _ => rfl⟩

def fill (value : Bool) : UnaryEffects Unit :=
  ⟨UnaryOp.fill value, fun _ _ => [], fun _ dest bytes => writesOf .left dest bytes, fun _ _ => rfl⟩

def pack : UnaryEffects Nat :=
  ⟨UnaryOp.pack, fun src bits => readsOf .bytes src bits, fun _ _ _ => [], fun _ _ => rfl⟩

def unpackWith (encode : Byte → Byte) : UnaryEffects Nat :=
  ⟨UnaryOp.unpackWith encode, fun dest bits => writesOf .bytes dest bits, fun _ _ _ => [], fun _ _ => rfl⟩

def popcount : UnaryEffects (BitVec 32) :=
  ⟨UnaryOp.popcount, fun _ _ => [], fun _ _ _ => [], fun _ _ => rfl⟩

end UnaryEffects

namespace BinaryEffects

def copy : BinaryEffects Unit :=
  ⟨BinaryOp.copy, fun dest src bytes => readsOf .right src bytes ++ writesOf .left dest bytes, fun _ _ => rfl⟩

def compare : BinaryEffects Int :=
  ⟨BinaryOp.compare, fun lhs rhs bytes => readsOf .left lhs bytes ++ readsOf .right rhs bytes, fun _ _ => rfl⟩

def hammingDist : BinaryEffects (BitVec 32) := ⟨BinaryOp.hammingDist, fun _ _ _ => [], fun _ _ => rfl⟩

end BinaryEffects

inductive BitCall where
  | copy (dest dstart src sstart : Nat)
  | fill (str start : Nat) (value : Bool)
  | pack (dest dstart src : Nat)
  | unpack (dest src sstart : Nat)
  | compare (s1 start1 s2 start2 : Nat)
  | popcount (str offset : Nat)
  | hammingDistance (s1 start1 s2 start2 : Nat)
  | toString (str ptr start : Nat)
  | getint (str start : Nat)
  | setint (str start : Nat) (value : BitVec 64)
deriving DecidableEq, Repr

namespace BitCall

def run (memory : Memory) (count : Nat) : BitCall → Except String (Memory × Int)
  | copy dest dstart src sstart => .ok (Bitops.copy memory dest dstart src sstart count, 0)
  | fill str start value => .ok (Bitops.fill memory str start count value, 0)
  | pack dest dstart src => .ok (Bitops.pack memory dest dstart src count, 0)
  | unpack dest src sstart => .ok (Bitops.unpack memory dest src sstart count, 0)
  | compare s1 start1 s2 start2 => .ok (memory, Bitops.compare memory s1 start1 s2 start2 count)
  | popcount str offset => .ok (memory, Bitops.popcount memory str offset count)
  | hammingDistance s1 start1 s2 start2 =>
      .ok (memory, Bitops.hammingDistance memory s1 start1 s2 start2 count)
  | toString str ptr start => .ok (Bitops.toString memory str ptr start count, 0)
  | getint str start => (Bitops.getint memory str start count).map fun value => (memory, value.toNat)
  | setint str start value =>
      (Bitops.setint memory str start value count).map fun memory => (memory, 0)

def effects (memory : Memory) (count : Nat) : BitCall → List Effect
  | copy dest dstart src sstart =>
      BinaryEffects.copy.applyBinop dest dstart src sstart count (memory, ())
  | fill str start value => (UnaryEffects.fill value).applyUnary str start count (memory, ())
  | pack dest dstart src => UnaryEffects.pack.applyUnary dest dstart count (memory, src)
  | unpack dest src sstart =>
      (UnaryEffects.unpackWith fun b => b).applyUnary src sstart count (memory, dest)
  | compare s1 start1 s2 start2 =>
      BinaryEffects.compare.applyBinop s1 start1 s2 start2 count (memory, 0)
  | popcount str offset => UnaryEffects.popcount.applyUnary str offset count (memory, 0)
  | hammingDistance s1 start1 s2 start2 =>
      BinaryEffects.hammingDist.applyBinop s1 start1 s2 start2 count (memory, 0)
  | toString str ptr start =>
      (UnaryEffects.unpackWith fun b => 48 + b).applyUnary ptr start count (memory, str)
  | getint str start =>
      if count > 64 then [] else UnaryEffects.getInteger.applyUnary str start count (memory, 0)
  | setint str start value =>
      if count > 64 then []
      else .shift (64 - count) ::
        UnaryEffects.setInteger.applyUnary str start count (memory, value <<< (64 - count))

def left : BitCall → Nat × Nat
  | copy dest dstart _ _ => (dest, dstart)
  | fill str start _ => (str, start)
  | pack dest dstart _ => (dest, dstart)
  | unpack _ src sstart => (src, sstart)
  | compare s1 start1 _ _ => (s1, start1)
  | popcount str offset => (str, offset)
  | hammingDistance s1 start1 _ _ => (s1, start1)
  | toString _ ptr start => (ptr, start)
  | getint str start => (str, start)
  | setint str start _ => (str, start)

def right : BitCall → Option (Nat × Nat)
  | copy _ _ src sstart => some (src, sstart)
  | compare _ _ s2 start2 => some (s2, start2)
  | hammingDistance _ _ s2 start2 => some (s2, start2)
  | _ => none

def bytes : BitCall → Option Nat
  | pack _ _ src => some src
  | unpack dest _ _ => some dest
  | toString str _ _ => some str
  | _ => none

end BitCall

/-- The bytes that hold `count` bits from bit `start` of an array on, with the one that an unaligned
start lies in. -/
def Covers (array : Nat × Nat) (count address : Nat) : Prop :=
  array.1 + array.2 / 8 ≤ address ∧ address < array.1 + (array.2 + count + 7) / 8

namespace BitCall

def Addresses (call : BitCall) (count address : Nat) : Operand → Prop
  | .left => Covers call.left count address
  | .right => ∃ array, call.right = some array ∧ Covers array count address
  | .bytes => ∃ base, call.bytes = some base ∧ base ≤ address ∧ address < base + count

def Allows (call : BitCall) (count : Nat) : Effect → Prop
  | .read array address | .write array address => call.Addresses count address array
  | .shift bits => bits < 64

/-- With no bits the call stays inside its ranges, changes nothing and returns the neutral value. -/
def NoOp (memory : Memory) (call : BitCall) : Prop :=
  (∀ effect ∈ call.effects memory 0, call.Allows 0 effect) ∧ call.run memory 0 = .ok (memory, 0)

def Sound : BitCall → Prop
  | setint .. => False
  | call => ∀ array, call.right = some array → call.left.2 % 8 = 0 ∨ array.2 % 8 ≠ 0

end BitCall

section NoBits

variable {σ : Type}

theorem writeBits_none (memory : Memory) (start : Nat) (value : Byte) :
    writeBits memory start 0 value = memory := by
  apply memory_ext
  intro i
  rw [bit_writeBits, if_neg (by omega)]

theorem BitHandler.write_none (mode : Mode) (value : Byte) (memory : Memory) (dest : Nat)
    {offset : Nat} (within : offset < 8) :
    write mode value memory dest offset 0 = memory := by
  rw [write, BitWriter.write_eq _ _ _ (by omega), writeBits_none, ite_self]

theorem BitHandler.read_none (mode : Mode) (memory : Memory) (src offset : Nat) :
    read mode memory src offset 0 = 0 := by
  rw [read, BitReader.read]
  simp [bitmask]

theorem BitHandler.readSplit_none (mode : Mode) (memory : Memory) (src offset : Nat) :
    readSplit mode memory src offset 0 = 0 := by
  rw [readSplit, BitReader.readSplit]
  simp [bitmask]

theorem UnaryOp.applyUnary_none {f : UnaryOp σ} {s : Memory × σ}
    (op : (f.op s.1 s.2 0 0).1 = s.1 ∧ (f.op s.1 s.2 0 0).2.1 = s.2)
    (array : ∀ arrayOp, f.arrayOp = some arrayOp → ∀ data, arrayOp s.1 s.2 data 0 = s)
    (data offset : Nat) : f.applyUnary data offset 0 s = s := by
  have body (data : Nat) : f.body data 0 s = s := by
    rw [body]
    split
    · rfl
    · rename_i arrayOp given
      exact array arrayOp given data
  have aligned (data : Nat) : f.applyAligned data 0 s = s := by
    simp [applyAligned, body]
  have small := adjustBuffer_small data offset
  simp only [applyUnary, Nat.min_zero, Nat.sub_zero, read_none,
    write_none _ _ _ _ small, apply, op, aligned, ite_self]

theorem BinaryOp.applyBinop_none {f : BinaryOp σ} {s : Memory × σ}
    (op : (f.op s.1 s.2 0 0 0).1 = s.1 ∧ (f.op s.1 s.2 0 0 0).2.1 = s.2)
    (array : ∀ arrayOp, f.arrayOp = some arrayOp → ∀ lhs rhs, arrayOp s.1 s.2 lhs rhs 0 = s)
    (lhs lhsOffset rhs rhsOffset : Nat) : f.applyBinop lhs lhsOffset rhs rhsOffset 0 s = s := by
  have body (lhs rhs : Nat) : f.alignedBody lhs rhs 0 s = s := by
    rw [alignedBody]
    split
    · rfl
    · rename_i arrayOp given
      exact array arrayOp given lhs rhs
  have aligned (lhs rhs rhsOffset : Nat) : f.applyAligned lhs rhs rhsOffset 0 s = s := by
    simp [applyAligned, body, splitElements, tail]
  have leftSmall := adjustBuffer_small lhs lhsOffset
  have rightSmall := adjustBuffer_small rhs rhsOffset
  simp only [applyBinop, Nat.min_zero, Nat.sub_zero, read_none,
    readSplit_none, write_none _ _ _ _ leftSmall,
    writeSplit, BitWriter.writeSplit_eq _ _ _ rightSmall (Nat.zero_le 8), writeBits_none, apply, op, aligned, ite_self]

end NoBits

namespace BitCall

variable (memory : Memory)

theorem memset_none (dest : Nat) (value : Byte) : memset memory dest value 0 = memory := by
  funext address
  rw [memset, if_neg (by omega)]

theorem memcpy_none (dest src : Nat) : memcpy memory dest src 0 = memory := by
  funext address
  rw [memcpy, if_neg (by omega)]

theorem run_none (call : BitCall) : call.run memory 0 = .ok (memory, 0) := by
  cases call with
  | copy dest dstart src sstart =>
      have same := @BinaryOp.applyBinop_none _ BinaryOp.copy (memory, ()) ⟨rfl, rfl⟩
        (by rintro _ ⟨⟩ lhs rhs; exact Prod.ext (memcpy_none memory lhs rhs) rfl)
      rw [run, Bitops.copy, same]
  | fill str start value =>
      have same := @UnaryOp.applyUnary_none _ (UnaryOp.fill value) (memory, ()) ⟨rfl, rfl⟩
        (by rintro _ ⟨⟩ data; exact Prod.ext (memset_none memory data _) rfl)
      rw [run, Bitops.fill, same]
  | pack dest dstart src =>
      have same := @UnaryOp.applyUnary_none _ UnaryOp.pack (memory, src) ⟨rfl, rfl⟩ (by rintro _ ⟨⟩)
      rw [run, Bitops.pack, same]
  | unpack dest src sstart =>
      have same := @UnaryOp.applyUnary_none _ UnaryOp.unpack (memory, dest) ⟨rfl, rfl⟩ (by rintro _ ⟨⟩)
      rw [run, Bitops.unpack, same]
  | compare s1 start1 s2 start2 =>
      have same := @BinaryOp.applyBinop_none _ BinaryOp.compare (memory, 0) ⟨rfl, rfl⟩
        (by rintro _ ⟨⟩ lhs rhs; rfl)
      rw [run, Bitops.compare, same]
  | popcount str offset =>
      have same := @UnaryOp.applyUnary_none _ UnaryOp.popcount (memory, 0) ⟨rfl, rfl⟩ (by rintro _ ⟨⟩)
      rw [run, Bitops.popcount, same]
      rfl
  | hammingDistance s1 start1 s2 start2 =>
      have same := @applyBinop_none _ hammingDist (memory, 0) ⟨rfl, rfl⟩ (by rintro _ ⟨⟩)
      rw [run, Bitops.hammingDistance, same]
      rfl
  | toString str ptr start =>
      have same := @UnaryOp.applyUnary_none _ UnaryOp.toString (memory, str) ⟨rfl, rfl⟩ (by rintro _ ⟨⟩)
      rw [run, Bitops.toString, same]
  | getint str start =>
      have same := @UnaryOp.applyUnary_none _ UnaryOp.getInteger (memory, 0)
        ⟨rfl, by simp [getInteger]⟩ (by rintro _ ⟨⟩)
      rw [run, Bitops.getint, if_neg (by omega), same]
      rfl
  | setint str start value =>
      have same := @applyUnary_none _ setInteger (memory, value <<< (64 - 0))
        ⟨rfl, BitVec.shiftLeft_zero _⟩ (by rintro _ ⟨⟩)
      rw [run, Bitops.setint, if_neg (by omega), same]
      rfl

section Touches

variable {σ : Type} (call : BitCall) (s : Memory × σ)

theorem covers_none {array : Nat × Nat} : Covers array 0 (array.1 + array.2 / 8) ↔ array.2 % 8 ≠ 0 := by
  rw [Covers]
  omega

theorem unary_within (e : UnaryEffects σ) (op : ∀ effect ∈ e.op s.2 0, call.Allows 0 effect) :
    ∀ effect ∈ e.applyUnary call.left.1 call.left.2 0 s, call.Allows 0 effect := by
  rw [UnaryEffects.applyUnary_none]
  split
  · simp
  · rename_i unaligned
    have covered := covers_none.mpr unaligned
    intro effect member
    simp only [mem_append, readEffects, writeEffects] at member
    rcases member with (read | inner) | write
    · split at read
      · obtain rfl := mem_singleton.mp read
        exact covered
      · simp at read
    · exact op effect inner
    · split at write
      · rcases mem_pair.mp write with rfl | rfl <;> exact covered
      · simp at write

theorem unary_touches (e : UnaryEffects σ) (data offset : Nat) :
    (∀ effect ∈ e.applyUnary data offset 0 s, ∃ bits, effect = .shift bits) ↔ offset % 8 = 0 := by
  rw [UnaryEffects.applyUnary_none]
  split
  · rename_i aligned
    simp [aligned]
  · rename_i unaligned
    refine iff_of_false (fun all => ?_) unaligned
    have touched : ∃ effect ∈ readEffects e.functor.mode .left (data + offset / 8) ++
        e.op s.2 0 ++ writeEffects e.functor.mode .left (data + offset / 8),
        ∀ bits, effect ≠ .shift bits := by
      cases mode : e.functor.mode with
      | read => exact ⟨.read .left (data + offset / 8), by simp [readEffects, Mode.reads], nofun⟩
      | write | readwrite =>
          exact ⟨.write .left (data + offset / 8), by simp [writeEffects, Mode.writes], nofun⟩
    obtain ⟨effect, member, other⟩ := touched
    obtain ⟨bits, same⟩ := all effect member
    exact other bits same

theorem binary_within_iff (e : BinaryEffects σ) (reads : e.functor.rightMode = .read)
    {array : Nat × Nat} (right : call.right = some array) :
    (∀ effect ∈ e.applyBinop call.left.1 call.left.2 array.1 array.2 0 s, call.Allows 0 effect) ↔
      call.left.2 % 8 = 0 ∨ array.2 % 8 ≠ 0 := by
  rw [BinaryEffects.applyBinop_none, reads]
  split
  · rename_i aligned
    simp [aligned]
  · rename_i unaligned
    have covered := covers_none.mpr unaligned
    have split : array.2 % 8 ≠ 0 → array.1 + array.2 / 8 +
        BitReader.lastBit (array.2 % 8) 0 / 8 = array.1 + array.2 / 8 := by
      intro inner
      rw [BitReader.lastBit]
      omega
    constructor
    · intro all
      have first := all (.read .right (array.1 + array.2 / 8))
        (by simp [readSplitEffects, Mode.reads])
      obtain ⟨other, same, within⟩ := first
      obtain rfl := Option.some.inj (right.symm.trans same)
      exact .inr (covers_none.mp within)
    · rintro (aligned | inner) effect member
      · exact absurd aligned unaligned
      · have inside : call.Allows 0 (.read .right (array.1 + array.2 / 8)) :=
          ⟨array, right, covers_none.mpr inner⟩
        have rightReads : readSplitEffects .read .right (array.1 + array.2 / 8)
            (array.2 % 8) 0 = [.read .right (array.1 + array.2 / 8), .read .right
              (array.1 + array.2 / 8 + BitReader.lastBit (array.2 % 8) 0 / 8)] := rfl
        have rightWrites : writeEffects .read .right (array.1 + array.2 / 8) = [] := rfl
        rw [rightReads, rightWrites, split inner, append_nil] at member
        simp only [mem_append, mem_pair, or_self, readEffects,
          writeEffects] at member
        rcases member with (read | rfl) | write
        · split at read
          · obtain rfl := mem_singleton.mp read
            exact covered
          · simp at read
        · exact inside
        · split at write
          · rcases mem_pair.mp write with rfl | rfl <;> exact covered
          · simp at write

theorem binary_touches (e : BinaryEffects σ) (reads : e.functor.rightMode = .read)
    (lhs lhsOffset rhs rhsOffset : Nat) :
    (∀ effect ∈ e.applyBinop lhs lhsOffset rhs rhsOffset 0 s, ∃ bits, effect = .shift bits) ↔
      lhsOffset % 8 = 0 := by
  rw [BinaryEffects.applyBinop_none, reads]
  split
  · rename_i aligned
    simp [aligned]
  · rename_i unaligned
    refine iff_of_false (fun all => ?_) unaligned
    obtain ⟨bits, same⟩ := all (.read .right (rhs + rhsOffset / 8))
      (by simp [readSplitEffects, Mode.reads])
    cases same

end Touches

/-- A call with no bits is a no-op just where it is not `setint`, which shifts its value by 64, and
where a right array that is read behind an unaligned left one is unaligned too. It touches no byte at
all just where its left array is aligned. -/
theorem noBits_noop_iff (memory : Memory) (call : BitCall) :
    (call.NoOp memory ↔ call.Sound) ∧
      ((∀ effect ∈ call.effects memory 0, ∃ bits, effect = .shift bits) ↔ call.left.2 % 8 = 0) := by
  have same : call.NoOp memory ↔ ∀ effect ∈ call.effects memory 0, call.Allows 0 effect :=
    and_iff_left (call.run_none memory)
  rw [same]
  cases call with
  | copy dest dstart src sstart =>
      have within := binary_within_iff (copy dest dstart src sstart) (memory, ()) .copy rfl rfl
      refine ⟨within.trans ?_, binary_touches (memory, ()) .copy rfl ..⟩
      simp [Sound, right, left]
  | compare s1 start1 s2 start2 =>
      have within := binary_within_iff (compare s1 start1 s2 start2) (memory, 0) .compare rfl rfl
      refine ⟨within.trans ?_, binary_touches (memory, 0) .compare rfl ..⟩
      simp [Sound, right, left]
  | hammingDistance s1 start1 s2 start2 =>
      have within := binary_within_iff (hammingDistance s1 start1 s2 start2) (memory, 0) .hammingDist
        rfl rfl
      refine ⟨within.trans ?_, binary_touches (memory, 0) .hammingDist rfl ..⟩
      simp [Sound, right, left]
  | fill str start value =>
      have within := unary_within (fill str start value) (memory, ()) (.fill value) nofun
      exact ⟨iff_of_true within nofun, unary_touches (memory, ()) (.fill value) ..⟩
  | pack dest dstart src =>
      have within := unary_within (pack dest dstart src) (memory, src) .pack nofun
      exact ⟨iff_of_true within nofun, unary_touches (memory, src) .pack ..⟩
  | unpack dest src sstart =>
      have within := unary_within (unpack dest src sstart) (memory, dest)
        (.unpackWith fun b => b) nofun
      exact ⟨iff_of_true within nofun, unary_touches (memory, dest) (.unpackWith fun b => b) ..⟩
  | popcount str offset =>
      have within := unary_within (popcount str offset) (memory, 0) .popcount nofun
      exact ⟨iff_of_true within nofun, unary_touches (memory, 0) .popcount ..⟩
  | toString str ptr start =>
      have within := unary_within (toString str ptr start) (memory, str)
        (.unpackWith fun b => 48 + b) nofun
      exact ⟨iff_of_true within nofun, unary_touches (memory, str) (.unpackWith fun b => 48 + b) ..⟩
  | getint str start =>
      have within := unary_within (getint str start) (memory, 0) .getInteger (fun effect member => by
        obtain rfl := mem_singleton.mp member
        exact Nat.zero_lt_succ 63)
      exact ⟨iff_of_true within nofun, unary_touches (memory, 0) .getInteger ..⟩
  | setint str start value =>
      refine ⟨iff_of_false (fun all => ?_) id, ?_⟩
      · exact absurd (all (.shift 64) (mem_cons_self ..)) (Nat.lt_irrefl 64)
      · have touches := unary_touches (memory, value <<< (64 - 0)) .setInteger str start
        rw [left, ← touches]
        exact ⟨fun all effect member => all effect (mem_cons_of_mem _ member),
          fun all => forall_mem_cons.mpr ⟨⟨64, rfl⟩, all⟩⟩

/-- No bits from bit 3 of one buffer compared with no bits from bit 0 of another: the byte read there
is 2^61 - 1 bytes away. And an integer of no bits. -/
theorem noBits_astray :
    .read .right (16 + (2 ^ 61 - 1)) ∈ (compare 0 3 16 0).effects (fun _ => 0) 0 ∧
      ¬(compare 0 3 16 0).NoOp (fun _ => 0) ∧ ¬(setint 0 0 5).NoOp (fun _ => 0) := by
  refine ⟨by decide +kernel, fun noOp => ?_, fun noOp => ?_⟩
  · obtain ⟨array, same, covered⟩ := noOp.1 (.read .right 16) (by decide +kernel)
    obtain rfl := Option.some.inj same
    exact absurd covered (by simp [Covers])
  · exact absurd (noOp.1 (.shift 64) (by decide +kernel)) (Nat.lt_irrefl 64)

end BitCall

end Redhawk.Bitops
