import Redhawk.Bitops.BitSetters
import Redhawk.Library.BitSequence

/-!
The functions that read ranges of bits, against the sequences of bits they read, and the round trips
with the functions that write them.
-/

namespace Redhawk.Bitops

open Redhawk.Library BitVec

def bitsAt (memory : Memory) (str offset : Nat) (i : Nat) : Bool :=
  bit memory (8 * str + offset + i)

def hammingWeights : List Nat :=
  [ 0, 1, 1, 2, 1, 2, 2, 3, 1, 2, 2, 3, 2, 3, 3, 4, 1, 2, 2, 3, 2, 3, 3, 4, 2, 3, 3, 4, 3, 4, 4, 5,
    1, 2, 2, 3, 2, 3, 3, 4, 2, 3, 3, 4, 3, 4, 4, 5,
    2, 3, 3, 4, 3, 4, 4, 5, 3, 4, 4, 5, 4, 5, 5, 6,
    1, 2, 2, 3, 2, 3, 3, 4, 2, 3, 3, 4, 3, 4, 4, 5,
    2, 3, 3, 4, 3, 4, 4, 5, 3, 4, 4, 5, 4, 5, 5, 6,
    2, 3, 3, 4, 3, 4, 4, 5, 3, 4, 4, 5, 4, 5, 5, 6,
    3, 4, 4, 5, 4, 5, 5, 6, 4, 5, 5, 6, 5, 6, 6, 7,
    1, 2, 2, 3, 2, 3, 3, 4, 2, 3, 3, 4, 3, 4, 4, 5,
    2, 3, 3, 4, 3, 4, 4, 5, 3, 4, 4, 5, 4, 5, 5, 6,
    2, 3, 3, 4, 3, 4, 4, 5, 3, 4, 4, 5, 4, 5, 5, 6,
    3, 4, 4, 5, 4, 5, 5, 6, 4, 5, 5, 6, 5, 6, 6, 7,
    2, 3, 3, 4, 3, 4, 4, 5, 3, 4, 4, 5, 4, 5, 5, 6,
    3, 4, 4, 5, 4, 5, 5, 6, 4, 5, 5, 6, 5, 6, 6, 7,
    3, 4, 4, 5, 4, 5, 5, 6, 4, 5, 5, 6, 5, 6, 6, 7,
    4, 5, 5, 6, 5, 6, 6, 7, 5, 6, 6, 7, 6, 7, 7, 8 ]

def getbit (memory : Memory) (str pos : Nat) : Bool :=
  let adjusted := adjustBuffer str pos
  ((memory adjusted.1 >>> (7 - adjusted.2)) &&& 1) ≠ 0

def memcmp (memory : Memory) : Nat → Nat → Nat → Int
  | _, _, 0 => 0
  | lhs, rhs, bytes + 1 =>
    if memory lhs = memory rhs then memcmp memory (lhs + 1) (rhs + 1) bytes
    else (memory lhs).toNat - (memory rhs).toNat

namespace UnaryOp

def getInteger : UnaryOp (BitVec 64) where
  mode := .read
  op memory result value bits := (memory, (result <<< bits) ||| value.setWidth 64, value)
  arrayOp := none
  complete _ := false

/-- The loop over the bits of `value` from `pos - 1` down to 0, each stored as `encode` gives it. -/
def unpackLoop (encode : Byte → Byte) (value : Byte) : Nat → Memory → Nat → Memory × Nat
  | 0, memory, dest => (memory, dest)
  | pos + 1, memory, dest =>
    unpackLoop encode value pos (Function.update memory dest (encode ((value >>> pos) &&& 1)))
      (dest + 1)

def unpackWith (encode : Byte → Byte) : UnaryOp Nat where
  mode := .read
  op memory dest value bits :=
    let unpacked := unpackLoop encode value bits memory dest
    (unpacked.1, unpacked.2, value)
  arrayOp := none
  complete _ := false

def unpack : UnaryOp Nat := unpackWith fun b => b

def toString : UnaryOp Nat := unpackWith fun b => 48 + b

def popcount : UnaryOp (BitVec 32) where
  mode := .read
  op memory result value _ :=
    (memory, result + BitVec.ofNat 32 (hammingWeights.getD value.toNat 0), value)
  arrayOp := none
  complete _ := false

end UnaryOp

namespace BinaryOp

def compare : BinaryOp Int where
  leftMode := .read
  rightMode := .read
  op memory _ lhs rhs _ :=
    (memory, if lhs = rhs then 0 else if lhs.toNat > rhs.toNat then 1 else -1, lhs, rhs)
  arrayOp := some fun memory _ lhs rhs bytes => (memory, memcmp memory lhs rhs bytes)
  complete result := result ≠ 0

def hammingDist : BinaryOp (BitVec 32) where
  leftMode := .read
  rightMode := .read
  op memory result lhs rhs _ :=
    (memory, result + BitVec.ofNat 32 (hammingWeights.getD (lhs ^^^ rhs).toNat 0), lhs, rhs)
  arrayOp := none
  complete _ := false

def hammingCompare (maxDistance : BitVec 32) : BinaryOp (BitVec 32) :=
  { hammingDist with complete := fun result => maxDistance.slt result }

end BinaryOp

def getint (memory : Memory) (str start bits : Nat) : Except String (BitVec 64) :=
  if bits > 64 then .error "redhawk::bitops::getint()"
  else .ok (UnaryOp.getInteger.applyUnary str start bits (memory, 0)).2

def unpack (memory : Memory) (dest src sstart length : Nat) : Memory :=
  (UnaryOp.unpack.applyUnary src sstart length (memory, dest)).1

def toString (memory : Memory) (str ptr start length : Nat) : Memory :=
  (UnaryOp.toString.applyUnary ptr start length (memory, str)).1

def popcount (memory : Memory) (str offset count : Nat) : Int :=
  (UnaryOp.popcount.applyUnary str offset count (memory, 0)).2.toInt

def compare (memory : Memory) (s1 start1 s2 start2 length : Nat) : Int :=
  (BinaryOp.compare.applyBinop s1 start1 s2 start2 length (memory, 0)).2

def hammingDistance (memory : Memory) (s1 start1 s2 start2 length : Nat) : Int :=
  (BinaryOp.hammingDist.applyBinop s1 start1 s2 start2 length (memory, 0)).2.toInt

def limitedDistance (memory : Memory) (s1 start1 s2 start2 length : Nat) (maxdist : BitVec 32) : Int :=
  ((BinaryOp.hammingCompare maxdist).applyBinop s1 start1 s2 start2 length (memory, 0)).2.toInt

namespace UnaryOp

variable {σ : Type} {f : UnaryOp σ} {count : Nat}

theorem getter_holds {data offset : Nat} (nonempty : 1 ≤ count) (invariant : Nat → Memory × σ → Prop)
    {s : Memory × σ} (init : invariant 0 s) (mode : f.mode = .read) (single : f.arrayOp = none)
    (never : ∀ x, f.complete x = false)
    (op : ∀ k n s, 1 ≤ n → n ≤ 8 → k + n ≤ count → invariant k s →
      ∀ value, (∀ j, value.getLsbD j = (decide (j < n) && bitsAt s.1 data offset (k + (n - 1 - j)))) →
      invariant (k + n) ((f.op s.1 s.2 value n).1, (f.op s.1 s.2 value n).2.1)) :
    invariant count (f.applyUnary data offset count s) := by
  have carries : f.Carries (8 * data + offset) count invariant := {
    chunk := by
      intro k n value s positive small within holds read
      have step := op k n s positive small within holds value (by
        intro j
        rw [read (by rw [mode]; rfl), getLsbD_readBits _ _ small, bitsAt, Nat.add_assoc])
      simpa only [UnaryOp.chunk, UnaryOp.apply, BitHandler.put, mode, Mode.writes, Bool.false_eq_true,
        if_false] using step
    array := by
      intro arrayOp given
      rw [single] at given
      cases given
    stop := by
      intro k s _ _ done
      simp [never] at done }
  exact applyUnary_carries carries nonempty init

end UnaryOp

theorem hammingWeights_eq {value : Byte} {n : Nat} {b : Nat → Bool} (small : n ≤ 8)
    (shows : ∀ j, value.getLsbD j = (decide (j < n) && b (n - 1 - j))) :
    hammingWeights.getD value.toNat 0 = Nat.count (fun i => b i) n := by
  have table : hammingWeights = (List.range 256).map fun k => k % 2 + k / 2 % 2 + k / 4 % 2 +
      k / 8 % 2 + k / 16 % 2 + k / 32 % 2 + k / 64 % 2 + k / 128 % 2 := by
    decide +kernel
  have digit : ∀ k, (if k % 2 = 1 then 1 else 0) = k % 2 := by
    intro k
    split <;> omega
  have weight : hammingWeights.getD value.toNat 0 = Nat.count (fun j => value.getLsbD j) 8 := by
    have inside : (List.range 256)[value.toNat]? = some value.toNat := List.getElem?_range value.isLt
    simp [table, inside, Nat.count_succ, BitVec.getLsbD, Nat.testBit_eq_decide_div_mod_eq, digit]
  rw [weight, ← count_window b small]
  apply count_congr
  intro j _
  rw [shows]

theorem getint_eq (memory : Memory) (str start : Nat) {bits : Nat} (nonempty : 1 ≤ bits) (wide : bits ≤ 64) :
    ∃ value, getint memory str start bits = .ok value ∧ value.toNat = valueOf (bitsAt memory str start) bits := by
  have narrow : ¬ bits > 64 := by omega
  refine ⟨_, by rw [getint, if_neg narrow], ?_⟩
  have result := @UnaryOp.getter_holds _ UnaryOp.getInteger bits str start nonempty
    (fun k s => s.1 = memory ∧ ∀ j < 64, s.2.getLsbD j =
      (decide (j < k) && bitsAt memory str start (k - 1 - j))) (memory, 0) (by simp) rfl rfl
    (fun _ => rfl) (by
      intro k n s _ small within holds value shows
      obtain ⟨rfl, digits⟩ := holds
      refine ⟨rfl, ?_⟩
      intro j inside
      simp only [UnaryOp.getInteger, getLsbD_or, getLsbD_shiftLeft,
        getLsbD_setWidth, shows, inside, decide_true, Bool.true_and]
      by_cases new : j < n
      · have index : k + (n - 1 - j) = k + n - 1 - j := by omega
        have low : j < k + n := by omega
        simp [new, low, index]
      · have index : k - 1 - (j - n) = k + n - 1 - j := by omega
        have low : j - n < k ↔ j < k + n := by omega
        simp only [digits (j - n) (by omega), new, index, low, decide_false, Bool.not_false,
          Bool.true_and, Bool.false_and, Bool.or_false])
  apply Nat.eq_of_testBit_eq
  intro j
  rw [testBit_toNat, testBit_valueOf]
  by_cases inside : j < 64
  · exact result.2 j inside
  · have high : ¬ j < bits := by omega
    rw [getLsbD_of_ge _ _ (by omega)]
    simp [high]

theorem popcount_eq (memory : Memory) (str offset : Nat) {count : Nat} (nonempty : 1 ≤ count) :
    popcount memory str offset count =
      (BitVec.ofNat 32 (Nat.count (fun i => bitsAt memory str offset i) count)).toInt := by
  have result := @UnaryOp.getter_holds _ UnaryOp.popcount count str offset nonempty
    (fun k s => s.1 = memory ∧
      s.2 = BitVec.ofNat 32 (Nat.count (fun i => bitsAt memory str offset i) k)) (memory, 0)
    (by simp) rfl rfl (fun _ => rfl) (by
      intro k n s _ small _ holds value shows
      obtain ⟨rfl, total⟩ := holds
      refine ⟨rfl, ?_⟩
      have weight := @hammingWeights_eq value n (fun i => bitsAt s.1 str offset (k + i)) small shows
      simp only [UnaryOp.popcount, total, weight, Nat.count_add, BitVec.ofNat_add])
  rw [popcount, result.2]

theorem BinaryOp.chunk_eq {σ : Type} {f : BinaryOp σ} (leftMode : f.leftMode = .read)
    (rightMode : f.rightMode = .read) (left right n : Nat) (lhs rhs : Byte) (s : Memory × σ) :
    f.chunk left right n lhs rhs s = ((f.op s.1 s.2 lhs rhs n).1, (f.op s.1 s.2 lhs rhs n).2.1) := by
  simp [BinaryOp.chunk, BinaryOp.apply, BitHandler.put, leftMode, rightMode, Mode.writes]

def differAt (memory : Memory) (s1 start1 s2 start2 : Nat) (i : Nat) : Bool :=
  bitsAt memory s1 start1 i ^^ bitsAt memory s2 start2 i

variable {memory : Memory}

theorem hammingDist_step {s1 start1 s2 start2 k n : Nat} (small : n ≤ 8)
    {lhs rhs : Byte} (left : lhs = readBits memory (8 * s1 + start1 + k) n)
    (right : rhs = readBits memory (8 * s2 + start2 + k) n) :
    hammingWeights.getD (lhs ^^^ rhs).toNat 0 =
      Nat.count (fun i => differAt memory s1 start1 s2 start2 (k + i)) n := by
  apply hammingWeights_eq small
  intro j
  rw [getLsbD_xor, left, right, getLsbD_readBits _ _ small, getLsbD_readBits _ _ small,
    differAt, bitsAt, bitsAt, Nat.add_assoc, Nat.add_assoc _ k]
  cases decide (j < n) <;> simp

variable {length : Nat}

theorem hammingDistance_eq (memory : Memory) (s1 start1 s2 start2 : Nat) (nonempty : 1 ≤ length) :
    hammingDistance memory s1 start1 s2 start2 length =
      (BitVec.ofNat 32 (Nat.count (fun i => differAt memory s1 start1 s2 start2 i) length)).toInt := by
  have carries : BinaryOp.hammingDist.Carries (8 * s1 + start1) (8 * s2 + start2) length fun k s =>
      s.1 = memory ∧
        s.2 = BitVec.ofNat 32 (Nat.count (fun i => differAt memory s1 start1 s2 start2 i) k) := {
    chunk := by
      intro k n lhs rhs s _ small _ holds _ left right
      obtain ⟨rfl, total⟩ := holds
      have weight := hammingDist_step small (left rfl) (right rfl)
      rw [BinaryOp.chunk_eq rfl rfl]
      refine ⟨rfl, ?_⟩
      simp only [BinaryOp.hammingDist, total, weight, Nat.count_add, BitVec.ofNat_add]
    array := by
      rintro _ ⟨⟩
    stop := by
      intro k s _ _ done
      cases done }
  have result := BinaryOp.applyBinop_carries carries nonempty (s := (memory, 0)) (by simp)
  rw [hammingDistance, result.2]

theorem toInt_ofNat_small {n : Nat} (small : n < 2 ^ 31) : (BitVec.ofNat 32 n).toInt = n := by
  rw [BitVec.toInt_eq_toNat_of_lt, BitVec.toNat_ofNat, Nat.mod_eq_of_lt (by omega)]
  rw [BitVec.toNat_ofNat, Nat.mod_eq_of_lt (by omega)]
  omega

theorem limitedDistance_iff (memory : Memory) (s1 start1 s2 start2 : Nat)
    (nonempty : 1 ≤ length) (maxdist : BitVec 32)
    (fits : maxdist.toInt + 8 < 2 ^ 31 ∨
      Nat.count (fun i => differAt memory s1 start1 s2 start2 i) length < 2 ^ 31) :
    limitedDistance memory s1 start1 s2 start2 length maxdist ≤ maxdist.toInt ↔
      (Nat.count (fun i => differAt memory s1 start1 s2 start2 i) length : Int) ≤ maxdist.toInt := by
  have more : ∀ k ≤ length, Nat.count (fun i => differAt memory s1 start1 s2 start2 i) k ≤
      Nat.count (fun i => differAt memory s1 start1 s2 start2 i) length :=
    fun k within => Nat.count_monotone _ within
  have carries : (BinaryOp.hammingCompare maxdist).Carries (8 * s1 + start1) (8 * s2 + start2) length
      fun k s => s.1 = memory ∧
        ((s.2 = BitVec.ofNat 32 (Nat.count (fun i => differAt memory s1 start1 s2 start2 i) k) ∧
            Nat.count (fun i => differAt memory s1 start1 s2 start2 i) k < 2 ^ 31) ∨
          (0 < k ∧ maxdist.toInt < s.2.toInt ∧
            maxdist.toInt < Nat.count (fun i => differAt memory s1 start1 s2 start2 i) length)) := {
    chunk := by
      intro k n lhs rhs s positive small within holds going left right
      obtain ⟨rfl, exact | exceeded⟩ := holds
      · obtain ⟨total, range⟩ := exact
        have weight := hammingDist_step small (left rfl) (right rfl)
        have sum := Nat.count_add (fun i => (differAt s.1 s1 start1 s2 start2 i : Prop)) k n
        have step : Nat.count (fun i => differAt s.1 s1 start1 s2 start2 (k + i)) n ≤ n :=
          Nat.count_le _
        have next : Nat.count (fun i => differAt s.1 s1 start1 s2 start2 i) (k + n) < 2 ^ 31 := by
          have bound := more (k + n) within
          rcases fits with limit | whole
          · rcases Nat.eq_zero_or_pos k with first | later
            · subst first
              rw [Nat.count_zero] at sum
              omega
            · have below := going later
              simp only [BinaryOp.hammingCompare, BitVec.slt, total, toInt_ofNat_small range,
                decide_eq_false_iff_not] at below
              omega
          · omega
        rw [BinaryOp.chunk_eq rfl rfl]
        refine ⟨rfl, .inl ⟨?_, next⟩⟩
        simp only [BinaryOp.hammingCompare, BinaryOp.hammingDist, total, weight, Nat.count_add, BitVec.ofNat_add]
      · have stopped := going exceeded.1
        simp only [BinaryOp.hammingCompare, BitVec.slt, decide_eq_false_iff_not] at stopped
        exact absurd exceeded.2.1 stopped
    array := by
      rintro _ ⟨⟩
    stop := by
      intro k s within holds done
      obtain ⟨same, exact | exceeded⟩ := holds
      · obtain ⟨total, range⟩ := exact
        have bound := more k within
        simp only [BinaryOp.hammingCompare, BitVec.slt, decide_eq_true_eq] at done
        have past := done
        rw [total, toInt_ofNat_small range] at past
        exact ⟨same, .inr ⟨nonempty, done, by omega⟩⟩
      · exact ⟨same, .inr ⟨nonempty, exceeded.2⟩⟩ }
  have result := BinaryOp.applyBinop_carries carries nonempty (s := (memory, 0)) (by simp)
  rw [limitedDistance]
  obtain ⟨_, exact | exceeded⟩ := result
  · rw [exact.1, toInt_ofNat_small exact.2]
  · exact iff_of_false (by omega) (by omega)

theorem compares_bytes {lhs rhs : Byte} {a b : Nat → Bool} {n : Nat} {r : Int}
    (left : ∀ j, lhs.getLsbD j = (decide (j < n) && a (n - 1 - j)))
    (right : ∀ j, rhs.getLsbD j = (decide (j < n) && b (n - 1 - j)))
    (equal : lhs.toNat = rhs.toNat → r = 0) (greater : rhs.toNat < lhs.toNat → 0 < r)
    (lower : lhs.toNat < rhs.toNat → r < 0) : Compares a b n r := by
  have leftValue : lhs.toNat = valueOf a n := by
    apply Nat.eq_of_testBit_eq
    intro j
    rw [testBit_toNat, left, testBit_valueOf]
  have rightValue : rhs.toNat = valueOf b n := by
    apply Nat.eq_of_testBit_eq
    intro j
    rw [testBit_toNat, right, testBit_valueOf]
  rw [leftValue, rightValue] at equal greater lower
  rcases lex_cases a b n with same | less | more
  · exact .inl ⟨equal (valueOf_congr same), same⟩
  · exact .inr (.inr ⟨lower (valueOf_less less), less⟩)
  · exact .inr (.inl ⟨greater (valueOf_less more), more⟩)

theorem getLsbD_byte_bitsAt (memory : Memory) (a j : Nat) :
    (memory a).getLsbD j = (decide (j < 8) && bitsAt memory a 0 (8 - 1 - j)) := by
  rw [byte_eq_readBits memory a, getLsbD_readBits _ _ (Nat.le_refl 8), bitsAt, Nat.add_zero]

theorem bitsAt_shift (memory : Memory) {str offset other place k : Nat}
    (same : 8 * other + place = 8 * str + offset + k) :
    (fun i => bitsAt memory str offset (k + i)) = bitsAt memory other place := by
  funext i
  have shifted : 8 * other + place + i = 8 * str + offset + (k + i) := by omega
  rw [bitsAt, bitsAt, shifted]

theorem memcmp_compares (memory : Memory) : ∀ bytes lhs rhs,
    Compares (bitsAt memory lhs 0) (bitsAt memory rhs 0) (8 * bytes)
      (memcmp memory lhs rhs bytes) := by
  intro bytes
  induction bytes with
  | zero => intro lhs rhs; exact Compares.zero _ _
  | succ bytes ih =>
    intro lhs rhs
    have length : 8 * (bytes + 1) = 8 + 8 * bytes := by omega
    rw [memcmp, length]
    split_ifs with equal
    · apply Compares.append
      · intro i inside
        have left := getLsbD_byte_bitsAt memory lhs (7 - i)
        have right := getLsbD_byte_bitsAt memory rhs (7 - i)
        have place : 8 - 1 - (7 - i) = i := by omega
        have low : 7 - i < 8 := by omega
        rw [equal] at left
        simpa only [place, low, decide_true, Bool.true_and] using left.symm.trans right
      · rw [@bitsAt_shift memory _ _ (lhs + 1) 0 _ (by omega), @bitsAt_shift memory _ _ (rhs + 1) 0 _ (by omega)]
        exact ih (lhs + 1) (rhs + 1)
    · have differ : (memory lhs).toNat ≠ (memory rhs).toNat :=
        fun same => equal (eq_of_toNat_eq same)
      have first : Compares (bitsAt memory lhs 0) (bitsAt memory rhs 0) 8
          ((memory lhs).toNat - (memory rhs).toNat) :=
        compares_bytes (getLsbD_byte_bitsAt memory lhs) (getLsbD_byte_bitsAt memory rhs)
          (by omega) (by omega) (by omega)
      exact first.mono (by omega) (by omega)

theorem compare_compares (memory : Memory) (s1 start1 s2 start2 : Nat) (nonempty : 1 ≤ length) :
    Compares (bitsAt memory s1 start1) (bitsAt memory s2 start2) length
      (compare memory s1 start1 s2 start2 length) := by
  have carries : BinaryOp.compare.Carries (8 * s1 + start1) (8 * s2 + start2) length fun k s =>
      s.1 = memory ∧ Compares (bitsAt memory s1 start1) (bitsAt memory s2 start2) k s.2 ∧
        (k = 0 → s.2 = 0) := {
    chunk := by
      intro k n lhs rhs s positive small within holds going left right
      obtain ⟨rfl, compares, first⟩ := holds
      have zero : s.2 = 0 := by
        rcases Nat.eq_zero_or_pos k with start | later
        · exact first start
        · simpa [BinaryOp.compare] using going later
      rw [zero] at compares
      rw [BinaryOp.chunk_eq rfl rfl]
      refine ⟨rfl, Compares.append compares.same ?_, by omega⟩
      apply @compares_bytes lhs rhs
      · intro j
        rw [left rfl, getLsbD_readBits _ _ small, bitsAt, Nat.add_assoc]
      · intro j
        rw [right rfl, getLsbD_readBits _ _ small, bitsAt, Nat.add_assoc]
      · intro equal
        simp [BinaryOp.compare, eq_of_toNat_eq equal]
      · intro greater
        have differ : lhs ≠ rhs := by rintro rfl; omega
        simp [BinaryOp.compare, differ, greater]
      · intro lower
        have differ : lhs ≠ rhs := by rintro rfl; omega
        have reverse : ¬ rhs.toNat < lhs.toNat := by omega
        simp [BinaryOp.compare, differ, reverse]
    array := by
      rintro _ ⟨⟩ k bytes lhs rhs s position within holds going
      obtain ⟨rfl, compares, first⟩ := holds
      have zero : s.2 = 0 := by
        rcases Nat.eq_zero_or_pos k with start | later
        · exact first start
        · simpa [BinaryOp.compare] using going later
      rw [zero] at compares
      rcases Nat.eq_zero_or_pos bytes with none | some
      · subst none
        exact ⟨rfl, compares, fun _ => rfl⟩
      · refine ⟨rfl, Compares.append compares.same ?_, by omega⟩
        rw [@bitsAt_shift s.1 _ _ lhs 0 _ (by omega), @bitsAt_shift s.1 _ _ rhs 0 _ (by omega)]
        exact memcmp_compares s.1 bytes lhs rhs
    stop := by
      intro k s within holds done
      obtain ⟨same, compares, _⟩ := holds
      have found : s.2 ≠ 0 := by simpa [BinaryOp.compare] using done
      exact ⟨same, compares.mono found within, by omega⟩ }
  have result := BinaryOp.applyBinop_carries carries nonempty (s := (memory, 0))
    ⟨rfl, Compares.zero _ _, fun _ => rfl⟩
  exact result.2.1

def Stored (before after : Memory) (dest count : Nat) (values : Nat → Byte) : Prop :=
  ∀ a, after a = if dest ≤ a ∧ a < dest + count then values (a - dest) else before a

theorem shift_and_one (value : Byte) (pos : Nat) :
    (value >>> pos) &&& 1 = if value.getLsbD pos then 1 else 0 := by
  apply byte_ext
  intro j _
  rw [getLsbD_and, getLsbD_ushiftRight, ofNat_eq_ofNat, getLsbD_one]
  by_cases first : j = 0
  · subst first
    cases value.getLsbD pos <;> simp
  · split <;> simp [first, getLsbD_one]

theorem UnaryOp.unpackLoop_stored (encode : Byte → Byte) (value : Byte) : ∀ n memory dest, n ≤ 8 →
    (unpackLoop encode value n memory dest).2 = dest + n ∧
    Stored memory (unpackLoop encode value n memory dest).1 dest n
      fun i => encode (if value.getLsbD (n - 1 - i) then 1 else 0) := by
  intro n
  induction n with
  | zero =>
    intro memory dest _
    refine ⟨rfl, ?_⟩
    intro a
    rw [if_neg (by omega)]
    rfl
  | succ n ih =>
    intro memory dest small
    obtain ⟨next, stored⟩ := ih (Function.update memory dest (encode ((value >>> n) &&& 1))) (dest + 1)
      (by omega)
    refine ⟨by rw [unpackLoop, next]; omega, ?_⟩
    intro a
    rw [unpackLoop, stored]
    by_cases later : dest + 1 ≤ a ∧ a < dest + 1 + n
    · have index : n - 1 - (a - (dest + 1)) = n + 1 - 1 - (a - dest) := by omega
      rw [if_pos later, if_pos (by omega)]
      simp only [index]
    · rw [if_neg later]
      by_cases here : a = dest
      · subst here
        have last : n + 1 - 1 - (a - a) = n := by omega
        rw [if_pos (by omega), Function.update_self, shift_and_one]
        simp only [last]
      · rw [if_neg (by omega), Function.update_of_ne here]

theorem unpackWith_stored (encode : Byte → Byte) (memory : Memory) (dest src sstart : Nat)
    (nonempty : 1 ≤ length) (apart : Apart (8 * dest) (8 * length) (8 * src + sstart) length) :
    Stored memory ((UnaryOp.unpackWith encode).applyUnary src sstart length (memory, dest)).1 dest
      length fun i => encode (if bitsAt memory src sstart i then 1 else 0) := by
  have result := @UnaryOp.getter_holds _ (UnaryOp.unpackWith encode) length src sstart nonempty
    (fun k s => s.2 = dest + k ∧
      Stored memory s.1 dest k fun i => encode (if bitsAt memory src sstart i then 1 else 0))
    (memory, dest) ⟨rfl, by intro a; rw [if_neg (by omega)]⟩ rfl rfl (fun _ => rfl) (by
      intro k n s _ small within holds value shows
      obtain ⟨place, stored⟩ := holds
      obtain ⟨next, more⟩ := UnaryOp.unpackLoop_stored encode value n s.1 s.2 small
      refine ⟨by simp only [UnaryOp.unpackWith, next]; omega, ?_⟩
      intro a
      have source : ∀ i < length, bitsAt s.1 src sstart i = bitsAt memory src sstart i := by
        intro i inside
        rw [bitsAt, bit, stored, if_neg (by unfold Apart at apart; omega)]
        rfl
      simp only [UnaryOp.unpackWith]
      rw [more, place]
      by_cases new : dest + k ≤ a ∧ a < dest + k + n
      · have index : k + (n - 1 - (n - 1 - (a - (dest + k)))) = a - dest := by omega
        have low : n - 1 - (a - (dest + k)) < n := by omega
        rw [if_pos new, if_pos (by omega)]
        simp [shows, low, index, source _ (show a - dest < length by omega)]
      · rw [if_neg new, stored]
        by_cases old : dest ≤ a ∧ a < dest + k
        · rw [if_pos old, if_pos (by omega)]
        · rw [if_neg old, if_neg (by omega)])
  exact result.2

theorem valueOf_low (value : BitVec 64) (bits : Nat) :
    valueOf (fun i => value.getLsbD (bits - 1 - i)) bits = value.toNat % 2 ^ bits := by
  apply Nat.eq_of_testBit_eq
  intro j
  rw [testBit_valueOf, Nat.testBit_mod_two_pow, testBit_toNat]
  by_cases inside : j < bits
  · have place : bits - 1 - (bits - 1 - j) = j := by omega
    simp only [place]
  · simp [inside]

variable {other : Memory} {str : Nat}

theorem getint_setint {after : Memory} {start str' start' bits : Nat}
    {value : BitVec 64} (nonempty : 1 ≤ bits) (wide : bits ≤ 64)
    (set : setint memory str start value bits = .ok after)
    (same : ∀ i < bits, bitsAt other str' start' i = bitsAt after str start i) :
    ∃ result, getint other str' start' bits = .ok result ∧ result.toNat = value.toNat % 2 ^ bits := by
  obtain ⟨written, given, shows⟩ := setint_written memory str start value nonempty wide
  rw [set] at given
  obtain rfl := Except.ok.inj given
  obtain ⟨result, read, number⟩ := getint_eq other str' start' nonempty wide
  refine ⟨result, read, ?_⟩
  rw [number, ← valueOf_low]
  apply valueOf_congr
  intro i inside
  rw [same i inside]
  exact shows.inside inside

theorem unpack_stored (memory : Memory) (dest src sstart : Nat)
    (nonempty : 1 ≤ length) (apart : Apart (8 * dest) (8 * length) (8 * src + sstart) length) :
    Stored memory (unpack memory dest src sstart length) dest length
      fun i => if bitsAt memory src sstart i then 1 else 0 :=
  unpackWith_stored (fun b => b) memory dest src sstart nonempty apart

theorem toString_stored (memory : Memory) (str ptr start : Nat)
    (nonempty : 1 ≤ length) (apart : Apart (8 * str) (8 * length) (8 * ptr + start) length) :
    Stored memory (toString memory str ptr start length) str length
      fun i => if bitsAt memory ptr start i then 49 else 48 := by
  have stored := unpackWith_stored (fun b => 48 + b) memory str ptr start nonempty apart
  intro a
  rw [toString, UnaryOp.toString, stored]
  split
  · simp only
    split <;> rfl
  · rfl

theorem unpack_pack {dest dstart src out start : Nat}
    (nonempty : 1 ≤ length) (apart : Apart (8 * dest + dstart) length (8 * src) (8 * length))
    (same : ∀ i < length, bitsAt other str start i = bitsAt (pack memory dest dstart src length) dest dstart i)
    (room : Apart (8 * out) (8 * length) (8 * str + start) length) {i : Nat} (inside : i < length) :
    unpack other out str start length (out + i) = if memory (src + i) = 0 then 0 else 1 := by
  have written := pack_written memory dest dstart src nonempty apart
  have packed : bitsAt other str start i = decide (memory (src + i) ≠ 0) := by
    rw [same i inside]
    exact written.inside inside
  rw [unpack_stored other out str start nonempty room, if_pos (by omega), Nat.add_sub_cancel_left]
  by_cases zero : memory (src + i) = 0 <;> simp [packed, zero]

theorem parseString_toString {dest dstart src sstart str' : Nat} (nonempty : 1 ≤ length)
    (room : Apart (8 * str) (8 * length) (8 * src + sstart) length)
    (same : ∀ i < length, other (str' + i) = toString memory str src sstart length (str + i))
    (apart : Apart (8 * dest + dstart) length (8 * str') (8 * length)) :
    (parseString other dest dstart str' length).2 = (BitVec.ofNat 32 length).toInt ∧
      ∀ i < length, bitsAt (parseString other dest dstart str' length).1 dest dstart i =
        bitsAt memory src sstart i := by
  have text : ∀ i < length, other (str' + i) = if bitsAt memory src sstart i then 49 else 48 := by
    intro i inside
    rw [same i inside, toString_stored memory str src sstart nonempty room, if_pos (by omega),
      Nat.add_sub_cancel_left]
  have all : validCount other str' length = length := by
    apply validCount_eq (Nat.le_refl length)
    · intro i inside
      rw [text i inside]
      split <;> rfl
    · intro short
      omega
  obtain ⟨written, number⟩ := parseString_written other dest dstart str' nonempty apart
  rw [all] at written number
  refine ⟨number, ?_⟩
  intro i inside
  rw [bitsAt, written.inside inside, text i inside]
  cases bitsAt memory src sstart i <;> rfl

/-- Every read of a range of bits agrees with the sequence of the bits, at any offsets, and undoes
the write that belongs to it. Sums are exact while they fit an `int`. -/
theorem bitReads_agree (memory : Memory) :
    (∀ s1 start1 s2 start2 length, 1 ≤ length →
      (0 < compare memory s1 start1 s2 start2 length ↔
        LexLess (bitsAt memory s2 start2) (bitsAt memory s1 start1) length) ∧
      (compare memory s1 start1 s2 start2 length < 0 ↔
        LexLess (bitsAt memory s1 start1) (bitsAt memory s2 start2) length) ∧
      (compare memory s1 start1 s2 start2 length = 0 ↔
        ∀ i < length, bitsAt memory s1 start1 i = bitsAt memory s2 start2 i)) ∧
    (∀ str offset count, 1 ≤ count → Nat.count (fun i => bitsAt memory str offset i) count < 2 ^ 31 →
      popcount memory str offset count = Nat.count (fun i => bitsAt memory str offset i) count) ∧
    (∀ s1 start1 s2 start2 length, 1 ≤ length →
      (Nat.count (fun i => differAt memory s1 start1 s2 start2 i) length < 2 ^ 31 →
        hammingDistance memory s1 start1 s2 start2 length =
          Nat.count (fun i => differAt memory s1 start1 s2 start2 i) length) ∧
      ∀ maxdist : BitVec 32,
        (maxdist.toInt + 8 < 2 ^ 31 ∨
          Nat.count (fun i => differAt memory s1 start1 s2 start2 i) length < 2 ^ 31) →
        (limitedDistance memory s1 start1 s2 start2 length maxdist ≤ maxdist.toInt ↔
          (Nat.count (fun i => differAt memory s1 start1 s2 start2 i) length : Int) ≤ maxdist.toInt)) ∧
    (∀ dest src sstart length, 1 ≤ length → Apart (8 * dest) (8 * length) (8 * src + sstart) length →
      Stored memory (unpack memory dest src sstart length) dest length
        (fun i => if bitsAt memory src sstart i then 1 else 0) ∧
      Stored memory (toString memory dest src sstart length) dest length
        fun i => if bitsAt memory src sstart i then 49 else 48) ∧
    (∀ str start bits, 1 ≤ bits → bits ≤ 64 →
      ∃ value, getint memory str start bits = .ok value ∧ value.toNat = valueOf (bitsAt memory str start) bits) ∧
    (∀ after other str start str' start' value bits, 1 ≤ bits → bits ≤ 64 →
      setint memory str start value bits = .ok after →
      (∀ i < bits, bitsAt other str' start' i = bitsAt after str start i) →
      ∃ result, getint other str' start' bits = .ok result ∧ result.toNat = value.toNat % 2 ^ bits) ∧
    (∀ other dest dstart src out str start length, 1 ≤ length →
      Apart (8 * dest + dstart) length (8 * src) (8 * length) →
      (∀ i < length, bitsAt other str start i = bitsAt (pack memory dest dstart src length) dest dstart i) →
      Apart (8 * out) (8 * length) (8 * str + start) length →
      ∀ i < length,
        unpack other out str start length (out + i) = if memory (src + i) = 0 then 0 else 1) ∧
    (∀ other dest dstart str src sstart str' length, 1 ≤ length →
      Apart (8 * str) (8 * length) (8 * src + sstart) length →
      (∀ i < length, other (str' + i) = toString memory str src sstart length (str + i)) →
      Apart (8 * dest + dstart) length (8 * str') (8 * length) →
      ∀ i < length, bitsAt (parseString other dest dstart str' length).1 dest dstart i =
        bitsAt memory src sstart i) := by
  refine ⟨?_, ?_, ?_, ?_, ?_, ?_, ?_, ?_⟩
  · intro s1 start1 s2 start2 length nonempty
    have compares := compare_compares memory s1 start1 s2 start2 nonempty
    exact ⟨compares.positive_iff, compares.negative_iff, compares.zero_iff⟩
  · intro str offset count nonempty fits
    rw [popcount_eq memory str offset nonempty, toInt_ofNat_small fits]
  · intro s1 start1 s2 start2 length nonempty
    constructor
    · intro fits
      rw [hammingDistance_eq memory s1 start1 s2 start2 nonempty, toInt_ofNat_small fits]
    · intro maxdist fits
      exact limitedDistance_iff memory s1 start1 s2 start2 nonempty maxdist fits
  · intro dest src sstart length nonempty apart
    exact ⟨unpack_stored memory dest src sstart nonempty apart,
      toString_stored memory dest src sstart nonempty apart⟩
  · intro str start bits nonempty wide
    exact getint_eq memory str start nonempty wide
  · intro after other str start str' start' value bits nonempty wide set same
    exact getint_setint nonempty wide set same
  · intro other dest dstart src out str start length nonempty apart same room i inside
    exact unpack_pack nonempty apart same room inside
  · intro other dest dstart str src sstart str' length nonempty room same apart
    exact (parseString_toString nonempty room same apart).2

theorem bitReads_agree_popcount :
    popcount (fun a => BitVec.ofNat 8 (37 * a)) 0 3 20 =
      Nat.count (fun i => bitsAt (fun a => BitVec.ofNat 8 (37 * a)) 0 3 i) 20 :=
  (bitReads_agree fun a => BitVec.ofNat 8 (37 * a)).2.1 0 3 20 (by decide) (by decide)

/-- With as many ones as an `int` cannot hold the population count is not their number, and a byte
that is neither 0 nor 1 does not come back from `pack` and `unpack`. -/
theorem bitReads_limits :
    popcount (fun _ => 255) 0 0 (2 ^ 31) ≠
      Nat.count (fun i => bitsAt (fun _ => 255) 0 0 i) (2 ^ 31) ∧
    unpack (pack (fun a => if a = 8 then 2 else 0) 0 0 8 1) 16 0 0 1 16 ≠
      (fun a => if a = 8 then 2 else 0) 8 := by
  constructor
  · have ones : ∀ j < 8, (255 : Byte).getLsbD (7 - j) = true := by decide
    have all : Nat.count (fun i => bitsAt (fun _ => 255) 0 0 i) (2 ^ 31) = 2 ^ 31 := by
      rw [@count_congr _ _ (fun _ => True) _ _ (by
        intro i _
        simp only [bitsAt, bit, ones _ (Nat.mod_lt _ (by decide : 0 < 8))])]
      simp
    rw [popcount_eq _ _ _ (by decide), all]
    decide
  · decide

end Redhawk.Bitops
