import Redhawk.Bitops.BitBuffers

/-!
The search for a pattern of bits: `bitops::find` and `shared_bitbuffer::find`, and `find` of the Python
`bitbuffer`.
-/

namespace Redhawk.Bitops

open Redhawk.Library SharedBitbuffer List Option

def find (memory : Memory) (str sstart slen patt pstart plen : Nat) (maxdist : BitVec 32) :
    Except String Int :=
  if slen < plen then .error "pattern is longer than string"
  else
    let stop := slen - plen
    match (range' sstart (stop - sstart)).find? fun index =>
        decide (limitedDistance memory str index patt pstart plen maxdist ≤ maxdist.toInt) with
    | some index => .ok (BitVec.ofNat 32 index).toInt
    | none => .ok (-1)

def SharedBitbuffer.find (memory : Memory) (buffer : SharedBitbuffer) (start : Nat)
    (pattern : SharedBitbuffer) (maxDistance : BitVec 32) : Except String Nat :=
  (Bitops.find memory buffer.data (buffer.offset + start) buffer.size pattern.data pattern.offset
    pattern.size maxDistance).map fun index => (BitVec.ofInt 64 index).toNat

namespace Py.Bitbuffer

def distance (self other : Bitbuffer) : Nat :=
  ((self.iter.zip other.iter).map fun (x, y) => (x ^^ y).toNat).sum

def find (self pattern : Bitbuffer) (start : Int) (stop : Option Int) (maxDistance : Int) : Int :=
  let length := pattern.bits
  let (start, stop) := self.indices start stop
  let stop := min (stop : Int) (self.bits - length)
  match (range' start (stop.toNat - start)).find? fun pos : Nat =>
      decide ((pattern.distance (self.slice pos (pos + length)) : Int) ≤ maxDistance) with
  | some pos => pos
  | none => -1

end Py.Bitbuffer

def distanceAt (string pattern : List Bool) (i : Nat) : Nat :=
  (pattern.zip ((string.drop i).take pattern.length)).countP fun (x, y) => x ^^ y

def Occurs (string pattern : List Bool) (maxDistance : Int) (i : Nat) : Prop :=
  i + pattern.length ≤ string.length ∧ (distanceAt string pattern i : Int) ≤ maxDistance

def FirstFrom (place : Nat → Prop) (start : Nat) : Option Nat → Prop
  | some i => start ≤ i ∧ place i ∧ ∀ j, start ≤ j → j < i → ¬place j
  | none => ∀ j, start ≤ j → ¬place j

section First

variable {place : Nat → Prop} {start : Nat}

theorem FirstFrom.unique {first second : Option Nat} (one : FirstFrom place start first)
    (other : FirstFrom place start second) : first = second := by
  cases first with
  | none =>
      cases second with
      | none => rfl
      | some j => exact absurd other.2.1 (one j other.1)
  | some i =>
      cases second with
      | none => exact absurd one.2.1 (other i one.1)
      | some j =>
          rcases Nat.lt_trichotomy i j with before | same | behind
          · exact absurd one.2.1 (other.2.2 i one.1 before)
          · rw [same]
          · exact absurd other.2.1 (one.2.2 j other.1 behind)

theorem find?_first {test : Nat → Bool} {stop : Nat}
    (tests : ∀ i, start ≤ i → i < stop → (test i ↔ place i)) {first : Option Nat}
    (least : FirstFrom place start first) :
    (range' start (stop - start)).find? test = first.filter fun i => i < stop := by
  cases first with
  | none =>
      rw [filter_none, find?_range'_eq_none]
      intro i lower upper
      have no : ¬test i := fun yes => least i lower ((tests i lower (by omega)).mp yes)
      simpa using no
  | some i =>
      obtain ⟨lower, here, before⟩ := least
      by_cases inside : i < stop
      · rw [filter_some_pos (by simpa using inside), find?_range'_eq_some]
        refine ⟨(tests i lower inside).mpr here, mem_range'_1.mpr (by omega), ?_⟩
        intro j from' below
        have no : ¬test j := fun yes => before j from' below ((tests j from' (by omega)).mp yes)
        simpa using no
      · rw [filter_some_neg (by simpa using inside), find?_range'_eq_none]
        intro j from' below
        have no : ¬test j :=
          fun yes => before j from' (by omega) ((tests j from' (by omega)).mp yes)
        simpa using no

theorem first_exists (place : Nat → Prop) (start : Nat) : ∃ first, FirstFrom place start first := by
  classical
  by_cases some : ∃ i, start ≤ i ∧ place i
  · refine ⟨Option.some (Nat.find some), (Nat.find_spec some).1, (Nat.find_spec some).2, ?_⟩
    intro j lower below here
    exact Nat.find_min some below ⟨lower, here⟩
  · exact ⟨none, fun j lower here => some ⟨j, lower, here⟩⟩

end First

section Distances

theorem countP_range (test : Nat → Bool) (n : Nat) :
    (range n).countP test = Nat.count (fun i => test i) n := by
  induction n with
  | zero => simp
  | succ n ih =>
      rw [range_succ, countP_append, ih, Nat.count_succ]
      simp [countP_cons]

theorem distanceAt_bits (memory : Memory) (buffer pattern : SharedBitbuffer) {i : Nat}
    (within : i + pattern.size ≤ buffer.size) :
    distanceAt (buffer.bits memory) (pattern.bits memory) i =
      Nat.count (fun k => differAt memory buffer.data (buffer.offset + i) pattern.data pattern.offset k)
        pattern.size := by
  rw [distanceAt, length_bits, bits, bits,
    drop_take_range _ within, zip_map', countP_map, ← countP_range]
  refine countP_congr fun k _ => ?_
  simp [differAt, bitsAt, ← Nat.add_assoc, Bool.xor_comm]

theorem sum_toNat (bits : List Bool) : (bits.map Bool.toNat).sum = bits.countP id := by
  induction bits with
  | nil => rfl
  | cons bit rest ih => cases bit <;> simp [ih, Nat.add_comm]

theorem Py.distance_slice (self pattern : Py.Bitbuffer) {i : Nat} (within : i + pattern.bits ≤ self.bits) :
    pattern.distance (self.slice i (i + pattern.bits)) = distanceAt self.iter pattern.iter i := by
  have slice := @Py.Bitbuffer.iter_slice self i (i + pattern.bits) (by omega) within
  rw [Nat.add_sub_cancel_left, Nat.cast_add] at slice
  have bits := sum_toNat ((pattern.iter.zip ((self.iter.drop i).take pattern.bits)).map fun pair =>
    pair.1 ^^ pair.2)
  rw [List.map_map, countP_map] at bits
  rw [Py.Bitbuffer.distance, slice, distanceAt, Py.Bitbuffer.length_iter]
  exact bits

end Distances

section Find

variable {memory : Memory} {buffer pattern : SharedBitbuffer} {start : Nat} {maxDistance : BitVec 32}

theorem FirstFrom.shift {place : Nat → Prop} {first : Option Nat} (least : FirstFrom place start first)
    (offset : Nat) : FirstFrom (fun index => place (index - offset)) (offset + start)
      (first.map (offset + ·)) := by
  cases first with
  | none => exact fun index lower here => least (index - offset) (by omega) here
  | some i =>
      refine ⟨Nat.add_le_add_left least.1 offset, ?_, fun index lower below here => ?_⟩
      · simpa using least.2.1
      · have below : index < offset + i := below
        exact least.2.2 (index - offset) (by omega) (by omega) here

theorem find_first (nonempty : 1 ≤ pattern.size) (shorter : pattern.size ≤ buffer.size)
    (fits : maxDistance.toInt + 8 < 2 ^ 31 ∨ pattern.size < 2 ^ 31) {first : Option Nat}
    (least : FirstFrom (Occurs (buffer.bits memory) (pattern.bits memory) maxDistance.toInt) start first) :
    buffer.find memory start pattern maxDistance =
      .ok (match (first.map (buffer.offset + ·)).filter fun index =>
          index < buffer.size - pattern.size with
        | some index => (BitVec.ofInt 64 (BitVec.ofNat 32 index).toInt).toNat
        | none => npos) := by
  have found := @find?_first _ _ (fun index => decide (limitedDistance memory buffer.data index
      pattern.data pattern.offset pattern.size maxDistance ≤ maxDistance.toInt))
    (buffer.size - pattern.size) ?_ _ (least.shift buffer.offset)
  · rw [SharedBitbuffer.find, Bitops.find, if_neg (by omega)]
    simp only [found]
    split <;> rfl
  · intro index lower upper
    have within : index - buffer.offset + pattern.size ≤ buffer.size := by omega
    have here : buffer.offset + (index - buffer.offset) = index := by omega
    have bound : Nat.count (fun k => differAt memory buffer.data index pattern.data pattern.offset k)
        pattern.size ≤ pattern.size := Nat.count_le _
    have limited := limitedDistance_iff memory buffer.data index pattern.data pattern.offset nonempty
      maxDistance (fits.imp_right fun small => by omega)
    rw [decide_eq_true_eq, limited, Occurs, distanceAt_bits memory buffer pattern within, here,
      length_bits, length_bits]
    exact (and_iff_right within).symm

theorem Py.find_first {self pattern : Py.Bitbuffer} {maxDistance : Int} (inside : start ≤ self.bits)
    {first : Option Nat} (least : FirstFrom (Occurs self.iter pattern.iter maxDistance) start first) :
    self.find pattern start none maxDistance =
      match first.filter fun i => i < self.bits - pattern.bits with
      | some i => (i : Int)
      | none => -1 := by
  have stop : (min (self.bits : Int) (self.bits - pattern.bits)).toNat = self.bits - pattern.bits := by
    omega
  have found := @find?_first _ _ (fun pos : Nat => decide ((pattern.distance
      (self.slice pos (pos + pattern.bits)) : Int) ≤ maxDistance)) (self.bits - pattern.bits) ?_ _ least
  · simp only [Py.Bitbuffer.find, Py.Bitbuffer.indices, Py.Bitbuffer.index_within inside, stop, found]
  · intro pos lower upper
    have within : pos + pattern.bits ≤ self.bits := by omega
    rw [decide_eq_true_eq, Py.distance_slice self pattern within, Occurs, Py.Bitbuffer.length_iter,
      Py.Bitbuffer.length_iter]
    exact (and_iff_right within).symm

end Find

theorem returned_iff {offset i : Nat} (small : offset + i < 2 ^ 63) :
    (BitVec.ofInt 64 (BitVec.ofNat 32 (offset + i)).toInt).toNat = i ↔ offset % 2 ^ 32 = 0 ∧ i < 2 ^ 31 := by
  rw [BitVec.toNat_ofInt, BitVec.toInt_eq_toNat_cond, BitVec.toNat_ofNat]
  split <;> omega

/-- Both searches find the least place just where there is none, the pattern being no longer than the
string, or where it lies before the last place that the pattern fits, in a buffer that starts with its
byte array, and is an `int`. -/
theorem find_complete_iff (memory : Memory) (buffer pattern : SharedBitbuffer)
    (nonempty : 1 ≤ pattern.size) (start : Nat) (inside : start ≤ buffer.size)
    (maxDistance : BitVec 32)
    (fits : maxDistance.toInt + 8 < 2 ^ 31 ∨ pattern.size < 2 ^ 31) (self other : Py.Bitbuffer)
    (string : self.iter = buffer.bits memory) (sought : other.iter = pattern.bits memory) :
    (∃ first, FirstFrom (Occurs (buffer.bits memory) (pattern.bits memory) maxDistance.toInt) start first ∧
      buffer.find memory start pattern maxDistance = .ok (first.getD npos) ∧
      self.find other start none maxDistance.toInt = first.elim (-1) fun i => (i : Int)) ↔
    pattern.size ≤ buffer.size ∧
      ∀ i, FirstFrom (Occurs (buffer.bits memory) (pattern.bits memory) maxDistance.toInt) start (some i) →
        buffer.offset % 2 ^ 32 = 0 ∧ buffer.offset + i + pattern.size < buffer.size ∧ i < 2 ^ 31 := by
  have addressable := buffer.addressable
  have size : self.bits = buffer.size := by
    rw [← Py.Bitbuffer.length_iter, string, SharedBitbuffer.length_bits]
  have length : other.bits = pattern.size := by
    rw [← Py.Bitbuffer.length_iter, sought, SharedBitbuffer.length_bits]
  constructor
  · rintro ⟨first, least, cpp, -⟩
    have shorter : pattern.size ≤ buffer.size := by
      by_contra longer
      rw [SharedBitbuffer.find, Bitops.find, if_pos (by omega)] at cpp
      cases cpp
    refine ⟨shorter, fun i one => ?_⟩
    obtain rfl := least.unique one
    obtain ⟨_, ⟨within, _⟩, _⟩ := one
    rw [length_bits, length_bits] at within
    rw [find_first nonempty shorter fits least, map_some, Except.ok.injEq, getD_some] at cpp
    by_cases before : buffer.offset + i < buffer.size - pattern.size
    · rw [filter_some_pos (by simpa using before)] at cpp
      obtain ⟨aligned, small⟩ := (returned_iff (by omega)).mp cpp
      exact ⟨aligned, by omega, small⟩
    · rw [filter_some_neg (by simpa using before)] at cpp
      simp only [npos] at cpp
      omega
  · rintro ⟨shorter, early⟩
    obtain ⟨first, least⟩ := first_exists
      (Occurs (buffer.bits memory) (pattern.bits memory) maxDistance.toInt) start
    have leastPy : FirstFrom (Occurs self.iter other.iter maxDistance.toInt) start first := by
      rw [string, sought]
      exact least
    refine ⟨first, least, ?_, ?_⟩
    · rw [find_first nonempty shorter fits least]
      cases first with
      | none => rfl
      | some i =>
          obtain ⟨aligned, before, small⟩ := early i least
          rw [map_some, filter_some_pos (by simp only [decide_eq_true_eq]; omega)]
          exact congrArg Except.ok ((returned_iff (by omega)).mpr ⟨aligned, small⟩)
    · rw [Py.find_first (by omega) leastPy]
      cases first with
      | none => rfl
      | some i =>
          obtain ⟨_, before, _⟩ := early i least
          rw [filter_some_pos (by simp only [decide_eq_true_eq]; omega)]
          rfl

instance (string pattern : List Bool) (maxDistance : Int) (i : Nat) :
    Decidable (Occurs string pattern maxDistance i) := inferInstanceAs (Decidable (_ ∧ _))

def twoBytes : Memory := fun address => if address = 0 then 160 else 64

def firstBits (size : Nat) (small : size ≤ 4) : SharedBitbuffer := ⟨0, 0, size, by omega⟩

def zeroOne : SharedBitbuffer := ⟨1, 0, 2, by decide⟩

theorem zeroOne_first {string : List Bool}
    (bits : string = [true, false, true] ∨ string = [true, false, true, false]) :
    FirstFrom (Occurs string [false, true] 0) 0 (some 1) := by
  refine ⟨Nat.zero_le 1, ?_, fun j _ below => ?_⟩
  · rcases bits with rfl | rfl <;> decide
  · obtain rfl : j = 0 := by omega
    rcases bits with rfl | rfl <;> decide

theorem zeroOne_found : ∃ first,
    FirstFrom (Occurs ((firstBits 4 (by decide)).bits twoBytes) (zeroOne.bits twoBytes) (0#32).toInt) 0 first ∧
    (firstBits 4 (by decide)).find twoBytes 0 zeroOne 0 = .ok (first.getD npos) ∧
    (⟨twoBytes, 4, 0⟩ : Py.Bitbuffer).find ⟨twoBytes, 2, 8⟩ 0 none (0#32).toInt =
      first.elim (-1) fun i => (i : Int) :=
  (find_complete_iff twoBytes (firstBits 4 (by decide)) zeroOne (by decide) 0 (by decide) 0
    (.inr (by decide)) ⟨twoBytes, 4, 0⟩ ⟨twoBytes, 2, 8⟩ (by decide) (by decide)).mpr
    ⟨by decide, fun i least => by
      have one : FirstFrom (Occurs ((firstBits 4 (by decide)).bits twoBytes)
        (zeroOne.bits twoBytes) (0#32).toInt) 0 (some 1) := zeroOne_first (.inr (by decide))
      obtain rfl := Option.some.inj (least.unique one)
      decide⟩

theorem zeroOne_missed : ¬∃ first,
    FirstFrom (Occurs ((firstBits 3 (by decide)).bits twoBytes) (zeroOne.bits twoBytes) (0#32).toInt) 0 first ∧
    (firstBits 3 (by decide)).find twoBytes 0 zeroOne 0 = .ok (first.getD npos) ∧
    (⟨twoBytes, 3, 0⟩ : Py.Bitbuffer).find ⟨twoBytes, 2, 8⟩ 0 none (0#32).toInt =
      first.elim (-1) fun i => (i : Int) := by
  rintro ⟨first, least, cpp, -⟩
  have one : FirstFrom (Occurs ((firstBits 3 (by decide)).bits twoBytes) (zeroOne.bits twoBytes)
    (0#32).toInt) 0 (some 1) := zeroOne_first (.inl (by decide))
  obtain rfl := least.unique one
  revert cpp
  decide +kernel

end Redhawk.Bitops
