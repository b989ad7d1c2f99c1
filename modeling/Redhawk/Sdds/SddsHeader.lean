import Mathlib.Tactic.IntervalCases
import Redhawk.Library.BitFields
import Redhawk.Library.Decimals

/-!
The header of `sdds_pkt.py`. Every component stands at its place in the 56 bytes of a header; the message
pointer and the information on the time tag share the bytes 4 to 7.
-/

namespace Redhawk.Sdds.Header

open Library List

def bits (start count : Nat) : BitField := ⟨start, count, false, nofun⟩

def word (byte bytes : Nat) : BitField := ⟨8 * byte, 8 * bytes, true, fun _ => Nat.dvd_mul_right 8 bytes⟩

def dm := bits 0 3
def ss := bits 3 1
def of := bits 4 1
def pp := bits 5 1
def sos := bits 6 1
def sf := bits 7 1
def bps := bits 8 5
def vw := bits 13 1
def snp := bits 14 1
def cx := bits 15 1
def seq := word 2 2
def msptr := word 4 2
def msdelta := word 6 2
def pad1 := bits 32 1
def pad2 := bits 33 1
def pad3 := bits 34 1
def peo := bits 35 1
def pi := bits 36 1
def sscv := bits 37 1
def ttv := bits 38 1
def msv := bits 39 1
def ttag := word 8 8
def ttage := word 16 4
def dfdt := word 20 4
def freq := word 24 8

def flags : List BitField := [peo, pi, sscv, ttv, msv]

def fields : List BitField :=
  flags ++ [dm, ss, of, pp, sos, sf, bps, vw, snp, cx, seq, msptr, msdelta, ttag, ttage, dfdt, freq]

def get_bps (memory : BitMap) : Nat := if bps.get memory = 31 then 32 else bps.get memory

/-- The field is a signed number of 2^-30. -/
def get_dfdt (memory : BitMap) : ℚ := ((dfdt.get memory : Int).bmod (2 ^ 32) : Int) / 2 ^ 30

inductive Setter where
  | standardformat (sf : Bool)
  | startofsequence (sos : Bool)
  | paritypacket (pp : Bool)
  | originalformat (of : Bool)
  | spectralsense (ss : Bool)
  | complex (isComplex : Bool)
  | vw (isVeryWide : Bool)
  | dmode (dm : Nat)
  | bps (bps : Nat)
  | fsn (v : Nat)
  | msptr (val : Nat)
  | msdelta (val : Nat)
  | msv (valid : Bool)
  | ttv (valid : Bool)
  | sscv (valid : Bool)
  | time (ps250 pf250 : Nat)
  | dfdt (val : ℚ)

namespace Setter

-- The first six clear their flag before they set it.
def writes : Setter → List (BitField × Nat)
  | standardformat sf => [(Header.sf, sf.toNat)]
  | startofsequence sos => [(Header.sos, sos.toNat)]
  | paritypacket pp => [(Header.pp, pp.toNat)]
  | originalformat of => [(Header.of, of.toNat)]
  | spectralsense ss => [(Header.ss, ss.toNat)]
  | complex isComplex => [(cx, isComplex.toNat)]
  | vw isVeryWide => [(Header.vw, isVeryWide.toNat)]
  | dmode dm => [(Header.dm, dm)]
  | bps value => [(Header.bps, if value = 32 then 31 else value)]
  | fsn v => [(seq, v)]
  | msptr val => [(Header.msptr, val &&& 0x07FF)]
  | msdelta val => [(Header.msdelta, val)]
  | msv valid => [(Header.msv, valid.toNat)]
  | ttv valid => [(Header.ttv, valid.toNat)]
  | sscv valid => [(Header.sscv, valid.toNat)]
  | time ps250 pf250 => [(ttag, ps250), (ttage, pf250)]
  | dfdt val => [(Header.dfdt, (truncate (val * 2 ^ 30) % 2 ^ 32).toNat)]

def apply (setter : Setter) (memory : BitMap) : BitMap := setAll setter.writes memory

def InRange : Setter → Prop
  | dmode dm => dm < 2 ^ 3
  | bps value => value ≤ 32
  | fsn v => v < 2 ^ 16
  | msptr val => val < 2 ^ 11
  | msdelta val => val < 2 ^ 16
  | time ps250 pf250 => ps250 < 2 ^ 64 ∧ pf250 < 2 ^ 32
  | dfdt val => -2 ≤ val ∧ val < 2
  | _ => True

def Reads (memory : BitMap) : Setter → Prop
  | bps value => get_bps memory = value
  | msptr val => Header.msptr.get memory = val
  | dfdt val => get_dfdt memory = val
  | setter => ∀ write ∈ setter.writes, write.1.get memory = write.2

structure Independent (setter : Setter) (memory : BitMap) : Prop where
  reads : setter.Reads (setter.apply memory)
  others : ∀ field ∈ fields, (∀ write ∈ setter.writes, write.1 ≠ field) →
    field.get (setter.apply memory) = field.get memory
  outside : ∀ place, (∀ write ∈ setter.writes, ¬write.1.Inside place) →
    setter.apply memory place = memory place

/-- The condition under which a setter changes its own field only, to a number that reads back. -/
def Safe (memory : BitMap) : Setter → Prop
  | bps value => value ≠ 31
  | msptr _ => ∀ flag ∈ flags, flag.get memory = 0
  | msv valid => Header.msv.get memory = valid.toNat
  | ttv valid => Header.ttv.get memory = valid.toNat
  | sscv valid => Header.sscv.get memory = valid.toNat
  | dfdt val => ∃ ticks : Int, val * 2 ^ 30 = ticks
  | _ => True

end Setter

inductive Component where
  | format_identifier
  | frame_sequence
  | msptr_data
  | ttag_info_struct
  | ttag_info_union
  | ttag_values
  | ttag_info
  | ssc_info_struct
  | ssd_data
  | aad_data
  | sdds_header

namespace Component

def init : Component → List (BitField × Nat)
  | format_identifier =>
      [(sf, 1), (sos, 1), (pp, 0), (of, 0), (ss, 0), (bps, 8), (vw, 0), (snp, 0), (cx, 0), (dm, 1)]
  | frame_sequence => [(seq, 0)]
  | msptr_data => [(msptr, 0), (msdelta, 0)]
  | ttag_info_struct =>
      [(ttv, 0), (sscv, 0), (pi, 0), (msv, 0), (peo, 0), (pad1, 0), (pad2, 0), (pad3, 0)]
  | ttag_values => [(ttag, 0), (ttage, 0)]
  | ssc_info_struct => [(dfdt, 0), (freq, 0)]
  | ttag_info_union | ttag_info | ssd_data | aad_data | sdds_header => []

def new (component : Component) (data : BitMap) : BitMap := setAll component.init data

end Component

def frameSequenceInc (memory : BitMap) : BitMap := seq.set ((seq.get memory + 1) % 65536) memory

-- `self.fsn == 0` compares an object with a number: the flag `sos` is never cleared.
def inc (_skip_parity : Bool) (skip_parity : Option Bool) (memory : BitMap) : BitMap :=
  let next := frameSequenceInc memory
  if (skip_parity.getD false || _skip_parity) && seq.get next % 32 == 31 then frameSequenceInc next else next

/-- The next number after `current` in the cycle, without those that are 31 modulo 32 if `skips`. -/
def IsNext (skips : Bool) (current next : Nat) : Prop :=
  ∃ steps, 0 < steps ∧ next = (current + steps) % 65536 ∧ ¬(skips ∧ next % 32 = 31) ∧
    ∀ fewer, 0 < fewer → fewer < steps → skips ∧ (current + fewer) % 65536 % 32 = 31

structure Advances (skips : Bool) (before after : BitMap) : Prop where
  next : IsNext skips (seq.get before) (seq.get after)
  start : seq.get after < seq.get before → sos.get after = 0

def Last (skips : Bool) (number : Nat) : Prop := number = 65535 ∨ skips ∧ number = 65534

theorem apart_of_ne : ∀ field ∈ fields, field ∉ msptr :: flags → ∀ other ∈ fields, field ≠ other →
    field.Apart other := by
  decide

theorem flags_zero {flag : BitField} (listed : flag ∈ flags) {val : Nat} (small : val < 2 ^ 11)
    (memory : BitMap) : flag.get (msptr.set val memory) = 0 := by
  refine Nat.eq_of_testBit_eq fun bit => ?_
  have above : ∀ place, 11 ≤ place → val.testBit place = false := fun place high =>
    Nat.testBit_lt_two_pow (small.trans_le (Nat.pow_le_pow_right (by decide) high))
  rw [BitField.testBit_get, Nat.zero_testBit, Bool.and_eq_false_imp]
  intro inside
  simp only [flags, mem_cons, not_mem_nil, or_false] at listed
  rcases listed with rfl | rfl | rfl | rfl | rfl <;>
    obtain rfl := Nat.lt_one_iff.mp (of_decide_eq_true inside) <;> exact above _ (by decide)

theorem flag_iff {flag : BitField} (listed : flag ∈ flags) (on : Bool) (memory : BitMap) :
    (∀ field ∈ fields, flag ≠ field → field.get (flag.set on.toNat memory) = field.get memory) ↔
      flag.get memory = on.toNat := by
  simp only [flags, mem_cons, not_mem_nil, or_false] at listed
  have small : on.toNat < 2 ^ flag.count := by
    rcases listed with rfl | rfl | rfl | rfl | rfl <;> exact on.toNat_lt
  have within : ∀ place, flag.Inside place → msptr.Inside place := by
    intro place inside
    rcases listed with rfl | rfl | rfl | rfl | rfl <;> simp only [BitField.Inside] at inside ⊢ <;>
      simp [msptr, word, peo, pi, sscv, ttv, msv, bits] at inside ⊢ <;> omega
  refine ⟨fun same => (BitField.get_set_within within small).mp (same msptr (by decide) ?_), fun same => ?_⟩
  · rcases listed with rfl | rfl | rfl | rfl | rfl <;> decide
  · rw [← same, BitField.set_get]
    exact fun _ _ _ => rfl

namespace Setter

variable {setter : Setter} {memory : BitMap}

theorem settable (inRange : setter.InRange) : Settable setter.writes := by
  constructor
  · cases setter with
    | time ps250 pf250 => exact pairwise_pair.mpr (.inr (Nat.le_refl 128))
    | _ => exact pairwise_singleton _ _
  · cases setter with
    | time ps250 pf250 =>
        rw [writes, forall_mem_cons, forall_mem_singleton]
        exact inRange
    | bps value =>
        rw [writes, forall_mem_singleton]
        have range : value ≤ 32 := inRange
        change (if value = 32 then 31 else value) < 2 ^ 5
        split <;> omega
    | msptr val =>
        rw [writes, forall_mem_singleton]
        exact Nat.and_le_right.trans_lt (show 2047 < 2 ^ 16 by decide)
    | dfdt val =>
        rw [writes, forall_mem_singleton]
        change (truncate (val * 2 ^ 30) % 2 ^ 32).toNat < 2 ^ 32
        omega
    | dmode dm | fsn v | msdelta val =>
        rw [writes, forall_mem_singleton]
        exact inRange
    | _ =>
        rw [writes, forall_mem_singleton]
        exact Bool.toNat_lt _

section

variable (plain : ∀ field ∈ setter.writes.map Prod.fst, field ∈ fields ∧ field ∉ Header.msptr :: flags)

include plain

theorem Independent.of_plain (reads : setter.Reads (setter.apply memory)) : setter.Independent memory where
  reads := reads
  others field member distinct := get_setAll_apart fun write written =>
    have plain := plain _ (mem_map_of_mem written)
    apart_of_ne _ plain.1 plain.2 field member (distinct write written)
  outside _ := setAll_outside

theorem independent_iff_reads : setter.Independent memory ↔ setter.Reads (setter.apply memory) :=
  ⟨Independent.reads, .of_plain plain⟩

end

theorem independent_iff_others {field : BitField} {value : Nat} (single : setter.writes = [(field, value)])
    (reads : setter.Reads (setter.apply memory)) :
    setter.Independent memory ↔ ∀ other ∈ fields, field ≠ other →
      other.get (field.set value memory) = other.get memory := by
  have result : setter.apply memory = field.set value memory := by rw [apply, single]; rfl
  refine ⟨fun independent other member distinct => ?_, fun others => ⟨reads, ?_, fun _ => setAll_outside⟩⟩
  · rw [← result]
    exact independent.others other member (by simpa [single] using distinct)
  · rw [result]
    intro other member distinct
    exact others other member (by simpa [single] using distinct)

theorem dfdt_reads_iff {val : ℚ} (inRange : (dfdt val).InRange) {memory : BitMap}
    (written : Header.dfdt.get memory = (truncate (val * 2 ^ 30) % 2 ^ 32).toNat) :
    get_dfdt memory = val ↔ ∃ ticks : Int, val * 2 ^ 30 = ticks := by
  obtain ⟨lower, upper⟩ : -2 ≤ val ∧ val < 2 := inRange
  have range : -2 ^ 31 ≤ truncate (val * 2 ^ 30) ∧ truncate (val * 2 ^ 30) < 2 ^ 31 := by
    unfold truncate
    split
    · rw [Int.le_floor, Int.floor_lt]
      constructor <;> push_cast <;> linarith
    · rename_i negative
      have above : ⌈val * 2 ^ 30⌉ ≤ 0 := Int.ceil_le.mpr (by push_cast; linarith)
      have below := Int.le_ceil (val * 2 ^ 30)
      have lowest : ((-2 ^ 31 : Int) : ℚ) ≤ ⌈val * 2 ^ 30⌉ := by push_cast; linarith
      exact ⟨Int.cast_le.mp lowest, by omega⟩
  have signed : ((Header.dfdt.get memory : Int).bmod (2 ^ 32)) = truncate (val * 2 ^ 30) := by
    rw [written, Int.toNat_of_nonneg (by omega)]
    rw [Int.bmod_def]
    omega
  rw [get_dfdt, signed, div_eq_iff (by norm_num)]
  refine ⟨fun same => ⟨_, same.symm⟩, ?_⟩
  rintro ⟨ticks, same⟩
  rw [same, truncate_intCast]

theorem independent_iff (inRange : setter.InRange) : setter.Independent memory ↔ setter.Safe memory := by
  have got : ∀ write ∈ setter.writes, write.1.get (setAll setter.writes memory) = write.2 :=
    (settable inRange).get
  cases setter with
  | bps value =>
      rw [independent_iff_reads (of_decide_eq_true rfl)]
      have range : value ≤ 32 := inRange
      change get_bps _ = value ↔ value ≠ 31
      rw [get_bps, apply, got _ mem_cons_self]
      dsimp only
      split_ifs <;> omega
  | dfdt val =>
      rw [independent_iff_reads (of_decide_eq_true rfl)]
      exact dfdt_reads_iff inRange (got _ mem_cons_self)
  | msptr val =>
      have same : val &&& 0x07FF = val := Nat.and_two_pow_sub_one_of_lt_two_pow inRange
      rw [@independent_iff_others (msptr val) memory _ _ rfl ((got _ mem_cons_self).trans same), same]
      constructor
      · intro others flag listed
        rw [← others flag (mem_append_left _ listed) (by rintro rfl; revert listed; decide)]
        exact flags_zero listed inRange memory
      · intro safe other member distinct
        by_cases listed : other ∈ flags
        · rw [flags_zero listed inRange, safe other listed]
        · have plain : other ∉ Header.msptr :: flags := not_mem_cons_of_ne_of_not_mem distinct.symm listed
          exact BitField.get_set_apart (apart_of_ne other member plain _ (by decide) distinct.symm).symm
  | msv on => exact (@independent_iff_others (msv on) memory _ _ rfl got).trans (flag_iff (by decide) on memory)
  | ttv on => exact (@independent_iff_others (ttv on) memory _ _ rfl got).trans (flag_iff (by decide) on memory)
  | sscv on => exact (@independent_iff_others (sscv on) memory _ _ rfl got).trans (flag_iff (by decide) on memory)
  | _ => exact iff_of_true (.of_plain (of_decide_eq_true rfl) got) trivial

end Setter

theorem frameSequenceInc_get (memory : BitMap) :
    seq.get (frameSequenceInc memory) = (seq.get memory + 1) % 65536 ∧
      sos.get (frameSequenceInc memory) = sos.get memory :=
  ⟨BitField.get_set (Nat.mod_lt _ (by decide)), BitField.get_set_apart (by decide)⟩

theorem inc_get (_skip_parity : Bool) (skip_parity : Option Bool) (memory : BitMap) :
    seq.get (inc _skip_parity skip_parity memory) =
        (if (skip_parity.getD false || _skip_parity) ∧ (seq.get memory + 1) % 65536 % 32 = 31
          then (seq.get memory + 2) % 65536 else (seq.get memory + 1) % 65536) ∧
      sos.get (inc _skip_parity skip_parity memory) = sos.get memory := by
  obtain ⟨next, start⟩ := frameSequenceInc_get memory
  obtain ⟨second, same⟩ := frameSequenceInc_get (frameSequenceInc memory)
  simp only [inc, next, Bool.and_eq_true, beq_iff_eq]
  split
  · exact ⟨second.trans (by rw [next, Nat.mod_add_mod]), same.trans start⟩
  · exact ⟨next, start⟩

theorem inc_advances_iff (_skip_parity : Bool) (skip_parity : Option Bool) (memory : BitMap) :
    Advances (skip_parity.getD false || _skip_parity) memory (inc _skip_parity skip_parity memory) ↔
      (Last (skip_parity.getD false || _skip_parity) (seq.get memory) → sos.get memory = 0) := by
  obtain ⟨result, start⟩ := inc_get _skip_parity skip_parity memory
  generalize inc _skip_parity skip_parity memory = after at *
  generalize (skip_parity.getD false || _skip_parity) = skips at *
  have bound : seq.get memory < 65536 := BitField.get_lt
  have next : IsNext skips (seq.get memory) (seq.get after) := by
    rw [result]
    split
    · refine ⟨2, by decide, rfl, by omega, fun fewer positive below => ?_⟩
      obtain rfl : fewer = 1 := by omega
      assumption
    · exact ⟨1, by decide, rfl, by assumption, fun fewer positive below => by omega⟩
  have wraps : seq.get after < seq.get memory ↔ Last skips (seq.get memory) := by
    rw [result, Last]
    cases skips <;> simp only [true_and, Bool.false_eq_true, false_and, if_false, or_false]
    · omega
    · split <;> omega
  rw [← wraps, ← start]
  exact ⟨Advances.start, fun start => ⟨next, start⟩⟩

/-- Exactly when a setter, a constructor and a step of the sequence number are right. -/
theorem sdds_header_exact_iff (memory : BitMap) :
    (∀ setter : Setter, setter.InRange → (setter.Independent memory ↔ setter.Safe memory)) ∧
    (∀ component : Component,
      component.new memory = memory ↔ ∀ write ∈ component.init, write.1.get memory = write.2) ∧
    ∀ _skip_parity skip_parity,
      Advances (skip_parity.getD false || _skip_parity) memory (inc _skip_parity skip_parity memory) ↔
        (Last (skip_parity.getD false || _skip_parity) (seq.get memory) → sos.get memory = 0) := by
  refine ⟨fun _ => Setter.independent_iff, fun component => Settable.setAll_eq_iff ⟨?_, ?_⟩, fun _ _ => inc_advances_iff ..⟩
  all_goals cases component <;> decide

theorem sdds_header_entangled :
    ¬(∀ (setter : Setter) memory, setter.InRange → setter.Independent memory) ∧
    ¬(∀ (component : Component) data, component.new data = data) ∧
    ¬∀ _skip_parity skip_parity memory,
      Advances (skip_parity.getD false || _skip_parity) memory (inc _skip_parity skip_parity memory) := by
  refine ⟨fun all => ?_, fun all => ?_, fun all => ?_⟩
  · have same := (all (.msv true) (fun _ => false) trivial).others msptr (by decide) (by decide)
    exact absurd same (by decide)
  · exact absurd (congrFun (all .format_identifier fun _ => false) 0) (by decide)
  · have start := (all true none fun _ => true).start (by decide)
    exact absurd start (by decide)

end Redhawk.Sdds.Header
