import Redhawk.Bitops.BitApply

/-!
The functions that write a range of bits: each changes the bits of its range to what a definition
bit by bit gives, and nothing else, at every alignment.
-/

namespace Redhawk.Bitops

open Redhawk.Library BitVec

def memset (memory : Memory) (dest : Nat) (value : Byte) (bytes : Nat) : Memory :=
  fun a => if dest ≤ a ∧ a < dest + bytes then value else memory a

def memcpy (memory : Memory) (dest src bytes : Nat) : Memory :=
  fun a => if dest ≤ a ∧ a < dest + bytes then memory (src + (a - dest)) else memory a

def setbit (memory : Memory) (str pos : Nat) (value : Bool) : Memory :=
  let adjusted := adjustBuffer str pos
  let shift := 7 - adjusted.2
  let mask := ~~~((1 : Byte) <<< shift)
  Function.update memory adjusted.1
    ((memory adjusted.1 &&& mask) ||| ((ofBool value).setWidth 8 <<< shift))

namespace UnaryOp

/-- `SetInteger`; the field is `value`, with the next bit to write in its most significant bit. -/
def setInteger : UnaryOp (BitVec 64) where
  mode := .write
  op memory value _ bits := (memory, value <<< bits, (value >>> (64 - bits)).setWidth 8)
  arrayOp := none
  complete _ := false

def fill (value : Bool) : UnaryOp Unit where
  mode := .write
  op memory fields _ _ := (memory, fields, BitVec.ofInt 8 (-1 * value.toInt))
  arrayOp := some fun memory fields dest bytes =>
    (memset memory dest (BitVec.ofInt 8 (-1 * value.toInt)) bytes, fields)
  complete _ := false

def packLoop (memory : Memory) : Nat → Byte → Nat → Byte × Nat
  | 0, value, src => (value, src)
  | bits + 1, value, src =>
    packLoop memory bits ((value <<< 1) ||| (if memory src ≠ 0 then 1 else 0)) (src + 1)

def pack : UnaryOp Nat where
  mode := .write
  op memory src _ bits :=
    let packed := packLoop memory bits 0 src
    (memory, packed.2, packed.1)
  arrayOp := none
  complete _ := false

end UnaryOp

structure FromString where
  src : Nat
  valid : Bool
  result : BitVec 32
  deriving DecidableEq, Repr

def charBit (c : Byte) : Option Bool :=
  if c = 48 then some false else if c = 49 then some true else none

namespace FromString

def parseLoop (memory : Memory) (dest : Byte) (bits : Nat) :
    Nat → Byte → FromString → FromString × Byte
  | 0, value, f => (f, value)
  | left + 1, value, f =>
    match charBit (memory f.src) with
    | some bit =>
      parseLoop memory dest bits left ((value <<< 1) ||| (if bit then 1 else 0))
        { f with src := f.src + 1, result := f.result + 1 }
    | none =>
      ({ f with valid := false }, BitWriter.writeByte value dest (8 - bits) (bits - (left + 1)))

end FromString

def UnaryOp.fromString : UnaryOp FromString where
  mode := .readwrite
  op memory f dest bits :=
    let parsed := FromString.parseLoop memory dest bits bits 0 f
    (memory, parsed.1, parsed.2)
  arrayOp := none
  complete f := !f.valid

def BinaryOp.copy : BinaryOp Unit where
  leftMode := .write
  rightMode := .read
  op memory fields _ src _ := (memory, fields, src, src)
  arrayOp := some fun memory fields dest src bytes => (memcpy memory dest src bytes, fields)
  complete _ := false

def setint (memory : Memory) (str start : Nat) (value : BitVec 64) (bits : Nat) : Except String Memory :=
  if bits > 64 then .error "redhawk::bitops::setint()"
  else .ok (UnaryOp.setInteger.applyUnary str start bits (memory, value <<< (64 - bits))).1

def fill (memory : Memory) (str start length : Nat) (value : Bool) : Memory :=
  ((UnaryOp.fill value).applyUnary str start length (memory, ())).1

def pack (memory : Memory) (dest dstart src length : Nat) : Memory :=
  (UnaryOp.pack.applyUnary dest dstart length (memory, src)).1

def copy (memory : Memory) (dest dstart src sstart length : Nat) : Memory :=
  (BinaryOp.copy.applyBinop dest dstart src sstart length (memory, ())).1

def parseString (memory : Memory) (dest dstart str length : Nat) : Memory × Int :=
  let s := UnaryOp.fromString.applyUnary dest dstart length (memory, ⟨str, true, 0⟩)
  (s.1, s.2.result.toInt)

def validCount (memory : Memory) (str : Nat) : Nat → Nat
  | 0 => 0
  | length + 1 =>
    if (charBit (memory str)).isSome then validCount memory (str + 1) length + 1 else 0

theorem written_bytes {before after : Memory} {start count : Nat} {values : Nat → Bool}
    (written : Written before after start count values) {dest bytes : Nat} {value : Nat → Byte}
    (aligned : 0 < bytes → start + count = 8 * dest)
    (next : ∀ i < bytes, ∀ j < 8, (value i).getLsbD (7 - j) = values (count + 8 * i + j)) :
    Written before (fun a => if dest ≤ a ∧ a < dest + bytes then value (a - dest) else after a)
      start (count + 8 * bytes) values := by
  intro i
  rw [bit]
  by_cases new : dest ≤ i / 8 ∧ i / 8 < dest + bytes
  · have range : start ≤ i ∧ i < start + (count + 8 * bytes) := by omega
    have index : count + 8 * (i / 8 - dest) + i % 8 = i - start := by omega
    rw [if_pos new, if_pos range, next _ (by omega) _ (by omega), index]
  · rw [if_neg new, ← bit, written]
    have same : (start ≤ i ∧ i < start + (count + 8 * bytes)) ↔ (start ≤ i ∧ i < start + count) := by
      omega
    simp only [same]

theorem getLsbD_shiftOne (value : Byte) (b : Bool) {j : Nat} (inside : j < 8) :
    ((value <<< 1) ||| (if b then 1 else 0)).getLsbD j = if j = 0 then b else value.getLsbD (j - 1) := by
  rw [getLsbD_or, getLsbD_shiftLeft]
  by_cases first : j = 0
  · subst first
    cases b <;> simp
  · have low : ¬ j < 1 := by omega
    have rest : (if b then (1 : Byte) else 0).getLsbD j = false := by
      cases b
      · simp
      · simp [first]
    simp only [rest, inside, low, first, decide_true, decide_false, Bool.not_false, Bool.true_and,
      Bool.or_false, if_false]

namespace UnaryOp

variable {σ : Type} {f : UnaryOp σ} {before : Memory} {count : Nat}

theorem setter_written {data offset : Nat} (nonempty : 1 ≤ count) (values : Nat → Bool)
    (fields : Nat → σ → Prop) {x : σ} (init : fields 0 x)
    (writes : f.mode = .write) (never : ∀ x, f.complete x = false)
    (op : ∀ k n m x value, 1 ≤ n → n ≤ 8 → k + n ≤ count →
      Written before m (8 * data + offset) k values → fields k x →
      (f.op m x value n).1 = m ∧ fields (k + n) (f.op m x value n).2.1 ∧
        ∀ j < n, (f.op m x value n).2.2.getLsbD (n - 1 - j) = values (k + j))
    (array : ∀ arrayOp, f.arrayOp = some arrayOp → ∀ k bytes a m x,
      (0 < bytes → 8 * data + offset + k = 8 * a) → k + 8 * bytes ≤ count →
      Written before m (8 * data + offset) k values → fields k x →
      Written before (arrayOp m x a bytes).1 (8 * data + offset) (k + 8 * bytes) values ∧
        fields (k + 8 * bytes) (arrayOp m x a bytes).2) :
    Written before (f.applyUnary data offset count (before, x)).1 (8 * data + offset) count values := by
  have carries : f.Carries (8 * data + offset) count fun k s =>
      Written before s.1 (8 * data + offset) k values ∧ fields k s.2 := {
    chunk := by
      intro k n value s positive small within holds _
      obtain ⟨same, next, low⟩ := op k n s.1 s.2 value positive small within holds.1 holds.2
      refine ⟨?_, next⟩
      simp only [UnaryOp.chunk, UnaryOp.apply, BitHandler.put, writes, Mode.writes, if_true, same]
      exact holds.1.extend low
    array := by
      intro arrayOp given k bytes a s position within holds
      exact array arrayOp given k bytes a s.1 s.2 position within holds.1 holds.2
    stop := by
      intro k s _ _ done
      simp [never] at done }
  exact (applyUnary_carries carries nonempty ⟨Written.start_of _ _ _, init⟩).1

end UnaryOp

variable (memory : Memory)

theorem setbit_written (str pos : Nat) (value : Bool) :
    Written memory (setbit memory str pos value) (8 * str + pos) 1 fun _ => value := by
  have place := adjustBuffer_place str pos
  have small := adjustBuffer_small str pos
  simp only [setbit]
  generalize adjustBuffer str pos = adjusted at place small ⊢
  obtain ⟨data, offset⟩ := adjusted
  intro i
  rw [bit_update]
  by_cases same : i / 8 = data
  · have byte : 7 - i % 8 < 8 := by omega
    have bitPlace : 8 * data + (7 - (7 - i % 8)) = i := by omega
    rw [if_pos same, getLsbD_or, getLsbD_and, getLsbD_not,
      getLsbD_shiftLeft, getLsbD_shiftLeft, getLsbD_byte _ _ byte, bitPlace,
      ofNat_eq_ofNat, getLsbD_one, getLsbD_setWidth, getLsbD_ofBool]
    by_cases here : i = 8 * str + pos
    · have shift : 7 - i % 8 = 7 - offset := by omega
      have inner : 7 - offset < 8 := by omega
      rw [if_pos (by omega), shift]
      simp [inner]
    · rw [if_neg (by omega)]
      by_cases below : 7 - i % 8 < 7 - offset
      · simp [byte, below]
      · have above : 7 - i % 8 - (7 - offset) ≠ 0 := by omega
        simp [byte, below, above]
  · rw [if_neg same, if_neg (by omega)]

variable (str start : Nat)

theorem fill_written {length : Nat} (nonempty : 1 ≤ length) (value : Bool) :
    Written memory (fill memory str start length value) (8 * str + start) length fun _ => value := by
  have low : ∀ j < 8, (BitVec.ofInt 8 (-1 * value.toInt)).getLsbD j = value := by
    cases value <;> decide
  apply UnaryOp.setter_written nonempty (fun _ => value) (fun _ _ => True) trivial rfl (fun _ => rfl)
  · intro k n m x _ _ small _ _ _
    refine ⟨rfl, trivial, ?_⟩
    intro j inside
    exact low _ (by omega)
  · rintro _ ⟨⟩ k bytes data m x position _ written _
    refine ⟨?_, trivial⟩
    apply @written_bytes _ _ _ _ _ written data bytes (fun _ => BitVec.ofInt 8 (-1 * value.toInt))
      position
    intro i _ j inside
    exact low _ (by omega)

theorem setint_written (value : BitVec 64) {bits : Nat} (nonempty : 1 ≤ bits) (wide : bits ≤ 64) :
    ∃ after, setint memory str start value bits = .ok after ∧
      Written memory after (8 * str + start) bits fun i => value.getLsbD (bits - 1 - i) := by
  have narrow : ¬ bits > 64 := by omega
  refine ⟨_, by rw [setint, if_neg narrow], ?_⟩
  apply UnaryOp.setter_written nonempty (fun i => value.getLsbD (bits - 1 - i))
    (fun k x => x = value <<< (64 - bits) <<< k) (by simp) rfl (fun _ => rfl)
  · intro k n m x _ _ small within _ fields
    refine ⟨rfl, ?_, ?_⟩
    · simp only [UnaryOp.setInteger, fields, shiftLeft_add]
    · intro j inside
      have byte : n - 1 - j < 8 := by omega
      have wide : 64 - n + (n - 1 - j) < 64 := by omega
      have high : ¬ 64 - n + (n - 1 - j) < k := by omega
      have place : 64 - n + (n - 1 - j) - k - (64 - bits) = bits - 1 - (k + j) := by omega
      have inner : 64 - n + (n - 1 - j) - k < 64 ∧ ¬ 64 - n + (n - 1 - j) - k < 64 - bits := by omega
      simp only [UnaryOp.setInteger, fields, getLsbD_setWidth, getLsbD_ushiftRight,
        getLsbD_shiftLeft, byte, wide, high, inner, place, decide_true, decide_false,
        Bool.not_false, Bool.true_and]
  · rintro _ ⟨⟩

def shiftIn (b : Nat → Bool) : Nat → Byte → Nat → Byte
  | 0, value, _ => value
  | n + 1, value, src => shiftIn b n ((value <<< 1) ||| (if b src then 1 else 0)) (src + 1)

theorem getLsbD_shiftIn (b : Nat → Bool) :
    ∀ n value src, ∀ j < 8, (shiftIn b n value src).getLsbD j =
      if j < n then b (src + (n - 1 - j)) else value.getLsbD (j - n) := by
  intro n
  induction n with
  | zero => intro value src j _; simp [shiftIn]
  | succ n ih =>
    intro value src j inside
    rw [shiftIn, ih _ _ j inside]
    by_cases old : j < n
    · have place : src + 1 + (n - 1 - j) = src + (n + 1 - 1 - j) := by omega
      rw [if_pos old, if_pos (by omega), place]
    · rw [if_neg old, getLsbD_shiftOne _ _ (by omega)]
      by_cases first : j = n
      · subst first
        simp
      · have place : j - n - 1 = j - (n + 1) := by omega
        rw [if_neg (by omega), if_neg (by omega), place]

theorem UnaryOp.packLoop_eq : ∀ bits value src,
    packLoop memory bits value src = (shiftIn (fun a => decide (memory a ≠ 0)) bits value src, src + bits) := by
  intro bits
  induction bits with
  | zero => intro value src; rfl
  | succ bits ih =>
    intro value src
    have place : src + 1 + bits = src + (bits + 1) := by omega
    rw [packLoop, ih, shiftIn, place]
    simp only [decide_eq_true_eq]

theorem pack_written (dest dstart src : Nat) {length : Nat}
    (nonempty : 1 ≤ length) (apart : Apart (8 * dest + dstart) length (8 * src) (8 * length)) :
    Written memory (pack memory dest dstart src length) (8 * dest + dstart) length
      fun i => decide (memory (src + i) ≠ 0) := by
  apply UnaryOp.setter_written nonempty (fun i => decide (memory (src + i) ≠ 0))
    (fun k x => x = src + k) rfl rfl (fun _ => rfl)
  · intro k n m x _ _ small within written fields
    simp only [UnaryOp.pack, UnaryOp.packLoop_eq]
    refine ⟨trivial, by omega, ?_⟩
    intro j inside
    have place : x + (n - 1 - (n - 1 - j)) = src + (k + j) := by omega
    have same : m (src + (k + j)) = memory (src + (k + j)) :=
      written.byte (by unfold Apart at apart ⊢; omega)
    rw [getLsbD_shiftIn _ _ _ _ _ (by omega), if_pos (by omega), place, same]
  · rintro _ ⟨⟩

theorem copy_written (memory : Memory) (dest dstart src sstart : Nat) {length : Nat}
    (nonempty : 1 ≤ length) (apart : Apart (8 * dest + dstart) length (8 * src + sstart) length) :
    Written memory (copy memory dest dstart src sstart length) (8 * dest + dstart) length
      fun i => bit memory (8 * src + sstart + i) := by
  have carries : BinaryOp.copy.Carries (8 * dest + dstart) (8 * src + sstart) length fun k s =>
      Written memory s.1 (8 * dest + dstart) k fun i => bit memory (8 * src + sstart + i) := {
    chunk := by
      intro k n lhs rhs s _ small within written _ _ read
      apply written.extend
      intro j inside
      have place : n - 1 - (n - 1 - j) = j := by omega
      have low : n - 1 - j < n := by omega
      rw [BinaryOp.copy, read rfl, getLsbD_readBits _ _ small, place,
        written.outside (by unfold Apart at apart; omega), Nat.add_assoc]
      simp [low]
    array := by
      rintro _ ⟨⟩ k bytes lhs rhs s position within written _
      refine @written_bytes _ _ _ _ _ written lhs bytes (fun i => s.1 (rhs + i)) (by omega) ?_
      intro i inside j byte
      have place : 8 * (rhs + i) + (7 - (7 - j)) = 8 * src + sstart + (k + 8 * i + j) := by omega
      rw [getLsbD_byte _ _ (by omega), place, written.outside (by unfold Apart at apart; omega)]
    stop := by
      intro k s _ _ done
      cases done }
  exact BinaryOp.applyBinop_carries carries nonempty (Written.start_of _ _ _)

theorem charBit_some {c : Byte} {b : Bool} (valid : charBit c = some b) : b = decide (c = 49) := by
  unfold charBit at valid
  split_ifs at valid with zero one
  · obtain rfl := Option.some.inj valid
    subst zero
    decide
  · obtain rfl := Option.some.inj valid
    simp [one]

theorem validCount_le : ∀ length str, validCount memory str length ≤ length := by
  intro length
  induction length with
  | zero => intro str; exact Nat.le_refl 0
  | succ length ih =>
    intro str
    have rest := ih (str + 1)
    rw [validCount]
    split <;> omega

theorem validCount_valid : ∀ length str, ∀ i < validCount memory str length,
    (charBit (memory (str + i))).isSome := by
  intro length
  induction length with
  | zero => intro str i inside; exact absurd inside (Nat.not_lt_zero i)
  | succ length ih =>
    intro str i inside
    rw [validCount] at inside
    split at inside
    · rename_i valid
      cases i with
      | zero => exact valid
      | succ i =>
        have place : str + (i + 1) = str + 1 + i := by omega
        rw [place]
        exact ih (str + 1) i (by omega)
    · exact absurd inside (Nat.not_lt_zero i)

theorem validCount_stop : ∀ length str, validCount memory str length < length →
    charBit (memory (str + validCount memory str length)) = none := by
  intro length
  induction length with
  | zero => intro str inside; exact absurd inside (Nat.not_lt_zero _)
  | succ length ih =>
    intro str
    rw [validCount]
    split
    · intro inside
      have place : str + (validCount memory (str + 1) length + 1) =
          str + 1 + validCount memory (str + 1) length := by omega
      rw [place]
      exact ih (str + 1) (by omega)
    · rename_i invalid
      intro _
      simpa using invalid

theorem validCount_eq {memory : Memory} : ∀ {length str c}, c ≤ length →
    (∀ i < c, (charBit (memory (str + i))).isSome) →
    (c < length → charBit (memory (str + c)) = none) → validCount memory str length = c := by
  intro length str c bound valid stop
  have le := validCount_le memory length str
  rcases Nat.lt_trichotomy (validCount memory str length) c with less | same | more
  · have known := valid _ less
    rw [validCount_stop memory length str (by omega)] at known
    cases known
  · exact same
  · have known := validCount_valid memory length str c more
    rw [stop (by omega)] at known
    cases known

namespace FromString

theorem parseLoop_eq (memory : Memory) (dest : Byte) (bits : Nat) : ∀ left value f, left ≤ bits →
    parseLoop memory dest bits left value f =
      let parsed := validCount memory f.src left
      let taken := shiftIn (fun a => decide (memory a = 49)) parsed value f.src
      ({ src := f.src + parsed, valid := f.valid && decide (parsed = left),
         result := f.result + BitVec.ofNat 32 parsed },
        if parsed = left then taken
        else BitWriter.writeByte taken dest (8 - bits) (bits - left + parsed)) := by
  intro left
  induction left with
  | zero => intro value f _; simp [parseLoop, validCount, shiftIn]
  | succ left ih =>
    intro value f within
    rw [parseLoop, validCount]
    cases read : charBit (memory f.src) with
    | none => simp [shiftIn]
    | some b =>
      have known := charBit_some read
      subst known
      have number : bits - (left + 1) + (validCount memory (f.src + 1) left + 1) =
          bits - left + validCount memory (f.src + 1) left := by omega
      have sum : f.result + 1 + BitVec.ofNat 32 (validCount memory (f.src + 1) left) =
          f.result + BitVec.ofNat 32 (validCount memory (f.src + 1) left + 1) := by
        rw [BitVec.add_assoc, BitVec.ofNat_add, BitVec.add_comm 1]
        rfl
      have place : f.src + 1 + validCount memory (f.src + 1) left =
          f.src + (validCount memory (f.src + 1) left + 1) := by omega
      simp only [ih _ _ (show left ≤ bits by omega), Option.isSome_some, if_true, shiftIn, number,
        sum, place, Nat.add_right_cancel_iff]

/-- The fields after `k` characters, of which the first `parsed` are bits: the functor stays at the
first one that is not. -/
def At (str parsed k : Nat) (f : FromString) : Prop :=
  f = ⟨str + min k parsed, decide (k ≤ parsed), BitVec.ofNat 32 (min k parsed)⟩

theorem op_eq {memory : Memory} {str length k n : Nat} {f : FromString} (within : k + n ≤ length)
    (small : n ≤ 8) (fields : At str (validCount memory str length) k f) {m : Memory}
    (same : ∀ i < length, m (str + i) = memory (str + i)) (value : Byte) :
    (UnaryOp.fromString.op m f value n).1 = m ∧
    At str (validCount memory str length) (k + n) (UnaryOp.fromString.op m f value n).2.1 ∧
    ∀ j < n, (UnaryOp.fromString.op m f value n).2.2.getLsbD (n - 1 - j) =
      if k + j < validCount memory str length then decide (memory (str + (k + j)) = 49)
      else value.getLsbD (n - 1 - j) := by
  generalize total : validCount memory str length = parsed at fields ⊢
  have now : validCount m (str + min k parsed) n = min (k + n) parsed - min k parsed := by
    apply validCount_eq (by omega)
    · intro i inside
      rw [Nat.add_assoc, same _ (by omega)]
      exact validCount_valid memory length str _ (by omega)
    · intro short
      have place : str + min k parsed + (min (k + n) parsed - min k parsed) = str + parsed := by omega
      rw [place, same _ (by omega), ← total]
      exact validCount_stop memory length str (by omega)
  subst fields
  simp only [UnaryOp.fromString, parseLoop_eq _ _ _ _ _ _ (Nat.le_refl n), now, true_and]
  have taken : ∀ j < 8, (shiftIn (fun a => decide (m a = 49)) (min (k + n) parsed - min k parsed) 0
      (str + min k parsed)).getLsbD j =
        if j < min (k + n) parsed - min k parsed
        then decide (m (str + min k parsed + (min (k + n) parsed - min k parsed - 1 - j)) = 49)
        else false := by
    intro j inside
    rw [getLsbD_shiftIn _ _ _ _ _ inside]
    simp
  refine ⟨?_, ?_⟩
  · have place : str + min k parsed + (min (k + n) parsed - min k parsed) =
        str + min (k + n) parsed := by omega
    have number : min k parsed + (min (k + n) parsed - min k parsed) = min (k + n) parsed := by omega
    have valid : (decide (k ≤ parsed) && decide (min (k + n) parsed - min k parsed = n)) =
        decide (k + n ≤ parsed) := by
      rw [← Bool.decide_and, decide_eq_decide]
      omega
    rw [At, place, valid, ← BitVec.ofNat_add, number]
  · intro j inside
    by_cases all : min (k + n) parsed - min k parsed = n
    · have here : k + j < parsed := by omega
      have place : str + min k parsed + (min (k + n) parsed - min k parsed - 1 - (n - 1 - j)) =
          str + (k + j) := by omega
      rw [if_pos all, taken _ (by omega), if_pos (by omega), if_pos here, place, same _ (by omega)]
    · rw [if_neg all, BitWriter.getLsbD_writeByte _ _ (by omega) (by omega)]
      by_cases here : k + j < parsed
      · have window : 8 - (8 - n + (n - n + (min (k + n) parsed - min k parsed))) ≤ n - 1 - j ∧
            n - 1 - j < 8 - (8 - n) := by omega
        have place : str + min k parsed + (min (k + n) parsed - min k parsed - 1 -
            (n - 1 - j - (8 - (8 - n + (n - n + (min (k + n) parsed - min k parsed)))))) =
              str + (k + j) := by omega
        rw [if_pos window, taken _ (by omega), if_pos (by omega), if_pos here, place, same _ (by omega)]
      · rw [if_neg (by omega), if_neg here]

end FromString

theorem parseString_written (dest dstart str : Nat) {length : Nat}
    (nonempty : 1 ≤ length) (apart : Apart (8 * dest + dstart) length (8 * str) (8 * length)) :
    Written memory (parseString memory dest dstart str length).1 (8 * dest + dstart)
        (validCount memory str length) (fun i => decide (memory (str + i) = 49)) ∧
      (parseString memory dest dstart str length).2 = (BitVec.ofNat 32 (validCount memory str length)).toInt := by
  have bound := validCount_le memory length str
  have carries : UnaryOp.fromString.Carries (8 * dest + dstart) length fun k s =>
      Written memory s.1 (8 * dest + dstart) (min k (validCount memory str length))
        (fun i => decide (memory (str + i) = 49)) ∧
      FromString.At str (validCount memory str length) k s.2 := {
    chunk := by
      intro k n value s _ small within holds read
      obtain ⟨written, fields⟩ := holds
      have same : ∀ i < length, s.1 (str + i) = memory (str + i) := by
        intro i inside
        exact written.byte (by unfold Apart at apart ⊢; omega)
      obtain ⟨kept, next, low⟩ := FromString.op_eq within small fields same value
      refine ⟨?_, next⟩
      apply written.extend_upTo
      intro j inside
      have place : n - 1 - (n - 1 - j) = j := by omega
      have inner : n - 1 - j < n := by omega
      rw [low j inside, read rfl, getLsbD_readBits _ _ small, place]
      simp [inner]
    array := by
      rintro _ ⟨⟩
    stop := by
      intro k s within holds done
      obtain ⟨written, fields⟩ := holds
      have past : validCount memory str length < k := by
        rw [fields] at done
        simpa [UnaryOp.fromString] using done
      have whole : min k (validCount memory str length) =
          min length (validCount memory str length) := by omega
      have neither : decide (k ≤ validCount memory str length) =
          decide (length ≤ validCount memory str length) := by
        simp only [decide_eq_decide]
        omega
      rw [whole] at written
      refine ⟨written, ?_⟩
      rw [FromString.At, fields, whole, neither] }
  have result := UnaryOp.applyUnary_carries carries nonempty
    (s := (memory, ⟨str, true, 0⟩)) ⟨by simpa using Written.start_of _ _ _, by simp [FromString.At]⟩
  rw [Nat.min_eq_right bound] at result
  refine ⟨result.1, ?_⟩
  rw [parseString, result.2, Nat.min_eq_right bound]

theorem setint_wide (value : BitVec 64) {bits : Nat} (wide : 64 < bits) :
    setint memory str start value bits = .error "redhawk::bitops::setint()" := by
  rw [setint, if_pos wide]

/-- Every write of a range of bits, at any offsets and of any length, gives the bits of the range
the values of the definition bit by bit, and changes nothing else. Where a source is read, its range
must not overlap the destination, with which it may share a buffer and even a byte. -/
theorem bitWrites_refine (memory : Memory) :
    (∀ dest dstart src sstart length, 1 ≤ length → Apart (8 * dest + dstart) length (8 * src + sstart) length →
      Written memory (copy memory dest dstart src sstart length) (8 * dest + dstart) length
        fun i => bit memory (8 * src + sstart + i)) ∧
    (∀ str start length value, 1 ≤ length →
      Written memory (fill memory str start length value) (8 * str + start) length fun _ => value) ∧
    (∀ dest dstart src length, 1 ≤ length → Apart (8 * dest + dstart) length (8 * src) (8 * length) →
      Written memory (pack memory dest dstart src length) (8 * dest + dstart) length
        fun i => decide (memory (src + i) ≠ 0)) ∧
    (∀ str start value bits, 1 ≤ bits →
      if bits ≤ 64 then
        ∃ after, setint memory str start value bits = .ok after ∧
          Written memory after (8 * str + start) bits fun i => value.getLsbD (bits - 1 - i)
      else setint memory str start value bits = .error "redhawk::bitops::setint()") ∧
    (∀ str pos value, Written memory (setbit memory str pos value) (8 * str + pos) 1 fun _ => value) ∧
    (∀ dest dstart str length, 1 ≤ length → Apart (8 * dest + dstart) length (8 * str) (8 * length) →
      Written memory (parseString memory dest dstart str length).1 (8 * dest + dstart)
        (validCount memory str length) fun i => decide (memory (str + i) = 49)) := by
  refine ⟨?_, ?_, ?_, ?_, ?_, ?_⟩
  · intro dest dstart src sstart length nonempty apart
    exact copy_written memory dest dstart src sstart nonempty apart
  · intro str start length value nonempty
    exact fill_written memory str start nonempty value
  · intro dest dstart src length nonempty apart
    exact pack_written memory dest dstart src nonempty apart
  · intro str start value bits nonempty
    split
    · rename_i narrow
      exact setint_written memory str start value nonempty narrow
    · rename_i wide
      exact setint_wide memory str start value (Nat.lt_of_not_le wide)
  · intro str pos value
    exact setbit_written memory str pos value
  · intro dest dstart str length nonempty apart
    exact (parseString_written memory dest dstart str nonempty apart).1

theorem bitWrites_refine_copy :
    Written (fun a => BitVec.ofNat 8 (37 * a)) (copy (fun a => BitVec.ofNat 8 (37 * a)) 0 3 4 5 20) 3 20
      fun i => bit (fun a => BitVec.ofNat 8 (37 * a)) (37 + i) :=
  (bitWrites_refine fun a => BitVec.ofNat 8 (37 * a)).1 0 3 4 5 20 (by decide)
    (by unfold Apart; omega)

end Redhawk.Bitops
