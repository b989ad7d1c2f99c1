import Redhawk.Bitops.BitAccess

/-!
`apply_unary` and `apply_binop`: a functor applied along one or two bit arrays, in a partial first
byte, whole bytes and a partial last byte. The rules at the end carry an invariant, indexed by the
number of bits processed, through every path of them.
-/

namespace Redhawk.Bitops

open Redhawk.Library

/-- How an operation accesses a bit array: `read_tag`, `write_tag` or `readwrite_tag`. -/
inductive Mode where
  | read
  | write
  | readwrite
  deriving DecidableEq, Repr

namespace Mode

def reads : Mode → Bool
  | write => false
  | _ => true

def writes : Mode → Bool
  | read => false
  | _ => true

end Mode

namespace BitHandler

def read (mode : Mode) (memory : Memory) (src offset bits : Nat) : Byte :=
  if mode.reads then BitReader.read memory src offset bits else 0

def readLeft (mode : Mode) (memory : Memory) (src bits : Nat) : Byte :=
  if mode.reads then BitReader.readLeft memory src bits else 0

def readSplitByte (mode : Mode) (memory : Memory) (src offset : Nat) : Byte :=
  if mode.reads then BitReader.readSplitByte memory src offset else 0

def readSplit (mode : Mode) (memory : Memory) (src offset bits : Nat) : Byte :=
  if mode.reads then BitReader.readSplit memory src offset bits else 0

def write (mode : Mode) (value : Byte) (memory : Memory) (dest offset bits : Nat) : Memory :=
  if mode.writes then BitWriter.write value memory dest offset bits else memory

def writeLeft (mode : Mode) (value : Byte) (memory : Memory) (dest bits : Nat) : Memory :=
  if mode.writes then BitWriter.writeLeft value memory dest bits else memory

def writeSplitByte (mode : Mode) (value : Byte) (memory : Memory) (dest offset : Nat) : Memory :=
  if mode.writes then BitWriter.writeSplitByte value memory dest offset else memory

def writeSplit (mode : Mode) (value : Byte) (memory : Memory) (dest offset bits : Nat) : Memory :=
  if mode.writes then BitWriter.writeSplit value memory dest offset bits else memory

/-- What a reference to the byte `dest` leaves there: a functor that takes it by value cannot
change it. -/
def assign (mode : Mode) (value : Byte) (memory : Memory) (dest : Nat) : Memory :=
  if mode.writes then Function.update memory dest value else memory

end BitHandler

variable {σ : Type}

/-- A unary functor with fields `σ`. `op` is its `operator()` on one value, which it may change, and
`arrayOp` the one on whole bytes of an `array_tag` functor. -/
structure UnaryOp (σ : Type) where
  mode : Mode
  op : Memory → σ → Byte → Nat → Memory × σ × Byte
  arrayOp : Option (Memory → σ → Nat → Nat → Memory × σ)
  complete : σ → Bool

namespace UnaryOp

def apply (f : UnaryOp σ) (value : Byte) (bits : Nat) (put : Byte → Memory → Memory)
    (s : Memory × σ) : Memory × σ :=
  let r := f.op s.1 s.2 value bits
  (put r.2.2 r.1, r.2.1)

def elements (f : UnaryOp σ) : Nat → Nat → Memory × σ → Memory × σ
  | 0, _, s => s
  | bytes + 1, data, s =>
    elements f bytes (data + 1)
      (f.apply (s.1 data) 8 (fun v m => BitHandler.assign f.mode v m data) s)

def body (f : UnaryOp σ) (data bytes : Nat) (s : Memory × σ) : Memory × σ :=
  match f.arrayOp with
  | none => f.elements bytes data s
  | some arrayOp => arrayOp s.1 s.2 data bytes

def applyAligned (f : UnaryOp σ) (data count : Nat) (s : Memory × σ) : Memory × σ :=
  let bytes := count / 8
  let s := f.body data bytes s
  if f.complete s.2 then s
  else
    let data := data + bytes
    let remain := count % 8
    if remain ≠ 0 then
      f.apply (BitHandler.readLeft f.mode s.1 data remain) remain
        (fun v m => BitHandler.writeLeft f.mode v m data remain) s
    else s

def applyUnary (f : UnaryOp σ) (data offset count : Nat) (s : Memory × σ) : Memory × σ :=
  let adjusted := adjustBuffer data offset
  let data := adjusted.1
  let offset := adjusted.2
  if offset ≠ 0 then
    let nbits := min (8 - offset) count
    let s := f.apply (BitHandler.read f.mode s.1 data offset nbits) nbits
      (fun v m => BitHandler.write f.mode v m data offset nbits) s
    if f.complete s.2 then s else f.applyAligned (data + 1) (count - nbits) s
  else f.applyAligned data count s

end UnaryOp

structure BinaryOp (σ : Type) where
  leftMode : Mode
  rightMode : Mode
  op : Memory → σ → Byte → Byte → Nat → Memory × σ × Byte × Byte
  arrayOp : Option (Memory → σ → Nat → Nat → Nat → Memory × σ)
  complete : σ → Bool

namespace BinaryOp

def apply (f : BinaryOp σ) (lhs rhs : Byte) (bits : Nat) (putLeft putRight : Byte → Memory → Memory)
    (s : Memory × σ) : Memory × σ :=
  let r := f.op s.1 s.2 lhs rhs bits
  (putRight r.2.2.2 (putLeft r.2.2.1 r.1), r.2.1)

def alignedElements (f : BinaryOp σ) : Nat → Nat → Nat → Memory × σ → Memory × σ
  | 0, _, _, s => s
  | bytes + 1, lhs, rhs, s =>
    let s := f.apply (s.1 lhs) (s.1 rhs) 8 (fun v m => BitHandler.assign f.leftMode v m lhs)
      (fun v m => BitHandler.assign f.rightMode v m rhs) s
    if f.complete s.2 then s else alignedElements f bytes (lhs + 1) (rhs + 1) s

def alignedBody (f : BinaryOp σ) (lhs rhs bytes : Nat) (s : Memory × σ) : Memory × σ :=
  match f.arrayOp with
  | none => f.alignedElements bytes lhs rhs s
  | some arrayOp => arrayOp s.1 s.2 lhs rhs bytes

def splitElements (f : BinaryOp σ) (rhsOffset : Nat) :
    Nat → Nat → Nat → Memory × σ → Bool × Memory × σ
  | 0, _, _, s => (false, s)
  | bytes + 1, lhs, rhs, s =>
    let s := f.apply (s.1 lhs) (BitHandler.readSplitByte f.rightMode s.1 rhs rhsOffset) 8
      (fun v m => BitHandler.assign f.leftMode v m lhs)
      (fun v m => BitHandler.writeSplitByte f.rightMode v m rhs rhsOffset) s
    if f.complete s.2 then (true, s) else splitElements f rhsOffset bytes (lhs + 1) (rhs + 1) s

def tail (f : BinaryOp σ) (lhs rhs rhsOffset remain : Nat) (s : Memory × σ) : Memory × σ :=
  if remain ≠ 0 then
    f.apply (BitHandler.readLeft f.leftMode s.1 lhs remain)
      (BitHandler.readSplit f.rightMode s.1 rhs rhsOffset remain) remain
      (fun v m => BitHandler.writeLeft f.leftMode v m lhs remain)
      (fun v m => BitHandler.writeSplit f.rightMode v m rhs rhsOffset remain) s
  else s

def applyAligned (f : BinaryOp σ) (lhs rhs rhsOffset count : Nat) (s : Memory × σ) : Memory × σ :=
  let bytes := count / 8
  let remain := count % 8
  if rhsOffset = 0 then
    let s := f.alignedBody lhs rhs bytes s
    if f.complete s.2 then s else f.tail (lhs + bytes) (rhs + bytes) rhsOffset remain s
  else
    let (returned, s) := f.splitElements rhsOffset bytes lhs rhs s
    if returned then s else f.tail (lhs + bytes) (rhs + bytes) rhsOffset remain s

def applyBinop (f : BinaryOp σ) (lhs lhsOffset rhs rhsOffset count : Nat) (s : Memory × σ) : Memory × σ :=
  let left := adjustBuffer lhs lhsOffset
  let lhs := left.1
  let lhsOffset := left.2
  let right := adjustBuffer rhs rhsOffset
  let rhs := right.1
  let rhsOffset := right.2
  if lhsOffset ≠ 0 then
    let nbits := min (8 - lhsOffset) count
    let s := f.apply (BitHandler.read f.leftMode s.1 lhs lhsOffset nbits)
      (BitHandler.readSplit f.rightMode s.1 rhs rhsOffset nbits) nbits
      (fun v m => BitHandler.write f.leftMode v m lhs lhsOffset nbits)
      (fun v m => BitHandler.writeSplit f.rightMode v m rhs rhsOffset nbits) s
    if f.complete s.2 then s
    else
      let right := adjustBuffer rhs (rhsOffset + nbits)
      f.applyAligned (lhs + 1) right.1 right.2 (count - nbits) s
  else f.applyAligned lhs rhs rhsOffset count s

end BinaryOp

namespace BitHandler

def put (mode : Mode) (start count : Nat) (value : Byte) (memory : Memory) : Memory :=
  if mode.writes then writeBits memory start count value else memory

variable {offset bits : Nat}

section

variable (mode : Mode) (dest : Nat)

theorem write_eq_put (within : offset + bits ≤ 8) :
    (fun v m => write mode v m dest offset bits) = put mode (8 * dest + offset) bits := by
  funext v m
  rw [write, put, BitWriter.write_eq _ _ _ within]

theorem writeLeft_eq_put (within : bits ≤ 8) :
    (fun v m => writeLeft mode v m dest bits) = put mode (8 * dest) bits := by
  funext v m
  rw [writeLeft, put, BitWriter.writeLeft_eq _ _ _ within]

theorem writeSplitByte_eq_put (within : offset < 8) :
    (fun v m => writeSplitByte mode v m dest offset) = put mode (8 * dest + offset) 8 := by
  funext v m
  rw [writeSplitByte, put, BitWriter.writeSplitByte_eq _ _ _ within]

theorem writeSplit_eq_put (within : offset < 8) (small : bits ≤ 8) :
    (fun v m => writeSplit mode v m dest offset bits) = put mode (8 * dest + offset) bits := by
  funext v m
  rw [writeSplit, put, BitWriter.writeSplit_eq _ _ _ within small]

theorem assign_eq_put : (fun v m => assign mode v m dest) = put mode (8 * dest) 8 := by
  funext v m
  rw [assign, put, update_eq_writeBits]

end

variable {mode : Mode}

section

variable (reads : mode.reads) (memory : Memory) (src : Nat)
include reads

theorem read_eq (within : offset + bits ≤ 8) :
    read mode memory src offset bits = readBits memory (8 * src + offset) bits := by
  rw [read, if_pos reads, BitReader.read_eq _ _ within]

theorem readLeft_eq (within : bits ≤ 8) :
    readLeft mode memory src bits = readBits memory (8 * src) bits := by
  rw [readLeft, if_pos reads, BitReader.readLeft_eq _ _ within]

theorem readSplitByte_eq (within : offset < 8) :
    readSplitByte mode memory src offset = readBits memory (8 * src + offset) 8 := by
  rw [readSplitByte, if_pos reads, BitReader.readSplitByte_eq _ _ within]

theorem readSplit_eq (within : offset < 8) (nonempty : 1 ≤ bits) (small : bits ≤ 8) :
    readSplit mode memory src offset bits = readBits memory (8 * src + offset) bits := by
  rw [readSplit, if_pos reads, BitReader.readSplit_eq _ _ within nonempty small]

end

end BitHandler

namespace UnaryOp

def chunk (f : UnaryOp σ) (start count : Nat) (value : Byte) (s : Memory × σ) : Memory × σ :=
  f.apply value count (BitHandler.put f.mode start count) s

/-- `invariant k` holds after `k` bits of the array at `start` are processed, and once the functor
is complete it holds for all of them. -/
structure Carries (f : UnaryOp σ) (start count : Nat) (invariant : Nat → Memory × σ → Prop) :
    Prop where
  chunk : ∀ k n value s, 1 ≤ n → n ≤ 8 → k + n ≤ count → invariant k s →
    (f.mode.reads → value = readBits s.1 (start + k) n) →
    invariant (k + n) (f.chunk (start + k) n value s)
  array : ∀ arrayOp, f.arrayOp = some arrayOp → ∀ k bytes data s,
    (0 < bytes → start + k = 8 * data) → k + 8 * bytes ≤ count → invariant k s →
    invariant (k + 8 * bytes) (arrayOp s.1 s.2 data bytes)
  stop : ∀ k s, k ≤ count → invariant k s → f.complete s.2 → invariant count s

variable {f : UnaryOp σ} {start count : Nat} {invariant : Nat → Memory × σ → Prop}

theorem elements_carry (carries : f.Carries start count invariant) :
    ∀ bytes k data s, (0 < bytes → start + k = 8 * data) → k + 8 * bytes ≤ count → invariant k s →
      invariant (k + 8 * bytes) (f.elements bytes data s) := by
  intro bytes
  induction bytes with
  | zero => intro k data s _ _ holds; exact holds
  | succ bytes ih =>
    intro k data s position within holds
    have aligned : start + k = 8 * data := position (by omega)
    have next : k + 8 * (bytes + 1) = k + 8 + 8 * bytes := by omega
    have step := carries.chunk k 8 (s.1 data) s (by omega) (by omega) (by omega) holds
      (fun _ => by rw [aligned]; exact byte_eq_readBits _ _)
    rw [UnaryOp.chunk, aligned, ← BitHandler.assign_eq_put] at step
    rw [elements, next]
    exact ih (k + 8) (data + 1) _ (by omega) (by omega) step

variable {data : Nat} {s : Memory × σ}

theorem body_carries (carries : f.Carries start count invariant) {bytes k : Nat}
    (position : 0 < bytes → start + k = 8 * data) (within : k + 8 * bytes ≤ count)
    (holds : invariant k s) : invariant (k + 8 * bytes) (f.body data bytes s) := by
  rw [body]
  split
  · exact elements_carry carries bytes k data s position within holds
  · rename_i arrayOp given
    exact carries.array arrayOp given k bytes data s position within holds

theorem applyAligned_carries (carries : f.Carries start count invariant) {rest k : Nat}
    (position : 0 < rest → start + k = 8 * data) (whole : k + rest = count)
    (holds : invariant k s) : invariant count (f.applyAligned data rest s) := by
  have body : invariant (k + 8 * (rest / 8)) (f.body data (rest / 8) s) :=
    body_carries carries (by omega) (by omega) holds
  simp only [applyAligned]
  split_ifs with done more
  · exact carries.stop _ _ (by omega) body done
  · have place : start + (k + 8 * (rest / 8)) = 8 * (data + rest / 8) := by omega
    have last : k + 8 * (rest / 8) + rest % 8 = count := by omega
    have step := carries.chunk _ (rest % 8)
      (BitHandler.readLeft f.mode (f.body data (rest / 8) s).1 (data + rest / 8) (rest % 8)) _
      (by omega) (by omega) (by omega) body
      (fun reads => by rw [place]; exact BitHandler.readLeft_eq reads _ _ (by omega))
    rw [last, place, UnaryOp.chunk, ← BitHandler.writeLeft_eq_put _ _ (by omega)] at step
    exact step
  · have last : k + 8 * (rest / 8) = count := by omega
    rw [← last]
    exact body

theorem applyUnary_carries {offset : Nat}
    (carries : f.Carries (8 * data + offset) count invariant) (nonempty : 1 ≤ count)
    (holds : invariant 0 s) : invariant count (f.applyUnary data offset count s) := by
  rw [← adjustBuffer_place] at carries
  have small := adjustBuffer_small data offset
  rw [applyUnary]
  generalize adjustBuffer data offset = adjusted at carries small ⊢
  obtain ⟨data, offset⟩ := adjusted
  simp only at carries small ⊢
  split
  · have step := carries.chunk 0 (min (8 - offset) count)
      (BitHandler.read f.mode s.1 data offset (min (8 - offset) count)) s
      (by omega) (by omega) (by omega) holds
      (fun reads => BitHandler.read_eq reads _ _ (by omega))
    rw [UnaryOp.chunk, Nat.add_zero, ← BitHandler.write_eq_put _ _ (by omega)] at step
    split
    · rename_i done
      exact carries.stop _ _ (by omega) step done
    · exact applyAligned_carries carries (by omega) (by omega) step
  · exact applyAligned_carries carries (by omega) (Nat.zero_add count) holds

end UnaryOp

namespace BinaryOp

/-- The functor applied to the `count` bits at `left` and at `right`, given the values that were
read there. -/
def chunk (f : BinaryOp σ) (left right count : Nat) (lhs rhs : Byte) (s : Memory × σ) : Memory × σ :=
  f.apply lhs rhs count (BitHandler.put f.leftMode left count)
    (BitHandler.put f.rightMode right count) s

/-- The analogue of `UnaryOp.Carries` for two arrays. No step is taken after one that completed
the functor. -/
structure Carries (f : BinaryOp σ) (left right count : Nat) (invariant : Nat → Memory × σ → Prop) : Prop where
  chunk : ∀ k n lhs rhs s, 1 ≤ n → n ≤ 8 → k + n ≤ count → invariant k s → (0 < k → f.complete s.2 = false) →
    (f.leftMode.reads → lhs = readBits s.1 (left + k) n) →
    (f.rightMode.reads → rhs = readBits s.1 (right + k) n) →
    invariant (k + n) (f.chunk (left + k) (right + k) n lhs rhs s)
  array : ∀ arrayOp, f.arrayOp = some arrayOp → ∀ k bytes lhs rhs s,
    (0 < bytes → left + k = 8 * lhs ∧ right + k = 8 * rhs) → k + 8 * bytes ≤ count →
    invariant k s → (0 < k → f.complete s.2 = false) →
    invariant (k + 8 * bytes) (arrayOp s.1 s.2 lhs rhs bytes)
  stop : ∀ k s, k ≤ count → invariant k s → f.complete s.2 → invariant count s

variable {f : BinaryOp σ} {left right count : Nat} {invariant : Nat → Memory × σ → Prop}

theorem alignedElements_carry (carries : f.Carries left right count invariant) :
    ∀ bytes k lhs rhs s, (0 < bytes → left + k = 8 * lhs ∧ right + k = 8 * rhs) →
      k + 8 * bytes ≤ count → invariant k s → (0 < k → f.complete s.2 = false) →
      ∃ reached ≤ k + 8 * bytes, invariant reached (f.alignedElements bytes lhs rhs s) ∧
        (reached = k + 8 * bytes ∨ f.complete (f.alignedElements bytes lhs rhs s).2) := by
  intro bytes
  induction bytes with
  | zero =>
    intro k lhs rhs s _ _ holds _
    exact ⟨k, by omega, holds, .inl rfl⟩
  | succ bytes ih =>
    intro k lhs rhs s position within holds going
    obtain ⟨leftAligned, rightAligned⟩ := position (by omega)
    have step := carries.chunk k 8 (s.1 lhs) (s.1 rhs) s (by omega) (by omega) (by omega) holds going
      (fun _ => by rw [leftAligned]; exact byte_eq_readBits _ _)
      (fun _ => by rw [rightAligned]; exact byte_eq_readBits _ _)
    rw [BinaryOp.chunk, leftAligned, rightAligned, ← BitHandler.assign_eq_put, ← BitHandler.assign_eq_put] at step
    simp only [alignedElements]
    split_ifs with done
    · exact ⟨k + 8, by omega, step, .inr done⟩
    · have next : k + 8 + 8 * bytes = k + 8 * (bytes + 1) := by omega
      have rest := ih (k + 8) (lhs + 1) (rhs + 1) _ (by omega) (by omega) step
        (fun _ => by simpa using done)
      rwa [next] at rest

variable {rhsOffset : Nat}

theorem splitElements_carry (carries : f.Carries left right count invariant) (small : rhsOffset < 8) :
    ∀ bytes k lhs rhs s, (0 < bytes → left + k = 8 * lhs ∧ right + k = 8 * rhs + rhsOffset) →
      k + 8 * bytes ≤ count → invariant k s → (0 < k → f.complete s.2 = false) →
      if (f.splitElements rhsOffset bytes lhs rhs s).1
      then invariant count (f.splitElements rhsOffset bytes lhs rhs s).2
      else invariant (k + 8 * bytes) (f.splitElements rhsOffset bytes lhs rhs s).2 ∧
        (0 < k + 8 * bytes → f.complete (f.splitElements rhsOffset bytes lhs rhs s).2.2 = false) := by
  intro bytes
  induction bytes with
  | zero =>
    intro k lhs rhs s _ _ holds going
    exact ⟨holds, going⟩
  | succ bytes ih =>
    intro k lhs rhs s position within holds going
    obtain ⟨leftAligned, rightPlace⟩ := position (by omega)
    have step := carries.chunk k 8 (s.1 lhs)
      (BitHandler.readSplitByte f.rightMode s.1 rhs rhsOffset) s
      (by omega) (by omega) (by omega) holds going
      (fun _ => by rw [leftAligned]; exact byte_eq_readBits _ _)
      (fun reads => by rw [rightPlace]; exact BitHandler.readSplitByte_eq reads _ _ small)
    rw [BinaryOp.chunk, leftAligned, rightPlace, ← BitHandler.assign_eq_put,
      ← BitHandler.writeSplitByte_eq_put _ _ small] at step
    rw [splitElements]
    by_cases done : f.complete (f.apply (s.1 lhs) (BitHandler.readSplitByte f.rightMode s.1 rhs rhsOffset) 8
        (fun v m => BitHandler.assign f.leftMode v m lhs)
        (fun v m => BitHandler.writeSplitByte f.rightMode v m rhs rhsOffset) s).2
    · simp only [done, if_true]
      exact carries.stop _ _ (by omega) step done
    · have next : k + 8 + 8 * bytes = k + 8 * (bytes + 1) := by omega
      have rest := ih (k + 8) (lhs + 1) (rhs + 1) _ (by omega) (by omega) step
        (fun _ => by simpa using done)
      simp only [done]
      rwa [next] at rest

theorem alignedBody_carries (carries : f.Carries left right count invariant) {bytes k lhs rhs : Nat}
    {s : Memory × σ} (position : 0 < bytes → left + k = 8 * lhs ∧ right + k = 8 * rhs)
    (within : k + 8 * bytes ≤ count) (holds : invariant k s)
    (going : 0 < k → f.complete s.2 = false) :
    if f.complete (f.alignedBody lhs rhs bytes s).2
    then invariant count (f.alignedBody lhs rhs bytes s)
    else invariant (k + 8 * bytes) (f.alignedBody lhs rhs bytes s) := by
  rw [alignedBody]
  split
  · obtain ⟨reached, bound, there, all⟩ :=
      alignedElements_carry carries bytes k lhs rhs s position within holds going
    split_ifs with done
    · exact carries.stop _ _ (by omega) there done
    · rw [← all.resolve_right (by simpa using done)]
      exact there
  · rename_i arrayOp given
    have whole := carries.array arrayOp given k bytes lhs rhs s position within holds going
    split_ifs with done
    · exact carries.stop _ _ within whole done
    · exact whole

variable {lhs rhs : Nat} {s : Memory × σ}

theorem tail_carries (carries : f.Carries left right count invariant) {rest k : Nat}
    (small : rhsOffset < 8) (short : rest < 8)
    (position : 0 < rest → left + k = 8 * lhs ∧ right + k = 8 * rhs + rhsOffset)
    (whole : k + rest = count) (holds : invariant k s) (going : 0 < k → f.complete s.2 = false) :
    invariant count (f.tail lhs rhs rhsOffset rest s) := by
  rw [tail]
  split
  · obtain ⟨leftAligned, rightPlace⟩ := position (by omega)
    have step := carries.chunk k rest (BitHandler.readLeft f.leftMode s.1 lhs rest)
      (BitHandler.readSplit f.rightMode s.1 rhs rhsOffset rest) s
      (by omega) (by omega) (by omega) holds going
      (fun reads => by rw [leftAligned]; exact BitHandler.readLeft_eq reads _ _ (by omega))
      (fun reads => by
        rw [rightPlace]
        exact BitHandler.readSplit_eq reads _ _ small (by omega) (by omega))
    rw [BinaryOp.chunk, leftAligned, rightPlace, ← BitHandler.writeLeft_eq_put _ _ (by omega),
      ← BitHandler.writeSplit_eq_put _ _ small (by omega), whole] at step
    exact step
  · have last : k = count := by omega
    rw [← last]
    exact holds

theorem applyAligned_carries (carries : f.Carries left right count invariant)
    {rest k : Nat} (small : rhsOffset < 8)
    (position : 0 < rest → left + k = 8 * lhs ∧ right + k = 8 * rhs + rhsOffset)
    (whole : k + rest = count) (holds : invariant k s) (going : 0 < k → f.complete s.2 = false) :
    invariant count (f.applyAligned lhs rhs rhsOffset rest s) := by
  simp only [applyAligned]
  split
  · have body := @alignedBody_carries _ _ _ _ _ _ carries (rest / 8) k lhs rhs s (by omega) (by omega)
      holds going
    split at body
    · rename_i done
      rw [if_pos done]
      exact body
    · rename_i done
      rw [if_neg done]
      exact tail_carries carries small (by omega) (by omega) (by omega) body
        (fun _ => by simpa using done)
  · have body := splitElements_carry carries small (rest / 8) k lhs rhs s (by omega) (by omega) holds going
    split at body
    · rename_i returned
      rw [if_pos returned]
      exact body
    · rename_i returned
      rw [if_neg returned]
      exact tail_carries carries small (by omega) (by omega) (by omega) body.1 body.2

theorem applyBinop_carries {lhsOffset : Nat}
    (carries : f.Carries (8 * lhs + lhsOffset) (8 * rhs + rhsOffset) count invariant)
    (nonempty : 1 ≤ count) (holds : invariant 0 s) :
    invariant count (f.applyBinop lhs lhsOffset rhs rhsOffset count s) := by
  rw [← adjustBuffer_place lhs, ← adjustBuffer_place rhs] at carries
  have leftSmall := adjustBuffer_small lhs lhsOffset
  have rightSmall := adjustBuffer_small rhs rhsOffset
  rw [applyBinop]
  generalize adjustBuffer lhs lhsOffset = left at carries leftSmall ⊢
  generalize adjustBuffer rhs rhsOffset = right at carries rightSmall ⊢
  obtain ⟨lhs, lhsOffset⟩ := left
  obtain ⟨rhs, rhsOffset⟩ := right
  simp only at carries leftSmall rightSmall ⊢
  split
  · have step := carries.chunk 0 (min (8 - lhsOffset) count)
      (BitHandler.read f.leftMode s.1 lhs lhsOffset (min (8 - lhsOffset) count))
      (BitHandler.readSplit f.rightMode s.1 rhs rhsOffset (min (8 - lhsOffset) count)) s
      (by omega) (by omega) (by omega) holds (by omega)
      (fun reads => BitHandler.read_eq reads _ _ (by omega))
      (fun reads => BitHandler.readSplit_eq reads _ _ (by omega) (by omega) (by omega))
    rw [BinaryOp.chunk, Nat.add_zero, Nat.add_zero, ← BitHandler.write_eq_put _ _ (by omega),
      ← BitHandler.writeSplit_eq_put _ _ (by omega) (by omega)] at step
    split
    · rename_i done
      exact carries.stop _ _ (by omega) step done
    · rename_i done
      have place := adjustBuffer_place rhs (rhsOffset + min (8 - lhsOffset) count)
      have small := adjustBuffer_small rhs (rhsOffset + min (8 - lhsOffset) count)
      exact applyAligned_carries carries small (by omega) (by omega) step
        (fun _ => by simpa using done)
  · exact applyAligned_carries carries rightSmall (by omega) (Nat.zero_add count) holds (by omega)

end BinaryOp

end Redhawk.Bitops
