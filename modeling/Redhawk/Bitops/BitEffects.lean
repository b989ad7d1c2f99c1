import Redhawk.Bitops.BitGetters

/-!
The bytes that each operation on bits reads and writes and the 64-bit shifts that it makes, in the
order of the source, and what it does with a range of no bits.
-/

namespace Redhawk.Bitops

open Redhawk.Library

/-- The arrays of an operation: its bit arrays, and the array of whole bytes that `pack`, `unpack`
and `toString` have besides. -/
inductive Operand where
  | left
  | right
  | bytes
deriving DecidableEq, Repr

inductive Effect where
  | read (array : Operand) (address : Nat)
  | write (array : Operand) (address : Nat)
  | shift (bits : Nat)
deriving DecidableEq, Repr

def readsOf (array : Operand) (address count : Nat) : List Effect :=
  (List.range count).map fun i => .read array (address + i)

def writesOf (array : Operand) (address count : Nat) : List Effect :=
  (List.range count).map fun i => .write array (address + i)

namespace BitHandler

variable (mode : Mode) (array : Operand)

def readEffects (src : Nat) : List Effect :=
  if mode.reads then [.read array src] else []

def readSplitByteEffects (src : Nat) : List Effect :=
  if mode.reads then [.read array src, .read array (src + 1)] else []

def readSplitEffects (src offset bits : Nat) : List Effect :=
  if mode.reads then [.read array src, .read array (src + BitReader.lastBit offset bits / 8)] else []

def writeEffects (dest : Nat) : List Effect :=
  if mode.writes then [.read array dest, .write array dest] else []

def writeSplitByteEffects (dest : Nat) : List Effect :=
  writeEffects mode array dest ++ writeEffects mode array (dest + 1)

def writeSplitEffects (dest offset bits : Nat) : List Effect :=
  writeEffects mode array dest ++
    if bits > min (8 - offset) bits then writeEffects mode array (dest + 1) else []

def byteEffects (address : Nat) : List Effect :=
  (if mode.reads then [.read array address] else []) ++
    if mode.writes then [.write array address] else []

end BitHandler

variable {σ : Type}

/-- A unary functor with what its `operator()`s do beyond the bits they are given. -/
structure UnaryEffects (σ : Type) where
  functor : UnaryOp σ
  op : σ → Nat → List Effect
  array : σ → Nat → Nat → List Effect
  none : ∀ s data, array s data 0 = []

namespace UnaryEffects

open BitHandler

def elements (e : UnaryEffects σ) : Nat → Nat → Memory × σ → List Effect
  | 0, _, _ => []
  | bytes + 1, data, s =>
    byteEffects e.functor.mode .left data ++ e.op s.2 8 ++
      e.elements bytes (data + 1)
        (e.functor.apply (s.1 data) 8 (fun v m => assign e.functor.mode v m data) s)

def body (e : UnaryEffects σ) (data bytes : Nat) (s : Memory × σ) : List Effect :=
  match e.functor.arrayOp with
  | .none => e.elements bytes data s
  | some _ => e.array s.2 data bytes

def applyAligned (e : UnaryEffects σ) (data count : Nat) (s : Memory × σ) : List Effect :=
  let bytes := count / 8
  let later := e.functor.body data bytes s
  let remain := count % 8
  e.body data bytes s ++
    if e.functor.complete later.2 then []
    else if remain ≠ 0 then
      readEffects e.functor.mode .left (data + bytes) ++ e.op later.2 remain ++
        writeEffects e.functor.mode .left (data + bytes)
    else []

def applyUnary (e : UnaryEffects σ) (data offset count : Nat) (s : Memory × σ) : List Effect :=
  let adjusted := adjustBuffer data offset
  let data := adjusted.1
  let offset := adjusted.2
  if offset ≠ 0 then
    let nbits := min (8 - offset) count
    let later := e.functor.apply (BitHandler.read e.functor.mode s.1 data offset nbits) nbits
      (fun v m => BitHandler.write e.functor.mode v m data offset nbits) s
    readEffects e.functor.mode .left data ++ e.op s.2 nbits ++ writeEffects e.functor.mode .left data ++
      if e.functor.complete later.2 then []
      else e.applyAligned (data + 1) (count - nbits) later
  else e.applyAligned data count s

end UnaryEffects

/-- A binary functor; none has an `operator()` on single values that does more than compute. -/
structure BinaryEffects (σ : Type) where
  functor : BinaryOp σ
  array : Nat → Nat → Nat → List Effect
  none : ∀ lhs rhs, array lhs rhs 0 = []

namespace BinaryEffects

open BitHandler

def alignedElements (e : BinaryEffects σ) : Nat → Nat → Nat → Memory × σ → List Effect
  | 0, _, _, _ => []
  | bytes + 1, lhs, rhs, s =>
    let later := e.functor.apply (s.1 lhs) (s.1 rhs) 8
      (fun v m => assign e.functor.leftMode v m lhs)
      (fun v m => assign e.functor.rightMode v m rhs) s
    byteEffects e.functor.leftMode .left lhs ++ byteEffects e.functor.rightMode .right rhs ++
      if e.functor.complete later.2 then []
      else e.alignedElements bytes (lhs + 1) (rhs + 1) later

def alignedBody (e : BinaryEffects σ) (lhs rhs bytes : Nat) (s : Memory × σ) : List Effect :=
  match e.functor.arrayOp with
  | .none => e.alignedElements bytes lhs rhs s
  | some _ => e.array lhs rhs bytes

def splitElements (e : BinaryEffects σ) (rhsOffset : Nat) :
    Nat → Nat → Nat → Memory × σ → List Effect
  | 0, _, _, _ => []
  | bytes + 1, lhs, rhs, s =>
    let later := e.functor.apply (s.1 lhs) (readSplitByte e.functor.rightMode s.1 rhs rhsOffset) 8
      (fun v m => assign e.functor.leftMode v m lhs)
      (fun v m => writeSplitByte e.functor.rightMode v m rhs rhsOffset) s
    readSplitByteEffects e.functor.rightMode .right rhs ++ byteEffects e.functor.leftMode .left lhs ++
      writeSplitByteEffects e.functor.rightMode .right rhs ++
      if e.functor.complete later.2 then []
      else e.splitElements rhsOffset bytes (lhs + 1) (rhs + 1) later

def tail (e : BinaryEffects σ) (lhs rhs rhsOffset remain : Nat) : List Effect :=
  if remain ≠ 0 then
    readEffects e.functor.leftMode .left lhs ++
      readSplitEffects e.functor.rightMode .right rhs rhsOffset remain ++
      writeEffects e.functor.leftMode .left lhs ++
      writeSplitEffects e.functor.rightMode .right rhs rhsOffset remain
  else []

def applyAligned (e : BinaryEffects σ) (lhs rhs rhsOffset count : Nat) (s : Memory × σ) : List Effect :=
  let bytes := count / 8
  let remain := count % 8
  if rhsOffset = 0 then
    e.alignedBody lhs rhs bytes s ++
      if e.functor.complete (e.functor.alignedBody lhs rhs bytes s).2 then []
      else e.tail (lhs + bytes) (rhs + bytes) rhsOffset remain
  else
    e.splitElements rhsOffset bytes lhs rhs s ++
      if (e.functor.splitElements rhsOffset bytes lhs rhs s).1 then []
      else e.tail (lhs + bytes) (rhs + bytes) rhsOffset remain

def applyBinop (e : BinaryEffects σ) (lhs lhsOffset rhs rhsOffset count : Nat) (s : Memory × σ) :
    List Effect :=
  let left := adjustBuffer lhs lhsOffset
  let lhs := left.1
  let lhsOffset := left.2
  let right := adjustBuffer rhs rhsOffset
  let rhs := right.1
  let rhsOffset := right.2
  if lhsOffset ≠ 0 then
    let nbits := min (8 - lhsOffset) count
    let later := e.functor.apply (BitHandler.read e.functor.leftMode s.1 lhs lhsOffset nbits)
      (readSplit e.functor.rightMode s.1 rhs rhsOffset nbits) nbits
      (fun v m => BitHandler.write e.functor.leftMode v m lhs lhsOffset nbits)
      (fun v m => writeSplit e.functor.rightMode v m rhs rhsOffset nbits) s
    readEffects e.functor.leftMode .left lhs ++ readSplitEffects e.functor.rightMode .right rhs rhsOffset nbits ++
      writeEffects e.functor.leftMode .left lhs ++
      writeSplitEffects e.functor.rightMode .right rhs rhsOffset nbits ++
      if e.functor.complete later.2 then []
      else
        let right := adjustBuffer rhs (rhsOffset + nbits)
        e.applyAligned (lhs + 1) right.1 right.2 (count - nbits) later
  else e.applyAligned lhs rhs rhsOffset count s

end BinaryEffects

section NoBits

namespace UnaryEffects

variable {σ : Type} (e : UnaryEffects σ)

theorem applyAligned_none (data : Nat) (s : Memory × σ) : e.applyAligned data 0 s = [] := by
  have body : e.body data 0 s = [] := by
    rw [UnaryEffects.body]
    split
    · rfl
    · exact e.none s.2 data
  simp [applyAligned, body]

theorem applyUnary_none (data offset : Nat) (s : Memory × σ) :
    e.applyUnary data offset 0 s = if offset % 8 = 0 then [] else
      BitHandler.readEffects e.functor.mode .left (data + offset / 8) ++ e.op s.2 0 ++
        BitHandler.writeEffects e.functor.mode .left (data + offset / 8) := by
  simp [applyUnary, adjustBuffer, applyAligned_none]

end UnaryEffects

namespace BinaryEffects

variable {σ : Type} (e : BinaryEffects σ)

theorem applyAligned_none (lhs rhs rhsOffset : Nat) (s : Memory × σ) :
    e.applyAligned lhs rhs rhsOffset 0 s = [] := by
  have body : e.alignedBody lhs rhs 0 s = [] := by
    rw [alignedBody]
    split
    · rfl
    · exact e.none lhs rhs
  simp [applyAligned, body, splitElements, tail]

theorem applyBinop_none (lhs lhsOffset rhs rhsOffset : Nat) (s : Memory × σ) :
    e.applyBinop lhs lhsOffset rhs rhsOffset 0 s = if lhsOffset % 8 = 0 then [] else
      BitHandler.readEffects e.functor.leftMode .left (lhs + lhsOffset / 8) ++
        BitHandler.readSplitEffects e.functor.rightMode .right (rhs + rhsOffset / 8) (rhsOffset % 8)
          0 ++
        BitHandler.writeEffects e.functor.leftMode .left (lhs + lhsOffset / 8) ++
        BitHandler.writeEffects e.functor.rightMode .right (rhs + rhsOffset / 8) := by
  simp [applyBinop, adjustBuffer, applyAligned_none, BitHandler.writeSplitEffects]

end BinaryEffects

end NoBits

end Redhawk.Bitops
