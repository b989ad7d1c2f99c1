import Redhawk.SharedMemory.Superblock

/-!
The shared memory heap: `Heap.cpp`, with its pools of superblocks, and `SuperblockFile.cpp`, from which
the superblocks come. A call of a pool is one step.
-/

namespace Redhawk.SharedMemory

open Redhawk.Library.FreeLists List Nat

/-- The answers when a file is to grow and be mapped: `posix_fallocate` returns 0, `ENOSPC` or another
status, or `mmap` fails. -/
inductive Growth where
  | grown | noSpace | refused | unmapped
deriving DecidableEq

structure Heap where
  fileSize : Nat
  canGrow : Bool
  superblockSize : Nat
  pools : Nat → List Superblock

/-- What `_createSuperblock` comes to; an exception other than `std::bad_alloc` is not caught. -/
inductive Creation where
  | null | raised
  | superblock (created : Superblock)

inductive Outcome where
  | null | raised | aborted
  | block (superblock : Superblock) (block : Block)

variable (page : PageSize)

def pageRoundUp (x : Nat) : Nat := (x + page.bytes - 1) % 2 ^ 64 / page.bytes * page.bytes

namespace Heap

def new (superblockSize : BitVec 64) : Heap :=
  { fileSize := page.bytes, canGrow := true, superblockSize := pageRoundUp page superblockSize.toNat,
    pools := fun _ => [] }

/-- `SuperblockFile::createSuperblock`, and what `_createSuperblock` makes of its exceptions. -/
def createInFile (growth : Growth) (bytes : Nat) (heap : Heap) : Creation × Heap × List Sum :=
  let total := (page.bytes + bytes) % 2 ^ 64
  let target := (heap.fileSize + total) % 2 ^ 64
  let sums := [⟨64, page.bytes + bytes⟩, ⟨64, heap.fileSize + total⟩]
  -- `resize` leaves a file that is large enough as it is
  if target ≤ heap.fileSize ∨ growth = .grown ∨ growth = .unmapped then
    let resized := { heap with fileSize := max heap.fileSize target }
    if growth = .unmapped then (.raised, resized, sums)
    else (.superblock (.new page heap.fileSize bytes), resized, sums ++ [⟨32, bytes⟩, ⟨32, bytes / 16⟩])
  else if growth = .noSpace then (.null, { heap with canGrow := false }, sums)
  else (.raised, heap, sums)

def createSuperblock (growth : Growth) (minSize : Nat) (heap : Heap) : Creation × Heap × List Sum :=
  if heap.canGrow then
    let least := (minSize + 64) * 2 % 2 ^ 64
    if least > heap.superblockSize then
      let (creation, heap, sums) := heap.createInFile page growth (pageRoundUp page least)
      (creation, heap, ⟨64, (minSize + 64) * 2⟩ :: ⟨64, least + page.bytes - 1⟩ :: sums)
    else
      let (creation, heap, sums) := heap.createInFile page growth heap.superblockSize
      (creation, heap, ⟨64, (minSize + 64) * 2⟩ :: sums)
  else (.null, heap, [])

/-- The loop of `Pool::allocate`: the superblocks that have no block for the request, what the first
one that has comes to, and the rest. -/
def firstFit (bytes : Nat) :
    List Superblock → Option (List Superblock × Allocation × List Superblock) × List Sum
  | [] => (none, [])
  | superblock :: rest =>
      match superblock.allocate page bytes with
      | (.null, sums) =>
          let (found, more) := firstFit bytes rest
          (found.map fun (front, allocation, back) => (superblock :: front, allocation, back), sums ++ more)
      | (allocation, sums) => (some ([], allocation, rest), sums)

def swapFirst (front : List Superblock) (superblock : Superblock) (back : List Superblock) :
    List Superblock :=
  match front with
  | [] => superblock :: back
  | first :: middle => superblock :: (middle ++ first :: back)

def setPool (heap : Heap) (pool : Nat) (superblocks : List Superblock) : Heap :=
  { heap with pools := Function.update heap.pools pool superblocks }

def allocate (growth : Growth) (pool bytes : Nat) (heap : Heap) : Outcome × Heap × List Sum :=
  match firstFit page bytes (heap.pools pool) with
  | (some (front, .block after block, back), sums) =>
      (.block after block, heap.setPool pool (swapFirst front after back), sums)
  | (some _, sums) => (.aborted, heap, sums)
  | (none, sums) =>
      match heap.createSuperblock page growth bytes with
      | (.null, heap, more) => (.null, heap, sums ++ more)
      | (.raised, heap, more) => (.raised, heap, sums ++ more)
      | (.superblock created, heap, more) =>
          match created.allocate page bytes with
          | (.null, last) =>
              (.null, heap.setPool pool (created :: heap.pools pool), sums ++ more ++ last)
          | (.aborted, last) =>
              (.aborted, heap.setPool pool (created :: heap.pools pool), sums ++ more ++ last)
          | (.block after block, last) =>
              (.block after block, heap.setPool pool (after :: heap.pools pool), sums ++ more ++ last)

def deallocate (pool index offset : Nat) (heap : Heap) : Option Heap := do
  let superblock ← (heap.pools pool)[index]?
  let after ← superblock.deallocate page offset
  return heap.setPool pool ((heap.pools pool).set index after)

end Heap

/-- `_mapSuperblock`: the bytes that another process maps. -/
def mapSuperblock (superblock : Superblock) : Nat := page.bytes + superblock.size

inductive Event where
  | allocate (pool : Nat) (bytes : BitVec 64) (growth : Growth)
  | deallocate (pool index offset : Nat)

namespace Heap

/-- An allocation is as it should be: no sum wraps, and a block that is returned has room for the
request, lies in the region of its superblock, and is mapped with all of it by other processes;
where none is, the superblocks are as they were. -/
def Right (heap : Heap) (bytes : Nat) : Outcome × Heap × List Sum → Prop
  | (outcome, after, sums) => (∀ sum ∈ sums, sum.value < 2 ^ sum.width) ∧
      match outcome with
      | .block superblock block => block ∈ superblock.blocks ∧ bytes ≤ 16 * block.size - 16 ∧
          page.bytes ≤ 16 * block.offset ∧
          16 * (block.offset + block.size) ≤ page.bytes + superblock.region ∧
          superblock.size = superblock.region ∧
          mapSuperblock page superblock = page.bytes + superblock.region
      | .null | .raised => after.pools = heap.pools
      | .aborted => False

def AllRight : List Event → Heap → Prop
  | [], _ => True
  | .allocate pool bytes growth :: events, heap =>
      heap.Right page bytes.toNat (heap.allocate page growth pool bytes.toNat) ∧
        AllRight events (heap.allocate page growth pool bytes.toNat).2.1
  | .deallocate pool index offset :: events, heap =>
      ∀ after, heap.deallocate page pool index offset = some after → AllRight events after

def newSize (bytes : Nat) (heap : Heap) : Nat :=
  if heap.superblockSize < (bytes + 64) * 2 then
    ((bytes + 64) * 2 + page.bytes - 1) / page.bytes * page.bytes
  else heap.superblockSize

/-- A request that leaves 47 bytes to 2^64, if the pool has superblocks, and, if none of them has a
block for it and the heap may grow, one whose superblock leaves the file below 2^64 and is, if it is
granted, below 2^32. -/
def Modest (heap : Heap) (pool bytes : Nat) (growth : Growth) : Prop :=
  (heap.pools pool ≠ [] → bytes + 47 < 2 ^ 64) ∧
    (heap.canGrow → (∀ superblock ∈ heap.pools pool, ∀ block ∈ superblock.blocks, block.free →
        block.size < Superblock.blocksFor bytes) →
      heap.fileSize + (page.bytes + heap.newSize page bytes) < 2 ^ 64 ∧
        (growth = .grown → heap.newSize page bytes < 2 ^ 32))

def AllModest : List Event → Heap → Prop
  | [], _ => True
  | .allocate pool bytes growth :: events, heap => heap.Modest page pool bytes.toNat growth ∧
      AllModest events (heap.allocate page growth pool bytes.toNat).2.1
  | .deallocate pool index offset :: events, heap =>
      ∀ after, heap.deallocate page pool index offset = some after → AllModest events after

/-- Every superblock of a pool is well formed, and the size of new ones is a number of pages. -/
structure WellFormed (heap : Heap) : Prop where
  superblocks : ∀ pool, ∀ superblock ∈ heap.pools pool, superblock.WellFormed page
  whole : page.bytes ∣ heap.superblockSize

variable {page} {heap : Heap} {bytes : Nat}

theorem new_wellFormed (superblockSize : BitVec 64) : (new page superblockSize).WellFormed page :=
  ⟨fun _ => nofun, Nat.dvd_mul_left ..⟩

theorem WellFormed.setPool (wellFormed : heap.WellFormed page) {pool : Nat}
    {superblocks : List Superblock} (each : ∀ superblock ∈ superblocks, superblock.WellFormed page) :
    (heap.setPool pool superblocks).WellFormed page := by
  refine ⟨fun other superblock member => ?_, wellFormed.whole⟩
  have member : superblock ∈ Function.update heap.pools pool superblocks other := member
  by_cases same : other = pool
  · subst same
    rw [Function.update_self] at member
    exact each superblock member
  · rw [Function.update_of_ne same] at member
    exact wellFormed.superblocks other superblock member

theorem WellFormed.deallocate (wellFormed : heap.WellFormed page) {pool index offset : Nat}
    {after : Heap} (releases : heap.deallocate page pool index offset = some after) :
    after.WellFormed page := by
  obtain ⟨superblock, found, rest⟩ := Option.bind_eq_some_iff.mp releases
  obtain ⟨released, frees, same⟩ := Option.bind_eq_some_iff.mp rest
  cases same
  have before := wellFormed.superblocks pool superblock (mem_of_getElem? found)
  refine wellFormed.setPool fun other member => ?_
  rcases mem_or_eq_of_mem_set member with old | rfl
  · exact wellFormed.superblocks pool other old
  · exact before.deallocate frees

theorem swapFirst_perm (front back : List Superblock) (superblock : Superblock) :
    (swapFirst front superblock back).Perm (front ++ superblock :: back) := by
  cases front with
  | nil => exact .refl _
  | cons first middle =>
      have moved : (middle ++ first :: back).Perm (first :: (middle ++ back)) := perm_middle
      refine (moved.cons superblock).trans ((Perm.swap ..).trans (.cons first ?_))
      exact perm_middle.symm

def Fit (sums : List Sum) : Prop := ∀ sum ∈ sums, sum.value < 2 ^ sum.width

theorem fit_append {first second : List Sum} : Fit (first ++ second) ↔ Fit first ∧ Fit second :=
  forall_mem_append

theorem fit_cons {sum : Sum} {sums : List Sum} :
    Fit (sum :: sums) ↔ sum.value < 2 ^ sum.width ∧ Fit sums := forall_mem_cons

def Provides (superblocks : List Superblock) (bytes : Nat) : Prop :=
  ∃ superblock ∈ superblocks, ∃ block ∈ superblock.blocks, block.free ∧ Superblock.blocksFor bytes ≤ block.size

theorem not_provides_iff {superblocks : List Superblock} : ¬Provides superblocks bytes ↔
    ∀ superblock ∈ superblocks, ∀ block ∈ superblock.blocks, block.free →
      block.size < Superblock.blocksFor bytes := by
  simp [Provides]

theorem firstFit_spec {superblocks : List Superblock}
    (each : ∀ superblock ∈ superblocks, superblock.WellFormed page) (small : bytes + 47 < 2 ^ 64) :
    Fit (firstFit page bytes superblocks).2 ∧
      ((firstFit page bytes superblocks).1 = none ∧ ¬Provides superblocks bytes ∨
        ∃ front after block back, (firstFit page bytes superblocks).1 = some (front, .block after block, back) ∧
          (∀ superblock ∈ front ++ after :: back, superblock.WellFormed page) ∧
          after.WellFormed page ∧ block ∈ after.blocks ∧ bytes + 16 ≤ 16 * block.size ∧
          Provides superblocks bytes) := by
  induction superblocks with
  | nil =>
      refine ⟨nofun, .inl ⟨rfl, ?_⟩⟩
      rintro ⟨_, member, _⟩
      cases member
  | cons superblock rest ih =>
      obtain ⟨head, tail⟩ := forall_mem_cons.mp each
      obtain ⟨fit, answer⟩ := head.allocate_spec small
      generalize outcome : superblock.allocate page bytes = result at fit answer
      obtain ⟨allocation, sums⟩ := result
      rw [firstFit, outcome]
      rcases answer with ⟨same, none⟩ | ⟨after, block, same, kept, -, member, room, own, listed, free, large⟩
      · obtain rfl : allocation = .null := same
        obtain ⟨more, later⟩ := ih tail
        refine ⟨fit_append.mpr ⟨fit, more⟩, ?_⟩
        rcases later with ⟨last, lack⟩ | ⟨front, after, block, back, found, all, kept, member, room, have'⟩
        · refine .inl ⟨by simp [last], ?_⟩
          rw [not_provides_iff] at lack ⊢
          exact forall_mem_cons.mpr ⟨none, lack⟩
        · refine .inr ⟨superblock :: front, after, block, back, by simp [found], ?_,
            kept, member, room, ?_⟩
          · exact forall_mem_cons.mpr ⟨head, all⟩
          · obtain ⟨other, listed, rest⟩ := have'
            exact ⟨other, mem_cons_of_mem _ listed, rest⟩
      · obtain rfl : allocation = .block after block := same
        refine ⟨fit, .inr ⟨[], after, block, rest, rfl, forall_mem_cons.mpr ⟨kept, tail⟩, kept, member,
          room, superblock, mem_cons_self .., own, listed, free, large⟩⟩

structure Creates (page : PageSize) (heap : Heap) (size : Nat) (result : Creation × Heap × List Sum) :
    Prop where
  fit : Fit result.2.2
  pools : result.2.1.pools = heap.pools
  superblockSize : result.2.1.superblockSize = heap.superblockSize
  creation : result.1 = .null ∨ result.1 = .raised ∨
    result.1 = .superblock (.new page heap.fileSize size) ∧ size < 2 ^ 32

section Creation

variable {growth : Growth} {size : Nat}

theorem createInFile_spec (straight : heap.fileSize + (page.bytes + size) < 2 ^ 64)
    (granted : growth = .grown → size < 2 ^ 32) :
    Creates page heap size (heap.createInFile page growth size) := by
  have positive := page.positive
  have total : (page.bytes + size) % 2 ^ 64 = page.bytes + size := mod_eq_of_lt (by omega)
  have target := mod_eq_of_lt straight
  have further : ¬heap.fileSize + (page.bytes + size) ≤ heap.fileSize := by omega
  have sums : Fit [⟨64, page.bytes + size⟩, ⟨64, heap.fileSize + (page.bytes + size)⟩] := by
    refine fit_cons.mpr ⟨?_, fit_cons.mpr ⟨straight, nofun⟩⟩
    show page.bytes + size < 2 ^ 64
    omega
  rw [createInFile]
  simp only [total, target, further, false_or]
  cases growth with
  | grown =>
      have small := granted rfl
      refine ⟨fit_append.mpr ⟨sums, fit_cons.mpr ⟨small, fit_cons.mpr ⟨?_, nofun⟩⟩⟩, rfl, rfl,
        .inr (.inr ⟨rfl, small⟩)⟩
      show size / 16 < 2 ^ 32
      omega
  | noSpace => exact ⟨sums, rfl, rfl, .inl rfl⟩
  | refused => exact ⟨sums, rfl, rfl, .inr (.inl rfl)⟩
  | unmapped => exact ⟨sums, rfl, rfl, .inr (.inl rfl)⟩

theorem createInFile_fit (fit : Fit (heap.createInFile page growth size).2.2) :
    heap.fileSize + (page.bytes + size) < 2 ^ 64 ∧ (growth = .grown → size < 2 ^ 32) := by
  have both : (⟨64, page.bytes + size⟩ : Sum) ∈ (heap.createInFile page growth size).2.2 ∧
      ⟨64, heap.fileSize + (page.bytes + size) % 2 ^ 64⟩ ∈
        (heap.createInFile page growth size).2.2 := by
    rw [createInFile]
    split
    · split <;> simp
    · split <;> simp
  have first : page.bytes + size < 2 ^ 64 := fit _ both.1
  have second : heap.fileSize + (page.bytes + size) % 2 ^ 64 < 2 ^ 64 := fit _ both.2
  rw [mod_eq_of_lt first] at second
  refine ⟨second, fun granted => ?_⟩
  subst granted
  exact fit ⟨32, size⟩ (by simp [createInFile])

theorem le_roundUp (x : Nat) : x ≤ (x + page.bytes - 1) / page.bytes * page.bytes := by
  have positive := page.positive
  have parts := div_add_mod' (x + page.bytes - 1) page.bytes
  have small := mod_lt (x + page.bytes - 1) positive
  omega

theorem pageRoundUp_eq {x : Nat} (small : x + page.bytes - 1 < 2 ^ 64) :
    pageRoundUp page x = (x + page.bytes - 1) / page.bytes * page.bytes := by
  rw [pageRoundUp, mod_eq_of_lt small]

theorem newSize_spec (wellFormed : heap.WellFormed page) :
    (bytes + 64) * 2 ≤ heap.newSize page bytes ∧ heap.newSize page bytes % 16 = 0 := by
  have pages : page.bytes ∣ heap.newSize page bytes := by
    rw [newSize]
    split
    · exact Nat.dvd_mul_left ..
    · exact wellFormed.whole
  have rounded := @le_roundUp page ((bytes + 64) * 2)
  refine ⟨?_, mod_eq_zero_of_dvd (Nat.dvd_trans (dvd_of_mod_eq_zero page.aligned) pages)⟩
  rw [newSize]
  split
  · exact rounded
  · omega

theorem createSuperblock_spec (grows : heap.canGrow = true)
    (straight : heap.fileSize + (page.bytes + heap.newSize page bytes) < 2 ^ 64)
    (granted : growth = .grown → heap.newSize page bytes < 2 ^ 32) :
    Creates page heap (heap.newSize page bytes) (heap.createSuperblock page growth bytes) := by
  rw [createSuperblock, if_pos grows]
  by_cases larger : heap.superblockSize < (bytes + 64) * 2
  · have size : heap.newSize page bytes =
        ((bytes + 64) * 2 + page.bytes - 1) / page.bytes * page.bytes := by rw [newSize, if_pos larger]
    have rounded := @le_roundUp page ((bytes + 64) * 2)
    rw [size] at straight granted ⊢
    have least : (bytes + 64) * 2 % 2 ^ 64 = (bytes + 64) * 2 := mod_eq_of_lt (by omega)
    have sum : (bytes + 64) * 2 + page.bytes - 1 < 2 ^ 64 := by omega
    rw [least, if_pos larger, pageRoundUp_eq sum]
    obtain ⟨fit, pools, same, creation⟩ := createInFile_spec straight granted
    refine ⟨fit_cons.mpr ⟨?_, fit_cons.mpr ⟨sum, fit⟩⟩, pools, same, creation⟩
    show (bytes + 64) * 2 < 2 ^ 64
    omega
  · have size : heap.newSize page bytes = heap.superblockSize := by rw [newSize, if_neg larger]
    rw [size] at straight granted ⊢
    have least : (bytes + 64) * 2 % 2 ^ 64 = (bytes + 64) * 2 := mod_eq_of_lt (by omega)
    rw [least, if_neg larger]
    obtain ⟨fit, pools, same, creation⟩ := createInFile_spec straight granted
    refine ⟨fit_cons.mpr ⟨?_, fit⟩, pools, same, creation⟩
    show (bytes + 64) * 2 < 2 ^ 64
    omega

theorem createSuperblock_fit (grows : heap.canGrow = true)
    (fit : Fit (heap.createSuperblock page growth bytes).2.2) :
    heap.fileSize + (page.bytes + heap.newSize page bytes) < 2 ^ 64 ∧
      (growth = .grown → heap.newSize page bytes < 2 ^ 32) := by
  rw [createSuperblock, if_pos grows] at fit
  dsimp only at fit
  split at fit
  · rename_i larger
    obtain ⟨first, rest⟩ := fit_cons.mp fit
    obtain ⟨second, rest⟩ := fit_cons.mp rest
    have least : (bytes + 64) * 2 % 2 ^ 64 = (bytes + 64) * 2 := mod_eq_of_lt first
    rw [least] at larger second rest
    rw [pageRoundUp_eq second] at rest
    rw [newSize, if_pos larger]
    exact createInFile_fit rest
  · rename_i enough
    obtain ⟨first, rest⟩ := fit_cons.mp fit
    have least : (bytes + 64) * 2 % 2 ^ 64 = (bytes + 64) * 2 := mod_eq_of_lt first
    rw [least] at enough
    rw [newSize, if_neg enough]
    exact createInFile_fit rest

end Creation

section Step

variable {growth : Growth} {pool : Nat}

theorem right_block {superblock : Superblock} {block : Block} {after : Heap} {sums : List Sum}
    (fit : Fit sums) (wellFormed : superblock.WellFormed page) (member : block ∈ superblock.blocks)
    (room : bytes + 16 ≤ 16 * block.size) :
    heap.Right page bytes (.block superblock block, after, sums) := by
  have bounds := wellFormed.tiles.inside member
  have pageAligned := page.aligned
  refine ⟨fit, member, by omega, by omega, by omega, wellFormed.recorded, ?_⟩
  rw [mapSuperblock, wellFormed.recorded]

theorem firstFit_fit {superblocks : List Superblock} (some : superblocks ≠ [])
    (fit : Fit (firstFit page bytes superblocks).2) : bytes + 47 < 2 ^ 64 := by
  obtain ⟨superblock, rest, rfl⟩ := exists_cons_of_ne_nil some
  have own : ∀ sum ∈ (superblock.allocate page bytes).2, sum ∈ (firstFit page bytes (superblock :: rest)).2 := by
    intro sum member
    rw [firstFit]
    split
    · rename_i sums null
      rw [null] at member
      exact mem_append_left _ member
    · rename_i allocation sums other outcome
      rw [outcome] at member
      exact member
  obtain ⟨header, rounded⟩ := @Superblock.sums_allocate page superblock bytes
  have first : bytes + 16 < 2 ^ 64 := fit _ (own _ header)
  have second : max ((bytes + 16) % 2 ^ 64) 32 + 31 < 2 ^ 64 := fit _ (own _ rounded)
  omega

theorem allocate_fit (fit : Fit (heap.allocate page growth pool bytes).2.2) :
    Fit (firstFit page bytes (heap.pools pool)).2 ∧
      ((firstFit page bytes (heap.pools pool)).1 = none → Fit (heap.createSuperblock page growth bytes).2.2) := by
  rw [allocate] at fit
  split at fit
  · rename_i found
    rw [found]
    exact ⟨fit, nofun⟩
  · rename_i found
    rw [found]
    exact ⟨fit, nofun⟩
  · rename_i sums found
    rw [found]
    split at fit
    · rename_i created
      rw [created]
      exact (fit_append.mp fit).imp_right fun more _ => more
    · rename_i created
      rw [created]
      exact (fit_append.mp fit).imp_right fun more _ => more
    · rename_i created
      rw [created]
      split at fit
      · exact (fit_append.mp (fit_append.mp fit).1).imp_right fun more _ => more
      · exact (fit_append.mp (fit_append.mp fit).1).imp_right fun more _ => more
      · exact (fit_append.mp (fit_append.mp fit).1).imp_right fun more _ => more

section

variable (wellFormed : heap.WellFormed page)

include wellFormed

theorem firstFit_cases (small : heap.pools pool ≠ [] → bytes + 47 < 2 ^ 64) :
    Fit (firstFit page bytes (heap.pools pool)).2 ∧
      ((firstFit page bytes (heap.pools pool)).1 = none ∧ ¬Provides (heap.pools pool) bytes ∨
        ∃ front after block back,
          (firstFit page bytes (heap.pools pool)).1 = some (front, .block after block, back) ∧
          (∀ superblock ∈ front ++ after :: back, superblock.WellFormed page) ∧
          after.WellFormed page ∧ block ∈ after.blocks ∧ bytes + 16 ≤ 16 * block.size ∧
          Provides (heap.pools pool) bytes) := by
  by_cases empty : heap.pools pool = []
  · rw [empty]
    refine ⟨nofun, .inl ⟨rfl, ?_⟩⟩
    rintro ⟨_, member, _⟩
    cases member
  · exact firstFit_spec (wellFormed.superblocks pool) (small empty)

theorem modest_of_fit
    (fit : Fit (heap.allocate page growth pool bytes).2.2) : heap.Modest page pool bytes growth := by
  obtain ⟨own, more⟩ := allocate_fit fit
  have small (some : heap.pools pool ≠ []) := firstFit_fit some own
  refine ⟨small, fun grows none => ?_⟩
  obtain ⟨-, answer⟩ := firstFit_cases wellFormed small
  rcases answer with ⟨last, -⟩ | ⟨_, _, _, _, _, _, _, _, _, provides⟩
  · exact createSuperblock_fit grows (more last)
  · exact absurd provides (not_provides_iff.mpr none)

theorem new_allocate {offset : Nat}
    (small : heap.newSize page bytes < 2 ^ 32) : ∃ after block,
    ((Superblock.new page offset (heap.newSize page bytes)).allocate page bytes).1 = .block after block ∧
      Fit ((Superblock.new page offset (heap.newSize page bytes)).allocate page bytes).2 ∧
      after.WellFormed page ∧ block ∈ after.blocks ∧ bytes + 16 ≤ 16 * block.size := by
  obtain ⟨room, aligned⟩ := @newSize_spec page heap bytes wellFormed
  have fresh : (Superblock.new page offset (heap.newSize page bytes)).WellFormed page :=
    Superblock.new_wellFormed (by omega) small aligned
  obtain ⟨fit, answer⟩ := fresh.allocate_spec (by omega : bytes + 47 < 2 ^ 64)
  rcases answer with ⟨-, none⟩ | ⟨after, block, same, kept, -, member, large, -⟩
  · have lack := none _ (mem_singleton.mpr rfl) rfl
    rw [Superblock.blocksFor] at lack
    dsimp only at lack
    omega
  · exact ⟨after, block, same, fit, kept, member, large⟩

theorem right_of_modest (modest : heap.Modest page pool bytes growth) :
    heap.Right page bytes (heap.allocate page growth pool bytes) ∧
      (heap.allocate page growth pool bytes).2.1.WellFormed page := by
  obtain ⟨small, room⟩ := modest
  obtain ⟨fit, answer⟩ := firstFit_cases wellFormed small
  rw [allocate]
  generalize firstFit page bytes (heap.pools pool) = found at fit answer
  obtain ⟨result, sums⟩ := found
  rcases answer with ⟨last, lack⟩ | ⟨front, after, block, back, same, all, kept, member, large, -⟩
  · obtain rfl : result = none := last
    have lack := not_provides_iff.mp lack
    cases grows : heap.canGrow with
    | false =>
        have created : heap.createSuperblock page growth bytes = (.null, heap, []) := by
          rw [createSuperblock, if_neg (by rw [grows]; exact Bool.false_ne_true)]
        simp only [created]
        exact ⟨⟨fit_append.mpr ⟨fit, nofun⟩, rfl⟩, wellFormed⟩
    | true =>
        obtain ⟨straight, granted⟩ := room grows lack
        obtain ⟨more, pools, size, creation⟩ := createSuperblock_spec grows straight granted
        generalize heap.createSuperblock page growth bytes = made at more pools size creation
        obtain ⟨created, grown, others⟩ := made
        have grownFormed : grown.WellFormed page :=
          ⟨fun pool => by rw [pools]; exact wellFormed.superblocks pool,
            by rw [size]; exact wellFormed.whole⟩
        rcases creation with null | raised | ⟨superblock, granted⟩
        · obtain rfl : created = .null := null
          exact ⟨⟨fit_append.mpr ⟨fit, more⟩, pools⟩, grownFormed⟩
        · obtain rfl : created = .raised := raised
          exact ⟨⟨fit_append.mpr ⟨fit, more⟩, pools⟩, grownFormed⟩
        · obtain rfl : created = .superblock _ := superblock
          obtain ⟨after, block, same, last, kept, member, large⟩ :=
            @new_allocate page heap bytes wellFormed heap.fileSize granted
          generalize outcome : (Superblock.new page heap.fileSize (heap.newSize page bytes)).allocate
            page bytes = met at same last
          obtain ⟨allocation, final⟩ := met
          obtain rfl : allocation = .block after block := same
          simp only [outcome]
          refine ⟨right_block (fit_append.mpr ⟨fit_append.mpr ⟨fit, more⟩, last⟩) kept member large, ?_⟩
          exact grownFormed.setPool (forall_mem_cons.mpr ⟨kept, grownFormed.superblocks pool⟩)
  · obtain rfl : result = some (front, .block after block, back) := same
    refine ⟨right_block fit kept member large, wellFormed.setPool fun other listed => ?_⟩
    exact all other ((swapFirst_perm front back after).mem_iff.mp listed)

end

end Step

end Heap

/-- From an empty heap on, every allocation is as it should be just where every request is modest. -/
theorem allocations_right_iff (page : PageSize) (superblockSize : BitVec 64) (events : List Event) :
    Heap.AllRight page events (.new page superblockSize) ↔
      Heap.AllModest page events (.new page superblockSize) := by
  have start := @Heap.new_wellFormed page superblockSize
  generalize Heap.new page superblockSize = heap at start
  induction events generalizing heap with
  | nil => exact Iff.rfl
  | cons event events ih =>
      cases event with
      | allocate pool bytes growth =>
          constructor
          · rintro ⟨right, rest⟩
            have modest := Heap.modest_of_fit start right.1
            exact ⟨modest, (ih _ (Heap.right_of_modest start modest).2).mp rest⟩
          · rintro ⟨modest, rest⟩
            obtain ⟨right, kept⟩ := Heap.right_of_modest start modest
            exact ⟨right, (ih _ kept).mpr rest⟩
      | deallocate pool index offset =>
          exact forall_congr' fun after => imp_congr_right fun releases =>
            ih _ (start.deallocate releases)

def smallPage : PageSize := ⟨4096, by decide, by decide, by decide⟩

/-- A request of 2^31 bytes gets a superblock whose size is not recorded whole, and one of 2^64 - 16
bytes a block of any superblock there is. -/
theorem requests_wrapped :
    ¬Heap.AllRight smallPage [.allocate 0 0x80000000 .grown] (.new smallPage 2097152) ∧
      ¬Heap.AllRight smallPage [.allocate 0 100 .grown, .allocate 0 0xfffffffffffffff0 .grown]
        (.new smallPage 2097152) := by
  constructor
  · rintro ⟨right, -⟩
    exact absurd (right.1 ⟨32, 0x100001000⟩ (by decide +kernel)) (by decide)
  · rintro ⟨-, right, -⟩
    exact absurd (right.1 ⟨64, 0x10000000000000000⟩ (by decide +kernel)) (by decide)

end Redhawk.SharedMemory
