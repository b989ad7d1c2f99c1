import Mathlib.Algebra.Ring.Nat
import Redhawk.Library.FreeLists

/-!
The superblocks of the shared memory heap: `Block.h` and `Superblock.cpp`. Sizes and offsets of blocks
are in units of 16 bytes from the start of the superblock; a block and its header are one.
-/

namespace Redhawk.SharedMemory

open Redhawk.Library.FreeLists List

structure PageSize where
  bytes : Nat
  positive : 0 < bytes
  aligned : bytes % 16 = 0
  small : bytes < 2 ^ 32

/-- A block; its reference count is negative where it is free, and the flag in its magic number says
whether the block before it is. -/
structure Block where
  offset : Nat
  size : Nat
  free : Bool
  previousFree : Bool
deriving DecidableEq, Repr

def Block.entry (block : Block) : Nat × Nat := (block.offset, block.size)

structure Sum where
  width : Nat
  value : Nat
deriving DecidableEq

/-- `region` is the size that the superblock was created with, of which `size` is what it records. The
blocks stand in the order of their addresses, and the free list is its bins, each with its blocks. -/
structure Superblock where
  offset : Nat
  size : Nat
  region : Nat
  blocks : List Block
  bins : List (List (Nat × Nat))

/-- What `Superblock::allocate` comes to: no block, a failed assertion or an access behind the
superblock, or a block. -/
inductive Allocation where
  | null | aborted
  | block (after : Superblock) (block : Block)

def bytesToBlocks (bytes : Nat) : Nat := (bytes + 31) % 2 ^ 64 / 16

namespace Superblock

variable (page : PageSize)

def new (offset size : Nat) : Superblock :=
  let block := ⟨page.bytes / 16 % 2 ^ 32, size / 16 % 2 ^ 32, true, false⟩
  { offset, size := size % 2 ^ 32, region := size, blocks := [block],
    bins := queue Prod.snd (Block.entry block) [] }

def AtEnd (superblock : Superblock) (block : Block) : Prop :=
  16 * (block.offset + block.size) = page.bytes + superblock.size

instance (superblock : Superblock) (block : Block) : Decidable (superblock.AtEnd page block) :=
  inferInstanceAs (Decidable (_ = _))

def setPreviousUsed (superblock : Superblock) (block : Block) (back : List Block) : Option (List Block) :=
  if superblock.AtEnd page block then some back
  else match back with
    | [] => none
    | next :: back => some ({ next with previousFree := false } :: back)

def allocate (bytes : Nat) (superblock : Superblock) : Allocation × List Sum :=
  let total := max ((bytes + 16) % 2 ^ 64) 32
  let blocks := bytesToBlocks total
  let sums := [⟨64, bytes + 16⟩, ⟨64, total + 31⟩]
  match findAvailable Prod.snd blocks superblock.bins with
  | none => (.null, sums)
  | some entry =>
      match cut Block.offset entry.1 superblock.blocks with
      | none => (.aborted, sums)
      | some (front, block, back) =>
          let bins := unqueue entry superblock.bins
          let remainder := block.size - blocks
          if remainder * 16 > 32 then
            -- the assertion of `split`
            if remainder < block.size then
              let used := { block with size := blocks, free := false }
              let next := ⟨(block.offset + blocks) % 2 ^ 32, remainder, true, false⟩
              (.block { superblock with
                  blocks := front ++ used :: next :: back
                  bins := queue Prod.snd (Block.entry next) bins } used,
                sums ++ [⟨32, block.offset + blocks⟩])
            else (.aborted, sums)
          else
            let used := { block with free := false }
            match superblock.setPreviousUsed page used back with
            | none => (.aborted, sums)
            | some back =>
                (.block { superblock with blocks := front ++ used :: back, bins } used, sums)

/-- `_coalesceNext`: the block, those behind it and the free list. -/
def coalesceNext (superblock : Superblock) (block : Block) (back : List Block) :
    Option (Block × List Block × List (List (Nat × Nat))) :=
  if superblock.AtEnd page block then some (block, back, superblock.bins)
  else match back with
    | [] => none
    | next :: back =>
        if next.free then
          some ({ block with size := (block.size + next.size) % 2 ^ 32 }, back,
            unqueue next.entry superblock.bins)
        else some (block, { next with previousFree := true } :: back, superblock.bins)

/-- `_coalescePrevious`: the blocks before, the new block and the free list. -/
def coalescePrevious (front : List Block) (block : Block) (bins : List (List (Nat × Nat))) :
    Option (List Block × Block × List (List (Nat × Nat))) :=
  match front.getLast? with
  | none => none
  | some prev =>
      if prev.free then
        some (front.dropLast, { prev with size := (prev.size + block.size) % 2 ^ 32 }, unqueue prev.entry bins)
      else none

/-- `_deallocate` of the block at an offset, which is in use. -/
def deallocate (offset : Nat) (superblock : Superblock) : Option Superblock :=
  match cut Block.offset offset superblock.blocks with
  | none => none
  | some (front, block, back) =>
      if block.free then none
      else do
        let (block, back, bins) ← superblock.coalesceNext page block back
        let (front, block, bins) ← if block.previousFree then coalescePrevious front block bins
          else some (front, { block with free := true }, bins)
        return { superblock with
          blocks := front ++ block :: back, bins := queue Prod.snd block.entry bins }

end Superblock

def freeOf (blocks : List Block) : List (Nat × Nat) :=
  (blocks.filter (·.free)).map Block.entry

def lastFree : Bool → List Block → Bool
  | previous, [] => previous
  | _, block :: rest => lastFree block.free rest

def Flagged : Bool → List Block → Prop
  | _, [] => True
  | previous, block :: rest => block.previousFree = previous ∧ Flagged block.free rest

section Blocks

variable {front rest back : List Block} {block : Block} {previous : Bool}

@[simp] theorem freeOf_nil : freeOf [] = [] := rfl

@[simp] theorem freeOf_append : freeOf (front ++ rest) = freeOf front ++ freeOf rest := by
  rw [freeOf, filter_append, map_append]
  rfl

@[simp] theorem freeOf_cons : freeOf (block :: rest) =
    (if block.free then [block.entry] else []) ++ freeOf rest := by
  cases free : block.free <;> simp [freeOf, free]

theorem flagged_append : Flagged previous (front ++ rest) ↔
    Flagged previous front ∧ Flagged (lastFree previous front) rest := by
  induction front generalizing previous with
  | nil => exact (true_and _).symm ▸ Iff.rfl
  | cons head tail ih => rw [cons_append, Flagged, ih, Flagged, and_assoc]; rfl

theorem Flagged.replace (old new : List Block) (flagged : Flagged previous (front ++ (old ++ rest)))
    (same : ∀ before, Flagged before old → Flagged before new ∧
      (lastFree before new = lastFree before old ∨ rest = [])) :
    Flagged previous (front ++ (new ++ rest)) := by
  obtain ⟨before, behind⟩ := flagged_append.mp flagged
  obtain ⟨here, after⟩ := flagged_append.mp behind
  obtain ⟨kept, last⟩ := same _ here
  refine flagged_append.mpr ⟨before, flagged_append.mpr ⟨kept, ?_⟩⟩
  rcases last with equal | rfl
  · rw [equal]
    exact after
  · trivial

theorem unqueue_listed {bins : List (List (Nat × Nat))}
    (apart : ∀ other, other ∈ front ∨ other ∈ back → other.offset ≠ block.offset)
    (listed : bins.flatten.Perm (freeOf (front ++ block :: back))) (free : block.free) :
    (unqueue block.entry bins).flatten.Perm (freeOf (front ++ back)) := by
  have elsewhere (others : List Block) (apart : ∀ other ∈ others, other.offset ≠ block.offset) :
      (freeOf others).filter (· ≠ block.entry) = freeOf others := by
    rw [filter_eq_self]
    intro entry member
    obtain ⟨other, listed, rfl⟩ := mem_map.mp member
    have different := apart other (mem_filter.mp listed).1
    simpa [Block.entry] using Or.inl different
  have before := elsewhere front fun other member => apart other (.inl member)
  have behind := elsewhere back fun other member => apart other (.inr member)
  rw [unqueue_flatten]
  refine (listed.filter _).trans (.of_eq ?_)
  rw [freeOf_append, freeOf_cons, if_pos free, freeOf_append, filter_append, filter_append,
    before, behind]
  simp

end Blocks

/-- A superblock whose region is recorded whole, whose blocks fill it, and whose flags and free list
are those of the blocks. -/
structure Superblock.WellFormed (page : PageSize) (superblock : Superblock) : Prop where
  recorded : superblock.size = superblock.region
  small : superblock.region < 2 ^ 32
  aligned : superblock.region % 16 = 0
  tiles : Tiles Block.offset Block.size (page.bytes / 16) superblock.blocks
    ((page.bytes + superblock.region) / 16)
  flagged : Flagged false superblock.blocks
  uniform : Uniform Prod.snd superblock.bins
  listed : superblock.bins.flatten.Perm (freeOf superblock.blocks)

namespace Superblock

variable {page : PageSize} {superblock : Superblock}

theorem new_wellFormed {offset size : Nat} (positive : 16 ≤ size) (small : size < 2 ^ 32)
    (aligned : size % 16 = 0) : (new page offset size).WellFormed page := by
  have pageSmall := page.small
  refine ⟨Nat.mod_eq_of_lt small, small, aligned, ⟨?_, ?_, ?_⟩, ⟨rfl, trivial⟩, ?_, .refl _⟩
  · exact Nat.mod_eq_of_lt (by omega)
  · show 0 < size / 16 % 2 ^ 32
    omega
  · show page.bytes / 16 + size / 16 % 2 ^ 32 = (page.bytes + size) / 16
    omega
  · exact queue_uniform nofun

theorem WellFormed.stop_small (wellFormed : superblock.WellFormed page) :
    (page.bytes + superblock.region) / 16 < 2 ^ 32 := by
  have pageSmall := page.small
  have small := wellFormed.small
  omega

variable {back : List Block} {block : Block}

theorem WellFormed.atEnd_iff (wellFormed : superblock.WellFormed page) {front : List Block}
    {other : Block} (whole : superblock.blocks = front ++ block :: back)
    (same : other.offset + other.size = block.offset + block.size) :
    superblock.AtEnd page other ↔ back = [] := by
  have tiles := wellFormed.tiles
  rw [whole] at tiles
  have aligned := wellFormed.aligned
  have pageAligned := page.aligned
  rw [← tiles.last_iff, AtEnd, wellFormed.recorded]
  omega

def blocksFor (bytes : Nat) : Nat := (max (bytes + 16) 32 + 31) / 16

theorem WellFormed.free_block (wellFormed : superblock.WellFormed page) {entry : Nat × Nat}
    (member : entry ∈ superblock.bins.flatten) : ∃ front block back,
      cut Block.offset entry.1 superblock.blocks = some (front, block, back) ∧
        superblock.blocks = front ++ block :: back ∧ block.free ∧ block.entry = entry := by
  have inside := wellFormed.listed.mem_iff.mp member
  obtain ⟨block, listed, rfl⟩ := mem_map.mp inside
  obtain ⟨present, free⟩ := mem_filter.mp listed
  obtain ⟨front, back, cuts, whole⟩ := wellFormed.tiles.cut_eq present
  exact ⟨front, block, back, cuts, whole, free, rfl⟩

theorem WellFormed.setPreviousUsed_some (wellFormed : superblock.WellFormed page)
    {front back : List Block} {block used : Block} (whole : superblock.blocks = front ++ block :: back)
    (same : used.offset + used.size = block.offset + block.size) :
    ∃ behind, superblock.setPreviousUsed page used back = some behind ∧ freeOf behind = freeOf back ∧
      (back = [] ∧ behind = [] ∨ ∃ next rest, back = next :: rest ∧
        behind = { next with previousFree := false } :: rest) := by
  have ending := wellFormed.atEnd_iff whole same
  cases back with
  | nil => exact ⟨[], by rw [setPreviousUsed, if_pos (ending.mpr rfl)], rfl, .inl ⟨rfl, rfl⟩⟩
  | cons next rest =>
      refine ⟨{ next with previousFree := false } :: rest, ?_, ?_, .inr ⟨next, rest, rfl, rfl⟩⟩
      · rw [setPreviousUsed, if_neg fun last => nomatch ending.mp last]
      · rw [freeOf_cons, freeOf_cons]
        rfl

theorem sums_allocate (bytes : Nat) : ⟨64, bytes + 16⟩ ∈ (superblock.allocate page bytes).2 ∧
    ⟨64, max ((bytes + 16) % 2 ^ 64) 32 + 31⟩ ∈ (superblock.allocate page bytes).2 := by
  rw [allocate]
  dsimp only
  split
  · simp
  · split
    · simp
    · split
      · split <;> simp
      · split <;> simp

section

variable (wellFormed : superblock.WellFormed page)
include wellFormed

theorem WellFormed.split {front : List Block} {blocks : Nat} (whole : superblock.blocks = front ++ block :: back)
    (free : block.free) (some : 0 < blocks) (less : blocks < block.size) :
    WellFormed page { superblock with
      blocks := front ++ { block with size := blocks, free := false } ::
        ⟨block.offset + blocks, block.size - blocks, true, false⟩ :: back
      bins := queue Prod.snd (block.offset + blocks, block.size - blocks)
        (unqueue block.entry superblock.bins) } := by
  obtain ⟨recorded, small, aligned, tiles, flagged, uniform, listed⟩ := wellFormed
  rw [whole] at tiles flagged listed
  refine ⟨recorded, small, aligned, ?_, ?_, queue_uniform (unqueue_uniform uniform), ?_⟩
  · refine Tiles.replace [block] [_, _] tiles fun first last here => ?_
    obtain ⟨place, positive, ends⟩ := here
    refine ⟨place, some, ?_, by dsimp only; omega, ?_⟩
    · dsimp only
      omega
    · have ends : first + block.size = last := ends
      show first + blocks + (block.size - blocks) = last
      omega
  · refine Flagged.replace [block] [_, _] flagged fun before here => ?_
    exact ⟨⟨here.1, rfl, trivial⟩, .inl free.symm⟩
  · have rest := unqueue_listed (fun other => tiles.apart) listed free
    refine (queue_perm _ _).trans ((rest.cons _).trans ?_)
    rw [freeOf_append, freeOf_append, freeOf_cons, freeOf_cons]
    exact perm_middle.symm

theorem WellFormed.use {front behind : List Block}
    (whole : superblock.blocks = front ++ block :: back) (free : block.free)
    (same : freeOf behind = freeOf back)
    (next : back = [] ∧ behind = [] ∨ ∃ next rest, back = next :: rest ∧
      behind = { next with previousFree := false } :: rest) :
    WellFormed page { superblock with
      blocks := front ++ { block with free := false } :: behind
      bins := unqueue block.entry superblock.bins } := by
  obtain ⟨recorded, small, aligned, tiles, flagged, uniform, listed⟩ := wellFormed
  rw [whole] at tiles flagged listed
  have rest := unqueue_listed (fun other => tiles.apart) listed free
  refine ⟨recorded, small, aligned, ?_, ?_, unqueue_uniform uniform, ?_⟩
  · rcases next with ⟨rfl, rfl⟩ | ⟨next, rest, rfl, rfl⟩
    · exact Tiles.replace [block] [_] tiles fun first last here => here
    · exact Tiles.replace [block, next] [_, _] tiles fun first last here => here
  · rcases next with ⟨rfl, rfl⟩ | ⟨next, rest, rfl, rfl⟩
    · refine Flagged.replace [block] [_] flagged fun before here => ?_
      exact ⟨⟨here.1, trivial⟩, .inr rfl⟩
    · refine Flagged.replace [block, next] [_, _] flagged fun before here => ?_
      exact ⟨⟨here.1, rfl, trivial⟩, .inl rfl⟩
  · rw [freeOf_append, freeOf_cons, same]
    rw [freeOf_append] at rest
    exact rest

theorem WellFormed.allocate_spec {bytes : Nat} (small : bytes + 47 < 2 ^ 64) :
    (∀ sum ∈ (superblock.allocate page bytes).2, sum.value < 2 ^ sum.width) ∧
    ((superblock.allocate page bytes).1 = .null ∧
        (∀ block ∈ superblock.blocks, block.free → block.size < blocksFor bytes) ∨
      ∃ after block, (superblock.allocate page bytes).1 = .block after block ∧
        after.WellFormed page ∧ after.offset = superblock.offset ∧ block ∈ after.blocks ∧
        bytes + 16 ≤ 16 * block.size ∧
        ∃ block ∈ superblock.blocks, block.free ∧ blocksFor bytes ≤ block.size) := by
  have total : max ((bytes + 16) % 2 ^ 64) 32 = max (bytes + 16) 32 := by omega
  have blocks : bytesToBlocks (max (bytes + 16) 32) = blocksFor bytes := by
    rw [bytesToBlocks, blocksFor]
    omega
  have room : bytes + 16 ≤ 16 * blocksFor bytes ∧ 0 < blocksFor bytes := by
    rw [blocksFor]
    omega
  have sums : ∀ sum ∈ [(⟨64, bytes + 16⟩ : Sum), ⟨64, max (bytes + 16) 32 + 31⟩], sum.value < 2 ^ sum.width := by
    refine forall_mem_cons.mpr ⟨?_, forall_mem_singleton.mpr ?_⟩
    · show bytes + 16 < 2 ^ 64
      omega
    · show max (bytes + 16) 32 + 31 < 2 ^ 64
      omega
  rw [allocate]
  simp only [total, blocks]
  split
  · rename_i finds
    refine ⟨sums, .inl ⟨rfl, fun block member free => ?_⟩⟩
    have listed : block.entry ∈ freeOf superblock.blocks :=
      mem_map.mpr ⟨block, mem_filter.mpr ⟨member, free⟩, rfl⟩
    exact findAvailable_none wellFormed.uniform finds _ (wellFormed.listed.mem_iff.mpr listed)
  · rename_i entry finds
    obtain ⟨member, large⟩ := findAvailable_some wellFormed.uniform finds
    obtain ⟨front, block, back, cuts, whole, free, rfl⟩ := wellFormed.free_block member
    have large : blocksFor bytes ≤ block.size := large
    have present : block ∈ superblock.blocks := by simp [whole]
    have bounds := wellFormed.tiles.inside present
    have stop := wellFormed.stop_small
    simp only [cuts]
    by_cases some : (block.size - blocksFor bytes) * 16 > 32
    · have less : blocksFor bytes < block.size := by omega
      have behind : (block.offset + blocksFor bytes) % 2 ^ 32 = block.offset + blocksFor bytes :=
        Nat.mod_eq_of_lt (by omega)
      rw [if_pos some, if_pos (by omega), behind]
      refine ⟨fun sum member => ?_, .inr ⟨_, _, rfl, wellFormed.split whole free room.2 less, rfl,
        by simp, room.1, block, present, free, large⟩⟩
      rcases mem_append.mp member with before | last
      · exact sums sum before
      · obtain rfl := mem_singleton.mp last
        show block.offset + blocksFor bytes < 2 ^ 32
        omega
    · obtain ⟨behind, used, same, next⟩ := @WellFormed.setPreviousUsed_some _ _ wellFormed
        front back block { block with free := false } whole rfl
      rw [if_neg some]
      simp only [used]
      exact ⟨sums, .inr ⟨_, _, rfl, wellFormed.use whole free same next, rfl, by simp,
        by dsimp only; omega, block, present, free, large⟩⟩

/-- A block that is being released: with it free the blocks fill the region, and the others that are
free are listed. -/
structure Released (page : PageSize) (region : Nat) (front : List Block) (block : Block)
    (back : List Block) (bins : List (List (Nat × Nat))) : Prop where
  tiles : Tiles Block.offset Block.size (page.bytes / 16)
    (front ++ { block with free := true } :: back) ((page.bytes + region) / 16)
  flagged : Flagged false (front ++ { block with free := true } :: back)
  uniform : Uniform Prod.snd bins
  listed : bins.flatten.Perm (freeOf (front ++ back))

theorem Released.queue {front : List Block} {bins : List (List (Nat × Nat))}
    (released : Released page superblock.region front block back bins) :
    WellFormed page { superblock with
      blocks := front ++ { block with free := true } :: back
      bins := queue Prod.snd block.entry bins } := by
  refine ⟨wellFormed.recorded, wellFormed.small, wellFormed.aligned, released.tiles, released.flagged,
    queue_uniform released.uniform, (queue_perm _ _).trans ((released.listed.cons _).trans ?_)⟩
  rw [freeOf_append, freeOf_append, freeOf_cons]
  exact perm_middle.symm

theorem WellFormed.coalesceNext_some {front : List Block} (whole : superblock.blocks = front ++ block :: back)
    (used : block.free = false) : ∃ joined behind bins,
      superblock.coalesceNext page block back = some (joined, behind, bins) ∧
        Released page superblock.region front joined behind bins := by
  have ending := wellFormed.atEnd_iff whole rfl
  have stop := wellFormed.stop_small
  obtain ⟨recorded, small, aligned, tiles, flagged, uniform, listed⟩ := wellFormed
  rw [whole] at tiles flagged listed
  cases back with
  | nil =>
      refine ⟨block, [], superblock.bins, ?_, ?_, ?_, uniform, ?_⟩
      · rw [coalesceNext, if_pos (ending.mpr rfl)]
      · exact Tiles.replace [block] [_] tiles fun first last here => here
      · exact Flagged.replace [block] [_] flagged fun before here => ⟨here, .inr rfl⟩
      · rw [freeOf_append, freeOf_cons, used] at listed
        rw [freeOf_append]
        exact listed
  | cons next rest =>
      have last : ¬superblock.AtEnd page block := fun last => nomatch ending.mp last
      cases free : next.free with
      | true =>
          have split : front ++ block :: next :: rest = (front ++ [block]) ++ next :: rest := by simp
          have sum : (block.size + next.size) % 2 ^ 32 = block.size + next.size := by
            obtain ⟨middle, -, place, -, here⟩ := tiles_append.mp tiles
            have bounds := here.inside (mem_cons_self ..)
            exact Nat.mod_eq_of_lt (by omega)
          refine ⟨{ block with size := block.size + next.size }, rest, unqueue next.entry superblock.bins,
            ?_, ?_, ?_, unqueue_uniform uniform, ?_⟩
          · rw [coalesceNext, if_neg last]
            simp only [free, if_true, sum]
          · refine Tiles.replace [block, next] [_] tiles fun first last here => ?_
            obtain ⟨place, some, _, _, ends⟩ := here
            exact ⟨place, Nat.add_pos_left some _, by rw [Tiles, ← ends, Nat.add_assoc]⟩
          · refine Flagged.replace [block, next] [_] flagged fun before here => ?_
            exact ⟨⟨here.1, trivial⟩, .inl free.symm⟩
          · rw [split] at tiles listed
            have others := unqueue_listed (fun other => tiles.apart) listed free
            rw [freeOf_append, freeOf_append, freeOf_cons, used] at others
            simpa using others
      | false =>
          refine ⟨block, { next with previousFree := true } :: rest, superblock.bins, ?_, ?_, ?_, uniform, ?_⟩
          · rw [coalesceNext, if_neg last]
            simp [free]
          · exact Tiles.replace [block, next] [_, _] tiles fun first last here => here
          · refine Flagged.replace [block, next] [_, _] flagged fun before here => ?_
            exact ⟨⟨here.1, rfl, trivial⟩, .inl rfl⟩
          · rw [freeOf_append, freeOf_cons, freeOf_cons, used] at listed
            rw [freeOf_append, freeOf_cons]
            exact listed

end

theorem Released.coalescePrevious_some {region : Nat} {front : List Block}
    {bins : List (List (Nat × Nat))} (released : Released page region front block back bins)
    (stop : (page.bytes + region) / 16 < 2 ^ 32) (free : block.previousFree = true) :
    ∃ before joined bins', coalescePrevious front block bins = some (before, joined, bins') ∧
      joined.free = true ∧ Released page region before joined back bins' := by
  obtain ⟨tiles, flagged, uniform, listed⟩ := released
  rcases eq_nil_or_concat front with rfl | ⟨before, prev, rfl⟩
  · have none : block.previousFree = false := flagged.1
    rw [none] at free
    cases free
  · rw [concat_eq_append, append_assoc] at tiles flagged listed
    have previous : prev.free = true := by
      obtain ⟨_, _, flag, _⟩ := flagged_append.mp flagged
      exact flag.symm.trans free
    have sum : (prev.size + block.size) % 2 ^ 32 = prev.size + block.size := by
      obtain ⟨middle, -, place, -, here⟩ := tiles_append.mp tiles
      have bounds := here.inside (mem_cons_self ..)
      have place' := here.1
      dsimp only at bounds place'
      exact Nat.mod_eq_of_lt (by omega)
    refine ⟨before, { prev with size := prev.size + block.size }, unqueue prev.entry bins, ?_, previous,
      ?_, ?_, unqueue_uniform uniform, ?_⟩
    · rw [coalescePrevious, concat_eq_append, getLast?_concat, dropLast_concat]
      simp only [previous, if_true, sum]
    · refine Tiles.replace [prev, _] [_] tiles fun first last here => ?_
      obtain ⟨place, some, _, _, ends⟩ := here
      exact ⟨place, Nat.add_pos_left some _, by rw [Tiles, ← ends, Nat.add_assoc]⟩
    · refine Flagged.replace [prev, _] [_] flagged fun earlier here => ?_
      exact ⟨⟨here.1, trivial⟩, .inl rfl⟩
    · refine unqueue_listed (fun other member => ?_) listed previous
      exact tiles.apart (member.imp_right (mem_cons_of_mem _))

theorem WellFormed.deallocate_some (wellFormed : superblock.WellFormed page)
    (present : block ∈ superblock.blocks) (used : block.free = false) :
    ∃ after, superblock.deallocate page block.offset = some after ∧ after.WellFormed page := by
  obtain ⟨front, back, cuts, whole⟩ := wellFormed.tiles.cut_eq present
  obtain ⟨joined, behind, bins, next, released⟩ := wellFormed.coalesceNext_some whole used
  rw [deallocate]
  simp only [cuts, used, Bool.false_eq_true, if_false, next, Option.bind_eq_bind, Option.bind_some]
  cases previous : joined.previousFree with
  | true =>
      obtain ⟨before, whole', bins', coalesces, free, released'⟩ :=
        released.coalescePrevious_some wellFormed.stop_small previous
      have result := released'.queue wellFormed
      simp only [if_true, coalesces, Option.bind_some]
      refine ⟨_, rfl, ?_⟩
      rw [← free] at result
      exact result
  | false =>
      have result := released.queue wellFormed
      rw [previous] at result
      exact ⟨_, rfl, result⟩

theorem WellFormed.deallocate (wellFormed : superblock.WellFormed page) {offset : Nat}
    {after : Superblock} (releases : superblock.deallocate page offset = some after) :
    after.WellFormed page := by
  have legal := releases
  rw [Superblock.deallocate] at legal
  split at legal
  · cases legal
  · rename_i front block back cuts
    obtain ⟨whole, rfl⟩ := cut_some cuts
    cases used : block.free with
    | true => simp [used] at legal
    | false =>
        obtain ⟨after', same, kept⟩ := wellFormed.deallocate_some (by simp [whole]) used
        rw [releases] at same
        cases same
        exact kept

end Superblock

end Redhawk.SharedMemory
