import Redhawk.Buffers.BufferManager
import Mathlib.Algebra.BigOperators.Group.List.Basic
import Mathlib.Algebra.GroupWithZero.Nat

/-!
The books of the buffer manager: where the blocks are and what the caches and counters say of them,
through everything that is done to one cache.
-/

namespace Redhawk.Buffers

open Library List Function

section Keys

variable {α : Type} {keys : List Nat} {key : Nat} (at' : Nat → List α)

theorem flatMap_perm (member : key ∈ keys) : (keys.flatMap at').Perm (at' key ++ (keys.erase key).flatMap at') :=
  (perm_cons_erase member).flatMap_right at'

theorem flatMap_update_perm (nodup : keys.Nodup) (member : key ∈ keys) (items : List α) :
    (keys.flatMap (update at' key items)).Perm (items ++ (keys.erase key).flatMap at') := by
  refine (flatMap_perm _ member).trans (Perm.of_eq ?_)
  rw [update_self]
  refine congrArg _ (flatMap_congr fun other listed => update_of_ne ?_ ..)
  rintro rfl
  exact nodup.not_mem_erase listed

theorem sum_perm (values : Nat → Nat) (member : key ∈ keys) :
    (keys.map values).sum = values key + ((keys.erase key).map values).sum :=
  ((perm_cons_erase member).map values).sum_eq

end Keys

def sizes (headers : Nat → CacheBlock) (blocks : List Nat) : Nat :=
  (blocks.map fun block => (headers block).size).sum

theorem sizes_append (headers : Nat → CacheBlock) (front back : List Nat) :
    sizes headers (front ++ back) = sizes headers front + sizes headers back := by
  simp [sizes]

structure Stored (links : Nat → Link Nat) (headers : Nat → CacheBlock) (id : Nat)
    (cache : BufferCache) (blocks : List Nat) : Prop where
  list : cache.list.Holds links blocks
  own : ∀ block ∈ blocks, (headers block).cache = some id
  bytes : cache.currentBytes = sizes headers blocks
  time : cache.time < words
  stamps : ∀ block ∈ blocks, (headers block).lastUsed < words
  ages : blocks.Pairwise fun newer older => cache.age (headers newer) ≤ cache.age (headers older)

section Stored

variable {links links' : Nat → Link Nat} {headers headers' : Nat → CacheBlock} {id block : Nat}
  {cache cache' : BufferCache} {blocks front back : List Nat}

theorem Stored.congr (stored : Stored links headers id cache blocks)
    (list : cache'.list = cache.list) (bytes : cache'.currentBytes = cache.currentBytes)
    (time : cache'.time = cache.time)
    (same : ∀ block ∈ blocks, links' block = links block ∧ headers' block = headers block) :
    Stored links' headers' id cache' blocks := by
  have header : ∀ block ∈ blocks, headers' block = headers block := fun block inside =>
    (same block inside).2
  refine ⟨list ▸ stored.list.congr fun block inside => (same block inside).1,
    fun block inside => ?_, ?_, time ▸ stored.time, fun block inside => ?_, ?_⟩
  · rw [header block inside]
    exact stored.own block inside
  · rw [bytes, stored.bytes]
    exact congrArg sum (map_congr_left fun block inside => by rw [header block inside])
  · rw [header block inside]
    exact stored.stamps block inside
  · refine stored.ages.imp_of_mem fun first second newer => ?_
    unfold BufferCache.age at newer ⊢
    rwa [time, header _ first, header _ second]

theorem Stored.take (stored : Stored links headers id cache (front ++ block :: back))
    (list : cache'.list = (cache.list.erase block links).1)
    (bytes : cache'.currentBytes = cache.currentBytes - (headers block).size)
    (time : cache'.time = cache.time) :
    Stored (cache.list.erase block links).2 headers id cache' (front ++ back) := by
  have fewer : (front ++ back).Sublist (front ++ block :: back) :=
    (Sublist.refl front).append (sublist_cons_self ..)
  refine ⟨list ▸ stored.list.erase, fun node inside => stored.own node (fewer.subset inside), ?_,
    time ▸ stored.time, fun node inside => stored.stamps node (fewer.subset inside), ?_⟩
  · have counted := stored.bytes
    have parts : sizes headers (block :: back) = (headers block).size + sizes headers back := rfl
    rw [sizes_append, parts] at counted
    rw [bytes, counted, sizes_append]
    omega
  · unfold BufferCache.age
    rw [time]
    exact stored.ages.sublist fewer

theorem age_succ {time lastUsed : Nat} (stamp : lastUsed < words)
    (room : (time + words - lastUsed) % words + 1 < words) :
    ((time + 1) % words + words - lastUsed) % words = (time + words - lastUsed) % words + 1 := by
  unfold words at *
  omega

theorem Stored.push (stored : Stored links headers id cache blocks) (new : block ∉ blocks)
    (own : (headers block).cache = some id)
    (room : ∀ other ∈ blocks, cache.age (headers other) + 1 < words) :
    Stored (cache.list.push_front block links).2
      (update headers block
        { headers block with lastUsed := (cache.time + 1) % words }) id
      { cache with
        time := (cache.time + 1) % words
        list := (cache.list.push_front block links).1
        currentBytes := cache.currentBytes + (headers block).size } (block :: blocks) := by
  have header : ∀ other ∈ blocks, update headers block
      { headers block with lastUsed := (cache.time + 1) % words } other = headers other := by
    intro other inside
    refine update_of_ne ?_ ..
    rintro rfl
    exact new inside
  have stamp : (cache.time + 1) % words < words := Nat.mod_lt _ (by decide)
  refine ⟨stored.list.push_front new, forall_mem_cons.mpr ⟨?_, fun other inside => ?_⟩, ?_, stamp,
    forall_mem_cons.mpr ⟨?_, fun other inside => ?_⟩,
    pairwise_cons.mpr ⟨fun other inside => ?_, ?_⟩⟩
  · rw [update_self]
    exact own
  · rw [header other inside]
    exact stored.own other inside
  · change cache.currentBytes + _ = (update headers block _ block).size + sizes _ blocks
    have rest : sizes (update headers block
        { headers block with lastUsed := (cache.time + 1) % words }) blocks = sizes headers blocks :=
      congrArg sum (map_congr_left fun other inside => by rw [header other inside])
    rw [rest, ← stored.bytes, update_self]
    exact Nat.add_comm ..
  · rw [update_self]
    exact stamp
  · rw [header other inside]
    exact stored.stamps other inside
  · unfold BufferCache.age
    rw [update_self]
    rw [Nat.add_sub_cancel_left, Nat.mod_self]
    exact Nat.zero_le _
  · refine stored.ages.imp_of_mem fun first second newer => ?_
    unfold BufferCache.age at newer room ⊢
    rw [header _ first, header _ second]
    rw [age_succ (stored.stamps _ first) (room _ first), age_succ (stored.stamps _ second) (room _ second)]
    exact Nat.succ_le_succ newer

theorem Stored.room (stored : Stored links headers id cache blocks)
    (oldest : ∀ back, cache.list.tail = some back → cache.age (headers back) + 1 < words) :
    ∀ block ∈ blocks, cache.age (headers block) + 1 < words := by
  intro block inside
  rcases eq_nil_or_concat blocks with rfl | ⟨front, back, rfl⟩
  · cases inside
  · rw [concat_eq_append] at stored inside
    have room := oldest back (by rw [stored.list.tail, getLast?_concat])
    rcases mem_append.mp inside with earlier | last
    · have older := (pairwise_append.mp stored.ages).2.2 block earlier back mem_cons_self
      omega
    · rwa [mem_singleton.mp last]

end Stored

structure Within (headers : Nat → CacheBlock) (cache : BufferCache) (blocks : List Nat) : Prop where
  disabled : cache.enabled = false → blocks = []
  bytes : cache.currentBytes ≤ cache.maxBytes
  count : blocks.length ≤ cache.maxBlocks
  age : ∀ block ∈ blocks, cache.age (headers block) ≤ cache.maxAge

theorem Within.congr {headers headers' : Nat → CacheBlock} {cache cache' : BufferCache}
    {blocks fewer : List Nat} (within : Within headers cache blocks)
    (settings : cache'.enabled = cache.enabled ∧ cache'.maxBytes = cache.maxBytes ∧
      cache'.maxBlocks = cache.maxBlocks ∧ cache'.maxAge = cache.maxAge ∧ cache'.time = cache.time)
    (sublist : fewer.Sublist blocks) (bytes : cache'.currentBytes ≤ cache.currentBytes)
    (same : ∀ block ∈ fewer, headers' block = headers block) : Within headers' cache' fewer := by
  obtain ⟨enabled, maxBytes, maxBlocks, maxAge, time⟩ := settings
  refine ⟨fun off => ?_, ?_, ?_, fun block inside => ?_⟩
  · rw [enabled] at off
    rw [within.disabled off] at sublist
    exact sublist_nil.mp sublist
  · rw [maxBytes]
    exact Nat.le_trans bytes within.bytes
  · rw [maxBlocks]
    exact Nat.le_trans sublist.length_le within.count
  · unfold BufferCache.age
    rw [time, maxAge, same block inside]
    exact within.age block (sublist.subset inside)

namespace BufferManager

/-- The blocks that each cache holds, those in the hands of a call, and bytes that have left a cache
and are still in the total. -/
structure Core (held : Nat → List Nat) (inHand : List Nat) (owed : Nat) (manager : BufferManager) :
    Prop where
  distinct : manager.caches.Nodup
  below : ∀ id ∈ manager.caches, id < manager.nextCache
  stored : ∀ id ∈ manager.caches, Stored manager.links manager.blocks id (manager.cacheAt id) (held id)
  places : (inHand ++ manager.handedOut ++ manager.released ++ manager.caches.flatMap held).Perm
    (range manager.nextBlock)
  total : manager.currentBytes = (manager.caches.map fun id => (manager.cacheAt id).currentBytes).sum + owed
  high : manager.currentBytes ≤ manager.highWaterBytes
  fits : ∀ block < manager.nextBlock, (manager.blocks block).obtained = (manager.blocks block).size + overhead
  requested : ∀ block ∈ manager.handedOut, (manager.blocks block).requested ≤ (manager.blocks block).size

/-- Nothing but the list and the counters of one cache differs, and what follows from these. -/
structure Same (id : Nat) (manager next : BufferManager) : Prop where
  rest : next = { manager with
    links := next.links
    cacheAt := next.cacheAt
    currentBytes := next.currentBytes
    highWaterBytes := next.highWaterBytes
    released := next.released }
  others : ∀ other ≠ id, next.cacheAt other = manager.cacheAt other
  cache : next.cacheAt id = { manager.cacheAt id with
    list := (next.cacheAt id).list
    currentBytes := (next.cacheAt id).currentBytes
    hits := (next.cacheAt id).hits
    misses := (next.cacheAt id).misses }

section Caches

variable {held : Nat → List Nat} {inHand : List Nat} {owed id : Nat} {manager next : BufferManager}

theorem Same.refl : Same id manager manager := ⟨rfl, fun _ _ => rfl, rfl⟩

theorem Same.trans {last : BufferManager} (first : Same id manager next)
    (second : Same id next last) : Same id manager last := by
  refine ⟨second.rest.trans (by rw [first.rest]), fun other different => ?_,
    second.cache.trans (by rw [first.cache])⟩
  rw [second.others other different, first.others other different]

theorem Same.blocks (same : Same id manager next) : next.blocks = manager.blocks := by
  rw [same.rest]

theorem Same.caches (same : Same id manager next) : next.caches = manager.caches := by
  rw [same.rest]

section

variable (core : Core held inHand owed manager)

include core

theorem Core.nodup :
    (inHand ++ manager.handedOut ++ manager.released ++ manager.caches.flatMap held).Nodup :=
  core.places.nodup_iff.mpr nodup_range

theorem Core.apart {other block : Nat}
    (member : id ∈ manager.caches) (member' : other ∈ manager.caches) (different : other ≠ id)
    (theirs : block ∈ held other) : block ∉ held id := by
  intro mine
  have nodup := ((flatMap_perm held member).nodup_iff.mp core.nodup.of_append_right)
  refine (nodup_append.mp nodup).2.2 block mine block ?_ rfl
  exact mem_flatMap.mpr ⟨other, (mem_erase_of_ne different).mpr member', theirs⟩

theorem Core.fresh (member : id ∈ manager.caches) {block : Nat}
    (elsewhere : block ∈ inHand ++ manager.handedOut) : block ∉ held id := by
  intro mine
  exact (nodup_append.mp core.nodup).2.2 block (mem_append_left _ elsewhere) block
    (mem_flatMap.mpr ⟨id, member, mine⟩) rfl

end

@[simp]
theorem cacheAt_setCache (cache : BufferCache) : (manager.setCache id cache).cacheAt id = cache :=
  update_self ..

theorem cacheAt_setCache_of_ne {other : Nat} (different : other ≠ id) (cache : BufferCache) :
    (manager.setCache id cache).cacheAt other = manager.cacheAt other :=
  update_of_ne different ..

theorem setCache_setCache (cache cache' : BufferCache) :
    (manager.setCache id cache).setCache id cache' = manager.setCache id cache' := by
  simp [BufferManager.setCache]

theorem Core.put (core : Core held inHand owed manager) (member : id ∈ manager.caches)
    {links : Nat → Link Nat} {cache : BufferCache} {blocks rest : List Nat} (owed' : Nat)
    (stored : Stored links manager.blocks id cache blocks)
    (outside : ∀ block, block ∉ held id → block ∉ inHand → links block = manager.links block)
    (moved : (rest ++ blocks).Perm (inHand ++ held id))
    (bytes : cache.currentBytes + owed' = (manager.cacheAt id).currentBytes + owed) :
    Core (update held id blocks) rest owed'
      ({ manager with links }.setCache id cache) := by
  refine ⟨core.distinct, core.below, fun other listed => ?_, ?_, ?_, core.high, core.fits, core.requested⟩
  · by_cases mine : other = id
    · subst mine
      rw [cacheAt_setCache, update_self]
      exact stored
    · rw [cacheAt_setCache_of_ne mine, update_of_ne mine]
      refine (core.stored other listed).congr rfl rfl rfl fun block inside => ⟨?_, rfl⟩
      refine outside block (core.apart member listed mine inside) fun held => ?_
      exact core.fresh listed (mem_append_left _ held) inside
  · have before := flatMap_perm held member
    have after := flatMap_update_perm held core.distinct member blocks
    have places := core.places
    rw [perm_iff_count] at before after places moved ⊢
    intro node
    have one := before node
    have two := after node
    have all := places node
    have same := moved node
    simp only [count_append] at one two all same ⊢
    change _ + count node manager.handedOut + count node manager.released +
      count node (manager.caches.flatMap _) = count node (range manager.nextBlock)
    omega
  · have before := sum_perm (fun id => (manager.cacheAt id).currentBytes) member
    have after := sum_perm (fun other =>
      (({ manager with links } : BufferManager).setCache id cache).cacheAt other |>.currentBytes) member
    have rest : ((manager.caches.erase id).map fun other =>
          (({ manager with links } : BufferManager).setCache id cache).cacheAt other |>.currentBytes) =
        (manager.caches.erase id).map fun other => (manager.cacheAt other).currentBytes := by
      refine map_congr_left fun other listed => ?_
      rw [cacheAt_setCache_of_ne]
      rintro rfl
      exact core.distinct.not_mem_erase listed
    rw [rest, cacheAt_setCache] at after
    have total := core.total
    change manager.currentBytes = (manager.caches.map fun other =>
      (({ manager with links } : BufferManager).setCache id cache).cacheAt other |>.currentBytes).sum + owed'
    omega

theorem Core.setCache (core : Core held inHand owed manager) {cache : BufferCache}
    (member : id ∈ manager.caches) (list : cache.list = (manager.cacheAt id).list)
    (bytes : cache.currentBytes = (manager.cacheAt id).currentBytes)
    (time : cache.time = (manager.cacheAt id).time) :
    Core held inHand owed (manager.setCache id cache) := by
  have put := core.put member owed
    ((core.stored id member).congr list bytes time fun _ _ => ⟨rfl, rfl⟩) (fun _ _ _ => rfl)
    (Perm.refl _) (congrArg (· + owed) bytes)
  rwa [update_eq_self] at put

theorem blocks_setBlock (block : Nat) (header : CacheBlock) :
    (manager.setBlock block header).blocks block = header :=
  update_self ..

theorem blocks_setBlock_of_ne {block node : Nat} (different : node ≠ block) (header : CacheBlock) :
    (manager.setBlock block header).blocks node = manager.blocks node :=
  update_of_ne different ..

theorem Core.setBlock (core : Core held inHand owed manager) {block : Nat} {header : CacheBlock}
    {links : Nat → Link Nat} (same : ∀ node ≠ block, links node = manager.links node)
    (outside : ∀ id ∈ manager.caches, block ∉ held id)
    (fits : header.obtained = header.size + overhead)
    (requested : block ∈ manager.handedOut → header.requested ≤ header.size) :
    Core held inHand owed (({ manager with links } : BufferManager).setBlock block header) := by
  refine ⟨core.distinct, core.below, fun id listed => ?_, core.places, core.total, core.high,
    fun node below => ?_, fun node given => ?_⟩
  · refine (core.stored id listed).congr rfl rfl rfl fun node inside => ?_
    have different : node ≠ block := by
      rintro rfl
      exact outside id listed inside
    exact ⟨same node different, blocks_setBlock_of_ne different _⟩
  · by_cases mine : node = block
    · rw [mine, blocks_setBlock]
      exact fits
    · rw [blocks_setBlock_of_ne mine]
      exact core.fits node below
  · by_cases mine : node = block
    · rw [mine, blocks_setBlock]
      exact requested (mine ▸ given)
    · rw [blocks_setBlock_of_ne mine]
      exact core.requested node given

theorem Core.release {block : Nat} (core : Core held (block :: inHand) owed manager) :
    Core held inHand owed (manager.release block) := by
  obtain ⟨distinct, below, stored, places, total, high, fits, requested⟩ := core
  refine ⟨distinct, below, stored, ?_, total, high, fits, requested⟩
  unfold BufferManager.release
  rw [perm_iff_count] at places ⊢
  intro node
  have all := places node
  simp only [count_append, count_cons, count_nil] at all ⊢
  omega

theorem Core.settle {delta : Nat} (core : Core held inHand (owed + delta) manager) :
    Core held inHand owed (manager.decreaseSize delta) := by
  obtain ⟨distinct, below, stored, places, total, high, fits, requested⟩ := core
  refine ⟨distinct, below, stored, places, ?_, Nat.le_trans (Nat.sub_le ..) high, fits, requested⟩
  change manager.currentBytes - delta =
    (manager.caches.map fun id => (manager.cacheAt id).currentBytes).sum + owed
  omega

section

variable (core : Core held inHand owed manager)

include core

theorem Core.increase (bytes : Nat) :
    Core held inHand (owed + bytes) (manager.increaseSize bytes) := by
  obtain ⟨distinct, below, stored, places, total, high, fits, requested⟩ := core
  refine ⟨distinct, below, stored, places, ?_, Nat.le_max_right .., fits, requested⟩
  change manager.currentBytes + bytes =
    (manager.caches.map fun id => (manager.cacheAt id).currentBytes).sum + (owed + bytes)
  omega

def takeOut (manager : BufferManager) (id block hits : Nat) : BufferManager :=
  { manager with links := ((manager.cacheAt id).list.erase block manager.links).2 }.setCache id
    { manager.cacheAt id with
      list := ((manager.cacheAt id).list.erase block manager.links).1
      hits
      currentBytes := (manager.cacheAt id).currentBytes - (manager.blocks block).size }

theorem Core.takeOut (member : id ∈ manager.caches)
    {front back : List Nat} {block : Nat} (split : held id = front ++ block :: back) (hits : Nat) :
    Core (update held id (front ++ back)) (block :: inHand)
        (owed + (manager.blocks block).size) (manager.takeOut id block hits) ∧
      Same id manager (manager.takeOut id block hits) ∧
      ((manager.takeOut id block hits).cacheAt id).currentBytes + (manager.blocks block).size =
        (manager.cacheAt id).currentBytes := by
  have stored := core.stored id member
  rw [split] at stored
  have counted := stored.bytes
  have parts : sizes manager.blocks (block :: back) =
    (manager.blocks block).size + sizes manager.blocks back := rfl
  rw [sizes_append, parts] at counted
  have bytes : (manager.cacheAt id).currentBytes - (manager.blocks block).size +
      (manager.blocks block).size = (manager.cacheAt id).currentBytes := by omega
  have mine : (manager.takeOut id block hits).cacheAt id = _ := cacheAt_setCache _
  refine ⟨core.put member _ (stored.take rfl rfl rfl)
    (fun node outside _ => stored.list.erase_of_not_mem (by simp) (split ▸ outside)) ?_ ?_,
    ⟨rfl, fun other different => cacheAt_setCache_of_ne different _, ?_⟩, ?_⟩
  · rw [split, perm_iff_count]
    intro node
    simp only [count_append, count_cons]
    omega
  · dsimp only
    omega
  · rw [mine]
  · rw [mine]
    exact bytes

theorem Core.drop (member : id ∈ manager.caches)
    {front : List Nat} {back : Nat} (split : held id = front ++ [back]) :
    Core (update held id front) inHand (owed + (manager.blocks back).size) (manager.drop id back) ∧
      Same id manager (manager.drop id back) ∧
      ((manager.drop id back).cacheAt id).currentBytes + (manager.blocks back).size =
        (manager.cacheAt id).currentBytes := by
  obtain ⟨taken, same, bytes⟩ := core.takeOut member split (manager.cacheAt id).hits
  rw [append_nil] at taken
  exact ⟨taken.release, same.trans ⟨rfl, fun _ _ => rfl, rfl⟩, bytes⟩

end

theorem overThreshold_nil (empty : (manager.cacheAt id).list.tail = none) :
    manager.overThreshold id = false := by
  simp only [overThreshold, empty]

theorem Core.compactLoop (core : Core held inHand owed manager) (member : id ∈ manager.caches) (count : Nat) :
    let next := BufferManager.compactLoop id count manager
    ∃ kept owed', kept <+: held id ∧ Core (update held id kept) inHand owed' next ∧
      owed' + (next.cacheAt id).currentBytes = owed + (manager.cacheAt id).currentBytes ∧
      Same id manager next ∧ ((held id).length ≤ count → next.overThreshold id = false) := by
  induction count generalizing held owed manager with
  | zero =>
      refine ⟨held id, owed, prefix_rfl, ?_, rfl, Same.refl, fun few => overThreshold_nil ?_⟩
      · rwa [update_eq_self]
      · rw [BufferManager.compactLoop, (core.stored id member).list.tail,
          length_eq_zero_iff.mp (Nat.le_zero.mp few)]
        rfl
  | succ count ih =>
      unfold BufferManager.compactLoop
      cases exceeds : manager.overThreshold id with
      | false =>
          refine ⟨held id, owed, prefix_rfl, ?_, rfl, Same.refl, fun _ => exceeds⟩
          rwa [update_eq_self]
      | true =>
          have tail := (core.stored id member).list.tail
          rcases eq_nil_or_concat (held id) with none | ⟨front, back, split⟩
          · rw [none] at tail
            rw [overThreshold_nil tail] at exceeds
            cases exceeds
          · rw [concat_eq_append] at split
            rw [split, getLast?_concat] at tail
            simp only [if_true, tail]
            obtain ⟨dropped, same, bytes⟩ := core.drop member split
            obtain ⟨kept, owed', fewer, books, paid, same', settled⟩ :=
              ih dropped (same.caches ▸ member)
            rw [update_self] at fewer settled
            rw [update_idem] at books
            refine ⟨kept, owed', ?_, books, by omega, same.trans same', fun few => settled ?_⟩
            · rw [split]
              exact fewer.trans (prefix_append ..)
            · rw [split, length_append, length_singleton] at few
              omega

theorem Core.compact (core : Core held inHand 0 manager) (member : id ∈ manager.caches) :
    ∃ kept, kept <+: held id ∧ Core (update held id kept) inHand 0 (manager.compact id) ∧
      Same id manager (manager.compact id) ∧ (manager.compact id).overThreshold id = false := by
  obtain ⟨kept, owed, fewer, books, paid, same, settled⟩ :=
    core.compactLoop member (manager.cacheAt id).list.size
  have done := settled (Nat.le_of_eq (core.stored id member).list.size.symm)
  have delta : (manager.cacheAt id).currentBytes -
      ((BufferManager.compactLoop id (manager.cacheAt id).list.size manager).cacheAt id).currentBytes =
        owed := by omega
  refine ⟨kept, fewer, ?_⟩
  unfold BufferManager.compact
  dsimp only
  rw [delta]
  split
  · rw [← Nat.zero_add owed] at books
    exact ⟨books.settle, same.trans ⟨rfl, fun _ _ => rfl, rfl⟩, done⟩
  · next even =>
      rw [Nat.eq_zero_of_not_pos even] at books
      exact ⟨books, same, done⟩

theorem Core.within (core : Core held inHand owed manager) (member : id ∈ manager.caches)
    (settled : manager.overThreshold id = false) :
    Within manager.blocks (manager.cacheAt id) (held id) := by
  have stored := core.stored id member
  rcases eq_nil_or_concat (held id) with none | ⟨front, back, split⟩
  · rw [none] at stored ⊢
    exact ⟨fun _ => rfl, stored.bytes ▸ Nat.zero_le _, Nat.zero_le _, by simp⟩
  · rw [concat_eq_append] at split
    rw [split] at stored ⊢
    have some : (manager.cacheAt id).list.isEmpty = false := by
      rw [Bool.eq_false_iff, Ne, stored.list.isEmpty_iff]
      simp
    have tail := stored.list.tail
    rw [getLast?_concat] at tail
    unfold overThreshold at settled
    simp only [tail, some, Bool.false_eq_true, if_false] at settled
    cases enabled : (manager.cacheAt id).enabled with
    | false => simp [enabled] at settled
    | true =>
        simp only [enabled, Bool.not_true, Bool.false_eq_true, if_false, decide_eq_false_iff_not,
          not_or, Nat.not_lt] at settled
        obtain ⟨age, bytes, count⟩ := settled
        refine ⟨fun out => ?_, bytes, ?_, fun block inside => ?_⟩
        · rw [enabled] at out
          cases out
        · rwa [stored.list.size] at count
        · rcases mem_append.mp inside with earlier | last
          · exact Nat.le_trans ((pairwise_append.mp stored.ages).2.2 block earlier back mem_cons_self) age
          · rwa [mem_singleton.mp last]

theorem Core.fetch (core : Core held inHand 0 manager) (member : id ∈ manager.caches) (bytes : Nat) :
    ∃ blocks, blocks.Sublist (held id) ∧
      Core (update held id blocks) ((manager.fetch id bytes).1.toList ++ inHand) 0
        (manager.fetch id bytes).2 ∧
      Same id manager (manager.fetch id bytes).2 ∧
      ((manager.fetch id bytes).2.cacheAt id).currentBytes ≤ (manager.cacheAt id).currentBytes ∧
      ∀ block ∈ (manager.fetch id bytes).1, block ∈ held id ∧ (manager.blocks block).size = bytes := by
  have search := (core.stored id member).list.find_eq fun block =>
    (manager.blocks block).size == bytes
  unfold BufferManager.fetch
  dsimp only
  rw [search]
  cases found : (held id).find? fun block => (manager.blocks block).size == bytes with
  | none =>
      refine ⟨held id, Sublist.refl _, ?_,
        ⟨rfl, fun other different => cacheAt_setCache_of_ne different _, ?_⟩, ?_, by simp⟩
      · rw [update_eq_self]
        exact core.setCache member rfl rfl rfl
      · rw [cacheAt_setCache]
      · exact Nat.le_of_eq (by rw [cacheAt_setCache])
  | some block =>
      have inside := mem_of_find?_eq_some found
      obtain ⟨front, back, split⟩ := append_of_mem inside
      obtain ⟨taken, same, bytes⟩ := core.takeOut member split ((manager.cacheAt id).hits + 1)
      refine ⟨front ++ back, ?_, taken.settle, same.trans ⟨rfl, fun _ _ => rfl, rfl⟩,
        Nat.le.intro bytes, fun other hit => ?_⟩
      · rw [split]
        exact (Sublist.refl _).append (sublist_cons_self ..)
      · cases hit
        exact ⟨inside, by simpa using find?_some found⟩

theorem Core.push {block : Nat} (core : Core held (block :: inHand) 0 manager)
    (member : id ∈ manager.caches) (own : (manager.blocks block).cache = some id)
    (oldest : ∀ back, (manager.cacheAt id).list.tail = some back → manager.age id back + 1 < words) :
    Core (update held id (block :: held id)) inHand 0 (manager.push id block) := by
  have outside : ∀ other ∈ manager.caches, block ∉ held other := fun other listed =>
    core.fresh listed (by simp)
  have stored := core.stored id member
  have pushed := stored.push (outside id member) own (stored.room oldest)
  have changed : Core held (block :: inHand) 0 (manager.setBlock block
      { manager.blocks block with
        lastUsed := ((manager.cacheAt id).time + 1) % words }) := by
    refine core.setBlock (fun _ _ => rfl) outside (core.fits block ?_) (core.requested block)
    exact mem_range.mp (core.places.mem_iff.mp (by simp))
  refine (changed.increase (manager.blocks block).size).put member 0 pushed (fun node apart off => ?_)
    ?_ ?_
  · refine InplaceList.push_front_of_ne (fun same => off (same ▸ mem_cons_self)) fun first => ?_
    rw [stored.list.head] at first
    exact apart (mem_of_head? first.symm)
  · exact perm_middle
  · rw [Nat.add_zero, Nat.zero_add]
    rfl

end Caches

end BufferManager

end Redhawk.Buffers
