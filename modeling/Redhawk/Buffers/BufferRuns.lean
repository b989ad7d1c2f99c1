import Redhawk.Buffers.BufferBooks
import Redhawk.Library.Runs

/-!
The accounting of the buffer manager over whole runs: the references to a cache, its settings, and
what every call, thread exit and change of a limit keeps.
-/

namespace Redhawk.Buffers

open Library List Function

namespace BufferManager

def users (taken : Option Nat) (manager : BufferManager) : List Nat :=
  taken.toList ++ manager.handedOut.filterMap fun block => (manager.blocks block).cache

def references (taken : Option Nat) (manager : BufferManager) (id : Nat) : Nat :=
  (if manager.threadCache (manager.cacheAt id).thread = some id then 1 else 0) + (manager.users taken).count id

structure Refs (taken : Option Nat) (manager : BufferManager) : Prop where
  threads : ∀ thread id, manager.threadCache thread = some id →
    id ∈ manager.caches ∧ (manager.cacheAt id).thread = thread
  users : ∀ id ∈ manager.users taken, id ∈ manager.caches
  count : ∀ id ∈ manager.caches, (manager.cacheAt id).refcount = manager.references taken id
  needed : ∀ id ∈ manager.caches, 0 < manager.references taken id

structure Agrees (manager : BufferManager) (cache : BufferCache) : Prop where
  enabled : cache.enabled = manager.enabled
  maxBytes : cache.maxBytes = manager.maxThreadBytes
  maxBlocks : cache.maxBlocks = manager.maxThreadBlocks
  maxAge : cache.maxAge = manager.maxThreadAge

structure Settled (manager : BufferManager) (cache : BufferCache) (blocks : List Nat) : Prop where
  agrees : Agrees manager cache
  within : Within manager.blocks cache blocks

/-- The books of the manager, where only busy caches may be beyond their limits. -/
structure Books (busy : List Nat) (held : Nat → List Nat) (inHand : List Nat) (taken : Option Nat)
    (manager : BufferManager) : Prop where
  core : Core held inHand 0 manager
  refs : Refs taken manager
  settled : ∀ id ∈ manager.caches, id ∉ busy → Settled manager (manager.cacheAt id) (held id)

section Steps

variable {busy : List Nat} {held : Nat → List Nat} {inHand : List Nat} {taken taken' : Option Nat} {id : Nat} {manager next : BufferManager} {cache : BufferCache} {blocks : List Nat}

theorem Refs.transfer (refs : Refs taken manager) (caches : next.caches = manager.caches)
    (threads : next.threadCache = manager.threadCache)
    (users : (next.users taken').Perm (manager.users taken))
    (fields : ∀ id ∈ manager.caches, (next.cacheAt id).thread = (manager.cacheAt id).thread ∧
      (next.cacheAt id).refcount = (manager.cacheAt id).refcount) :
    Refs taken' next := by
  have references : ∀ id ∈ manager.caches,
      next.references taken' id = manager.references taken id := by
    intro id listed
    unfold BufferManager.references
    rw [threads, (fields id listed).1, users.count_eq]
  refine ⟨fun thread id found => ?_, fun id used => ?_, fun id listed => ?_, fun id listed => ?_⟩
  · rw [threads] at found
    obtain ⟨listed, own⟩ := refs.threads thread id found
    rw [caches, (fields id listed).1]
    exact ⟨listed, own⟩
  · rw [caches]
    exact refs.users id (users.mem_iff.mp used)
  · rw [caches] at listed
    rw [references id listed, (fields id listed).2]
    exact refs.count id listed
  · rw [caches] at listed
    rw [references id listed]
    exact refs.needed id listed

theorem Refs.same (refs : Refs taken manager) (same : Same id manager next) : Refs taken next := by
  refine refs.transfer same.caches (by rw [same.rest])
    (Perm.of_eq (by rw [same.rest]; rfl)) fun other _ => ?_
  by_cases mine : other = id
  · rw [mine, same.cache]
    exact ⟨rfl, rfl⟩
  · rw [same.others other mine]
    exact ⟨rfl, rfl⟩

theorem Settled.congr (settled : Settled manager cache blocks)
    (settings : next.enabled = manager.enabled ∧ next.maxThreadBytes = manager.maxThreadBytes ∧
      next.maxThreadBlocks = manager.maxThreadBlocks ∧ next.maxThreadAge = manager.maxThreadAge)
    (headers : ∀ block ∈ blocks, next.blocks block = manager.blocks block) :
    Settled next cache blocks := by
  obtain ⟨⟨enabled, maxBytes, maxBlocks, maxAge⟩, within⟩ := settled
  obtain ⟨enabled', maxBytes', maxBlocks', maxAge'⟩ := settings
  exact ⟨⟨enabled.trans enabled'.symm, maxBytes.trans maxBytes'.symm,
    maxBlocks.trans maxBlocks'.symm, maxAge.trans maxAge'.symm⟩,
    within.congr ⟨rfl, rfl, rfl, rfl, rfl⟩ (Sublist.refl _) (Nat.le_refl _) headers⟩

theorem Same.settings (same : Same id manager next) :
    next.enabled = manager.enabled ∧ next.maxThreadBytes = manager.maxThreadBytes ∧
      next.maxThreadBlocks = manager.maxThreadBlocks ∧ next.maxThreadAge = manager.maxThreadAge := by
  rw [same.rest]
  exact ⟨rfl, rfl, rfl, rfl⟩

theorem Same.agrees (same : Same id manager next) (agrees : Agrees manager (manager.cacheAt id)) :
    Agrees next (next.cacheAt id) := by
  obtain ⟨enabled, maxBytes, maxBlocks, maxAge⟩ := agrees
  rw [same.rest, ← same.rest, same.cache]
  obtain ⟨enabled', maxBytes', maxBlocks', maxAge'⟩ := same.settings
  exact ⟨enabled.trans enabled'.symm, maxBytes.trans maxBytes'.symm,
    maxBlocks.trans maxBlocks'.symm, maxAge.trans maxAge'.symm⟩

theorem Books.same (books : Books busy held inHand taken manager) (same : Same id manager next)
    {blocks rest : List Nat} (core : Core (update held id blocks) rest 0 next)
    {busy' : List Nat} (others : ∀ other, other ∉ busy' → other ≠ id → other ∉ busy)
    (mine : id ∈ manager.caches → id ∉ busy' → Settled next (next.cacheAt id) blocks) :
    Books busy' (update held id blocks) rest taken next := by
  refine ⟨core, books.refs.same same, fun other listed free => ?_⟩
  rw [same.caches] at listed
  by_cases own : other = id
  · subst own
    rw [update_self]
    exact mine listed free
  · rw [same.others other own, update_of_ne own]
    exact (books.settled other listed (others other free own)).congr same.settings fun _ _ => by
      rw [same.blocks]

theorem Books.compact (books : Books (id :: busy) held inHand taken manager)
    (member : id ∈ manager.caches) (agrees : Agrees manager (manager.cacheAt id)) :
    ∃ kept, Books busy (update held id kept) inHand taken (manager.compact id) ∧
      Same id manager (manager.compact id) := by
  obtain ⟨kept, -, core, same, limit⟩ := books.core.compact member
  have within := core.within (same.caches ▸ member) limit
  rw [update_self] at within
  refine ⟨kept, books.same same core (fun other free own => ?_) fun _ _ =>
    ⟨same.agrees agrees, within⟩, same⟩
  simp [own, free]

theorem Refs.recount (refs : Refs taken manager) (member : id ∈ manager.caches)
    (thread : cache.thread = (manager.cacheAt id).thread)
    (others : ∀ other ≠ id, (manager.users taken').count other = (manager.users taken).count other)
    (count : cache.refcount = manager.references taken' id)
    (needed : 0 < manager.references taken' id) : Refs taken' (manager.setCache id cache) := by
  have threads : ∀ other,
      ((manager.setCache id cache).cacheAt other).thread = (manager.cacheAt other).thread := by
    intro other
    by_cases mine : other = id
    · rw [mine, cacheAt_setCache, thread]
    · rw [cacheAt_setCache_of_ne mine]
  have references : ∀ other, (manager.setCache id cache).references taken' other =
      manager.references taken' other := by
    intro other
    unfold BufferManager.references
    rw [threads]
    rfl
  have same : ∀ other ≠ id, manager.references taken' other = manager.references taken other := by
    intro other different
    unfold BufferManager.references
    rw [others other different]
  refine ⟨fun other key found => ?_, fun other used => ?_, fun other listed => ?_, fun other listed => ?_⟩
  · rw [threads]
    exact refs.threads other key found
  · by_cases mine : other = id
    · exact mine ▸ member
    · have used : other ∈ manager.users taken' := used
      rw [← count_pos_iff, others other mine, count_pos_iff] at used
      exact refs.users other used
  · rw [references]
    by_cases mine : other = id
    · rw [mine, cacheAt_setCache, count]
    · rw [cacheAt_setCache_of_ne mine, same other mine]
      exact refs.count other listed
  · rw [references]
    by_cases mine : other = id
    · rwa [mine]
    · rw [same other mine]
      exact refs.needed other listed

theorem settled_setCache {other : Nat} (different : other ≠ id)
    (settled : Settled manager (manager.cacheAt other) blocks) :
    Settled (manager.setCache id cache) ((manager.setCache id cache).cacheAt other) blocks := by
  rw [cacheAt_setCache_of_ne different]
  exact settled.congr ⟨rfl, rfl, rfl, rfl⟩ fun _ _ => rfl

theorem Books.recount (books : Books [] held inHand taken manager) (member : id ∈ manager.caches)
    (others : ∀ other ≠ id, (manager.users taken').count other = (manager.users taken).count other)
    {refcount : Nat} (count : refcount = manager.references taken' id) (needed : 0 < refcount) :
    Books [] held inHand taken'
      (manager.setCache id { manager.cacheAt id with refcount }) := by
  refine ⟨books.core.setCache member rfl rfl rfl,
    books.refs.recount member rfl others count (count ▸ needed), fun other listed free => ?_⟩
  by_cases mine : other = id
  · subst mine
    rw [cacheAt_setCache]
    obtain ⟨⟨enabled, maxBytes, maxBlocks, maxAge⟩, within⟩ := books.settled other listed free
    exact ⟨⟨enabled, maxBytes, maxBlocks, maxAge⟩, within.congr ⟨rfl, rfl, rfl, rfl, rfl⟩
      (Sublist.refl _) (Nat.le_refl _) fun _ _ => rfl⟩
  · exact settled_setCache mine (books.settled other listed free)

structure Setting (change : BufferCache → BufferCache) : Prop where
  thread : ∀ cache, (change cache).thread = cache.thread
  time : ∀ cache, (change cache).time = cache.time
  refcount : ∀ cache, (change cache).refcount = cache.refcount
  bytes : ∀ cache, (change cache).currentBytes = cache.currentBytes
  list : ∀ cache, (change cache).list = cache.list

variable {change : BufferCache → BufferCache}

theorem Books.foldl_reconfigure (setting : Setting change)
    {compacts : Bool} {todo : List Nat} (books : Books todo held inHand taken manager)
    (nodup : todo.Nodup) (listed : todo ⊆ manager.caches)
    (after : ∀ id ∈ todo, Agrees manager (change (manager.cacheAt id)) ∧
      (compacts = false → Within manager.blocks (change (manager.cacheAt id)) (held id))) :
    ∃ held, Books [] held inHand taken (todo.foldl (reconfigure change compacts) manager) := by
  induction todo generalizing held manager with
  | nil => exact ⟨held, books⟩
  | cons id rest ih =>
      obtain ⟨fresh, nodup⟩ := nodup_cons.mp nodup
      obtain ⟨member, listed⟩ := cons_subset.mp listed
      obtain ⟨⟨agrees, within⟩, after⟩ := forall_mem_cons.mp after
      have changed : Books (id :: rest) held inHand taken
          (manager.setCache id (change (manager.cacheAt id))) := by
        refine ⟨books.core.setCache member (setting.list _) (setting.bytes _) (setting.time _),
          books.refs.recount member (setting.thread _) (fun _ _ => rfl) ?_ (books.refs.needed id member),
          fun other known free => ?_⟩
        · rw [setting.refcount, books.refs.count id member]
        · exact settled_setCache (fun same => free (same ▸ mem_cons_self)) (books.settled other known free)
      have done : ∃ blocks,
          Books rest (update held id blocks) inHand taken
            (reconfigure change compacts manager id) ∧
          Same id (manager.setCache id (change (manager.cacheAt id)))
            (reconfigure change compacts manager id) := by
        cases compacts with
        | false =>
            refine ⟨held id, changed.same Same.refl ?_ (fun other free own => ?_) fun _ _ => ?_, Same.refl⟩
            · rw [update_eq_self]
              exact changed.core
            · simp [own, free]
            · rw [cacheAt_setCache]
              exact ⟨⟨agrees.enabled, agrees.maxBytes, agrees.maxBlocks, agrees.maxAge⟩, within rfl⟩
        | true =>
            refine changed.compact member ?_
            rw [cacheAt_setCache]
            exact ⟨agrees.enabled, agrees.maxBytes, agrees.maxBlocks, agrees.maxAge⟩
      obtain ⟨blocks, books, same⟩ := done
      refine ih books nodup (same.caches ▸ listed) fun other waiting => ?_
      have different : other ≠ id := fun same => fresh (same ▸ waiting)
      rw [same.others other different, cacheAt_setCache_of_ne different, same.blocks,
        update_of_ne different]
      obtain ⟨⟨enabled, maxBytes, maxBlocks, maxAge⟩, within⟩ := after other waiting
      obtain ⟨enabled', maxBytes', maxBlocks', maxAge'⟩ := same.settings
      exact ⟨⟨enabled.trans enabled'.symm, maxBytes.trans maxBytes'.symm,
        maxBlocks.trans maxBlocks'.symm, maxAge.trans maxAge'.symm⟩, within⟩

theorem references_some (other : Nat) :
    manager.references (some id) other =
      manager.references none other + if other = id then 1 else 0 := by
  unfold BufferManager.references BufferManager.users
  rw [Option.toList_some, Option.toList_none, nil_append, singleton_append,
    count_cons, Nat.add_assoc]
  by_cases same : other = id
  · simp [same]
  · simp [same, Ne.symm same]

theorem Core.removeCache {owed : Nat} (core : Core held inHand owed manager)
    (member : id ∈ manager.caches) (empty : held id = []) :
    Core held inHand owed (manager.removeCache id) := by
  have subset : ∀ other, other ∈ manager.caches.erase id → other ∈ manager.caches := fun other =>
    mem_of_mem_erase
  refine ⟨core.distinct.erase id, fun other listed => core.below other (subset other listed),
    fun other listed => core.stored other (subset other listed), ?_, ?_, core.high, core.fits,
    core.requested⟩
  · have split := flatMap_perm held member
    rw [empty, nil_append] at split
    exact (Perm.append_left _ split.symm).trans core.places
  · have split := sum_perm (fun id => (manager.cacheAt id).currentBytes) member
    have bytes := (core.stored id member).bytes
    rw [empty] at bytes
    have total := core.total
    rw [split, bytes] at total
    exact total.trans (by simp [sizes, BufferManager.removeCache])

theorem Books.dismiss (books : Books [] held inHand (some id) manager) (member : id ∈ manager.caches)
    (unused : manager.references none id = 0) {cache : BufferCache}
    (list : cache.list = (manager.cacheAt id).list)
    (bytes : cache.currentBytes = (manager.cacheAt id).currentBytes)
    (time : cache.time = (manager.cacheAt id).time) (off : cache.enabled = false) :
    Books [] (update held id []) inHand none (((manager.setCache id cache).compact id).removeCache id) ∧
      (((manager.setCache id cache).compact id).removeCache id).blocks = manager.blocks := by
  obtain ⟨kept, -, core, same, limit⟩ := (books.core.setCache member list bytes time).compact member
  have caches : ((manager.setCache id cache).compact id).caches = manager.caches := same.caches
  have within := core.within (caches ▸ member) limit
  have empty : kept = [] := by
    have none := within.disabled (by rw [same.cache, cacheAt_setCache, off])
    rwa [update_self] at none
  subst empty
  refine ⟨⟨core.removeCache (caches ▸ member) (update_self ..), ?_, ?_⟩, same.blocks⟩
  all_goals generalize (manager.setCache id cache).compact id = next at *
  · have threads : next.threadCache = manager.threadCache := by rw [same.rest]; rfl
    have users : (next.removeCache id).users none = manager.users none := by rw [same.rest]; rfl
    have shrunk : (next.removeCache id).caches = manager.caches.erase id :=
      congrArg (List.erase · id) caches
    have others : ∀ other ∈ next.caches.erase id, other ∈ manager.caches ∧ other ≠ id ∧
        next.cacheAt other = manager.cacheAt other := by
      intro other left
      rw [caches, books.core.distinct.mem_erase_iff] at left
      exact ⟨left.2, left.1, (same.others other left.1).trans (cacheAt_setCache_of_ne left.1 _)⟩
    have references : ∀ other ∈ next.caches.erase id,
        (next.removeCache id).references none other = manager.references (some id) other := by
      intro other left
      obtain ⟨-, different, kept⟩ := others other left
      rw [references_some, if_neg different, Nat.add_zero]
      unfold BufferManager.references
      rw [← users, ← threads, ← kept]
      rfl
    unfold BufferManager.references at unused
    refine ⟨fun thread other found => ?_, fun other used => ?_, fun other left => ?_, fun other left => ?_⟩
    · replace found := threads ▸ (found : next.threadCache thread = some other)
      obtain ⟨listed, own⟩ := books.refs.threads thread other found
      have different : other ≠ id := by
        rintro rfl
        rw [own, if_pos found] at unused
        omega
      refine ⟨?_, ?_⟩
      · exact shrunk ▸ (mem_erase_of_ne different).mpr listed
      · exact ((same.others other different).trans (cacheAt_setCache_of_ne different _)) ▸ own
    · rw [users] at used
      have different : other ≠ id := by
        rintro rfl
        have counted := count_pos_iff.mpr used
        omega
      exact shrunk ▸ (mem_erase_of_ne different).mpr (books.refs.users other (mem_append_right _ used))
    · rw [references other left]
      obtain ⟨listed, -, kept⟩ := others other left
      exact (congrArg BufferCache.refcount kept).trans (books.refs.count other listed)
    · rw [references other left]
      exact books.refs.needed other (others other left).1
  · intro other left _
    have left : other ∈ next.caches.erase id := left
    rw [caches, books.core.distinct.mem_erase_iff] at left
    obtain ⟨different, listed⟩ := left
    have kept := (same.others other different).trans (cacheAt_setCache_of_ne different _)
    rw [update_of_ne different]
    refine (kept ▸ books.settled other listed (by simp) : Settled manager _ _).congr ?_ fun _ _ => ?_
    · exact same.settings
    · exact congrFun same.blocks _

theorem Books.decref (books : Books [] held inHand (some id) manager) (member : id ∈ manager.caches) :
    ((manager.decref id).1 = true ∧ 1 < (manager.cacheAt id).refcount ∧
      Books [] held inHand none (manager.decref id).2 ∧
      (manager.decref id).2 = manager.setCache id
        { manager.cacheAt id with refcount := (manager.cacheAt id).refcount - 1 }) ∨
    ((manager.decref id).1 = false ∧ Books [] (update held id []) inHand none (manager.decref id).2 ∧
      (manager.decref id).2.blocks = manager.blocks) := by
  have counted := books.refs.count id member
  rw [references_some, if_pos rfl] at counted
  unfold BufferManager.decref
  dsimp only
  split
  · next last =>
      refine .inr ⟨rfl, ?_⟩
      unfold BufferManager.destroy
      rw [cacheAt_setCache, setCache_setCache]
      exact books.dismiss member (by omega) rfl rfl rfl rfl
  · next more =>
      refine .inl ⟨rfl, by omega, books.recount member (fun other different => ?_) ?_ (by omega), rfl⟩
      · simp [users, Ne.symm different]
      · omega

theorem Books.setBlock (books : Books busy held inHand taken manager) {block : Nat}
    {header : CacheBlock} {links : Nat → Link Nat}
    (same : ∀ node ≠ block, links node = manager.links node)
    (elsewhere : block ∈ inHand ++ manager.handedOut)
    (cache : header.cache = (manager.blocks block).cache)
    (fits : header.obtained = header.size + overhead)
    (requested : block ∈ manager.handedOut → header.requested ≤ header.size) :
    Books busy held inHand taken
      (({ manager with links } : BufferManager).setBlock block header) := by
  have outside : ∀ id ∈ manager.caches, block ∉ held id := fun id listed =>
    books.core.fresh listed elsewhere
  refine ⟨books.core.setBlock same outside fits requested,
    books.refs.transfer rfl rfl (Perm.of_eq ?_) fun _ _ => ⟨rfl, rfl⟩, fun id listed free => ?_⟩
  · refine congrArg (taken.toList ++ ·) (filterMap_congr fun node _ => ?_)
    by_cases mine : node = block
    · rw [mine, blocks_setBlock, cache]
    · rw [blocks_setBlock_of_ne mine]
  · refine (books.settled id listed free).congr ⟨rfl, rfl, rfl, rfl⟩ fun node inside => ?_
    refine blocks_setBlock_of_ne ?_ _
    rintro rfl
    exact outside id listed inside

theorem Core.inMemory {owed block : Nat} (core : Core held inHand owed manager)
    (elsewhere : block ∈ inHand ++ manager.handedOut) : block < manager.nextBlock :=
  mem_range.mp (core.places.mem_iff.mp (mem_append_left _ (mem_append_left _ elsewhere)))

theorem Books.store {block : Nat} (books : Books [] held (block :: inHand) none manager)
    (member : id ∈ manager.caches) (own : (manager.blocks block).cache = some id)
    (oldest : ∀ back, (manager.cacheAt id).list.tail = some back → manager.age id back + 1 < words) :
    ∃ held, Books [] held inHand none (manager.store id block) := by
  have others : ∀ other ≠ id, (manager.push id block).cacheAt other = manager.cacheAt other :=
    fun other different => cacheAt_setCache_of_ne different _
  have mine : (manager.push id block).cacheAt id = _ := cacheAt_setCache _
  have stamped : Books [] held (block :: inHand) none (manager.setBlock block
      { manager.blocks block with lastUsed := ((manager.cacheAt id).time + 1) % words }) :=
    books.setBlock (fun _ _ => rfl) (by simp) rfl
      (books.core.fits block (books.core.inMemory (by simp))) (books.core.requested block)
  have pushed : Books [id] (update held id (block :: held id)) inHand none (manager.push id block) := by
    refine ⟨books.core.push member own oldest,
      stamped.refs.transfer rfl rfl (Perm.refl _) fun other _ => ?_, fun other listed free => ?_⟩
    · by_cases same : other = id
      · rw [same, mine]
        exact ⟨rfl, rfl⟩
      · rw [others other same]
        exact ⟨rfl, rfl⟩
    · have different : other ≠ id := fun same => free (same ▸ mem_singleton_self id)
      rw [others other different, update_of_ne different]
      exact (stamped.settled other listed (by simp)).congr ⟨rfl, rfl, rfl, rfl⟩ fun _ _ => rfl
  obtain ⟨kept, done, -⟩ := pushed.compact member (by
    obtain ⟨enabled, maxBytes, maxBlocks, maxAge⟩ := (books.settled id member (by simp)).agrees
    rw [mine]
    exact ⟨enabled, maxBytes, maxBlocks, maxAge⟩)
  exact ⟨_, done⟩

theorem Books.takeBack (books : Books [] held [] none manager) {block : Nat} (given : block ∈ manager.handedOut) :
    Books [] held [block] (manager.blocks block).cache
      { manager with handedOut := manager.handedOut.erase block } := by
  obtain ⟨core, refs, settled⟩ := books
  have perm := perm_cons_erase given
  refine ⟨⟨core.distinct, core.below, core.stored, ?_, core.total, core.high, core.fits,
    fun other kept => core.requested other (mem_of_mem_erase kept)⟩,
    refs.transfer rfl rfl ?_ fun _ _ => ⟨rfl, rfl⟩,
    fun other listed free => (settled other listed free).congr ⟨rfl, rfl, rfl, rfl⟩ fun _ _ => rfl⟩
  · have places := core.places
    rw [perm_iff_count] at perm places ⊢
    intro node
    have one := perm node
    have all := places node
    simp only [count_append, count_cons, count_nil] at one all ⊢
    omega
  · refine Perm.trans ?_ (perm.symm.filterMap fun block => (manager.blocks block).cache)
    rw [filterMap_cons]
    cases (manager.blocks block).cache <;> exact Perm.refl _

theorem Books.release {block : Nat} (books : Books [] held (block :: inHand) none manager) :
    Books [] held inHand none (manager.release block) :=
  ⟨books.core.release, books.refs.transfer rfl rfl (Perm.refl _) fun _ _ => ⟨rfl, rfl⟩,
    fun other listed free => (books.settled other listed free).congr ⟨rfl, rfl, rfl, rfl⟩
      fun _ _ => rfl⟩

theorem Books.deallocate (books : Books [] held [] none manager) {block : Nat} (given : block ∈ manager.handedOut)
    (room : manager.enabled = true → ∀ id, (manager.blocks block).cache = some id →
      1 < (manager.cacheAt id).refcount → ∀ back, (manager.cacheAt id).list.tail = some back →
        manager.age id back + 1 < words) :
    ∃ held, Books [] held [] none (manager.deallocate block) := by
  have taken := books.takeBack given
  unfold BufferManager.deallocate
  dsimp only
  cases its : (manager.blocks block).cache with
  | none =>
      rw [its] at taken
      exact ⟨held, taken.release⟩
  | some id =>
      rw [its] at taken
      have member := taken.refs.users id (by simp [users])
      dsimp only
      rcases taken.decref member with ⟨alive, more, books, made⟩ | ⟨gone, books, -⟩
      · rw [alive, Bool.true_and]
        split
        · next enabled =>
            rw [made] at books enabled ⊢
            refine books.store member its fun back tail => ?_
            rw [cacheAt_setCache] at tail
            have free := room enabled id its more back tail
            unfold BufferManager.age at free ⊢
            rw [cacheAt_setCache]
            exact free
        · exact ⟨held, books.release⟩
      · rw [gone, Bool.false_and, if_neg Bool.false_ne_true]
        exact ⟨_, books.release⟩

theorem Books.exitThread (books : Books [] held [] none manager) (thread : Nat) :
    ∃ held, Books [] held [] none (manager.exitThread thread) := by
  unfold BufferManager.exitThread
  cases found : manager.threadCache thread with
  | none => exact ⟨held, books⟩
  | some id =>
      obtain ⟨⟨distinct, below, stored, places, total, high, fits, requested⟩, refs, settled⟩ := books
      obtain ⟨member, own⟩ := refs.threads thread id found
      have references : ∀ other ∈ manager.caches,
          ({ manager with threadCache := update manager.threadCache thread none } :
            BufferManager).references (some id) other = manager.references none other := by
        intro other listed
        rw [references_some]
        unfold BufferManager.references
        by_cases mine : other = id
        · subst mine
          simp [own, found, Nat.add_comm]
          rfl
        · by_cases same : (manager.cacheAt other).thread = thread
          · simp [same, found, mine, Ne.symm mine]
            rfl
          · simp [update_of_ne same, mine]
            rfl
      have books : Books [] held [] (some id)
          { manager with threadCache := update manager.threadCache thread none } := by
        refine ⟨⟨distinct, below, stored, places, total, high, fits, requested⟩,
          ⟨fun other key known => ?_, fun other used => ?_, fun other listed => ?_,
            fun other listed => ?_⟩, fun other listed free =>
            (settled other listed free).congr ⟨rfl, rfl, rfl, rfl⟩ fun _ _ => rfl⟩
        · dsimp only at known
          by_cases same : other = thread
          · rw [same, update_self] at known
            cases known
          · rw [update_of_ne same] at known
            exact refs.threads other key known
        · rcases mem_cons.mp used with rfl | used
          · exact member
          · exact refs.users other used
        · rw [references other listed]
          exact refs.count other listed
        · rw [references other listed]
          exact refs.needed other listed
      rcases books.decref member with ⟨-, -, books, -⟩ | ⟨-, books, -⟩
      · exact ⟨_, books⟩
      · exact ⟨_, books⟩

theorem compact_empty (empty : (manager.cacheAt id).list = InplaceList.empty) :
    manager.compact id = manager := by
  unfold BufferManager.compact
  rw [empty]
  dsimp only [InplaceList.empty, BufferManager.compactLoop]
  rw [Nat.sub_self, if_neg (Nat.lt_irrefl 0)]

theorem reconfigure_empty (setting : Setting change)
    (empty : (manager.cacheAt id).list = InplaceList.empty) (compacts : Bool) :
    reconfigure change compacts manager id = manager.setCache id (change (manager.cacheAt id)) := by
  unfold reconfigure
  split
  · apply compact_empty
    rw [cacheAt_setCache, setting.list, empty]
  · rfl

theorem setting_maxBytes (bytes : Nat) : Setting fun cache => { cache with maxBytes := bytes } :=
  ⟨fun _ => rfl, fun _ => rfl, fun _ => rfl, fun _ => rfl, fun _ => rfl⟩

theorem setting_maxBlocks (blocks : Nat) : Setting fun cache => { cache with maxBlocks := blocks } :=
  ⟨fun _ => rfl, fun _ => rfl, fun _ => rfl, fun _ => rfl, fun _ => rfl⟩

theorem setting_maxAge (age : Nat) : Setting fun cache => { cache with maxAge := age } :=
  ⟨fun _ => rfl, fun _ => rfl, fun _ => rfl, fun _ => rfl, fun _ => rfl⟩

theorem setting_enabled (enabled : Bool) : Setting fun cache => { cache with enabled } :=
  ⟨fun _ => rfl, fun _ => rfl, fun _ => rfl, fun _ => rfl, fun _ => rfl⟩

theorem addCache_eq (thread : Nat) :
    manager.addCache thread =
      { manager with
        nextCache := manager.nextCache + 1
        cacheAt := update manager.cacheAt manager.nextCache
          { BufferCache.make thread with
            maxBytes := manager.maxThreadBytes
            maxBlocks := manager.maxThreadBlocks
            maxAge := manager.maxThreadAge }
        caches := manager.nextCache :: manager.caches
        threadCache := update manager.threadCache thread (some manager.nextCache) } := by
  unfold addCache BufferManager.setMaxBytes BufferManager.setMaxBlocks BufferManager.setMaxAge
  dsimp only
  rw [reconfigure_empty (setting_maxBytes _) (by rw [cacheAt_setCache]; rfl),
    reconfigure_empty (setting_maxBlocks _) (by rw [cacheAt_setCache, cacheAt_setCache]; rfl),
    reconfigure_empty (setting_maxAge _)
      (by rw [cacheAt_setCache, cacheAt_setCache, cacheAt_setCache]; rfl)]
  simp [BufferManager.setCache]

theorem Books.addCache (books : Books [] held [] none manager) {thread : Nat}
    (new : manager.threadCache thread = none) (enabled : manager.enabled = true) :
    Books [] (update held manager.nextCache []) [] none (manager.addCache thread) := by
  obtain ⟨core, refs, settled⟩ := books
  have apart : ∀ other ∈ manager.caches, other ≠ manager.nextCache := fun other listed =>
    Nat.ne_of_lt (core.below other listed)
  have fresh : manager.nextCache ∉ manager.caches := fun listed => apart _ listed rfl
  have kept : ∀ other ∈ manager.caches,
      update held manager.nextCache [] other = held other := fun other listed =>
    update_of_ne (apart other listed) ..
  have used : (manager.users none).count manager.nextCache = 0 :=
    count_eq_zero.mpr fun used => fresh (refs.users _ used)
  rw [addCache_eq]
  generalize made : ({ BufferCache.make thread with
    maxBytes := manager.maxThreadBytes
    maxBlocks := manager.maxThreadBlocks
    maxAge := manager.maxThreadAge } : BufferCache) = cache
  have others : ∀ other ∈ manager.caches,
      update manager.cacheAt manager.nextCache cache other = manager.cacheAt other :=
    fun other listed => update_of_ne (apart other listed) ..
  generalize grown : ({ manager with
    nextCache := manager.nextCache + 1
    cacheAt := update manager.cacheAt manager.nextCache cache
    caches := manager.nextCache :: manager.caches
    threadCache := update manager.threadCache thread (some manager.nextCache) } :
      BufferManager) = next
  have mine : next.references none manager.nextCache = 1 := by
    subst grown made
    unfold BufferManager.references
    simp only [update_self, BufferCache.make, if_true]
    exact congrArg (1 + ·) used
  have references : ∀ other ∈ manager.caches,
      next.references none other = manager.references none other := by
    intro other listed
    subst grown
    refine congrArg (· + _) (if_congr (Iff.of_eq ?_) rfl rfl)
    dsimp only
    rw [others other listed]
    by_cases same : (manager.cacheAt other).thread = thread
    · simp [same, new, (apart other listed).symm]
    · rw [update_of_ne same]
  subst grown
  refine ⟨⟨nodup_cons.mpr ⟨fresh, core.distinct⟩,
      forall_mem_cons.mpr ⟨Nat.lt_succ_self _, fun other listed =>
        Nat.lt_succ_of_lt (core.below other listed)⟩,
      forall_mem_cons.mpr ⟨?_, fun other listed => ?_⟩, ?_, ?_, core.high, core.fits,
      core.requested⟩,
    ⟨fun other key found => ?_, fun other used => mem_cons_of_mem _ (refs.users other used),
      forall_mem_cons.mpr ⟨?_, fun other listed => ?_⟩,
      forall_mem_cons.mpr ⟨mine ▸ Nat.one_pos, fun other listed => ?_⟩⟩,
    forall_mem_cons.mpr ⟨fun _ => ?_, fun other listed free => ?_⟩⟩
  all_goals try dsimp only
  · rw [update_self, update_self, ← made]
    exact ⟨⟨nodup_nil, rfl, rfl, rfl, trivial⟩, by simp, rfl, (by decide : 0 < words), by simp, List.Pairwise.nil⟩
  · rw [others other listed, kept other listed]
    exact core.stored other listed
  · rw [flatMap_cons, update_self, nil_append, flatMap_congr kept]
    exact core.places
  · rw [map_cons, sum_cons, update_self,
      map_congr_left fun other listed => congrArg BufferCache.currentBytes (others other listed),
      core.total, ← made]
    simp [BufferCache.make]
  · dsimp only at found
    by_cases same : other = thread
    · rw [same, update_self] at found
      cases found
      rw [update_self, ← made]
      exact ⟨mem_cons_self, same.symm⟩
    · rw [update_of_ne same] at found
      obtain ⟨listed, own⟩ := refs.threads other key found
      rw [others key listed]
      exact ⟨mem_cons_of_mem _ listed, own⟩
  · rw [mine, update_self, ← made]
    rfl
  · rw [references other listed, others other listed]
    exact refs.count other listed
  · rw [references other listed]
    exact refs.needed other listed
  · rw [update_self, update_self, ← made]
    exact ⟨⟨enabled.symm, rfl, rfl, rfl⟩, fun _ => rfl, Nat.zero_le _, Nat.zero_le _, by simp⟩
  · rw [others other listed, kept other listed]
    exact (settled other listed free).congr ⟨rfl, rfl, rfl, rfl⟩ fun _ _ => rfl

theorem Books.handOut {block : Nat}
    (books : Books [] held [block] (manager.blocks block).cache manager) {bytes : Nat}
    (enough : bytes ≤ (manager.blocks block).size) :
    Books [] held [] none (manager.handOut block bytes) := by
  have noted : Books [] held [block] (manager.blocks block).cache
      (manager.setBlock block { manager.blocks block with requested := bytes }) :=
    books.setBlock (fun _ _ => rfl) (by simp) rfl
      (books.core.fits block (books.core.inMemory (by simp))) fun _ => enough
  obtain ⟨⟨distinct, below, stored, places, total, high, fits, requested⟩, refs, settled⟩ := noted
  refine ⟨⟨distinct, below, stored, places, total, high, fits, forall_mem_cons.mpr ⟨?_, requested⟩⟩,
    refs.transfer rfl rfl (Perm.of_eq ?_) fun _ _ => ⟨rfl, rfl⟩, fun other listed free =>
      (settled other listed free).congr ⟨rfl, rfl, rfl, rfl⟩ fun _ _ => rfl⟩
  · change ((manager.setBlock block _).blocks block).requested ≤ ((manager.setBlock block _).blocks block).size
    rw [blocks_setBlock]
    exact enough
  · change [] ++ (block :: manager.handedOut).filterMap (fun node =>
      ((manager.setBlock block _).blocks node).cache) = _
    rw [nil_append, filterMap_cons, blocks_setBlock]
    cases (manager.blocks block).cache <;> rfl

end Steps

end BufferManager

end Redhawk.Buffers
