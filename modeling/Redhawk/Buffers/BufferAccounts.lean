import Redhawk.Buffers.BufferRuns

/-!
What the users of the buffer manager can rely on after any run of calls, thread exits and changes of
its settings, and the requests that have to be left out for that.
-/

namespace Redhawk.Buffers

open Library List

namespace BufferManager

section Steps

variable {held : Nat → List Nat} {inHand : List Nat} {taken : Option Nat} {id : Nat}
  {manager next : BufferManager}

theorem nearestSize_spec {bytes : Nat} (room : bytes + 4112 ≤ words) :
    bytes ≤ nearestSize bytes ∧ required_bytes (nearestSize bytes) = nearestSize bytes + overhead := by
  unfold nearestSize required_bytes usable_bytes overhead words at *
  dsimp only
  split <;> omega

theorem Books.fetch (books : Books [] held inHand taken manager) (member : id ∈ manager.caches) (bytes : Nat) :
    ∃ blocks, Books [] (Function.update held id blocks)
        ((manager.fetch id bytes).1.toList ++ inHand) taken (manager.fetch id bytes).2 ∧
      Same id manager (manager.fetch id bytes).2 ∧
      ∀ block ∈ (manager.fetch id bytes).1, (manager.blocks block).cache = some id ∧
        (manager.blocks block).size = bytes := by
  obtain ⟨blocks, fewer, core, same, kept, hit⟩ := books.core.fetch member bytes
  refine ⟨blocks, books.same same core (fun _ _ _ => by simp) fun _ _ => ?_, same,
    fun block found => ?_⟩
  · obtain ⟨agrees, within⟩ := books.settled id member (by simp)
    refine ⟨same.agrees agrees, within.congr ?_ fewer kept fun _ _ => by rw [same.blocks]⟩
    rw [same.cache]
    exact ⟨rfl, rfl, rfl, rfl, rfl⟩
  · obtain ⟨inside, size⟩ := hit block found
    exact ⟨(books.core.stored id member).own block inside, size⟩

def obtain (manager : BufferManager) (size : Nat) (cache : Option Nat) (bytes : Nat) : BufferManager :=
  { manager with nextBlock := manager.nextBlock + 1 }.setBlock manager.nextBlock
    ⟨size, cache, 0, required_bytes size, bytes⟩

theorem allocateBlock_granted (size : Nat) (cache : Option Nat) (bytes : Nat) :
    (manager.allocateBlock size cache bytes true).2 =
      (manager.obtain size cache bytes).handOut manager.nextBlock bytes := rfl

theorem Books.obtain (books : Books [] held [] taken manager) {size bytes : Nat} {cache : Option Nat}
    (fits : required_bytes size = size + overhead) :
    Books [] held [manager.nextBlock] taken (manager.obtain size cache bytes) := by
  obtain ⟨core, refs, settled⟩ := books
  have old : ∀ block ∈ [] ++ manager.handedOut ++ manager.released ++ manager.caches.flatMap held,
      block ≠ manager.nextBlock := fun block inside =>
    Nat.ne_of_lt (mem_range.mp (core.places.mem_iff.mp inside))
  have kept : ∀ id ∈ manager.caches, ∀ block ∈ held id, block ≠ manager.nextBlock :=
    fun id listed block inside =>
      old block (mem_append_right _ (mem_flatMap.mpr ⟨id, listed, inside⟩))
  have given : ∀ block ∈ manager.handedOut, block ≠ manager.nextBlock := fun block out =>
    old block (by simp [out])
  have changed : Core held [] 0
      (manager.setBlock manager.nextBlock ⟨size, cache, 0, required_bytes size, bytes⟩) :=
    core.setBlock (fun _ _ => rfl) (fun id listed inside => kept id listed _ inside rfl) fits
      fun out => absurd rfl (given _ out)
  refine ⟨⟨core.distinct, core.below, changed.stored, ?_, core.total, core.high, fun block below => ?_,
    changed.requested⟩, refs.transfer rfl rfl (Perm.of_eq ?_) fun _ _ => ⟨rfl, rfl⟩,
    fun other listed free => (settled other listed free).congr ⟨rfl, rfl, rfl, rfl⟩
      fun block inside => blocks_setBlock_of_ne (kept other listed block inside) _⟩
  · change (manager.nextBlock ::
      ([] ++ manager.handedOut ++ manager.released ++ manager.caches.flatMap held)).Perm
        (range (manager.nextBlock + 1))
    rw [range_succ]
    exact (core.places.cons _).trans (perm_append_singleton _ _).symm
  · rcases Nat.lt_succ_iff_lt_or_eq.mp below with old | rfl
    · exact changed.fits block old
    · change ((manager.setBlock manager.nextBlock _).blocks manager.nextBlock).obtained =
        ((manager.setBlock manager.nextBlock _).blocks manager.nextBlock).size + overhead
      rw [blocks_setBlock]
      exact fits
  · refine congrArg (taken.toList ++ ·) (filterMap_congr fun block out => ?_)
    exact congrArg CacheBlock.cache (blocks_setBlock_of_ne (given block out) _)

theorem Books.allocateBlock {cache : Option Nat} (books : Books [] held [] cache manager)
    {size bytes : Nat} (fits : required_bytes size = size + overhead) (enough : bytes ≤ size) :
    Books [] held [] none (manager.allocateBlock size cache bytes true).2 := by
  rw [allocateBlock_granted]
  have made : (manager.obtain size cache bytes).blocks manager.nextBlock =
      ⟨size, cache, 0, required_bytes size, bytes⟩ := Function.update_self ..
  refine Books.handOut ?_ ?_
  · rw [made]
    exact books.obtain fits
  · rw [made]
    exact enough

theorem Books.getCache (books : Books [] held [] none manager) (enabled : manager.enabled = true) (thread : Nat) :
    ∃ held, Books [] held [] none (manager.getCache thread).2 ∧
      (manager.getCache thread).1 ∈ (manager.getCache thread).2.caches := by
  unfold BufferManager.getCache
  cases found : manager.threadCache thread with
  | some id => exact ⟨held, books, (books.refs.threads thread id found).1⟩
  | none =>
      refine ⟨_, books.addCache found enabled, ?_⟩
      exact mem_cons_self

def hit (manager : BufferManager) (thread size : Nat) : Bool :=
  let (id, manager) := manager.getCache thread
  ((manager.incref id).fetch id size).1.isSome

theorem Books.allocate (books : Books [] held [] none manager) {thread bytes : Nat}
    {granted : Bool} (room : bytes + 4112 ≤ words)
    (memory : granted = true ∨ manager.enabled = true ∧ manager.hit thread (nearestSize bytes) = true) :
    ∃ held, Books [] held [] none (manager.allocate thread bytes granted).2 := by
  obtain ⟨enough, fits⟩ := nearestSize_spec room
  unfold BufferManager.allocate
  split
  · next enabled =>
      obtain ⟨held, books, member⟩ := books.getCache enabled thread
      unfold BufferManager.hit at memory
      generalize manager.getCache thread = got at *
      obtain ⟨id, manager⟩ := got
      dsimp only at *
      have counted : Books [] held [] (some id) (manager.incref id) := by
        refine books.recount member (fun other different => ?_) ?_ (Nat.succ_pos _)
        · simp [users, Ne.symm different]
        · rw [references_some, if_pos rfl, books.refs.count id member]
      obtain ⟨blocks, books, same, hit⟩ := counted.fetch (member : id ∈ (manager.incref id).caches)
        (nearestSize bytes)
      generalize (manager.incref id).fetch id (nearestSize bytes) = fetched at *
      obtain ⟨found, manager⟩ := fetched
      cases found with
      | none =>
          rw [memory.resolve_right (by simp)]
          exact ⟨_, books.allocateBlock fits enough⟩
      | some block =>
          obtain ⟨own, size⟩ := hit block rfl
          rw [← same.blocks] at own size
          have inHand : Books [] (Function.update held id blocks) [block] (manager.blocks block).cache
              manager := own ▸ books
          exact ⟨_, inHand.handOut (size ▸ enough)⟩
  · next disabled =>
      rcases memory with rfl | ⟨on, -⟩
      · exact ⟨held, books.allocateBlock fits enough⟩
      · exact absurd on disabled

section

variable (books : Books [] held [] none manager)
include books

theorem Books.refuse (off : manager.enabled = false)
    (thread bytes : Nat) : Books [] held [] none (manager.allocate thread bytes false).2 := by
  unfold BufferManager.allocate BufferManager.allocateBlock
  simp only [off, Bool.false_eq_true, if_false]
  exact books

theorem Books.write {block : Nat} (given : block ∈ manager.handedOut) (link : Link Nat) (lastUsed : Nat) :
    Books [] held [] none
      (({ manager with links := Function.update manager.links block link } : BufferManager).setBlock
        block { manager.blocks block with lastUsed }) :=
  books.setBlock (fun node different => Function.update_of_ne different ..) (by simpa using given) rfl
    (books.core.fits block (books.core.inMemory (by simpa using given))) (books.core.requested block)

theorem Books.reset {change : BufferCache → BufferCache}
    (setting : Setting change) {compacts enabled : Bool} {bytes blocks age : Nat}
    (agrees : ∀ cache, Agrees manager cache →
      (change cache).enabled = enabled ∧ (change cache).maxBytes = bytes ∧
        (change cache).maxBlocks = blocks ∧ (change cache).maxAge = age)
    (within : compacts = false → ∀ cache headers blocks, Within headers cache blocks →
      Within headers (change cache) blocks) :
    ∃ held, Books [] held [] none (manager.caches.foldl (reconfigure change compacts) { manager with
      enabled
      maxThreadBytes := bytes
      maxThreadBlocks := blocks
      maxThreadAge := age }) := by
  obtain ⟨⟨distinct, below, stored, places, total, high, fits, requested⟩, refs, settled⟩ := books
  refine Books.foldl_reconfigure setting
    ⟨⟨distinct, below, stored, places, total, high, fits, requested⟩,
      refs.transfer rfl rfl (Perm.refl _) fun _ _ => ⟨rfl, rfl⟩,
      fun id listed new => absurd listed new⟩
    distinct (Subset.refl _) fun id listed => ?_
  obtain ⟨own, limits⟩ := settled id listed (by simp)
  obtain ⟨enabled, maxBytes, maxBlocks, maxAge⟩ := agrees _ own
  exact ⟨⟨enabled, maxBytes, maxBlocks, maxAge⟩, fun still => within still _ _ _ limits⟩

theorem Books.enable (enabled : Bool) : ∃ held, Books [] held [] none (manager.enable enabled) := by
  refine books.reset (setting_enabled enabled)
    (fun cache agrees => ⟨rfl, agrees.maxBytes, agrees.maxBlocks, agrees.maxAge⟩)
    fun on cache headers blocks within => ⟨fun off => ?_, within.bytes, within.count, within.age⟩
  dsimp only at off
  rw [off] at on
  cases on

theorem Books.setMaxThreadBytes (bytes : Nat) :
    ∃ held, Books [] held [] none (manager.setMaxThreadBytes bytes) :=
  books.reset (setting_maxBytes bytes)
    (fun _ agrees => ⟨agrees.enabled, rfl, agrees.maxBlocks, agrees.maxAge⟩) (by simp)

theorem Books.setMaxThreadBlocks (blocks : Nat) :
    ∃ held, Books [] held [] none (manager.setMaxThreadBlocks blocks) :=
  books.reset (setting_maxBlocks blocks)
    (fun _ agrees => ⟨agrees.enabled, agrees.maxBytes, rfl, agrees.maxAge⟩) (by simp)

theorem Books.setMaxThreadAge (age : Nat) : ∃ held, Books [] held [] none (manager.setMaxThreadAge age) :=
  books.reset (setting_maxAge age)
    (fun _ agrees => ⟨agrees.enabled, agrees.maxBytes, agrees.maxBlocks, rfl⟩) (by simp)

end

theorem books_initial : Books [] (fun _ => []) [] none initial := by
  refine ⟨⟨nodup_nil, ?_, ?_, Perm.refl _, rfl, Nat.le_refl _, ?_, ?_⟩, ⟨?_, ?_, ?_, ?_⟩, ?_⟩
  all_goals simp [initial, users]

def cached (manager : BufferManager) (id : Nat) : List Nat :=
  (manager.cacheAt id).list.contents manager.links

/-- What the users are promised: each block is in one place and large enough, the counters are the
sums, the caches keep to the limits, and they are there as long as something refers to them. -/
structure Accounted (manager : BufferManager) : Prop where
  places : (manager.handedOut ++ manager.released ++ manager.caches.flatMap manager.cached).Perm
    (range manager.nextBlock)
  enough : ∀ block ∈ manager.handedOut,
    (manager.blocks block).requested + overhead ≤ (manager.blocks block).obtained
  bytes : ∀ id ∈ manager.caches, (manager.cacheAt id).currentBytes = sizes manager.blocks (manager.cached id)
  total : manager.currentBytes = (manager.caches.map fun id => sizes manager.blocks (manager.cached id)).sum
  high : manager.currentBytes ≤ manager.highWaterBytes
  settings : ∀ id ∈ manager.caches, Agrees manager (manager.cacheAt id)
  within : ∀ id ∈ manager.caches, Within manager.blocks (manager.cacheAt id) (manager.cached id)
  live : ∀ id, id ∈ manager.caches ↔ (∃ thread, manager.threadCache thread = some id) ∨
    ∃ block ∈ manager.handedOut, (manager.blocks block).cache = some id

theorem Books.accounted (books : Books [] held [] none manager) : Accounted manager := by
  obtain ⟨core, refs, settled⟩ := books
  have cached : ∀ id ∈ manager.caches, manager.cached id = held id := fun id listed =>
    (core.stored id listed).list.contents_eq
  refine ⟨?_, fun block given => ?_, fun id listed => ?_, ?_, core.high,
    fun id listed => (settled id listed (by simp)).agrees, fun id listed => ?_,
    fun id => ⟨fun listed => ?_, ?_⟩⟩
  · rw [flatMap_congr cached]
    exact core.places
  · rw [core.fits block (core.inMemory given)]
    exact Nat.add_le_add_right (core.requested block given) overhead
  · rw [cached id listed]
    exact (core.stored id listed).bytes
  · rw [core.total, Nat.add_zero]
    refine congrArg sum (map_congr_left fun id listed => ?_)
    rw [(core.stored id listed).bytes, cached id listed]
  · rw [cached id listed]
    exact (settled id listed (by simp)).within
  · have needed := refs.needed id listed
    by_cases mine : manager.threadCache (manager.cacheAt id).thread = some id
    · exact .inl ⟨_, mine⟩
    · unfold BufferManager.references at needed
      rw [if_neg mine, Nat.zero_add, count_pos_iff] at needed
      exact .inr (by simpa [users] using needed)
  · rintro (⟨thread, mine⟩ | ⟨block, given, its⟩)
    · exact (refs.threads thread id mine).1
    · exact refs.users id (by simpa [users] using ⟨block, given, its⟩)

end Steps

end BufferManager

/-- A request goes wrong if its size wraps when it is rounded up, or if it finds no memory after it has
counted a reference to its cache. A block that is given back goes wrong only if the oldest one in its
cache has been there for as many stores as there are time stamps. -/
def Allowed (event : Event) (manager : BufferManager) : Prop :=
  match event with
  | .allocate thread bytes granted =>
    manager.enabled = false ∧ granted = false ∨
      bytes + 4112 ≤ words ∧ (granted = true ∨ manager.hit thread (nearestSize bytes) = true)
  | .deallocate block =>
    manager.enabled = true → ∀ id, (manager.blocks block).cache = some id →
      1 < (manager.cacheAt id).refcount →
        ∀ back, (manager.cacheAt id).list.tail = some back → manager.age id back + 1 < words
  | _ => True

open BufferManager

theorem step_books {manager : BufferManager} (books : ∃ held, Books [] held [] none manager) {event : Event}
    (allowed : Allowed event manager) : ∃ held, Books [] held [] none (step event manager) := by
  obtain ⟨held, books⟩ := books
  cases event with
  | allocate thread bytes granted =>
      unfold step
      rcases allowed with ⟨off, rfl⟩ | ⟨room, memory⟩
      · exact ⟨held, books.refuse off thread bytes⟩
      · cases granted with
        | true => exact books.allocate room (.inl rfl)
        | false =>
            cases enabled : manager.enabled with
            | false => exact ⟨held, books.refuse enabled thread bytes⟩
            | true =>
                exact books.allocate room (.inr ⟨enabled, memory.resolve_left Bool.false_ne_true⟩)
  | deallocate block =>
      unfold step
      dsimp only
      split
      · next given => exact books.deallocate given allowed
      · exact ⟨held, books⟩
  | write block link lastUsed =>
      unfold step
      dsimp only
      split
      · next given => exact ⟨held, books.write given link lastUsed⟩
      · exact ⟨held, books⟩
  | exitThread thread => exact books.exitThread thread
  | enable enabled => exact books.enable enabled
  | setMaxThreadBytes bytes => exact books.setMaxThreadBytes bytes
  | setMaxThreadBlocks blocks => exact books.setMaxThreadBlocks blocks
  | setMaxThreadAge age => exact books.setMaxThreadAge age

/-- In a run of requests that do not wrap and find their memory every state is accounted for. -/
theorem accounted_of_allowed (events : List Event) (allowed : Along step Allowed initial events) :
    Accounted (run step initial events) := by
  obtain ⟨held, books⟩ := invariant_run (fun manager => ∃ held, Books [] held [] none manager)
    (fun _ _ books allowed => step_books books allowed) ⟨_, books_initial⟩ allowed
  exact books.accounted

theorem accounted_handed_over :
    Accounted (run step initial [.allocate 0 5000 true, .deallocate 0, .exitThread 0]) := by
  refine accounted_of_allowed _ ⟨.inr ⟨by decide, .inl rfl⟩, fun _ id its more back tail => ?_, trivial, trivial⟩
  cases its
  cases tail

/-- The size of the first request wraps to one byte. The second finds no memory, and its cache is left
when its thread has gone. -/
theorem wrapped_and_leaked :
    ¬ Accounted (run step initial [.allocate 0 18446744073709551601 true]) ∧
      ¬ Accounted (run step initial [.allocate 0 5000 false, .exitThread 0]) := by
  constructor
  · intro accounted
    have enough := accounted.enough 0 (by decide)
    revert enough
    decide
  · intro accounted
    rcases (accounted.live 0).mp (by decide) with ⟨thread, mine⟩ | ⟨block, given, -⟩
    · change Function.update (Function.update (fun _ => none) 0 (some 0)) 0 none thread = _ at mine
      rw [Function.update_idem, Function.update_eq_self_iff.mpr rfl] at mine
      cases mine
    · cases given

end Redhawk.Buffers
