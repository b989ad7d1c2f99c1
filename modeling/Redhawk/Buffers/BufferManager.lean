import Redhawk.Buffers.InplaceList

/-!
The buffer manager and its caches, one for each thread (`BufferManager.cpp`). The arithmetic of sizes
and of time stamps is that of the 64-bit type. The counters are over blocks that lie in memory at the
same time, so that they cannot wrap unless the size of one of these has.
-/

namespace Redhawk.Buffers

open Library

def words : Nat := 18446744073709551616

/-- The header of a block, which lies in front of the memory handed out, and the time stamp that
overlays that memory while the block is in a cache. The last two are history: what `operator new` was
asked for, and what the block was last handed out for. -/
structure CacheBlock where
  size : Nat
  cache : Option Nat
  lastUsed : Nat
  obtained : Nat
  requested : Nat

def overhead : Nat := 16

def required_bytes (bytes : Nat) : Nat := (bytes + overhead) % words

def usable_bytes (bytes : Nat) : Nat := (bytes + words - overhead) % words

def nearestSize (bytes : Nat) : Nat :=
  let bytes := required_bytes bytes
  usable_bytes <|
    if bytes ≤ 131072 then (bytes + 1023) % words / 1024 * 1024
    else (bytes + 4095) % words / 4096 * 4096

structure BufferCache where
  thread : Nat
  enabled : Bool
  time : Nat
  maxBytes : Nat
  maxBlocks : Nat
  maxAge : Nat
  hits : Nat
  misses : Nat
  currentBytes : Nat
  refcount : Nat
  list : InplaceList Nat

structure BufferManager where
  blocks : Nat → CacheBlock
  links : Nat → Link Nat
  cacheAt : Nat → BufferCache
  caches : List Nat
  threadCache : Nat → Option Nat
  enabled : Bool
  maxThreadBytes : Nat
  maxThreadBlocks : Nat
  maxThreadAge : Nat
  hits : Nat
  misses : Nat
  currentBytes : Nat
  highWaterBytes : Nat
  nextBlock : Nat
  nextCache : Nat
  handedOut : List Nat
  released : List Nat

def BufferCache.make (thread : Nat) : BufferCache :=
  ⟨thread, true, 0, words - 1, words - 1, words - 1, 0, 0, 0, 1, InplaceList.empty⟩

def BufferCache.age (cache : BufferCache) (block : CacheBlock) : Nat :=
  (cache.time + words - block.lastUsed) % words

namespace BufferManager

def initial : BufferManager where
  blocks _ := ⟨0, none, 0, 0, 0⟩
  links _ := ⟨none, none⟩
  cacheAt := BufferCache.make
  caches := []
  threadCache _ := none
  enabled := true
  maxThreadBytes := words - 1
  maxThreadBlocks := words - 1
  maxThreadAge := words - 1
  hits := 0
  misses := 0
  currentBytes := 0
  highWaterBytes := 0
  nextBlock := 0
  nextCache := 0
  handedOut := []
  released := []

variable (manager : BufferManager)

def setCache (id : Nat) (cache : BufferCache) : BufferManager :=
  { manager with cacheAt := Function.update manager.cacheAt id cache }

def setBlock (block : Nat) (header : CacheBlock) : BufferManager :=
  { manager with blocks := Function.update manager.blocks block header }

def increaseSize (bytes : Nat) : BufferManager :=
  let current := manager.currentBytes + bytes
  { manager with currentBytes := current, highWaterBytes := max manager.highWaterBytes current }

def decreaseSize (bytes : Nat) : BufferManager :=
  { manager with currentBytes := manager.currentBytes - bytes }

def release (block : Nat) : BufferManager :=
  { manager with released := manager.released ++ [block] }

def age (id block : Nat) : Nat :=
  (manager.cacheAt id).age (manager.blocks block)

def overThreshold (id : Nat) : Bool :=
  let cache := manager.cacheAt id
  match cache.list.tail with
  | none => false
  | some back =>
    if cache.list.isEmpty then false
    else if !cache.enabled then true
    else decide (manager.age id back > cache.maxAge ∨ cache.currentBytes > cache.maxBytes ∨
      cache.list.size > cache.maxBlocks)

/-- The body of the loop of `_compact`, for the block at the back. -/
def drop (id back : Nat) : BufferManager :=
  let cache := manager.cacheAt id
  let (list, links) := cache.list.erase back manager.links
  let cache :=
    { cache with list, currentBytes := cache.currentBytes - (manager.blocks back).size }
  ({ manager with links }.setCache id cache).release back

def compactLoop (id : Nat) : Nat → BufferManager → BufferManager
  | 0, manager => manager
  | count + 1, manager =>
    if manager.overThreshold id then
      match (manager.cacheAt id).list.tail with
      | none => manager
      | some back => compactLoop id count (manager.drop id back)
    else manager

def compact (id : Nat) : BufferManager :=
  let previous := (manager.cacheAt id).currentBytes
  let manager := compactLoop id (manager.cacheAt id).list.size manager
  let delta := previous - (manager.cacheAt id).currentBytes
  if delta > 0 then manager.decreaseSize delta else manager

def fetch (id bytes : Nat) : Option Nat × BufferManager :=
  let cache := manager.cacheAt id
  match InplaceList.find manager.links (fun block => (manager.blocks block).size == bytes)
      cache.list.size cache.list.head with
  | none => (none, manager.setCache id { cache with misses := cache.misses + 1 })
  | some block =>
    let (list, links) := cache.list.erase block manager.links
    let size := (manager.blocks block).size
    let cache :=
      { cache with list, hits := cache.hits + 1, currentBytes := cache.currentBytes - size }
    (some block, ({ manager with links }.setCache id cache).decreaseSize size)

def push (id block : Nat) : BufferManager :=
  let cache := manager.cacheAt id
  let time := (cache.time + 1) % words
  let header := manager.blocks block
  let (list, links) := cache.list.push_front block manager.links
  let cache := { cache with time, list, currentBytes := cache.currentBytes + header.size }
  (({ manager with links }.setBlock block { header with lastUsed := time }).setCache id
    cache).increaseSize header.size

def store (id block : Nat) : BufferManager :=
  (manager.push id block).compact id

def reconfigure (change : BufferCache → BufferCache) (compacts : Bool) (manager : BufferManager)
    (id : Nat) : BufferManager :=
  let manager := manager.setCache id (change (manager.cacheAt id))
  if compacts then manager.compact id else manager

def enableCache (enabled : Bool) : BufferManager → Nat → BufferManager :=
  reconfigure (fun cache => { cache with enabled }) (!enabled)

def setMaxBytes (bytes : Nat) : BufferManager → Nat → BufferManager :=
  reconfigure (fun cache => { cache with maxBytes := bytes }) true

def setMaxBlocks (blocks : Nat) : BufferManager → Nat → BufferManager :=
  reconfigure (fun cache => { cache with maxBlocks := blocks }) true

def setMaxAge (age : Nat) : BufferManager → Nat → BufferManager :=
  reconfigure (fun cache => { cache with maxAge := age }) true

def incref (id : Nat) : BufferManager :=
  manager.setCache id
    { manager.cacheAt id with refcount := (manager.cacheAt id).refcount + 1 }

def removeCache (id : Nat) : BufferManager :=
  { manager with
    hits := manager.hits + (manager.cacheAt id).hits
    misses := manager.misses + (manager.cacheAt id).misses
    caches := manager.caches.erase id }

def destroy (id : Nat) : BufferManager :=
  ((manager.setCache id { manager.cacheAt id with enabled := false }).compact id).removeCache id

def decref (id : Nat) : Bool × BufferManager :=
  let count := (manager.cacheAt id).refcount - 1
  let manager := manager.setCache id { manager.cacheAt id with refcount := count }
  if count = 0 then (false, manager.destroy id) else (true, manager)

def addCache (thread : Nat) : BufferManager :=
  let id := manager.nextCache
  let manager := { manager with nextCache := id + 1 }.setCache id (BufferCache.make thread)
  let manager := setMaxAge manager.maxThreadAge
    (setMaxBlocks manager.maxThreadBlocks (setMaxBytes manager.maxThreadBytes manager id) id) id
  { manager with
    caches := id :: manager.caches
    threadCache := Function.update manager.threadCache thread (some id) }

def getCache (thread : Nat) : Nat × BufferManager :=
  match manager.threadCache thread with
  | some id => (id, manager)
  | none => (manager.nextCache, manager.addCache thread)

def handOut (block bytes : Nat) : BufferManager :=
  { manager.setBlock block { manager.blocks block with requested := bytes } with
    handedOut := block :: manager.handedOut }

def allocateBlock (size : Nat) (cache : Option Nat) (bytes : Nat)
    (granted : Bool) : Option Nat × BufferManager :=
  if granted then
    let block := manager.nextBlock
    (some block, ({ manager with nextBlock := block + 1 }.setBlock block
      ⟨size, cache, 0, required_bytes size, bytes⟩).handOut block bytes)
  else (none, manager)

/-- No block is `std::bad_alloc`. -/
def allocate (thread bytes : Nat) (granted : Bool) : Option Nat × BufferManager :=
  let size := nearestSize bytes
  if manager.enabled then
    let (id, manager) := manager.getCache thread
    match (manager.incref id).fetch id size with
    | (some block, manager) => (some block, manager.handOut block bytes)
    | (none, manager) => manager.allocateBlock size (some id) bytes granted
  else manager.allocateBlock size none bytes granted

def deallocate (block : Nat) : BufferManager :=
  let manager := { manager with handedOut := manager.handedOut.erase block }
  match (manager.blocks block).cache with
  | none => manager.release block
  | some id =>
    let (alive, manager) := manager.decref id
    if alive && manager.enabled then manager.store id block else manager.release block

def exitThread (thread : Nat) : BufferManager :=
  match manager.threadCache thread with
  | none => manager
  | some id =>
    ({ manager with threadCache := Function.update manager.threadCache thread none }.decref id).2

def enable (enabled : Bool) : BufferManager :=
  manager.caches.foldl (enableCache enabled) { manager with enabled }

def setMaxThreadBytes (bytes : Nat) : BufferManager :=
  manager.caches.foldl (setMaxBytes bytes) { manager with maxThreadBytes := bytes }

def setMaxThreadBlocks (blocks : Nat) : BufferManager :=
  manager.caches.foldl (setMaxBlocks blocks) { manager with maxThreadBlocks := blocks }

def setMaxThreadAge (age : Nat) : BufferManager :=
  manager.caches.foldl (setMaxAge age) { manager with maxThreadAge := age }

end BufferManager

inductive Event where
  | allocate (thread bytes : Nat) (granted : Bool)
  | deallocate (block : Nat)
  /-- What a holder of the block writes where the links and the time stamp were. -/
  | write (block : Nat) (link : Link Nat) (lastUsed : Nat)
  | exitThread (thread : Nat)
  | enable (enabled : Bool)
  | setMaxThreadBytes (bytes : Nat)
  | setMaxThreadBlocks (blocks : Nat)
  | setMaxThreadAge (age : Nat)

def step (event : Event) (manager : BufferManager) : BufferManager :=
  match event with
  | .allocate thread bytes granted => (manager.allocate thread bytes granted).2
  | .deallocate block => if block ∈ manager.handedOut then manager.deallocate block else manager
  | .write block link lastUsed =>
    if block ∈ manager.handedOut then
      { manager with links := Function.update manager.links block link }.setBlock block
        { manager.blocks block with lastUsed }
    else manager
  | .exitThread thread => manager.exitThread thread
  | .enable enabled => manager.enable enabled
  | .setMaxThreadBytes bytes => manager.setMaxThreadBytes bytes
  | .setMaxThreadBlocks blocks => manager.setMaxThreadBlocks blocks
  | .setMaxThreadAge age => manager.setMaxThreadAge age

end Redhawk.Buffers
