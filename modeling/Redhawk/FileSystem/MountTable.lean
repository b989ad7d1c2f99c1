import Mathlib.Data.List.Pairwise
import Redhawk.Library.Lists
import Redhawk.Library.Runs

/-!
The mount table of the file manager (`FileManager_impl.cpp`): mounting, unmounting and the
forwarding of file operations to the file system on which a path lies.

The file systems themselves are a parameter; of one that is forwarded to only the calls it receives
are kept.
-/

namespace Redhawk.FileSystem

open Library List

abbrev Path := List Char

def normalizeMountPath (path : Path) : Path :=
  if path.getLast? = some '/' then path.dropLast else path

def isValidFileName (fileName : Path) : Bool := !fileName.isEmpty

variable {Fs : Type}

structure MountPoint (Fs : Type) where
  path : Path
  fs : Fs
deriving DecidableEq

def MountPoint.contains (mount : MountPoint Fs) (filepath : Path) : Bool :=
  if !mount.path.isPrefixOf filepath then false
  else if mount.path.length < filepath.length then filepath[mount.path.length]? == some '/'
  else true

def MountPoint.getRelativePath (mount : MountPoint Fs) (filepath : Path) : Path :=
  filepath.drop mount.path.length

inductive FileManagerError where
  | invalidFileSystem
  | invalidFileName (message : String)
  | mountPointAlreadyExists
  | nonExistentMount
deriving DecidableEq

def mountConflict (mountPath : Path) : List (MountPoint Fs) → Option FileManagerError
  | [] => none
  | mount :: rest =>
      if mount.path = mountPath then some .mountPointAlreadyExists
      else if mount.contains mountPath then
        some (.invalidFileName "Cannot mount file system inside another mounted file system")
      else mountConflict mountPath rest

/-- A nil file system is `none`. -/
def mount (mountPoint : Path) (fileSystem : Option Fs) (mounts : List (MountPoint Fs)) :
    Except FileManagerError (List (MountPoint Fs)) :=
  match fileSystem with
  | none => .error .invalidFileSystem
  | some fs =>
      let mountPath := normalizeMountPath mountPoint
      if !isValidFileName mountPath then .error (.invalidFileName "Invalid mount point")
      else match mountConflict mountPath mounts with
        | some error => .error error
        | none => .ok (mounts ++ [⟨mountPath, fs⟩])

def unmount (mountPoint : Path) (mounts : List (MountPoint Fs)) :
    Except FileManagerError (List (MountPoint Fs)) :=
  let mountPath := normalizeMountPath mountPoint
  if mounts.any fun mount => decide (mount.path = mountPath) then
    .ok (mounts.eraseP fun mount => decide (mount.path = mountPath))
  else .error .nonExistentMount

def getMountForPath (mounts : List (MountPoint Fs)) (path : Path) : Option (MountPoint Fs) :=
  mounts.find? fun mount => mount.contains path

def sameMount (mounts : List (MountPoint Fs)) (source destination : Path) : Bool :=
  mounts.findIdx (fun mount => mount.contains source) == mounts.findIdx fun mount => mount.contains destination

inductive FileOp where
  | remove
  | exists
  | create
  | open (readOnly : Bool)
  | mkdir
  | rmdir
  | list
deriving DecidableEq

inductive PairOp where
  | copy
  | move
deriving DecidableEq

/-- A call on a file system; the local one is `none`. -/
inductive FsCall (Fs : Type) where
  | single (fs : Option Fs) (op : FileOp) (path : Path)
  | pair (fs : Option Fs) (op : PairOp) (source destination : Path)
deriving DecidableEq

def resolve (mounts : List (MountPoint Fs)) (path : Path) : Option Fs × Path :=
  match getMountForPath mounts path with
  | none => (none, path)
  | some mount => (some mount.fs, mount.getRelativePath path)

def callAt (target : Option Fs × Path) (op : FileOp) : FsCall Fs := .single target.1 op target.2

def operate (op : FileOp) (message : String) (mounts : List (MountPoint Fs)) (name : Path) :
    Except FileManagerError (List (FsCall Fs)) :=
  if !isValidFileName name then .error (.invalidFileName message)
  else .ok [callAt (resolve mounts name) op]

def remove (mounts : List (MountPoint Fs)) (fileName : Path) :=
  operate .remove "Invalid file name" mounts fileName

def exists' (mounts : List (MountPoint Fs)) (fileName : Path) :=
  operate .exists "Invalid file name" mounts fileName

def create (mounts : List (MountPoint Fs)) (fileName : Path) :=
  operate .create "Invalid file name" mounts fileName

def open' (mounts : List (MountPoint Fs)) (fileName : Path) (readOnly : Bool) :=
  operate (.open readOnly) "Invalid file name" mounts fileName

def mkdir (mounts : List (MountPoint Fs)) (directoryName : Path) :=
  operate .mkdir "Invalid directory name" mounts directoryName

def rmdir (mounts : List (MountPoint Fs)) (directoryName : Path) :=
  operate .rmdir "Invalid directory name" mounts directoryName

def list (mounts : List (MountPoint Fs)) (pattern : Path) : Except FileManagerError (List (FsCall Fs)) :=
  match getMountForPath mounts pattern with
  | none => .ok [.single none .list pattern]
  | some mount =>
      let searchPath := mount.getRelativePath pattern
      if searchPath.isEmpty then .ok [] else .ok [.single (some mount.fs) .list searchPath]

def validatePair (source destination : Path) : Option FileManagerError :=
  if source.head? ≠ some '/' ∨ !isValidFileName source then
    some (.invalidFileName "Invalid source file name")
  else if destination.head? ≠ some '/' ∨ !isValidFileName destination then
    some (.invalidFileName "Invalid destination file name")
  else if source = destination then
    some (.invalidFileName "Destination file name is identical to source file name")
  else none

section Pairs

variable (exist : Option Fs → Path → Bool)

def copyBetween (source destination : Option Fs × Path) : List (FsCall Fs) :=
  [callAt source (.open true), callAt destination .exists] ++
    (if exist destination.1 destination.2 then [callAt destination .remove] else []) ++
    [callAt destination .create]

def copy (mounts : List (MountPoint Fs)) (source destination : Path) :
    Except FileManagerError (List (FsCall Fs)) :=
  match validatePair source destination with
  | some error => .error error
  | none =>
      let sourceTarget := resolve mounts source
      let destTarget := resolve mounts destination
      if sameMount mounts source destination then
        .ok [.pair sourceTarget.1 .copy sourceTarget.2 destTarget.2]
      else .ok (copyBetween exist sourceTarget destTarget)

def move (mounts : List (MountPoint Fs)) (source destination : Path) :
    Except FileManagerError (List (FsCall Fs)) :=
  match validatePair source destination with
  | some error => .error error
  | none =>
      let sourceTarget := resolve mounts source
      let destTarget := resolve mounts destination
      if sameMount mounts source destination then
        .ok [.pair sourceTarget.1 .move sourceTarget.2 destTarget.2]
      else do
        let copied ← copy exist mounts source destination
        let removed ← remove mounts source
        return copied ++ removed

end Pairs

inductive Request where
  | remove (fileName : Path)
  | exists (fileName : Path)
  | create (fileName : Path)
  | open (fileName : Path) (readOnly : Bool)
  | mkdir (directoryName : Path)
  | rmdir (directoryName : Path)
  | list (pattern : Path)
  | copy (source destination : Path)
  | move (source destination : Path)

def serve (exist : Option Fs → Path → Bool) (mounts : List (MountPoint Fs)) :
    Request → Except FileManagerError (List (FsCall Fs))
  | .remove fileName => remove mounts fileName
  | .exists fileName => exists' mounts fileName
  | .create fileName => create mounts fileName
  | .open fileName readOnly => open' mounts fileName readOnly
  | .mkdir directoryName => mkdir mounts directoryName
  | .rmdir directoryName => rmdir mounts directoryName
  | .list pattern => list mounts pattern
  | .copy source destination => copy exist mounts source destination
  | .move source destination => move exist mounts source destination

def Request.paths : Request → List Path
  | .remove name | .exists name | .create name | .open name _ | .mkdir name | .rmdir name => [name]
  | .list pattern => [pattern]
  | .copy source destination | .move source destination => [source, destination]

def FsCall.targets : FsCall Fs → List (Option Fs × Path)
  | .single fs _ path => [(fs, path)]
  | .pair fs _ source destination => [(fs, source), (fs, destination)]

inductive MountCall (Fs : Type) where
  | mount (mountPoint : Path) (fileSystem : Option Fs)
  | unmount (mountPoint : Path)

def MountCall.step (call : MountCall Fs) (mounts : List (MountPoint Fs)) : List (MountPoint Fs) :=
  let result := match call with
    | .mount mountPoint fileSystem => FileSystem.mount mountPoint fileSystem mounts
    | .unmount mountPoint => FileSystem.unmount mountPoint mounts
  match result with
  | .ok next => next
  | .error _ => mounts

def LiesInside (inner outer : Path) : Prop :=
  ∃ rest, rest ≠ [] ∧ inner = outer ++ rest ∧ (rest.head? = some '/' ∨ outer.getLast? = some '/')

theorem liesInside_iff {inner outer : Path} : LiesInside inner outer ↔
    outer <+: inner ∧ inner ≠ outer ∧ (inner[outer.length]? = some '/' ∨ outer.getLast? = some '/') := by
  constructor
  · rintro ⟨rest, nonempty, rfl, slash⟩
    refine ⟨prefix_append _ _, by simpa using nonempty, ?_⟩
    simpa [getElem?_append_right, ← head?_eq_getElem?] using slash
  · rintro ⟨⟨rest, rfl⟩, differs, slash⟩
    refine ⟨rest, by simpa using differs, rfl, ?_⟩
    simpa [getElem?_append_right, ← head?_eq_getElem?] using slash

instance (inner outer : Path) : Decidable (LiesInside inner outer) :=
  decidable_of_iff _ liesInside_iff.symm

def BelongsTo (path : Path) (mount : MountPoint Fs) : Prop :=
  path = mount.path ∨ LiesInside path mount.path

def Separate (first second : MountPoint Fs) : Prop :=
  ¬BelongsTo first.path second ∧ ¬BelongsTo second.path first

structure Unambiguous (mounts : List (MountPoint Fs)) : Prop where
  separate : mounts.Pairwise Separate
  oneMount : ∀ path, ∀ first ∈ mounts, ∀ second ∈ mounts,
    BelongsTo path first → BelongsTo path second → first = second
  resolution : ∀ path mount, getMountForPath mounts path = some mount ↔ mount ∈ mounts ∧ BelongsTo path mount
  orderFree : ∀ mounts', mounts'.Perm mounts → ∀ path, getMountForPath mounts' path = getMountForPath mounts path
  relative : ∀ mount ∈ mounts, ∀ path, LiesInside path mount.path →
    ∃ rest, path = mount.path ++ '/' :: rest ∧ resolve mounts path = (some mount.fs, '/' :: rest)

/-- Calls go only to where a path of the request resolves to, and every path of the request that
lies inside a mount is handed on. -/
def Forwards (exist : Option Fs → Path → Bool) (mounts : List (MountPoint Fs)) (request : Request) : Prop :=
  ∀ calls, serve exist mounts request = .ok calls →
    (∀ call ∈ calls, ∀ target ∈ call.targets, ∃ path ∈ request.paths, target = resolve mounts path) ∧
      ∀ path ∈ request.paths, (∃ mount ∈ mounts, LiesInside path mount.path) →
        ∃ call ∈ calls, resolve mounts path ∈ call.targets

/-- No mount of the table belongs to the path to be mounted, which does not end in a slash. -/
def MountCall.Clear (call : MountCall Fs) (mounts : List (MountPoint Fs)) : Prop :=
  match call with
  | .mount mountPoint _ =>
      (normalizeMountPath mountPoint).getLast? ≠ some '/' ∧
        ∀ mount ∈ mounts, ¬LiesInside mount.path (normalizeMountPath mountPoint)
  | .unmount _ => True

theorem contains_iff {mount : MountPoint Fs} (plain : mount.path.getLast? ≠ some '/')
    (filepath : Path) : mount.contains filepath = true ↔ BelongsTo filepath mount := by
  unfold MountPoint.contains
  by_cases prefixed : mount.path <+: filepath
  · obtain ⟨rest, rfl⟩ := prefixed
    rcases rest with _ | ⟨first, rest⟩
    · simp [BelongsTo]
    · have inside : LiesInside (mount.path ++ first :: rest) mount.path ↔ first = '/' := by
        constructor
        · rintro ⟨rest', _, equal, slash | slash⟩
          · rw [← append_cancel_left equal] at slash
            simpa using slash
          · exact absurd slash plain
        · rintro rfl
          exact ⟨'/' :: rest, cons_ne_nil _ _, rfl, .inl rfl⟩
      simp [BelongsTo, inside]
  · have outside : ¬BelongsTo filepath mount := by
      rintro (rfl | ⟨rest, -, rfl, -⟩)
      · exact prefixed (prefix_refl _)
      · exact prefixed (prefix_append _ _)
    have unmatched : mount.path.isPrefixOf filepath = false := by
      rw [← Bool.not_eq_true, isPrefixOf_iff_prefix]
      exact prefixed
    simp [unmatched, outside]

theorem relative_of_liesInside {mount : MountPoint Fs} (plain : mount.path.getLast? ≠ some '/')
    {path : Path} (inside : LiesInside path mount.path) :
    ∃ rest, path = mount.path ++ '/' :: rest ∧ mount.getRelativePath path = '/' :: rest := by
  obtain ⟨rest, nonempty, rfl, slash | slash⟩ := inside
  · rcases rest with _ | ⟨first, rest⟩
    · exact absurd rfl nonempty
    · obtain rfl : first = '/' := by simpa using slash
      exact ⟨rest, rfl, by simp [MountPoint.getRelativePath]⟩
  · exact absurd slash plain

theorem nested_of_common {first second : MountPoint Fs} {path : Path}
    (plain : first.path.getLast? ≠ some '/') (plain' : second.path.getLast? ≠ some '/')
    (belongs : BelongsTo path first) (belongs' : BelongsTo path second) :
    BelongsTo first.path second ∨ BelongsTo second.path first := by
  have shorter : ∀ {outer inner : MountPoint Fs}, outer.path.getLast? ≠ some '/' →
      BelongsTo path outer → outer.path <+: inner.path → inner.path <+: path →
      BelongsTo inner.path outer := by
    intro outer inner plain belongs ⟨middle, equal⟩ ⟨rest, whole⟩
    rcases middle with _ | ⟨char, middle⟩
    · exact .inl (by simpa using equal.symm)
    · right
      rcases belongs with same | inside
      · have lengths := congrArg length whole
        rw [same, ← equal] at lengths
        simp at lengths
      · obtain ⟨below, split, -⟩ := relative_of_liesInside plain inside
        rw [split, ← equal, append_assoc] at whole
        have heads := append_cancel_left whole
        rw [cons_append, cons.injEq] at heads
        exact ⟨char :: middle, cons_ne_nil _ _, equal.symm, .inl (by simp [heads.1])⟩
  have prefixOf : ∀ {mount : MountPoint Fs}, BelongsTo path mount → mount.path <+: path := by
    rintro mount (rfl | ⟨rest, -, rfl, -⟩)
    · exact prefix_refl _
    · exact prefix_append _ _
  rcases prefix_or_prefix_of_prefix (prefixOf belongs) (prefixOf belongs') with less | less
  · exact .inr (shorter plain belongs less (prefixOf belongs'))
  · exact .inl (shorter plain' belongs' less (prefixOf belongs))

structure TableInv (mounts : List (MountPoint Fs)) : Prop where
  separate : mounts.Pairwise Separate
  plain : ∀ mount ∈ mounts, mount.path.getLast? ≠ some '/'

variable {mounts : List (MountPoint Fs)}

theorem mountConflict_none {mountPath : Path} (free : mountConflict mountPath mounts = none) :
    ∀ mount ∈ mounts, mount.path ≠ mountPath ∧ mount.contains mountPath = false := by
  induction mounts with
  | nil => simp
  | cons first rest ih =>
      unfold mountConflict at free
      split_ifs at free with same inside
      intro mount member
      rcases mem_cons.mp member with rfl | later
      · exact ⟨same, by simpa using inside⟩
      · exact ih free mount later

variable {mountPoint : Path} {fileSystem : Option Fs} {next : List (MountPoint Fs)}

theorem mount_ok (done : mount mountPoint fileSystem mounts = .ok next) :
    ∃ fs, fileSystem = some fs ∧ next = mounts ++ [⟨normalizeMountPath mountPoint, fs⟩] ∧
      mountConflict (normalizeMountPath mountPoint) mounts = none := by
  unfold mount at done
  cases fileSystem with
  | none => cases done
  | some fs =>
      dsimp only at done
      split_ifs at done with invalid
      cases free : mountConflict (normalizeMountPath mountPoint) mounts with
      | some error =>
          rw [free] at done
          cases done
      | none =>
          rw [free] at done
          exact ⟨fs, rfl, by simpa using done.symm, rfl⟩

theorem unmount_sublist (done : unmount mountPoint mounts = .ok next) : next.Sublist mounts := by
  unfold unmount at done
  dsimp only at done
  split_ifs at done
  obtain rfl := Except.ok.inj done
  exact eraseP_sublist

theorem TableInv.sublist (inv : TableInv mounts) (fewer : next.Sublist mounts) : TableInv next where
  separate := inv.separate.sublist fewer
  plain := fun mount member => inv.plain mount (fewer.subset member)

theorem TableInv.mount (inv : TableInv mounts) (clear : (MountCall.mount mountPoint fileSystem).Clear mounts)
    (done : FileSystem.mount mountPoint fileSystem mounts = .ok next) : TableInv next := by
  obtain ⟨fs, -, rfl, free⟩ := mount_ok done
  constructor
  · rw [pairwise_append]
    refine ⟨inv.separate, pairwise_singleton _ _, ?_⟩
    intro mount member added isAdded
    obtain rfl := mem_singleton.mp isAdded
    obtain ⟨differs, outside⟩ := mountConflict_none free mount member
    constructor
    · rintro (same | inside)
      · exact differs same
      · exact clear.2 mount member inside
    · rw [← contains_iff (inv.plain mount member), outside]
      exact Bool.false_ne_true
  · intro mount member
    rcases mem_append.mp member with old | added
    · exact inv.plain mount old
    · obtain rfl := mem_singleton.mp added
      exact clear.1

theorem TableInv.step (call : MountCall Fs) (mounts : List (MountPoint Fs)) (inv : TableInv mounts)
    (clear : call.Clear mounts) : TableInv (call.step mounts) := by
  unfold MountCall.step
  cases call with
  | mount mountPoint fileSystem =>
      dsimp only
      split
      next next done => exact inv.mount clear done
      next => exact inv
  | unmount mountPoint =>
      dsimp only
      split
      next next done => exact inv.sublist (unmount_sublist done)
      next => exact inv

theorem TableInv.oneMount (inv : TableInv mounts) (path : Path) :
    ∀ first ∈ mounts, ∀ second ∈ mounts, BelongsTo path first → BelongsTo path second → first = second := by
  intro first member second member' belongs belongs'
  by_contra differ
  have symmetric : Std.Symm (@Separate Fs) := ⟨fun _ _ apart => ⟨apart.2, apart.1⟩⟩
  have apart : Separate first second := inv.separate.forall member member' differ
  rcases nested_of_common (inv.plain first member) (inv.plain second member') belongs belongs'
    with nested | nested
  · exact apart.1 nested
  · exact apart.2 nested

theorem TableInv.resolution (inv : TableInv mounts) (path : Path) (mount : MountPoint Fs) :
    getMountForPath mounts path = some mount ↔ mount ∈ mounts ∧ BelongsTo path mount := by
  have unique : ∀ first ∈ mounts, ∀ second ∈ mounts,
      first.contains path = true → second.contains path = true → first = second := by
    intro first member second member'
    rw [contains_iff (inv.plain first member), contains_iff (inv.plain second member')]
    exact inv.oneMount path first member second member'
  unfold getMountForPath
  rw [find?_eq_some_of_unique unique]
  constructor
  · rintro ⟨member, contained⟩
    exact ⟨member, (contains_iff (inv.plain mount member) path).mp contained⟩
  · rintro ⟨member, belongs⟩
    exact ⟨member, (contains_iff (inv.plain mount member) path).mpr belongs⟩

theorem TableInv.perm {mounts' : List (MountPoint Fs)} (inv : TableInv mounts)
    (perm : mounts'.Perm mounts) : TableInv mounts' where
  separate := (perm.pairwise_iff fun separate => ⟨separate.2, separate.1⟩).mpr inv.separate
  plain := fun mount member => inv.plain mount (perm.mem_iff.mp member)

theorem TableInv.unambiguous (inv : TableInv mounts) : Unambiguous mounts where
  separate := inv.separate
  oneMount := inv.oneMount
  resolution := inv.resolution
  orderFree := by
    intro mounts' perm path
    apply Option.ext
    intro mount
    rw [(inv.perm perm).resolution, inv.resolution, perm.mem_iff]
  relative := by
    intro mount member path inside
    obtain ⟨rest, split, relative⟩ := relative_of_liesInside (inv.plain mount member) inside
    have found := (inv.resolution path mount).mpr ⟨member, .inr inside⟩
    exact ⟨rest, split, by simp only [resolve, found, relative]⟩

theorem getMountForPath_findIdx (mounts : List (MountPoint Fs)) (path : Path) :
    getMountForPath mounts path = mounts[mounts.findIdx fun mount => mount.contains path]? := by
  unfold getMountForPath
  induction mounts with
  | nil => rfl
  | cons first rest ih =>
      by_cases inside : first.contains path
      · simp [findIdx_cons, inside]
      · simp [findIdx_cons, inside, ih]

variable {source destination : Path}

theorem sameMount_resolve (same : sameMount mounts source destination = true) :
    getMountForPath mounts source = getMountForPath mounts destination := by
  rw [getMountForPath_findIdx, getMountForPath_findIdx, beq_iff_eq.mp same]

variable {calls : List (FsCall Fs)}

theorem operate_forwards {op : FileOp} {message : String}
    {name : Path} (done : operate op message mounts name = .ok calls) :
    calls = [callAt (resolve mounts name) op] := by
  unfold operate at done
  split_ifs at done
  exact (Except.ok.inj done).symm

theorem list_forwards {pattern : Path} (done : list mounts pattern = .ok calls) :
    calls = [callAt (resolve mounts pattern) .list] ∨ calls = [] ∧ (resolve mounts pattern).2 = [] := by
  unfold list at done
  unfold resolve
  cases found : getMountForPath mounts pattern with
  | none =>
      rw [found] at done
      exact .inl (Except.ok.inj done).symm
  | some mount =>
      rw [found] at done
      dsimp only at done ⊢
      split_ifs at done with empty
      · exact .inr ⟨(Except.ok.inj done).symm, List.isEmpty_iff.mp empty⟩
      · exact .inl (Except.ok.inj done).symm

def GoTo (mounts : List (MountPoint Fs)) (paths : List Path) (calls : List (FsCall Fs)) : Prop :=
  (∀ call ∈ calls, ∀ target ∈ call.targets, ∃ path ∈ paths, target = resolve mounts path) ∧
    ∀ path ∈ paths, ∃ call ∈ calls, resolve mounts path ∈ call.targets

theorem goTo_single (mounts : List (MountPoint Fs)) (path : Path) (op : FileOp) :
    GoTo mounts [path] [callAt (resolve mounts path) op] := by
  constructor
  · intro call member target isTarget
    obtain rfl := mem_singleton.mp member
    exact ⟨path, mem_cons_self, mem_singleton.mp isTarget⟩
  · intro other named
    obtain rfl := mem_singleton.mp named
    exact ⟨_, mem_cons_self, mem_singleton_self _⟩

theorem goTo_pair (op : PairOp) (same : sameMount mounts source destination = true) :
    GoTo mounts [source, destination] [.pair (resolve mounts source).1 op
      (resolve mounts source).2 (resolve mounts destination).2] := by
  have oneFs : (resolve mounts destination).1 = (resolve mounts source).1 := by
    simp only [resolve, sameMount_resolve same]
    cases getMountForPath mounts destination <;> rfl
  have target : ((resolve mounts source).1, (resolve mounts destination).2) =
      resolve mounts destination := by rw [← oneFs]
  constructor
  · simp only [FsCall.targets, forall_mem_singleton, target]
    simp
  · simp [FsCall.targets, target]

theorem goTo_copyBetween (exist : Option Fs → Path → Bool) (mounts : List (MountPoint Fs))
    (source destination : Path) :
    GoTo mounts [source, destination]
      (copyBetween exist (resolve mounts source) (resolve mounts destination)) := by
  have calls : ∀ call ∈ copyBetween exist (resolve mounts source) (resolve mounts destination),
      call.targets = [resolve mounts source] ∨ call.targets = [resolve mounts destination] := by
    intro call member
    simp only [copyBetween, mem_append, mem_cons, not_mem_nil, or_false] at member
    rcases member with ((rfl | rfl) | removed) | rfl
    · exact .inl rfl
    · exact .inr rfl
    · split at removed
      · obtain rfl := mem_singleton.mp removed
        exact .inr rfl
      · cases removed
    · exact .inr rfl
  constructor
  · intro call member target isTarget
    rcases calls call member with atSource | atDestination
    · rw [atSource] at isTarget
      exact ⟨source, mem_cons_self, mem_singleton.mp isTarget⟩
    · rw [atDestination] at isTarget
      exact ⟨destination, by simp, mem_singleton.mp isTarget⟩
  · intro path named
    rcases mem_cons.mp named with rfl | last
    · exact ⟨callAt (resolve mounts path) (.open true), by simp [copyBetween], mem_singleton_self _⟩
    · obtain rfl := mem_singleton.mp last
      exact ⟨callAt (resolve mounts path) .create, by simp [copyBetween],
        mem_singleton_self _⟩

theorem GoTo.append {paths : List Path} {more : List (FsCall Fs)} (all : GoTo mounts paths calls)
    (known : ∀ call ∈ more, ∀ target ∈ call.targets, ∃ path ∈ paths, target = resolve mounts path) :
    GoTo mounts paths (calls ++ more) := by
  constructor
  · intro call member
    rcases mem_append.mp member with early | late
    · exact all.1 call early
    · exact known call late
  · intro path named
    obtain ⟨call, member, target⟩ := all.2 path named
    exact ⟨call, mem_append_left _ member, target⟩

theorem copy_forwards {exist : Option Fs → Path → Bool}
    (done : copy exist mounts source destination = .ok calls) :
    GoTo mounts [source, destination] calls := by
  unfold copy at done
  cases valid : validatePair source destination with
  | some error =>
      rw [valid] at done
      cases done
  | none =>
      rw [valid] at done
      split_ifs at done with same
      · rw [← Except.ok.inj done]
        exact goTo_pair .copy same
      · rw [← Except.ok.inj done]
        exact goTo_copyBetween exist mounts source destination

theorem move_forwards {exist : Option Fs → Path → Bool}
    (done : move exist mounts source destination = .ok calls) :
    GoTo mounts [source, destination] calls := by
  unfold move at done
  cases valid : validatePair source destination with
  | some error =>
      rw [valid] at done
      cases done
  | none =>
      rw [valid] at done
      split_ifs at done with same
      · rw [← Except.ok.inj done]
        exact goTo_pair .move same
      · obtain ⟨first, copied, done⟩ := Library.bind_eq_ok_iff.mp done
        obtain ⟨second, removed, done⟩ := Library.bind_eq_ok_iff.mp done
        obtain rfl : first ++ second = calls := Except.ok.inj done
        apply (copy_forwards copied).append
        rw [operate_forwards removed]
        intro call member target isTarget
        obtain rfl := mem_singleton.mp member
        exact ⟨source, mem_cons_self, mem_singleton.mp isTarget⟩

theorem serve_forwards (unambiguous : Unambiguous mounts)
    (exist : Option Fs → Path → Bool) (request : Request) : Forwards exist mounts request := by
  have all : ∀ {calls}, GoTo mounts request.paths calls →
      (∀ call ∈ calls, ∀ target ∈ call.targets, ∃ path ∈ request.paths, target = resolve mounts path) ∧
      ∀ path ∈ request.paths, (∃ mount ∈ mounts, LiesInside path mount.path) →
        ∃ call ∈ calls, resolve mounts path ∈ call.targets :=
    fun goes => ⟨goes.1, fun path named _ => goes.2 path named⟩
  intro calls done
  cases request with
  | remove name | «exists» name | create name | mkdir name | rmdir name =>
      obtain rfl := operate_forwards done
      exact all (goTo_single mounts name _)
  | «open» name readOnly =>
      obtain rfl := operate_forwards done
      exact all (goTo_single mounts name _)
  | list pattern =>
      rcases list_forwards done with rfl | ⟨rfl, exact⟩
      · exact all (goTo_single mounts pattern _)
      · -- the pattern is a mount point itself, and then lies inside no mount
        constructor
        · simp
        · rintro path named ⟨mount, member, inside⟩
          obtain rfl := mem_singleton.mp named
          obtain ⟨rest, -, resolved⟩ := unambiguous.relative mount member path inside
          rw [resolved] at exact
          cases exact
  | copy source destination => exact all (copy_forwards done)
  | move source destination => exact all (move_forwards done)

end Redhawk.FileSystem
