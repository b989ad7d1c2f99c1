import Redhawk.Deployment.SoftPkgs

/-!
When the resolution of soft package dependencies ends, and what it finds: references that lead back to a
package are followed without end, and without them it succeeds where it can.
-/

namespace Redhawk.Deployment

open Redhawk.Library Relation List Option

def Refers (profiles : List SoftPkg) (first second : Package) : Prop :=
  ∃ ref ∈ first.implementation.softPkgDependencies,
    loadSoftPkg profiles ref.localfile = some second.softpkg ∧
      second.implementation ∈ second.softpkg.implementations ∧
      ref.implref.all (fun implref => second.implementation.implementationID == implref) = true

def Acyclic (profiles : List SoftPkg) : Prop :=
  ∀ package, ¬TransGen (Refers profiles) package package

/-- The references that a search follows from the package do not lead back to where they come from. -/
def NoCycle (system : AndOrSystem Package SoftPkgRef) (package : Package) : Prop :=
  ∀ other, ReflTransGen system.Follows package other → ¬TransGen system.Follows other other

inductive Within : SoftPkgDeployment → SoftPkgDeployment → Prop
  | self (deployment : SoftPkgDeployment) : Within deployment deployment
  | under {inner dependency : SoftPkgDeployment} {package : Package}
      {dependencies : List SoftPkgDeployment} (member : dependency ∈ dependencies)
      (within : Within inner dependency) : Within inner (.node package dependencies)

/-- Each file is loaded behind those of its own dependencies, as far as the device accepts them. -/
structure LoadedInOrder (getLocalFile : Package → String) (deployment : SoftPkgDeployment) : Prop where
  behind : ∀ package dependencies, Within (.node package dependencies) deployment →
    ∃ before after, localFiles getLocalFile deployment =
      before ++ getDependencyLocalFiles getLocalFile dependencies ++ getLocalFile package :: after
  loaded : ∀ accepts, (load getLocalFile accepts deployment).2 <+: localFiles getLocalFile deployment
  complete : ∀ accepts, (∀ file ∈ localFiles getLocalFile deployment, accepts file = true) →
    load getLocalFile accepts deployment = (true, localFiles getLocalFile deployment)

/-- The resolution comes to an end. Without cycles it succeeds where every referenced package has an
implementation that matches and resolves in turn, and what it finds is loaded in order. -/
def ResolutionRight (profiles : List SoftPkg) (device : DeviceNode) (package : Package) : Prop :=
  ∃ fuel outcome, (∀ more ≥ fuel, resolveSoftpkgDependencies profiles device more package = some outcome) ∧
    (Acyclic profiles → ((∃ trees, outcome = .met trees) ↔ (resolution profiles device).Solves package)) ∧
    ∀ trees, outcome = .met trees → (resolution profiles device).Solution (.node package trees) ∧
      ∀ getLocalFile, LoadedInOrder getLocalFile (.node package trees)

def ValidationEnds (profiles : List SoftPkg) (files : FileSystem) (ref : SoftPkgRef) : Prop :=
  ∃ fuel, ∀ more ≥ fuel, validateSoftPkgRef profiles files more ref ≠ none

section Systems

variable {profiles : List SoftPkg} {package : Package}

theorem resolution_offers {device : DeviceNode} {ref : SoftPkgRef} {list : List Package}
    (listed : (resolution profiles device).candidates ref = some list) (member : package ∈ list) :
    loadSoftPkg profiles ref.localfile = some package.softpkg ∧
      package.implementation ∈ package.softpkg.implementations ∧
      ref.implref.all (fun implref => package.implementation.implementationID == implref) = true := by
  obtain ⟨softpkg, loaded, rfl⟩ := map_eq_some_iff.mp listed
  obtain ⟨implementation, kept, rfl⟩ := mem_map.mp member
  obtain ⟨own, can⟩ := mem_filter.mp kept
  rw [canResolve, Bool.and_eq_true, Bool.and_eq_true] at can
  exact ⟨loaded, own, can.1.1⟩

theorem validation_offers {files : FileSystem} {ref : SoftPkgRef} {list : List Package}
    (listed : (validation profiles files).candidates ref = some list) (member : package ∈ list) :
    loadSoftPkg profiles ref.localfile = some package.softpkg ∧
      package.implementation ∈ package.softpkg.implementations ∧
      ref.implref.all (fun implref => package.implementation.implementationID == implref) = true := by
  rw [validation] at listed
  simp only at listed
  split at listed
  · obtain rfl := some.inj listed
    exact absurd member not_mem_nil
  split at listed
  · obtain rfl := some.inj listed
    exact absurd member not_mem_nil
  obtain ⟨softpkg, loaded, rfl⟩ := map_eq_some_iff.mp listed
  cases named : ref.implref with
  | none =>
      rw [named] at member
      obtain ⟨implementation, own, rfl⟩ := mem_map.mp member
      exact ⟨loaded, own, rfl⟩
  | some implId =>
      rw [named, mem_toList, map_eq_some_iff] at member
      obtain ⟨implementation, found, rfl⟩ := member
      have same := find?_some found
      exact ⟨loaded, mem_of_find?_eq_some found, beq_iff_eq.mpr (beq_iff_eq.mp same).symm⟩

theorem validation_reads {files : FileSystem} (ref : SoftPkgRef)
    (loads : ∃ softpkg, loadSoftPkg profiles ref.localfile = some softpkg) :
    ∃ list, (validation profiles files).candidates ref = some list := by
  obtain ⟨softpkg, loaded⟩ := loads
  rw [validation]
  simp only [loaded]
  split
  · exact ⟨_, rfl⟩
  split
  · exact ⟨_, rfl⟩
  · exact ⟨_, rfl⟩

theorem provided_of_load {filename : String} (loaded : loadSoftPkg profiles filename = some package.softpkg)
    (own : package.implementation ∈ package.softpkg.implementations) : Provided profiles package :=
  ⟨List.mem_of_find?_eq_some loaded, own⟩

theorem resolution_readable (closed : ReferEachOther profiles) (device : DeviceNode) :
    (resolution profiles device).Readable (Provided profiles) := by
  intro package refs provided own ref member
  obtain rfl := some.inj own
  obtain ⟨softpkg, loaded⟩ := closed.loads provided member
  refine ⟨_, congrArg (Option.map _) loaded, fun next inside => ?_⟩
  obtain ⟨found, implementation, -⟩ := resolution_offers (congrArg (Option.map _) loaded) inside
  exact provided_of_load found implementation

theorem validation_readable (closed : ReferEachOther profiles) (files : FileSystem) :
    (validation profiles files).Readable (Provided profiles) := by
  intro package refs provided own ref member
  have listed : refs = package.implementation.softPkgDependencies := by
    rw [validation] at own
    simp only at own
    split at own
    · exact (some.inj own).symm
    · exact nomatch own
  rw [listed] at member
  obtain ⟨list, listed⟩ := @validation_reads _ files ref (closed.loads provided member)
  refine ⟨list, listed, fun next inside => ?_⟩
  obtain ⟨found, implementation, -⟩ := validation_offers listed inside
  exact provided_of_load found implementation

variable {first second : Package}

theorem resolution_refers {device : DeviceNode}
    (follows : (resolution profiles device).Follows first second) : Refers profiles first second := by
  obtain ⟨before, ref, after, own, -, earlier, later, listed, -⟩ := follows
  refine ⟨ref, ?_, resolution_offers listed (by simp)⟩
  rw [some.inj own]
  simp

theorem validation_refers {files : FileSystem}
    (follows : (validation profiles files).Follows first second) : Refers profiles first second := by
  obtain ⟨before, ref, after, own, -, earlier, later, listed, -⟩ := follows
  refine ⟨ref, ?_, validation_offers listed (by simp)⟩
  rw [validation] at own
  simp only at own
  split at own
  · rw [some.inj own]
    simp
  · exact nomatch own

theorem refers_within (refers : Refers profiles first second) : second ∈ packages profiles := by
  obtain ⟨ref, -, loaded, own, -⟩ := refers
  exact mem_packages.mpr (provided_of_load loaded own)

theorem Acyclic.noCycle (acyclic : Acyclic profiles) {system : AndOrSystem Package SoftPkgRef}
    (refers : ∀ first second, system.Follows first second → Refers profiles first second)
    (package : Package) : NoCycle system package :=
  fun other _ cycle => acyclic other (TransGen.mono refers _ _ cycle)

theorem acyclic_of_rank (rank : Package → Nat)
    (lower : ∀ first ∈ packages profiles, ∀ ref ∈ first.implementation.softPkgDependencies,
      ∀ softpkg ∈ loadSoftPkg profiles ref.localfile, ∀ implementation ∈ softpkg.implementations,
        rank ⟨softpkg, implementation⟩ < rank first) : Acyclic profiles := by
  have descends : ∀ {first second}, first ∈ packages profiles →
      TransGen (Refers profiles) first second → rank second < rank first := by
    intro first second provided path
    induction path with
    | single refers =>
        obtain ⟨ref, member, loaded, own, -⟩ := refers
        exact lower _ provided ref member _ loaded _ own
    | @tail middle last before refers ih =>
        have inside : middle ∈ packages profiles := by
          obtain ⟨previous, -, step⟩ := TransGen.tail'_iff.mp before
          exact refers_within step
        obtain ⟨ref, member, loaded, own, -⟩ := refers
        exact Nat.lt_trans (lower _ inside ref member _ loaded _ own) ih
  intro package cycle
  obtain ⟨previous, -, last⟩ := TransGen.tail'_iff.mp cycle
  exact Nat.lt_irrefl _ (descends (refers_within last) cycle)

theorem ends_iff_noCycle {system : AndOrSystem Package SoftPkgRef}
    (readable : system.Readable (Provided profiles))
    (refers : ∀ first second, system.Follows first second → Refers profiles first second)
    (provided : Provided profiles package) : system.Ends package ↔ NoCycle system package := by
  rw [AndOrSystem.ends_iff_acc readable provided]
  exact acc_iff_no_cycle fun first next follows => refers_within (refers first next follows)

end Systems

section Loading

variable {getLocalFile : Package → String}

theorem getDependencyLocalFiles_mem {dependency : SoftPkgDeployment}
    {dependencies : List SoftPkgDeployment} (member : dependency ∈ dependencies) :
    ∃ before after, getDependencyLocalFiles getLocalFile dependencies =
      before ++ localFiles getLocalFile dependency ++ after := by
  induction dependencies with
  | nil => exact absurd member not_mem_nil
  | cons first rest ih =>
      rw [getDependencyLocalFiles]
      rcases mem_cons.mp member with rfl | later
      · exact ⟨[], _, rfl⟩
      · obtain ⟨before, after, split⟩ := ih later
        exact ⟨localFiles getLocalFile first ++ before, after, by simp [split]⟩

theorem localFiles_within {inner deployment : SoftPkgDeployment} (within : Within inner deployment) :
    ∃ before after, localFiles getLocalFile deployment = before ++ localFiles getLocalFile inner ++ after := by
  induction within with
  | self => exact ⟨[], [], by simp⟩
  | @under dependency package dependencies member _ ih =>
      obtain ⟨before, after, split⟩ := ih
      obtain ⟨front, back, listed⟩ := @getDependencyLocalFiles_mem getLocalFile _ _ member
      exact ⟨front ++ before, after ++ back ++ [getLocalFile package],
        by simp only [localFiles, listed, split, append_assoc]⟩

structure Loads (accepts : String → Bool) (files : List String) (result : Bool × List String) :
    Prop where
  loaded : result.2 <+: files
  whole : result.1 = true → result.2 = files
  done : (∀ file ∈ files, accepts file = true) → result.1 = true

section Parts

variable {accepts : String → Bool} {first second loaded : List String}

theorem Loads.stopped (front : Loads accepts first (false, loaded)) :
    Loads accepts (first ++ second) (false, loaded) where
  loaded := front.loaded.trans (prefix_append _ _)
  whole := nofun
  done all := front.done fun file member => all file (mem_append_left _ member)

theorem Loads.behind (front : Loads accepts first (true, loaded)) {result : Bool × List String}
    (back : Loads accepts second result) :
    Loads accepts (first ++ second) (result.1, loaded ++ result.2) where
  loaded := by
    obtain rfl := front.whole rfl
    exact (prefix_append_right_inj _).mpr back.loaded
  whole done := by rw [show loaded = first from front.whole rfl, back.whole done]
  done all := back.done fun file member => all file (mem_append_right _ member)

end Parts

mutual

theorem load_loads (accepts : String → Bool) (deployment : SoftPkgDeployment) :
    Loads accepts (localFiles getLocalFile deployment) (load getLocalFile accepts deployment) := by
  match deployment with
  | .node package dependencies =>
      have front := loadDependencies_loads accepts dependencies
      rw [localFiles, load]
      cases result : loadDependencies getLocalFile accepts dependencies with
      | mk ended loaded =>
          rw [result] at front
          cases ended with
          | false => exact front.stopped
          | true =>
              simp only
              split
              · have own : Loads accepts [getLocalFile package] (true, [getLocalFile package]) :=
                  ⟨prefix_refl _, fun _ => rfl, fun _ => rfl⟩
                exact front.behind own
              · rename_i refused
                have own : Loads accepts [getLocalFile package] (false, []) :=
                  ⟨List.nil_prefix, nofun, fun all => absurd (all _ mem_cons_self) refused⟩
                have stays := front.behind own
                rwa [append_nil] at stays

theorem loadDependencies_loads (accepts : String → Bool) (dependencies : List SoftPkgDeployment) :
    Loads accepts (getDependencyLocalFiles getLocalFile dependencies)
      (loadDependencies getLocalFile accepts dependencies) := by
  match dependencies with
  | [] => exact ⟨prefix_refl _, fun _ => rfl, fun _ => rfl⟩
  | dependency :: rest =>
      have front := load_loads accepts dependency
      have back := loadDependencies_loads accepts rest
      rw [getDependencyLocalFiles, loadDependencies]
      cases result : load getLocalFile accepts dependency with
      | mk ended loaded =>
          rw [result] at front
          cases ended with
          | false => exact front.stopped
          | true => exact front.behind back

end

theorem loadedInOrder (getLocalFile : Package → String) (deployment : SoftPkgDeployment) :
    LoadedInOrder getLocalFile deployment where
  behind package dependencies within := by
    obtain ⟨before, after, split⟩ := @localFiles_within getLocalFile _ _ within
    exact ⟨before, after, by rw [split, localFiles]; simp⟩
  loaded accepts := (load_loads accepts deployment).loaded
  complete accepts all := by
    obtain ⟨-, whole, done⟩ := @load_loads getLocalFile accepts deployment
    exact Prod.ext (done all) (whole (done all))

end Loading

section Right

variable {profiles : List SoftPkg}

theorem resolutionRight_iff (closed : ReferEachOther profiles) (device : DeviceNode)
    {package : Package} (provided : Provided profiles package) :
    ResolutionRight profiles device package ↔ NoCycle (resolution profiles device) package := by
  have readable := resolution_readable closed device
  rw [← ends_iff_noCycle readable (fun _ _ => resolution_refers) provided]
  constructor
  · rintro ⟨fuel, outcome, ended, -⟩
    refine ⟨fuel, fun more enough none => ?_⟩
    exact nomatch none.symm.trans (ended more enough)
  · rintro ⟨fuel, ended⟩
    obtain ⟨outcome, found⟩ := ne_none_iff_exists'.mp (ended fuel (Nat.le_refl _))
    have tells := AndOrSystem.search_tells readable provided found
    refine ⟨fuel, outcome, fun more enough => AndOrSystem.search_mono enough found, fun _ => ?_, ?_⟩
    · cases outcome with
      | met trees => exact iff_of_true ⟨trees, rfl⟩ tells
      | missed trees => exact iff_of_false nofun tells
      | raised trees => exact tells.elim
    · rintro trees rfl
      exact ⟨AndOrSystem.search_solution found, fun getLocalFile => loadedInOrder getLocalFile _⟩

theorem validationEnds_iff (closed : ReferEachOther profiles) (files : FileSystem) (ref : SoftPkgRef) :
    ValidationEnds profiles files ref ↔
      ∀ package, (validation profiles files).Tries ref package → NoCycle (validation profiles files) package := by
  have readable := validation_readable closed files
  have nested : ∀ fuel, validateImplementation profiles files fuel false =
      (validation profiles files).search fuel := fun _ => rfl
  simp only [ValidationEnds, validateSoftPkgRef, nested]
  cases listed : (validation profiles files).candidates ref with
  | none =>
      simp only [AndOrSystem.chooseFor, listed]
      refine iff_of_true ⟨0, by rintro _ _ ⟨⟩⟩ ?_
      rintro package ⟨earlier, later, same, -⟩
      cases listed.symm.trans same
  | some list =>
      have below : ∀ next ∈ list, Provided profiles next := fun next member =>
        provided_of_load (validation_offers listed member).1 (validation_offers listed member).2.1
      rw [AndOrSystem.chooseFor_ends_iff readable listed below]
      refine forall_congr' fun package => imp_congr_right fun tries => ?_
      obtain ⟨earlier, later, same, -⟩ := tries
      obtain rfl := some.inj (listed.symm.trans same)
      exact ends_iff_noCycle readable (fun _ _ => validation_refers) (below package (by simp))

end Right

/-- Among files that refer to each other, resolution comes to its end, and to the right one, just where
the references that it follows from the package lead to no cycle, and validation where those of the
implementations of the package do not; without cyclic references both always do. -/
theorem resolution_right_iff {profiles : List SoftPkg} (closed : ReferEachOther profiles) :
    (∀ device package, Provided profiles package →
      (ResolutionRight profiles device package ↔ NoCycle (resolution profiles device) package)) ∧
    (∀ files ref, ValidationEnds profiles files ref ↔
      ∀ package, (validation profiles files).Tries ref package → NoCycle (validation profiles files) package) ∧
    (Acyclic profiles → (∀ device package, NoCycle (resolution profiles device) package) ∧
      ∀ files package, NoCycle (validation profiles files) package) :=
  ⟨fun device _ => resolutionRight_iff closed device, validationEnds_iff closed,
    fun acyclic => ⟨fun _ => acyclic.noCycle fun _ _ => resolution_refers,
      fun _ => acyclic.noCycle fun _ _ => validation_refers⟩⟩

def implementationOf (refs : List SoftPkgRef) : Implementation :=
  ⟨"cpp", "code", none, [], [], refs, []⟩

def filesOf (name : String) (refs : List SoftPkgRef) : SoftPkg :=
  ⟨name, [implementationOf refs], []⟩

def withLibrary : List SoftPkg :=
  [filesOf "demod.spd.xml" [⟨"fft.spd.xml", none⟩], filesOf "fft.spd.xml" []]

theorem withLibrary_closed : ReferEachOther withLibrary := ⟨by decide⟩

theorem resolution_right_library :
    ResolutionRight withLibrary ⟨"gpp", "gpp", 0, [], []⟩
      ⟨filesOf "demod.spd.xml" [⟨"fft.spd.xml", none⟩], implementationOf [⟨"fft.spd.xml", none⟩]⟩ :=
  have acyclic : Acyclic withLibrary :=
    acyclic_of_rank (fun package => package.implementation.softPkgDependencies.length)
      (by decide +kernel)
  ((resolution_right_iff withLibrary_closed).1 _ _ (mem_packages.mp (by decide))).mpr
    (((resolution_right_iff withLibrary_closed).2.2 acyclic).1 _ _)

def selfReferring : List SoftPkg :=
  [filesOf "loop.spd.xml" [⟨"loop.spd.xml", none⟩]]

def selfReference : Package :=
  ⟨filesOf "loop.spd.xml" [⟨"loop.spd.xml", none⟩], implementationOf [⟨"loop.spd.xml", none⟩]⟩

/-- Neither its resolution nor its validation comes to an end. -/
theorem self_reference_never_ends :
    ¬ResolutionRight selfReferring ⟨"gpp", "gpp", 0, [], []⟩ selfReference ∧
      ¬ValidationEnds selfReferring ⟨fun _ => true, fun directory path => directory ++ "/" ++ path⟩
        ⟨"loop.spd.xml", none⟩ := by
  have closed : ReferEachOther selfReferring := ⟨by decide⟩
  constructor
  · rw [resolutionRight_iff closed _ (mem_packages.mp (by decide))]
    intro acyclic
    refine acyclic selfReference .refl (.single ?_)
    exact ⟨[], _, [], rfl, nofun, [], [], by rfl, fun _ => nofun⟩
  · rw [validationEnds_iff closed]
    intro acyclic
    refine acyclic selfReference ⟨[], [], by rfl, fun _ => nofun⟩ selfReference .refl (.single ?_)
    exact ⟨[], _, [], rfl, nofun, [], [], by rfl, fun _ => nofun⟩

end Redhawk.Deployment
