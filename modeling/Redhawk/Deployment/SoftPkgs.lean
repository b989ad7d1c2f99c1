import Mathlib.Data.List.Basic
import Redhawk.Library.AndOrSearch

/-!
Devices with the properties that decide whether a component may be placed on them (the comparisons of
`prop_helpers`, `PropertyMap`, and `checkProcessor` and `checkOs` of `prop_utils`), and soft packages
that need other soft packages: `resolveSoftpkgDependencies` at the creation of an application,
`validateSoftPkgRef` at its installation, and how what was resolved is loaded.
-/

namespace Redhawk.Deployment

open Redhawk.Library

abbrev DeviceRef := Nat

inductive IntegerKind
  | char
  | octet
  | short
  | ushort
  | long
  | ulong
  | longlong
  | ulonglong
deriving DecidableEq

inductive Any
  | boolean (value : Bool)
  | integer (kind : IntegerKind) (value : Int)
  | float (value : Float32)
  | double (value : Float)
  | string (value : String)
  | other

def performAction {α : Type} [DecidableEq α] [LT α] [DecidableLT α] (val1 val2 : α) (action : String) :
    Bool :=
  if action = "eq" then val1 = val2
  else if action = "ne" then val1 ≠ val2
  else if action = "gt" then val2 < val1
  else if action = "lt" then val1 < val2
  else if action = "ge" then val2 < val1 ∨ val1 = val2
  else if action = "le" then val1 < val2 ∨ val1 = val2
  else false

def compareAnys : Any → Any → Bool
  | .boolean a, .boolean b => a == b
  | .integer kindA a, .integer kindB b => kindA == kindB && a == b
  | .float a, .float b => a == b
  | .double a, .double b => a == b
  | .string a, .string b => performAction a b "eq"
  | _, _ => false

abbrev PropertyMap := List (String × Any)

namespace PropertyMap

def find (self : PropertyMap) (id : String) : Option (String × Any) :=
  self.find? fun property => property.1 == id

def equals (self other : PropertyMap) : Bool :=
  self.length == other.length &&
    self.all fun property =>
      match other.find property.1 with
      | none => false
      | some otherProp => compareAnys property.2 otherProp.2

end PropertyMap

inductive Property
  | simple (name : String) (value : Option String) (action : String)
  | other
deriving DecidableEq

structure DeviceNode where
  identifier : String
  label : String
  device : DeviceRef
  prf : List Property
  requiresProps : PropertyMap

def matchesProperty (name value : String) : Property → Bool
  | .simple propName propValue action =>
    propName == name && performAction (propValue.getD "") value action
  | .other => false

def checkProcessor (processorDeps : List String) (props : List Property) : Bool :=
  processorDeps.isEmpty ||
    processorDeps.any fun processor =>
      processor == "" || props.any (matchesProperty "processor_name" processor)

abbrev NameVersionPair := String × String

def checkOs (osDeps : List NameVersionPair) (props : List Property) : Bool :=
  osDeps.isEmpty ||
    osDeps.any fun os =>
      (os.1 == "" || props.any (matchesProperty "os_name" os.1)) &&
        (os.2 == "" || props.any (matchesProperty "os_version" os.2))

structure SoftPkgRef where
  localfile : String
  implref : Option String
deriving DecidableEq

structure UsesDevice where
  id : String
deriving DecidableEq

structure Implementation where
  implementationID : String
  codeFile : String
  entryPoint : Option String
  processorDeps : List String
  osDeps : List NameVersionPair
  softPkgDependencies : List SoftPkgRef
  usesDevice : List UsesDevice
deriving DecidableEq

structure SoftPkg where
  spdFile : String
  implementations : List Implementation
  usesDevice : List UsesDevice
deriving DecidableEq

namespace SoftPkg

def getImplementation (softpkg : SoftPkg) (id : String) : Option Implementation :=
  softpkg.implementations.find? fun implementation => id == implementation.implementationID

def spdPath (softpkg : SoftPkg) : String :=
  match softpkg.spdFile.toList.reverse.dropWhile (· ≠ '/') with
  | [] => softpkg.spdFile
  | _ :: directory => String.ofList directory.reverse

end SoftPkg

structure Package where
  softpkg : SoftPkg
  implementation : Implementation
deriving DecidableEq

/-- The package of a file; `none` is `invalid_profile`. -/
def loadSoftPkg (profiles : List SoftPkg) (filename : String) : Option SoftPkg :=
  profiles.find? fun softpkg => softpkg.spdFile == filename

structure ReferEachOther (profiles : List SoftPkg) : Prop where
  closed : ∀ softpkg ∈ profiles, ∀ implementation ∈ softpkg.implementations,
    ∀ ref ∈ implementation.softPkgDependencies, ∃ target ∈ profiles, target.spdFile = ref.localfile

def Provided (profiles : List SoftPkg) (package : Package) : Prop :=
  package.softpkg ∈ profiles ∧ package.implementation ∈ package.softpkg.implementations

def packages (profiles : List SoftPkg) : List Package :=
  profiles.flatMap fun softpkg => softpkg.implementations.map (⟨softpkg, ·⟩)

variable {profiles : List SoftPkg}

theorem mem_packages {package : Package} : package ∈ packages profiles ↔ Provided profiles package := by
  simp only [packages, List.mem_flatMap, List.mem_map]
  constructor
  · rintro ⟨softpkg, file, implementation, member, rfl⟩
    exact ⟨file, member⟩
  · exact fun ⟨file, member⟩ => ⟨_, file, _, member, rfl⟩

theorem ReferEachOther.loads (closed : ReferEachOther profiles) {package : Package}
    (provided : Provided profiles package) {ref : SoftPkgRef}
    (member : ref ∈ package.implementation.softPkgDependencies) :
    ∃ softpkg, loadSoftPkg profiles ref.localfile = some softpkg := by
  obtain ⟨target, file, same⟩ := closed.closed _ provided.1 _ provided.2 ref member
  rw [← Option.isSome_iff_exists, loadSoftPkg, List.find?_isSome]
  exact ⟨target, file, by simpa using same⟩

abbrev SoftPkgDeployment := Library.Tree Package

section Resolution

variable (profiles : List SoftPkg) (device : DeviceNode)

def canResolve (ref : SoftPkgRef) (implementation : Implementation) : Bool :=
  ref.implref.all (fun implref => implementation.implementationID == implref) &&
    checkProcessor implementation.processorDeps device.prf &&
    checkOs implementation.osDeps device.prf

def resolution : AndOrSystem Package SoftPkgRef where
  refs package := some package.implementation.softPkgDependencies
  candidates ref :=
    (loadSoftPkg profiles ref.localfile).map fun softpkg =>
      (softpkg.implementations.filter (canResolve device ref)).map (⟨softpkg, ·⟩)
  exhaustive := false

def resolveSoftpkgDependencies (fuel : Nat) (deployment : Package) : Option (Searched Package) :=
  (resolution profiles device).search fuel deployment

def resolveDependencyImplementation (fuel : Nat) (ref : SoftPkgRef) : Option (Choice Package) :=
  (resolution profiles device).chooseFor (resolveSoftpkgDependencies profiles device fuel) ref

end Resolution

/-- What the validator asks of the file system, and `operator/` of paths. -/
structure FileSystem where
  fileExists : String → Bool
  join : String → String → String

section Validation

variable (profiles : List SoftPkg) (files : FileSystem)

def relativePath (softpkg : SoftPkg) (path : String) : String :=
  if path.startsWith "/" then path else files.join softpkg.spdPath path

/-- References as they are validated: all implementations are, unless one is named, and one that is valid
is enough. An implementation needs its code file. -/
def validation : AndOrSystem Package SoftPkgRef where
  refs package :=
    if files.fileExists (relativePath files package.softpkg package.implementation.codeFile) then
      some package.implementation.softPkgDependencies
    else none
  candidates ref :=
    if ref.localfile.isEmpty then some []
    else if !files.fileExists ref.localfile then some []
    else
      (loadSoftPkg profiles ref.localfile).map fun softpkg =>
        match ref.implref with
        | some implId => ((softpkg.getImplementation implId).map (Package.mk softpkg)).toList
        | none => softpkg.implementations.map (⟨softpkg, ·⟩)
  exhaustive := true

/-- `missed` stands for a `validation_error`. -/
def validateImplementation (fuel : Nat) (executable : Bool) (package : Package) :
    Option (Searched Package) :=
  let entryPoint := package.implementation.entryPoint.map (relativePath files package.softpkg)
  if executable && !entryPoint.any files.fileExists then some (.missed [])
  else (validation profiles files).search fuel package

def validateSoftPkgRef (fuel : Nat) (softpkgref : SoftPkgRef) : Option (Choice Package) :=
  (validation profiles files).chooseFor (validateImplementation profiles files fuel false) softpkgref

end Validation

section Loading

variable (getLocalFile : Package → String)

mutual

def localFiles : SoftPkgDeployment → List String
  | .node package dependencies => getDependencyLocalFiles dependencies ++ [getLocalFile package]

def getDependencyLocalFiles : List SoftPkgDeployment → List String
  | [] => []
  | dependency :: rest => localFiles dependency ++ getDependencyLocalFiles rest

end

mutual

def load (accepts : String → Bool) : SoftPkgDeployment → Bool × List String
  | .node package dependencies =>
    match loadDependencies accepts dependencies with
    | (false, loaded) => (false, loaded)
    | (true, loaded) =>
      if accepts (getLocalFile package) then (true, loaded ++ [getLocalFile package])
      else (false, loaded)

def loadDependencies (accepts : String → Bool) : List SoftPkgDeployment → Bool × List String
  | [] => (true, [])
  | dependency :: rest =>
    match load accepts dependency with
    | (false, loaded) => (false, loaded)
    | (true, loaded) =>
      let behind := loadDependencies accepts rest
      (behind.1, loaded ++ behind.2)

end

end Loading

end Redhawk.Deployment
