import Mathlib.Data.List.Basic

/-!
The start-up of a node: how `DeviceManager_impl::postConstructor` goes over the component placements
of its configuration, with the program profiles that it sets up on the way
(`DeviceManager_impl.cpp`, `DeviceManager_DeployerSupport.cpp`, `spdSupport.cpp`).
-/

namespace Redhawk.Nodes

/-- The value of a property is of a type `Value`, the text of a reference to one of a type `Ref`. -/
structure DataType (Value : Type) where
  id : String
  value : Value

structure Property (Value : Type) where
  id : String
  value : Value
  isReadOnly : Bool
  isProperty : Bool
  isConfigure : Bool
  isExecParam : Bool
  isFactoryParam : Bool
  isCommandLine : Bool

structure ComponentProperty (Ref : Type) where
  id : String
  value : Ref

structure ComponentInstantiation (Ref : Type) where
  instantiationId : String
  usageName : String
  findByNamingServiceName : String
  properties : List (ComponentProperty Ref)
  affinity : List (ComponentProperty Ref)
  loggingConfig : String × String

structure DevicePlacement (Ref : Type) where
  fileRefId : String
  compositePartOfDeviceID : Option String
  first : ComponentInstantiation Ref
  others : List (ComponentInstantiation Ref)

def DevicePlacement.instantiations {Ref : Type} (placement : DevicePlacement Ref) :
    List (ComponentInstantiation Ref) :=
  placement.first :: placement.others

def DevicePlacement.ids {Ref : Type} (placement : DevicePlacement Ref) : List String :=
  placement.instantiations.map ComponentInstantiation.instantiationId

structure DeviceConfiguration (Ref : Type) where
  componentPlacements : List (DevicePlacement Ref)
  unique : (componentPlacements.flatMap DevicePlacement.ids).Nodup

def DeviceConfiguration.ids {Ref : Type} (dcd : DeviceConfiguration Ref) : List String :=
  dcd.componentPlacements.flatMap DevicePlacement.ids

inductive CodeType where
  | executable
  | sharedLibrary
  deriving DecidableEq

structure ImplementationInfo where
  id : String
  codeType : CodeType
  propertyFile : String
  entryPoint : String

structure ProgramProfile (Value : Type) where
  spdFileName : String
  spdPath : String
  selectedImplementation : ImplementationInfo
  componentType : String
  prf : List (Property Value)
  configureProperties : List (DataType Value)
  ctorProperties : List (DataType Value)
  options : List (DataType Value)
  factoryParameters : List (DataType Value)
  execParameters : List (DataType Value)
  affinityOptions : List (DataType Value)
  identifier : String
  instantiationId : String
  namingServiceName : String
  usageName : String
  loggingConfig : String × String

/-- What the node answers: its files, its devices and the conversion of property references. -/
structure Node (Value Ref : Type) where
  /-- The profile of a reference to a component file; none where it cannot be loaded or no
  implementation of it matches with its dependencies. -/
  loadProfile : String → Option (ProgramProfile Value)
  /-- The properties of an implementation's property file, if it exists and can be parsed. -/
  joinPRFProperties : String → Option (List (Property Value))
  /-- A path made absolute from the directory of the software package, and normalized. -/
  normalize : String → String → String
  getLocalPath : String → String
  /-- Whether `access` finds the file. -/
  fileExists : String → Bool
  /-- Whether `access` lets the file be read and executed. -/
  executable : String → Bool
  overridePropertyValue : Property Value → ComponentProperty Ref → Value
  simpleValue : Ref → Value
  affinityProperty : ComponentProperty Ref → Option (DataType Value)
  /-- The reference under which a launched instantiation registers; empty if it never does. -/
  registered : String → String
  /-- Whether a reference narrows to an executable device. -/
  isExecutableDevice : String → Bool
  /-- Whether an exception leaves the launch of the instantiation: a dependency that cannot be
  loaded, or a parent that refuses to load or execute. -/
  raises : String → Bool

variable {Value Ref : Type}

def convertPropertyToDataType (prop : Property Value) : DataType Value := ⟨prop.id, prop.value⟩

def addProperty (dt : DataType Value) (props : List (DataType Value)) : List (DataType Value) :=
  match props with
  | [] => [dt]
  | prop :: rest =>
    if prop.id = dt.id then { prop with value := dt.value } :: rest
    else prop :: addProperty dt rest

def join (prf : List (Property Value)) (other : List (Property Value)) : List (Property Value) :=
  other.foldl (fun prf prop =>
    if prf.any (fun own => own.id == prop.id) then
      prf.map fun own => if own.id = prop.id then { own with value := prop.value } else own
    else prf ++ [prop]) prf

def process_overrides (props : List (DataType Value)) (id : String) (value : Value) :
    List (DataType Value) :=
  props.map fun prop => if prop.id = id then { prop with value := value } else prop

namespace ProgramProfile

variable (profile : ProgramProfile Value)

def getProperty (id : String) : Option (Property Value) :=
  profile.prf.find? fun prop => prop.id == id

def addFactoryParameter (dt : DataType Value) : ProgramProfile Value :=
  { profile with factoryParameters := addProperty dt profile.factoryParameters }

def addExecParameter (dt : DataType Value) : ProgramProfile Value :=
  { profile with execParameters := addProperty dt profile.execParameters }

def addConfigureProperty (dt : DataType Value) : ProgramProfile Value :=
  { profile with configureProperties := addProperty dt profile.configureProperties }

def addConstructProperty (dt : DataType Value) : ProgramProfile Value :=
  { profile with ctorProperties := addProperty dt profile.ctorProperties }

variable (node : Node Value Ref)

def addDeviceImplProperties (profile : ProgramProfile Value) : Option (ProgramProfile Value) :=
  let prfFile := profile.selectedImplementation.propertyFile
  let devProps := if prfFile = "" then some [] else node.joinPRFProperties prfFile
  devProps.map fun devProps =>
    let profile := { profile with prf := join profile.prf devProps }
    let profile := (devProps.filter Property.isFactoryParam).foldl (fun profile prop =>
      profile.addFactoryParameter (convertPropertyToDataType prop)) profile
    let profile := (devProps.filter fun prop => prop.isExecParam && !prop.isReadOnly).foldl
      (fun profile prop => profile.addExecParameter (convertPropertyToDataType prop)) profile
    let profile := (devProps.filter fun prop => prop.isConfigure && !prop.isReadOnly).foldl
      (fun profile prop => profile.addConfigureProperty (convertPropertyToDataType prop)) profile
    (devProps.filter Property.isProperty).foldl (fun profile prop =>
      if prop.isCommandLine then profile.addExecParameter (convertPropertyToDataType prop)
      else profile.addConstructProperty (convertPropertyToDataType prop)) profile

def overrideValue (id : String) (value : Value) : ProgramProfile Value :=
  let all :=
    { profile with
      ctorProperties := process_overrides profile.ctorProperties id value
      configureProperties := process_overrides profile.configureProperties id value
      options := process_overrides profile.options id value
      factoryParameters := process_overrides profile.factoryParameters id value
      execParameters := process_overrides profile.execParameters id value }
  match profile.getProperty id with
  | none => all
  | some prop =>
    if !prop.isReadOnly then all
    else if !prop.isProperty then profile
    else
      { profile with
        execParameters :=
          if prop.isCommandLine then process_overrides profile.execParameters id value
          else profile.execParameters
        ctorProperties := process_overrides profile.ctorProperties id value }

def overrideProperty (profile : ProgramProfile Value)
    (propref : ComponentProperty Ref) : ProgramProfile Value :=
  if propref.id = "LOGGING_CONFIG_URI" ∨ propref.id = "LOG_LEVEL" then
    profile.addExecParameter ⟨propref.id, node.simpleValue propref.value⟩
  else
    match profile.getProperty propref.id with
    | none => profile
    | some prop => profile.overrideValue prop.id (node.overridePropertyValue prop propref)

def setAffinity (profile : ProgramProfile Value)
    (affinity : List (ComponentProperty Ref)) : ProgramProfile Value :=
  { profile with
    affinityOptions := (affinity.filterMap node.affinityProperty).foldl
      (fun options dt => addProperty dt options) profile.affinityOptions }

def setInstantiation (profile : ProgramProfile Value)
    (instantiation : ComponentInstantiation Ref) : ProgramProfile Value :=
  { profile with
    identifier := instantiation.instantiationId
    instantiationId := instantiation.instantiationId
    namingServiceName := instantiation.findByNamingServiceName
    usageName := instantiation.usageName
    affinityOptions := (profile.setAffinity node instantiation.affinity).affinityOptions
    loggingConfig := instantiation.loggingConfig }

def overrideProperties (profile : ProgramProfile Value)
    (instantiation : ComponentInstantiation Ref) : ProgramProfile Value :=
  instantiation.properties.foldl (fun profile propref => profile.overrideProperty node propref) profile

def getCodeFilePath (profile : ProgramProfile Value) (useLocalFileSystem : Bool) : Option String :=
  if profile.selectedImplementation.entryPoint = "" then none
  else
    let entryPoint := node.normalize profile.spdPath profile.selectedImplementation.entryPoint
    let localFilePath := node.getLocalPath entryPoint
    let codeFilePath := if useLocalFileSystem then localFilePath else entryPoint
    if codeFilePath = "" then none
    else if node.fileExists localFilePath then some codeFilePath
    else none

def getDeviceOrService : Option String :=
  let type :=
    if profile.componentType ∈ ["device", "loadabledevice", "executabledevice"] then "device"
    else profile.componentType
  if type = "device" ∨ type = "service" then some type else none

def isSharedLibrary : Bool :=
  profile.selectedImplementation.codeType == .sharedLibrary

end ProgramProfile

/-- A placement with its profile object, which is as it was loaded until something is set in it. The
implementation, the package and its component type never are. -/
structure Deployment (Value Ref : Type) where
  placement : DevicePlacement Ref
  object : Nat
  loaded : ProgramProfile Value

structure Launch (Value Ref : Type) where
  instantiation : ComponentInstantiation Ref
  usageName : String
  componentType : String
  codeFilePath : String
  compositeDeviceIOR : String
  profile : ProgramProfile Value

structure Manager (Value Ref : Type) where
  profiles : Nat → Option (ProgramProfile Value)
  deployed_comps : List (Deployment Value Ref)
  launches : List (Launch Value Ref)

inductive Stop where
  | waiting
  | raised
  deriving DecidableEq

def Launch.id (launch : Launch Value Ref) : String := launch.instantiation.instantiationId

namespace Deployment

def ids (deployment : Deployment Value Ref) : List String := deployment.placement.ids

def isCompositePart (deployment : Deployment Value Ref) : Bool :=
  deployment.placement.compositePartOfDeviceID.isSome && deployment.loaded.isSharedLibrary

def codeFilePath (node : Node Value Ref) (deployment : Deployment Value Ref) : Option String :=
  deployment.loaded.getCodeFilePath node (!deployment.isCompositePart)

def componentType (deployment : Deployment Value Ref) : Option String :=
  if deployment.isCompositePart then some "SharedLibrary" else deployment.loaded.getDeviceOrService

end Deployment

namespace Manager

def initial : Manager Value Ref := ⟨fun _ => none, [], []⟩

variable (manager : Manager Value Ref)

def profileOf (deployment : Deployment Value Ref) : ProgramProfile Value :=
  (manager.profiles deployment.object).getD deployment.loaded

def setProfile (deployment : Deployment Value Ref) (profile : ProgramProfile Value) : Manager Value Ref :=
  { manager with profiles := Function.update manager.profiles deployment.object (some profile) }

def deploy (deployment : Deployment Value Ref) : Manager Value Ref :=
  { manager with deployed_comps := manager.deployed_comps ++ [deployment] }

def launch (launch : Launch Value Ref) : Manager Value Ref :=
  { manager with launches := manager.launches ++ [launch] }

variable (node : Node Value Ref)

def getIORfromID (manager : Manager Value Ref) (instanceID : String) : String :=
  if manager.launches.any (fun launch => launch.id == instanceID) then node.registered instanceID
  else ""

def getCompositeDeviceIOR (dcd : DeviceConfiguration Ref)
    (manager : Manager Value Ref) (placement : DevicePlacement Ref) : Option String :=
  match placement.compositePartOfDeviceID with
  | none => some ""
  | some parent =>
    if parent ∈ dcd.ids then
      let ior := manager.getIORfromID node parent
      if ior = "" then none else some ior
    else some ""

def createUsageName (instantiation : ComponentInstantiation Ref) : String :=
  if instantiation.usageName = "" then instantiation.instantiationId else instantiation.usageName

def createDeviceThread (manager : Manager Value Ref)
    (deployment : Deployment Value Ref) (launch : Launch Value Ref) :
    Except Stop (Manager Value Ref) :=
  let refused :=
    if deployment.loaded.isSharedLibrary then
      deployment.placement.compositePartOfDeviceID.isNone ||
        !node.isExecutableDevice launch.compositeDeviceIOR
    else !node.executable launch.codeFilePath
  if refused then .ok manager
  else if node.raises launch.id then .error .raised
  else .ok (manager.launch launch)

def createDeviceThreadAndHandleExceptions (manager : Manager Value Ref)
    (deployment : Deployment Value Ref) (componentType codeFilePath : String)
    (instantiation : ComponentInstantiation Ref) (compositeDeviceIOR : String) :
    Except Stop (Manager Value Ref) :=
  let profile := (manager.profileOf deployment).overrideProperties node instantiation
  let manager := manager.setProfile deployment profile
  manager.createDeviceThread node deployment
    ⟨instantiation, createUsageName instantiation, componentType, codeFilePath, compositeDeviceIOR, profile⟩

def placeInstantiation (deployment : Deployment Value Ref)
    (compositeDeviceIOR : String) (manager : Manager Value Ref)
    (instantiation : ComponentInstantiation Ref) : Except Stop (Manager Value Ref) :=
  let manager := manager.setProfile deployment
    ((manager.profileOf deployment).setInstantiation node instantiation)
  match deployment.codeFilePath node with
  | none => .ok manager
  | some codeFilePath =>
    match deployment.componentType with
    | none => .ok manager
    | some componentType =>
      (manager.deploy deployment).createDeviceThreadAndHandleExceptions node deployment componentType
        codeFilePath instantiation compositeDeviceIOR

def place (dcd : DeviceConfiguration Ref) (manager : Manager Value Ref)
    (deployment : Deployment Value Ref) : Except Stop (Manager Value Ref) :=
  match (manager.profileOf deployment).addDeviceImplProperties node with
  | none => .ok manager
  | some profile =>
    let manager := manager.setProfile deployment profile
    match manager.getCompositeDeviceIOR node dcd deployment.placement with
    | none => .error .waiting
    | some ior =>
      deployment.placement.instantiations.foldlM (placeInstantiation node deployment ior) manager

def isDeployed (id : String) : Bool :=
  manager.deployed_comps.any fun deployment => deployment.ids.contains id

def placeComposite (node : Node Value Ref) (dcd : DeviceConfiguration Ref)
    (deployment : Deployment Value Ref) (compositePartDeviceID : String)
    (standalone : List (Deployment Value Ref)) (foundCompositeDeployed : Bool)
    (manager : Manager Value Ref) : Except Stop (Manager Value Ref) :=
  match standalone with
  | [] => .ok manager
  | parent :: rest =>
    let foundCompositeDeployed := foundCompositeDeployed ||
      (parent.ids.contains compositePartDeviceID && manager.isDeployed compositePartDeviceID)
    if foundCompositeDeployed then
      (manager.place node dcd deployment).bind
        (placeComposite node dcd deployment compositePartDeviceID rest foundCompositeDeployed)
    else placeComposite node dcd deployment compositePartDeviceID rest foundCompositeDeployed manager

def placeComposites (dcd : DeviceConfiguration Ref)
    (standalone composites : List (Deployment Value Ref)) (manager : Manager Value Ref) :
    Except Stop (Manager Value Ref) :=
  composites.foldlM (fun manager deployment =>
    placeComposite node dcd deployment (deployment.placement.compositePartOfDeviceID.getD "")
      standalone false manager) manager

def findProfile (componentInstantiationId : String) : Option (ProgramProfile Value) :=
  (manager.deployed_comps.find? fun deployment =>
    (manager.profileOf deployment).instantiationId == componentInstantiationId).map
      manager.profileOf

end Manager

def deployments (node : Node Value Ref) (dcd : DeviceConfiguration Ref) : List (Deployment Value Ref) :=
  dcd.componentPlacements.zipIdx.filterMap fun (placement, object) =>
    (node.loadProfile placement.fileRefId).map fun loaded => ⟨placement, object, loaded⟩

def standalonePlacements (node : Node Value Ref) (dcd : DeviceConfiguration Ref) :
    List (Deployment Value Ref) :=
  (deployments node dcd).filter fun deployment => !deployment.isCompositePart

def compositePlacements (node : Node Value Ref) (dcd : DeviceConfiguration Ref) :
    List (Deployment Value Ref) :=
  (deployments node dcd).filter Deployment.isCompositePart

def postConstructor (node : Node Value Ref) (dcd : DeviceConfiguration Ref) :
    Except Stop (Manager Value Ref) :=
  ((standalonePlacements node dcd).foldlM (Manager.place node dcd) Manager.initial).bind
    (Manager.placeComposites node dcd (standalonePlacements node dcd) (compositePlacements node dcd))

end Redhawk.Nodes
