import RayScene.Scene.Basic
import RayScene.Shader.Routine

namespace RayScene.Shader

inductive Target where
  | screen
  | grid
  deriving DecidableEq, Repr

inductive CameraSource (S : Type) where
  | uniform
  | baked (camera : Camera S)
  deriving DecidableEq, Repr

structure Options (S : Type) where
  realTime : Bool
  numSamples : UInt32
  renderMode : RenderMode
  camera : CameraSource S
  target : Target
  deriving Repr

namespace Options

variable {S : Type}

def standard : Options S := ⟨false, 1, .raytrace, .uniform, .screen⟩

def grid : Options S := { standard with renderMode := .sdf, target := .grid }

/-- Real-time drawing always takes one sample. -/
def samplesPerDraw (options : Options S) : UInt32 :=
  if options.realTime then 1 else options.numSamples

def marchesAll (options : Options S) : Bool :=
  options.target = .grid || options.renderMode = .sdf

end Options

inductive ShaderError where
  | sdfDepthExceeded (id : UInt32) (depth limit : Nat)
  | invalidSampleCount
  deriving DecidableEq, Repr

def ShaderError.message : ShaderError → String
  | sdfDepthExceeded id depth limit =>
    s!"object {id}: SDF tree depth {depth} exceeds the limit of {limit}"
  | invalidSampleCount => "sample count must be at least 1"

inductive BindingKind where
  | camera
  | frame
  | accumTexture
  | exportParams
  | exportValues
  deriving DecidableEq, Repr

def bindingGroup : Nat := 0

structure Binding where
  index : Nat
  name : String
  kind : BindingKind
  deriving DecidableEq, Repr

namespace Binding

def camera : Binding := ⟨0, "camera", .camera⟩

def frame : Binding := ⟨1, "frame", .frame⟩

def accumTexture : Binding := ⟨2, "accum_texture", .accumTexture⟩

def exportParams : Binding := ⟨0, "params", .exportParams⟩

def exportValues : Binding := ⟨1, "export_values", .exportValues⟩

end Binding

inductive ConstantValue (S : Type) where
  | u32 (value : UInt32)
  | f32 (value : S)
  deriving Repr

structure ObjectPart (S : Type) where
  id : UInt32
  /-- Center and radius of a sphere that is intersected in closed form. -/
  analytic : Option (Vec3 S × S)
  field : Option (Sdf S)
  /-- Material and color, unless nothing is drawn. -/
  shading : Option (Material × SurfaceColor S)
  deriving Repr

structure Plan (S : Type) where
  target : Target
  camera : CameraSource S
  bindings : List Binding
  constants : List (String × ConstantValue S)
  routines : List Routine
  objects : List (ObjectPart S)
  entryPoints : List EntryPoint
  deriving Repr

namespace Plan

variable {S : Type}

def binding? (plan : Plan S) (kind : BindingKind) : Option Binding :=
  plan.bindings.find? (·.kind = kind)

/-- The objects that are marched, with their fields. -/
def marched (plan : Plan S) : List (UInt32 × Sdf S) :=
  plan.objects.filterMap fun o => o.field.map (o.id, ·)

def analytic (plan : Plan S) : List (UInt32 × Vec3 S × S) :=
  plan.objects.filterMap fun o => o.analytic.map (o.id, ·)

end Plan

variable {S : Type}

def distinctFrom (seen : List UInt32) : List (SceneObject S) → List (SceneObject S)
  | [] => []
  | o :: rest =>
    if seen.contains o.id then distinctFrom seen rest else o :: distinctFrom (o.id :: seen) rest

def distinct (objects : List (SceneObject S)) : List (SceneObject S) := distinctFrom [] objects

def objectPart (options : Options S) (o : SceneObject S) : ObjectPart S :=
  let shading := if options.target = .screen then some (o.material, o.color) else none
  match o.shape with
  | .sphere center radius =>
    if options.marchesAll then ⟨o.id, none, some o.shape.toSdf, shading⟩
    else ⟨o.id, some (center, radius), none, shading⟩
  | .solid tree => ⟨o.id, none, some tree, shading⟩

def depthError? (part : ObjectPart S) : Option ShaderError :=
  match part.field with
  | some tree =>
    if Sdf.maxDepth < tree.depth then some (.sdfDepthExceeded part.id tree.depth Sdf.maxDepth)
    else none
  | none => none

def nodeRoutine? : Sdf S → Option Routine
  | .primitive kind .. => some (.primitive kind)
  | .smoothUnion .. => some .smoothUnion
  | .rotate .. => some .inverseRotate
  | .repeated .. => some .repeatDomain
  | _ => none

def materialRoutines (material : Material) : List Routine :=
  .scatter material :: match material with
    | .fuzzyMetal | .shinyMetal => [.reflectRough]
    | .glass => [.schlick]
    | .lambert | .light => []

def partRoutines (part : ObjectPart S) : List Routine :=
  (if part.analytic.isSome then [.hitSphere] else []) ++
    (part.field.elim [] fun tree => tree.subtrees.filterMap nodeRoutine?) ++
    part.shading.elim [] fun (material, _) => materialRoutines material

def screenRoutines : List Routine := [.random, .cameraRay, .surfaceHit, .background, .trace]

def neededRoutines (target : Target) (parts : List (ObjectPart S)) : List Routine :=
  let needed := parts.flatMap partRoutines ++
    if target = .screen then
      screenRoutines ++ if parts.any (·.field.isSome) then [.march] else []
    else []
  Routine.all.filter needed.contains

def bindings (options : Options S) : List Binding :=
  match options.target with
  | .grid => [.exportParams, .exportValues]
  | .screen =>
    (match options.camera with
      | .uniform => [.camera]
      | .baked _ => []) ++
      [.frame] ++ if options.realTime then [] else [.accumTexture]

def entryPoints (options : Options S) : List EntryPoint :=
  match options.target with
  | .grid => [.distances]
  | .screen => .vertex :: if options.realTime then [.realTime] else [.trace, .present]

def hitEpsilon [Scalar S] : S := 0.0005

def constants [Scalar S] (options : Options S) : List (String × ConstantValue S) :=
  [("MAX_BOUNCES", .u32 8),
    ("MAX_MARCH_STEPS", .u32 256),
    ("HIT_EPSILON", .f32 hitEpsilon),
    ("SURFACE_OFFSET", .f32 (hitEpsilon * 4.0)),
    ("MAX_DISTANCE", .f32 Distance.far),
    ("FUZZY_METAL_ROUGHNESS", .f32 0.3),
    ("SHINY_METAL_ROUGHNESS", .f32 0.02),
    ("GLASS_IOR", .f32 1.5),
    ("SAMPLES_PER_DRAW", .u32 options.samplesPerDraw),
    ("NO_OBJECT", .u32 0xFFFFFFFF)]

/-- Plans the shader of an object list; of several objects with one id only the first one counts. -/
def plan [Scalar S] (objects : List (SceneObject S)) (options : Options S) :
    Except ShaderError (Plan S) :=
  let parts := (distinct objects).map (objectPart options)
  if options.numSamples = 0 then .error .invalidSampleCount
  else
    match parts.findSome? depthError? with
    | some e => .error e
    | none => .ok {
        target := options.target
        camera := options.camera
        bindings := bindings options
        constants := constants options
        routines := neededRoutines options.target parts
        objects := parts.mergeSort fun a b => a.id ≤ b.id
        entryPoints := entryPoints options }

end RayScene.Shader
