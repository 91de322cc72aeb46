import RayScene.Color.Parser
import RayScene.Geometry.Validity
import RayScene.Scene.Camera
import RayScene.Scene.Material

namespace RayScene

inductive RenderMode where
  | raytrace
  | sdf
  deriving DecidableEq, Repr, Inhabited

structure RendererSettings (S : Type) where
  renderMode : Option RenderMode
  maxSamples : Option UInt32
  background : Option (Vec3 S × Vec3 S)
  deriving DecidableEq, Repr

def RendererSettings.none {S : Type} : RendererSettings S := ⟨.none, .none, .none⟩

/-- What a scene wants of its volume export; checked only when an export starts. -/
structure ExportOverrides (S : Type) where
  resolution : Option Int64
  minCoords : Option (Vec3 S)
  maxCoords : Option (Vec3 S)
  deriving DecidableEq, Repr

inductive SurfaceColor (S : Type) where
  | literal (rgb : Vec3 S)
  /-- Evaluated at every surface point, with the text that it was read from. -/
  | expression (source : String) (root : Color.Expr S)
  deriving Repr, Inhabited

/-- An expression goes with the text that it was read from. -/
def SurfaceColor.Parsed : SurfaceColor Single → Prop
  | literal _ => True
  | expression source root => Color.parse source = .ok root

inductive Shape (S : Type) where
  | sphere (center : Vec3 S) (radius : S)
  | solid (tree : Sdf S)
  deriving Repr, Inhabited

structure SceneObject (S : Type) where
  id : UInt32
  shape : Shape S
  material : Material
  color : SurfaceColor S
  deriving Repr

structure Scene (S : Type) where
  objects : List (SceneObject S)
  camera : Option (CameraSpec S)
  rendererSettings : RendererSettings S
  exportOverrides : Option (ExportOverrides S)
  deriving Repr

variable {S : Type}

namespace Shape

def isSolid : Shape S → Bool
  | sphere .. => false
  | solid _ => true

/-- The shape as a distance field. -/
def toSdf : Shape S → Sdf S
  | sphere center radius => .primitive .sphere center (Vec3.splat radius)
  | solid tree => tree

def distance [Scalar S] : Shape S → Vec3 S → S
  | sphere center radius, p => (p - center).length - radius
  | solid tree, p => tree.distance p

end Shape

def SurfaceColor.standard [Scalar S] : SurfaceColor S := .literal (Vec3.splat 0.8)

/-- Reads a color expression and keeps its text. -/
def SurfaceColor.parse (source : String) : Except Color.ExprError (SurfaceColor Single) :=
  return .expression source (← Color.parse source)

namespace Scene

def ofObjects (objects : List (SceneObject S)) : Scene S := ⟨objects, none, .none, none⟩

def hasSolids (scene : Scene S) : Bool := scene.objects.any (·.shape.isSolid)

def renderMode (scene : Scene S) : RenderMode := scene.rendererSettings.renderMode.getD .raytrace

/-- The distance to the nearest object. -/
def distance [Scalar S] (scene : Scene S) (p : Vec3 S) : S :=
  match scene.objects.map (·.shape.distance p) with
  | [] => Distance.far
  | d :: ds => ds.foldl Scalar.min d

end Scene
end RayScene
