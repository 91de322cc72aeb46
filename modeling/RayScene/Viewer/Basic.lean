import RayScene.Render.Engine
import RayScene.SceneFile.Compile
import RayScene.Volume.Grid

namespace RayScene

open Render

inductive ViewerError where
  | fetch (reason : String)
  | scene (error : SceneFile.SceneError)
  | camera (error : CameraError Single)

def ViewerError.message : ViewerError → String
  | fetch reason => "could not load scene: " ++ reason
  | scene error => "scene error at " ++ error.describe
  | camera error => error.message

def ViewerError.isFetch : ViewerError → Bool
  | fetch _ => true
  | scene _ | camera _ => false

def marchedMaxSamples : UInt32 := 2

def defaultExportSettings : ExportSettings Single :=
  ⟨30, Vec3.splat (-1.0), Vec3.splat (-1.0)⟩

structure Viewer where
  source : String
  scene : Option (Scene Single)
  cameraSpec : CameraSpec Single
  /-- What is wrong with the text, since the last scene that compiled. -/
  error : Option ViewerError
  renderMode : RenderMode
  realTime : Bool
  maxSamples : UInt32
  exportSettings : ExportSettings Single
  exportProgress : Option Single
  viewport : Viewport
  hasCompiled : Bool

namespace Viewer

def new (viewport : Viewport) : Viewer where
  source := ""
  scene := none
  cameraSpec := .standard
  error := none
  renderMode := .raytrace
  realTime := false
  maxSamples := defaultMaxSamples
  exportSettings := defaultExportSettings
  exportProgress := none
  viewport := viewport
  hasCompiled := false

def currentMaxSamples (v : Viewer) : UInt32 :=
  match v.renderMode with
  | .sdf => marchedMaxSamples
  | .raytrace => v.maxSamples

/-- The ticks of a run without a screen; every session draws at least one sample. -/
def headlessFrames (v : Viewer) : Nat := max v.currentMaxSamples.toNat 1

def withMaxSamples (v : Viewer) (count : UInt32) : Viewer :=
  match v.renderMode with
  | .sdf => v
  | .raytrace => { v with maxSamples := count }

def cameraOf (v : Viewer) (spec : CameraSpec Single) :
    Except (CameraError Single) (Camera Single) :=
  Camera.build (spec.withAspect v.viewport.aspect)

def camera (v : Viewer) : Except (CameraError Single) (Camera Single) := v.cameraOf v.cameraSpec

def compiledSource (v : Viewer) : Except ViewerError (Scene Single × CameraSpec Single) :=
  match SceneFile.compile v.source with
  | .error error => .error (.scene error)
  | .ok scene =>
    let spec := scene.camera.getD .standard
    match v.cameraOf spec with
    | .error error => .error (.camera error)
    | .ok _ => .ok (scene, spec)

def initialized (v : Viewer) (scene : Scene Single) : Viewer :=
  if v.hasCompiled then v
  else { v with
    hasCompiled := true
    exportSettings :=
      (scene.exportOverrides.map v.exportSettings.withOverrides).getD v.exportSettings
    renderMode := scene.renderMode }

/-- Compiles the text; answers whether that worked. -/
def compile (v : Viewer) : Bool × Viewer :=
  match v.compiledSource with
  | .error error => (false, { v with error := some error })
  | .ok (scene, cameraSpec) =>
    (true, { v.initialized scene with scene := some scene, cameraSpec, error := none })

end Viewer
end RayScene
