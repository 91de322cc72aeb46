import RayScene.Viewer.Basic

namespace RayScene

open Render

inductive Action where
  | sourceLoaded (source : String)
  | sourceFailed (reason : String)
  | compile
  | render
  | realTime
  | cancel
  /-- Compiles the text, resets the samples and starts a session. -/
  | regenerate
  | setMaxSamples (count : UInt32)
  | exportVolume
  | exportProgress (fraction : Single)
  | exportFinished
  | cancelExport
  | resize (size : Viewport)

inductive Effect where
  | engine (command : Command Single)
  | startExport (scene : Scene Single) (settings : ExportSettings Single)
  | cancelExport

namespace Viewer

/-- The command that starts a session for the scene, in the current mode. -/
def session (v : Viewer) : List Effect :=
  match v.scene, v.camera with
  | some scene, .ok camera =>
    [.engine (if v.realTime then .realTime scene camera
      else .render scene camera v.currentMaxSamples)]
  | _, _ => []

def startExport (v : Viewer) : Viewer × List Effect :=
  match v.exportProgress, v.scene with
  | none, some scene =>
    ({ v with exportProgress := some 0.0 }, [.startExport scene v.exportSettings])
  | _, _ => (v, [])

/-- The viewer after an action, and the effects of the action. -/
def apply (v : Viewer) : Action → Viewer × List Effect
  | .sourceLoaded source =>
    ({ v with source, error := v.error.filter (!·.isFetch) }, [])
  | .sourceFailed reason => ({ v with error := some (.fetch reason) }, [])
  | .compile => (v.compile.2, [])
  | .render =>
    let v := { v with realTime := false }
    (v, v.session)
  | .realTime =>
    let v := { v with realTime := true }
    (v, v.session)
  | .cancel => (v, [.engine .cancel])
  | .regenerate =>
    match v.compile with
    | (false, v) => (v, [])
    | (true, v) =>
      let v := v.withMaxSamples defaultMaxSamples
      (v, v.session)
  | .setMaxSamples count => (v.withMaxSamples count, [])
  | .exportVolume => v.startExport
  | .exportProgress fraction =>
    ({ v with exportProgress := v.exportProgress.map fun _ => Scalar.clamp fraction 0.0 1.0 }, [])
  | .exportFinished => ({ v with exportProgress := none }, [])
  | .cancelExport =>
    ({ v with exportProgress := none }, if v.exportProgress.isSome then [.cancelExport] else [])
  | .resize size =>
    if size.isEmpty ∨ size = v.viewport then (v, [])
    else ({ v with viewport := size }, [.engine (.resize size)])

end Viewer

def Render.Engine.receive {B : Type} (e : Engine Single B) (effects : List Effect) :
    Engine Single B :=
  effects.foldl (fun e effect =>
    match effect with
    | .engine command => e.send command
    | .startExport .. | .cancelExport => e) e

end RayScene
