import RayScene.SceneFile.Tagged

namespace RayScene.SceneFile

open Json

structure ObjectEntry where
  shape : Shape Single
  material : Material
  color : SurfaceColor Single
  deriving Repr

structure Document where
  objects : List ObjectEntry
  camera : Option (CameraSpec Single)
  rendererSettings : Option (RendererSettings Single)
  exportOverrides : Option (ExportOverrides Single)
  deriving Repr

structure CameraDraft where
  lookFrom : Option (Vec3 Single) := none
  lookAt : Option (Vec3 Single) := none
  up : Option (Vec3 Single) := none
  fieldOfView : Option Single := none
  aperture : Option Single := none
  aspect : Option Single := none
  focusDistance : Option (Option Single) := none

def camera (levels : Nat) : Record CameraDraft (CameraSpec Single) where
  title := "struct CameraSpec"
  rejectsUnknown := false
  fields := [
    .of "lookFrom" (·.lookFrom) (fun d v => { d with lookFrom := some v }) (vector levels),
    .of "lookAt" (·.lookAt) (fun d v => { d with lookAt := some v }) (vector levels),
    .of "vUp" (·.up) (fun d v => { d with up := some v }) (vector levels),
    .of "vfov" (·.fieldOfView) (fun d x => { d with fieldOfView := some x }) single,
    .of "aperture" (·.aperture) (fun d x => { d with aperture := some x }) single,
    .of "aspect" (·.aspect) (fun d x => { d with aspect := some x }) single,
    .of "focusDistance" (·.focusDistance) (fun d x => { d with focusDistance := some x })
      (optional single)]
  draft := {}
  finish missing draft := do
    return {
      lookFrom := ← require (missing 0 "lookFrom") draft.lookFrom
      lookAt := ← require (missing 1 "lookAt") draft.lookAt
      up := ← require (missing 2 "vUp") draft.up
      fieldOfView := ← require (missing 3 "vfov") draft.fieldOfView
      aperture := draft.aperture.getD 0.0
      aspect := draft.aspect.getD 1.0
      focusDistance := draft.focusDistance.join }

structure RendererDraft where
  renderMode : Option (Option RenderMode) := none
  maxSamples : Option (Option UInt32) := none
  background : Option (Option (Vec3 Single × Vec3 Single)) := none

def gradient (levels : Nat) : Reader (Vec3 Single × Vec3 Single) := do
  let expected := "an array of length 2"
  match ← tuple levels expected 2 vector with
  | [bottom, top] => return (bottom, top)
  | other => reject (.invalidLength other.length expected)

def renderModes : List (String × RenderMode) := [("raytrace", .raytrace), ("sdf", .sdf)]

def rendererSettings (levels : Nat) : Record RendererDraft (RendererSettings Single) where
  title := "struct RendererSettings"
  rejectsUnknown := false
  fields := [
    .of "renderMode" (·.renderMode) (fun d x => { d with renderMode := some x })
      (optional (choice levels renderModes)),
    .of "maxSamples" (·.maxSamples) (fun d x => { d with maxSamples := some x })
      (optional natural32),
    .of "background" (·.background) (fun d x => { d with background := some x })
      (optional (gradient levels))]
  draft := {}
  finish _ draft := .ok ⟨draft.renderMode.join, draft.maxSamples.join, draft.background.join⟩

structure ExportDraft where
  resolution : Option (Option Int64) := none
  minCoords : Option (Option (Vec3 Single)) := none
  maxCoords : Option (Option (Vec3 Single)) := none

def exportOverrides (levels : Nat) : Record ExportDraft (ExportOverrides Single) where
  title := "struct SdfExportSettings"
  rejectsUnknown := false
  fields := [
    .of "resolution" (·.resolution) (fun d x => { d with resolution := some x })
      (optional integer64),
    .of "minCoords" (·.minCoords) (fun d v => { d with minCoords := some v })
      (optional (vector levels)),
    .of "maxCoords" (·.maxCoords) (fun d v => { d with maxCoords := some v })
      (optional (vector levels))]
  draft := {}
  finish _ draft := .ok ⟨draft.resolution.join, draft.minCoords.join, draft.maxCoords.join⟩

def material : Reader Material := do
  let tag ← string
  match Material.ofTag? tag with
  | some material => return material
  | none => reject (.other (Material.unknownMessage tag))

def colorFault : Fault := .other "color must be an [r, g, b] array or an expression string"

def decodeColor : Decoder (SurfaceColor Single)
  | .string source =>
    match SurfaceColor.parse source with
    | .ok color => .ok color
    | .error e => .error (.other (s!"invalid color expression `{source}`: " ++ e.message))
  | v =>
    match decodeVector v with
    | .ok rgb => .ok (.literal rgb)
    | .error _ => .error colorFault

/-- Reads a color; a text that is no value at all counts as a value of a wrong type. -/
def color (levels : Nat) : Reader (SurfaceColor Single) := fun cursor =>
  match value levels cursor with
  | .ok v cursor => ofExcept (decodeColor v) cursor
  | .error _ cursor => .error ⟨colorFault, none⟩ cursor

structure ObjectDraft where
  material : Option Material := none
  color : Option (SurfaceColor Single) := none
  /-- All other members, the last one first. -/
  others : List (String × Value) := []

def objectMember (levels : Nat) (draft : ObjectDraft) (key : String) : Reader ObjectDraft := do
  match key with
  | "material" =>
    if draft.material.isSome then reject (.duplicateField key)
    colon
    return { draft with material := some (← material) }
  | "color" =>
    if draft.color.isSome then reject (.duplicateField key)
    colon
    return { draft with color := some (← color levels) }
  | _ =>
    colon
    return { draft with others := (key, ← value levels) :: draft.others }

def object (levels : Nat) : Reader ObjectEntry := do
  if (← valueStart) = '\x7b' then
    inObject levels fun inner => do
      let draft ← members (objectMember inner) {}
      let material ← ofExcept (require (.missingField "material") draft.material)
      let shape ← ofExcept (decodeShape draft.others.reverse)
      return ⟨shape, material, draft.color.getD .standard⟩
  else mistyped "struct ObjectDef"

structure DocumentDraft where
  objects : Option (List ObjectEntry) := none
  camera : Option (Option (CameraSpec Single)) := none
  rendererSettings : Option (Option (RendererSettings Single)) := none
  exportOverrides : Option (Option (ExportOverrides Single)) := none

def document (levels : Nat) : Record DocumentDraft Document where
  title := "struct SceneDef"
  rejectsUnknown := true
  fields := [
    .of "objectList" (·.objects) (fun d x => { d with objects := some x }) (list levels object),
    .of "camera" (·.camera) (fun d x => { d with camera := some x })
      (optional (Record.read camera levels)),
    .of "rendererSettings" (·.rendererSettings) (fun d x => { d with rendererSettings := some x })
      (optional (Record.read rendererSettings levels)),
    .of "sdfExportSettings" (·.exportOverrides) (fun d x => { d with exportOverrides := some x })
      (optional (Record.read exportOverrides levels))]
  draft := {}
  finish missing draft := do
    return {
      objects := ← require (missing 0 "objectList") draft.objects
      camera := draft.camera.join
      rendererSettings := draft.rendererSettings.join
      exportOverrides := draft.exportOverrides.join }

def envelope (levels : Nat) : Record (Option Document) Document where
  title := "struct Envelope"
  rejectsUnknown := false
  fields := [.of "scene" id (fun _ d => some d) (Record.read document levels)]
  draft := none
  finish missing draft := require (missing 0 "scene") draft

end RayScene.SceneFile
