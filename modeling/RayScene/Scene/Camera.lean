import RayScene.Geometry.Vec3
import RayScene.Number.Notation

namespace RayScene

structure CameraSpec (S : Type) where
  lookFrom : Vec3 S
  lookAt : Vec3 S
  up : Vec3 S
  fieldOfView : S
  /-- Lens diameter; zero makes a pinhole camera. -/
  aperture : S
  aspect : S
  /-- Distance of the plane in focus, if it is not the one through `lookAt`. -/
  focusDistance : Option S
  deriving DecidableEq, Repr

inductive CameraError (S : Type) where
  | fieldOfView (value : S)
  | aspect (value : S)
  | aperture (value : S)
  | coincidentPoints
  | parallelUp
  | focusDistance (value : S)
  deriving DecidableEq, Repr

def CameraError.reason : CameraError Single → String
  | fieldOfView value => s!"vfov must lie in (0, 180), got {value.plain}"
  | aspect value => s!"aspect must be positive, got {value.plain}"
  | aperture value => s!"aperture must not be negative, got {value.plain}"
  | coincidentPoints => "lookFrom and lookAt coincide"
  | parallelUp => "vUp is parallel to the view direction"
  | focusDistance value => s!"focusDistance must be positive, got {value.plain}"

def CameraError.message (e : CameraError Single) : String := "invalid camera spec: " ++ e.reason

structure Camera (S : Type) where
  spec : CameraSpec S
  origin : Vec3 S
  lowerLeftCorner : Vec3 S
  horizontal : Vec3 S
  vertical : Vec3 S
  u : Vec3 S
  v : Vec3 S
  w : Vec3 S
  lensRadius : S
  focusDistance : S
  deriving DecidableEq, Repr

inductive UniformKind where
  | scalar
  | vector
  deriving DecidableEq, Repr

inductive UniformValue (S : Type) where
  | scalar (value : S)
  | vector (value : Vec3 S)
  deriving DecidableEq, Repr

variable {S : Type} [Scalar S]

namespace CameraSpec

def standard : CameraSpec S where
  lookFrom := ⟨3.1, 1.4, 1.9⟩
  lookAt := ⟨-0.25, 0.75, -1.5⟩
  up := ⟨0.0, 1.0, 0.0⟩
  fieldOfView := 45.0
  aperture := 0.001
  aspect := 1.0
  focusDistance := none

def withAspect (spec : CameraSpec S) (aspect : S) : CameraSpec S := { spec with aspect }

end CameraSpec

namespace Camera

def parallelTolerance : S := 1e-6

/-- The basis and the image plane of a spec, or the first thing that is wrong with it. -/
def build (spec : CameraSpec S) : Except (CameraError S) (Camera S) := do
  unless Scalar.zero < spec.fieldOfView ∧ spec.fieldOfView < 180.0 do
    throw (.fieldOfView spec.fieldOfView)
  unless Scalar.isPositive spec.aspect do
    throw (.aspect spec.aspect)
  unless Scalar.isFinite spec.aperture ∧ Scalar.zero ≤ spec.aperture do
    throw (.aperture spec.aperture)
  let view := spec.lookFrom - spec.lookAt
  let viewLength := view.length
  if viewLength ≤ parallelTolerance then
    throw .coincidentPoints
  let w := view / viewLength
  let side := spec.up.cross w
  if side.length ≤ parallelTolerance * Scalar.max spec.up.length 1.0 then
    throw .parallelUp
  let u := side.normalize
  let v := w.cross u
  let focus := spec.focusDistance.getD viewLength
  unless Scalar.isPositive focus do
    throw (.focusDistance focus)
  let halfHeight := Scalar.tan (spec.fieldOfView * 0.5 * Scalar.degree)
  let halfWidth := spec.aspect * halfHeight
  return {
    spec
    origin := spec.lookFrom
    lowerLeftCorner :=
      spec.lookFrom - halfWidth * focus * u - halfHeight * focus * v - focus * w
    horizontal := 2.0 * halfWidth * focus * u
    vertical := 2.0 * halfHeight * focus * v
    u, v, w
    lensRadius := spec.aperture * 0.5
    focusDistance := focus }

/-- The same camera for another shape of the image. -/
def withAspect (camera : Camera S) (aspect : S) : Except (CameraError S) (Camera S) :=
  build (camera.spec.withAspect aspect)

def uniforms (camera : Camera S) : List (String × UniformValue S) :=
  [("origin", .vector camera.origin),
    ("lower_left_corner", .vector camera.lowerLeftCorner),
    ("horizontal", .vector camera.horizontal),
    ("vertical", .vector camera.vertical),
    ("u", .vector camera.u),
    ("v", .vector camera.v),
    ("w", .vector camera.w),
    ("lens_radius", .scalar camera.lensRadius)]

def uniformLayout : List (String × UniformKind) :=
  [("origin", .vector), ("lower_left_corner", .vector), ("horizontal", .vector),
    ("vertical", .vector), ("u", .vector), ("v", .vector), ("w", .vector),
    ("lens_radius", .scalar)]

end Camera
end RayScene
