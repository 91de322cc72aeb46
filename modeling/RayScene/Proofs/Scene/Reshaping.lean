import RayScene.Scene.Camera
import RayScene.Proofs.Outcome

namespace RayScene

variable {S : Type} [Scalar S]

namespace CameraSpec

def viewLength (spec : CameraSpec S) : S := (spec.lookFrom - spec.lookAt).length

def backward (spec : CameraSpec S) : Vec3 S := (spec.lookFrom - spec.lookAt) / spec.viewLength

def sideways (spec : CameraSpec S) : Vec3 S := spec.up.cross spec.backward

def focus (spec : CameraSpec S) : S := spec.focusDistance.getD spec.viewLength

/-- Nothing is wrong with a spec. -/
structure Sound (spec : CameraSpec S) : Prop where
  fieldOfView : Scalar.zero < spec.fieldOfView ∧ spec.fieldOfView < 180.0
  aspect : Scalar.isPositive spec.aspect = true
  aperture : Scalar.isFinite spec.aperture = true ∧ Scalar.zero ≤ spec.aperture
  apart : ¬ spec.viewLength ≤ Camera.parallelTolerance
  upright : ¬ spec.sideways.length ≤ Camera.parallelTolerance * Scalar.max spec.up.length 1.0
  focused : Scalar.isPositive spec.focus = true

/-- The camera of a spec, whether or not the spec is sound. -/
def camera (spec : CameraSpec S) : Camera S :=
  let u := spec.sideways.normalize
  let v := spec.backward.cross u
  let halfHeight := Scalar.tan (spec.fieldOfView * 0.5 * Scalar.degree)
  let halfWidth := spec.aspect * halfHeight
  { spec
    origin := spec.lookFrom
    lowerLeftCorner := spec.lookFrom - halfWidth * spec.focus * u - halfHeight * spec.focus * v -
      spec.focus * spec.backward
    horizontal := 2.0 * halfWidth * spec.focus * u
    vertical := 2.0 * halfHeight * spec.focus * v
    u, v
    w := spec.backward
    lensRadius := spec.aperture * 0.5
    focusDistance := spec.focus }

theorem Sound.reshaped {spec : CameraSpec S} (sound : spec.Sound) {aspect : S}
    (positive : Scalar.isPositive aspect = true) : (spec.withAspect aspect).Sound where
  fieldOfView := sound.fieldOfView
  aspect := positive
  aperture := sound.aperture
  apart := sound.apart
  upright := sound.upright
  focused := sound.focused

end CameraSpec

namespace Camera

theorem build_eq_ok_iff (spec : CameraSpec S) (camera : Camera S) :
    build spec = .ok camera ↔ spec.Sound ∧ camera = spec.camera := by
  unfold build
  simp only [Outcome.required_eq_ok, Outcome.excluded_eq_ok]
  constructor
  · rintro ⟨fieldOfView, aspect, aperture, apart, upright, focused, same⟩
    exact ⟨⟨fieldOfView, aspect, aperture, apart, upright, focused⟩, (Except.ok.inj same).symm⟩
  · rintro ⟨⟨fieldOfView, aspect, aperture, apart, upright, focused⟩, rfl⟩
    exact ⟨fieldOfView, aspect, aperture, apart, upright, focused, rfl⟩

def Built (camera : Camera S) : Prop := ∃ spec : CameraSpec S, build spec = .ok camera

variable {camera reshaped : Camera S} {aspect : S}

theorem Built.sound (built : camera.Built) : camera.spec.Sound := by
  obtain ⟨spec, made⟩ := built
  obtain ⟨sound, rfl⟩ := (build_eq_ok_iff spec camera).mp made
  exact sound

theorem Built.withAspect (built : camera.Built) (positive : Scalar.isPositive aspect = true) :
    camera.withAspect aspect = .ok (camera.spec.withAspect aspect).camera :=
  (build_eq_ok_iff _ _).mpr ⟨built.sound.reshaped positive, rfl⟩

theorem withAspect_built (made : camera.withAspect aspect = .ok reshaped) : reshaped.Built :=
  ⟨_, made⟩

/-- Only the last shape counts. -/
theorem withAspect_withAspect (made : camera.withAspect aspect = .ok reshaped) (last : S) :
    reshaped.withAspect last = camera.withAspect last := by
  obtain ⟨_, rfl⟩ := (build_eq_ok_iff _ _).mp made
  rfl

end Camera
end RayScene
