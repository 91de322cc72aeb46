import RayScene.Proofs.Geometry.Rounded
import RayScene.Proofs.Scene.Reshaping

/-!
Which cameras can be used with single precision. A spec is checked by comparisons, and a comparison
with what is no number lets it pass. If the lengths that are computed do not overflow, and the up
vector is not too close to the view direction, then the basis is nearly orthonormal.
-/

namespace RayScene

open Matrix Single Vec3

namespace CameraSpec

/-- Looked from a place that does not exist, at a plane that does. -/
def boundless : CameraSpec Single :=
  { standard with lookFrom := ⟨Scalar.infinity, 0.0, 0.0⟩, focusDistance := some 1.0 }

theorem boundless_accepted :
    (Camera.build boundless).toOption.map (fun camera =>
      [camera.origin.x, camera.w.x, camera.u.x, camera.v.x].map Scalar.isFinite) =
        some [false, false, false, false] := by
  decide +kernel

/-- What a spec is not checked for. -/
structure Conditioned (spec : CameraSpec Single) : Prop where
  distance : Scalar.isFinite spec.viewLength = true
  up : Scalar.isFinite spec.up.length = true
  breadth : Scalar.isFinite spec.sideways.length = true
  upright : spec.up.length ≤ 16.0 * spec.sideways.length

def skewed : CameraSpec Single :=
  { standard with
    lookFrom := ⟨0.6, 1.4, 0.9⟩
    lookAt := ⟨0.0, 0.0, 0.0⟩
    up := ⟨0.600002, 1.4, 0.9⟩ }

theorem skewed_accepted : Camera.build skewed = .ok skewed.camera ∧
    1e-2 < |skewed.camera.u.values.coords ⬝ᵥ skewed.camera.w.values.coords| := by
  constructor
  · rw [Camera.build_eq_ok_iff]
    refine ⟨⟨?_, ?_, ?_, ?_, ?_, ?_⟩, rfl⟩ <;> decide +kernel
  · have exact : (1 / 100 : ℚ) <
        |unpackedValue skewed.camera.u.x.toModel.unpack *
            unpackedValue skewed.camera.w.x.toModel.unpack +
          unpackedValue skewed.camera.u.y.toModel.unpack *
            unpackedValue skewed.camera.w.y.toModel.unpack +
          unpackedValue skewed.camera.u.z.toModel.unpack *
            unpackedValue skewed.camera.w.z.toModel.unpack| := by
      decide +kernel
    have cast := Rat.cast_lt (K := ℝ).mpr exact
    push_cast at cast
    rw [vec3_dotProduct]
    norm_num at cast ⊢
    exact cast

variable {spec : CameraSpec Single}

theorem tolerance_finite : Scalar.isFinite (Camera.parallelTolerance : Single) = true := by
  decide

theorem tolerance_value : 9e-7 ≤ (Camera.parallelTolerance : Single).value ∧
    (Camera.parallelTolerance : Single).value ≤ 1 := by
  have stored : (9 / 10000000 : ℚ) ≤
      unpackedValue (Camera.parallelTolerance : Single).toModel.unpack ∧
        unpackedValue (Camera.parallelTolerance : Single).toModel.unpack ≤ 1 := by
    decide +kernel
  have low : ((9 / 10000000 : ℚ) : ℝ) ≤ (Camera.parallelTolerance : Single).value :=
    Rat.cast_le.mpr stored.1
  have high : (Camera.parallelTolerance : Single).value ≤ ((1 : ℚ) : ℝ) :=
    Rat.cast_le.mpr stored.2
  norm_num at low high ⊢
  exact ⟨low, high⟩

theorem Sound.distant (sound : spec.Sound) (finite : Scalar.isFinite spec.viewLength = true) :
    5e-7 ≤ spec.viewLength.value := by
  have apart := sound.apart
  rw [le_iff_value finite tolerance_finite, not_le] at apart
  linarith [tolerance_value.1]

theorem max_one_cases {x : Single} (finite : Scalar.isFinite x = true) :
    Scalar.max x 1.0 = 1.0 ∨ Scalar.max x 1.0 = x ∧ 1 ≤ x.value := by
  have one : Scalar.isFinite (1.0 : Single) = true := by decide
  unfold Scalar.max
  split
  next => exact .inl rfl
  next above =>
    split
    next =>
      have least := (lt_iff_value finite one).not.mp above
      rw [one_value, not_lt] at least
      exact .inr ⟨rfl, least⟩
    next => exact .inl rfl

theorem threshold_value {m : Single} (finite : Scalar.isFinite m = true) (low : 1 ≤ m.value)
    (high : m.value ≤ 2 ^ 65) :
    Scalar.isFinite (Camera.parallelTolerance * m) = true ∧
      5e-7 ≤ (Camera.parallelTolerance * m : Single).value := by
  obtain ⟨least, most⟩ := tolerance_value
  have product := mul_approximates tolerance_finite finite
  have positive : 0 ≤ (Camera.parallelTolerance : Single).value * m.value := by
    apply mul_nonneg <;> linarith
  have small : |(Camera.parallelTolerance : Single).value * m.value| ≤ 2 ^ 127 := by
    rw [abs_of_nonneg positive]
    calc (Camera.parallelTolerance : Single).value * m.value
        ≤ 1 * 2 ^ 65 := mul_le_mul most high (by linarith) (by norm_num)
      _ ≤ 2 ^ 127 := by norm_num
  have finite' := product.bounded small
  have near := (abs_le.mp (product.near finite')).1
  rw [abs_of_nonneg positive, epsilon_eq] at near
  have tiny := smallest_le
  have more : 9e-7 ≤ (Camera.parallelTolerance : Single).value * m.value := by nlinarith
  exact ⟨finite', by linarith⟩

theorem Sound.broad (sound : spec.Sound) (conditioned : spec.Conditioned) :
    5e-7 ≤ spec.sideways.length.value := by
  have upright := sound.upright
  have exceeds {m : Single} (finite : Scalar.isFinite m = true) (low : 1 ≤ m.value)
      (high : m.value ≤ 2 ^ 65)
      (above : ¬ spec.sideways.length ≤ Camera.parallelTolerance * m) :
      5e-7 ≤ spec.sideways.length.value := by
    obtain ⟨finite', least⟩ := threshold_value finite low high
    rw [le_iff_value conditioned.breadth finite', not_le] at above
    linarith
  rcases max_one_cases conditioned.up with same | ⟨same, low⟩
  · rw [same] at upright
    exact exceeds (by decide) one_value.ge (by rw [one_value]; norm_num) upright
  · rw [same] at upright
    exact exceeds conditioned.up low (length_le conditioned.up) upright

/-- The up vector is at most so many times as long as what is left of it across the view. -/
theorem Conditioned.ratio (conditioned : spec.Conditioned)
    (broad : 5e-7 ≤ spec.sideways.length.value) :
    spec.up.length.value ≤ 16.001 * spec.sideways.length.value := by
  have sixteen : (16.0 : Single).value = 16 := by
    rw [value_eq (x := 16.0) (q := 16) (by decide +kernel), Rat.cast_ofNat]
  have constant : Scalar.isFinite (16.0 : Single) = true := by decide +kernel
  have product := mul_approximates constant conditioned.breadth
  have most := length_le conditioned.breadth
  rw [sixteen] at product
  have positive : 0 ≤ 16 * spec.sideways.length.value := by linarith
  have finite : Scalar.isFinite (16.0 * spec.sideways.length) = true := by
    apply product.bounded
    rw [abs_of_nonneg positive]
    linarith
  have upright := (le_iff_value conditioned.up finite).mp conditioned.upright
  have near := (abs_le.mp (product.near finite)).2
  have tiny := smallest_le
  rw [abs_of_nonneg positive, epsilon_eq] at near
  linarith

/-- What scales the breadth to about one scales the up vector to about sixteen, at most. -/
theorem Conditioned.scaled_up (conditioned : spec.Conditioned)
    (broad : 5e-7 ≤ spec.sideways.length.value) {k : ℝ} (positive : 0 < k)
    (scale : k * spec.sideways.length.value ≤ 1.001) :
    k * spec.up.values.norm ≤ 16.05 ∧ k * smallest ≤ 3e-38 := by
  have up := norm_le_length conditioned.up
  have ratio := conditioned.ratio broad
  have scale_least : k * 5e-7 ≤ k * spec.sideways.length.value :=
    mul_le_mul_of_nonneg_left broad positive.le
  have tiny : k * smallest ≤ 3e6 * 1e-44 :=
    mul_le_mul (by linarith) smallest_le smallest_pos.le (by norm_num)
  have bound : spec.up.values.norm ≤
      1.0001 * (16.001 * spec.sideways.length.value + smallest) + 1e-21 := by
    linarith
  have scaled := mul_le_mul_of_nonneg_left bound positive.le
  constructor <;> linarith

section Basis

variable (sound : spec.Sound) (conditioned : spec.Conditioned)
include sound conditioned

theorem backward_directs :
    spec.backward.IsFinite ∧ Directs spec.backward.values (spec.lookFrom - spec.lookAt).values
      spec.viewLength.value⁻¹ :=
  divided_directs conditioned.distance (sound.distant conditioned.distance)

theorem sideways_directs :
    spec.sideways.normalize.IsFinite ∧ ∃ k, Directs spec.sideways.normalize.values
      spec.sideways.values k ∧ k * spec.sideways.length.value ≤ 1.001 :=
  normalize_directs conditioned.breadth (sound.broad conditioned)

theorem across_backward : |spec.sideways.normalize.values.coords ⬝ᵥ spec.backward.values.coords| ≤
    52 * epsilon := by
  obtain ⟨-, backward⟩ := backward_directs sound conditioned
  obtain ⟨-, k, directs, scale⟩ := sideways_directs sound conditioned
  have broad := sound.broad conditioned
  have tilt : |spec.sideways.values.coords ⬝ᵥ spec.backward.values.coords| ≤
      (3.1 * epsilon * (spec.up.values.norm * spec.backward.values.norm) + 8 * smallest) *
        spec.backward.values.norm :=
    cross_dot_le (finite_of_length conditioned.breadth) (by rw [dotProduct_comm, dot_cross_self])
  have dot := directs.dot_le spec.backward.values
  obtain ⟨long, tiny⟩ := conditioned.scaled_up broad directs.positive scale
  have width := zero_le_norm spec.backward.values
  have short : spec.backward.values.norm ≤ 1.001 := by
    have unit := (abs_le.mp backward.norm_near).2
    rw [epsilon_eq] at unit
    linarith
  have error : k * |spec.sideways.values.coords ⬝ᵥ spec.backward.values.coords| ≤
      50.1 * epsilon :=
    calc k * |spec.sideways.values.coords ⬝ᵥ spec.backward.values.coords|
        ≤ k * ((3.1 * epsilon * (spec.up.values.norm * spec.backward.values.norm) +
          8 * smallest) * spec.backward.values.norm) :=
          mul_le_mul_of_nonneg_left tilt directs.positive.le
      _ = (3.1 * epsilon * (k * spec.up.values.norm * spec.backward.values.norm) +
          8 * (k * smallest)) * spec.backward.values.norm := by ring
      _ ≤ (3.1 * epsilon * (16.05 * 1.001) + 8 * 3e-38) * 1.001 := by
          rw [epsilon_eq]
          gcongr
      _ ≤ 50.1 * epsilon := by
          rw [epsilon_eq]
          norm_num
  rw [epsilon_eq] at *
  linarith

theorem basis_usable : (spec.backward.cross spec.sideways.normalize).IsFinite ∧
    NearlyOrthonormal 1e-5 spec.sideways.normalize.values
      (spec.backward.cross spec.sideways.normalize).values spec.backward.values := by
  obtain ⟨backward_finite, backward⟩ := backward_directs sound conditioned
  obtain ⟨sideways_finite, _, sideways, -⟩ := sideways_directs sound conditioned
  exact nearlyOrthonormal_cross backward_finite sideways_finite backward.norm_near
    sideways.norm_near (across_backward sound conditioned)

end Basis

section Plane

variable {S : Type} [Scalar S] (spec : CameraSpec S)

def halfHeight : S := Scalar.tan (spec.fieldOfView * 0.5 * Scalar.degree)

def halfWidth : S := spec.aspect * spec.halfHeight

end Plane

structure Framed (spec : CameraSpec Single) : Prop where
  lookFrom : spec.lookFrom.Within 1e37
  focus : spec.focus.Within 1e37
  right : (spec.halfWidth * spec.focus).Within 1e37
  top : (spec.halfHeight * spec.focus).Within 1e37
  width : (2.0 * spec.halfWidth * spec.focus).Within 1e37
  height : (2.0 * spec.halfHeight * spec.focus).Within 1e37

/-- A plane that is framed does not overflow. -/
theorem Framed.plane (framed : spec.Framed) {u v w : Vec3 Single} (u_finite : u.IsFinite)
    (v_finite : v.IsFinite) (w_finite : w.IsFinite)
    (basis : NearlyOrthonormal 1e-5 u.values v.values w.values) :
    (spec.lookFrom - spec.halfWidth * spec.focus * u - spec.halfHeight * spec.focus * v -
      spec.focus * w).IsFinite ∧
      (2.0 * spec.halfWidth * spec.focus * u).IsFinite ∧
      (2.0 * spec.halfHeight * spec.focus * v).IsFinite := by
  have short {p : Vec3 Single} (finite : p.IsFinite) (length : |p.values.norm - 1| ≤ 1e-5) :
      p.Within 2 := by
    have high := (abs_le.mp length).2
    exact finite.within (by linarith)
  have u_within := short u_finite basis.first
  have v_within := short v_finite basis.second
  have w_within := short w_finite basis.third
  have scaled {c : Single} {p : Vec3 Single} (size : c.Within 1e37) (within : p.Within 2) :
      (c * p).Within (1.001 * (1e37 * 2) + 1) :=
    scaled_within size within (by norm_num)
  have right := minus_within framed.lookFrom (scaled framed.right u_within) (by norm_num)
  have corner := minus_within right (scaled framed.top v_within) (by norm_num)
  exact ⟨(minus_within corner (scaled framed.focus w_within) (by norm_num)).finite,
    (scaled framed.width u_within).finite, (scaled framed.height v_within).finite⟩

theorem Conditioned.lookFrom (conditioned : spec.Conditioned) : spec.lookFrom.IsFinite := by
  obtain ⟨x, y, z⟩ := finite_of_length conditioned.distance
  exact ⟨(sub_finite x).1, (sub_finite y).1, (sub_finite z).1⟩

theorem Sound.lensRadius (sound : spec.Sound) :
    Scalar.isFinite (spec.aperture * 0.5) = true := by
  have half : (0.5 : Single).value = 1 / 2 := by
    rw [value_eq (x := 0.5) (q := 1 / 2) (by decide +kernel)]
    norm_num
  have product := mul_approximates sound.aperture.1
    (show Scalar.isFinite (0.5 : Single) = true by decide +kernel)
  apply product.bounded
  rw [half, abs_mul]
  have bound := abs_value_lt spec.aperture
  norm_num at bound ⊢
  linarith

end CameraSpec

structure Camera.Usable (camera : Camera Single) : Prop where
  origin : camera.origin.IsFinite
  u : camera.u.IsFinite
  v : camera.v.IsFinite
  w : camera.w.IsFinite
  basis : NearlyOrthonormal 1e-5 camera.u.values camera.v.values camera.w.values
  lensRadius : Scalar.isFinite camera.lensRadius = true
  plane : camera.spec.Framed → camera.lowerLeftCorner.IsFinite ∧ camera.horizontal.IsFinite ∧
    camera.vertical.IsFinite

/-- An accepted camera can be used, unless a length overflows or the up vector is too close to the
view direction. -/
theorem Camera.build_usable {spec : CameraSpec Single} {camera : Camera Single}
    (built : Camera.build spec = .ok camera) (conditioned : spec.Conditioned) :
    camera.Usable := by
  obtain ⟨sound, rfl⟩ := (Camera.build_eq_ok_iff _ _).mp built
  obtain ⟨w, -⟩ := CameraSpec.backward_directs sound conditioned
  obtain ⟨u, -⟩ := CameraSpec.sideways_directs sound conditioned
  obtain ⟨v, basis⟩ := CameraSpec.basis_usable sound conditioned
  exact ⟨conditioned.lookFrom, u, v, w, basis, sound.lensRadius,
    fun framed => framed.plane u v w basis⟩

theorem standard_usable :
    Camera.build (CameraSpec.standard : CameraSpec Single) = .ok CameraSpec.standard.camera ∧
      (CameraSpec.standard : CameraSpec Single).Conditioned ∧
      (CameraSpec.standard : CameraSpec Single).camera.Usable := by
  have conditioned : (CameraSpec.standard : CameraSpec Single).Conditioned :=
    ⟨by decide +kernel, by decide +kernel, by decide +kernel, by decide +kernel⟩
  have sound : (CameraSpec.standard : CameraSpec Single).Sound :=
    ⟨by decide +kernel, by decide +kernel, by decide +kernel, by decide +kernel,
      by decide +kernel, by decide +kernel⟩
  have built : Camera.build (CameraSpec.standard : CameraSpec Single) =
      .ok CameraSpec.standard.camera :=
    (Camera.build_eq_ok_iff _ _).mpr ⟨sound, rfl⟩
  exact ⟨built, conditioned, Camera.build_usable built conditioned⟩

end RayScene
