import RayScene.Proofs.Geometry.Space
import RayScene.Proofs.Scene.Reshaping

/-!
The picture that a camera takes, without rounding: which basis it has, and which part of space its
image plane is.
-/

namespace RayScene

open Matrix Extended Vec3

/-- The spec among those with extended real numbers. -/
noncomputable def CameraSpec.extended (spec : CameraSpec ℝ) : CameraSpec EReal where
  lookFrom := spec.lookFrom.extended
  lookAt := spec.lookAt.extended
  up := spec.up.extended
  fieldOfView := spec.fieldOfView
  aperture := spec.aperture
  aspect := spec.aspect
  focusDistance := spec.focusDistance.map (↑)

noncomputable def Camera.extended (camera : Camera ℝ) : Camera EReal where
  spec := camera.spec.extended
  origin := camera.origin.extended
  lowerLeftCorner := camera.lowerLeftCorner.extended
  horizontal := camera.horizontal.extended
  vertical := camera.vertical.extended
  u := camera.u.extended
  v := camera.v.extended
  w := camera.w.extended
  lensRadius := camera.lensRadius
  focusDistance := camera.focusDistance

namespace CameraSpec

variable (spec : CameraSpec ℝ)

noncomputable def view : Vec3 ℝ := spec.lookFrom.minus spec.lookAt

noncomputable def exactW : Vec3 ℝ := ofCoords (spec.view.norm⁻¹ • spec.view.coords)

noncomputable def exactSide : Vec3 ℝ := ofCoords (spec.up.coords ⨯₃ spec.exactW.coords)

noncomputable def exactU : Vec3 ℝ := ofCoords (spec.exactSide.norm⁻¹ • spec.exactSide.coords)

noncomputable def exactV : Vec3 ℝ := ofCoords (spec.exactW.coords ⨯₃ spec.exactU.coords)

noncomputable def exactFocus : ℝ := spec.focusDistance.getD spec.view.norm

noncomputable def tangent : ℝ := Real.tan (spec.fieldOfView * 0.5 * oneDegree)

/-- The camera of a spec, without rounding. -/
noncomputable def exact : Camera ℝ where
  spec
  origin := spec.lookFrom
  lowerLeftCorner := ofCoords (spec.lookFrom.coords -
    (spec.aspect * spec.tangent * spec.exactFocus) • spec.exactU.coords -
    (spec.tangent * spec.exactFocus) • spec.exactV.coords - spec.exactFocus • spec.exactW.coords)
  horizontal := ofCoords ((2.0 * (spec.aspect * spec.tangent) * spec.exactFocus) • spec.exactU.coords)
  vertical := ofCoords ((2.0 * spec.tangent * spec.exactFocus) • spec.exactV.coords)
  u := spec.exactU
  v := spec.exactV
  w := spec.exactW
  lensRadius := spec.aperture * 0.5
  focusDistance := spec.exactFocus

theorem viewLength_extended : spec.extended.viewLength = spec.view.norm :=
  length_extended spec.view

theorem backward_extended : spec.extended.backward = spec.exactW.extended := by
  rw [backward, viewLength_extended]
  exact extended_div spec.view spec.view.norm

theorem sideways_extended : spec.extended.sideways = spec.exactSide.extended := by
  rw [sideways, backward_extended]
  exact extended_cross spec.up spec.exactW

theorem focus_extended : spec.extended.focus = spec.exactFocus := by
  rw [focus, viewLength_extended, exactFocus, extended]
  cases spec.focusDistance <;> rfl

theorem camera_extended : spec.extended.camera = spec.exact.extended := by
  have right : spec.extended.sideways.normalize = spec.exactU.extended := by
    rw [sideways_extended]
    exact extended_normalize spec.exactSide
  have upward : spec.extended.backward.cross spec.exactU.extended = spec.exactV.extended := by
    rw [backward_extended]
    exact extended_cross spec.exactW spec.exactU
  have half : (0.5 : EReal) = ((0.5 : ℝ) : EReal) := rfl
  have two : (2.0 : EReal) = ((2.0 : ℝ) : EReal) := rfl
  have angle : Scalar.tan (spec.extended.fieldOfView * 0.5 * Scalar.degree) =
      (spec.tangent : EReal) := by
    rw [half]
    show ((Real.tan ((spec.fieldOfView : EReal) * ((0.5 : ℝ) : EReal) *
      (oneDegree : EReal)).toReal : ℝ) : EReal) = _
    rw [← EReal.coe_mul, ← EReal.coe_mul, EReal.toReal_coe]
    rfl
  unfold camera
  dsimp only
  rw [right, upward, angle, focus_extended, backward_extended, two, half]
  rfl

structure Proper (spec : CameraSpec ℝ) : Prop where
  fieldOfView : 0 < spec.fieldOfView ∧ spec.fieldOfView < 180
  aspect : 0 < spec.aspect
  aperture : 0 ≤ spec.aperture
  apart : 1e-6 < spec.view.norm
  upright : 1e-6 * max spec.up.norm 1 < spec.exactSide.norm
  focus : 0 < spec.exactFocus

variable {spec : CameraSpec ℝ}

theorem isPositive_coe_iff (x : ℝ) : Scalar.isPositive (x : EReal) = true ↔ 0 < x := by
  rw [isPositive_iff, EReal.coe_pos]
  exact and_iff_left (EReal.coe_ne_top x)

theorem isFinite_coe (x : ℝ) : Scalar.isFinite (x : EReal) = true := by
  rw [Scalar.isFinite, Bool.and_eq_true, decide_eq_true_eq, decide_eq_true_eq]
  exact ⟨EReal.bot_lt_coe x, EReal.coe_lt_top x⟩

theorem sound_extended_iff : spec.extended.Sound ↔ spec.Proper := by
  have most : (180.0 : EReal) = ((180 : ℝ) : EReal) := by
    show ((180.0 : ℝ) : EReal) = _
    norm_num
  have one : (1.0 : EReal) = ((1 : ℝ) : EReal) := by
    show ((1.0 : ℝ) : EReal) = _
    norm_num
  have fieldOfView : Scalar.zero < spec.extended.fieldOfView ∧
      spec.extended.fieldOfView < 180.0 ↔ 0 < spec.fieldOfView ∧ spec.fieldOfView < 180 := by
    rw [zero_eq, most]
    exact and_congr EReal.coe_pos EReal.coe_lt_coe_iff
  have aperture : Scalar.isFinite spec.extended.aperture = true ∧
      Scalar.zero ≤ spec.extended.aperture ↔ 0 ≤ spec.aperture := by
    rw [zero_eq]
    exact (and_iff_right (isFinite_coe _)).trans EReal.coe_nonneg
  have apart : ¬ spec.extended.viewLength ≤ Camera.parallelTolerance ↔ 1e-6 < spec.view.norm := by
    rw [viewLength_extended, not_le]
    exact EReal.coe_lt_coe_iff
  have upright : ¬ spec.extended.sideways.length ≤
        Camera.parallelTolerance * Scalar.max spec.extended.up.length 1.0 ↔
      1e-6 * max spec.up.norm 1 < spec.exactSide.norm := by
    have length : spec.extended.up.length = spec.up.norm := length_extended spec.up
    rw [sideways_extended, length_extended, length, max_eq, one, coe_max, not_le]
    exact EReal.coe_lt_coe_iff
  have focus : Scalar.isPositive spec.extended.focus = true ↔ 0 < spec.exactFocus := by
    rw [focus_extended]
    exact isPositive_coe_iff _
  constructor
  · intro sound
    exact ⟨fieldOfView.mp sound.fieldOfView, (isPositive_coe_iff _).mp sound.aspect,
      aperture.mp sound.aperture, apart.mp sound.apart, upright.mp sound.upright,
      focus.mp sound.focused⟩
  · intro proper
    exact ⟨fieldOfView.mpr proper.fieldOfView, (isPositive_coe_iff _).mpr proper.aspect,
      aperture.mpr proper.aperture, apart.mpr proper.apart, upright.mpr proper.upright,
      focus.mpr proper.focus⟩

theorem Proper.distance (proper : spec.Proper) : 0 < spec.view.norm := by
  have tolerance : (0 : ℝ) < 1e-6 := by norm_num
  exact tolerance.trans proper.apart

theorem Proper.breadth (proper : spec.Proper) : 0 < spec.exactSide.norm := by
  have tolerance : 0 ≤ (1e-6 : ℝ) * max spec.up.norm 1 := by positivity
  exact tolerance.trans_lt proper.upright

theorem Proper.tangent (proper : spec.Proper) : 0 < spec.tangent := by
  obtain ⟨some, few⟩ := proper.fieldOfView
  have pi := Real.pi_pos
  apply Real.tan_pos_of_pos_of_lt_pi_div_two
  · unfold oneDegree
    positivity
  · unfold oneDegree
    nlinarith

theorem Proper.rightHanded (proper : spec.Proper) :
    RightHanded spec.exactU.coords spec.exactV.coords spec.exactW.coords := by
  rw [exactV, coords_ofCoords]
  apply rightHanded_of_cross
  · rw [exactU, coords_ofCoords]
    exact normalized_dot_self proper.breadth
  · rw [exactW, coords_ofCoords]
    exact normalized_dot_self proper.distance
  · rw [exactU, coords_ofCoords, dotProduct_smul, exactSide, coords_ofCoords, dot_cross_self,
      smul_zero]

theorem exactU_level (spec : CameraSpec ℝ) : spec.exactU.coords ⬝ᵥ spec.up.coords = 0 := by
  rw [exactU, coords_ofCoords, smul_dotProduct, exactSide, coords_ofCoords, dotProduct_comm,
    dot_self_cross, smul_zero]

theorem Proper.upward (proper : spec.Proper) : 0 < spec.exactV.coords ⬝ᵥ spec.up.coords := by
  have side : spec.exactV.coords ⬝ᵥ spec.up.coords =
      spec.exactU.coords ⬝ᵥ spec.exactSide.coords := by
    rw [exactV, coords_ofCoords, exactSide, coords_ofCoords, dotProduct_comm,
      ← triple_product_permutation]
  have length : spec.exactU.coords ⬝ᵥ spec.exactSide.coords = spec.exactSide.norm := by
    have some := proper.breadth
    rw [exactU, coords_ofCoords, smul_dotProduct, ← norm_mul_self, smul_eq_mul]
    field_simp
  rw [side, length]
  exact proper.breadth

end CameraSpec

/-- What a camera makes of its spec. -/
structure Camera.Aligned (camera : Camera ℝ) : Prop where
  basis : RightHanded camera.u.coords camera.v.coords camera.w.coords
  backward : 0 < camera.spec.view.norm ∧
    camera.spec.view.coords = camera.spec.view.norm • camera.w.coords
  level : camera.u.coords ⬝ᵥ camera.spec.up.coords = 0
  upright : 0 < camera.v.coords ⬝ᵥ camera.spec.up.coords
  origin : camera.origin = camera.spec.lookFrom
  focus : 0 < camera.focusDistance ∧
    camera.focusDistance = camera.spec.focusDistance.getD camera.spec.view.norm
  high : 0 < camera.spec.tangent
  wide : 0 < camera.spec.aspect
  /-- The image plane is a rectangle in front of the camera, so many times as wide as it is high. -/
  plane : Spanned camera.lowerLeftCorner.coords camera.horizontal.coords camera.vertical.coords =
    Facing camera.u.coords camera.v.coords camera.w.coords camera.origin.coords
      (-camera.focusDistance) (camera.spec.aspect * (camera.spec.tangent * camera.focusDistance))
      (camera.spec.tangent * camera.focusDistance)
  center : camera.lowerLeftCorner.coords + (1 / 2 : ℝ) • camera.horizontal.coords +
      (1 / 2 : ℝ) • camera.vertical.coords =
    camera.origin.coords - camera.focusDistance • camera.w.coords
  target : camera.spec.focusDistance = none →
    camera.origin.coords - camera.focusDistance • camera.w.coords = camera.spec.lookAt.coords

namespace CameraSpec

variable {spec : CameraSpec ℝ}

theorem Proper.view_eq (proper : spec.Proper) :
    spec.view.coords = spec.view.norm • spec.exactW.coords := by
  rw [exactW, coords_ofCoords, smul_smul, mul_inv_cancel₀ proper.distance.ne', one_smul]

theorem two_eq : (2.0 : ℝ) = 2 := by norm_num

theorem exact_corner (spec : CameraSpec ℝ) :
    spec.exact.lowerLeftCorner.coords = spec.lookFrom.coords -
      (spec.aspect * (spec.tangent * spec.exactFocus)) • spec.exactU.coords -
      (spec.tangent * spec.exactFocus) • spec.exactV.coords +
      (-spec.exactFocus) • spec.exactW.coords := by
  rw [exact, coords_ofCoords, neg_smul, ← sub_eq_add_neg, mul_assoc]

theorem exact_horizontal (spec : CameraSpec ℝ) :
    spec.exact.horizontal.coords =
      (2 * (spec.aspect * (spec.tangent * spec.exactFocus))) • spec.exactU.coords := by
  rw [exact, coords_ofCoords, two_eq, mul_assoc, mul_assoc]

theorem exact_vertical (spec : CameraSpec ℝ) :
    spec.exact.vertical.coords = (2 * (spec.tangent * spec.exactFocus)) • spec.exactV.coords := by
  rw [exact, coords_ofCoords, two_eq, mul_assoc]

theorem Proper.aligned (proper : spec.Proper) : spec.exact.Aligned where
  basis := proper.rightHanded
  backward := ⟨proper.distance, proper.view_eq⟩
  level := spec.exactU_level
  upright := proper.upward
  origin := rfl
  focus := ⟨proper.focus, rfl⟩
  high := proper.tangent
  wide := proper.aspect
  plane := by
    have top : 0 < spec.tangent * spec.exactFocus := mul_pos proper.tangent proper.focus
    rw [exact_corner, exact_horizontal, exact_vertical]
    exact proper.rightHanded.spanned_eq_facing _ _ (mul_pos proper.aspect top) top
  center := by
    rw [exact_corner, exact_horizontal, exact_vertical]
    show _ = spec.lookFrom.coords - spec.exactFocus • spec.exactW.coords
    module
  target none := by
    have through : spec.exactFocus = spec.view.norm := by
      have missing : spec.focusDistance = Option.none := none
      rw [exactFocus, missing]
      rfl
    show spec.lookFrom.coords - spec.exactFocus • spec.exactW.coords = spec.lookAt.coords
    rw [through, ← proper.view_eq, CameraSpec.view, coords_minus]
    abel

end CameraSpec

/-- Every spec of real numbers that is accepted without rounding makes an aligned camera. -/
theorem Camera.build_aligned {spec : CameraSpec ℝ} {camera : Camera EReal}
    (built : Camera.build spec.extended = .ok camera) :
    camera = spec.exact.extended ∧ spec.exact.spec = spec ∧ spec.exact.Aligned := by
  obtain ⟨sound, rfl⟩ := (Camera.build_eq_ok_iff _ _).mp built
  exact ⟨spec.camera_extended, rfl, (CameraSpec.sound_extended_iff.mp sound).aligned⟩

noncomputable def CameraSpec.overhead : CameraSpec ℝ where
  lookFrom := ⟨0, 0, 5⟩
  lookAt := ⟨0, 0, 0⟩
  up := ⟨0, 1, 0⟩
  fieldOfView := 90
  aperture := 0
  aspect := 2.0
  focusDistance := none

theorem overhead_aligned :
    Camera.build CameraSpec.overhead.extended = .ok CameraSpec.overhead.exact.extended ∧
      CameraSpec.overhead.exact.Aligned := by
  have five : √((0 - 0 : ℝ) ^ 2 + (0 - 0) ^ 2 + (5 - 0) ^ 2) = 5 := by
    rw [sub_self, sub_zero, zero_pow two_ne_zero, zero_add, zero_add, Real.sqrt_sq (by norm_num)]
  have length : CameraSpec.overhead.view.norm = 5 := five
  have up : CameraSpec.overhead.up.norm = 1 := by
    show √((0 : ℝ) ^ 2 + 1 ^ 2 + 0 ^ 2) = 1
    norm_num
  have side : CameraSpec.overhead.exactSide = ⟨1, 0, 0⟩ := by
    rw [CameraSpec.exactSide, CameraSpec.exactW, length]
    show Vec3.mk ((1 : ℝ) * (5⁻¹ * (5 - 0)) - 0 * (5⁻¹ * (0 - 0)))
      (0 * (5⁻¹ * (0 - 0)) - 0 * (5⁻¹ * (5 - 0))) (0 * (5⁻¹ * (0 - 0)) - 1 * (5⁻¹ * (0 - 0))) = _
    norm_num
  have across : CameraSpec.overhead.exactSide.norm = 1 := by
    rw [side]
    show √((1 : ℝ) ^ 2 + 0 ^ 2 + 0 ^ 2) = 1
    norm_num
  have proper : CameraSpec.overhead.Proper := by
    refine ⟨⟨?_, ?_⟩, ?_, le_rfl, ?_, ?_, ?_⟩
    · show (0 : ℝ) < 90
      norm_num
    · show (90 : ℝ) < 180
      norm_num
    · show (0 : ℝ) < 2.0
      norm_num
    · rw [length]
      norm_num
    · rw [across, up]
      norm_num
    · show 0 < CameraSpec.overhead.view.norm
      rw [length]
      norm_num
  have built : Camera.build CameraSpec.overhead.extended =
      .ok CameraSpec.overhead.exact.extended := by
    rw [Camera.build_eq_ok_iff]
    exact ⟨CameraSpec.sound_extended_iff.mpr proper, CameraSpec.overhead.camera_extended.symm⟩
  exact ⟨built, (Camera.build_aligned built).2.2⟩

end RayScene
