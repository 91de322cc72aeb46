import RayScene.Proofs.Number.Positive
import RayScene.Proofs.Scene.Reshaping

/-!
Chains of shapes. The shape of the image takes part in two vectors of its plane and in nothing else
that a camera keeps, so a camera that has gone through many shapes is the one that would have been
built for the last of them.
-/

namespace RayScene

namespace Camera

section
variable {S : Type} [Scalar S] {camera : Camera S} {aspect : S}

theorem Built.withAspect_error (built : camera.Built) (bad : Scalar.isPositive aspect = false) :
    camera.withAspect aspect = .error (.aspect aspect) := by
  have refused : ¬ Scalar.isPositive (camera.spec.withAspect aspect).aspect = true :=
    ne_true_of_eq_false bad
  have allowed : Scalar.zero < (camera.spec.withAspect aspect).fieldOfView ∧
    (camera.spec.withAspect aspect).fieldOfView < 180.0 := built.sound.fieldOfView
  rw [Camera.withAspect, build, if_pos allowed, if_neg refused]
  rfl

theorem Built.camera_spec (built : camera.Built) : camera.spec.camera = camera := by
  obtain ⟨spec, made⟩ := built
  obtain ⟨-, rfl⟩ := (build_eq_ok_iff spec camera).mp made
  rfl

theorem Built.withAspect_self (built : camera.Built) :
    camera.withAspect camera.spec.aspect = .ok camera :=
  (built.withAspect built.sound.aspect).trans (congrArg Except.ok built.camera_spec)

theorem Built.withAspect_frame (built : camera.Built) {reshaped : Camera S}
    (made : camera.withAspect aspect = .ok reshaped) :
    reshaped = { camera with
      spec := camera.spec.withAspect aspect
      lowerLeftCorner := reshaped.lowerLeftCorner
      horizontal := reshaped.horizontal } := by
  obtain ⟨-, rfl⟩ := (build_eq_ok_iff _ _).mp made
  rw [← built.camera_spec]
  rfl

/-- However many shapes come before the last, they are forgotten. -/
theorem Built.detour (built : camera.Built) {detour : List S}
    (positive : ∀ aspect ∈ detour, Scalar.isPositive aspect = true) (last : S) :
    (detour ++ [last]).foldlM Camera.withAspect camera = camera.withAspect last := by
  induction detour generalizing camera with
  | nil => exact bind_pure _
  | cons aspect detour ih =>
    obtain ⟨first, others⟩ := List.forall_mem_cons.mp positive
    have made := built.withAspect first
    rw [List.cons_append, List.foldlM_cons, made, Outcome.ok_bind,
      ih (withAspect_built made) others, withAspect_withAspect made]

end

end Camera

/-- A camera takes every positive shape and no other one. It keeps all but two vectors of its image
plane, and it is the same by any detour, in particular if it comes back to its own shape. -/
theorem reshaping_forgets_detours {camera : Camera Single} (built : camera.Built) :
    (∀ a : Single, a.IsPositive → ∃ reshaped, camera.withAspect a = .ok reshaped ∧
      reshaped = { camera with
        spec := camera.spec.withAspect a
        lowerLeftCorner := reshaped.lowerLeftCorner
        horizontal := reshaped.horizontal } ∧
      ∀ b, reshaped.withAspect b = camera.withAspect b) ∧
    camera.withAspect camera.spec.aspect = .ok camera ∧
    (∀ a : Single, ¬ a.IsPositive → camera.withAspect a = .error (.aspect a)) ∧
    ∀ detour : List Single, (∀ a ∈ detour, a.IsPositive) → ∀ last,
      (detour ++ [last]).foldlM Camera.withAspect camera = camera.withAspect last := by
  refine ⟨fun a positive => ?_, built.withAspect_self, fun a other => ?_,
    fun detour positive last => ?_⟩
  · have made := built.withAspect ((Single.isPositive_iff_decode a).mpr positive)
    exact ⟨_, made, built.withAspect_frame made, Camera.withAspect_withAspect made⟩
  · exact built.withAspect_error
      (Bool.eq_false_iff.mpr fun positive => other ((Single.isPositive_iff_decode a).mp positive))
  · exact built.detour
      (fun a member => (Single.isPositive_iff_decode a).mpr (positive a member)) last

theorem standard_reshaped :
    (CameraSpec.standard : CameraSpec Single).camera.Built ∧
      [1.5, 0.75, 1.0].foldlM Camera.withAspect (CameraSpec.standard : CameraSpec Single).camera =
        .ok CameraSpec.standard.camera ∧
      (CameraSpec.standard : CameraSpec Single).camera.withAspect 0.0 = .error (.aspect 0.0) := by
  have sound : (CameraSpec.standard : CameraSpec Single).Sound :=
    ⟨by decide +kernel, by decide +kernel, by decide +kernel, by decide +kernel,
      by decide +kernel, by decide +kernel⟩
  have built : (CameraSpec.standard : CameraSpec Single).camera.Built :=
    ⟨CameraSpec.standard, (Camera.build_eq_ok_iff _ _).mpr ⟨sound, rfl⟩⟩
  have wide : (1.5 : Single).IsPositive :=
    (Single.isPositive_iff_decode _).mp (by decide +kernel)
  have tall : (0.75 : Single).IsPositive :=
    (Single.isPositive_iff_decode _).mp (by decide +kernel)
  have flat : ¬ (0.0 : Single).IsPositive := fun positive =>
    absurd ((Single.isPositive_iff_decode _).mpr positive) (by decide +kernel)
  obtain ⟨-, same, refused, detours⟩ := reshaping_forgets_detours built
  exact ⟨built, (detours [1.5, 0.75] (by simp [wide, tall]) 1.0).trans same, refused _ flat⟩

end RayScene
