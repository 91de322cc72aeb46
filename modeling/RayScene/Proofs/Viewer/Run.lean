import RayScene.Proofs.Outcome
import RayScene.Viewer.Action

namespace RayScene

open Render

def Action.attempts : Action → Bool
  | compile | regenerate => true
  | _ => false

namespace Viewer

/-- The viewer after some actions. -/
def run (actions : List Action) (v : Viewer) : Viewer :=
  actions.foldl (fun v action => (v.apply action).1) v

theorem compiledSource_eq_ok_iff {v : Viewer} {scene : Scene Single} {spec : CameraSpec Single} :
    v.compiledSource = .ok (scene, spec) ↔
      SceneFile.compile v.source = .ok scene ∧ spec = scene.camera.getD .standard ∧
        ∃ camera, v.cameraOf spec = .ok camera := by
  unfold compiledSource
  rcases SceneFile.compile v.source with error | compiled
  · simp
  · dsimp only
    rcases built : v.cameraOf (compiled.camera.getD .standard) with error | camera
    · simp only [reduceCtorEq, Except.ok.injEq, false_iff, not_and, not_exists]
      rintro rfl rfl camera made
      rw [built] at made
      cases made
    · simp only [Except.ok.injEq, Prod.mk.injEq]
      constructor
      · rintro ⟨rfl, rfl⟩
        exact ⟨rfl, rfl, camera, built⟩
      · rintro ⟨rfl, rfl, _⟩
        exact ⟨rfl, rfl⟩

def accepting (v : Viewer) (scene : Scene Single) (cameraSpec : CameraSpec Single) : Viewer :=
  { v.initialized scene with scene := some scene, cameraSpec, error := none }

theorem accepting_eq (v : Viewer) (scene : Scene Single) (cameraSpec : CameraSpec Single) :
    ∃ renderMode exportSettings, v.accepting scene cameraSpec = { v with
      scene := some scene
      cameraSpec
      error := none
      renderMode
      exportSettings
      hasCompiled := true } := by
  unfold accepting initialized
  split
  next seeded => exact ⟨v.renderMode, v.exportSettings, by rw [← seeded]⟩
  next => exact ⟨_, _, rfl⟩

theorem accepting_viewport (v : Viewer) (scene : Scene Single) (spec : CameraSpec Single) :
    (v.accepting scene spec).viewport = v.viewport := by
  obtain ⟨_, _, same⟩ := v.accepting_eq scene spec
  rw [same]

theorem compile_of_ok {v : Viewer} {scene : Scene Single} {spec : CameraSpec Single}
    (accepted : v.compiledSource = .ok (scene, spec)) :
    v.compile = (true, v.accepting scene spec) := by
  rw [compile, accepted]
  rfl

theorem compile_of_error {v : Viewer} {error : ViewerError}
    (refused : v.compiledSource = .error error) :
    v.compile = (false, { v with error := some error }) := by
  rw [compile, refused]

theorem withMaxSamples_eq (v : Viewer) (count : UInt32) :
    ∃ samples, v.withMaxSamples count = { v with maxSamples := samples } := by
  unfold withMaxSamples
  split
  next => exact ⟨v.maxSamples, rfl⟩
  next => exact ⟨count, rfl⟩

/-- Both actions that compile either tell an error or accept a scene, and then the second one starts
a session. -/
theorem attempt_cases (v : Viewer) {action : Action} (attempts : action.attempts = true) :
    (∃ error, v.compiledSource = .error error ∧
        v.apply action = ({ v with error := some error }, [])) ∨
      ∃ scene spec samples, v.compiledSource = .ok (scene, spec) ∧
        (v.apply action).1 = { v.accepting scene spec with maxSamples := samples } ∧
        (action = .regenerate → (v.apply action).2 = (v.apply action).1.session) := by
  rcases outcome : v.compiledSource with error | ⟨scene, spec⟩
  · refine .inl ⟨error, rfl, ?_⟩
    cases action <;> simp [Action.attempts] at attempts
    all_goals simp only [apply, compile_of_error outcome]
  · obtain ⟨samples, reset⟩ := (v.accepting scene spec).withMaxSamples_eq defaultMaxSamples
    cases action <;> simp [Action.attempts] at attempts
    · refine .inr ⟨scene, spec, (v.accepting scene spec).maxSamples, rfl, ?_, nofun⟩
      simp only [apply, compile_of_ok outcome]
    · refine .inr ⟨scene, spec, samples, rfl, ?_, fun _ => ?_⟩
      · simp only [apply, compile_of_ok outcome, reset]
      · simp only [apply, compile_of_ok outcome]

end Viewer
end RayScene
