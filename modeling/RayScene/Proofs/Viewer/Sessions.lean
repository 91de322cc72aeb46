import RayScene.Proofs.Render.Cameras
import RayScene.Proofs.Viewer.Ledger
import RayScene.Render.Recorder

/-!
A scene that has been accepted can be drawn from then on: its camera can be had at every size that
the viewer comes to have, and an engine finds nothing wrong with it either.
-/

namespace RayScene

open Render

namespace Viewer

def Drawable (v : Viewer) : Prop := ∀ scene, v.scene = some scene → ∃ camera, v.camera = .ok camera

variable {v w : Viewer}

theorem new_drawable (viewport : Viewport) : (new viewport).Drawable := by
  intro scene loaded
  cases loaded

theorem Drawable.untouched (drawable : v.Drawable)
    (same : (w.scene, w.cameraSpec, w.viewport) = (v.scene, v.cameraSpec, v.viewport)) :
    w.Drawable := by
  simp only [Prod.mk.injEq] at same
  obtain ⟨scene, spec, viewport⟩ := same
  rw [Drawable, camera, cameraOf, scene, spec, viewport]
  exact drawable

theorem Drawable.resized (drawable : v.Drawable) {size : Viewport} (area : size.isEmpty = false) :
    { v with viewport := size }.Drawable := by
  intro scene loaded
  obtain ⟨camera, built⟩ := drawable scene loaded
  obtain ⟨sound, -⟩ := (Camera.build_eq_ok_iff _ _).mp built
  have fits : (v.cameraSpec.withAspect size.aspect).Sound :=
    sound.reshaped (Viewport.aspect_isPositive area)
  exact ⟨_, (Camera.build_eq_ok_iff _ _).mpr ⟨fits, rfl⟩⟩

theorem accepting_drawable {scene : Scene Single} {spec : CameraSpec Single} (samples : UInt32)
    (compiled : v.compiledSource = .ok (scene, spec)) :
    { v.accepting scene spec with maxSamples := samples }.Drawable := by
  obtain ⟨-, -, camera, built⟩ := compiledSource_eq_ok_iff.mp compiled
  intro _ _
  refine ⟨camera, ?_⟩
  rw [Viewer.camera, cameraOf]
  show Camera.build (spec.withAspect (v.accepting scene spec).viewport.aspect) = .ok camera
  rw [v.accepting_viewport]
  exact built

theorem attempt_drawable (drawable : v.Drawable) {action : Action}
    (attempts : action.attempts = true) : (v.apply action).1.Drawable := by
  rcases v.attempt_cases attempts with
    ⟨error, -, told⟩ | ⟨scene, spec, samples, compiled, applied, -⟩
  · rw [told]
    exact drawable.untouched rfl
  · rw [applied]
    exact accepting_drawable samples compiled

theorem apply_drawable (drawable : v.Drawable) (action : Action) :
    (v.apply action).1.Drawable := by
  cases action with
  | compile => exact attempt_drawable drawable rfl
  | regenerate => exact attempt_drawable drawable rfl
  | setMaxSamples count =>
      obtain ⟨samples, set⟩ := v.withMaxSamples_eq count
      rw [apply, set]
      exact drawable.untouched rfl
  | exportVolume =>
      simp only [apply, startExport]
      split <;> exact drawable.untouched rfl
  | resize size =>
      simp only [apply]
      split
      next => exact drawable
      next changed =>
        exact drawable.resized (by simpa using fun empty => changed (.inl empty))
  | _ => exact drawable.untouched rfl

theorem run_drawable (drawable : v.Drawable) (actions : List Action) :
    (v.run actions).Drawable := by
  induction actions generalizing v with
  | nil => exact drawable
  | cons action actions ih => exact ih (apply_drawable drawable action)

theorem session_of_none (unloaded : v.scene = none) : v.session = [] := by
  rw [session, unloaded]

theorem session_of_camera {scene : Scene Single} {camera : Camera Single}
    (loaded : v.scene = some scene) (built : v.camera = .ok camera) :
    v.session = [.engine (if v.realTime then .realTime scene camera
      else .render scene camera v.currentMaxSamples)] := by
  rw [session, loaded, built]

theorem session_framed : ∀ command, .engine command ∈ v.session → command.Framed := by
  intro command asked
  unfold session at asked
  split at asked
  next scene camera loaded made =>
    obtain rfl := Effect.engine.inj (List.mem_singleton.mp asked)
    have built : camera.Built := ⟨_, made⟩
    split
    all_goals
      intro own same
      obtain rfl := Option.some.inj same
      exact built
  next => cases asked

theorem apply_framed (v : Viewer) (action : Action) :
    ∀ command, .engine command ∈ (v.apply action).2 → command.Framed := by
  intro command asked
  cases action with
  | render => exact session_framed command asked
  | realTime => exact session_framed command asked
  | regenerate =>
      rcases v.attempt_cases (show Action.regenerate.attempts = true from rfl) with
        ⟨error, -, told⟩ | ⟨scene, spec, samples, -, -, starts⟩
      · rw [told] at asked
        cases asked
      · rw [starts rfl] at asked
        exact session_framed command asked
  | cancel =>
      obtain rfl := Effect.engine.inj (List.mem_singleton.mp asked)
      exact fun _ none => by cases none
  | resize size =>
      simp only [apply] at asked
      split at asked
      next => cases asked
      next =>
        obtain rfl := Effect.engine.inj (List.mem_singleton.mp asked)
        exact fun _ none => by cases none
  | exportVolume =>
      simp only [apply, startExport] at asked
      split at asked <;> simp at asked
  | cancelExport =>
      simp only [apply] at asked
      split at asked <;> simp at asked
  | _ => simp [apply] at asked

theorem regenerate_starts (drawable : v.Drawable) {scene : Scene Single}
    {spec : CameraSpec Single} (compiled : v.compiledSource = .ok (scene, spec)) :
    ∃ command, (v.apply .regenerate).2 = [.engine command] := by
  rcases v.attempt_cases (show Action.regenerate.attempts = true from rfl) with
    ⟨error, refused, -⟩ | ⟨other, spec', samples, -, applied, starts⟩
  · rw [refused] at compiled
    cases compiled
  · have loaded : (v.apply .regenerate).1.scene = some other := by rw [applied]; rfl
    obtain ⟨camera, built⟩ := apply_drawable drawable .regenerate other loaded
    rw [starts rfl, session_of_camera loaded built]
    exact ⟨_, rfl⟩

theorem regenerate_silent {error : ViewerError} (refused : v.compiledSource = .error error) :
    (v.apply .regenerate).2 = [] := by
  simp only [apply, compile_of_error refused]

/-- Whatever has happened to a viewer, its scene has a camera, so what is missing for a session is
never but the scene; and whatever an engine is asked with built cameras, no camera fails it. -/
theorem loaded_scene_draws (viewport : Viewport) (actions : List Action) :
    let v := (new viewport).run actions
    (∀ scene, v.scene = some scene → ∃ camera, v.camera = .ok camera ∧
      (v.apply .render).2 = [.engine (.render scene camera v.currentMaxSamples)] ∧
      (v.apply .realTime).2 = [.engine (.realTime scene camera)]) ∧
    (v.scene = none → (v.apply .render).2 = [] ∧ (v.apply .realTime).2 = []) ∧
    ((∃ command, (v.apply .regenerate).2 = [.engine command]) ↔
      ∃ compiled, v.compiledSource = .ok compiled) ∧
    ((v.apply .regenerate).2 = [] ↔ ∃ error, v.compiledSource = .error error) ∧
    (∀ action scene error, (v.apply action).1.scene = some scene →
      (v.apply action).1.camera ≠ .error error) ∧
    (∀ action command, .engine command ∈ (v.apply action).2 → command.Framed) ∧
    (∀ camera : Camera Single, camera.Built → ∀ size : Viewport, size.isEmpty = false →
      ∃ reshaped, camera.withAspect size.aspect = .ok reshaped) ∧
    ∀ (B : Type) [Backend Single B] (backend : B) (bakesCamera : Bool) (seed : UInt64)
      (operations : List (Operation Single)), (∀ operation ∈ operations, operation.Framed) →
      let e := (Engine.new backend viewport bakesCamera seed).run operations
      (∀ command : Command Single, command.Framed →
        ∀ error, (e.apply command).1 ≠ .error (.camera error)) ∧
      ∀ t error, (e.tick t).1 ≠ .error (.camera error) := by
  intro v
  have drawable : v.Drawable := run_drawable (new_drawable viewport) actions
  refine ⟨fun scene loaded => ?_, fun unloaded => ?_, ⟨?_, ?_⟩, ⟨?_, ?_⟩, ?_,
    apply_framed v, fun camera built size area => ?_, ?_⟩
  · obtain ⟨camera, built⟩ := drawable scene loaded
    exact ⟨camera, built, session_of_camera loaded built, session_of_camera loaded built⟩
  · exact ⟨session_of_none unloaded, session_of_none unloaded⟩
  · rintro ⟨command, asked⟩
    rcases outcome : v.compiledSource with error | compiled
    · rw [regenerate_silent outcome] at asked
      cases asked
    · exact ⟨compiled, rfl⟩
  · rintro ⟨⟨scene, spec⟩, compiled⟩
    exact regenerate_starts drawable compiled
  · intro silent
    rcases outcome : v.compiledSource with error | ⟨scene, spec⟩
    · exact ⟨error, rfl⟩
    · obtain ⟨command, asked⟩ := regenerate_starts drawable outcome
      rw [silent] at asked
      cases asked
  · rintro ⟨error, refused⟩
    exact regenerate_silent refused
  · intro action scene error loaded failed
    obtain ⟨camera, built⟩ := apply_drawable drawable action scene loaded
    rw [failed] at built
    cases built
  · exact ⟨_, built.withAspect (Viewport.aspect_isPositive area)⟩
  · intro B _ backend bakesCamera seed operations own e
    have framed : e.Framed :=
      Engine.run_framed (Engine.new_framed backend viewport bakesCamera seed) own
    exact ⟨fun command built => (Engine.apply_framed framed built).1,
      fun t => (Engine.tick_framed framed t).1⟩

theorem marchedText_draws :
    let v := (new ⟨4, 3⟩).run [.sourceLoaded marchedText, .compile, .resize ⟨1, 4294967295⟩]
    (∃ scene camera, v.scene = some scene ∧ v.camera = .ok camera ∧
      (v.apply .realTime).2 = [.engine (.realTime scene camera)]) ∧
    ∃ camera : Camera Single, camera.Built ∧
      let e := (Engine.new (Recorder.new : Recorder Single) ⟨4, 3⟩ true 7).run
        [.apply (.render (.ofObjects []) camera 1), .send (.resize ⟨1, 4294967295⟩)]
      ∀ t error, (e.tick t).1 ≠ .error (.camera error) := by
  intro v
  have some_scene : v.scene.isSome = true := by decide +kernel
  obtain ⟨scene, loaded⟩ := Option.isSome_iff_exists.mp some_scene
  obtain ⟨draws, -, -, -, -, -, -, engine⟩ := loaded_scene_draws ⟨4, 3⟩
    [.sourceLoaded marchedText, .compile, .resize ⟨1, 4294967295⟩]
  obtain ⟨camera, built, -, starts⟩ := draws scene loaded
  refine ⟨⟨scene, camera, loaded, built, starts⟩, camera, ⟨_, built⟩, ?_⟩
  refine (engine (Recorder Single) .new true 7 _ fun operation member => ?_).2
  rcases List.mem_cons.mp member with rfl | member
  · rintro own same
    obtain rfl := Option.some.inj same
    exact ⟨_, built⟩
  · obtain rfl := List.mem_singleton.mp member
    exact fun own none => by cases none

end Viewer
end RayScene
