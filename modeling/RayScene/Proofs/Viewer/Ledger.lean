import RayScene.Proofs.Viewer.Run

/-!
A viewer as a function of its history. A ledger keeps the text, the size, and every scene that was
accepted; the latest of them is the one to draw, and the first one has decided on the render mode
and on the export settings for good.
-/

namespace RayScene

open Render

structure Acceptance where
  scene : Scene Single
  cameraSpec : CameraSpec Single

structure Ledger where
  source : String
  viewport : Viewport
  accepted : List Acceptance

namespace Ledger

def new (viewport : Viewport) : Ledger := ⟨"", viewport, []⟩

def attempt? (l : Ledger) : Option Acceptance := do
  let scene ← (SceneFile.compile l.source).toOption
  let spec := scene.camera.getD .standard
  let _ ← (Camera.build (spec.withAspect l.viewport.aspect)).toOption
  return ⟨scene, spec⟩

theorem attempt?_eq_some_iff {l : Ledger} {a : Acceptance} :
    l.attempt? = some a ↔
      SceneFile.compile l.source = .ok a.scene ∧ a.cameraSpec = a.scene.camera.getD .standard ∧
        ∃ camera, Camera.build (a.cameraSpec.withAspect l.viewport.aspect) = .ok camera := by
  obtain ⟨scene, spec⟩ := a
  unfold attempt?
  rcases SceneFile.compile l.source with error | compiled
  · simp [Except.toOption]
  · rcases built : Camera.build ((compiled.camera.getD .standard).withAspect l.viewport.aspect)
      with error | camera
    · simp only [Except.toOption, Option.bind_eq_bind, Option.bind_some, built, Option.bind_none,
        reduceCtorEq, Except.ok.injEq, false_iff, not_and, not_exists]
      rintro rfl rfl camera made
      rw [built] at made
      cases made
    · simp only [Except.toOption, Option.bind_eq_bind, Option.bind_some, built, Option.pure_def,
        Option.some.injEq, Acceptance.mk.injEq, Except.ok.injEq]
      constructor
      · rintro ⟨rfl, rfl⟩
        exact ⟨rfl, rfl, camera, built⟩
      · rintro ⟨rfl, rfl, _⟩
        exact ⟨rfl, rfl⟩

def enter (l : Ledger) : Action → Ledger
  | .sourceLoaded source => { l with source }
  | .resize size => if size.isEmpty then l else { l with viewport := size }
  | .compile | .regenerate => { l with accepted := l.accepted ++ l.attempt?.toList }
  | _ => l

def after (l : Ledger) (actions : List Action) : Ledger := actions.foldl enter l

end Ledger

def Scene.exportSettings (scene : Scene Single) : ExportSettings Single where
  resolution := (scene.exportOverrides.bind (·.resolution)).getD defaultExportSettings.resolution
  minCoords := (scene.exportOverrides.bind (·.minCoords)).getD defaultExportSettings.minCoords
  maxCoords := (scene.exportOverrides.bind (·.maxCoords)).getD defaultExportSettings.maxCoords

namespace Viewer

structure Follows (l : Ledger) (v : Viewer) : Prop where
  source : v.source = l.source
  viewport : v.viewport = l.viewport
  scene : v.scene = l.accepted.getLast?.map (·.scene)
  cameraSpec : v.cameraSpec = (l.accepted.getLast?.map (·.cameraSpec)).getD .standard
  renderMode : v.renderMode = (l.accepted.head?.map (·.scene.renderMode)).getD .raytrace
  exportSettings : v.exportSettings =
    (l.accepted.head?.map (·.scene.exportSettings)).getD defaultExportSettings
  hasCompiled : v.hasCompiled = l.accepted.head?.isSome

theorem new_follows (viewport : Viewport) : Follows (.new viewport) (new viewport) :=
  ⟨rfl, rfl, rfl, rfl, rfl, rfl, rfl⟩

variable {l : Ledger} {v : Viewer}

/-- An attempt works out for the viewer exactly if it does for the ledger. -/
theorem Follows.attempt?_eq_some_iff (follows : Follows l v) (a : Acceptance) :
    l.attempt? = some a ↔ v.compiledSource = .ok (a.scene, a.cameraSpec) := by
  rw [Ledger.attempt?_eq_some_iff, compiledSource_eq_ok_iff, cameraOf, follows.source,
    follows.viewport]

theorem Follows.attempt_cases (follows : Follows l v) {action : Action}
    (attempts : action.attempts = true) :
    (l.attempt? = none ∧ ∃ error, v.apply action = ({ v with error := some error }, [])) ∨
      ∃ a samples, l.attempt? = some a ∧
        (v.apply action).1 = { v.accepting a.scene a.cameraSpec with maxSamples := samples } := by
  rcases v.attempt_cases attempts with
    ⟨error, refused, told⟩ | ⟨scene, spec, samples, compiled, applied, -⟩
  · refine .inl ⟨Option.eq_none_iff_forall_ne_some.mpr fun a attempted => ?_, error, told⟩
    rw [(follows.attempt?_eq_some_iff a).mp attempted] at refused
    cases refused
  · exact .inr ⟨⟨scene, spec⟩, samples, (follows.attempt?_eq_some_iff _).mpr compiled, applied⟩

/-- The first scene is overridden by nothing, and overrides the settings field by field. -/
theorem initialized_first (scene : Scene Single) (first : v.hasCompiled = false)
    (untouched : v.exportSettings = defaultExportSettings) :
    (v.initialized scene).exportSettings = scene.exportSettings ∧
      (v.initialized scene).renderMode = scene.renderMode := by
  simp only [initialized, first, Bool.false_eq_true, if_false, untouched, and_true]
  cases wanted : scene.exportOverrides with
  | none => simp [Scene.exportSettings, wanted]
  | some overrides => simp [Scene.exportSettings, wanted, ExportSettings.withOverrides]

theorem Follows.accepting (follows : Follows l v) (a : Acceptance) :
    Follows { l with accepted := l.accepted ++ [a] } (v.accepting a.scene a.cameraSpec) := by
  have latest : (l.accepted ++ [a]).getLast? = some a := List.getLast?_concat
  rcases earlier : l.accepted with _ | ⟨first, rest⟩
  · have fresh : v.hasCompiled = false := by rw [follows.hasCompiled, earlier]; rfl
    have untouched : v.exportSettings = defaultExportSettings := by
      rw [follows.exportSettings, earlier]
      rfl
    obtain ⟨settings, mode⟩ := initialized_first a.scene fresh untouched
    have flagged : (v.initialized a.scene).hasCompiled = true := by simp [initialized, fresh]
    have kept : (v.initialized a.scene).source = v.source ∧
        (v.initialized a.scene).viewport = v.viewport := by simp [initialized, fresh]
    exact ⟨kept.1.trans follows.source, kept.2.trans follows.viewport, rfl, rfl, mode, settings,
      flagged⟩
  · have seeded : v.hasCompiled = true := by rw [follows.hasCompiled, earlier]; rfl
    have same : v.initialized a.scene = v := by simp [initialized, seeded]
    rw [earlier] at latest
    refine ⟨?_, ?_, ?_, ?_, ?_, ?_, ?_⟩
    all_goals simp only [Viewer.accepting, same, latest]
    · exact follows.source
    · exact follows.viewport
    · rfl
    · rfl
    · exact (follows.renderMode.trans (by rw [earlier]; rfl))
    · exact (follows.exportSettings.trans (by rw [earlier]; rfl))
    · exact seeded

theorem Follows.untouched {w : Viewer} (follows : Follows l v)
    (same : (w.source, w.viewport, w.scene, w.cameraSpec, w.renderMode, w.exportSettings,
      w.hasCompiled) = (v.source, v.viewport, v.scene, v.cameraSpec, v.renderMode,
      v.exportSettings, v.hasCompiled)) : Follows l w := by
  simp only [Prod.mk.injEq] at same
  obtain ⟨source, viewport, scene, cameraSpec, renderMode, exportSettings, hasCompiled⟩ := same
  exact ⟨source.trans follows.source, viewport.trans follows.viewport, scene.trans follows.scene,
    cameraSpec.trans follows.cameraSpec, renderMode.trans follows.renderMode,
    exportSettings.trans follows.exportSettings, hasCompiled.trans follows.hasCompiled⟩

theorem Follows.attempted (follows : Follows l v) {action : Action}
    (attempts : action.attempts = true) :
    Follows { l with accepted := l.accepted ++ l.attempt?.toList } (v.apply action).1 := by
  rcases follows.attempt_cases attempts with ⟨none, error, applied⟩ | ⟨a, samples, some, applied⟩
  · rw [applied, none, Option.toList_none, List.append_nil]
    exact follows.untouched rfl
  · rw [applied, some, Option.toList_some]
    exact (follows.accepting a).untouched rfl

theorem Follows.resized (follows : Follows l v) (size : Viewport) :
    Follows (l.enter (.resize size)) (v.apply (.resize size)).1 := by
  have moved (w : Viewer) (same : w = { v with viewport := size }) :
      Follows { l with viewport := size } w := by
    rw [same]
    exact ⟨follows.source, rfl, follows.scene, follows.cameraSpec, follows.renderMode,
      follows.exportSettings, follows.hasCompiled⟩
  simp only [Ledger.enter, apply]
  by_cases empty : size.isEmpty
  · simpa only [empty, true_or, if_true] using follows
  · by_cases unchanged : size = v.viewport
    · rw [if_neg empty, if_pos (.inr unchanged)]
      exact moved v (by rw [unchanged])
    · rw [if_neg empty, if_neg (by simp [empty, unchanged])]
      exact moved _ rfl

theorem Follows.enter (follows : Follows l v) (action : Action) :
    Follows (l.enter action) (v.apply action).1 := by
  cases action with
  | sourceLoaded source =>
      exact ⟨rfl, follows.viewport, follows.scene, follows.cameraSpec, follows.renderMode,
        follows.exportSettings, follows.hasCompiled⟩
  | compile => exact follows.attempted rfl
  | regenerate => exact follows.attempted rfl
  | setMaxSamples count =>
      obtain ⟨samples, set⟩ := v.withMaxSamples_eq count
      rw [apply, set]
      exact follows.untouched rfl
  | resize size => exact follows.resized size
  | exportVolume =>
      simp only [apply, startExport]
      split <;> exact follows.untouched rfl
  | _ => exact follows.untouched rfl

theorem Follows.after (follows : Follows l v) (actions : List Action) :
    Follows (l.after actions) (v.run actions) := by
  induction actions generalizing l v with
  | nil => exact follows
  | cons action actions ih => exact ih (follows.enter action)

end Viewer

theorem Ledger.enter_head? {l : Ledger} {first : Acceptance}
    (seeded : l.accepted.head? = some first) (action : Action) :
    (l.enter action).accepted.head? = some first := by
  unfold enter
  split <;> try exact seeded
  next => split <;> exact seeded
  all_goals simp [List.head?_append, seeded]

theorem Ledger.after_head? {l : Ledger} {first : Acceptance}
    (seeded : l.accepted.head? = some first) (actions : List Action) :
    (l.after actions).accepted.head? = some first := by
  induction actions generalizing l with
  | nil => exact seeded
  | cons action actions ih => exact ih (enter_head? seeded action)

namespace Viewer

/-- The scene and the camera are those of the latest attempt that worked out, the mode and the
settings those of the first one, for good; a failed attempt tells its error and does no more. -/
theorem run_follows_ledger (viewport : Viewport) (actions : List Action) :
    let v := (new viewport).run actions
    let l := (Ledger.new viewport).after actions
    (v.scene = l.accepted.getLast?.map (·.scene) ∧
      v.cameraSpec = (l.accepted.getLast?.map (·.cameraSpec)).getD .standard) ∧
    (v.renderMode = (l.accepted.head?.map (·.scene.renderMode)).getD .raytrace ∧
      v.exportSettings =
        (l.accepted.head?.map (·.scene.exportSettings)).getD defaultExportSettings) ∧
    (l.accepted ≠ [] → ∀ later, (v.run later).renderMode = v.renderMode ∧
      (v.run later).exportSettings = v.exportSettings) ∧
    v.source = l.source ∧ v.viewport = l.viewport ∧
    ∀ action : Action, action.attempts = true →
      (∀ a, l.attempt? = some a → (v.apply action).1.error = none ∧
        (v.apply action).1.scene = some a.scene ∧ (v.apply action).1.cameraSpec = a.cameraSpec) ∧
      (l.attempt? = none → ∃ error, v.apply action = ({ v with error := some error }, [])) := by
  intro v l
  have follows : Follows l v := (new_follows viewport).after actions
  refine ⟨⟨follows.scene, follows.cameraSpec⟩, ⟨follows.renderMode, follows.exportSettings⟩,
    ?_, follows.source, follows.viewport, ?_⟩
  · intro seeded later
    obtain ⟨first, rest, split⟩ := List.exists_cons_of_ne_nil seeded
    have kept := follows.after later
    have head : l.accepted.head? = some first := by rw [split]; rfl
    rw [kept.renderMode, kept.exportSettings, Ledger.after_head? head, follows.renderMode,
      follows.exportSettings, head]
    exact ⟨rfl, rfl⟩
  · intro action attempts
    rcases follows.attempt_cases attempts with ⟨none, told⟩ | ⟨a, samples, some, applied⟩
    · refine ⟨fun a some => ?_, fun _ => told⟩
      rw [none] at some
      cases some
    · refine ⟨fun b same => ?_, fun none => ?_⟩
      · obtain rfl := Option.some.inj (some.symm.trans same)
        rw [applied]
        exact ⟨rfl, rfl, rfl⟩
      · rw [none] at some
        cases some

def marchedText : String :=
  "\x7b\"objectList\":[],\"rendererSettings\":\x7b\"renderMode\":\"sdf\"\x7d,
\"sdfExportSettings\":\x7b\"resolution\":64\x7d\x7d"

theorem marchedText_seeds :
    let v := (new ⟨4, 3⟩).run [.sourceLoaded marchedText, .compile, .sourceLoaded ""]
    (∀ later, (v.run later).renderMode = .sdf ∧ (v.run later).exportSettings.resolution = 64) ∧
      ∃ error, v.apply .regenerate = ({ v with error := some error }, []) := by
  intro v
  let l := (Ledger.new ⟨4, 3⟩).after [.sourceLoaded marchedText, .compile, .sourceLoaded ""]
  have wanted : l.accepted.head?.map
      (fun a => (a.scene.renderMode, a.scene.exportSettings.resolution)) = some (.sdf, 64) := by
    decide +kernel
  have refused : l.attempt?.isNone = true := by decide +kernel
  obtain ⟨first, head, parts⟩ := Option.map_eq_some_iff.mp wanted
  obtain ⟨marched, fine⟩ := Prod.mk.inj parts
  have seeded : l.accepted ≠ [] := by
    intro none
    rw [none] at head
    cases head
  obtain ⟨-, ⟨mode, settings⟩, constant, -, -, attempts⟩ :=
    run_follows_ledger ⟨4, 3⟩ [.sourceLoaded marchedText, .compile, .sourceLoaded ""]
  refine ⟨fun later => ?_, (attempts .regenerate rfl).2 (Option.isNone_iff_eq_none.mp refused)⟩
  obtain ⟨same_mode, same_settings⟩ := constant seeded later
  rw [same_mode, same_settings, mode, settings, head]
  exact ⟨marched, fine⟩

end Viewer
end RayScene
