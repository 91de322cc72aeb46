import RayScene.Proofs.Viewer.Host

/-!
The samples of offline sessions as a function of a viewer's history. The first scene may fix them
for good; otherwise they are what has been asked for last, by name or by regenerating a scene.
-/

namespace RayScene

open Render

namespace Ledger

def asked? (l : Ledger) : Action → Option UInt32
  | .setMaxSamples count => some count
  | .regenerate => l.attempt?.map fun _ => 10
  | _ => none

def asks (l : Ledger) : List Action → List UInt32
  | [] => []
  | action :: actions => (l.asked? action).toList ++ (l.enter action).asks actions

def seededMode (l : Ledger) : Option RenderMode := l.accepted.head?.map (·.scene.renderMode)

theorem asks_concat (l : Ledger) (actions : List Action) (action : Action) :
    l.asks (actions ++ [action]) =
      l.asks actions ++ ((l.after actions).asked? action).toList := by
  induction actions generalizing l with
  | nil => simp [asks, after]
  | cons first actions ih =>
      rw [List.cons_append, asks, asks, ih, List.append_assoc]
      rfl

end Ledger

namespace Viewer

def historySamples (viewport : Viewport) (actions : List Action) : UInt32 :=
  let l := Ledger.new viewport
  if (l.after actions).seededMode = some .sdf then 2 else (l.asks actions).getLast?.getD 10

theorem run_concat (v : Viewer) (actions : List Action) (action : Action) :
    v.run (actions ++ [action]) = ((v.run actions).apply action).1 := by
  rw [run, List.foldl_append]
  rfl

variable {l : Ledger} {v : Viewer}

theorem Follows.raytraced (follows : Follows l v) {action : Action}
    (raytraces : (v.apply action).1.renderMode = .raytrace) : v.renderMode = .raytrace := by
  rw [follows.renderMode]
  cases first : l.accepted.head? with
  | none => rfl
  | some a =>
      rw [(follows.enter action).renderMode, Ledger.enter_head? first action] at raytraces
      exact raytraces

theorem withMaxSamples_renderMode (v : Viewer) (count : UInt32) :
    (v.withMaxSamples count).renderMode = v.renderMode := by
  obtain ⟨samples, set⟩ := v.withMaxSamples_eq count
  rw [set]

theorem withMaxSamples_maxSamples {count : UInt32}
    (raytraces : (v.withMaxSamples count).renderMode = .raytrace) :
    (v.withMaxSamples count).maxSamples = count := by
  rw [withMaxSamples_renderMode] at raytraces
  rw [withMaxSamples, raytraces]

theorem accepting_maxSamples (v : Viewer) (scene : Scene Single) (spec : CameraSpec Single) :
    (v.accepting scene spec).maxSamples = v.maxSamples := by
  obtain ⟨_, _, same⟩ := v.accepting_eq scene spec
  rw [same]

theorem Follows.attempt?_eq (follows : Follows l v) :
    l.attempt? = v.compiledSource.toOption.map fun compiled => ⟨compiled.1, compiled.2⟩ := by
  refine Option.ext fun a => ?_
  rw [follows.attempt?_eq_some_iff]
  cases v.compiledSource with
  | error error => simp [Except.toOption]
  | ok compiled =>
      obtain ⟨scene, spec⟩ := a
      simp [Except.toOption, Prod.ext_iff]

theorem Follows.maxSamples (follows : Follows l v) (action : Action)
    (raytraces : (v.apply action).1.renderMode = .raytrace) :
    (v.apply action).1.maxSamples = (l.asked? action).getD v.maxSamples := by
  cases action with
  | setMaxSamples count => exact withMaxSamples_maxSamples raytraces
  | compile =>
      rcases outcome : v.compiledSource with error | ⟨scene, spec⟩
      · simp only [apply, compile_of_error outcome]
        rfl
      · simp only [apply, compile_of_ok outcome]
        exact v.accepting_maxSamples scene spec
  | regenerate =>
      rw [Ledger.asked?, follows.attempt?_eq]
      rcases outcome : v.compiledSource with error | ⟨scene, spec⟩
      · simp only [apply, compile_of_error outcome]
        rfl
      · simp only [apply, compile_of_ok outcome] at raytraces ⊢
        exact withMaxSamples_maxSamples raytraces
  | exportVolume =>
      simp only [apply, startExport]
      split <;> rfl
  | resize size =>
      simp only [apply]
      split <;> rfl
  | _ => rfl

theorem run_maxSamples (viewport : Viewport) (actions : List Action)
    (raytraces : ((new viewport).run actions).renderMode = .raytrace) :
    ((new viewport).run actions).maxSamples =
      ((Ledger.new viewport).asks actions).getLast?.getD 10 := by
  -- from the right, so that the last action is the one that may have asked last
  induction actions using List.reverseRecOn with
  | nil => rfl
  | append_singleton actions action ih =>
      have follows := (new_follows viewport).after actions
      rw [run_concat] at raytraces ⊢
      rw [follows.maxSamples action raytraces, ih (follows.raytraced raytraces),
        Ledger.asks_concat]
      cases ((Ledger.new viewport).after actions).asked? action <;> simp

theorem Follows.seededMode_iff (follows : Follows l v) :
    l.seededMode = some .sdf ↔ v.renderMode = .sdf := by
  rw [follows.renderMode, Ledger.seededMode]
  cases l.accepted.head? <;> simp

theorem run_currentMaxSamples (viewport : Viewport) (actions : List Action) :
    ((new viewport).run actions).currentMaxSamples = historySamples viewport actions := by
  have fixed := ((new_follows viewport).after actions).seededMode_iff
  unfold historySamples
  dsimp only
  cases mode : ((new viewport).run actions).renderMode with
  | sdf =>
      rw [if_pos (fixed.mpr mode), currentMaxSamples, mode]
      rfl
  | raytrace =>
      have free : ¬ ((Ledger.new viewport).after actions).seededMode = some .sdf := by
        rw [fixed, mode]
        nofun
      rw [if_neg free, currentMaxSamples, mode]
      exact run_maxSamples viewport actions mode

theorem apply_render_samples (v : Viewer) (action : Action) {scene : Scene Single}
    {camera : Camera Single} {count : UInt32}
    (asked : .engine (.render scene camera count) ∈ (v.apply action).2) :
    count = (v.apply action).1.currentMaxSamples := by
  have fits := v.apply_asks action
  have member : .render scene camera count ∈ (v.apply action).2.filterMap Effect.command? :=
    List.mem_filterMap.mpr ⟨_, asked, rfl⟩
  generalize (v.apply action).2.filterMap Effect.command? = commands at fits member
  cases fits with
  | nothing => cases member
  | cancel => simp at member
  | resize => simp at member
  | session kept loaded built starts =>
      rw [List.mem_singleton] at member
      rcases starts with rfl | rfl
      · cases member
      · cases member
        rfl

/-- Samples are two for good if the first scene is one to be marched. Otherwise they are those that
were asked for last, ten before the first time; a regeneration that fails asks for nothing. Every
offline session gets the samples of its time. -/
theorem samples_follow_history (viewport : Viewport) (actions : List Action) :
    let v := (new viewport).run actions
    let l := (Ledger.new viewport).after actions
    v.currentMaxSamples = historySamples viewport actions ∧
    (∀ action scene camera count,
      .engine (.render scene camera count) ∈ (v.apply action).2 →
        count = historySamples viewport (actions ++ [action])) ∧
    (l.attempt? = none → (v.apply .regenerate).1.currentMaxSamples = v.currentMaxSamples) := by
  intro v l
  have follows : Follows l v := (new_follows viewport).after actions
  refine ⟨run_currentMaxSamples viewport actions, fun action scene camera count asked => ?_,
    fun refused => ?_⟩
  · rw [← run_currentMaxSamples, run_concat]
    exact apply_render_samples v action asked
  · rcases follows.attempt_cases (show Action.regenerate.attempts = true from rfl) with
      ⟨-, error, told⟩ | ⟨a, samples, accepted, -⟩
    · rw [told]
      rfl
    · rw [refused] at accepted
      cases accepted

def emptyText : String := "\x7b\"objectList\":[]\x7d"

/-- Seven samples, asked for before there is a scene, outlast its compilation and a regeneration
that fails. -/
theorem emptyText_samples :
    let v := (new ⟨4, 3⟩).run [.setMaxSamples 7, .sourceLoaded emptyText, .compile,
      .sourceLoaded ""]
    v.currentMaxSamples = 7 ∧ (v.apply .regenerate).1.currentMaxSamples = 7 ∧
      ∃ scene camera, .engine (.render scene camera 7) ∈ (v.apply .render).2 := by
  intro v
  obtain ⟨now, later, refused⟩ := samples_follow_history ⟨4, 3⟩
    [.setMaxSamples 7, .sourceLoaded emptyText, .compile, .sourceLoaded ""]
  have seven : v.currentMaxSamples = 7 := now.trans (by decide +kernel)
  have fails : ((Ledger.new ⟨4, 3⟩).after [.setMaxSamples 7, .sourceLoaded emptyText, .compile,
      .sourceLoaded ""]).attempt? = none := Option.isNone_iff_eq_none.mp (by decide +kernel)
  have some_scene : v.scene.isSome = true := by decide +kernel
  obtain ⟨scene, loaded⟩ := Option.isSome_iff_exists.mp some_scene
  obtain ⟨camera, built⟩ := run_drawable (new_drawable ⟨4, 3⟩) _ scene loaded
  have starts : (v.apply .render).2 = [.engine (.render scene camera v.currentMaxSamples)] :=
    session_of_camera loaded built
  have asked : .engine (.render scene camera v.currentMaxSamples) ∈ (v.apply .render).2 := by
    rw [starts]
    exact List.mem_singleton_self _
  have drawn : v.currentMaxSamples = 7 := (later _ _ _ _ asked).trans (by decide +kernel)
  exact ⟨seven, (refused fails).trans seven, scene, camera, drawn ▸ asked⟩

end Viewer
end RayScene
