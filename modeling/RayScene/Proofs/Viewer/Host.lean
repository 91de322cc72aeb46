import RayScene.Proofs.Render.Fulfilment
import RayScene.Proofs.SceneFile.Compiled
import RayScene.Proofs.Viewer.Sessions

/-!
A viewer and an engine that takes its commands. Each of the two has a size, a mode and a camera of
its own and its own reasons to ignore a request; behind every tick they agree all the same, on a side
that serves everything.
-/

namespace RayScene

open Render

theorem SceneFile.compile_shallow {text : String} {scene : Scene Single}
    (compiled : compile text = .ok scene) : scene.Shallow := by
  obtain ⟨document, -, checked⟩ := compile_ok compiled
  exact fun o member => Shape.toSdf_shallow ((checkObjects_ok checked).2 o member)

def Effect.command? : Effect → Option (Command Single)
  | engine command => some command
  | startExport .. | cancelExport => none

theorem Render.Engine.receive_eq {B : Type} (effects : List Effect) (e : Engine Single B) :
    e.receive effects = { e with queue := e.queue ++ effects.filterMap Effect.command? } := by
  induction effects generalizing e with
  | nil => simp [receive]
  | cons effect effects ih =>
      have first : e.receive (effect :: effects) =
          Engine.receive { e with queue := e.queue ++ effect.command?.toList } effects := by
        cases effect <;> simp [receive, send, Effect.command?]
      rw [first, ih]
      cases effect <;> simp [Effect.command?, List.filterMap_cons]

namespace Viewer

variable {v w : Viewer}

inductive Asks (v w : Viewer) : List (Command Single) → Prop
  | nothing (kept : w.viewport = v.viewport) : Asks v w []
  | cancel (kept : w.viewport = v.viewport) : Asks v w [.cancel]
  | session {scene : Scene Single} {camera : Camera Single} {command : Command Single}
      (kept : w.viewport = v.viewport) (loaded : w.scene = some scene)
      (built : w.camera = .ok camera)
      (starts : command = .realTime scene camera ∨
        command = .render scene camera w.currentMaxSamples) : Asks v w [command]
  | resize (area : w.viewport.isEmpty = false) : Asks v w [.resize w.viewport]

theorem attempt_viewport (v : Viewer) {action : Action} (attempts : action.attempts = true) :
    (v.apply action).1.viewport = v.viewport := by
  rcases v.attempt_cases attempts with ⟨error, -, told⟩ | ⟨scene, spec, samples, -, applied, -⟩
  · rw [told]
  · rw [applied]
    exact v.accepting_viewport scene spec

theorem session_asks (kept : w.viewport = v.viewport) :
    Asks v w (w.session.filterMap Effect.command?) := by
  unfold session
  split
  next scene camera loaded built =>
    refine .session kept loaded built ?_
    cases w.realTime
    · exact .inr rfl
    · exact .inl rfl
  next => exact .nothing kept

theorem apply_asks (v : Viewer) (action : Action) :
    Asks v (v.apply action).1 ((v.apply action).2.filterMap Effect.command?) := by
  cases action with
  | render => exact session_asks rfl
  | realTime => exact session_asks rfl
  | cancel => exact .cancel rfl
  | compile => exact .nothing (v.attempt_viewport rfl)
  | regenerate =>
      have kept := v.attempt_viewport (show Action.regenerate.attempts = true from rfl)
      rcases v.attempt_cases (show Action.regenerate.attempts = true from rfl) with
        ⟨error, -, told⟩ | ⟨scene, spec, samples, -, -, starts⟩
      · rw [told]
        exact .nothing rfl
      · rw [starts rfl]
        exact session_asks kept
  | setMaxSamples count =>
      obtain ⟨samples, set⟩ := v.withMaxSamples_eq count
      rw [apply, set]
      exact .nothing rfl
  | exportVolume =>
      simp only [apply, startExport]
      split <;> exact .nothing rfl
  | cancelExport =>
      simp only [apply]
      split <;> exact .nothing rfl
  | resize size =>
      simp only [apply]
      split
      next => exact .nothing rfl
      next changes => exact .resize (by simpa using fun empty => changes (.inl empty))
  | _ => exact .nothing rfl

def Presentable (v : Viewer) : Prop := ∀ scene, v.scene = some scene → scene.Shallow

theorem attempt_presentable (presentable : v.Presentable) {action : Action}
    (attempts : action.attempts = true) : (v.apply action).1.Presentable := by
  rcases v.attempt_cases attempts with
    ⟨error, -, told⟩ | ⟨scene, spec, samples, compiled, applied, -⟩
  · rw [told]
    exact presentable
  · rw [applied]
    intro other loaded
    obtain rfl := Option.some.inj loaded
    exact SceneFile.compile_shallow (compiledSource_eq_ok_iff.mp compiled).1

theorem apply_presentable (presentable : v.Presentable) (action : Action) :
    (v.apply action).1.Presentable := by
  cases action with
  | compile => exact attempt_presentable presentable rfl
  | regenerate => exact attempt_presentable presentable rfl
  | setMaxSamples count =>
      obtain ⟨samples, set⟩ := v.withMaxSamples_eq count
      rw [apply, set]
      exact presentable
  | exportVolume =>
      simp only [apply, startExport]
      split <;> exact presentable
  | resize size =>
      simp only [apply]
      split <;> exact presentable
  | _ => exact presentable

theorem run_presentable (presentable : v.Presentable) (actions : List Action) :
    (v.run actions).Presentable := by
  induction actions generalizing v with
  | nil => exact presentable
  | cons action actions ih => exact ih (apply_presentable presentable action)

theorem session_sound {scene : Scene Single} {camera : Camera Single} {command : Command Single}
    (presentable : w.Presentable) (loaded : w.scene = some scene) (built : w.camera = .ok camera)
    (starts : command = .realTime scene camera ∨
      command = .render scene camera w.currentMaxSamples) :
    command.Sound ∧ command.camera? = some camera := by
  have shallow := presentable scene loaded
  have framed : camera.Built := ⟨_, built⟩
  rcases starts with rfl | rfl
  all_goals
    refine ⟨⟨fun own same => ?_, fun own same => ?_⟩, rfl⟩
    · rwa [← Option.some.inj same]
    · rwa [← Option.some.inj same]

theorem camera_reshaped {camera : Camera Single} (built : w.camera = .ok camera) :
    camera.withAspect w.viewport.aspect = .ok camera := by
  obtain ⟨sound, rfl⟩ := (Camera.build_eq_ok_iff _ _).mp built
  exact (Camera.build_eq_ok_iff _ _).mpr ⟨sound, rfl⟩

/-- What there is to happen: an action, which goes to the viewer, or a tick of the engine. -/
inductive Turn where
  | act (action : Action)
  | tick (t : FrameTick)

structure Host (B : Type) where
  viewer : Viewer
  engine : Engine Single B
  sent : List (Command Single)

namespace Host

variable {B : Type}

def new (backend : B) (viewport : Viewport) (bakesCamera : Bool) (seed : UInt64) : Host B :=
  ⟨.new viewport, .new backend viewport bakesCamera seed, []⟩

structure InStep (good : B → Prop) (origin : Viewport) (h : Host B) : Prop where
  presentable : h.viewer.Presentable
  sound : ∀ command ∈ h.sent, command.Sound
  size : h.viewer.viewport = (Command.lastSize? h.sent).getD origin
  /-- An empty viewport is the first one, and still has the shape of every camera. -/
  shaped : h.viewer.viewport.isEmpty = true → ∀ command ∈ h.sent, ∀ camera ∈ command.camera?,
    camera.withAspect h.viewer.viewport.aspect = .ok camera
  split : ∃ done, h.sent = done ++ h.engine.queue ∧ Engine.Fulfils good origin done h.engine

variable {good : B → Prop} {origin : Viewport} {h : Host B}

theorem new_inStep {backend : B} (ready : good backend) (viewport : Viewport) (bakesCamera : Bool)
    (seed : UInt64) : InStep good viewport (new backend viewport bakesCamera seed) where
  presentable _ none := by cases none
  sound _ none := by cases none
  size := rfl
  shaped _ _ none := by cases none
  split := ⟨[], rfl, Engine.new_fulfils ready viewport bakesCamera seed⟩

/-- An action that asks for commands which suit the viewer behind it keeps the host in step. -/
theorem InStep.asked (inStep : InStep good origin h) {w : Viewer} (presentable : w.Presentable)
    {commands : List (Command Single)} (asks : Asks h.viewer w commands) (engine : Engine Single B)
    (same : engine = { h.engine with queue := h.engine.queue ++ commands }) :
    InStep good origin ⟨w, engine, h.sent ++ commands⟩ := by
  obtain ⟨done, sent, fulfils⟩ := inStep.split
  -- What the engine has done stays as it is; what is asked for now only waits.
  have split : ∃ done, h.sent ++ commands = done ++ engine.queue ∧
      Engine.Fulfils good origin done engine := by
    refine ⟨done, ?_, ?_⟩
    · rw [sent, same, List.append_assoc]
    · rw [same]
      exact fulfils.requeued _
  have before := inStep.shaped
  cases asks with
  | nothing kept =>
      rw [← kept] at before
      simp only [List.append_nil] at split ⊢
      exact ⟨presentable, inStep.sound, kept.trans inStep.size, before, split⟩
  | cancel kept =>
      rw [← kept] at before
      refine ⟨presentable, ?_, ?_, fun empty => ?_, split⟩
      · exact List.forall_mem_append.mpr
          ⟨inStep.sound, List.forall_mem_singleton.mpr (Command.sound_of_bare rfl rfl)⟩
      · rw [Command.lastSize?_concat]
        exact kept.trans inStep.size
      · exact List.forall_mem_append.mpr
          ⟨before empty, List.forall_mem_singleton.mpr fun _ none => by cases none⟩
  | @session scene camera command kept loaded built starts =>
      rw [← kept] at before
      obtain ⟨sound, own⟩ := session_sound presentable loaded built starts
      have unsized : command.size? = none := by
        rcases starts with rfl | rfl <;> rfl
      refine ⟨presentable, ?_, ?_, fun empty => ?_, split⟩
      · exact List.forall_mem_append.mpr ⟨inStep.sound, List.forall_mem_singleton.mpr sound⟩
      · rw [Command.lastSize?_concat, unsized]
        exact kept.trans inStep.size
      · refine List.forall_mem_append.mpr
          ⟨before empty, List.forall_mem_singleton.mpr fun other same => ?_⟩
        obtain rfl := Option.some.inj (own.symm.trans same)
        exact camera_reshaped built
  | resize area =>
      refine ⟨presentable, ?_, ?_, fun empty => ?_, split⟩
      · exact List.forall_mem_append.mpr
          ⟨inStep.sound, List.forall_mem_singleton.mpr (Command.sound_of_bare rfl rfl)⟩
      · rw [Command.lastSize?_concat, Command.size?, area]
        rfl
      · rw [area] at empty
        cases empty

/-- The camera that an engine makes of a sent one is the one at the viewport of the viewer. -/
theorem InStep.fit_eq (inStep : InStep good origin h) {command : Command Single}
    (sent : command ∈ h.sent) {camera : Camera Single} (own : camera ∈ command.camera?) :
    camera.withAspect h.viewer.viewport.aspect = .ok (h.viewer.viewport.fit camera) := by
  have built := (inStep.sound command sent).framed camera own
  have fitted := h.viewer.viewport.fit_eq built
  cases empty : h.viewer.viewport.isEmpty with
  | true =>
      rw [empty] at fitted
      rw [← fitted]
      exact inStep.shaped empty command sent camera own
  | false =>
      rw [empty] at fitted
      exact fitted

variable [Backend Single B]

def turn (h : Host B) : Turn → Host B
  | .act action =>
    let (viewer, effects) := h.viewer.apply action
    ⟨viewer, h.engine.receive effects, h.sent ++ effects.filterMap Effect.command?⟩
  | .tick t => { h with engine := (h.engine.tick t).2 }

def run (turns : List Turn) (h : Host B) : Host B := turns.foldl turn h

theorem InStep.ticked (willing : Willing Single good) (inStep : InStep good origin h)
    (t : FrameTick) : InStep good origin (h.turn (.tick t)) ∧
      Engine.Fulfils good origin h.sent (h.turn (.tick t)).engine := by
  obtain ⟨presentable, sound, size, shaped, done, sent, fulfils⟩ := inStep
  rw [sent] at sound
  obtain ⟨answer, after, ticked, all, empty⟩ := (Engine.tick_fulfils willing fulfils sound t).after
  have engine : (h.turn (.tick t)).engine = after := congrArg Prod.snd ticked
  rw [← sent] at all sound
  refine ⟨⟨presentable, sound, size, shaped, h.sent, ?_, ?_⟩, ?_⟩
  · rw [engine, empty, List.append_nil]
    rfl
  · rw [engine]
    exact all
  · rw [engine]
    exact all

theorem InStep.turned (willing : Willing Single good) (inStep : InStep good origin h)
    (turn : Turn) : InStep good origin (h.turn turn) := by
  cases turn with
  | act action =>
      exact inStep.asked (apply_presentable inStep.presentable action) (h.viewer.apply_asks action)
        _ (Engine.receive_eq _ _)
  | tick t => exact (inStep.ticked willing t).1

theorem run_inStep (willing : Willing Single good) (inStep : InStep good origin h)
    (turns : List Turn) : InStep good origin (h.run turns) := by
  induction turns generalizing h with
  | nil => exact inStep
  | cons turn turns ih => exact ih (inStep.turned willing turn)

/-- Behind every tick the engine has the size of the viewer, and the session of the last session
command that the viewer has sent, if that was not the end of one. -/
theorem run_in_step (willing : Willing Single good) {backend : B} (ready : good backend)
    (viewport : Viewport) (bakesCamera : Bool) (seed : UInt64) (turns : List Turn) (t : FrameTick) :
    let h := (new backend viewport bakesCamera seed).run (turns ++ [.tick t])
    h.engine.viewport = h.viewer.viewport ∧
    (h.engine.mode = none ↔
      Command.lastSession? h.sent = none ∨ Command.lastSession? h.sent = some .cancel) ∧
    (∀ scene camera maxSamples,
      Command.lastSession? h.sent = some (.render scene camera maxSamples) →
        ∃ s, h.engine.phase.session? = some s ∧ s.mode = .offline ∧ s.scene = scene ∧
          s.maxSamples = max maxSamples 1 ∧
          camera.withAspect h.viewer.viewport.aspect = .ok s.camera) ∧
    ∀ scene camera, Command.lastSession? h.sent = some (.realTime scene camera) →
      ∃ s, h.engine.phase.session? = some s ∧ s.mode = .realTime ∧ s.scene = scene ∧
        camera.withAspect h.viewer.viewport.aspect = .ok s.camera := by
  intro h
  obtain ⟨inStep, fulfils⟩ : InStep good viewport h ∧
      Engine.Fulfils good viewport h.sent h.engine := by
    have before := run_inStep willing (new_inStep ready viewport bakesCamera seed) turns
    have last : h = ((new backend viewport bakesCamera seed).run turns).turn (.tick t) := by
      simp only [h, run, List.foldl_append, List.foldl_cons, List.foldl_nil]
    rw [last]
    exact before.ticked willing t
  have size : h.engine.viewport = h.viewer.viewport := fulfils.viewport.trans inStep.size.symm
  have running {command : Command Single} (sent : Command.lastSession? h.sent = some command)
      {goal : Session Single} (wish : command.wish? = some goal)
      (own : goal.camera ∈ command.camera?) :
      ∃ s, h.engine.phase.session? = some s ∧ s.mode = goal.mode ∧ s.scene = goal.scene ∧
        s.maxSamples = goal.maxSamples ∧
        goal.camera.withAspect h.viewer.viewport.aspect = .ok s.camera := by
    obtain ⟨s, held, mode, scene, camera, maxSamples⟩ := fulfils.running sent wish
    have member := List.mem_of_mem_filter (List.mem_of_getLast? sent)
    refine ⟨s, held, mode, scene, maxSamples, ?_⟩
    rw [camera, size]
    exact inStep.fit_eq member own
  refine ⟨size, fulfils.mode_eq_none_iff, fun scene camera maxSamples sent => ?_,
    fun scene camera sent => ?_⟩
  · exact running sent rfl rfl
  · obtain ⟨s, held, mode, scene, -, camera⟩ := running sent rfl rfl
    exact ⟨s, held, mode, scene, camera⟩

/-- Two sessions of a scene that is only marched, with a resize between them and two behind them, of
which the last one asks for an empty size. -/
def marchedTurns : List Turn :=
  [.act (.sourceLoaded marchedText), .act .compile, .act .realTime, .tick ⟨.zero, 0⟩,
    .act (.resize ⟨8, 6⟩), .act .render, .act (.resize ⟨1, 9⟩), .act (.resize ⟨1, 0⟩)]

theorem marchedTurns_in_step :
    Willing Single (fun b : Recorder Single => b.refusals = [] ∧ b.maxExtent = none) ∧
    ((Recorder.new : Recorder Single).refusals = [] ∧
      (Recorder.new : Recorder Single).maxExtent = none) ∧
    let h := (new (Recorder.new : Recorder Single) ⟨4, 3⟩ true 7).run
      (marchedTurns ++ [.tick ⟨.zero, 1⟩])
    h.engine.viewport = ⟨1, 9⟩ ∧ ∃ s, h.engine.phase.session? = some s ∧ s.mode = .offline ∧
      s.maxSamples = 2 := by
  have ready : (Recorder.new : Recorder Single).refusals = [] ∧
      (Recorder.new : Recorder Single).maxExtent = none := ⟨rfl, rfl⟩
  refine ⟨Engine.recorder_willing, ready, ?_⟩
  intro h
  obtain ⟨size, -, renders, -⟩ :=
    run_in_step Engine.recorder_willing ready ⟨4, 3⟩ true 7 marchedTurns ⟨.zero, 1⟩
  have last : h.viewer.viewport = ⟨1, 9⟩ := by decide +kernel
  have asked : (Command.lastSession? h.sent).map
      (fun command => match command with
        | .render _ _ maxSamples => some maxSamples
        | _ => none) = some (some 2) := by decide +kernel
  obtain ⟨command, sent, samples⟩ := Option.map_eq_some_iff.mp asked
  cases command with
  | render scene camera maxSamples =>
      obtain ⟨s, held, mode, -, most, -⟩ := renders scene camera maxSamples sent
      obtain rfl := Option.some.inj samples
      exact ⟨size.trans last, s, held, mode, most⟩
  | _ => cases samples

end Host
end Viewer
end RayScene
