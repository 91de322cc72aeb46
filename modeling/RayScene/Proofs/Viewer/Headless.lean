import RayScene.Proofs.Render.Convergence
import RayScene.Proofs.Viewer.Host

/-!
Runs without a screen. A viewer knows how many ticks its session takes, and the engine that it asks
for the session takes that many.
-/

namespace RayScene.Viewer

open Render

variable {B : Type} [Backend Single B] {good : B → Prop}

theorem headlessFrames_pos (v : Viewer) : 0 < v.headlessFrames := lt_max_of_lt_right Nat.one_pos

theorem session_carried {e f g : Engine Single (History Single B)} (command : Command Single)
    (waiting : Engine.applyAll e.queue { e with queue := [] } = (.ok (), f))
    (started : f.apply command = (.ok (), g)) (clock : Clock) (v : Viewer) :
    (e.receive [.engine command]).runHeadless clock v.headlessFrames =
      Engine.runFrom clock 0 v.headlessFrames g :=
  Engine.runHeadless_carried (e := e.receive [.engine command])
    (Engine.applyAll_carried waiting started) clock v.headlessFrames_pos

/-- The frames of a viewer are exactly those that its session takes. An offline session has then
converged, with one sample in each tick; a real-time session could go on. -/
theorem headless_run_completes (willing : Willing Single good) (viewport : Viewport)
    (actions : List Action) {scene : Scene Single}
    (loaded : ((new viewport).run actions).scene = some scene) (clock : Clock)
    {e : Engine Single (History Single B)} (ready : good e.backend.inner)
    (waiting : (Engine.applyAll e.queue { e with queue := [] }).1 = .ok ()) :
    let v := (new viewport).run actions
    (∃ s f,
      (e.receive (v.apply .render).2).runHeadless clock (v.apply .render).1.headlessFrames =
        (.ok v.headlessFrames, f) ∧
      f.phase = .converged s ∧ s.sampleIndex = s.maxSamples ∧
      s.maxSamples.toNat = v.headlessFrames ∧
      (∀ name ∈ Engine.sampleRequests, f.requests name = e.requests name + v.headlessFrames) ∧
      ∀ t, f.tick t = (.ok .stop, f)) ∧
    (∃ s f,
      (e.receive (v.apply .realTime).2).runHeadless clock (v.apply .realTime).1.headlessFrames =
        (.ok v.headlessFrames, f) ∧
      f.phase = .active s ∧ s.mode = .realTime ∧
      ∀ name ∈ Engine.frameRequests, f.requests name = e.requests name + v.headlessFrames) ∧
    ∀ (g : Engine Single (History Single B)) scene camera maxSamples, good g.backend.inner →
      g.queue = [] → (g.render scene camera maxSamples).1 = .ok () →
      ∀ (earlier : List FrameTick) t,
      (((g.render scene camera maxSamples).2.run (earlier.map .tick)).tick t).1 =
        .ok (if earlier.length + 1 < max maxSamples.toNat 1 then .again else .stop) := by
  intro v
  obtain ⟨f, carried⟩ : ∃ f, Engine.applyAll e.queue { e with queue := [] } = (.ok (), f) :=
    ⟨_, Prod.ext waiting rfl⟩
  -- The commands that wait are carried out by the first tick and ask for no frame of their own.
  obtain ⟨prepared, quiet, asked⟩ := Engine.applyAll_quiet willing ready carried
  obtain ⟨camera, built⟩ := run_drawable (new_drawable viewport) actions scene loaded
  have shallow : scene.Shallow := run_presentable (fun _ none => by cases none) actions scene loaded
  have framed : camera.Built := ⟨_, built⟩
  refine ⟨?_, ?_, fun g scene camera maxSamples ready quiet started earlier t => ?_⟩
  · obtain ⟨⟨⟩, g, started, -⟩ := (Engine.start_ok (e := f) willing.observed prepared .offline
      framed shallow (max v.currentMaxSamples 1)).after
    have sampled := Engine.render_sampled willing prepared quiet started
    obtain ⟨h, ran, all⟩ := sampled.completed willing v.headlessFrames_pos clock 0
    rw [Nat.zero_add, Nat.sub_zero] at ran
    obtain ⟨s, converged, samples, most⟩ := all.converged
    have requested : (v.apply .render).2 = [.engine (.render scene camera v.currentMaxSamples)] :=
      session_of_camera loaded built
    refine ⟨s, h, ?_, converged, samples, most, fun name member => ?_, all.stopped⟩
    · rw [requested, session_carried (.render scene camera v.currentMaxSamples) carried started]
      exact ran
    · rw [all.asked name member, asked name (List.mem_append_left _ member)]
      rfl
  · obtain ⟨⟨⟩, g, started, -⟩ := (Engine.start_ok (e := f) willing.observed prepared .realTime
      framed shallow 0).after
    have streamed := Engine.realTime_streamed willing prepared quiet started
    obtain ⟨h, ran, all⟩ := streamed.completed willing clock 0 v.headlessFrames
    obtain ⟨s, live, active⟩ := all.session
    have requested : (v.apply .realTime).2 = [.engine (.realTime scene camera)] :=
      session_of_camera loaded built
    rw [Nat.zero_add] at ran all
    refine ⟨s, h, ?_, active, live, fun name member => ?_⟩
    · rw [requested, session_carried (.realTime scene camera) carried started]
      exact ran
    · rw [all.asked name member, asked name (List.mem_append_right _ member)]
  · exact Engine.render_answers willing ready quiet started earlier t

def marchedActions : List Action := [.sourceLoaded marchedText, .compile]

def busyEngine : Engine Single (History Single (Recorder Single)) :=
  (((Engine.new ⟨.new, []⟩ ⟨4, 3⟩ true 7 : Engine Single (History Single (Recorder Single))).run
    [.apply (.render (.ofObjects []) Engine.standardCamera 1), .tick ⟨.zero, 0⟩]).send
      (.resize ⟨8, 6⟩)).send .cancel

theorem marched_completes :
    let clock := Clock.fixed .zero
    let e := busyEngine
    let g : Engine Single (History Single (Recorder Single)) := .new ⟨.new, []⟩ ⟨0, 3⟩ false 7
    let v := (new ⟨4, 3⟩).run marchedActions
    (∃ f, (e.receive (v.apply .render).2).runHeadless clock (v.apply .render).1.headlessFrames =
      (.ok 2, f) ∧ ∀ name ∈ Engine.sampleRequests, f.requests name = 3) ∧
    (∃ f, (e.receive (v.apply .realTime).2).runHeadless clock
      (v.apply .realTime).1.headlessFrames = (.ok 2, f) ∧
        ∀ name ∈ Engine.frameRequests, f.requests name = 2) ∧
    (g.render (.ofObjects []) Engine.standardCamera 3).1 = .ok () ∧
      (((g.render (.ofObjects []) Engine.standardCamera 3).2.run
        [.tick ⟨.zero, 0⟩]).tick ⟨.zero, 1⟩).1 = .ok .again := by
  intro clock e g v
  obtain ⟨scene, loaded⟩ : ∃ scene, v.scene = some scene :=
    Option.isSome_iff_exists.mp (by decide +kernel)
  have frames : v.headlessFrames = 2 := by decide +kernel
  have ready : e.backend.inner.refusals = [] ∧ e.backend.inner.maxExtent = none := by decide +kernel
  have asked : ∀ name ∈ Engine.sampleRequests ++ Engine.frameRequests,
      e.requests name = if name = "draw_direct" then 0 else 1 := by decide +kernel
  have waiting : (Engine.applyAll e.queue { e with queue := [] }).1 = .ok () := by
    have fine : (Engine.applyAll e.queue { e with queue := [] }).1.toOption = some () := by
      decide +kernel
    cases outcome : (Engine.applyAll e.queue { e with queue := [] }).1 with
    | ok => rfl
    | error _ => rw [outcome] at fine; cases fine
  obtain ⟨⟨s, f, ran, -, -, -, drawn, -⟩, ⟨s', f', live, -, -, streamed⟩, answers⟩ :=
    headless_run_completes Engine.recorder_willing ⟨4, 3⟩ marchedActions loaded clock ready waiting
  have empty : (Scene.ofObjects [] : Scene Single).Shallow := fun _ none => by cases none
  have started : (g.render (.ofObjects []) Engine.standardCamera 3).1 = .ok () := by
    obtain ⟨⟨⟩, h, started, -⟩ := (Engine.start_ok (e := g) Engine.recorder_willing.observed
      ⟨rfl, rfl⟩ .offline Engine.standardCamera_built empty 3).after
    exact congrArg Prod.fst started
  rw [frames] at ran drawn live streamed
  refine ⟨⟨f, ran, fun name member => ?_⟩, ⟨f', live, fun name member => ?_⟩, started, ?_⟩
  · rw [drawn name member, asked name (List.mem_append_left _ member)]
    revert name
    decide
  · rw [streamed name member, asked name (List.mem_append_right _ member)]
    revert name
    decide
  · exact answers g _ _ 3 ⟨rfl, rfl⟩ rfl started [⟨.zero, 0⟩] ⟨.zero, 1⟩

/-- An engine still reports what is wrong with a command that has waited for the same tick. -/
theorem tower_waits :
    let e := (Engine.new ⟨.new, []⟩ ⟨4, 3⟩ true 7 :
      Engine Single (History Single (Recorder Single))).send
        (.render Engine.towerScene Engine.standardCamera 1)
    let v := (new ⟨4, 3⟩).run marchedActions
    (e.backend.inner.refusals = [] ∧ e.backend.inner.maxExtent = none) ∧ v.scene.isSome = true ∧
      ((e.receive (v.apply .render).2).runHeadless (.fixed .zero) v.headlessFrames).1.toOption =
        none := by
  decide +kernel

end RayScene.Viewer
