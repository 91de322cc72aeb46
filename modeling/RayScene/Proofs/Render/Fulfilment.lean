import RayScene.Proofs.Render.Served
import RayScene.Proofs.Shader.Planning

namespace RayScene

open Shader

def Scene.Shallow {S : Type} (scene : Scene S) : Prop :=
  ∀ o ∈ scene.objects, o.shape.toSdf.depth ≤ Sdf.maxDepth

namespace Render

variable {B : Type}

def Command.scene? {S : Type} : Command S → Option (Scene S)
  | render scene .. | realTime scene _ => some scene
  | cancel | resize _ => none

/-- A command that no check of an engine stands against: its camera, if it has one, was built, and
its scene has a shader. -/
structure Command.Sound (command : Command Single) : Prop where
  framed : command.Framed
  shallow : ∀ scene ∈ command.scene?, scene.Shallow

theorem Command.sound_of_bare {command : Command Single} (cameraless : command.camera? = none)
    (sceneless : command.scene? = none) : command.Sound where
  framed camera own := by
    rw [cameraless] at own
    cases own
  shallow scene own := by
    rw [sceneless] at own
    cases own

theorem Command.Sound.of_wish {command : Command Single} (sound : command.Sound)
    {s : Session Single} (wish : command.wish? = some s) : s.camera.Built ∧ s.scene.Shallow := by
  refine ⟨sound.framed.wish? wish, ?_⟩
  cases command with
  | render scene camera maxSamples =>
      obtain rfl := Option.some.inj wish
      exact sound.shallow scene rfl
  | realTime scene camera =>
      obtain rfl := Option.some.inj wish
      exact sound.shallow scene rfl
  | cancel => cases wish
  | resize size => cases wish

def Command.goal? {S : Type} (commands : List (Command S)) : Option (Session S) :=
  (Command.lastSession? commands).bind Command.wish?

theorem Command.goal?_session {S : Type} (commands : List (Command S)) {command : Command S}
    (session : command.isSession = true) :
    Command.goal? (commands ++ [command]) = command.wish? := by
  rw [goal?, lastSession?_concat, if_pos session, Option.bind_some]

theorem Command.goal?_resize {S : Type} (commands : List (Command S)) (size : Viewport) :
    Command.goal? (commands ++ [.resize size]) = Command.goal? commands := by
  rw [goal?, lastSession?_concat]
  rfl

theorem Command.goal?_eq_none_iff {S : Type} {commands : List (Command S)} :
    Command.goal? commands = none ↔
      Command.lastSession? commands = none ∨ Command.lastSession? commands = some .cancel := by
  rw [goal?]
  cases last : Command.lastSession? commands with
  | none => simp
  | some command =>
      cases command with
      | resize size => cases Command.lastSession?_session last
      | render | realTime | cancel => simp [wish?]

theorem Command.goal?_sound {commands : List (Command Single)}
    (sound : ∀ command ∈ commands, command.Sound) {s : Session Single}
    (goal : Command.goal? commands = some s) : s.camera.Built ∧ s.scene.Shallow := by
  obtain ⟨command, last, wish⟩ := Option.bind_eq_some_iff.mp goal
  have member : command ∈ commands := List.mem_of_mem_filter (List.mem_of_getLast? last)
  exact (sound command member).of_wish wish

/-- A session that has been asked for in a shape is the same but for its camera and its progress. -/
theorem Session.fresh_eq_fitted {s goal : Session Single} {size : Viewport}
    (running : s.fresh = goal.fitted size) :
    s.mode = goal.mode ∧ s.scene = goal.scene ∧ s.camera = size.fit goal.camera ∧
      s.maxSamples = goal.maxSamples := by
  have parts {α : Type} (part : Session Single → α) : part s.fresh = part (goal.fitted size) :=
    congrArg part running
  exact ⟨parts mode, parts scene, parts camera, parts maxSamples⟩

namespace Engine

variable {good : B → Prop} {e : Engine Single B} {origin : Viewport}
  {commands : List (Command Single)}

structure Fulfils (good : B → Prop) (origin : Viewport) (commands : List (Command Single))
    (e : Engine Single B) : Prop where
  ready : good e.backend
  viewport : e.viewport = (Command.lastSize? commands).getD origin
  session : e.phase.session?.map Session.fresh =
    (Command.goal? commands).map (Session.fitted e.viewport)

theorem new_fulfils {backend : B} (ready : good backend) (viewport : Viewport) (bakesCamera : Bool)
    (seed : UInt64) : Fulfils good viewport [] (new backend viewport bakesCamera seed) :=
  ⟨ready, rfl, rfl⟩

theorem Fulfils.mode_eq_none_iff (fulfils : Fulfils good origin commands e) :
    e.mode = none ↔
      Command.lastSession? commands = none ∨ Command.lastSession? commands = some .cancel := by
  have idle : e.phase.session? = none ↔ Command.goal? commands = none := by
    rw [← Option.map_eq_none_iff (f := Session.fresh), fulfils.session, Option.map_eq_none_iff]
  rw [mode, Option.map_eq_none_iff, idle, Command.goal?_eq_none_iff]

theorem Fulfils.running (fulfils : Fulfils good origin commands e) {command : Command Single}
    (sent : Command.lastSession? commands = some command) {goal : Session Single}
    (wish : command.wish? = some goal) :
    ∃ s, e.phase.session? = some s ∧ s.mode = goal.mode ∧ s.scene = goal.scene ∧
      s.camera = e.viewport.fit goal.camera ∧ s.maxSamples = goal.maxSamples := by
  have wanted : Command.goal? commands = some goal := by
    rw [Command.goal?, sent]
    exact wish
  have session := fulfils.session
  rw [wanted] at session
  obtain ⟨s, held, fresh⟩ := Option.map_eq_some_iff.mp session
  exact ⟨s, held, Session.fresh_eq_fitted fresh⟩

theorem Fulfils.requeued (fulfils : Fulfils good origin commands e)
    (queue : List (Command Single)) : Fulfils good origin commands { e with queue } :=
  ⟨fulfils.ready, fulfils.viewport, fulfils.session⟩

theorem planned_of_shallow {s : Session Single} (shallow : s.scene.Shallow)
    (e : Engine Single B) : ∃ p, plan s.scene.objects (e.shaderOptions s) = .ok p := by
  have sampled : (e.shaderOptions s).numSamples ≠ 0 := (by decide : (1 : UInt32) ≠ 0)
  exact plan_succeeds sampled shallow

/-- Where a command leads in which only the backend and the phase count. -/
theorem fulfils_of_phase {done : List (Command Single)} {f : Engine Single B}
    (ready : good f.backend) (viewport : f.viewport = (Command.lastSize? done).getD origin)
    {s : Session Single} (goal : Command.goal? done = some s) {running : Session Single}
    (active : f.phase = .active running) (same : running.fresh = s.fitted f.viewport) :
    Fulfils good origin done f := by
  refine ⟨ready, viewport, ?_⟩
  rw [active, goal]
  exact congrArg some same

variable [Backend Single B]

/-- A session starts in the shape of the output if its scene has a shader. -/
theorem start_ok (willing : Willing Single good) (ready : good e.backend) (mode : SessionMode)
    {scene : Scene Single} {camera : Camera Single} (built : camera.Built)
    (shallow : scene.Shallow) (maxSamples : UInt32) :
    (e.start mode scene camera maxSamples).Gives fun _ f =>
      f.phase = .active (.new mode scene (e.viewport.fit camera) maxSamples) := by
  have cancelled := (ready_frame willing).cancel ready
  have still : e.cancel.viewport = e.viewport :=
    (field_frame (·.viewport) e.viewport fun _ _ _ _ => rfl).cancel rfl
  rw [start_built mode scene built, still]
  obtain ⟨p, planned⟩ := planned_of_shallow
    (s := .new mode scene (e.viewport.fit camera) maxSamples) shallow e.cancel
  exact prepare_ok willing cancelled planned

/-- A session command is carried out, whatever was done before. -/
theorem start_fulfils (willing : Willing Single good) (fulfils : Fulfils good origin commands e)
    {command : Command Single} (session : command.isSession = true) (mode : SessionMode)
    {scene : Scene Single} {camera : Camera Single} {maxSamples : UInt32}
    (built : camera.Built) (shallow : scene.Shallow)
    (wish : command.wish? = some (.new mode scene camera maxSamples)) :
    (e.start mode scene camera maxSamples).Gives fun _ =>
      Fulfils good origin (commands ++ [command]) := by
  have unsized := Command.size?_session session
  have kept := (ready_frame willing).start fulfils.ready mode scene camera maxSamples
  have sized := (field_frame (B := B) (·.viewport) e.viewport fun _ _ _ _ => rfl).start rfl mode
    scene camera maxSamples
  have started := start_ok willing fulfils.ready mode built shallow maxSamples
  refine ((started.both kept).both sized).imp ?_ fun _ none => none
  rintro _ f ⟨⟨active, ready⟩, viewport⟩
  refine fulfils_of_phase ready ?_ ((Command.goal?_session commands session).trans wish) active ?_
  · rw [Command.lastSize?_concat, unsized, Option.none_or, viewport]
    exact fulfils.viewport
  · rw [Session.fresh_new, viewport]
    rfl

theorem cancel_fulfils (willing : Willing Single good) (fulfils : Fulfils good origin commands e) :
    Fulfils good origin (commands ++ [.cancel]) e.cancel := by
  have ready := (ready_frame willing).cancel fulfils.ready
  have viewport := (field_frame (·.viewport) e.viewport fun _ _ _ _ => rfl).cancel rfl
  refine ⟨ready, ?_, ?_⟩
  · rw [Command.lastSize?_concat]
    exact viewport.trans fulfils.viewport
  · rw [cancel_idle, Command.goal?_session commands rfl]
    rfl

theorem resume_ok (willing : Willing Single good) (ready : good e.backend)
    {s goal : Session Single} {before : Viewport} (running : s.fresh = goal.fitted before)
    (built : goal.camera.Built) (shallow : goal.scene.Shallow)
    (area : e.viewport.isEmpty = false) :
    (e.resume s).Gives fun _ f =>
      ∃ t, f.phase = .active t ∧ t.fresh = goal.fitted e.viewport := by
  obtain ⟨-, scene, camera, -⟩ := Session.fresh_eq_fitted running
  have reshaped : s.camera.withAspect e.viewport.aspect = .ok (e.viewport.fit goal.camera) := by
    rw [camera]
    exact Viewport.fit_withAspect built before area
  obtain ⟨t, same⟩ : ∃ t : Session Single,
      t = { s with camera := e.viewport.fit goal.camera }.restarted := ⟨_, rfl⟩
  have fresh : t.fresh = goal.fitted e.viewport := by
    calc t.fresh = { s.fresh with camera := e.viewport.fit goal.camera } := by
          rw [same, Session.fresh_restarted]
          rfl
      _ = { goal.fitted before with camera := e.viewport.fit goal.camera } := by rw [running]
      _ = goal.fitted e.viewport := rfl
  have plannable : t.scene.Shallow := by
    rw [same, Session.restarted_scene, scene]
    exact shallow
  obtain ⟨p, planned⟩ := planned_of_shallow plannable e
  rw [resume_reshaped reshaped, ← same]
  split
  next =>
    exact (prepare_ok willing ready planned).imp (fun _ _ active => ⟨t, active, fresh⟩) fun _ h => h
  next => exact (begin_ok willing ready t).imp (fun _ _ active => ⟨t, active, fresh⟩) fun _ h => h

theorem resize_fulfils (willing : Willing Single good) (fulfils : Fulfils good origin commands e)
    (sound : ∀ command ∈ commands, command.Sound) (size : Viewport) :
    (e.resize size).Gives fun _ => Fulfils good origin (commands ++ [.resize size]) := by
  have goal := Command.goal?_resize commands size
  have last := Command.lastSize?_concat commands (.resize size)
  unfold resize
  split
  next ignored =>
    refine ⟨fulfils.ready, ?_, ?_⟩
    · rw [last, Command.size?]
      split
      next => exact fulfils.viewport
      next area =>
        rcases ignored with same | empty
        · exact same.symm
        · exact absurd empty area
    · rw [goal]
      exact fulfils.session
  next changes =>
    have area : size.isEmpty = false := by simpa using fun empty => changes (.inr empty)
    rw [Command.size?, area] at last
    obtain ⟨backend, -, ready, served⟩ := attempt_ok willing fulfils.ready (.resize size)
    rw [served]
    dsimp only [Step.next]
    have session := fulfils.session
    split
    next ended =>
      refine ⟨ready, ?_, ?_⟩
      · rw [last]
        rfl
      · have none : Command.goal? commands = none := by
          rw [ended] at session
          exact Option.map_eq_none_iff.mp session.symm
        rw [goal, none]
        exact congrArg _ ended
    -- What runs starts again from an idle engine that has the new size already.
    next s running =>
      rw [running] at session
      obtain ⟨wanted, was, fitted⟩ := Option.map_eq_some_iff.mp session.symm
      obtain ⟨built, shallow⟩ := Command.goal?_sound sound was
      have kept := (ready_frame willing).resume
        (e := { e with backend, viewport := size, phase := .idle }) ready s
      have sized := (field_frame (B := B) (·.viewport) size fun _ _ _ _ => rfl).resume
        (e := { e with backend, viewport := size, phase := .idle }) rfl s
      have resumed := resume_ok
        (e := { e with backend, viewport := size, phase := .idle }) willing ready fitted.symm built
        shallow area
      refine ((resumed.both kept).both sized).imp ?_ fun _ none => none
      rintro _ f ⟨⟨⟨t, active, fresh⟩, ready⟩, viewport⟩
      refine fulfils_of_phase ready ?_ (goal.trans was) active ?_
      · rw [last]
        exact viewport
      · rw [viewport]
        exact fresh

theorem apply_fulfils (willing : Willing Single good) (fulfils : Fulfils good origin commands e)
    (sound : ∀ command ∈ commands, command.Sound) {command : Command Single}
    (own : command.Sound) :
    (e.apply command).Gives fun _ => Fulfils good origin (commands ++ [command]) := by
  cases command with
  | render scene camera maxSamples =>
      exact start_fulfils willing fulfils rfl .offline (own.framed camera rfl)
        (own.shallow scene rfl) rfl
  | realTime scene camera =>
      exact start_fulfils willing fulfils rfl .realTime (own.framed camera rfl)
        (own.shallow scene rfl) rfl
  | cancel => exact cancel_fulfils willing fulfils
  | resize size => exact resize_fulfils willing fulfils sound size

theorem applyAll_fulfils (willing : Willing Single good) (fulfils : Fulfils good origin commands e)
    {queue : List (Command Single)} (sound : ∀ command ∈ commands ++ queue, command.Sound) :
    (applyAll queue e).Gives fun _ => Fulfils good origin (commands ++ queue) := by
  induction queue generalizing commands e with
  | nil =>
      rw [List.append_nil]
      exact fulfils
  | cons command queue ih =>
      rw [List.append_cons] at sound ⊢
      obtain ⟨before, _⟩ := List.forall_mem_append.mp sound
      obtain ⟨earlier, own⟩ := List.forall_mem_append.mp before
      obtain ⟨_, f, applied, after⟩ :=
        (apply_fulfils willing fulfils earlier (own command List.mem_cons_self)).after
      obtain ⟨_, g, finished, last⟩ := (ih after sound).after
      have both : applyAll (command :: queue) e = (.ok (), g) := by
        rw [applyAll, applied]
        dsimp only
        rw [finished]
        rfl
      rw [both]
      exact last

theorem tick_fulfils (willing : Willing Single good) (fulfils : Fulfils good origin commands e)
    (sound : ∀ command ∈ commands ++ e.queue, command.Sound) (t : FrameTick) :
    (e.tick t).Gives fun _ f => Fulfils good origin (commands ++ e.queue) f ∧ f.queue = [] := by
  have emptied : (applyAll e.queue { e with queue := [] }).Keeps (·.queue = []) :=
    .of_after (applyAll_queue e.queue { e with queue := [] })
  refine ((applyAll_fulfils willing (fulfils.requeued []) sound).both emptied).next ?_
  rintro _ f ⟨applied, empty⟩
  refine (draw_session willing applied.ready t.time).imp ?_ fun _ none => none
  rintro _ g ⟨ready, viewport, queue, session⟩
  refine ⟨⟨ready, viewport.trans applied.viewport, ?_⟩, queue.trans empty⟩
  rw [session, viewport]
  exact applied.session

end Engine
end Render
end RayScene
