import RayScene.Proofs.Number.Binade
import RayScene.Proofs.Render.Steps
import RayScene.Proofs.Scene.Reshaping

namespace RayScene.Render

theorem Viewport.aspect_isPositive {v : Viewport} (area : v.isEmpty = false) :
    Scalar.isPositive (v.aspect : Single) = true := by
  have sides : v.width ≠ 0 ∧ v.height ≠ 0 := by simpa [isEmpty] using area
  have nonzero {n : UInt32} (some : n ≠ 0) : 0 < n.toNat :=
    Nat.pos_of_ne_zero fun zero => some (UInt32.toNat_inj.mp zero)
  have wide := nonzero sides.1
  have high := nonzero sides.2
  rw [aspect, Nat.max_eq_left high]
  exact Single.quotient_isPositive wide v.width.toNat_lt high v.height.toNat_lt

def Viewport.fit (v : Viewport) (camera : Camera Single) : Camera Single :=
  if v.isEmpty then camera else (camera.spec.withAspect v.aspect).camera

theorem Viewport.fit_eq {camera : Camera Single} (built : camera.Built) (v : Viewport) :
    (if v.isEmpty then .ok camera else camera.withAspect v.aspect) = .ok (v.fit camera) := by
  unfold fit
  split
  next => rfl
  next area => exact built.withAspect (aspect_isPositive (by simpa using area))

theorem Viewport.fit_built {camera : Camera Single} (built : camera.Built) (v : Viewport) :
    (v.fit camera).Built := by
  have fitted := v.fit_eq built
  split at fitted
  next =>
    rw [← Except.ok.inj fitted]
    exact built
  next => exact Camera.withAspect_built fitted

def Command.camera? {S : Type} : Command S → Option (Camera S)
  | render _ camera _ | realTime _ camera => some camera
  | cancel | resize _ => none

/-- A command whose camera, if it has one, was built. -/
def Command.Framed {S : Type} [Scalar S] (command : Command S) : Prop :=
  ∀ camera ∈ command.camera?, camera.Built

def Operation.Framed {S : Type} [Scalar S] : Operation S → Prop
  | apply command | send command => command.Framed
  | tick _ => True

namespace Engine

variable {B α β : Type}

/-- Every camera of an engine was built. -/
structure Framed (e : Engine Single B) : Prop where
  session : ∀ s, e.phase.session? = some s → s.camera.Built
  queue : ∀ command ∈ e.queue, command.Framed

def Step.Framed (step : Step Single B α) : Prop :=
  (∀ error, step.1 ≠ .error (.camera error)) ∧ Engine.Framed step.2

theorem Step.Framed.next {step : Step Single B α} {rest : α → Engine Single B → Step Single B β}
    (framed : step.Framed) (goes_on : ∀ a e, Engine.Framed e → (rest a e).Framed) :
    (step.next rest).Framed := by
  obtain ⟨answer, e⟩ := step
  obtain ⟨no_camera, after⟩ := framed
  cases answer with
  | ok a => exact goes_on a e after
  | error error =>
      refine ⟨fun camera same => no_camera camera ?_, after⟩
      injection same with same
      exact congrArg Except.error same

theorem framed_ok {a : α} {e : Engine Single B} (framed : e.Framed) :
    Step.Framed ((.ok a, e) : Step Single B α) :=
  ⟨nofun, framed⟩

theorem framed_of_idle {e : Engine Single B} (idle : e.phase = .idle)
    (queue : ∀ command ∈ e.queue, command.Framed) : e.Framed := by
  refine ⟨fun s running => ?_, queue⟩
  rw [idle] at running
  cases running

theorem new_framed (backend : B) (viewport : Viewport) (bakesCamera : Bool) (seed : UInt64) :
    (new backend viewport bakesCamera seed : Engine Single B).Framed :=
  framed_of_idle rfl (List.forall_mem_nil _)

variable {e : Engine Single B} {s : Session Single}

theorem Framed.holding {phase : Phase Single} (framed : e.Framed)
    (running : phase.session? = some s) (built : s.camera.Built) (frames : FrameTimes) :
    Framed { e with phase, frames } := by
  refine ⟨fun t held => ?_, framed.queue⟩
  obtain rfl := Option.some.inj (running.symm.trans held)
  exact built

theorem Framed.sent (framed : e.Framed) {command : Command Single} (own : command.Framed) :
    (e.send command).Framed := by
  refine ⟨framed.session, fun other member => ?_⟩
  rcases List.mem_append.mp member with before | last
  · exact framed.queue other before
  · rw [List.mem_singleton.mp last]
    exact own

variable [Backend Single B]

theorem attempt_framed (framed : e.Framed) (request : Request Single) :
    (e.attempt request).Framed := by
  unfold attempt
  split
  next => exact framed_ok ⟨framed.session, framed.queue⟩
  next => exact ⟨nofun, framed_of_idle rfl framed.queue⟩

theorem cancel_framed (framed : e.Framed) : e.cancel.Framed :=
  cancel_keeps framed (framed_of_idle rfl framed.queue)

theorem loadProgram_framed (framed : e.Framed) (s : Session Single) :
    (e.loadProgram s).Framed := by
  unfold loadProgram
  dsimp only
  split
  next => exact ⟨nofun, framed⟩
  next => exact attempt_framed framed _

theorem allocate_framed (framed : e.Framed) (s : Session Single) : (e.allocate s).Framed := by
  unfold allocate
  split
  next => exact attempt_framed framed _
  next => exact framed_ok framed

theorem begin_framed (framed : e.Framed) (built : s.camera.Built) : (e.begin s).Framed :=
  (allocate_framed framed s).next fun _ e after =>
    framed_ok (after.holding rfl built e.frames)

theorem prepare_framed (framed : e.Framed) (built : s.camera.Built) : (e.prepare s).Framed :=
  (loadProgram_framed framed s).next fun _ _ loaded => begin_framed loaded built

/-- A built camera takes the shape of every output. -/
theorem start_built (mode : SessionMode) (scene : Scene Single) {camera : Camera Single}
    (built : camera.Built) (maxSamples : UInt32) :
    e.start mode scene camera maxSamples =
      e.cancel.prepare (.new mode scene (e.cancel.viewport.fit camera) maxSamples) := by
  unfold start
  dsimp only
  rw [Viewport.fit_eq built]
  rfl

theorem start_framed (framed : e.Framed) (mode : SessionMode) (scene : Scene Single)
    {camera : Camera Single} (built : camera.Built) (maxSamples : UInt32) :
    (e.start mode scene camera maxSamples).Framed := by
  rw [start_built mode scene built]
  exact prepare_framed (cancel_framed framed) (Viewport.fit_built built _)

theorem resume_framed (framed : e.Framed) (built : s.camera.Built)
    (area : e.viewport.isEmpty = false) : (e.resume s).Framed := by
  have reshaped := built.withAspect (Viewport.aspect_isPositive area)
  obtain ⟨t, same⟩ : ∃ t : Session Single,
      t = { s with camera := (s.camera.spec.withAspect e.viewport.aspect).camera } := ⟨_, rfl⟩
  have still_built : t.restarted.camera.Built := by
    rw [Session.restarted_camera, same]
    exact Camera.withAspect_built reshaped
  rw [resume_reshaped reshaped, ← same]
  split
  next => exact prepare_framed framed still_built
  next => exact begin_framed framed still_built

theorem resize_framed (framed : e.Framed) (size : Viewport) : (e.resize size).Framed := by
  unfold resize
  split
  next => exact framed_ok framed
  next fresh =>
    have area : size.isEmpty = false := by simpa using fun empty => fresh (.inr empty)
    refine (attempt_framed framed _).next fun _ e resized => ?_
    dsimp only
    split
    next => exact framed_ok ⟨resized.session, resized.queue⟩
    next s running =>
      have stopped : Framed { e with viewport := size, phase := .idle } :=
        framed_of_idle rfl resized.queue
      exact resume_framed stopped (resized.session s running) area

theorem apply_framed (framed : e.Framed) {command : Command Single} (own : command.Framed) :
    (e.apply command).Framed := by
  cases command with
  | render scene camera maxSamples =>
      exact start_framed framed .offline scene (own camera rfl) _
  | realTime scene camera => exact start_framed framed .realTime scene (own camera rfl) 0
  | cancel => exact framed_ok (cancel_framed framed)
  | resize size => exact resize_framed framed size

theorem applyAll_framed {commands : List (Command Single)} (framed : e.Framed)
    (own : ∀ command ∈ commands, command.Framed) : (applyAll commands e).Framed := by
  induction commands generalizing e with
  | nil => exact framed_ok framed
  | cons command commands ih =>
      obtain ⟨no_camera, applied⟩ := apply_framed framed (own command List.mem_cons_self)
      obtain ⟨none_later, after⟩ := ih applied fun other member => own other (.tail _ member)
      refine ⟨fun error same => ?_, after⟩
      rw [applyAll] at same
      dsimp only at same
      cases first : (e.apply command).1 with
      | ok =>
          rw [first] at same
          exact none_later error same
      | error other =>
          rw [first] at same
          injection same with same
          exact no_camera error (first.trans (congrArg Except.error same))

theorem drawOffline_framed (framed : e.Framed) (built : s.camera.Built) :
    (e.drawOffline s).Framed := by
  obtain ⟨frame, random, next⟩ := nextFrame_keeps s.scene e
  have seeded : Framed { e with random } := ⟨framed.session, framed.queue⟩
  unfold drawOffline
  rw [next]
  refine (attempt_framed seeded _).next fun _ e traced => ?_
  refine (attempt_framed traced _).next fun _ e added => ?_
  refine (attempt_framed added _).next fun _ e shown => ?_
  have counted : { s with sampleIndex := s.sampleIndex + 1 }.camera.Built := built
  dsimp only
  split
  next => exact framed_ok (shown.holding rfl counted e.frames)
  next => exact framed_ok (shown.holding rfl counted e.frames)

theorem drawRealTime_framed (framed : e.Framed) (built : s.camera.Built) (time : Duration) :
    (e.drawRealTime s time).Framed := by
  obtain ⟨frame, random, next⟩ := nextFrame_keeps s.scene e
  have seeded : Framed { e with random } := ⟨framed.session, framed.queue⟩
  unfold drawRealTime
  rw [next]
  exact (attempt_framed seeded _).next fun _ _ drawn => framed_ok (drawn.holding rfl built _)

theorem draw_framed (framed : e.Framed) (time : Duration) : (e.draw time).Framed := by
  rcases draw_cases time e with ⟨-, drawn⟩ | ⟨s, active, -, drawn⟩ | ⟨s, active, -, drawn⟩
  · rw [drawn]
    exact framed_ok framed
  · have built : (s.reached time).camera.Built := framed.session s (by rw [active]; rfl)
    rw [drawn]
    exact drawOffline_framed framed built
  · have built : (s.reached time).camera.Built := framed.session s (by rw [active]; rfl)
    rw [drawn]
    exact drawRealTime_framed framed built time

theorem tick_framed (framed : e.Framed) (t : FrameTick) : (e.tick t).Framed := by
  have emptied : Framed { e with queue := [] } := ⟨framed.session, List.forall_mem_nil _⟩
  exact (applyAll_framed emptied framed.queue).next fun _ _ applied => draw_framed applied t.time

theorem operate_framed (framed : e.Framed) {operation : Operation Single}
    (own : operation.Framed) : (e.operate operation).Framed := by
  cases operation with
  | apply command => exact (apply_framed framed own).2
  | send command => exact framed.sent own
  | tick t => exact (tick_framed framed t).2

theorem run_framed {operations : List (Operation Single)} (framed : e.Framed)
    (own : ∀ operation ∈ operations, operation.Framed) : (e.run operations).Framed := by
  induction operations generalizing e with
  | nil => exact framed
  | cons operation operations ih =>
      exact ih (operate_framed framed (own operation List.mem_cons_self))
        fun other member => own other (.tail _ member)

end Engine
end RayScene.Render
