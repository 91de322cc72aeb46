import RayScene.Proofs.Render.History

namespace RayScene.Render

open Shader

variable {S B : Type}

def Request.isSetup : Request S → Bool
  | load _ | allocate _ | resize _ => true
  | drawSample _ | accumulate | present _ | drawDirect _ => false

namespace Engine

section Leads

variable {α β : Type} {good better : α → Engine S B → Prop} {bad worse P Q : Engine S B → Prop}
  {step : Step S B α}

abbrev Step.Gives {α : Type} (good : α → Engine S B → Prop) (step : Step S B α) : Prop :=
  step.Leads good fun _ => False

theorem Step.Leads.imp (leads : step.Leads good bad) (of_good : ∀ a e, good a e → better a e)
    (of_bad : ∀ e, bad e → worse e) : step.Leads better worse := by
  obtain ⟨answer, e⟩ := step
  cases answer with
  | ok a => exact of_good a e leads
  | error _ => exact of_bad e leads

theorem Step.Leads.next {further : β → Engine S B → Prop} {rest : α → Engine S B → Step S B β}
    (leads : step.Leads good bad) (goes_on : ∀ a e, good a e → (rest a e).Leads further bad) :
    (step.next rest).Leads further bad := by
  obtain ⟨answer, e⟩ := step
  cases answer with
  | ok a => exact goes_on a e leads
  | error _ => exact leads

theorem Step.Keeps.next {rest : α → Engine S B → Step S B β} (keeps : step.Keeps P)
    (goes_on : ∀ a e, P e → (rest a e).Keeps P) : (step.next rest).Keeps P :=
  Step.Leads.next keeps goes_on

theorem Step.Keeps.imp (keeps : step.Keeps P) (stronger : ∀ e, P e → Q e) : step.Keeps Q :=
  Step.Leads.imp keeps (fun _ => stronger) stronger

/-- Two things that are true of where a step leads. -/
theorem Step.Leads.both (leads : step.Leads good bad) (keeps : step.Keeps P) :
    step.Leads (fun a e => good a e ∧ P e) bad := by
  obtain ⟨answer, e⟩ := step
  cases answer with
  | ok a => exact ⟨leads, keeps⟩
  | error _ => exact leads

theorem Step.Gives.after (gives : step.Gives good) : ∃ a e, step = (.ok a, e) ∧ good a e := by
  obtain ⟨answer, e⟩ := step
  cases answer with
  | ok a => exact ⟨a, e, rfl, gives⟩
  | error _ => exact gives.elim

theorem Step.Keeps.of_after (kept : P step.2) : step.Keeps P := by
  obtain ⟨answer, e⟩ := step
  cases answer <;> exact kept

end Leads

section Sessions

variable [Backend S B] {P : Engine S B → Prop} {e : Engine S B}

theorem cancel_keeps (start : P e) (ended : P e.endSession) : P e.cancel := by
  unfold cancel
  split
  next => exact start
  next => exact ended
  next => exact ended

theorem cancel_idle (e : Engine S B) : e.cancel.phase = .idle := by
  unfold cancel
  split
  next idle => exact idle
  next => rfl
  next => rfl

def begin (s : Session S) (e : Engine S B) : Step S B Unit :=
  (e.allocate s).next fun _ e => (.ok (), { e with phase := .active s })

variable [Scalar S]

def prepare (s : Session S) (e : Engine S B) : Step S B Unit :=
  (e.loadProgram s).next fun _ e => e.begin s

theorem prepare_error {s : Session S} {error : ShaderError}
    (unplanned : plan s.scene.objects (e.shaderOptions s) = .error error) :
    e.prepare s = (.error (.shader error), e) := by
  simp only [prepare, loadProgram, unplanned, Step.next]

/-- A start fails over its camera, or it prepares a session in place of the one before. -/
theorem start_cases (mode : SessionMode) (scene : Scene S) (camera : Camera S)
    (maxSamples : UInt32) (e : Engine S B) :
    (∃ error, e.start mode scene camera maxSamples = (.error (.camera error), e.cancel)) ∨
      ∃ other, e.start mode scene camera maxSamples =
        e.cancel.prepare (.new mode scene other maxSamples) := by
  unfold start
  dsimp only
  split
  next error _ => exact .inl ⟨error, rfl⟩
  next other _ => exact .inr ⟨other, rfl⟩

/-- A session that goes on in another shape needs another program only if the camera is in it. -/
theorem resume_reshaped {s : Session S} {camera : Camera S}
    (reshaped : s.camera.withAspect e.viewport.aspect = .ok camera) :
    e.resume s = if e.bakesCamera then e.prepare { s with camera }.restarted
      else e.begin { s with camera }.restarted := by
  unfold resume
  rw [reshaped]
  dsimp only
  split <;> rfl

theorem resume_cases (s : Session S) (e : Engine S B) :
    (∃ error, e.resume s = (.error (.camera error), e.endSession)) ∨
      ∃ camera, e.resume s = if e.bakesCamera then e.prepare { s with camera }.restarted
        else e.begin { s with camera }.restarted := by
  cases reshaped : s.camera.withAspect e.viewport.aspect with
  | error error => exact .inl ⟨error, by rw [resume, reshaped]⟩
  | ok camera => exact .inr ⟨camera, resume_reshaped reshaped⟩

end Sessions

section Frames

variable [Backend S B] {P : Engine S B → Prop} {e : Engine S B}

structure Frame (P : Engine S B → Prop) : Prop where
  setup : ∀ e (request : Request S), request.isSetup = true → P e → (e.attempt request).Keeps P
  ended : ∀ e, P e → P e.endSession
  phase : ∀ e phase, P e → P { e with phase }

/-- A field that no request and no end of a session touches. -/
theorem field_frame {α : Type} (field : Engine S B → α) (value : α)
    (same : ∀ (e : Engine S B) backend phase frames,
      field { e with backend, phase, frames } = field e) :
    Frame fun e : Engine S B => field e = value where
  setup e request _ kept := by
    unfold attempt
    split
    next backend _ => exact (same e backend e.phase e.frames).trans kept
    next backend _ => exact (same e _ .idle .empty).trans kept
  ended e kept := (same e _ .idle .empty).trans kept
  phase e phase kept := (same e e.backend phase e.frames).trans kept

theorem queue_frame (queue : List (Command S)) :
    Frame fun e : Engine S B => e.queue = queue :=
  field_frame (·.queue) queue fun _ _ _ _ => rfl

theorem Frame.cancel (frame : Frame P) (start : P e) : P e.cancel :=
  cancel_keeps start (frame.ended e start)

theorem Frame.begin (frame : Frame P) (start : P e) (s : Session S) : (e.begin s).Keeps P := by
  have allocated : (e.allocate s).Keeps P := by
    unfold allocate
    split
    next => exact frame.setup e _ rfl start
    next => exact start
  exact allocated.next fun _ e kept => frame.phase e _ kept

variable [Scalar S]

theorem Frame.prepare (frame : Frame P) (start : P e) (s : Session S) :
    (e.prepare s).Keeps P := by
  have loaded : (e.loadProgram s).Keeps P := by
    unfold loadProgram
    dsimp only
    split
    next => exact start
    next => exact frame.setup e _ rfl start
  exact loaded.next fun _ _ kept => frame.begin kept s

theorem Frame.start (frame : Frame P) (start : P e) (mode : SessionMode) (scene : Scene S)
    (camera : Camera S) (maxSamples : UInt32) :
    (e.start mode scene camera maxSamples).Keeps P := by
  have cancelled := frame.cancel start
  rcases start_cases mode scene camera maxSamples e with ⟨error, failed⟩ | ⟨other, started⟩
  · rw [failed]
    exact cancelled
  · rw [started]
    exact frame.prepare cancelled _

theorem Frame.resume (frame : Frame P) (start : P e) (s : Session S) : (e.resume s).Keeps P := by
  rcases resume_cases s e with ⟨error, failed⟩ | ⟨camera, resumed⟩
  · rw [failed]
    exact frame.ended e start
  · rw [resumed]
    split
    next => exact frame.prepare start _
    next => exact frame.begin start _

theorem Frame.apply (frame : Frame P)
    (resized : ∀ e viewport, P e → P { e with viewport }) (start : P e) (command : Command S) :
    (e.apply command).Keeps P := by
  cases command with
  | render scene camera maxSamples => exact frame.start start .offline scene camera _
  | realTime scene camera => exact frame.start start .realTime scene camera 0
  | cancel => exact frame.cancel start
  | resize size =>
      unfold Engine.apply Engine.resize
      dsimp only
      split
      next => exact start
      next =>
        refine Step.Keeps.next (frame.setup e _ rfl start) fun _ e kept => ?_
        split
        next => exact resized e size kept
        next => exact frame.resume (frame.phase _ _ (resized e size kept)) _

theorem apply_queue (command : Command S) (e : Engine S B) :
    (e.apply command).2.queue = e.queue :=
  ((queue_frame e.queue).apply (fun _ _ same => same) rfl command).after

theorem applyAll_queue (commands : List (Command S)) (e : Engine S B) :
    (applyAll commands e).2.queue = e.queue :=
  applyAll_keeps (P := fun f => f.queue = e.queue)
    (fun command f same => (apply_queue command f).trans same) commands rfl

end Frames

end Engine
end RayScene.Render
