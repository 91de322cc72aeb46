import RayScene.Proofs.Render.Collapse

namespace RayScene.Render

open Shader

variable {S B : Type}

def Served [Backend S B] : List (Request S) → B → B → Prop
  | [], before, after => after = before
  | request :: requests, before, after =>
    ∃ next, Backend.perform request before = (.ok (), next) ∧ Served requests next after

theorem Served.events [Backend S B] {requests : List (Request S)} {before after : History S B}
    (served : Served requests before after) :
    after.events = before.events ++ requests.map .served := by
  induction requests generalizing before with
  | nil =>
      obtain rfl := served
      exact (List.append_nil _).symm
  | cons request requests ih =>
      obtain ⟨next, one, others⟩ := served
      have noted : next.events = before.events ++ [.served request] := by
        simp only [Backend.perform] at one
        split at one
        next => rw [← (Prod.mk.inj one).2]
        next => cases (Prod.mk.inj one).1
      rw [ih others, noted, List.append_assoc]
      rfl

theorem Willing.observed [Backend S B] {good : B → Prop} (willing : Willing S good) :
    Willing S fun h : History S B => good h.inner where
  serves h ready request := by
    obtain ⟨inner, served, after⟩ := willing.serves h.inner ready request
    refine ⟨⟨inner, h.events ++ [.served request]⟩, ?_, after⟩
    simp only [Backend.perform, served]
  releases h ready := willing.releases h.inner ready

def Session.fresh (s : Session S) : Session S := .new s.mode s.scene s.camera s.maxSamples

theorem Session.fresh_new (mode : SessionMode) (scene : Scene S) (camera : Camera S)
    (maxSamples : UInt32) :
    (Session.new mode scene camera maxSamples).fresh = .new mode scene camera maxSamples := rfl

theorem Session.fresh_restarted (s : Session S) : s.restarted.fresh = s.fresh := by
  simp only [fresh, restarted_mode, restarted_scene, restarted_camera, restarted_maxSamples]

namespace Engine

section Willing

variable [Backend S B] {good : B → Prop} {e : Engine S B} {s : Session S}

theorem attempt_ok (willing : Willing S good) (ready : good e.backend) (request : Request S) :
    ∃ backend, Backend.perform request e.backend = (.ok (), backend) ∧ good backend ∧
      e.attempt request = (.ok (), { e with backend }) := by
  obtain ⟨backend, served, after⟩ := willing.serves e.backend ready request
  refine ⟨backend, served, after, ?_⟩
  simp only [attempt, served]

theorem ready_frame (willing : Willing S good) : Frame fun e : Engine S B => good e.backend where
  setup e request _ ready := by
    obtain ⟨backend, -, after, served⟩ := attempt_ok willing ready request
    rw [served]
    exact after
  ended _ ready := willing.releases _ ready
  phase _ _ ready := ready

theorem begin_ok (willing : Willing S good) (ready : good e.backend) (s : Session S) :
    (e.begin s).Gives fun _ f => f.phase = .active s := by
  unfold begin allocate
  split
  next =>
    obtain ⟨backend, -, -, served⟩ := attempt_ok willing ready (.allocate e.viewport)
    rw [served]
    rfl
  next => rfl

variable [Scalar S]

theorem prepare_ok {p : Plan S} (willing : Willing S good) (ready : good e.backend)
    (planned : plan s.scene.objects (e.shaderOptions s) = .ok p) :
    (e.prepare s).Gives fun _ f => f.phase = .active s := by
  obtain ⟨backend, -, after, served⟩ :=
    attempt_ok willing ready (.load ⟨p, (e.shaderOptions s).realTime⟩)
  simp only [prepare, loadProgram, planned, served]
  exact begin_ok willing after s

/-- One more sample, and the session has converged if it was the last one. -/
theorem drawOffline_ok (willing : Willing S good) (ready : good e.backend) (s : Session S) :
    ∃ backend random, ∃ inputs : DrawInputs S,
      Served [.drawSample inputs, .accumulate, .present inputs] e.backend backend ∧
        good backend ∧ e.drawOffline s =
          if s.maxSamples ≤ s.sampleIndex + 1 then
            (.ok .stop, { e with
              backend, random, phase := .converged { s with sampleIndex := s.sampleIndex + 1 } })
          else
            (.ok .again, { e with
              backend, random, phase := .active { s with sampleIndex := s.sampleIndex + 1 } }) := by
  obtain ⟨frame, random, next⟩ := nextFrame_keeps s.scene e
  obtain ⟨inputs, same⟩ : ∃ inputs : DrawInputs S,
      inputs = ⟨s.camera, frame.withSamples (s.sampleIndex + 1)⟩ := ⟨_, rfl⟩
  obtain ⟨traced, first, ready, drawn⟩ :=
    attempt_ok (e := { e with random }) willing ready (.drawSample inputs)
  obtain ⟨summed, second, ready, added⟩ :=
    attempt_ok (e := { e with random, backend := traced }) willing ready .accumulate
  obtain ⟨backend, third, ready, shown⟩ :=
    attempt_ok (e := { e with random, backend := summed }) willing ready (.present inputs)
  refine ⟨backend, random, inputs, ⟨traced, first, summed, second, backend, third, rfl⟩, ready, ?_⟩
  rw [drawOffline, next]
  dsimp only
  rw [← same, drawn]
  dsimp only [Step.next]
  rw [added]
  dsimp only [Step.next]
  rw [shown]

theorem drawRealTime_ok (willing : Willing S good) (ready : good e.backend) (s : Session S)
    (time : Duration) :
    ∃ backend random, ∃ inputs : DrawInputs S,
      Served [.drawDirect inputs] e.backend backend ∧ good backend ∧
      e.drawRealTime s time = (.ok .again, { e with
        backend, random, phase := .active s, frames := e.frames.record time }) := by
  obtain ⟨frame, random, next⟩ := nextFrame_keeps s.scene e
  obtain ⟨backend, served, ready, drawn⟩ :=
    attempt_ok (e := { e with random }) willing ready (.drawDirect ⟨s.camera, frame⟩)
  refine ⟨backend, random, ⟨s.camera, frame⟩, ⟨backend, served, rfl⟩, ready, ?_⟩
  rw [drawRealTime, next]
  dsimp only
  rw [drawn]
  rfl

/-- Drawing goes on with the session that there is. -/
theorem draw_session (willing : Willing S good) (ready : good e.backend) (time : Duration) :
    (e.draw time).Gives fun _ f =>
      good f.backend ∧ f.viewport = e.viewport ∧ f.queue = e.queue ∧
        f.phase.session?.map Session.fresh = e.phase.session?.map Session.fresh := by
  rcases draw_cases time e with ⟨-, drawn⟩ | ⟨s, active, -, drawn⟩ | ⟨s, active, -, drawn⟩
  · rw [drawn]
    exact ⟨ready, rfl, rfl, rfl⟩
  · obtain ⟨backend, random, _, -, after, sampled⟩ := drawOffline_ok willing ready (s.reached time)
    rw [drawn, sampled, active]
    split
    next => exact ⟨after, rfl, rfl, rfl⟩
    next => exact ⟨after, rfl, rfl, rfl⟩
  · obtain ⟨backend, random, _, -, after, framed⟩ :=
      drawRealTime_ok willing ready (s.reached time) time
    rw [drawn, framed, active]
    exact ⟨after, rfl, rfl, rfl⟩

end Willing

end Engine
end RayScene.Render
