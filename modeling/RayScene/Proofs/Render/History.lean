import RayScene.Render.Engine

namespace RayScene.Render

variable {S B : Type}

/-- What happens between an engine and the side that draws. -/
inductive Event (S : Type) where
  | served (request : Request S)
  | refused (request : Request S)
  | released

def Event.request? : Event S → Option (Request S)
  | served request | refused request => some request
  | released => none

/-- A side that draws, with everything that has happened to it; the latest event last. -/
structure History (S B : Type) where
  inner : B
  events : List (Event S)

instance [Backend S B] : Backend S (History S B) where
  perform request h :=
    match Backend.perform request h.inner with
    | (.ok (), inner) => (.ok (), ⟨inner, h.events ++ [.served request]⟩)
    | (.error reason, inner) => (.error reason, ⟨inner, h.events ++ [.refused request]⟩)
  release h := ⟨Backend.release S h.inner, h.events ++ [.released]⟩

inductive Operation (S : Type) where
  | apply (command : Command S)
  | send (command : Command S)
  | tick (t : FrameTick)

namespace Session

@[simp] theorem restarted_mode (s : Session S) : s.restarted.mode = s.mode := by
  unfold restarted
  split <;> rfl

@[simp] theorem restarted_scene (s : Session S) : s.restarted.scene = s.scene := by
  unfold restarted
  split <;> rfl

@[simp] theorem restarted_maxSamples (s : Session S) : s.restarted.maxSamples = s.maxSamples := by
  unfold restarted
  split <;> rfl

@[simp] theorem restarted_camera (s : Session S) : s.restarted.camera = s.camera := by
  unfold restarted
  split <;> rfl

theorem restarted_sampleIndex {s : Session S} (offline : s.mode = .offline) :
    s.restarted.sampleIndex = 0 := by
  simp only [restarted, offline]

theorem at_least_one (samples : UInt32) : 0 < max samples 1 := by
  show 0 < if samples ≤ 1 then 1 else samples
  split
  next => decide
  next more => exact UInt32.lt_of_le_of_lt UInt32.zero_le (UInt32.not_le.mp more)

theorem succ_toNat {s : Session S} (some_left : s.sampleIndex < s.maxSamples) :
    (s.sampleIndex + 1).toNat = s.sampleIndex.toNat + 1 := by
  have bound := UInt32.lt_iff_toNat_lt.mp some_left
  have fits := s.maxSamples.toNat_lt
  rw [UInt32.toNat_add, UInt32.toNat_one]
  omega

end Session

namespace Engine

def noting (inner : B) (event : Event S) (e : Engine S (History S B)) : Engine S (History S B) :=
  { e with backend := ⟨inner, e.backend.events ++ [event]⟩ }

@[simp] theorem noting_random (inner : B) (event : Event S) (e : Engine S (History S B)) :
    (e.noting inner event).random = e.random := rfl

@[simp] theorem noting_viewport (inner : B) (event : Event S) (e : Engine S (History S B)) :
    (e.noting inner event).viewport = e.viewport := rfl

def reckon {G : Type} (effect : G → Event S → G) (start : G) (e : Engine S (History S B)) : G :=
  e.backend.events.foldl effect start

@[simp] theorem reckon_noting {G : Type} (effect : G → Event S → G) (start : G) (inner : B)
    (event : Event S) (e : Engine S (History S B)) :
    (e.noting inner event).reckon effect start = effect (e.reckon effect start) event := by
  simp only [reckon, noting, List.foldl_append, List.foldl_cons, List.foldl_nil]

def Step.Leads {α : Type} (good : α → Engine S B → Prop) (bad : Engine S B → Prop)
    (step : Step S B α) : Prop :=
  match step with
  | (.ok a, e) => good a e
  | (.error _, e) => bad e

abbrev Step.Keeps {α : Type} (P : Engine S B → Prop) (step : Step S B α) : Prop :=
  step.Leads (fun _ => P) P

theorem Step.Leads.either {α : Type} {good : α → Engine S B → Prop} {bad P : Engine S B → Prop}
    {step : Step S B α} (leads : step.Leads good bad)
    (of_good : ∀ a e, good a e → P e) (of_bad : ∀ e, bad e → P e) : P step.2 := by
  obtain ⟨answer, e⟩ := step
  cases answer with
  | ok a => exact of_good a e leads
  | error _ => exact of_bad e leads

theorem Step.Keeps.after {α : Type} {P : Engine S B → Prop} {step : Step S B α}
    (keeps : step.Keeps P) : P step.2 :=
  Step.Leads.either keeps (fun _ _ answered => answered) fun _ failed => failed

theorem idle_of_no_session {phase : Phase S} (none : phase.session? = none) : phase = .idle := by
  cases phase with
  | idle => rfl
  | _ => cases none

theorem active_or_converged_of_session {phase : Phase S} {s : Session S}
    (running : phase.session? = some s) : phase = .active s ∨ phase = .converged s := by
  cases phase with
  | idle => cases running
  | active t => exact .inl (congrArg Phase.active (Option.some.inj running))
  | converged t => exact .inr (congrArg Phase.converged (Option.some.inj running))

theorem nextFrame_keeps [Scalar S] (scene : Scene S) (e : Engine S B) :
    ∃ frame random, e.nextFrame scene = (frame, { e with random }) :=
  ⟨_, _, rfl⟩

variable [Backend S B]

/-- A request is served, or it is refused and ends the session. -/
theorem attempt_cases (request : Request S) (e : Engine S (History S B)) :
    ∃ inner, e.attempt request = (.ok (), e.noting inner (.served request)) ∨
      ∃ reason, e.attempt request =
        (.error (.backend reason), (e.noting inner (.refused request)).endSession) := by
  rcases answer : Backend.perform request e.backend.inner with ⟨reason | ⟨⟩, inner⟩
  · refine ⟨inner, .inr ⟨reason, ?_⟩⟩
    simp only [attempt, Backend.perform, answer]
    rfl
  · refine ⟨inner, .inl ?_⟩
    simp only [attempt, Backend.perform, answer]
    rfl

/-- What is left to show of a request: that its refusal ends the session well, and the rest. -/
theorem attempt_next {α : Type} {good : α → Engine S (History S B) → Prop}
    {bad : Engine S (History S B) → Prop} {request : Request S} {e : Engine S (History S B)}
    {rest : Unit → Engine S (History S B) → Step S (History S B) α}
    (served : ∀ inner, (rest () (e.noting inner (.served request))).Leads good bad)
    (refused : ∀ inner, bad (e.noting inner (.refused request)).endSession) :
    ((e.attempt request).next rest).Leads good bad := by
  obtain ⟨inner, result | ⟨reason, result⟩⟩ := attempt_cases request e
  · rw [result]
    exact served inner
  · rw [result]
    exact refused inner

variable [Scalar S]

def operate (operation : Operation S) (e : Engine S B) : Engine S B :=
  match operation with
  | .apply command => (e.apply command).2
  | .send command => e.send command
  | .tick t => (e.tick t).2

/-- The engine after some operations, whatever their answers. -/
def run (operations : List (Operation S)) (e : Engine S B) : Engine S B :=
  operations.foldl (fun e operation => e.operate operation) e

theorem run_keeps {P : Engine S B → Prop} (operate : ∀ operation e, P e → P (e.operate operation))
    (operations : List (Operation S)) {e : Engine S B} (start : P e) : P (e.run operations) := by
  induction operations generalizing e with
  | nil => exact start
  | cons operation operations ih => exact ih (operate operation e start)

theorem applyAll_keeps {P : Engine S B → Prop} (apply : ∀ command e, P e → P (e.apply command).2)
    (commands : List (Command S)) {e : Engine S B} (start : P e) : P (applyAll commands e).2 := by
  induction commands generalizing e with
  | nil => exact start
  | cons command commands ih => exact ih (apply command e start)

/-- A draw adds a sample to an active session or shows a frame of it; else it does nothing. -/
theorem draw_cases (time : Duration) (e : Engine S B) :
    (∀ s, e.phase ≠ .active s) ∧ e.draw time = (.ok .stop, e) ∨
      (∃ s, e.phase = .active s ∧ s.mode = .offline ∧
        e.draw time = e.drawOffline (s.reached time)) ∨
      ∃ s, e.phase = .active s ∧ s.mode = .realTime ∧
        e.draw time = e.drawRealTime (s.reached time) time := by
  unfold draw
  cases e.phase with
  | idle =>
      refine .inl ⟨fun _ active => ?_, rfl⟩
      cases active
  | converged t =>
      refine .inl ⟨fun _ active => ?_, rfl⟩
      cases active
  | active s =>
      cases mode : s.mode with
      | offline => exact .inr (.inl ⟨s, rfl, mode, by simp only [mode]⟩)
      | realTime => exact .inr (.inr ⟨s, rfl, mode, by simp only [mode]⟩)

theorem tick_cases (t : FrameTick) (e : Engine S B) :
    (e.tick t).2 = (applyAll e.queue { e with queue := [] }).2 ∨
      (e.tick t).2 = ((applyAll e.queue { e with queue := [] }).2.draw t.time).2 := by
  rw [tick]
  rcases applyAll e.queue { e with queue := [] } with ⟨_ | ⟨⟩, after⟩
  · exact .inl rfl
  · exact .inr rfl

end Engine
end RayScene.Render
