import RayScene.Proofs.Render.Steps

/-!
What a session holds while it lasts: an offline session a buffer of the size of the output, a
real-time session none, and either of them its own program. No request that needs one of these is
made without it.
-/

namespace RayScene.Shader

variable {S : Type} [Scalar S]

/-- A camera is written down, not looked into: whether planning succeeds does not depend on it. -/
theorem plan_any_camera {objects : List (SceneObject S)} {options : Options S} {p : Plan S}
    (camera : CameraSource S) (planned : plan objects options = .ok p) :
    ∃ other, plan objects { options with camera } = .ok other := by
  have parts : objectPart { options with camera } = objectPart options := rfl
  unfold plan at planned ⊢
  dsimp only at planned ⊢
  rw [parts]
  split at planned
  next => cases planned
  next some_samples =>
    rw [if_neg some_samples]
    split at planned
    next => cases planned
    next => exact ⟨_, rfl⟩

end RayScene.Shader

namespace RayScene.Render

open Shader

variable {S B : Type}

structure Resources (S : Type) where
  size : Viewport
  buffer : Option Viewport
  program : Option (Program S)

namespace Resources

def initial (size : Viewport) : Resources S := ⟨size, none, none⟩

def note (r : Resources S) : Event S → Resources S
  | .served (.load program) => { r with program := some program }
  | .served (.allocate size) => { r with buffer := some size }
  | .served (.resize size) => { r with size }
  | .released => { r with buffer := none }
  | _ => r

def Permits (r : Resources S) : Request S → Prop
  | .drawSample _ | .accumulate | .present _ =>
    r.buffer = some r.size ∧ ∃ plan, r.program = some ⟨plan, false⟩
  | .drawDirect _ => r.buffer = none ∧ ∃ plan, r.program = some ⟨plan, true⟩
  | .load _ | .allocate _ | .resize _ => True

def Obeys : Resources S → List (Event S) → Prop
  | _, [] => True
  | r, event :: events =>
    (∀ request ∈ event.request?, r.Permits request) ∧ (r.note event).Obeys events

theorem obeys_concat (r : Resources S) (events : List (Event S)) (event : Event S) :
    r.Obeys (events ++ [event]) ↔
      r.Obeys events ∧ ∀ request ∈ event.request?, (events.foldl note r).Permits request := by
  induction events generalizing r with
  | nil => simp [Obeys]
  | cons first events ih => simp only [List.cons_append, Obeys, ih, List.foldl_cons, and_assoc]

end Resources

namespace Engine

def resources (origin : Viewport) (e : Engine S (History S B)) : Resources S :=
  e.reckon Resources.note (.initial origin)

@[simp] theorem resources_noting (origin : Viewport) (inner : B) (event : Event S)
    (e : Engine S (History S B)) :
    (e.noting inner event).resources origin = (e.resources origin).note event :=
  reckon_noting _ _ inner event e

structure Orderly (origin : Viewport) (e : Engine S (History S B)) : Prop where
  size : (e.resources origin).size = e.viewport
  obeyed : (Resources.initial origin).Obeys e.backend.events

theorem obeys_noting {origin : Viewport} {e : Engine S (History S B)} (orderly : Orderly origin e)
    (inner : B) (event : Event S)
    (permits : ∀ request ∈ event.request?, (e.resources origin).Permits request) :
    (Resources.initial origin).Obeys (e.noting inner event).backend.events :=
  (Resources.obeys_concat _ _ _).mpr ⟨orderly.obeyed, permits⟩

theorem Orderly.noting {origin : Viewport} {e : Engine S (History S B)}
    (orderly : Orderly origin e) (inner : B) (event : Event S)
    (permits : ∀ request ∈ event.request?, (e.resources origin).Permits request)
    (kept : ((e.resources origin).note event).size = (e.resources origin).size) :
    Orderly origin (e.noting inner event) where
  size := by
    rw [resources_noting, kept]
    exact orderly.size
  obeyed := obeys_noting orderly inner event permits

theorem Orderly.served {origin : Viewport} {e : Engine S (History S B)} (orderly : Orderly origin e)
    (inner : B) {request : Request S} (permits : (e.resources origin).Permits request)
    (kept : ((e.resources origin).note (.served request)).size = (e.resources origin).size) :
    Orderly origin (e.noting inner (.served request)) :=
  orderly.noting inner (.served request) (fun _ same => by cases same; exact permits) kept

section Sessions

variable [Scalar S]

/-- The program is the one of the session, with the camera of the session if that is baked. -/
def Loaded (origin : Viewport) (s : Session S) (e : Engine S (History S B)) : Prop :=
  ∃ p, plan s.scene.objects (e.shaderOptions s) = .ok p ∧
    (e.resources origin).program = some ⟨p, s.mode = .realTime⟩

def Equipped (origin : Viewport) (e : Engine S (History S B)) : Prop :=
  match e.phase with
  | .idle => (e.resources origin).buffer = none ∧ e.frames = .empty
  | .active s =>
    Loaded origin s e ∧
      match s.mode with
      | .offline => (e.resources origin).buffer = some e.viewport ∧ s.sampleIndex < s.maxSamples
      | .realTime => (e.resources origin).buffer = none
  | .converged s =>
    Loaded origin s e ∧ s.mode = .offline ∧ (e.resources origin).buffer = some e.viewport ∧
      s.sampleIndex = s.maxSamples ∧ 1 ≤ s.maxSamples

structure Consistent (origin : Viewport) (e : Engine S (History S B)) : Prop
    extends Orderly origin e where
  equipped : Equipped origin e

theorem new_consistent (origin : Viewport) (backend : B) (bakesCamera : Bool) (seed : UInt64) :
    Consistent origin (new ⟨backend, []⟩ origin bakesCamera seed : Engine S (History S B)) :=
  ⟨⟨rfl, trivial⟩, rfl, rfl⟩

variable {origin : Viewport} {e : Engine S (History S B)} {s : Session S}

theorem Consistent.of_idle (consistent : Consistent origin e) (idle : e.phase = .idle) :
    (e.resources origin).buffer = none ∧ e.frames = .empty := by
  have equipped := consistent.equipped
  rw [Equipped, idle] at equipped
  exact equipped

theorem Consistent.requeued (consistent : Consistent origin e) (queue : List (Command S)) :
    Consistent origin { e with queue } :=
  ⟨⟨consistent.size, consistent.obeyed⟩, consistent.equipped⟩

theorem Consistent.of_session (consistent : Consistent origin e)
    (running : e.phase.session? = some s) :
    Loaded origin s e ∧ (s.mode = .offline → 0 < s.maxSamples) ∧
      (s.mode = .realTime → (e.resources origin).buffer = none) := by
  have equipped := consistent.equipped
  unfold Equipped at equipped
  rcases active_or_converged_of_session running with active | converged
  · rw [active] at equipped
    obtain ⟨loaded, held⟩ := equipped
    refine ⟨loaded, ?_, ?_⟩
    · intro offline
      rw [offline] at held
      exact UInt32.lt_of_le_of_lt UInt32.zero_le held.2
    · intro realTime
      rw [realTime] at held
      exact held
  · rw [converged] at equipped
    obtain ⟨loaded, offline, _, _, positive⟩ := equipped
    refine ⟨loaded, fun _ => UInt32.lt_of_lt_of_le (by decide) positive, fun realTime => ?_⟩
    rw [offline] at realTime
    cases realTime

variable [Backend S B]

theorem Orderly.endSession (orderly : Orderly origin e) : Consistent origin e.endSession := by
  obtain ⟨size, obeyed⟩ :=
    orderly.noting (Backend.release S e.backend.inner) .released (fun _ none => by cases none) rfl
  refine ⟨⟨size, obeyed⟩, ?_, rfl⟩
  show ((e.noting _ .released).resources origin).buffer = none
  rw [resources_noting]
  rfl

/-- A request that is permitted can be refused without harm. -/
theorem attempt_consistent {α : Type} {good : α → Engine S (History S B) → Prop}
    {request : Request S} {rest : Unit → Engine S (History S B) → Step S (History S B) α}
    (orderly : Orderly origin e) (permits : (e.resources origin).Permits request)
    (served : ∀ inner,
      (rest () (e.noting inner (.served request))).Leads good (Consistent origin)) :
    ((e.attempt request).next rest).Leads good (Consistent origin) := by
  apply attempt_next served
  intro inner
  have noted : Orderly origin (e.noting inner (.refused request)) :=
    orderly.noting inner (.refused request) (fun _ same => by cases same; exact permits) rfl
  exact noted.endSession

theorem begin_consistent (orderly : Orderly origin e) (loaded : Loaded origin s e)
    (some_left : s.mode = .offline → s.sampleIndex < s.maxSamples)
    (unbuffered : s.mode = .realTime → (e.resources origin).buffer = none) :
    (e.begin s).Keeps (Consistent origin) := by
  obtain ⟨p, planned, current⟩ := loaded
  rcases mode : s.mode with _ | _
  · simp only [begin, allocate, mode]
    have permits : (e.resources origin).Permits (.allocate e.viewport) := trivial
    refine attempt_consistent orderly permits fun inner => ?_
    have noted := resources_noting origin inner (.served (.allocate e.viewport)) e
    obtain ⟨size, obeyed⟩ := orderly.served inner permits rfl
    refine ⟨⟨size, obeyed⟩, ⟨p, planned, (congrArg Resources.program noted).trans current⟩, ?_⟩
    simp only [mode]
    exact ⟨congrArg Resources.buffer noted, some_left mode⟩
  · simp only [begin, allocate, mode]
    refine ⟨⟨orderly.size, orderly.obeyed⟩, ⟨p, planned, current⟩, ?_⟩
    simp only [mode]
    exact unbuffered mode

theorem prepare_consistent {p : Plan S} (orderly : Orderly origin e)
    (planned : plan s.scene.objects (e.shaderOptions s) = .ok p)
    (some_left : s.mode = .offline → s.sampleIndex < s.maxSamples)
    (unbuffered : s.mode = .realTime → (e.resources origin).buffer = none) :
    (e.prepare s).Keeps (Consistent origin) := by
  simp only [prepare, loadProgram, planned]
  have permits : (e.resources origin).Permits (.load ⟨p, (e.shaderOptions s).realTime⟩) := trivial
  refine attempt_consistent orderly permits fun inner => ?_
  have noted := resources_noting origin inner (.served (.load ⟨p, (e.shaderOptions s).realTime⟩)) e
  refine begin_consistent (orderly.served inner permits rfl) ⟨p, planned, ?_⟩ some_left ?_
  · exact congrArg Resources.program noted
  · intro mode
    exact (congrArg Resources.buffer noted).trans (unbuffered mode)

theorem cancel_consistent (consistent : Consistent origin e) :
    Consistent origin e.cancel ∧ e.cancel.phase = .idle :=
  ⟨cancel_keeps consistent consistent.toOrderly.endSession, cancel_idle e⟩

theorem start_consistent (consistent : Consistent origin e) (mode : SessionMode) (scene : Scene S)
    (camera : Camera S) {maxSamples : UInt32} (some_left : mode = .offline → 0 < maxSamples) :
    (e.start mode scene camera maxSamples).Keeps (Consistent origin) := by
  obtain ⟨cancelled, idle⟩ := cancel_consistent consistent
  obtain ⟨unbuffered, _⟩ := cancelled.of_idle idle
  rcases start_cases mode scene camera maxSamples e with ⟨error, failed⟩ | ⟨other, started⟩
  · rw [failed]
    exact cancelled
  · rw [started]
    rcases planned : plan scene.objects
      (e.cancel.shaderOptions (.new mode scene other maxSamples)) with error | p
    · rw [prepare_error planned]
      exact cancelled
    · exact prepare_consistent cancelled.toOrderly planned some_left fun _ => unbuffered

/-- A session of the same scene needs the same program, or one that can be planned as well. -/
theorem reload_consistent {t : Session S} (orderly : Orderly origin e) (loaded : Loaded origin s e)
    (mode : t.mode = s.mode) (scene : t.scene = s.scene)
    (some_left : t.mode = .offline → t.sampleIndex < t.maxSamples)
    (unbuffered : t.mode = .realTime → (e.resources origin).buffer = none) :
    (if e.bakesCamera then e.prepare t else e.begin t).Keeps (Consistent origin) := by
  obtain ⟨p, planned, current⟩ := loaded
  have options : e.shaderOptions t =
      { e.shaderOptions s with camera := (e.shaderOptions t).camera } := by
    simp only [shaderOptions, mode, scene]
  split
  next =>
    obtain ⟨q, replanned⟩ := plan_any_camera (e.shaderOptions t).camera planned
    rw [← options, ← scene] at replanned
    exact prepare_consistent orderly replanned some_left unbuffered
  next uniform =>
    have same : e.shaderOptions t = e.shaderOptions s := by
      simp only [shaderOptions, mode, scene, uniform]
      rfl
    refine begin_consistent orderly ⟨p, ?_, ?_⟩ some_left unbuffered
    · rw [scene, same]
      exact planned
    · rw [mode]
      exact current

theorem resume_consistent (orderly : Orderly origin e) (loaded : Loaded origin s e)
    (some_samples : s.mode = .offline → 0 < s.maxSamples)
    (unbuffered : s.mode = .realTime → (e.resources origin).buffer = none) :
    (e.resume s).Keeps (Consistent origin) := by
  rcases resume_cases s e with ⟨error, failed⟩ | ⟨camera, resumed⟩
  · rw [failed]
    exact orderly.endSession
  · rw [resumed]
    refine reload_consistent orderly loaded (Session.restarted_mode _) (Session.restarted_scene _)
      ?_ ?_
    · intro offline
      rw [Session.restarted_mode] at offline
      rw [Session.restarted_sampleIndex offline, Session.restarted_maxSamples]
      exact some_samples offline
    · rw [Session.restarted_mode]
      exact unbuffered

theorem resize_consistent (consistent : Consistent origin e) (size : Viewport) :
    (e.resize size).Keeps (Consistent origin) := by
  unfold resize
  split
  next => exact consistent
  next =>
    have permits : (e.resources origin).Permits (.resize size) := trivial
    refine attempt_consistent consistent.toOrderly permits fun inner => ?_
    have noted := resources_noting origin inner (.served (.resize size)) e
    have obeyed := obeys_noting consistent.toOrderly inner (.served (.resize size))
      fun _ same => by cases same; exact permits
    have resized := congrArg Resources.size noted
    dsimp only
    split
    next ended =>
      have idle : e.phase = .idle := idle_of_no_session ended
      obtain ⟨unbuffered, cleared⟩ := consistent.of_idle idle
      refine ⟨⟨resized, obeyed⟩, ?_⟩
      unfold Equipped
      simp only [noting, idle]
      exact ⟨(congrArg Resources.buffer noted).trans unbuffered, cleared⟩
    next s running =>
      obtain ⟨⟨p, planned, current⟩, some_samples, unbuffered⟩ := consistent.of_session running
      refine resume_consistent ⟨resized, obeyed⟩ ⟨p, planned, ?_⟩ some_samples fun mode => ?_
      · exact (congrArg Resources.program noted).trans current
      · exact (congrArg Resources.buffer noted).trans (unbuffered mode)

structure Armed (origin : Viewport) (s : Session S) (e : Engine S (History S B)) : Prop
    extends Orderly origin e where
  offline : s.mode = .offline
  loaded : Loaded origin s e
  buffer : (e.resources origin).buffer = some e.viewport

/-- The requests of a draw need the buffer and the program, and leave both as they are. -/
theorem Armed.next {α : Type} {good : α → Engine S (History S B) → Prop} {request : Request S}
    {rest : Unit → Engine S (History S B) → Step S (History S B) α} (armed : Armed origin s e)
    (inert : ∀ r : Resources S, r.note (.served request) = r)
    (needs : ∀ r : Resources S, (r.buffer = some r.size ∧
      ∃ plan, r.program = some ⟨plan, false⟩) → r.Permits request)
    (goes_on : ∀ e, Armed origin s e → (rest () e).Leads good (Consistent origin)) :
    ((e.attempt request).next rest).Leads good (Consistent origin) := by
  obtain ⟨orderly, offline, ⟨p, planned, current⟩, buffer⟩ := armed
  have permits : (e.resources origin).Permits request := by
    refine needs _ ⟨?_, p, ?_⟩
    · rw [orderly.size]
      exact buffer
    · simpa [offline] using current
  refine attempt_consistent orderly permits fun inner => goes_on _ ?_
  have same : (e.noting inner (.served request)).resources origin = e.resources origin := by
    rw [resources_noting, inert]
  refine ⟨orderly.served inner permits (by rw [inert]), offline, ⟨p, planned, ?_⟩, ?_⟩
  · rw [same]
    exact current
  · rw [same]
    exact buffer

theorem drawOffline_consistent (armed : Armed origin s e)
    (some_left : s.sampleIndex < s.maxSamples) :
    (e.drawOffline s).Keeps (Consistent origin) := by
  obtain ⟨frame, random, next⟩ := nextFrame_keeps s.scene e
  have seeded : Armed origin s { e with random } :=
    ⟨⟨armed.size, armed.obeyed⟩, armed.offline, armed.loaded, armed.buffer⟩
  unfold drawOffline
  rw [next]
  refine seeded.next (fun _ => rfl) (fun _ given => given) fun e armed => ?_
  refine armed.next (fun _ => rfl) (fun _ given => given) fun e armed => ?_
  refine armed.next (fun _ => rfl) (fun _ given => given) fun e armed => ?_
  obtain ⟨orderly, offline, loaded, buffer⟩ := armed
  have counted := Session.succ_toNat some_left
  have bound := UInt32.lt_iff_toNat_lt.mp some_left
  dsimp only
  split
  next full =>
    have reached : s.sampleIndex + 1 = s.maxSamples := by
      rw [UInt32.le_iff_toNat_le] at full
      exact UInt32.toNat_inj.mp (by omega)
    have positive : 1 ≤ s.maxSamples := by
      rw [UInt32.le_iff_toNat_le, UInt32.toNat_one]
      omega
    exact ⟨⟨orderly.size, orderly.obeyed⟩, loaded, offline, buffer, reached, positive⟩
  next unfilled =>
    refine ⟨⟨orderly.size, orderly.obeyed⟩, loaded, ?_⟩
    simp only [offline]
    exact ⟨buffer, UInt32.not_le.mp unfilled⟩

theorem drawRealTime_consistent (orderly : Orderly origin e) (realTime : s.mode = .realTime)
    (loaded : Loaded origin s e) (unbuffered : (e.resources origin).buffer = none)
    (time : Duration) :
    (e.drawRealTime s time).Keeps (Consistent origin) := by
  obtain ⟨p, planned, current⟩ := loaded
  obtain ⟨frame, random, next⟩ := nextFrame_keeps s.scene e
  have seeded : Orderly origin { e with random } := ⟨orderly.size, orderly.obeyed⟩
  have permits : (e.resources origin).Permits (.drawDirect ⟨s.camera, frame⟩) :=
    ⟨unbuffered, p, by simpa [realTime] using current⟩
  unfold drawRealTime
  rw [next]
  refine attempt_consistent seeded permits fun inner => ?_
  have noted := resources_noting origin inner (.served (.drawDirect ⟨s.camera, frame⟩))
    { e with random }
  obtain ⟨size, obeyed⟩ := seeded.served inner permits rfl
  refine ⟨⟨size, obeyed⟩, ⟨p, planned, (congrArg Resources.program noted).trans current⟩, ?_⟩
  simp only [realTime]
  exact (congrArg Resources.buffer noted).trans unbuffered

theorem draw_consistent (consistent : Consistent origin e) (time : Duration) :
    (e.draw time).Keeps (Consistent origin) := by
  have equipped := consistent.equipped
  unfold Equipped at equipped
  rcases draw_cases time e with ⟨-, drawn⟩ | ⟨s, active, mode, drawn⟩ | ⟨s, active, mode, drawn⟩
  · rw [drawn]
    exact consistent
  · rw [active] at equipped
    simp only [mode] at equipped
    obtain ⟨loaded, sized, some_left⟩ := equipped
    have armed : Armed origin (s.reached time) e := ⟨consistent.toOrderly, mode, loaded, sized⟩
    rw [drawn]
    exact drawOffline_consistent armed some_left
  · rw [active] at equipped
    simp only [mode] at equipped
    obtain ⟨loaded, unbuffered⟩ := equipped
    have direct : (s.reached time).mode = .realTime := mode
    rw [drawn]
    exact drawRealTime_consistent consistent.toOrderly direct loaded unbuffered time

theorem apply_consistent (consistent : Consistent origin e) (command : Command S) :
    Consistent origin (e.apply command).2 := by
  cases command with
  | render scene camera maxSamples =>
      have positive := Session.at_least_one maxSamples
      exact (start_consistent consistent .offline scene camera fun _ => positive).after
  | realTime scene camera =>
      exact (start_consistent consistent .realTime scene camera fun mode => by cases mode).after
  | cancel => exact (cancel_consistent consistent).1
  | resize size => exact (resize_consistent consistent size).after

variable (origin)

theorem operate_consistent (operation : Operation S) (e : Engine S (History S B))
    (consistent : Consistent origin e) : Consistent origin (e.operate operation) := by
  cases operation with
  | apply command => exact apply_consistent consistent command
  | send command => exact consistent.requeued (e.queue ++ [command])
  | tick t =>
      have applied := applyAll_keeps (P := Consistent origin)
        (fun command _ kept => apply_consistent kept command) e.queue (consistent.requeued [])
      rcases tick_cases t e with ended | drawn
      · rw [operate, ended]
        exact applied
      · rw [operate, drawn]
        exact (draw_consistent applied t.time).after

/-- Whatever is asked of an engine and whatever is refused to it, every phase has what it needs. -/
theorem run_equipped (backend : B) (viewport : Viewport) (bakesCamera : Bool) (seed : UInt64)
    (operations : List (Operation S)) :
    let e := (new ⟨backend, []⟩ viewport bakesCamera seed : Engine S (History S B)).run operations
    Equipped viewport e ∧ (Resources.initial viewport).Obeys e.backend.events ∧
      (e.resources viewport).size = e.viewport ∧
      ∀ s, e.phase = .active s → s.mode = .offline →
        (s.sampleIndex + 1).toNat = s.sampleIndex.toNat + 1 := by
  have consistent := run_keeps (operate_consistent viewport) operations
    (new_consistent viewport backend bakesCamera seed)
  refine ⟨consistent.equipped, consistent.obeyed, consistent.size, fun s active offline => ?_⟩
  have equipped := consistent.equipped
  rw [Equipped, active] at equipped
  obtain ⟨_, held⟩ := equipped
  rw [offline] at held
  exact Session.succ_toNat held.2

end Sessions

end Engine
end RayScene.Render
