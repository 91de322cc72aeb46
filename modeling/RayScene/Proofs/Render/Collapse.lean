import RayScene.Proofs.Render.Accumulation
import RayScene.Proofs.Render.Cameras

/-!
A queue of commands on a side that serves everything. The sessions that it starts and the sizes that
it goes through leave no trace: what counts is its last session command at its last size.
-/

namespace RayScene.Render

open Shader

variable {S B : Type}

/-- As long as it is in a good state, a side that draws serves every request. -/
structure Willing (S : Type) [Backend S B] (good : B → Prop) : Prop where
  serves : ∀ b, good b → ∀ request : Request S,
    ∃ after, Backend.perform request b = (.ok (), after) ∧ good after
  releases : ∀ b, good b → good (Backend.release S b)

namespace Command

/-- Starts a session or ends one. -/
def isSession : Command S → Bool
  | render .. | realTime .. | cancel => true
  | resize _ => false

def size? : Command S → Option Viewport
  | resize size => if size.isEmpty then none else some size
  | render .. | realTime .. | cancel => none

def lastSession? (commands : List (Command S)) : Option (Command S) :=
  (commands.filter isSession).getLast?

def lastSize? (commands : List (Command S)) : Option Viewport :=
  (commands.filterMap size?).getLast?

def collapse (commands : List (Command S)) : List (Command S) :=
  ((lastSize? commands).map resize).toList ++ (lastSession? commands).toList

theorem size?_session {command : Command S} (session : command.isSession = true) :
    command.size? = none := by
  cases command with
  | resize size => cases session
  | _ => rfl

theorem lastSession?_concat (commands : List (Command S)) (command : Command S) :
    lastSession? (commands ++ [command]) =
      if command.isSession then some command else lastSession? commands := by
  cases kind : command.isSession <;> simp [lastSession?, kind]

theorem lastSize?_concat (commands : List (Command S)) (command : Command S) :
    lastSize? (commands ++ [command]) = command.size?.or (lastSize? commands) := by
  cases size : command.size? <;> simp [lastSize?, size]

theorem lastSession?_session {commands : List (Command S)} {command : Command S}
    (last : lastSession? commands = some command) : command.isSession = true := by
  have member := List.mem_of_getLast? last
  exact (List.mem_filter.mp member).2

theorem lastSize?_area {commands : List (Command S)} {size : Viewport}
    (last : lastSize? commands = some size) : size.isEmpty = false := by
  obtain ⟨command, -, asked⟩ := List.mem_filterMap.mp (List.mem_of_getLast? last)
  cases command with
  | resize other =>
      simp only [size?] at asked
      split at asked
      next => cases asked
      next area =>
        obtain rfl := Option.some.inj asked
        simpa using area
  | _ => cases asked

/-- Nothing that counts is lost. -/
theorem lastSession?_collapse (commands : List (Command S)) :
    lastSession? (collapse commands) = lastSession? commands := by
  unfold collapse
  cases last : lastSession? commands with
  | none => cases lastSize? commands <;> simp [lastSession?, isSession]
  | some command =>
      rw [Option.toList_some, lastSession?_concat, lastSession?_session last, if_pos rfl]

theorem lastSize?_collapse {commands : List (Command S)} :
    lastSize? (collapse commands) = lastSize? commands := by
  have sizeless : ∀ command ∈ (lastSession? commands).toList, command.size? = none :=
    fun command member => size?_session (lastSession?_session (Option.mem_toList.mp member))
  have rest : (lastSession? commands).toList.filterMap size? = [] :=
    List.filterMap_eq_nil_iff.mpr sizeless
  unfold collapse
  rw [lastSize?, List.filterMap_append, rest, List.append_nil]
  cases last : lastSize? commands with
  | none => rfl
  | some size => simp [size?, lastSize?_area last]

end Command

structure Accumulation (S : Type) where
  size : Viewport
  sum : S
  trace : S
  drawn : List (Drawn S)

def Accumulation.zeros [Scalar S] (size : Viewport) : Accumulation S :=
  ⟨size, Scalar.zero, Scalar.zero, []⟩

def Command.wish? : Command S → Option (Session S)
  | render scene camera maxSamples => some (.new .offline scene camera (max maxSamples 1))
  | realTime scene camera => some (.new .realTime scene camera 0)
  | cancel | resize _ => none

theorem Command.wish?_new {command : Command S} {s : Session S} (wish : command.wish? = some s) :
    ∃ mode scene camera maxSamples, s = .new mode scene camera maxSamples := by
  cases command with
  | render scene camera maxSamples =>
      obtain rfl := Option.some.inj wish
      exact ⟨_, _, _, _, rfl⟩
  | realTime scene camera =>
      obtain rfl := Option.some.inj wish
      exact ⟨_, _, _, _, rfl⟩
  | cancel => cases wish
  | resize => cases wish

theorem Command.Framed.wish? [Scalar S] {command : Command S} (framed : command.Framed)
    {s : Session S} (wish : command.wish? = some s) : s.camera.Built := by
  cases command with
  | render scene camera maxSamples =>
      obtain rfl := Option.some.inj wish
      exact framed camera rfl
  | realTime scene camera =>
      obtain rfl := Option.some.inj wish
      exact framed camera rfl
  | cancel => cases wish
  | resize => cases wish

theorem Viewport.fit_withAspect {camera : Camera Single} (built : camera.Built) (before : Viewport)
    {size : Viewport} (area : size.isEmpty = false) :
    (before.fit camera).withAspect size.aspect = .ok (size.fit camera) := by
  have fitted := size.fit_eq built
  rw [area] at fitted
  have first := before.fit_eq built
  split at first
  next =>
    rw [← Except.ok.inj first]
    exact fitted
  next => exact (Camera.withAspect_withAspect first size.aspect).trans fitted

namespace Session

def fitted (size : Viewport) (s : Session Single) : Session Single :=
  { s with camera := size.fit s.camera }

theorem fitted_mode (size : Viewport) (s : Session Single) : (s.fitted size).mode = s.mode := rfl

theorem fitted_scene (size : Viewport) (s : Session Single) : (s.fitted size).scene = s.scene := rfl

theorem fitted_camera (size : Viewport) (s : Session Single) :
    (s.fitted size).camera = size.fit s.camera := rfl

theorem new_parts (mode : SessionMode) (scene : Scene S) (camera : Camera S)
    (maxSamples : UInt32) :
    let s := new mode scene camera maxSamples
    s = .new s.mode s.scene s.camera s.maxSamples := rfl

theorem restarted_camera_new (mode : SessionMode) (scene : Scene S) (before after : Camera S)
    (maxSamples : UInt32) :
    { Session.new mode scene before maxSamples with camera := after }.restarted =
      .new mode scene after maxSamples := by
  cases mode <;> rfl

theorem fitted_new (size : Viewport) (mode : SessionMode) (scene : Scene Single)
    (camera : Camera Single) (maxSamples : UInt32) :
    (Session.new mode scene camera maxSamples).fitted size =
      .new mode scene (size.fit camera) maxSamples := rfl

theorem fitted_restarted {command : Command Single} {s : Session Single}
    (wish : command.wish? = some s) (before after : Viewport) :
    { s.fitted before with camera := (s.fitted after).camera }.restarted = s.fitted after := by
  obtain ⟨mode, scene, camera, maxSamples, rfl⟩ := Command.wish?_new wish
  rw [fitted_camera, fitted_new, fitted_new, restarted_camera_new]
  rfl

end Session

namespace Engine

def accumulation [Scalar S] (sample : DrawInputs S → S) (origin : Viewport)
    (e : Engine S (History S B)) : Option (Accumulation S) :=
  (e.resources origin).buffer.map fun size =>
    ⟨size, (e.canvas sample origin).sum, (e.canvas sample origin).trace,
      (e.canvas sample origin).drawn⟩

structure Calm (good : B → Prop) (before : Engine S (History S B)) (size : Viewport)
    (e : Engine S (History S B)) : Prop where
  ready : good e.backend.inner
  viewport : e.viewport = size
  bakesCamera : e.bakesCamera = before.bakesCamera
  random : e.random = before.random
  queue : e.queue = before.queue

section Willing

variable [Backend S B] {good : B → Prop} {before e : Engine S (History S B)} {size : Viewport}

theorem attempt_served (willing : Willing S good) (ready : good e.backend.inner)
    (request : Request S) :
    ∃ inner, good inner ∧ e.attempt request = (.ok (), e.noting inner (.served request)) := by
  obtain ⟨inner, served, after⟩ := willing.serves e.backend.inner ready request
  refine ⟨inner, after, ?_⟩
  simp only [attempt, Backend.perform, served]
  rfl

theorem calm_frame (willing : Willing S good) : Frame (Calm good before size) where
  setup e request _ calm := by
    obtain ⟨inner, after, served⟩ := attempt_served willing calm.ready request
    rw [served]
    exact ⟨after, calm.viewport, calm.bakesCamera, calm.random, calm.queue⟩
  ended _ calm :=
    ⟨willing.releases _ calm.ready, calm.viewport, calm.bakesCamera, calm.random, calm.queue⟩
  phase _ _ calm := ⟨calm.ready, calm.viewport, calm.bakesCamera, calm.random, calm.queue⟩

variable [Scalar S]

theorem resize_calm (willing : Willing S good) (calm : Calm good before size e)
    (other : Viewport) :
    Calm good before (((Command.resize other : Command S).size?).getD size) (e.resize other).2 := by
  unfold resize
  rw [Command.size?]
  by_cases empty : other.isEmpty
  · simp only [empty, or_true, if_true]
    exact calm
  · simp only [empty, Bool.false_eq_true, or_false, if_false, Option.getD_some]
    split
    next unchanged => exact ⟨calm.ready, unchanged.symm, calm.bakesCamera, calm.random, calm.queue⟩
    next =>
      obtain ⟨inner, after, served⟩ := attempt_served willing calm.ready (.resize other)
      have resized (phase : Phase S) : Calm good before other
          { e.noting inner (.served (.resize other)) with viewport := other, phase } :=
        ⟨after, rfl, calm.bakesCamera, calm.random, calm.queue⟩
      rw [served]
      dsimp only [Step.next]
      split
      next => exact resized e.phase
      next s _ => exact ((calm_frame willing).resume (resized .idle) s).after

/-- Only a resize changes the size, and only to one that is not empty. -/
theorem apply_calm (willing : Willing S good) (calm : Calm good before size e)
    (command : Command S) : Calm good before (command.size?.getD size) (e.apply command).2 := by
  cases command with
  | render scene camera maxSamples =>
      exact ((calm_frame willing).start calm .offline scene camera _).after
  | realTime scene camera => exact ((calm_frame willing).start calm .realTime scene camera 0).after
  | cancel => exact (calm_frame willing).cancel calm
  | resize other => exact resize_calm willing calm other

end Willing

section Settled

structure Still (origin : Viewport) (e : Engine S (History S B)) : Prop where
  phase : e.phase = .idle
  buffer : (e.resources origin).buffer = none

variable [Scalar S] (sample : DrawInputs S → S)

structure Running (origin size : Viewport) (s : Session S) (p : Plan S)
    (e : Engine S (History S B)) : Prop where
  phase : e.phase = .active s
  program : (e.resources origin).program = some ⟨p, s.mode = .realTime⟩
  accumulation : e.accumulation sample origin =
    match s.mode with
    | .offline => some (.zeros size)
    | .realTime => none

inductive Outcome (sample : DrawInputs Single → Single) (origin size : Viewport)
    (command : Command Single) (e : Engine Single (History Single B)) : Prop
  | still (unplanned : ∀ s, command.wish? = some s →
      ∃ error, plan s.scene.objects (e.shaderOptions (s.fitted size)) = .error error)
      (still : Still origin e)
  | running {s : Session Single} {p : Plan Single} (wish : command.wish? = some s)
      (planned : plan s.scene.objects (e.shaderOptions (s.fitted size)) = .ok p)
      (running : Running sample origin size (s.fitted size) p e)

structure Settled (sample : DrawInputs Single → Single) (origin size : Viewport)
    (command : Command Single) (e : Engine Single (History Single B)) : Prop where
  frames : e.frames = .empty
  outcome : Outcome sample origin size command e

variable {sample} {origin : Viewport} {good : B → Prop} {e : Engine S (History S B)}
  {s : Session S} {p : Plan S} [Backend S B]

omit [Backend S B] in
theorem accumulation_of_zeros {size : Viewport}
    (buffer : (e.resources origin).buffer = some size)
    (sum : (e.canvas sample origin).sum = Scalar.zero)
    (trace : (e.canvas sample origin).trace = Scalar.zero)
    (drawn : (e.canvas sample origin).drawn = []) :
    e.accumulation sample origin = some (.zeros size) := by
  rw [accumulation, buffer, Option.map_some, sum, trace, drawn, Accumulation.zeros]

omit [Backend S B] in
theorem accumulation_of_none (unbuffered : (e.resources origin).buffer = none) :
    e.accumulation sample origin = none := by
  rw [accumulation, unbuffered, Option.map_none]

omit [Backend S B] in
theorem Running.unbuffered {size : Viewport} (running : Running sample origin size s p e)
    (realTime : s.mode = .realTime) : (e.resources origin).buffer = none := by
  have nothing := running.accumulation
  rw [realTime] at nothing
  exact Option.map_eq_none_iff.mp nothing

/-- A session with its program runs as soon as it has its buffer. -/
theorem begin_running (willing : Willing S good) (ready : good e.backend.inner)
    (program : (e.resources origin).program = some ⟨p, s.mode = .realTime⟩)
    (unbuffered : s.mode = .realTime → (e.resources origin).buffer = none) :
    (e.begin s).Keeps (fun f => f.frames = e.frames ∧ f.bakesCamera = e.bakesCamera ∧
        Running sample origin e.viewport s p f) := by
  cases mode : s.mode with
  | offline =>
      obtain ⟨inner, -, served⟩ := attempt_served willing ready (.allocate e.viewport)
      have noted := resources_noting origin inner (.served (.allocate e.viewport)) e
      have drawn := canvas_noting sample origin inner (.served (.allocate e.viewport)) e
      simp only [begin, allocate, mode, served, Step.next]
      refine ⟨rfl, rfl, rfl, (congrArg Resources.program noted).trans program, ?_⟩
      simp only [mode]
      exact accumulation_of_zeros (congrArg Resources.buffer noted) (congrArg Canvas.sum drawn)
        (congrArg Canvas.trace drawn) (congrArg Canvas.drawn drawn)
  | realTime =>
      simp only [begin, allocate, mode, Step.next]
      refine ⟨rfl, rfl, rfl, program, ?_⟩
      simp only [mode]
      exact accumulation_of_none (unbuffered mode)

/-- A session that can be planned runs as soon as it has its program and its buffer. -/
theorem prepare_running (willing : Willing S good) (ready : good e.backend.inner)
    (planned : plan s.scene.objects (e.shaderOptions s) = .ok p)
    (unbuffered : s.mode = .realTime → (e.resources origin).buffer = none) :
    (e.prepare s).Keeps (fun f => f.frames = e.frames ∧ f.bakesCamera = e.bakesCamera ∧
        Running sample origin e.viewport s p f) := by
  obtain ⟨inner, after, served⟩ :=
    attempt_served willing ready (.load ⟨p, (e.shaderOptions s).realTime⟩)
  have noted := resources_noting origin inner (.served (.load ⟨p, (e.shaderOptions s).realTime⟩)) e
  simp only [prepare, loadProgram, planned, served, Step.next]
  exact begin_running willing after (congrArg Resources.program noted) fun mode =>
    (congrArg Resources.buffer noted).trans (unbuffered mode)

end Settled

section Single

variable {sample : DrawInputs Single → Single} {origin size : Viewport} {good : B → Prop}
  {e : Engine Single (History Single B)} {s : Session Single} {p : Plan Single}
  {command : Command Single} [Backend Single B]

omit [Backend Single B] in
theorem Running.settled {f : Engine Single (History Single B)} (wish : command.wish? = some s)
    (frames : e.frames = .empty)
    (planned : plan s.scene.objects (e.shaderOptions (s.fitted e.viewport)) = .ok p)
    (running : f.frames = e.frames ∧ f.bakesCamera = e.bakesCamera ∧
      Running sample origin e.viewport (s.fitted e.viewport) p f) :
    Settled sample origin e.viewport command f := by
  obtain ⟨kept, same, running⟩ := running
  refine ⟨kept.trans frames, .running wish ?_ running⟩
  rw [shaderOptions, same]
  exact planned

theorem start_settled (willing : Willing Single good) (ready : good e.backend.inner)
    (consistent : Consistent origin e) (mode : SessionMode) (scene : Scene Single)
    {camera : Camera Single} (built : camera.Built) (maxSamples : UInt32)
    (wish : command.wish? = some (.new mode scene camera maxSamples)) :
    (e.start mode scene camera maxSamples).Keeps (Settled sample origin e.viewport command) := by
  obtain ⟨cancelled, idle⟩ := cancel_consistent consistent
  obtain ⟨unbuffered, frames⟩ := cancelled.of_idle idle
  have calm : Calm good e e.viewport e.cancel :=
    (calm_frame willing).cancel ⟨ready, rfl, rfl, rfl, rfl⟩
  rw [← calm.viewport, start_built mode scene built, ← Session.fitted_new]
  rcases planned : plan scene.objects (e.cancel.shaderOptions
    ((Session.new mode scene camera maxSamples).fitted e.cancel.viewport)) with error | p
  · rw [prepare_error planned]
    refine ⟨frames, .still (fun s other => ⟨error, ?_⟩) ⟨idle, unbuffered⟩⟩
    obtain rfl := Option.some.inj (wish.symm.trans other)
    exact planned
  · exact (prepare_running willing calm.ready planned fun _ => unbuffered).imp fun f running =>
      Running.settled wish frames planned running

omit [Backend Single B] in
theorem shaderOptions_same {t : Session Single} (mode : t.mode = s.mode)
    (scene : t.scene = s.scene) :
    e.shaderOptions t = { e.shaderOptions s with camera := (e.shaderOptions t).camera } := by
  simp only [shaderOptions, mode, scene]

omit [Backend Single B] in
theorem shaderOptions_uniform {t : Session Single} (uniform : ¬ e.bakesCamera = true)
    (mode : t.mode = s.mode) (scene : t.scene = s.scene) :
    e.shaderOptions t = e.shaderOptions s := by
  have camera (r : Session Single) : (e.shaderOptions r).camera = .uniform := by
    simp [shaderOptions, uniform]
  rw [shaderOptions_same mode scene, camera t, ← camera s]

omit [Backend Single B] in
theorem replanned (before after : Viewport)
    (planned : plan s.scene.objects (e.shaderOptions (s.fitted before)) = .ok p) :
    ∃ q, plan s.scene.objects (e.shaderOptions (s.fitted after)) = .ok q := by
  rw [shaderOptions_same ((s.fitted_mode after).trans (s.fitted_mode before).symm)
    ((s.fitted_scene after).trans (s.fitted_scene before).symm)]
  exact plan_any_camera _ planned

/-- A session in another shape goes on with the same program, or with one for its own camera. -/
theorem reload_settled (willing : Willing Single good) (ready : good e.backend.inner)
    (wish : command.wish? = some s) (frames : e.frames = .empty) (before : Viewport)
    (planned : plan s.scene.objects (e.shaderOptions (s.fitted before)) = .ok p)
    (program : (e.resources origin).program = some ⟨p, s.mode = .realTime⟩)
    (unbuffered : s.mode = .realTime → (e.resources origin).buffer = none) :
    (if e.bakesCamera then e.prepare (s.fitted e.viewport) else e.begin (s.fitted e.viewport)).Keeps
      (Settled sample origin e.viewport command) := by
  split
  next =>
    obtain ⟨q, again⟩ := replanned before e.viewport planned
    exact (prepare_running willing ready again unbuffered).imp fun f running =>
      Running.settled wish frames again running
  next uniform =>
    have same : e.shaderOptions (s.fitted e.viewport) = e.shaderOptions (s.fitted before) :=
      shaderOptions_uniform uniform ((s.fitted_mode _).trans (s.fitted_mode before).symm)
        ((s.fitted_scene _).trans (s.fitted_scene before).symm)
    rw [← same] at planned
    exact (begin_running (s := s.fitted e.viewport) willing ready program unbuffered).imp
      fun f running => Running.settled wish frames planned running

theorem resize_settled (willing : Willing Single good) (ready : good e.backend.inner)
    (framed : command.Framed) (settled : Settled sample origin e.viewport command e)
    {other : Viewport} (area : other.isEmpty = false) :
    Settled sample origin other command (e.resize other).2 := by
  unfold resize
  simp only [area, Bool.false_eq_true, or_false]
  split
  next unchanged =>
    rw [unchanged]
    exact settled
  next =>
    obtain ⟨inner, after, served⟩ := attempt_served willing ready (.resize other)
    have noted := resources_noting origin inner (.served (.resize other)) e
    rw [served]
    dsimp only [Step.next]
    obtain ⟨frames, outcome⟩ := settled
    cases outcome with
    | still unplanned still =>
        -- The size does not decide whether there is a plan, so none is found here either.
        have none : (e.noting inner (.served (.resize other))).phase.session? = none :=
          congrArg Phase.session? still.phase
        have unbuffered := (congrArg Resources.buffer noted).trans still.buffer
        rw [none]
        refine ⟨frames, .still (fun s wish => ?_) ⟨still.phase, unbuffered⟩⟩
        obtain ⟨error, failed⟩ := unplanned s wish
        rcases again : plan s.scene.objects (e.shaderOptions (s.fitted other)) with error | q
        · exact ⟨error, again⟩
        · obtain ⟨p, planned⟩ := replanned other e.viewport again
          rw [failed] at planned
          cases planned
    | @running s p wish planned running =>
        have some : (e.noting inner (.served (.resize other))).phase.session? =
            some (s.fitted e.viewport) := congrArg Phase.session? running.phase
        have program := (congrArg Resources.program noted).trans running.program
        have reshaped : (s.fitted e.viewport).camera.withAspect other.aspect =
            .ok (s.fitted other).camera :=
          Viewport.fit_withAspect (framed.wish? wish) e.viewport area
        let f : Engine Single (History Single B) :=
          { e.noting inner (.served (.resize other)) with viewport := other, phase := .idle }
        have resumed := resume_reshaped (e := f) reshaped
        rw [Session.fitted_restarted wish] at resumed
        rw [some]
        show Settled sample origin f.viewport command (f.resume (s.fitted e.viewport)).2
        rw [resumed]
        exact (reload_settled willing (e := f) after wish frames e.viewport planned program
          fun realTime =>
            (congrArg Resources.buffer noted).trans (running.unbuffered realTime)).after

theorem session_settled (willing : Willing Single good) (ready : good e.backend.inner)
    (consistent : Consistent origin e) (framed : command.Framed)
    (session : command.isSession = true) :
    Settled sample origin e.viewport command (e.apply command).2 := by
  cases command with
  | render scene camera maxSamples =>
      exact (start_settled willing ready consistent .offline scene (framed camera rfl) _ rfl).after
  | realTime scene camera =>
      exact (start_settled willing ready consistent .realTime scene (framed camera rfl) 0 rfl).after
  | cancel =>
      obtain ⟨cancelled, idle⟩ := cancel_consistent consistent
      obtain ⟨unbuffered, frames⟩ := cancelled.of_idle idle
      exact ⟨frames, .still (fun _ none => by cases none) ⟨idle, unbuffered⟩⟩
  | resize size => cases session

/-- A resize leaves the last session command settled, at the size that there is then. -/
theorem size_settled (willing : Willing Single good) (ready : good e.backend.inner)
    (framed : command.Framed) (settled : Settled sample origin e.viewport command e)
    {other : Command Single} (sized : other.isSession = false) :
    Settled sample origin (other.size?.getD e.viewport) command (e.apply other).2 := by
  cases other with
  | resize size =>
      rw [Command.size?, apply]
      by_cases empty : size.isEmpty
      · simpa [empty, resize] using settled
      · rw [if_neg empty]
        exact resize_settled willing ready framed settled (by simpa using empty)
  | _ => cases sized

omit [Backend Single B] in
theorem lastSession?_framed {commands : List (Command Single)}
    (framed : ∀ command ∈ commands, command.Framed)
    (last : Command.lastSession? commands = some command) : command.Framed :=
  framed command (List.mem_of_mem_filter (List.mem_of_getLast? last))

omit [Backend Single B] in
theorem collapse_framed {commands : List (Command Single)}
    (framed : ∀ command ∈ commands, command.Framed) :
    ∀ command ∈ Command.collapse commands, command.Framed := by
  intro command member
  rcases List.mem_append.mp member with sized | counts
  · obtain ⟨size, -, rfl⟩ := Option.map_eq_some_iff.mp (Option.mem_toList.mp sized)
    exact fun camera none => by cases none
  · exact lastSession?_framed framed (Option.mem_toList.mp counts)

theorem applyAll_concat (commands : List (Command Single)) (command : Command Single)
    (e : Engine Single (History Single B)) :
    (applyAll (commands ++ [command]) e).2 = ((applyAll commands e).2.apply command).2 := by
  induction commands generalizing e with
  | nil => rfl
  | cons first commands ih => exact ih _

/-- The last session command is settled at the last size, whatever has come before and between. -/
theorem applyAll_settled (sample : DrawInputs Single → Single) (willing : Willing Single good)
    (ready : good e.backend.inner) (consistent : Consistent origin e)
    {commands : List (Command Single)}
    (framed : ∀ command ∈ commands, command.Framed) :
    let after := (applyAll commands e).2
    let size := (Command.lastSize? commands).getD e.viewport
    Consistent origin after ∧ Calm good e size after ∧
      ∀ command, Command.lastSession? commands = some command →
        Settled sample origin size command after := by
  induction commands using List.reverseRecOn with
  | nil => exact ⟨consistent, ⟨ready, rfl, rfl, rfl, rfl⟩, fun _ none => by cases none⟩
  | append_singleton commands last ih =>
      have own := framed last (by simp)
      have others : ∀ command ∈ commands, command.Framed := fun command member =>
        framed command (List.mem_append_left _ member)
      obtain ⟨orderly, calm, settled⟩ := ih others
      have size : (Command.lastSize? (commands ++ [last])).getD e.viewport =
          last.size?.getD ((Command.lastSize? commands).getD e.viewport) := by
        rw [Command.lastSize?_concat]
        cases last.size? <;> rfl
      dsimp only at orderly calm settled ⊢
      rw [applyAll_concat, size]
      refine ⟨apply_consistent orderly last, apply_calm willing calm last, ?_⟩
      intro command counts
      rw [Command.lastSession?_concat] at counts
      cases kind : last.isSession with
      | true =>
          rw [kind] at counts
          obtain rfl := Option.some.inj counts
          rw [Command.size?_session kind, Option.getD_none, ← calm.viewport]
          exact session_settled willing calm.ready orderly own kind
      | false =>
          rw [kind] at counts
          have before := settled command counts
          rw [← calm.viewport] at before ⊢
          exact size_settled willing calm.ready (lastSession?_framed others counts) before kind

omit [Backend Single B] in
/-- A command can be settled in one way only. -/
theorem Settled.unique {f : Engine Single (History Single B)}
    (one : Settled sample origin size command e) (two : Settled sample origin size command f)
    (bakes : e.bakesCamera = f.bakesCamera) :
    e.phase = f.phase ∧ e.accumulation sample origin = f.accumulation sample origin ∧
      (e.phase.session?.isSome → (e.resources origin).program = (f.resources origin).program) := by
  have options (s : Session Single) : e.shaderOptions s = f.shaderOptions s := by
    rw [shaderOptions, shaderOptions, bakes]
  rcases one.outcome with ⟨unplanned, first⟩ | ⟨wish, planned, first⟩
  all_goals rcases two.outcome with ⟨unplanned', second⟩ | ⟨again, replan, second⟩
  · refine ⟨first.phase.trans second.phase.symm, ?_, fun some => ?_⟩
    · rw [accumulation_of_none first.buffer, accumulation_of_none second.buffer]
    · rw [first.phase] at some
      cases some
  · obtain ⟨error, failed⟩ := unplanned _ again
    rw [options, replan] at failed
    cases failed
  · obtain ⟨error, failed⟩ := unplanned' _ wish
    rw [options, failed] at planned
    cases planned
  · obtain rfl := Option.some.inj (wish.symm.trans again)
    rw [options, replan] at planned
    obtain rfl := Except.ok.inj planned
    exact ⟨first.phase.trans second.phase.symm,
      first.accumulation.trans second.accumulation.symm,
      fun _ => first.program.trans second.program.symm⟩

omit [Backend Single B] in
theorem Settled.fresh (settled : Settled sample origin size command e)
    (held : e.phase.session? = some s) :
    e.phase = .active s ∧ s = .new s.mode s.scene s.camera s.maxSamples := by
  rcases settled.outcome with ⟨-, still⟩ | ⟨wish, -, running⟩
  · rw [still.phase] at held
    cases held
  · rw [running.phase] at held
    obtain rfl := Option.some.inj held
    obtain ⟨mode, scene, camera, maxSamples, rfl⟩ := Command.wish?_new wish
    refine ⟨running.phase, ?_⟩
    rw [Session.fitted_new]
    exact Session.new_parts ..

/-- On a side that serves everything, a queue leads to where its last session command leads at its
last size: to the same phase, which is idle or a fresh session, with the same buffer and program. -/
theorem queue_collapses (sample : DrawInputs Single → Single) {good : B → Prop}
    (willing : Willing Single good) (backend : B) (viewport : Viewport) (bakesCamera : Bool)
    (seed : UInt64) (operations : List (Operation Single)) {e : Engine Single (History Single B)}
    (reached : e = (new ⟨backend, []⟩ viewport bakesCamera seed).run operations)
    (ready : good e.backend.inner) {commands : List (Command Single)}
    (framed : ∀ command ∈ commands, command.Framed)
    (session : ∃ command ∈ commands, command.isSession = true) :
    let f := (applyAll commands e).2
    let g := (applyAll (Command.collapse commands) e).2
    f.phase = g.phase ∧ f.viewport = g.viewport ∧ f.frames = g.frames ∧ f.random = g.random ∧
      f.queue = g.queue ∧ f.bakesCamera = g.bakesCamera ∧
      f.accumulation sample viewport = g.accumulation sample viewport ∧
      (f.phase.session?.isSome → (f.resources viewport).program = (g.resources viewport).program) ∧
      ∀ s, f.phase.session? = some s →
        f.phase = .active s ∧ s = .new s.mode s.scene s.camera s.maxSamples := by
  intro f g
  have consistent : Consistent viewport e := by
    rw [reached]
    exact run_keeps (operate_consistent viewport) operations
      (new_consistent viewport backend bakesCamera seed)
  obtain ⟨last, counts⟩ : ∃ last, Command.lastSession? commands = some last := by
    obtain ⟨command, member, kind⟩ := session
    have kept := List.mem_filter.mpr ⟨member, kind⟩
    exact ⟨_, List.getLast?_eq_some_getLast (List.ne_nil_of_mem kept)⟩
  obtain ⟨-, calm, settled⟩ := applyAll_settled sample willing ready consistent framed
  obtain ⟨-, calm', settled'⟩ :=
    applyAll_settled sample willing ready consistent (collapse_framed framed)
  rw [Command.lastSize?_collapse] at calm' settled'
  have one := settled last counts
  have two := settled' last ((Command.lastSession?_collapse commands).trans counts)
  obtain ⟨phase, accumulation, program⟩ :=
    one.unique two (calm.bakesCamera.trans calm'.bakesCamera.symm)
  exact ⟨phase, calm.viewport.trans calm'.viewport.symm, one.frames.trans two.frames.symm,
    calm.random.trans calm'.random.symm, calm.queue.trans calm'.queue.symm,
    calm.bakesCamera.trans calm'.bakesCamera.symm, accumulation, program, fun s => one.fresh⟩

end Single

theorem recorder_willing : Willing Single
    (fun r : Recorder Single => r.refusals = [] ∧ r.maxExtent = none) where
  serves r idle request := by
    obtain ⟨none_left, unbounded⟩ := idle
    refine ⟨r.record (.request request), ?_, none_left, unbounded⟩
    show r.perform request = _
    cases request <;> simp [Recorder.perform, Recorder.record, none_left, unbounded,
      Recorder.useRefusal?, Recorder.requestError?, Recorder.sizeError?]
  releases _ idle := idle

def standardCamera : Camera Single := CameraSpec.standard.camera

theorem standardCamera_built : standardCamera.Built := by
  have sound : (CameraSpec.standard : CameraSpec Single).Sound := by
    constructor <;> decide +kernel
  exact ⟨_, (Camera.build_eq_ok_iff _ _).mpr ⟨sound, rfl⟩⟩

def towerScene : Scene Single :=
  .ofObjects [⟨0, .solid (Nat.repeat (.translate Vec3.zero) 16
    (.primitive .sphere Vec3.zero (Vec3.splat 1.0))), .light, .standard⟩]

def towerQueue : List (Command Single) :=
  [.realTime towerScene standardCamera, .resize ⟨1, 9⟩, .render (.ofObjects []) standardCamera 2,
    .resize ⟨8, 6⟩, .resize ⟨0, 6⟩]

def rested : Engine Single (History Single (Recorder Single)) :=
  (new ⟨.new, []⟩ ⟨4, 3⟩ true 7).run
    [.apply (.render (.ofObjects []) standardCamera 1), .tick ⟨.zero, 0⟩]

theorem towerQueue_collapses :
    (rested.backend.inner.refusals = [] ∧ rested.backend.inner.maxExtent = none) ∧
      (∀ command ∈ towerQueue, command.Framed) ∧ (∃ command ∈ towerQueue, command.isSession) ∧
      let f := (applyAll towerQueue rested).2
      let g := (applyAll [.resize ⟨8, 6⟩, .render (.ofObjects []) standardCamera 2] rested).2
      f.phase = g.phase ∧ f.viewport = g.viewport ∧
        ∀ sample, f.accumulation sample ⟨4, 3⟩ = g.accumulation sample ⟨4, 3⟩ := by
  have ready : rested.backend.inner.refusals = [] ∧ rested.backend.inner.maxExtent = none := by
    decide +kernel
  have framed : ∀ command ∈ towerQueue, command.Framed := by
    intro command member camera own
    have same : camera = standardCamera := by
      simp only [towerQueue, List.mem_cons, List.not_mem_nil, or_false] at member
      rcases member with rfl | rfl | rfl | rfl | rfl <;> simp_all [Command.camera?]
    rw [same]
    exact standardCamera_built
  have session : ∃ command ∈ towerQueue, command.isSession := ⟨_, List.mem_cons_self, rfl⟩
  have collapses (sample : DrawInputs Single → Single) :=
    queue_collapses sample recorder_willing .new ⟨4, 3⟩ true 7 _ (e := rested) rfl ready framed
      session
  have collapsed : Command.collapse towerQueue =
      [.resize ⟨8, 6⟩, .render (.ofObjects []) standardCamera 2] := rfl
  rw [collapsed] at collapses
  exact ⟨ready, framed, session, (collapses fun _ => Scalar.zero).1,
    (collapses fun _ => Scalar.zero).2.1, fun sample => (collapses sample).2.2.2.2.2.2.1⟩

end Engine
end RayScene.Render
