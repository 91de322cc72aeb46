import RayScene.Proofs.Render.Resources
import RayScene.Proofs.Render.Seeds
import RayScene.Render.Recorder

/-!
What is shown of an offline session: the mean of the samples that it has drawn since it got its
buffer, all of them at the size of the output, each with random numbers of its own.
-/

namespace RayScene.Render

variable {S B : Type}

structure Drawn (S : Type) where
  inputs : DrawInputs S
  /-- The size of the output when it was drawn. -/
  size : Viewport

structure Canvas (S : Type) where
  size : Viewport
  sum : S
  trace : S
  drawn : List (Drawn S)
  shown : List S

variable [Scalar S] (sample : DrawInputs S → S)

namespace Canvas

def initial (size : Viewport) : Canvas S := ⟨size, Scalar.zero, Scalar.zero, [], []⟩

def note (c : Canvas S) : Event S → Canvas S
  | .served (.allocate _) => { c with sum := Scalar.zero, trace := Scalar.zero, drawn := [] }
  | .served (.drawSample inputs) =>
    { c with trace := c.sum + sample inputs, drawn := c.drawn ++ [⟨inputs, c.size⟩] }
  | .served .accumulate => { c with sum := c.trace }
  | .served (.present inputs) => { c with shown := c.shown ++ [c.sum * inputs.frame.scale] }
  | .served (.resize size) => { c with size }
  | _ => c

theorem note_size {c : Canvas S} {r : Resources S} (same : c.size = r.size) (event : Event S) :
    (c.note sample event).size = (r.note event).size := by
  cases event with
  | served request =>
      cases request with
      | resize size => rfl
      | _ => exact same
  | refused request => exact same
  | released => exact same

def samples (c : Canvas S) : List S := c.drawn.map fun d => sample d.inputs

end Canvas

def total (samples : List S) : S := samples.foldl (· + ·) Scalar.zero

theorem total_concat (samples : List S) (s : S) : total (samples ++ [s]) = total samples + s := by
  simp only [total, List.foldl_append, List.foldl_cons, List.foldl_nil]

namespace Engine

def canvas (origin : Viewport) (e : Engine S (History S B)) : Canvas S :=
  e.reckon (Canvas.note sample) (.initial origin)

@[simp] theorem canvas_noting (origin : Viewport) (inner : B) (event : Event S)
    (e : Engine S (History S B)) :
    (e.noting inner event).canvas sample origin = (e.canvas sample origin).note sample event :=
  reckon_noting _ _ inner event e

theorem canvas_size (origin : Viewport) (e : Engine S (History S B)) :
    (e.canvas sample origin).size = (e.resources origin).size := by
  have both (events : List (Event S)) {c : Canvas S} {r : Resources S} (same : c.size = r.size) :
      (events.foldl (Canvas.note sample) c).size = (events.foldl Resources.note r).size := by
    induction events generalizing c r with
    | nil => exact same
    | cons event events ih => exact ih (Canvas.note_size sample same event)
  exact both e.backend.events rfl

theorem reseeded_canvas (origin : Viewport) (seed : UInt64) (e : Engine S (History S B)) :
    (e.reseeded seed).canvas sample origin = e.canvas sample origin := by
  rw [canvas, reckon, reseeded_backend, canvas, reckon]

structure Tracked (origin : Viewport) (seed : UInt64) (shown : List S)
    (e : Engine S (History S B)) : Prop extends Seeded seed e where
  shown : (e.canvas sample origin).shown = shown

/-- The buffer holds exactly the samples of the session, which are the latest draws of all. -/
structure Accumulated (origin : Viewport) (s : Session S) (e : Engine S (History S B)) : Prop where
  sum : (e.canvas sample origin).sum = total ((e.canvas sample origin).samples sample)
  count : s.sampleIndex.toNat = (e.canvas sample origin).drawn.length
  own : ∀ d ∈ (e.canvas sample origin).drawn, d.size = e.viewport ∧ d.inputs.camera = s.camera ∧
    ∃ seed count, d.inputs.frame = (Frame.ofScene s.scene e.viewport seed).withSamples count
  latest : ∃ earlier, e.draws = earlier ++ (e.canvas sample origin).drawn.map (·.inputs)

/-- The value shown last is the mean of all samples of the session; the zero that the sum starts
with is not seen where adding it to the first sample changes nothing. -/
def Presents (origin : Viewport) (shown : List S) (e : Engine S (History S B)) : Prop :=
  ∃ s value, e.phase.session? = some s ∧ s.mode = .offline ∧ 0 < s.sampleIndex.toNat ∧
    Accumulated sample origin s e ∧ (e.canvas sample origin).shown = shown ++ [value] ∧
    value = total ((e.canvas sample origin).samples sample) *
      (1.0 / Scalar.ofNat s.sampleIndex.toNat) ∧
    ∀ first rest, (e.canvas sample origin).samples sample = first :: rest →
      Scalar.zero + first = first →
      value = rest.foldl (· + ·) first * (1.0 / Scalar.ofNat s.sampleIndex.toNat)

structure Tallied (origin : Viewport) (seed : UInt64) (shown : List S)
    (e : Engine S (History S B)) : Prop extends Tracked sample origin seed shown e where
  tally : ∀ s, e.phase = .active s → s.mode = .offline → Accumulated sample origin s e

variable {sample} {origin : Viewport} {seed : UInt64} {shown : List S}
  {e : Engine S (History S B)} {s : Session S}

theorem Accumulated.fresh (none_drawn : s.sampleIndex = 0)
    (zero : (e.canvas sample origin).sum = Scalar.zero)
    (empty : (e.canvas sample origin).drawn = []) : Accumulated sample origin s e where
  sum := by
    rw [zero, Canvas.samples, empty]
    rfl
  count := by
    rw [none_drawn, empty]
    rfl
  own := by
    intro d member
    rw [empty] at member
    cases member
  latest := ⟨e.draws, by rw [empty, List.map_nil, List.append_nil]⟩

/-- One more sample of the session, at the size of the output, belongs to the others. -/
theorem Accumulated.more {next : Engine S (History S B)} {t : Session S} {inputs : DrawInputs S}
    {numbers : S × S} {samples : UInt32} (accumulated : Accumulated sample origin s e)
    (viewport : next.viewport = e.viewport) (scene : t.scene = s.scene)
    (camera : t.camera = s.camera) (count : t.sampleIndex.toNat = s.sampleIndex.toNat + 1)
    (made : inputs = ⟨s.camera, (Frame.ofScene s.scene e.viewport numbers).withSamples samples⟩)
    (draws : next.draws = e.draws ++ [inputs])
    (drawn : (next.canvas sample origin).drawn =
      (e.canvas sample origin).drawn ++ [⟨inputs, e.viewport⟩])
    (sum : (next.canvas sample origin).sum = (e.canvas sample origin).sum + sample inputs) :
    Accumulated sample origin t next where
  sum := by
    rw [sum, accumulated.sum, Canvas.samples, Canvas.samples, drawn, List.map_append]
    exact (total_concat _ _).symm
  count := by rw [count, accumulated.count, drawn, List.length_append, List.length_singleton]
  own := by
    intro d member
    rw [viewport, scene, camera]
    rw [drawn, List.mem_append, List.mem_singleton] at member
    rcases member with before | rfl
    · exact accumulated.own d before
    · exact ⟨rfl, by rw [made], numbers, samples, by rw [made]⟩
  latest := by
    obtain ⟨earlier, split⟩ := accumulated.latest
    refine ⟨earlier, ?_⟩
    rw [draws, drawn, split, List.map_append, List.append_assoc]
    rfl

/-- What an engine shows that has gone on to `next` by one more sample of its session. -/
theorem Accumulated.presents {next : Engine S (History S B)} {inputs : DrawInputs S}
    {numbers : S × S} {count : UInt32} (accumulated : Accumulated sample origin s e)
    (offline : s.mode = .offline) (counted : count.toNat = s.sampleIndex.toNat + 1)
    (made : inputs = ⟨s.camera, (Frame.ofScene s.scene e.viewport numbers).withSamples count⟩)
    (seeded : Seeded seed next) (viewport : next.viewport = e.viewport)
    (draws : next.draws = e.draws ++ [inputs])
    (drawn : (next.canvas sample origin).drawn =
      (e.canvas sample origin).drawn ++ [⟨inputs, e.viewport⟩])
    (sum : (next.canvas sample origin).sum = (e.canvas sample origin).sum + sample inputs)
    (shows : (next.canvas sample origin).shown =
      shown ++ [(next.canvas sample origin).sum * inputs.frame.scale])
    (phase : Phase S) (running : phase.session? = some { s with sampleIndex := count }) :
    Presents sample origin shown { next with phase } ∧
      ∃ more, Tallied sample origin seed more { next with phase } := by
  have scale : inputs.frame.scale = 1.0 / Scalar.ofNat count.toNat := by
    rw [made]
    show 1.0 / Scalar.ofNat (max count.toNat 1) = _
    rw [Nat.max_eq_left (by omega)]
  have more : Accumulated sample origin { s with sampleIndex := count } { next with phase } :=
    accumulated.more viewport rfl rfl counted made draws drawn sum
  have mean : (next.canvas sample origin).sum * inputs.frame.scale =
      total ((next.canvas sample origin).samples sample) * (1.0 / Scalar.ofNat count.toNat) := by
    rw [scale]
    exact congrArg (· * _) more.sum
  refine ⟨⟨_, _, running, offline, ?_, more, shows, mean, ?_⟩, _,
    ⟨⟨⟨seeded.random, seeded.seeds⟩, rfl⟩, ?_⟩⟩
  · show 0 < count.toNat
    omega
  · intro first rest split neutral
    have leading : total (first :: rest) = rest.foldl (· + ·) first := by
      rw [total, List.foldl_cons, neutral]
    rw [mean, ← leading]
    exact congrArg (total · * _) split
  · rintro t rfl _
    obtain rfl := Option.some.inj running
    exact more

theorem Tracked.noting (tracked : Tracked sample origin seed shown e) (inner : B) (event : Event S)
    (silent : event.drawing? = none)
    (hidden : ∀ c : Canvas S, (c.note sample event).shown = c.shown) :
    Tracked sample origin seed shown (e.noting inner event) where
  toSeeded := tracked.toSeeded.noting inner event silent
  shown := by
    rw [canvas_noting, hidden]
    exact tracked.shown

theorem Tracked.drawing (tracked : Tracked sample origin seed shown e) (inner : B) (event : Event S)
    {inputs : DrawInputs S} (drawn : event.drawing? = some inputs)
    (own : inputs.frame.seed = Random.seedAt ⟨seed⟩ e.draws.length)
    (hidden : ∀ c : Canvas S, (c.note sample event).shown = c.shown) :
    Tracked sample origin seed shown ((e.reseeded seed).noting inner event) where
  toSeeded := tracked.toSeeded.drawing inner drawn own
  shown := by
    rw [canvas_noting, hidden, reseeded_canvas]
    exact tracked.shown

theorem Tracked.direct (tracked : Tracked sample origin seed shown e)
    (realTime : s.mode = .realTime) (frames : FrameTimes) :
    Tallied sample origin seed shown { e with phase := .active s, frames } where
  toTracked := ⟨⟨tracked.random, tracked.seeds⟩, tracked.shown⟩
  tally t active offline := by
    obtain rfl := Phase.active.inj active
    rw [realTime] at offline
    cases offline

theorem Tallied.requeued (tallied : Tallied sample origin seed shown e) (queue : List (Command S)) :
    Tallied sample origin seed shown { e with queue } where
  toTracked := ⟨⟨tallied.random, tallied.seeds⟩, tallied.shown⟩
  tally s active offline := by
    obtain ⟨sum, count, own, latest⟩ := tallied.tally s active offline
    exact ⟨sum, count, own, latest⟩

theorem new_tallied (backend : B) (bakesCamera : Bool) (seed : UInt64) :
    Tallied sample origin seed [] (new ⟨backend, []⟩ origin bakesCamera seed) where
  random := rfl
  seeds := rfl
  shown := rfl
  tally _ active := by cases active

variable [Backend S B]

theorem Tracked.endSession (tracked : Tracked sample origin seed shown e) :
    Tallied sample origin seed shown e.endSession := by
  obtain ⟨⟨random, seeds⟩, kept⟩ :=
    tracked.noting (Backend.release S e.backend.inner) .released rfl fun _ => rfl
  exact ⟨⟨⟨random, seeds⟩, kept⟩, fun _ active => by cases active⟩

/-- A request that draws nothing can be refused without harm. -/
theorem attempt_tallied {α : Type} {good : α → Engine S (History S B) → Prop} {request : Request S}
    {rest : Unit → Engine S (History S B) → Step S (History S B) α}
    (tracked : Tracked sample origin seed shown e) (silent : request.drawing? = none)
    (served : ∀ inner, (rest () (e.noting inner (.served request))).Leads good
      (Tallied sample origin seed shown)) :
    ((e.attempt request).next rest).Leads good (Tallied sample origin seed shown) := by
  apply attempt_next served
  intro inner
  have noted : Tracked sample origin seed shown (e.noting inner (.refused request)) :=
    tracked.noting inner (.refused request) silent fun _ => rfl
  exact noted.endSession

theorem cancel_tallied (tallied : Tallied sample origin seed shown e) :
    Tallied sample origin seed shown e.cancel :=
  cancel_keeps tallied tallied.toTracked.endSession

theorem begin_tallied (tracked : Tracked sample origin seed shown e)
    (none_drawn : s.mode = .offline → s.sampleIndex = 0) :
    (e.begin s).Keeps (Tallied sample origin seed shown) := by
  rcases mode : s.mode with _ | _
  · simp only [begin, allocate, mode]
    refine attempt_tallied tracked rfl fun inner => ?_
    have noted := canvas_noting sample origin inner (.served (.allocate e.viewport)) e
    obtain ⟨⟨random, seeds⟩, kept⟩ :=
      tracked.noting inner (.served (.allocate e.viewport)) rfl fun _ => rfl
    refine ⟨⟨⟨random, seeds⟩, kept⟩, fun t active _ => ?_⟩
    obtain rfl := Phase.active.inj active
    exact .fresh (none_drawn mode) (congrArg Canvas.sum noted) (congrArg Canvas.drawn noted)
  · simp only [begin, allocate, mode]
    exact tracked.direct mode e.frames

theorem prepare_tallied (tallied : Tallied sample origin seed shown e)
    (none_drawn : s.mode = .offline → s.sampleIndex = 0) :
    (e.prepare s).Keeps (Tallied sample origin seed shown) := by
  unfold prepare loadProgram
  dsimp only
  split
  next => exact tallied
  next =>
    refine attempt_tallied tallied.toTracked rfl fun inner => ?_
    exact begin_tallied (tallied.toTracked.noting inner _ rfl fun _ => rfl) none_drawn

theorem start_tallied (tallied : Tallied sample origin seed shown e) (mode : SessionMode)
    (scene : Scene S) (camera : Camera S) (maxSamples : UInt32) :
    (e.start mode scene camera maxSamples).Keeps (Tallied sample origin seed shown) := by
  have cancelled := cancel_tallied tallied
  rcases start_cases mode scene camera maxSamples e with ⟨error, failed⟩ | ⟨other, started⟩
  · rw [failed]
    exact cancelled
  · rw [started]
    exact prepare_tallied cancelled fun _ => rfl

theorem resume_tallied (tallied : Tallied sample origin seed shown e) (s : Session S) :
    (e.resume s).Keeps (Tallied sample origin seed shown) := by
  have none_drawn (t : Session S) : t.restarted.mode = .offline → t.restarted.sampleIndex = 0 := by
    rw [Session.restarted_mode]
    exact Session.restarted_sampleIndex
  rcases resume_cases s e with ⟨error, failed⟩ | ⟨camera, resumed⟩
  · rw [failed]
    exact tallied.toTracked.endSession
  · rw [resumed]
    split
    next => exact prepare_tallied tallied (none_drawn _)
    next => exact begin_tallied tallied.toTracked (none_drawn _)

theorem resize_tallied (tallied : Tallied sample origin seed shown e) (size : Viewport) :
    (e.resize size).Keeps (Tallied sample origin seed shown) := by
  unfold resize
  split
  next => exact tallied
  next =>
    refine attempt_tallied tallied.toTracked rfl fun inner => ?_
    obtain ⟨⟨random, seeds⟩, kept⟩ :=
      tallied.toTracked.noting inner (.served (.resize size)) rfl fun _ => rfl
    dsimp only
    split
    next ended =>
      have idle : e.phase = .idle := idle_of_no_session ended
      refine ⟨⟨⟨random, seeds⟩, kept⟩, fun t active => ?_⟩
      exact absurd (idle.symm.trans active) (by simp)
    next =>
      refine resume_tallied ?_ _
      exact ⟨⟨⟨random, seeds⟩, kept⟩, fun _ active => by cases active⟩

theorem apply_tallied (tallied : Tallied sample origin seed shown e) (command : Command S) :
    Tallied sample origin seed shown (e.apply command).2 := by
  cases command with
  | render scene camera maxSamples => exact (start_tallied tallied .offline scene camera _).after
  | realTime scene camera => exact (start_tallied tallied .realTime scene camera 0).after
  | cancel => exact cancel_tallied tallied
  | resize size => exact (resize_tallied tallied size).after

theorem drawOffline_presents (tracked : Tracked sample origin seed shown e)
    (accumulated : Accumulated sample origin s e) (offline : s.mode = .offline)
    (size : (e.canvas sample origin).size = e.viewport) (some_left : s.sampleIndex < s.maxSamples) :
    (e.drawOffline s).Leads
      (fun _ e => Presents sample origin shown e ∧ ∃ more, Tallied sample origin seed more e)
      (Tallied sample origin seed shown) := by
  have counted := Session.succ_toNat some_left
  unfold drawOffline
  rw [nextFrame_seeded tracked.toSeeded]
  dsimp only
  -- Only the value of the count matters; as a sum it would be compared with the old one.
  generalize s.sampleIndex + 1 = count at counted ⊢
  obtain ⟨inputs, made⟩ : ∃ inputs : DrawInputs S, inputs = ⟨s.camera,
    (Frame.ofScene s.scene e.viewport (Random.seedAt ⟨seed⟩ e.draws.length)).withSamples count⟩ :=
      ⟨_, rfl⟩
  rw [← made]
  have own : inputs.frame.seed = Random.seedAt ⟨seed⟩ e.draws.length := by
    rw [made]
    rfl
  refine attempt_next (fun drawing => ?_) fun inner =>
    (tracked.drawing inner (.refused (.drawSample inputs)) rfl own fun _ => rfl).endSession
  have traced := tracked.drawing drawing (.served (.drawSample inputs)) rfl own fun _ => rfl
  refine attempt_tallied traced rfl fun adding => ?_
  have added := traced.noting adding (.served .accumulate) rfl fun _ => rfl
  refine attempt_tallied added rfl fun showing => ?_
  have seeded := added.toSeeded.noting showing (.served (.present inputs)) rfl
  have presents := accumulated.presents offline counted made seeded
    (by rw [noting_viewport, noting_viewport, noting_viewport, reseeded_viewport])
    (by
      rw [draws_noting, draws_noting, draws_noting, reseeded_draws]
      simp [Event.drawing?, Event.request?, Request.drawing?])
    (by
      rw [canvas_noting, canvas_noting, canvas_noting, reseeded_canvas, ← size]
      rfl)
    (by
      rw [canvas_noting, canvas_noting, canvas_noting, reseeded_canvas]
      rfl)
    (by
      rw [canvas_noting, canvas_noting, canvas_noting, reseeded_canvas]
      exact congrArg (· ++ [_]) tracked.shown)
  split
  next => exact presents _ rfl
  next => exact presents _ rfl

theorem drawRealTime_tallied (tracked : Tracked sample origin seed shown e)
    (realTime : s.mode = .realTime) (time : Duration) :
    (e.drawRealTime s time).Keeps (Tallied sample origin seed shown) := by
  unfold drawRealTime
  rw [nextFrame_seeded tracked.toSeeded]
  dsimp only
  obtain ⟨inputs, made⟩ : ∃ inputs : DrawInputs S, inputs = ⟨s.camera,
    Frame.ofScene s.scene e.viewport (Random.seedAt ⟨seed⟩ e.draws.length)⟩ := ⟨_, rfl⟩
  rw [← made]
  have own : inputs.frame.seed = Random.seedAt ⟨seed⟩ e.draws.length := by
    rw [made]
    rfl
  refine attempt_next (fun inner => ?_) fun inner =>
    (tracked.drawing inner (.refused (.drawDirect inputs)) rfl own fun _ => rfl).endSession
  have drawn := tracked.drawing inner (.served (.drawDirect inputs)) rfl own fun _ => rfl
  exact drawn.direct realTime _

/-- A draw shows the mean of its session, or nothing. -/
theorem draw_tallied (tallied : Tallied sample origin seed shown e)
    (consistent : Consistent origin e) (time : Duration) :
    Tallied sample origin seed shown (e.draw time).2 ∨
      Presents sample origin shown (e.draw time).2 ∧
        ∃ more, Tallied sample origin seed more (e.draw time).2 := by
  rcases draw_cases time e with ⟨-, drawn⟩ | ⟨s, active, mode, drawn⟩ | ⟨s, active, mode, drawn⟩
  · rw [drawn]
    exact .inl tallied
  · have equipped := consistent.equipped
    rw [Equipped, active] at equipped
    simp only [mode] at equipped
    obtain ⟨_, _, some_left⟩ := equipped
    have size : (e.canvas sample origin).size = e.viewport :=
      (canvas_size sample origin e).trans consistent.size
    obtain ⟨sum, count, own, latest⟩ := tallied.tally s active mode
    have reached : Accumulated sample origin (s.reached time) e := ⟨sum, count, own, latest⟩
    rw [drawn]
    exact (drawOffline_presents tallied.toTracked reached mode size some_left).either
      (P := fun e => Tallied sample origin seed shown e ∨ Presents sample origin shown e ∧
        ∃ more, Tallied sample origin seed more e)
      (fun _ _ presents => .inr presents) fun _ ended => .inl ended
  · have direct : (s.reached time).mode = .realTime := mode
    rw [drawn]
    exact .inl (drawRealTime_tallied tallied.toTracked direct time).after

/-- An operation shows the mean of a session, or nothing. -/
theorem operate_tallied (tallied : Tallied sample origin seed shown e)
    (consistent : Consistent origin e) (operation : Operation S) :
    Tallied sample origin seed shown (e.operate operation) ∨
      Presents sample origin shown (e.operate operation) ∧
        ∃ more, Tallied sample origin seed more (e.operate operation) := by
  cases operation with
  | apply command => exact .inl (apply_tallied tallied command)
  | send command => exact .inl (tallied.requeued (e.queue ++ [command]))
  | tick t =>
      have emptied : Tallied sample origin seed shown { e with queue := [] } ∧
          Consistent origin { e with queue := [] } :=
        ⟨tallied.requeued [], consistent.requeued []⟩
      obtain ⟨applied, kept⟩ := applyAll_keeps
        (P := fun e => Tallied sample origin seed shown e ∧ Consistent origin e)
        (fun command _ both => ⟨apply_tallied both.1 command, apply_consistent both.2 command⟩)
        e.queue emptied
      rcases tick_cases t e with ended | drawn
      · rw [operate, ended]
        exact .inl applied
      · rw [operate, drawn]
        exact draw_tallied applied kept t.time

theorem run_tallied (sample : DrawInputs S → S) (backend : B) (viewport : Viewport)
    (bakesCamera : Bool) (seed : UInt64) (operations : List (Operation S)) :
    let e := (new ⟨backend, []⟩ viewport bakesCamera seed : Engine S (History S B)).run operations
    (∃ shown, Tallied sample viewport seed shown e) ∧ Consistent viewport e := by
  apply run_keeps
    (P := fun e => (∃ shown, Tallied sample viewport seed shown e) ∧ Consistent viewport e)
  · rintro operation e ⟨⟨shown, tallied⟩, consistent⟩
    refine ⟨?_, operate_consistent viewport operation e consistent⟩
    rcases operate_tallied tallied consistent operation with kept | ⟨_, more⟩
    · exact ⟨shown, kept⟩
    · exact more
  · exact ⟨⟨[], new_tallied backend bakesCamera seed⟩,
      new_consistent viewport backend bakesCamera seed⟩

/-- Nothing is ever shown but the mean of all samples of the running session. -/
theorem run_presents (sample : DrawInputs S → S) (backend : B) (viewport : Viewport)
    (bakesCamera : Bool) (seed : UInt64) (operations : List (Operation S))
    (operation : Operation S) :
    let start : Engine S (History S B) := new ⟨backend, []⟩ viewport bakesCamera seed
    let before := start.run operations
    let after := before.operate operation
    ((after.canvas sample viewport).shown = (before.canvas sample viewport).shown ∨
      Presents sample viewport (before.canvas sample viewport).shown after) ∧
      after.draws.map (·.frame.seed) =
        (List.range after.draws.length).map (Random.seedAt ⟨seed⟩) := by
  obtain ⟨⟨shown, tallied⟩, consistent⟩ :=
    run_tallied sample backend viewport bakesCamera seed operations
  dsimp only
  rw [tallied.shown]
  rcases operate_tallied tallied consistent operation with kept | ⟨presents, _, more⟩
  · exact ⟨.inl kept.shown, kept.seeds⟩
  · exact ⟨.inr presents, more.seeds⟩

example (sample : DrawInputs S → S) (camera : Camera S) :
    let e := (new ⟨Recorder.new, []⟩ ⟨0, 0⟩ false 7 : Engine S (History S (Recorder S))).run
      [.apply (.render (.ofObjects []) camera 1), .tick ⟨.zero, 0⟩]
    e.isConverged = true ∧ ∃ s,
      (e.canvas sample ⟨0, 0⟩).shown = [(Scalar.zero + s) * (1.0 / Scalar.ofNat 1)] :=
  ⟨rfl, _, rfl⟩

end Engine
end RayScene.Render
