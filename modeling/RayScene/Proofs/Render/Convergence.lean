import RayScene.Proofs.Render.Answers

namespace RayScene.Render

variable {S B : Type}

def Event.asks (name : String) (event : Event S) : Bool :=
  event.request?.any (·.name == name)

theorem Session.at_least_one_toNat (samples : UInt32) :
    (max samples 1).toNat = max samples.toNat 1 := by
  show (if samples ≤ 1 then 1 else samples).toNat = if samples.toNat ≤ 1 then 1 else samples.toNat
  split
  next few => exact (if_pos (UInt32.le_iff_toNat_le.mp few)).symm
  next many => exact (if_neg fun few => many (UInt32.le_iff_toNat_le.mpr few)).symm

namespace Engine

def requests (name : String) (e : Engine S (History S B)) : Nat :=
  e.backend.events.countP (Event.asks name)

def sampleRequests : List String := ["draw_sample", "accumulate", "present"]

def frameRequests : List String := ["draw_direct"]

section

variable [Backend S B]

theorem requests_frame {name : String} (drawing : name ∈ sampleRequests ++ frameRequests)
    (count : Nat) : Frame fun e : Engine S (History S B) => e.requests name = count where
  setup e request setup same := by
    have other : (request.name == name) = false := by
      simp only [sampleRequests, frameRequests, List.cons_append, List.nil_append, List.mem_cons,
        List.not_mem_nil, or_false] at drawing
      rcases drawing with rfl | rfl | rfl | rfl
      all_goals cases request <;> first | simp [Request.name]; done | cases setup
    rcases answer : Backend.perform request e.backend.inner with ⟨reason | ⟨⟩, inner⟩
    · simpa [attempt, Backend.perform, answer, Step.Leads, endSession, requests, Backend.release,
        Event.asks, Event.request?, other] using same
    · simpa [attempt, Backend.perform, answer, Step.Leads, requests, Event.asks, Event.request?,
        other] using same
  ended e same := by
    simpa [endSession, requests, Backend.release, Event.asks, Event.request?] using same
  phase _ _ same := same

theorem requests_served {requests : List (Request S)} {e f : Engine S (History S B)}
    (served : Served requests e.backend f.backend) (name : String) :
    f.requests name = e.requests name + (requests.map Request.name).count name := by
  rw [Engine.requests, served.events, List.countP_append, List.countP_map, List.count,
    List.countP_map]
  rfl

variable [Scalar S] {e : Engine S B}

theorem tick_quiet (quiet : e.queue = []) (t : FrameTick) : e.tick t = e.draw t.time := by
  have same : { e with queue := [] } = e := by rw [← quiet]
  rw [tick, quiet, applyAll, same]
  rfl

theorem tick_carried {f : Engine S B}
    (carried : applyAll e.queue { e with queue := [] } = (.ok (), f)) (t : FrameTick) :
    e.tick t = f.tick t := by
  have quiet : f.queue = [] := by
    have emptied := applyAll_queue e.queue { e with queue := [] }
    rwa [carried] at emptied
  rw [tick_quiet quiet, tick, carried]
  rfl

theorem applyAll_carried {commands : List (Command S)} {f g : Engine S B}
    (first : applyAll commands e = (.ok (), f)) {command : Command S}
    (last : f.apply command = (.ok (), g)) : applyAll (commands ++ [command]) e = (.ok (), g) := by
  induction commands generalizing e with
  | nil =>
      obtain rfl := (Prod.mk.inj first).2
      rw [List.nil_append, applyAll, last]
      rfl
  | cons other commands ih =>
      rcases done : e.apply other with ⟨outcome, h⟩
      rcases rest : applyAll commands h with ⟨outcome', h'⟩
      rw [applyAll, done] at first
      dsimp only at first
      rw [rest] at first
      obtain ⟨both, rfl⟩ := Prod.mk.inj first
      cases outcome with
      | error _ => cases both
      | ok _ =>
          obtain rfl : outcome' = .ok () := both
          rw [List.cons_append, applyAll, done]
          dsimp only
          rw [ih rest]
          rfl

theorem runHeadless_carried {f : Engine S B}
    (carried : applyAll e.queue { e with queue := [] } = (.ok (), f)) (clock : Clock) {count : Nat}
    (some_ticks : 0 < count) : e.runHeadless clock count = f.runHeadless clock count := by
  obtain ⟨left, rfl⟩ := Nat.exists_eq_add_one.mpr some_ticks
  rw [runHeadless, runHeadless, runFrom, runFrom, tick_carried carried]

end

variable {good : B → Prop} {origin e : Engine S (History S B)} {total drawn : Nat}

/-- An offline session that has drawn so many of its samples, with one request of each kind for
every sample; it has converged as soon as that are all of them. -/
structure Sampled (good : B → Prop) (origin : Engine S (History S B)) (total drawn : Nat)
    (e : Engine S (History S B)) : Prop where
  ready : good e.backend.inner
  quiet : e.queue = []
  bounded : drawn ≤ total
  session : ∃ s, s.mode = .offline ∧ s.sampleIndex.toNat = drawn ∧ s.maxSamples.toNat = total ∧
    e.phase = if drawn < total then .active s else .converged s
  asked : ∀ name ∈ sampleRequests, e.requests name = origin.requests name + drawn

/-- A real-time session that has drawn so many frames, with one request for each of them. -/
structure Streamed (good : B → Prop) (origin : Engine S (History S B)) (drawn : Nat)
    (e : Engine S (History S B)) : Prop where
  ready : good e.backend.inner
  quiet : e.queue = []
  session : ∃ s, s.mode = .realTime ∧ e.phase = .active s
  asked : ∀ name ∈ frameRequests, e.requests name = origin.requests name + drawn

theorem Sampled.converged (sampled : Sampled good origin total total e) :
    ∃ s, e.phase = .converged s ∧ s.sampleIndex = s.maxSamples ∧ s.maxSamples.toNat = total := by
  obtain ⟨s, -, count, most, phase⟩ := sampled.session
  rw [if_neg (Nat.lt_irrefl total)] at phase
  exact ⟨s, phase, UInt32.toNat_inj.mp (count.trans most.symm), most⟩

variable [Backend S B] [Scalar S]

theorem Sampled.stopped (sampled : Sampled good origin total total e) (t : FrameTick) :
    e.tick t = (.ok .stop, e) := by
  obtain ⟨s, phase, -⟩ := sampled.converged
  rw [tick_quiet sampled.quiet, draw, phase]

/-- A tick draws one more sample; the last one ends the session. -/
theorem Sampled.ticked (willing : Willing S good) (sampled : Sampled good origin total drawn e)
    (some_left : drawn < total) (t : FrameTick) :
    ∃ f, e.tick t = (.ok (if drawn + 1 < total then .again else .stop), f) ∧
      Sampled good origin total (drawn + 1) f := by
  obtain ⟨s, offline, count, most, phase⟩ := sampled.session
  rw [if_pos some_left] at phase
  obtain ⟨backend, random, inputs, served, ready, drew⟩ :=
    drawOffline_ok willing.observed sampled.ready (s.reached t.time)
  have more : (s.sampleIndex + 1).toNat = drawn + 1 := by
    rw [Session.succ_toNat (UInt32.lt_iff_toNat_lt.mpr (by rwa [count, most])), count]
  have last : (s.reached t.time).maxSamples ≤ (s.reached t.time).sampleIndex + 1 ↔
      ¬ drawn + 1 < total := by
    show s.maxSamples ≤ s.sampleIndex + 1 ↔ _
    rw [UInt32.le_iff_toNat_le, more, most, Nat.not_lt]
  rw [tick_quiet sampled.quiet, draw, phase]
  simp only [offline]
  rw [drew]
  have asked (phase : Phase S) : ∀ name ∈ sampleRequests,
      requests name { e with backend, random, phase } = origin.requests name + (drawn + 1) := by
    intro name member
    have once : sampleRequests.count name = 1 := List.count_eq_one_of_mem (by decide) member
    have counted : requests name { e with backend, random, phase } =
        e.requests name + sampleRequests.count name :=
      requests_served (f := { e with backend, random, phase }) served name
    rw [counted, once, sampled.asked name member, Nat.add_assoc]
  by_cases others : drawn + 1 < total
  · rw [if_neg (fun done => last.mp done others), if_pos others]
    refine ⟨_, rfl, ready, sampled.quiet, some_left, ⟨{ s.reached t.time with
      sampleIndex := s.sampleIndex + 1 }, offline, more, most, ?_⟩, asked _⟩
    rw [if_pos others]
    rfl
  · rw [if_pos (last.mpr others), if_neg others]
    refine ⟨_, rfl, ready, sampled.quiet, some_left, ⟨{ s.reached t.time with
      sampleIndex := s.sampleIndex + 1 }, offline, more, most, ?_⟩, asked _⟩
    rw [if_neg others]
    rfl

theorem Sampled.completed (willing : Willing S good) (sampled : Sampled good origin total drawn e)
    (some_left : drawn < total) (clock : Clock) (frame : Nat) :
    ∃ f, e.runFrom clock frame (total - drawn) = (.ok (frame + (total - drawn)), f) ∧
      Sampled good origin total total f := by
  obtain ⟨left, count⟩ := Nat.exists_eq_add_of_lt some_left
  have ticks : total - drawn = left + 1 := by omega
  rw [ticks]
  clear ticks
  induction left generalizing e drawn frame with
  | zero =>
      obtain rfl : drawn + 1 = total := count.symm
      obtain ⟨f, ticked, after⟩ := sampled.ticked willing some_left (clock.tick frame)
      rw [if_neg (Nat.lt_irrefl _)] at ticked
      rw [runFrom, ticked]
      exact ⟨f, rfl, after⟩
  | succ left ih =>
      obtain ⟨f, ticked, after⟩ := sampled.ticked willing some_left (clock.tick frame)
      have others : drawn + 1 < total := by omega
      rw [if_pos others] at ticked
      obtain ⟨g, ran, finished⟩ := ih after others (frame + 1) (by omega)
      rw [runFrom, ticked]
      dsimp only [Step.next]
      rw [ran]
      exact ⟨g, by rw [Nat.add_assoc, Nat.add_comm 1], finished⟩

/-- However often an engine ticks, it has drawn one sample each time, until it has all of them. -/
theorem Sampled.run (willing : Willing S good) (sampled : Sampled good origin total drawn e)
    (ticks : List FrameTick) :
    Sampled good origin total (min (drawn + ticks.length) total) (e.run (ticks.map .tick)) := by
  induction ticks generalizing e drawn with
  | nil =>
      rw [List.length_nil, Nat.add_zero, Nat.min_eq_left sampled.bounded]
      exact sampled
  | cons t ticks ih =>
      rcases Nat.lt_or_eq_of_le sampled.bounded with some_left | rfl
      · obtain ⟨f, ticked, after⟩ := sampled.ticked willing some_left t
        have first : (e.tick t).2 = f := congrArg Prod.snd ticked
        have ran := ih after
        rw [← first] at ran
        rw [List.length_cons, Nat.add_comm ticks.length, ← Nat.add_assoc]
        exact ran
      · have first : (e.tick t).2 = e := congrArg Prod.snd (sampled.stopped t)
        have ran := ih sampled
        rw [Nat.min_eq_right (Nat.le_add_right _ _)] at ran ⊢
        rw [← first] at ran
        exact ran

theorem Streamed.ticked (willing : Willing S good) (streamed : Streamed good origin drawn e)
    (t : FrameTick) : ∃ f, e.tick t = (.ok .again, f) ∧ Streamed good origin (drawn + 1) f := by
  obtain ⟨s, live, phase⟩ := streamed.session
  obtain ⟨backend, random, inputs, served, ready, drew⟩ :=
    drawRealTime_ok willing.observed streamed.ready (s.reached t.time) t.time
  rw [tick_quiet streamed.quiet, draw, phase]
  simp only [live]
  rw [drew]
  refine ⟨_, rfl, ready, streamed.quiet, ⟨s.reached t.time, live, rfl⟩, fun name member => ?_⟩
  have once : frameRequests.count name = 1 := List.count_eq_one_of_mem (by decide) member
  have counted := requests_served (f := { e with backend }) served name
  show requests name { e with backend } = _
  rw [counted, streamed.asked name member, Nat.add_assoc]
  exact congrArg (fun count => origin.requests name + (drawn + count)) once

theorem Streamed.completed (willing : Willing S good) (streamed : Streamed good origin drawn e)
    (clock : Clock) (frame left : Nat) :
    ∃ f, e.runFrom clock frame left = (.ok (frame + left), f) ∧
      Streamed good origin (drawn + left) f := by
  induction left generalizing e drawn frame with
  | zero => exact ⟨e, rfl, streamed⟩
  | succ left ih =>
      obtain ⟨f, ticked, after⟩ := streamed.ticked willing (clock.tick frame)
      obtain ⟨g, ran, finished⟩ := ih after (frame + 1)
      rw [runFrom, ticked]
      dsimp only [Step.next]
      rw [ran]
      rw [Nat.add_right_comm] at finished
      exact ⟨g, by rw [Nat.add_right_comm, Nat.add_assoc], finished⟩

/-- What a session starts with, unless it could not be started. -/
theorem start_quiet (willing : Willing S good) (ready : good e.backend.inner) (quiet : e.queue = [])
    {mode : SessionMode} {scene : Scene S} {camera : Camera S} {maxSamples : UInt32}
    {f : Engine S (History S B)} (started : e.start mode scene camera maxSamples = (.ok (), f)) :
    good f.backend.inner ∧ f.queue = [] ∧
      (∀ name ∈ sampleRequests ++ frameRequests, f.requests name = e.requests name) ∧
      ∃ camera, f.phase = .active (.new mode scene camera maxSamples) := by
  have framed {P : Engine S (History S B) → Prop} (frame : Frame P) (start : P e) : P f := by
    have kept := frame.start start mode scene camera maxSamples
    rwa [started] at kept
  have leads := start_leads mode scene camera maxSamples e
  rw [started] at leads
  exact ⟨framed (ready_frame willing.observed) ready, framed (queue_frame []) quiet,
    fun name drawing => framed (requests_frame drawing _) rfl, leads.1⟩

theorem render_sampled (willing : Willing S good) (ready : good e.backend.inner)
    (quiet : e.queue = []) {scene : Scene S} {camera : Camera S} {maxSamples : UInt32}
    {f : Engine S (History S B)} (started : e.render scene camera maxSamples = (.ok (), f)) :
    Sampled good e (max maxSamples.toNat 1) 0 f := by
  obtain ⟨ready, quiet, asked, camera, active⟩ := start_quiet willing ready quiet started
  have some_samples : 0 < max maxSamples.toNat 1 := lt_max_of_lt_right Nat.one_pos
  refine ⟨ready, quiet, Nat.zero_le _, ⟨.new .offline scene camera (max maxSamples 1), rfl, rfl,
    Session.at_least_one_toNat maxSamples, ?_⟩, fun name member => ?_⟩
  · rw [if_pos some_samples]
    exact active
  · exact asked name (List.mem_append_left _ member)

/-- A tick behind others answers that there is more, unless it draws the last sample. -/
theorem render_answers (willing : Willing S good) (ready : good e.backend.inner)
    (quiet : e.queue = []) {scene : Scene S} {camera : Camera S} {maxSamples : UInt32}
    (started : (e.render scene camera maxSamples).1 = .ok ()) (earlier : List FrameTick)
    (t : FrameTick) :
    (((e.render scene camera maxSamples).2.run (earlier.map .tick)).tick t).1 =
      .ok (if earlier.length + 1 < max maxSamples.toNat 1 then .again else .stop) := by
  have sampled : Sampled good e (max maxSamples.toNat 1) 0 (e.render scene camera maxSamples).2 :=
    render_sampled willing ready quiet (Prod.ext started rfl)
  have drawn := sampled.run willing earlier
  rw [Nat.zero_add] at drawn
  rcases Nat.lt_or_ge earlier.length (max maxSamples.toNat 1) with some_left | none_left
  · rw [Nat.min_eq_left some_left.le] at drawn
    obtain ⟨f, ticked, -⟩ := drawn.ticked willing some_left t
    rw [ticked]
  · rw [Nat.min_eq_right none_left] at drawn
    rw [drawn.stopped t, if_neg (by omega)]

theorem realTime_streamed (willing : Willing S good) (ready : good e.backend.inner)
    (quiet : e.queue = []) {scene : Scene S} {camera : Camera S} {f : Engine S (History S B)}
    (started : e.realTime scene camera = (.ok (), f)) : Streamed good e 0 f := by
  obtain ⟨ready, quiet, asked, camera, active⟩ := start_quiet willing ready quiet started
  exact ⟨ready, quiet, ⟨_, rfl, active⟩,
    fun name member => asked name (List.mem_append_right _ member)⟩

theorem applyAll_quiet (willing : Willing S good) (ready : good e.backend.inner)
    {f : Engine S (History S B)}
    (carried : applyAll e.queue { e with queue := [] } = (.ok (), f)) :
    good f.backend.inner ∧ f.queue = [] ∧
      ∀ name ∈ sampleRequests ++ frameRequests, f.requests name = e.requests name := by
  have framed {P : Engine S (History S B) → Prop} (frame : Frame P)
      (resized : ∀ e viewport, P e → P { e with viewport }) (start : P { e with queue := [] }) :
      P f := by
    have kept := applyAll_keeps (P := P)
      (fun command f kept => (frame.apply resized kept command).after) e.queue start
    rwa [carried] at kept
  exact ⟨framed (ready_frame willing.observed) (fun _ _ same => same) ready,
    framed (queue_frame []) (fun _ _ same => same) rfl,
    fun name drawing => framed (requests_frame drawing _) (fun _ _ same => same) rfl⟩

end Engine
end RayScene.Render
