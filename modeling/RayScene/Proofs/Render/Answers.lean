import RayScene.Proofs.Render.Fulfilment

/-!
What the answer of a tick tells of the session behind it, on a side that may refuse anything. A
command that fails and a draw that fails leave the engine idle. All commands are carried out before
the first error is reported, however, so an error can hide a session that one of the later commands
has started.
-/

namespace RayScene.Render.Engine

variable {S B : Type}

/-- A session is running, and has not converged. -/
def IsActive (e : Engine S B) : Prop := ∃ s, e.phase = .active s

theorem not_active_of_idle {e : Engine S B} (idle : e.phase = .idle) : ¬ e.IsActive := by
  rintro ⟨s, active⟩
  rw [idle] at active
  cases active

theorem isActive_iff {e : Engine S B} :
    e.IsActive ↔ e.isIdle = false ∧ e.isConverged = false := by
  unfold IsActive isIdle isConverged
  cases e.phase <;> simp [Phase.session?]

def Starts (commands : List (Command S)) : Prop := (Command.goal? commands).isSome = true

structure Led (commands : List (Command S)) (e : Engine S B) : Prop where
  active : Starts commands → e.IsActive
  idle : ¬ Starts commands → e.phase = .idle

theorem Led.isActive_iff {commands : List (Command S)} {e : Engine S B} (led : Led commands e) :
    e.IsActive ↔ Starts commands := by
  by_cases starts : Starts commands
  · exact iff_of_true (led.active starts) starts
  · exact iff_of_false (not_active_of_idle (led.idle starts)) starts

theorem not_starts_none : ¬ Starts ([] : List (Command S)) := Bool.false_ne_true

theorem led_by_none {e : Engine S B} (idle : e.phase = .idle) : Led [] e where
  active starts := absurd starts not_starts_none
  idle _ := idle

theorem starts_session (commands : List (Command S)) {command : Command S}
    (session : command.isSession = true) :
    Starts (commands ++ [command]) ↔ command.wish?.isSome = true := by
  rw [Starts, Command.goal?_session commands session]

theorem starts_resize (commands : List (Command S)) (size : Viewport) :
    Starts (commands ++ [.resize size]) ↔ Starts commands := by
  rw [Starts, Starts, Command.goal?_resize]

section Commands

variable [Backend S B] {e : Engine S B}

theorem attempt_leads (request : Request S) (e : Engine S B) :
    (e.attempt request).Leads (fun _ f => f.phase = e.phase ∧ f.frames = e.frames)
      fun f => f.phase = .idle := by
  unfold attempt
  split
  next => exact ⟨rfl, rfl⟩
  next => rfl

theorem begin_leads (s : Session S) (e : Engine S B) :
    (e.begin s).Leads (fun _ f => f.phase = .active s ∧ f.frames = e.frames)
      fun f => f.phase = .idle := by
  unfold begin allocate
  split
  next => exact (attempt_leads _ e).next fun _ _ same => ⟨rfl, same.2⟩
  next => exact ⟨rfl, rfl⟩

variable [Scalar S]

theorem loadProgram_leads (idle : e.phase = .idle) (s : Session S) :
    (e.loadProgram s).Leads (fun _ f => f.frames = e.frames) fun f => f.phase = .idle := by
  unfold loadProgram
  dsimp only
  split
  next => exact idle
  next => exact (attempt_leads _ e).imp (fun _ _ same => same.2) fun _ failed => failed

theorem prepare_leads (idle : e.phase = .idle) (s : Session S) :
    (e.prepare s).Leads (fun _ f => f.phase = .active s ∧ f.frames = e.frames)
      fun f => f.phase = .idle :=
  (loadProgram_leads idle s).next fun _ f same =>
    (begin_leads s f).imp (fun _ _ begun => ⟨begun.1, begun.2.trans same⟩) fun _ failed => failed

/-- A start leads to a new session. -/
theorem start_leads (mode : SessionMode) (scene : Scene S) (camera : Camera S)
    (maxSamples : UInt32) (e : Engine S B) :
    (e.start mode scene camera maxSamples).Leads
      (fun _ f => (∃ other, f.phase = .active (.new mode scene other maxSamples)) ∧
        f.frames = e.cancel.frames)
      fun f => f.phase = .idle := by
  rcases start_cases mode scene camera maxSamples e with ⟨error, failed⟩ | ⟨other, started⟩
  · rw [failed]
    exact cancel_idle e
  · rw [started]
    exact (prepare_leads (cancel_idle e) _).imp (fun _ _ begun => ⟨⟨other, begun.1⟩, begun.2⟩)
      fun _ failed => failed

theorem resume_leads (idle : e.phase = .idle) (s : Session S) :
    (e.resume s).Leads
      (fun _ f => (∃ camera, f.phase = .active { s with camera }.restarted) ∧
        f.frames = e.frames)
      fun f => f.phase = .idle := by
  rcases resume_cases s e with ⟨error, failed⟩ | ⟨camera, resumed⟩
  · rw [failed]
    rfl
  · have named {f : Engine S B} (begun : f.phase = .active { s with camera }.restarted ∧
        f.frames = e.frames) :
        (∃ camera, f.phase = .active { s with camera }.restarted) ∧ f.frames = e.frames :=
      ⟨⟨camera, begun.1⟩, begun.2⟩
    rw [resumed]
    split
    next => exact (prepare_leads idle _).imp (fun _ _ => named) fun _ failed => failed
    next => exact (begin_leads _ e).imp (fun _ _ => named) fun _ failed => failed

/-- A resize goes on with the session that there is, and starts none where there is none. -/
theorem resize_leads (size : Viewport) (e : Engine S B) :
    (e.resize size).Leads
      (fun _ f => (f.phase = e.phase ∨ ∃ s camera, e.phase.session? = some s ∧
        f.phase = .active { s with camera }.restarted) ∧ f.frames = e.frames)
      fun f => f.phase = .idle := by
  unfold resize
  split
  next => exact ⟨.inl rfl, rfl⟩
  next =>
    refine (attempt_leads _ e).next fun _ f ⟨kept, frames⟩ => ?_
    dsimp only
    split
    next => exact ⟨.inl kept, frames⟩
    next s running =>
      rw [kept] at running
      exact (resume_leads rfl s).imp
        (fun _ _ ⟨⟨camera, active⟩, same⟩ => ⟨.inr ⟨s, camera, running, active⟩, same.trans frames⟩)
        fun _ failed => failed

theorem apply_leads (command : Command S) (e : Engine S B) :
    (e.apply command).Leads (fun _ f => ∀ done, Led done e → Led (done ++ [command]) f)
      fun f => f.phase = .idle := by
  have started {f : Engine S B} (session : command.isSession = true)
      (wish : command.wish?.isSome = true) (active : f.IsActive) (done : List (Command S)) :
      Led (done ++ [command]) f :=
    ⟨fun _ => active, fun none => absurd ((starts_session done session).mpr wish) none⟩
  cases command with
  | render scene camera maxSamples =>
      exact (start_leads .offline scene camera (max maxSamples 1) e).imp
        (fun _ _ ⟨⟨_, active⟩, _⟩ done _ => started rfl rfl ⟨_, active⟩ done)
        fun _ failed => failed
  | realTime scene camera =>
      exact (start_leads .realTime scene camera 0 e).imp
        (fun _ _ ⟨⟨_, active⟩, _⟩ done _ => started rfl rfl ⟨_, active⟩ done)
        fun _ failed => failed
  | cancel =>
      intro done _
      have none : ¬ Starts (done ++ [.cancel]) := by
        rw [starts_session done rfl]
        exact Bool.false_ne_true
      exact ⟨fun starts => absurd starts none, fun _ => cancel_idle e⟩
  | resize size =>
      refine (resize_leads size e).imp (fun _ f leads done led => ?_) fun _ failed => failed
      rcases leads.1 with kept | ⟨s, camera, running, active⟩
      · constructor <;> rw [starts_resize]
        · intro starts
          rw [IsActive, kept]
          exact led.active starts
        · exact fun none => kept.trans (led.idle none)
      · refine ⟨fun _ => ⟨_, active⟩, fun none => ?_⟩
        rw [starts_resize] at none
        rw [led.idle none] at running
        cases running

theorem apply_failed {command : Command S} {error : RenderError S}
    (failed : (e.apply command).1 = .error error) : (e.apply command).2.phase = .idle := by
  have leads := apply_leads command e
  rcases outcome : e.apply command with ⟨_ | _, f⟩
  · rw [outcome] at leads
    exact leads
  · rw [outcome] at failed
    cases failed

/-- A command fails, and all that wait behind it are carried out and start a session. -/
def Revives : List (Command S) → Engine S B → Prop
  | [], _ => False
  | command :: commands, e =>
    (∃ error, (e.apply command).1 = .error error) ∧
        (applyAll commands (e.apply command).2).1 = .ok () ∧ Starts commands ∨
      Revives commands (e.apply command).2

theorem applyAll_cons (command : Command S) (commands : List (Command S)) (e : Engine S B) :
    applyAll (command :: commands) e =
      ((e.apply command).1.bind fun _ => (applyAll commands (e.apply command).2).1,
        (applyAll commands (e.apply command).2).2) := rfl

theorem not_revives {commands : List (Command S)} (carried : (applyAll commands e).1 = .ok ()) :
    ¬ Revives commands e := by
  induction commands generalizing e with
  | nil => exact id
  | cons command commands ih =>
      rw [applyAll_cons] at carried
      rw [Revives]
      cases outcome : (e.apply command).1 with
      | error error =>
          rw [outcome] at carried
          cases carried
      | ok _ =>
          rw [outcome] at carried
          rintro (⟨⟨error, failed⟩, -⟩ | later)
          · cases failed
          · exact ih carried later

theorem applyAll_led {done commands : List (Command S)} (led : Led done e)
    (carried : (applyAll commands e).1 = .ok ()) :
    Led (done ++ commands) (applyAll commands e).2 := by
  induction commands generalizing done e with
  | nil =>
      rw [List.append_nil]
      exact led
  | cons command commands ih =>
      have leads := apply_leads command e
      rw [applyAll_cons] at carried ⊢
      rcases outcome : e.apply command with ⟨error | ⟨⟩, f⟩
      · rw [outcome] at carried
        cases carried
      · rw [outcome] at leads carried
        rw [List.append_cons]
        exact ih (leads done led) carried

/-- Behind a queue that did not work out there is a session only if it was started after the last
command that failed. -/
theorem applyAll_failed {commands : List (Command S)} {error : RenderError S}
    (failed : (applyAll commands e).1 = .error error) :
    (applyAll commands e).2.IsActive ↔ Revives commands e := by
  induction commands generalizing e error with
  | nil => cases failed
  | cons command commands ih =>
      rw [applyAll_cons] at failed ⊢
      rw [Revives]
      cases rest : (applyAll commands (e.apply command).2).1 with
      | error other =>
          rw [ih rest]
          refine ⟨.inr, ?_⟩
          rintro (⟨-, carried, -⟩ | later)
          · cases carried
          · exact later
      | ok _ =>
          have own : ∃ error, (e.apply command).1 = .error error := by
            cases outcome : (e.apply command).1 with
            | error other => exact ⟨other, rfl⟩
            | ok _ =>
                rw [outcome, rest] at failed
                cases failed
          obtain ⟨other, refused⟩ := own
          -- The failure has ended every session, so the rest starts from an idle engine.
          have led := applyAll_led (led_by_none (apply_failed refused)) rest
          rw [List.nil_append] at led
          rw [led.isActive_iff]
          constructor
          · exact fun starts => .inl ⟨⟨other, refused⟩, rfl, starts⟩
          · rintro (⟨-, -, starts⟩ | later)
            · exact starts
            · exact absurd later (not_revives rest)

theorem drawOffline_tells (s : Session S) (e : Engine S B) :
    (e.drawOffline s).Leads (fun answer f => f.IsActive ↔ answer = .again)
      fun f => f.phase = .idle := by
  have request_leads (request : Request S) (f : Engine S B) :
      (f.attempt request).Leads (fun _ _ => True) fun g => g.phase = .idle :=
    (attempt_leads request f).imp (fun _ _ _ => trivial) fun _ failed => failed
  unfold drawOffline
  refine (request_leads _ _).next fun _ f _ => ?_
  refine (request_leads _ f).next fun _ f _ => ?_
  refine (request_leads _ f).next fun _ f _ => ?_
  dsimp only
  split
  next =>
    show IsActive _ ↔ Tick.stop = .again
    refine iff_of_false ?_ (by decide)
    rintro ⟨_, converged⟩
    cases converged
  next => exact iff_of_true ⟨_, rfl⟩ rfl

theorem drawRealTime_tells (s : Session S) (time : Duration) (e : Engine S B) :
    (e.drawRealTime s time).Leads (fun answer f => f.IsActive ↔ answer = .again)
      fun f => f.phase = .idle :=
  Step.Leads.next (attempt_leads _ _) fun _ _ _ => iff_of_true ⟨_, rfl⟩ rfl

theorem draw_tells (time : Duration) (e : Engine S B) :
    (e.draw time).Leads (fun answer f => f.IsActive ↔ answer = .again)
      fun f => f.phase = .idle := by
  rcases draw_cases time e with ⟨none, drawn⟩ | ⟨s, -, -, drawn⟩ | ⟨s, -, -, drawn⟩
  · rw [drawn]
    exact iff_of_false (fun ⟨s, active⟩ => none s active) (by decide)
  · rw [drawn]
    exact drawOffline_tells _ e
  · rw [drawn]
    exact drawRealTime_tells _ time e

/-- An answer of a tick that is no error tells whether a session goes on. An error does not: a
session goes on behind it just if a command failed and one that was queued later started it. -/
theorem tick_tells (t : FrameTick) (e : Engine S B) :
    (e.tick t).Leads (fun answer f => f.IsActive ↔ answer = .again)
      fun f => f.IsActive ↔ Revives e.queue { e with queue := [] } := by
  unfold tick
  rcases applied : applyAll e.queue { e with queue := [] } with ⟨error | ⟨⟩, f⟩
  · have failed := applyAll_failed (congrArg Prod.fst applied)
    rw [applied] at failed
    exact failed
  · have carried := not_revives (congrArg Prod.fst applied)
    exact (draw_tells t.time f).imp (fun _ _ tells => tells) fun g idle =>
      iff_of_false (not_active_of_idle idle) carried

/-- A resize that is refused hides the session that the command behind it starts. -/
theorem refused_resize_hides_session :
    let side : Recorder Single := { Recorder.new with maxExtent := some 8 }
    let e := ((new side ⟨4, 3⟩ false 7).send (.resize ⟨16, 9⟩)).send
      (.realTime (.ofObjects []) standardCamera)
    (e.tick ⟨.zero, 0⟩).1.toOption = none ∧ (e.tick ⟨.zero, 0⟩).2.IsActive := by
  simp only [isActive_iff]
  decide +kernel

end Commands

end RayScene.Render.Engine
