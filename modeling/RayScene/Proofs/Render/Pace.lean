import Mathlib.Data.List.DropRight
import RayScene.Proofs.Render.Answers
import RayScene.Proofs.Render.Rates

/-!
The pace of real-time sessions. What a run has applied and drawn is written down, whatever came of
it. The rate that an engine reports is that of the last frames since its session was asked for: no
time of an earlier session is among them, and none of a frame that was refused.
-/

namespace RayScene.Render

open Shader

variable {S B : Type}

inductive Moment (S : Type) where
  /-- A command was applied, with or without success. -/
  | command (command : Command S)
  /-- A frame was drawn straight to the output in the tick of this time. -/
  | frame (time : Duration)

namespace Moment

def time? : Moment S → Option Duration
  | command _ => none
  | frame time => some time

inductive Continues : Moment S → Prop
  | resize (size : Viewport) : Continues (command (.resize size))
  | frame (time : Duration) : Continues (frame time)

end Moment

def Session.Since (past : List (Moment S)) (s : Session S) (since : List (Moment S)) : Prop :=
  ∃ before camera, past = before ++ .command (.realTime s.scene camera) :: since ∧
    ∀ moment ∈ since, moment.Continues

theorem Session.Since.more {past since : List (Moment S)} {s t : Session S} {moment : Moment S}
    (asked : s.Since past since) (scene : t.scene = s.scene) (continues : moment.Continues) :
    t.Since (past ++ [moment]) (since ++ [moment]) := by
  obtain ⟨before, camera, split, all⟩ := asked
  refine ⟨before, camera, ?_, fun other member => ?_⟩
  · rw [split, scene, List.append_assoc]
    rfl
  · rcases List.mem_append.mp member with old | new
    · exact all other old
    · rw [List.mem_singleton.mp new]
      exact continues

def FrameTimes.ofAll (times : List Duration) : FrameTimes := ⟨times.rtake window⟩

theorem FrameTimes.record_ofAll (times : List Duration) (time : Duration) :
    (ofAll times).record time = ofAll (times ++ [time]) := by
  rw [ofAll, ofAll, record, FrameTimes.mk.injEq, List.rtake, List.rtake, List.drop_drop,
    List.length_drop, List.length_append, List.length_singleton]
  have room : times.length + 1 - window ≤ times.length := by
    rw [window]
    omega
  rw [List.drop_append_of_le_length room]
  congr 2
  rw [window]
  omega

def Event.isDirect : Event S → Bool
  | served (.drawDirect _) => true
  | _ => false

namespace Engine

def directFrames (e : Engine S (History S B)) : Nat := e.backend.events.countP Event.isDirect

theorem directFrames_noting (inner : B) (event : Event S) (e : Engine S (History S B)) :
    (e.noting inner event).directFrames = e.directFrames + if event.isDirect then 1 else 0 := by
  simp only [directFrames, noting, List.countP_append, List.countP_singleton]

structure Offline (n : Nat) (e : Engine S (History S B)) : Prop where
  count : e.directFrames = n
  mode : ∀ s, e.phase = .active s → s.mode = .offline

def Paced (past : List (Moment S)) (e : Engine S (History S B)) : Prop :=
  ∀ s, e.phase = .active s → s.mode = .realTime → ∃ since, s.Since past since ∧
    e.frames = .ofAll (since.filterMap Moment.time?)

theorem paced_of_idle {past : List (Moment S)} {e : Engine S (History S B)}
    (idle : e.phase = .idle) : Paced past e := by
  intro s active
  rw [idle] at active
  cases active

theorem paced_of_offline {past : List (Moment S)} {e : Engine S (History S B)} {n : Nat}
    (offline : Offline n e) : Paced past e := by
  intro s active realTime
  rw [offline.mode s active] at realTime
  cases realTime

section Steps

variable [Backend S B] {e : Engine S (History S B)}

/-- What becomes of the session, and of the number of frames, by one request. -/
theorem attempt_counts (request : Request S) (e : Engine S (History S B)) :
    (e.attempt request).Leads
      (fun _ f => f.phase = e.phase ∧ f.frames = e.frames ∧
        f.directFrames = e.directFrames + if (Event.served request).isDirect then 1 else 0)
      fun f => f.phase = .idle ∧ f.directFrames = e.directFrames := by
  obtain ⟨inner, result | ⟨reason, result⟩⟩ := attempt_cases request e
  · rw [result]
    exact ⟨rfl, rfl, directFrames_noting inner _ e⟩
  · rw [result]
    refine ⟨rfl, ?_⟩
    show ((e.noting inner (.refused request)).noting _ .released).directFrames = _
    rw [directFrames_noting, directFrames_noting]
    rfl

theorem directFrames_frame (n : Nat) :
    Frame fun e : Engine S (History S B) => e.directFrames = n where
  setup e request setup same := by
    have silent : (Event.served request).isDirect = false := by
      cases request with
      | drawDirect _ => cases setup
      | _ => rfl
    refine (attempt_counts request e).imp (fun _ f counts => ?_) fun f counts => counts.2.trans same
    rw [counts.2.2, silent]
    exact same
  ended e same := by
    show (e.noting _ .released).directFrames = n
    rw [directFrames_noting]
    exact same
  phase _ _ same := same

theorem attempt_offline {α : Type} {n : Nat} {request : Request S}
    {rest : Unit → Engine S (History S B) → Step S (History S B) α}
    (silent : (Event.served request).isDirect = false) (same : e.directFrames = n)
    (goes_on : ∀ f, f.directFrames = n → (rest () f).Keeps (Offline n)) :
    ((e.attempt request).next rest).Keeps (Offline n) := by
  refine ((attempt_counts request e).imp (fun _ _ counts => counts) ?_).next ?_
  · rintro f ⟨idle, counts⟩
    exact ⟨counts.trans same, fun s active => by rw [idle] at active; cases active⟩
  · rintro _ f ⟨-, -, counts⟩
    refine goes_on f ?_
    rw [counts, silent]
    exact same

variable [Scalar S]

theorem apply_directFrames (command : Command S) (e : Engine S (History S B)) :
    (e.apply command).2.directFrames = e.directFrames :=
  ((directFrames_frame e.directFrames).apply (fun _ _ same => same) rfl command).after

theorem drawOffline_counts {s : Session S} (offline : s.mode = .offline)
    (e : Engine S (History S B)) : (e.drawOffline s).Keeps (Offline e.directFrames) := by
  obtain ⟨frame, random, next⟩ := nextFrame_keeps s.scene e
  unfold drawOffline
  rw [next]
  refine attempt_offline rfl rfl fun e same => ?_
  refine attempt_offline rfl same fun e same => ?_
  refine attempt_offline rfl same fun e same => ?_
  dsimp only
  split
  next => exact ⟨same, fun t active => by cases active⟩
  next =>
    refine ⟨same, fun t active => ?_⟩
    obtain rfl := Phase.active.inj active
    exact offline

theorem drawRealTime_counts (s : Session S) (time : Duration) (e : Engine S (History S B)) :
    (e.drawRealTime s time).Leads
      (fun _ f => f.phase = .active s ∧ f.frames = e.frames.record time ∧
        f.directFrames = e.directFrames + 1)
      fun f => f.phase = .idle ∧ f.directFrames = e.directFrames := by
  obtain ⟨frame, random, next⟩ := nextFrame_keeps s.scene e
  unfold drawRealTime
  rw [next]
  refine (attempt_counts (.drawDirect ⟨s.camera, frame⟩) { e with random }).next ?_
  rintro _ f ⟨-, frames, counts⟩
  exact ⟨rfl, congrArg (FrameTimes.record · time) frames, counts⟩

def momentsOf (operation : Operation S) (e : Engine S (History S B)) : List (Moment S) :=
  match operation with
  | .apply command => [.command command]
  | .send _ => []
  | .tick t =>
    e.queue.map .command ++
      List.replicate ((e.operate operation).directFrames - e.directFrames) (.frame t.time)

def moments : List (Operation S) → Engine S (History S B) → List (Moment S)
  | [], _ => []
  | operation :: operations, e =>
    e.momentsOf operation ++ moments operations (e.operate operation)

variable {past : List (Moment S)} {origin : Viewport}

/-- Starts in the other mode do not matter, and one in this mode forgets all frames. -/
theorem start_paced (consistent : Consistent origin e) (mode : SessionMode) (scene : Scene S)
    (camera : Camera S) (maxSamples : UInt32) {moment : Moment S}
    (asked : mode = .realTime → moment = .command (.realTime scene camera)) :
    Paced (past ++ [moment]) (e.start mode scene camera maxSamples).2 := by
  obtain ⟨cancelled, idle⟩ := cancel_consistent consistent
  refine (start_leads mode scene camera maxSamples e).either ?_ fun f => paced_of_idle
  rintro _ f ⟨⟨other, active⟩, frames⟩ s running realTime
  rw [active] at running
  obtain rfl := Phase.active.inj running
  refine ⟨[], ⟨past, camera, ?_, fun _ none => by cases none⟩, ?_⟩
  · rw [asked realTime]
    rfl
  · rw [frames, (cancelled.of_idle idle).2]
    rfl

omit [Backend S B] in
theorem Consistent.active_of_realTime {s : Session S} (consistent : Consistent origin e)
    (running : e.phase.session? = some s) (realTime : s.mode = .realTime) :
    e.phase = .active s := by
  rcases active_or_converged_of_session running with active | converged
  · exact active
  · have equipped := consistent.equipped
    rw [Equipped, converged] at equipped
    rw [equipped.2.1] at realTime
    cases realTime

theorem resize_paced (consistent : Consistent origin e) (paced : Paced past e) (size : Viewport) :
    Paced (past ++ [.command (.resize size)]) (e.resize size).2 := by
  refine (resize_leads size e).either ?_ fun f => paced_of_idle
  rintro _ f ⟨phase, frames⟩ s running realTime
  -- the session before, which differs from this one in its camera only
  obtain ⟨t, before, scene, mode⟩ : ∃ t, e.phase = .active t ∧ s.scene = t.scene ∧
      t.mode = .realTime := by
    rcases phase with same | ⟨t, camera, before, active⟩
    · exact ⟨s, same.symm.trans running, rfl, realTime⟩
    · rw [active] at running
      obtain rfl := Phase.active.inj running
      rw [Session.restarted_mode] at realTime
      exact ⟨t, consistent.active_of_realTime before realTime, Session.restarted_scene _, realTime⟩
  obtain ⟨since, asked, kept⟩ := paced t before mode
  refine ⟨since ++ [.command (.resize size)], asked.more scene (.resize size), ?_⟩
  rw [frames, kept, List.filterMap_append]
  exact congrArg FrameTimes.ofAll (List.append_nil _).symm

theorem apply_paced (consistent : Consistent origin e) (paced : Paced past e)
    (command : Command S) : Paced (past ++ [.command command]) (e.apply command).2 := by
  cases command with
  | render scene camera maxSamples =>
      exact start_paced consistent .offline scene camera _ fun mode => by cases mode
  | realTime scene camera => exact start_paced consistent .realTime scene camera 0 fun _ => rfl
  | cancel => exact paced_of_idle (cancel_idle e)
  | resize size => exact resize_paced consistent paced size

theorem applyAll_paced (commands : List (Command S)) (consistent : Consistent origin e)
    (paced : Paced past e) :
    Paced (past ++ commands.map .command) (applyAll commands e).2 ∧
      Consistent origin (applyAll commands e).2 ∧
      (applyAll commands e).2.directFrames = e.directFrames := by
  induction commands generalizing past e with
  | nil =>
      rw [List.map_nil, List.append_nil]
      exact ⟨paced, consistent, rfl⟩
  | cons command commands ih =>
      obtain ⟨followed, kept, counts⟩ :=
        ih (apply_consistent consistent command) (apply_paced consistent paced command)
      rw [List.append_assoc] at followed
      exact ⟨followed, kept, counts.trans (apply_directFrames command e)⟩

theorem draw_paced (paced : Paced past e) (time : Duration) :
    Paced (past ++ List.replicate ((e.draw time).2.directFrames - e.directFrames) (.frame time))
      (e.draw time).2 := by
  have unchanged : Paced (past ++ List.replicate (e.directFrames - e.directFrames)
      (.frame time)) e := by
    rw [Nat.sub_self, List.replicate_zero, List.append_nil]
    exact paced
  rcases draw_cases time e with ⟨-, drawn⟩ | ⟨s, -, mode, drawn⟩ | ⟨s, active, mode, drawn⟩
  · rw [drawn]
    exact unchanged
  · have reached : (s.reached time).mode = .offline := mode
    rw [drawn]
    exact paced_of_offline (drawOffline_counts reached e).after
  · rw [drawn]
    refine (drawRealTime_counts (s.reached time) time e).either
      (P := fun f => Paced
        (past ++ List.replicate (f.directFrames - e.directFrames) (.frame time)) f) ?_
      fun f failed => paced_of_idle failed.1
    rintro _ f ⟨after, frames, counts⟩ t running -
    rw [after] at running
    obtain rfl := Phase.active.inj running
    obtain ⟨since, asked, kept⟩ := paced s active mode
    refine ⟨since ++ [.frame time], ?_, ?_⟩
    · rw [counts, Nat.add_sub_cancel_left]
      exact asked.more rfl (.frame time)
    · rw [frames, kept, FrameTimes.record_ofAll, List.filterMap_append]
      rfl

theorem operate_paced (consistent : Consistent origin e) (paced : Paced past e)
    (operation : Operation S) :
    Paced (past ++ e.momentsOf operation) (e.operate operation) := by
  cases operation with
  | apply command => exact apply_paced consistent paced command
  | send command =>
      rw [momentsOf, List.append_nil]
      exact paced
  | tick t =>
      obtain ⟨applied, kept, counts⟩ := applyAll_paced e.queue (consistent.requeued [])
        (show Paced past { e with queue := [] } from paced)
      have same : { e with queue := [] }.directFrames = e.directFrames := rfl
      rw [same] at counts
      rw [momentsOf, ← List.append_assoc, operate]
      rcases tick_cases t e with ended | drawn
      · rw [ended, counts, Nat.sub_self, List.replicate_zero, List.append_nil]
        exact applied
      · rw [drawn, ← counts]
        exact draw_paced applied t.time

theorem run_paced (operations : List (Operation S)) (consistent : Consistent origin e)
    (paced : Paced past e) : Paced (past ++ moments operations e) (e.run operations) := by
  induction operations generalizing past e with
  | nil =>
      rw [moments, List.append_nil]
      exact paced
  | cons operation operations ih =>
      have next := ih (operate_consistent origin operation e consistent)
        (operate_paced consistent paced operation)
      rw [List.append_assoc] at next
      exact next

theorem moments_timed {time : Duration} (operations : List (Operation S))
    {e : Engine S (History S B)} (drawn : .frame time ∈ moments operations e) :
    ∃ t, .tick t ∈ operations ∧ t.time = time := by
  induction operations generalizing e with
  | nil => cases drawn
  | cons operation operations ih =>
      rcases List.mem_append.mp drawn with now | later
      · cases operation with
        | apply command => cases List.mem_singleton.mp now
        | send command => cases now
        | tick t =>
            rcases List.mem_append.mp now with applied | frame
            · obtain ⟨_, _, same⟩ := List.mem_map.mp applied
              cases same
            · exact ⟨t, List.mem_cons_self, by cases List.eq_of_mem_replicate frame; rfl⟩
      · obtain ⟨t, ticked, same⟩ := ih later
        exact ⟨t, List.mem_cons_of_mem _ ticked, same⟩

end Steps

section Rates

variable [Backend Single B]

/-- Whatever has been asked for and refused, the frame rate that is reported while a real-time
session runs is that of the last frames drawn since the session was asked for. -/
theorem run_reports_own_rate (backend : B) (viewport : Viewport) (bakesCamera : Bool)
    (seed : UInt64) (operations : List (Operation Single))
    (timed : ∀ t, .tick t ∈ operations → t.time.nanoseconds ≤ Duration.longest.nanoseconds) :
    let start : Engine Single (History Single B) := new ⟨backend, []⟩ viewport bakesCamera seed
    let e := start.run operations
    ∀ s, e.phase = .active s → s.mode = .realTime →
      ∃ since rate, s.Since (moments operations start) since ∧ e.status = .realTime rate ∧
        RateOf ((since.filterMap Moment.time?).rtake 5) rate := by
  intro start e s active realTime
  have paced : Paced ([] ++ moments operations start) e :=
    run_paced operations (new_consistent viewport backend bakesCamera seed)
      fun _ none => by cases none
  obtain ⟨since, asked, kept⟩ := paced s active realTime
  refine ⟨since, e.frames.rate?, asked, ?_, ?_⟩
  · rw [status, active]
    simp only [realTime]
  have times : e.frames.times = (since.filterMap Moment.time?).rtake 5 :=
    congrArg FrameTimes.times kept
  rw [← times]
  apply FrameTimes.rateOf_rate?
  · rw [times, List.rtake, List.length_drop, FrameTimes.window]
    omega
  · intro time member
    rw [times] at member
    obtain ⟨moment, happened, own⟩ := List.mem_filterMap.mp (List.mem_of_mem_drop member)
    obtain ⟨before, camera, split, -⟩ := asked
    have drawn : .frame time ∈ moments operations start := by
      cases moment with
      | command command => cases own
      | frame time =>
          cases own
          rw [show moments operations start = _ from split]
          exact List.mem_append_right before (List.mem_cons_of_mem _ happened)
    obtain ⟨t, ticked, rfl⟩ := moments_timed operations drawn
    exact timed t ticked

theorem resized_session_keeps_rate :
    let operations : List (Operation Single) := [
      .apply (.realTime (.ofObjects []) standardCamera), .tick ⟨⟨10000000⟩, 0⟩,
      .tick ⟨⟨30000000⟩, 1⟩, .apply (.resize ⟨16, 9⟩), .tick ⟨⟨50000000⟩, 2⟩]
    let start : Engine Single (History Single (Recorder Single)) :=
      new ⟨Recorder.new, []⟩ ⟨4, 3⟩ false 7
    (∀ t, .tick t ∈ operations → t.time.nanoseconds ≤ Duration.longest.nanoseconds) ∧
      (start.run operations).frames.times.length = 3 ∧
      ∃ s, (start.run operations).phase = .active s ∧ s.mode = .realTime ∧
        ∃ since rate, s.Since (moments operations start) since ∧
          (start.run operations).status = .realTime rate ∧
          RateOf ((since.filterMap Moment.time?).rtake 5) rate := by
  intro operations start
  have timed : ∀ t, .tick t ∈ operations →
      t.time.nanoseconds ≤ Duration.longest.nanoseconds := by
    intro t ticked
    simp only [operations, List.mem_cons, List.not_mem_nil, or_false, Operation.tick.injEq,
      reduceCtorEq, false_or] at ticked
    rcases ticked with rfl | rfl | rfl <;> decide
  obtain ⟨s, active⟩ : (start.run operations).IsActive :=
    isActive_iff.mpr (by decide +kernel)
  have realTime : s.mode = .realTime := by
    have mode : (start.run operations).mode = some .realTime := by decide +kernel
    rw [Engine.mode, active] at mode
    exact Option.some.inj mode
  exact ⟨timed, by decide +kernel, s, active, realTime,
    run_reports_own_rate Recorder.new ⟨4, 3⟩ false 7 operations timed s active realTime⟩

end Rates

end Engine
end RayScene.Render
