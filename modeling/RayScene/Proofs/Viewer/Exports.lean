import RayScene.Proofs.Number.Order
import RayScene.Proofs.Viewer.Ledger

/-!
Exports of a viewer, one at a time. An export is running from its start until it is cancelled or a
job says that it has finished, whichever jobs send messages in between.
-/

namespace RayScene

open Render

inductive ExportEvent where
  | started
  | finished
  | cancelled
  deriving DecidableEq, Repr

namespace ExportEvent

def Running (history : List ExportEvent) : Prop :=
  ∃ before after, history = before ++ started :: after ∧
    started ∉ after ∧ finished ∉ after ∧ cancelled ∉ after

theorem running_iff {history : List ExportEvent} :
    Running history ↔ history.getLast? = some started := by
  constructor
  · rintro ⟨before, after, rfl, no_start, no_finish, no_cancel⟩
    have nothing : after = [] := by
      refine List.eq_nil_iff_forall_not_mem.mpr fun event member => ?_
      cases event <;> contradiction
    rw [nothing, List.getLast?_concat]
  · intro last
    obtain ⟨before, rfl⟩ := List.getLast?_eq_some_iff.mp last
    exact ⟨before, [], rfl, List.not_mem_nil, List.not_mem_nil, List.not_mem_nil⟩

theorem not_running_nil : ¬ Running [] := by simp [running_iff]

theorem running_concat {history : List ExportEvent} {event : ExportEvent} :
    Running (history ++ [event]) ↔ event = started := by
  simp [running_iff]

/-- What a history says behind an event is said behind the same event in a longer one. -/
theorem split_concat {history before after : List ExportEvent} {event last : ExportEvent}
    (split : history ++ [last] = before ++ event :: after) :
    history = before ∧ last = event ∨ ∃ rest, history = before ++ event :: rest := by
  rcases List.eq_nil_or_concat after with rfl | ⟨rest, other, rfl⟩
  · obtain ⟨same, latest⟩ := List.append_inj' split rfl
    exact .inl ⟨same, List.head_eq_of_cons_eq latest⟩
  · rw [List.concat_eq_append, ← List.cons_append, ← List.append_assoc] at split
    exact .inr ⟨rest, (List.append_inj' split rfl).1⟩

structure OneByOne (history : List ExportEvent) : Prop where
  starts (before after : List ExportEvent) :
    history = before ++ started :: after → ¬ Running before
  cancels (before after : List ExportEvent) :
    history = before ++ cancelled :: after → Running before

theorem OneByOne.nil : OneByOne [] :=
  ⟨fun before after split => by simp at split, fun before after split => by simp at split⟩

theorem OneByOne.concat {history : List ExportEvent} (obeys : OneByOne history)
    {event : ExportEvent} (start : event = started → ¬ Running history)
    (cancel : event = cancelled → Running history) : OneByOne (history ++ [event]) where
  starts before after split := by
    rcases split_concat split with ⟨rfl, same⟩ | ⟨rest, earlier⟩
    · exact start same
    · exact obeys.starts before rest earlier
  cancels before after split := by
    rcases split_concat split with ⟨rfl, same⟩ | ⟨rest, earlier⟩
    · exact cancel same
    · exact obeys.cancels before rest earlier

theorem OneByOne.ends_between {before between after : List ExportEvent}
    (obeys : OneByOne (before ++ started :: (between ++ started :: after))) :
    finished ∈ between ∨ cancelled ∈ between := by
  have stopped : ¬ Running (before ++ started :: between) :=
    obeys.starts _ after (by rw [List.append_assoc, List.cons_append])
  rcases List.eq_nil_or_concat between with rfl | ⟨rest, event, rfl⟩
  · exact absurd (running_concat.mpr rfl) stopped
  · rw [List.concat_eq_append, ← List.cons_append, ← List.append_assoc, running_concat] at stopped
    cases event <;> simp at stopped ⊢

theorem OneByOne.starts_between {before between after : List ExportEvent}
    (obeys : OneByOne (before ++ cancelled :: (between ++ cancelled :: after))) :
    started ∈ between := by
  have running : Running (before ++ cancelled :: between) :=
    obeys.cancels _ after (by rw [List.append_assoc, List.cons_append])
  rcases List.eq_nil_or_concat between with rfl | ⟨rest, event, rfl⟩
  · cases running_concat.mp running
  · rw [List.concat_eq_append, ← List.cons_append, ← List.append_assoc, running_concat] at running
    simp [running]

end ExportEvent

def Effect.exportEvent? : Effect → Option ExportEvent
  | engine _ => none
  | startExport .. => some .started
  | cancelExport => some .cancelled

def Action.exportEvent? : Action → Option ExportEvent
  | exportFinished => some .finished
  | _ => none

namespace Viewer

open ExportEvent

def exportEvents (v : Viewer) (action : Action) : List ExportEvent :=
  action.exportEvent?.toList ++ (v.apply action).2.filterMap Effect.exportEvent?

def exportHistory (v : Viewer) : List Action → List ExportEvent
  | [] => []
  | action :: actions => v.exportEvents action ++ (v.apply action).1.exportHistory actions

inductive ExportStep (v w : Viewer) : Action → List ExportEvent → Prop where
  | nothing {action : Action} (kept : w.exportProgress = v.exportProgress) : ExportStep v w action []
  | started (stopped : v.exportProgress = none) (running : w.exportProgress = some 0.0) :
    ExportStep v w .exportVolume [started]
  | progressed (fraction : Single)
    (moved : w.exportProgress = v.exportProgress.map fun _ => Scalar.clamp fraction 0.0 1.0) :
    ExportStep v w (.exportProgress fraction) []
  | finished (stopped : w.exportProgress = none) : ExportStep v w .exportFinished [finished]
  | cancelled (running : v.exportProgress.isSome = true) (stopped : w.exportProgress = none) :
    ExportStep v w .cancelExport [cancelled]

variable {v w : Viewer}

theorem session_exportEvents (v : Viewer) : v.session.filterMap Effect.exportEvent? = [] := by
  unfold session
  split <;> rfl

theorem accepting_exportProgress (v : Viewer) (scene : Scene Single) (spec : CameraSpec Single) :
    (v.accepting scene spec).exportProgress = v.exportProgress := by
  obtain ⟨_, _, same⟩ := v.accepting_eq scene spec
  rw [same]

theorem attempt_exportProgress (v : Viewer) {action : Action} (attempts : action.attempts = true) :
    (v.apply action).1.exportProgress = v.exportProgress := by
  rcases v.attempt_cases attempts with ⟨error, -, told⟩ | ⟨scene, spec, samples, -, applied, -⟩
  · rw [told]
  · rw [applied]
    exact v.accepting_exportProgress scene spec

theorem regenerate_exportEvents (v : Viewer) : v.exportEvents .regenerate = [] := by
  rw [exportEvents]
  rcases v.attempt_cases (show Action.regenerate.attempts = true from rfl) with
    ⟨error, -, told⟩ | ⟨scene, spec, samples, -, -, starts⟩
  · rw [told]
    rfl
  · rw [starts rfl]
    exact session_exportEvents _

theorem apply_exportStep (v : Viewer) (action : Action) :
    ExportStep v (v.apply action).1 action (v.exportEvents action) := by
  cases action with
  | render =>
      have silent : v.exportEvents .render = [] := session_exportEvents _
      rw [silent]
      exact .nothing rfl
  | realTime =>
      have silent : v.exportEvents .realTime = [] := session_exportEvents _
      rw [silent]
      exact .nothing rfl
  | compile => exact .nothing (v.attempt_exportProgress rfl)
  | regenerate =>
      rw [regenerate_exportEvents]
      exact .nothing (v.attempt_exportProgress rfl)
  | setMaxSamples count =>
      obtain ⟨samples, set⟩ := v.withMaxSamples_eq count
      exact .nothing (by rw [apply, set])
  | exportVolume =>
      rw [exportEvents, apply, startExport]
      split
      next scene stopped loaded => exact .started stopped rfl
      next => exact .nothing rfl
  | exportProgress fraction => exact .progressed fraction rfl
  | exportFinished => exact .finished rfl
  | cancelExport =>
      rw [exportEvents, apply]
      cases running : v.exportProgress with
      | none => exact .nothing running.symm
      | some fraction => exact .cancelled (by rw [running]; rfl) rfl
  | resize size =>
      rw [exportEvents, apply]
      split <;> exact .nothing rfl
  | _ => exact .nothing rfl

structure Shows (history : List ExportEvent) (v : Viewer) : Prop where
  obeys : OneByOne history
  running_iff : v.exportProgress.isSome = true ↔ Running history

theorem new_shows (viewport : Viewport) : Shows [] (new viewport) :=
  ⟨.nil, iff_of_false Bool.false_ne_true not_running_nil⟩

theorem Shows.applied {history : List ExportEvent} (showing : Shows history v) (action : Action) :
    Shows (history ++ v.exportEvents action) (v.apply action).1 := by
  have step := v.apply_exportStep action
  generalize v.exportEvents action = events at step
  generalize (v.apply action).1 = w at step
  obtain ⟨obeys, running_iff⟩ := showing
  cases step with
  | nothing kept =>
      rw [List.append_nil]
      exact ⟨obeys, by rw [kept, running_iff]⟩
  | started stopped running =>
      have idle : ¬ Running history := by simp [← running_iff, stopped]
      exact ⟨obeys.concat (fun _ => idle) nofun, by simp [running, running_concat]⟩
  | progressed fraction moved =>
      rw [List.append_nil]
      exact ⟨obeys, by rw [moved, Option.isSome_map, running_iff]⟩
  | finished stopped =>
      exact ⟨obeys.concat nofun nofun, by simp [stopped, running_concat]⟩
  | cancelled running stopped =>
      exact ⟨obeys.concat nofun fun _ => running_iff.mp running, by simp [stopped, running_concat]⟩

theorem Shows.ran {history : List ExportEvent} (showing : Shows history v)
    (actions : List Action) :
    Shows (history ++ v.exportHistory actions) (v.run actions) := by
  induction actions generalizing v history with
  | nil => simpa [exportHistory, run] using showing
  | cons action actions ih =>
      rw [exportHistory, ← List.append_assoc]
      exact ih (showing.applied action)

def Proportionate (v : Viewer) : Prop :=
  ∀ fraction, v.exportProgress = some fraction → 0.0 ≤ fraction ∧ fraction ≤ 1.0

theorem Proportionate.applied (part : v.Proportionate) {action : Action}
    (number : ∀ fraction, action = .exportProgress fraction → fraction.isNaN = false) :
    (v.apply action).1.Proportionate := by
  have step := v.apply_exportStep action
  generalize v.exportEvents action = events at step
  generalize (v.apply action).1 = w at step
  intro fraction shown
  cases step with
  | nothing kept => exact part fraction (kept ▸ shown)
  | started stopped running =>
      obtain rfl := Option.some.inj (running.symm.trans shown)
      exact ⟨by decide, by decide⟩
  | progressed reported moved =>
      rw [moved, Option.map_eq_some_iff] at shown
      obtain ⟨_, -, rfl⟩ := shown
      exact Single.clamp_between (number reported rfl) rfl rfl (by decide)
  | finished stopped =>
      rw [stopped] at shown
      cases shown
  | cancelled running stopped =>
      rw [stopped] at shown
      cases shown

theorem Proportionate.ran (part : v.Proportionate) {actions : List Action}
    (numbers : ∀ fraction, .exportProgress fraction ∈ actions → fraction.isNaN = false) :
    (v.run actions).Proportionate := by
  induction actions generalizing v with
  | nil => exact part
  | cons action actions ih =>
      refine ih (part.applied fun fraction same => ?_) fun fraction member => ?_
      · exact numbers fraction (same ▸ List.mem_cons_self)
      · exact numbers fraction (List.mem_cons_of_mem _ member)

theorem startExport_current {action : Action} {scene : Scene Single}
    {settings : ExportSettings Single} (asked : .startExport scene settings ∈ (v.apply action).2) :
    v.scene = some scene ∧ v.exportSettings = settings := by
  have event : started ∈ v.exportEvents action :=
    List.mem_append_right _ (List.mem_filterMap.mpr ⟨_, asked, rfl⟩)
  have step := v.apply_exportStep action
  generalize v.exportEvents action = events at step event
  generalize (v.apply action).1 = w at step
  cases step with
  | nothing => cases event
  | progressed => cases event
  | finished => simp at event
  | cancelled => simp at event
  | started =>
      rw [apply, startExport] at asked
      split at asked
      next own stopped loaded =>
        cases List.mem_singleton.mp asked
        exact ⟨loaded, rfl⟩
      next => cases asked

/-- Exports run one at a time, and the viewer shows the progress of the one that is running. Late
messages of a job that has been cancelled change nothing until the next start. -/
theorem exports_one_by_one (viewport : Viewport) (actions : List Action) :
    let v := (new viewport).run actions
    let history := (new viewport).exportHistory actions
    (v.exportProgress.isSome = true ↔ Running history) ∧
    (∀ before between after, history = before ++ started :: (between ++ started :: after) →
      finished ∈ between ∨ cancelled ∈ between) ∧
    (∀ before after, history = before ++ cancelled :: after → Running before) ∧
    (∀ before between after, history = before ++ cancelled :: (between ++ cancelled :: after) →
      started ∈ between) ∧
    (v.exportProgress = none → ∀ fraction, v.apply (.exportProgress fraction) = (v, [])) ∧
    ((∀ fraction, .exportProgress fraction ∈ actions → fraction.isNaN = false) →
      ∀ fraction, v.exportProgress = some fraction → 0.0 ≤ fraction ∧ fraction ≤ 1.0) ∧
    ∀ action scene settings, .startExport scene settings ∈ (v.apply action).2 →
      v.scene = some scene ∧ v.exportSettings = settings := by
  intro v history
  have showing : Shows history v := (new_shows viewport).ran actions
  refine ⟨showing.running_iff, fun before between after split => ?_, showing.obeys.cancels,
    fun before between after split => ?_, fun stopped fraction => ?_, fun numbers => ?_,
    fun action scene settings asked => startExport_current asked⟩
  · exact (split ▸ showing.obeys).ends_between
  · exact (split ▸ showing.obeys).starts_between
  · rw [apply, stopped, Option.map_none, ← stopped]
  · have part : (new viewport).Proportionate := by
      intro fraction shown
      cases shown
    exact part.ran numbers

def cancelledExport : List Action :=
  [.sourceLoaded marchedText, .compile, .exportVolume, .cancelExport]

def restartedExport : List Action :=
  cancelledExport ++ [.exportProgress 0.5, .exportFinished, .exportVolume, .exportProgress 7.0]

theorem restartedExport_one_by_one :
    let v := (new ⟨4, 3⟩).run cancelledExport
    let w := (new ⟨4, 3⟩).run restartedExport
    (new ⟨4, 3⟩).exportHistory restartedExport = [started, cancelled, finished, started] ∧
      Running [started] ∧ v.apply (.exportProgress 0.5) = (v, []) ∧
      (∃ fraction, w.exportProgress = some fraction ∧ 0.0 ≤ fraction ∧ fraction ≤ 1.0) ∧
      ∃ scene, .startExport scene v.exportSettings ∈ (v.apply .exportVolume).2 ∧
        v.scene = some scene := by
  intro v w
  obtain ⟨-, -, -, -, ignores, -, starts⟩ := exports_one_by_one ⟨4, 3⟩ cancelledExport
  obtain ⟨shown, -, cancels, -, -, part, -⟩ := exports_one_by_one ⟨4, 3⟩ restartedExport
  have history : (new ⟨4, 3⟩).exportHistory restartedExport =
      [started, cancelled, finished, started] := by decide +kernel
  have stopped : v.exportProgress = none := Option.isNone_iff_eq_none.mp (by decide +kernel)
  have numbers : ∀ fraction, .exportProgress fraction ∈ restartedExport →
      fraction.isNaN = false := by
    intro fraction member
    simp only [restartedExport, cancelledExport, List.cons_append, List.nil_append, List.mem_cons,
      reduceCtorEq, Action.exportProgress.injEq, List.not_mem_nil, or_false, false_or] at member
    rcases member with rfl | rfl <;> decide
  have running : w.exportProgress.isSome = true :=
    shown.mpr (history ▸ ⟨[started, cancelled, finished], [], by simp⟩)
  obtain ⟨fraction, told⟩ := Option.isSome_iff_exists.mp running
  have hasScene : v.scene.isSome = true := by decide +kernel
  obtain ⟨scene, loaded⟩ := Option.isSome_iff_exists.mp hasScene
  have begun : .startExport scene v.exportSettings ∈ (v.apply .exportVolume).2 := by
    rw [apply, startExport, stopped, loaded]
    exact List.mem_singleton_self _
  exact ⟨history, cancels _ _ history, ignores stopped 0.5, ⟨fraction, told, part numbers _ told⟩,
    scene, begun, (starts _ _ _ begun).1⟩

end Viewer
end RayScene
