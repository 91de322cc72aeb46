import RayScene.Proofs.Number.Fraction
import RayScene.Proofs.Volume.Cells

namespace RayScene

theorem ExportSettings.grid_size_eq {S : Type} [Scalar S] {settings : ExportSettings S}
    {grid : Grid S} (accepted : settings.grid = .ok grid) :
    grid.size = settings.resolution.toInt.toNat ^ 3 := by
  rw [Grid.size, grid_resolution_eq accepted, pow_three']

namespace ExportJob

variable {S : Type}

def Gets (sampler : Sampler S) (job : ExportJob S) (batch : List S) : Prop :=
  sampler job.calls job.grid job.nextBatch.1 job.nextBatch.2 = .ok batch ∧
    batch.length = job.nextBatch.2 - job.nextBatch.1

def keep (job : ExportJob S) (batch : List S) : ExportJob S :=
  { job with calls := job.calls + 1, values := job.values ++ batch }

section
variable [Scalar S]

inductive Stepped (sampler : Sampler S) (job : ExportJob S) :
    Except (ExportError S) S × ExportJob S → Prop where
  | aborted : job.cancelled = true → Stepped sampler job (.error .aborted, job)
  | finished : job.cancelled = false → job.isFinished = true → Stepped sampler job (.ok 1.0, job)
  | failed {e : SamplerError} : job.cancelled = false → job.isFinished = false →
      (∀ batch, ¬ job.Gets sampler batch) →
      Stepped sampler job (.error (.sampler e), { job with calls := job.calls + 1 })
  | sampled {batch : List S} : job.cancelled = false → job.isFinished = false →
      job.Gets sampler batch →
      Stepped sampler job (.ok (job.keep batch).progress, job.keep batch)

theorem stepped (sampler : Sampler S) (job : ExportJob S) :
    Stepped sampler job (job.step sampler) := by
  unfold step
  split
  next cancelled => exact .aborted cancelled
  next running =>
    rw [Bool.not_eq_true] at running
    split
    next finished => exact .finished running finished
    next unfinished =>
      rw [Bool.not_eq_true] at unfinished
      dsimp only
      split
      next e fault =>
        refine .failed running unfinished fun batch gets => ?_
        cases fault.symm.trans gets.1
      next batch answer =>
        split
        next whole => exact .sampled running unfinished ⟨answer, whole⟩
        next cut =>
          refine .failed running unfinished fun other gets => ?_
          obtain rfl := Except.ok.inj (answer.symm.trans gets.1)
          exact cut gets.2

theorem step_cancelled {job : ExportJob S} (cancelled : job.cancelled = true)
    (sampler : Sampler S) : job.step sampler = (.error .aborted, job) := by
  rw [step, if_pos cancelled]

variable {sampler : Sampler S} {job next : ExportJob S}

theorem step_failed {e : ExportError S} (failed : job.step sampler = (.error e, next)) :
    next.values = job.values ∧ next.progress = job.progress ∧
      next.isFinished = job.isFinished := by
  have outcome := job.stepped sampler
  rw [failed] at outcome
  cases outcome <;> exact ⟨rfl, rfl, rfl⟩

/-- What can be done to a job before it is finished. -/
inductive Event where
  | step
  | cancel
  deriving DecidableEq, Repr

def act (sampler : Sampler S) (job : ExportJob S) : Event → ExportJob S
  | .step => (job.step sampler).2
  | .cancel => job.cancel

def after (sampler : Sampler S) (job : ExportJob S) (events : List Event) : ExportJob S :=
  events.foldl (act sampler) job

/-- The sampler's answer in a step that has asked it and has not failed. -/
def answer (sampler : Sampler S) (job : ExportJob S) : List (List S) :=
  match job.step sampler, sampler job.calls job.grid job.nextBatch.1 job.nextBatch.2 with
  | (.ok _, next), .ok batch => if job.calls < next.calls then [batch] else []
  | _, _ => []

def batches (sampler : Sampler S) : ExportJob S → List Event → List (List S)
  | _, [] => []
  | job, .cancel :: rest => batches sampler job.cancel rest
  | job, .step :: rest => job.answer sampler ++ batches sampler (job.step sampler).2 rest

theorem after_append (job : ExportJob S) (events more : List Event) :
    job.after sampler (events ++ more) = (job.after sampler events).after sampler more :=
  List.foldl_append

theorem step_values (sampler : Sampler S) (job : ExportJob S) :
    (job.step sampler).2.values = job.values ++ (job.answer sampler).flatten := by
  have outcome := job.stepped sampler
  unfold answer
  generalize job.step sampler = result at outcome
  cases outcome with
  | aborted => exact (List.append_nil _).symm
  | finished =>
      dsimp only
      split
      next heq _ =>
        cases heq
        simp
      next => simp
  | failed => exact (List.append_nil _).symm
  | sampled _ _ gets =>
      rw [gets.1]
      simp [keep]

theorem after_values (sampler : Sampler S) (job : ExportJob S) (events : List Event) :
    (job.after sampler events).values =
      job.values ++ (job.batches sampler events).flatten := by
  induction events generalizing job with
  | nil => exact (List.append_nil _).symm
  | cons event rest ih =>
      cases event with
      | cancel => exact ih job.cancel
      | step =>
          have later := ih (job.step sampler).2
          rw [step_values, List.append_assoc, ← List.flatten_append] at later
          exact later

structure Continues (job later : ExportJob S) : Prop where
  grid_eq : later.grid = job.grid
  grows : job.values.length ≤ later.values.length
  bounded : job.values.length ≤ job.grid.size → later.values.length ≤ later.grid.size

omit [Scalar S] in
theorem Continues.refl (job : ExportJob S) : Continues job job := ⟨rfl, le_rfl, id⟩

omit [Scalar S] in
theorem Continues.trans {job next later : ExportJob S} (first : Continues job next)
    (second : Continues next later) : Continues job later :=
  ⟨second.grid_eq.trans first.grid_eq, first.grows.trans second.grows,
    fun bounded => second.bounded (first.bounded bounded)⟩

omit [Scalar S] in
theorem Continues.keep {batch : List S} (gets : job.Gets sampler batch) :
    Continues job (job.keep batch) := by
  have length : (job.keep batch).values.length = job.values.length + batch.length :=
    List.length_append
  have whole := gets.2
  rw [nextBatch] at whole
  refine ⟨rfl, ?_, fun bounded => ?_⟩
  · omega
  · show (job.keep batch).values.length ≤ job.grid.size
    dsimp only at whole
    omega

theorem continues_act (sampler : Sampler S) (job : ExportJob S) (event : Event) :
    Continues job (job.act sampler event) := by
  cases event with
  | cancel => exact ⟨rfl, le_rfl, id⟩
  | step =>
      have outcome := job.stepped sampler
      show Continues job (job.step sampler).2
      generalize job.step sampler = result at outcome
      cases outcome with
      | aborted => exact .refl job
      | finished => exact .refl job
      | failed => exact ⟨rfl, le_rfl, id⟩
      | sampled _ _ gets => exact .keep gets

theorem continues_after (sampler : Sampler S) (job : ExportJob S) (events : List Event) :
    Continues job (job.after sampler events) := by
  induction events generalizing job with
  | nil => exact .refl job
  | cons event rest ih => exact (continues_act sampler job event).trans (ih _)

theorem step_cancelled_eq (sampler : Sampler S) (job : ExportJob S) :
    (job.step sampler).2.cancelled = job.cancelled := by
  have outcome := job.stepped sampler
  generalize job.step sampler = result at outcome
  cases outcome <;> rfl

theorem after_cancelled (sampler : Sampler S) (job : ExportJob S) (events : List Event) :
    (job.after sampler events).cancelled = true ↔
      job.cancelled = true ∨ .cancel ∈ events := by
  induction events generalizing job with
  | nil => simp [after]
  | cons event rest ih =>
      show ((job.act sampler event).after sampler rest).cancelled = true ↔ _
      rw [ih, List.mem_cons]
      cases event with
      | cancel => simp [act, cancel]
      | step => simp [act, step_cancelled_eq]

omit [Scalar S] in
theorem finish_ok_iff {job : ExportJob S} {volume : Volume S} :
    job.finish = .ok volume ↔ job.cancelled = false ∧ job.values.length = job.grid.size ∧
      volume = ⟨job.grid.resolution, job.grid.low, job.grid.high, job.values⟩ := by
  rw [finish, isFinished]
  cases job.cancelled <;> by_cases full : job.values.length = job.grid.size <;>
    simp [full, eq_comm]

end

variable {job next later : ExportJob Single}

theorem progress_eq (job : ExportJob Single) :
    job.progress = Single.fraction job.values.length job.grid.size := rfl

section
variable (cells : 0 < job.grid.size) (few : job.grid.size < 2 ^ 32)
  (bounded : job.values.length ≤ job.grid.size)
include cells few bounded

theorem progress_nonneg : 0.0 ≤ job.progress :=
  Single.fraction_nonneg cells few (by omega)

theorem progress_le_one : job.progress ≤ 1.0 :=
  Single.fraction_le_one cells few bounded

theorem Continues.progress_le (continues : Continues job later) :
    job.progress ≤ later.progress := by
  have bounded' := continues.bounded bounded
  rw [progress_eq, progress_eq, continues.grid_eq]
  rw [continues.grid_eq] at bounded'
  exact Single.fraction_mono cells few continues.grows (by omega)

theorem step_progress {sampler : Sampler Single} {fraction : Single}
    (succeeds : job.step sampler = (.ok fraction, next)) : (fraction == next.progress) = true := by
  have outcome := job.stepped sampler
  rw [succeeds] at outcome
  cases outcome with
  | finished _ finished =>
      have full : job.values.length = job.grid.size := of_decide_eq_true finished
      have number := Single.fraction_isNaN cells few few
      rw [progress_eq, full, Single.beq_iff_rank rfl number, Single.fraction_self cells few]
  | sampled _ _ gets =>
      have kept := Continues.keep gets
      have number : (job.keep _).progress.isNaN = false :=
        Single.fraction_isNaN cells few (by have := kept.bounded bounded; exact this.trans_lt few)
      rw [Single.beq_iff_rank number number]

end

end ExportJob
end RayScene
