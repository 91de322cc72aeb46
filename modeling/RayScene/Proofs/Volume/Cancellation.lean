import RayScene.Proofs.Volume.Batches
import RayScene.Proofs.Volume.Interruption

/-!
Exports that are cancelled or fail. An export calls back once for every batch that its sampler has
delivered; it hands out a volume only if nobody has cancelled it by then, the last call included.
-/

namespace RayScene

namespace ExportJob

variable {S : Type} [Scalar S]

def cellsOf (grid : Grid S) (batchSize count : Nat) : Nat := min (count * batchSize) grid.size

def Delivers (sampler : Sampler S) (grid : Grid S) (batchSize number : Nat) (batch : List S) :
    Prop :=
  let start := number * batchSize
  let stop := cellsOf grid batchSize (number + 1)
  sampler number grid start stop = .ok batch ∧ batch.length = stop - start

def reports (grid : Grid S) (batchSize count : Nat) : List S :=
  (List.range count).map fun number =>
    Scalar.ofNat (cellsOf grid batchSize (number + 1)) / Scalar.ofNat grid.size

theorem reports_length (grid : Grid S) (batchSize count : Nat) :
    (reports grid batchSize count).length = count := by
  rw [reports, List.length_map, List.length_range]

theorem reports_succ (grid : Grid S) (batchSize count : Nat) :
    (reports grid batchSize (count + 1)).reverse =
      (Scalar.ofNat (cellsOf grid batchSize (count + 1)) / Scalar.ofNat grid.size) ::
        (reports grid batchSize count).reverse := by
  rw [reports, List.range_succ, List.map_append, List.reverse_append]
  rfl

omit [Scalar S] in
theorem lt_batchCount_iff {job : ExportJob S} (positive : 0 < job.batchSize) {count : Nat} :
    count < job.batchCount ↔ count * job.batchSize < job.grid.size := by
  rw [batchCount, Nat.lt_iff_add_one_le, Nat.le_div_iff_mul_le positive, Nat.succ_mul]
  omega

variable {sampler : Sampler S} {grid : Grid S} {batchSize : Nat} {cancels : List S → Bool}
  {batches : List (List S)} {job : ExportJob S}

inductive Ended (sampler : Sampler S) (grid : Grid S) (batchSize : Nat) (cancels : List S → Bool)
    (batches : List (List S)) : Except (ExportError S) (Volume S) → Prop where
  | aborted : cancels (reports grid batchSize batches.length).reverse = true →
      Ended sampler grid batchSize cancels batches (.error .aborted)
  | finished : cancels (reports grid batchSize batches.length).reverse = false →
      batches.length = (start grid batchSize).batchCount →
      Ended sampler grid batchSize cancels batches
        (.ok ⟨grid.resolution, grid.low, grid.high, batches.flatten⟩)
  | failed {e : SamplerError} : cancels (reports grid batchSize batches.length).reverse = false →
      batches.length < (start grid batchSize).batchCount →
      (∀ batch, ¬ Delivers sampler grid batchSize batches.length batch) →
      Ended sampler grid batchSize cancels batches (.error (.sampler e))

structure Delivered (sampler : Sampler S) (grid : Grid S) (batchSize : Nat)
    (cancels : List S → Bool) (batches : List (List S)) : Prop where
  each : ∀ number batch, batches[number]? = some batch →
    Delivers sampler grid batchSize number batch
  few : batches.length ≤ (start grid batchSize).batchCount
  undisturbed : ∀ count < batches.length, cancels (reports grid batchSize count).reverse = false

structure Underway (grid : Grid S) (batchSize : Nat) (batches : List (List S))
    (job : ExportJob S) : Prop where
  job_eq : job = ⟨grid, batchSize, false, batches.length, batches.flatten⟩
  positive : 0 < batchSize
  length_eq : job.values.length = cellsOf grid batchSize batches.length

omit [Scalar S] in
theorem Underway.isFinished_iff (underway : Underway grid batchSize batches job) :
    job.isFinished = false ↔ batches.length < (start grid batchSize).batchCount := by
  have word : (start grid batchSize).batchSize = batchSize := Nat.max_eq_left underway.positive
  have positive : 0 < (start grid batchSize).batchSize := Nat.le_max_right _ _
  have length := underway.length_eq
  rw [lt_batchCount_iff positive, word, isFinished, decide_eq_false_iff_not, length,
    underway.job_eq, cellsOf]
  show ¬ min (batches.length * batchSize) grid.size = grid.size ↔
    batches.length * batchSize < grid.size
  omega

omit [Scalar S] in
theorem Underway.gets_iff (underway : Underway grid batchSize batches job)
    (more : job.isFinished = false) {batch : List S} :
    job.Gets sampler batch ↔ Delivers sampler grid batchSize batches.length batch := by
  have length := underway.length_eq
  rw [isFinished, decide_eq_false_iff_not, length, underway.job_eq] at more
  have start : job.values.length = batches.length * batchSize := by
    rw [length, cellsOf] at *
    dsimp only at more
    omega
  rw [Gets, nextBatch, start, underway.job_eq, Delivers, cellsOf, Nat.succ_mul]

omit [Scalar S] in
theorem Underway.keep (underway : Underway grid batchSize batches job)
    (more : job.isFinished = false) {batch : List S}
    (delivers : Delivers sampler grid batchSize batches.length batch) :
    Underway grid batchSize (batches ++ [batch]) (job.keep batch) := by
  have length := underway.length_eq
  have count := delivers.2
  have unfinished := more
  rw [isFinished, decide_eq_false_iff_not, length, underway.job_eq] at unfinished
  refine ⟨?_, underway.positive, ?_⟩
  · rw [underway.job_eq, ExportJob.keep, List.length_append, List.flatten_append,
      List.flatten_singleton]
    rfl
  · show (job.values ++ batch).length = _
    rw [List.length_append, length, count, List.length_append, List.length_singleton]
    simp only [cellsOf, Nat.succ_mul] at unfinished ⊢
    omega

theorem Underway.progress_keep (underway : Underway grid batchSize batches job)
    (more : job.isFinished = false) {batch : List S}
    (delivers : Delivers sampler grid batchSize batches.length batch) :
    (job.keep batch).progress =
      Scalar.ofNat (cellsOf grid batchSize (batches.length + 1)) / Scalar.ofNat grid.size := by
  have next := underway.keep more delivers
  rw [progress, next.length_eq, List.length_append, List.length_singleton, next.job_eq]

theorem Delivered.keep (delivered : Delivered sampler grid batchSize cancels batches)
    (going : cancels (reports grid batchSize batches.length).reverse = false)
    (more : batches.length < (start grid batchSize).batchCount) {batch : List S}
    (delivers : Delivers sampler grid batchSize batches.length batch) :
    Delivered sampler grid batchSize cancels (batches ++ [batch]) := by
  have one : (batches ++ [batch]).length = batches.length + 1 := List.length_append
  refine ⟨fun number other found => ?_, by rw [one]; omega, fun earlier before => ?_⟩
  · rcases Nat.lt_or_ge number batches.length with old | new
    · rw [List.getElem?_append_left old] at found
      exact delivered.each number other found
    · obtain rfl : number = batches.length := by
        have := (List.getElem?_eq_some_iff.mp found).1
        omega
      rw [List.getElem?_concat_length, Option.some_inj] at found
      exact found ▸ delivers
  · rw [one] at before
    rcases Nat.lt_succ_iff_lt_or_eq.mp before with old | rfl
    · exact delivered.undisturbed earlier old
    · exact going

theorem run_cancelled {reported : List S} (cancelled : cancels reported = true) (count : Nat) :
    job.run sampler cancels count reported = (reported, .error .aborted) := by
  have finishes : job.cancel.finish = .error .aborted := rfl
  have steps : job.cancel.step sampler = (.error .aborted, job.cancel) := step_cancelled rfl _
  cases count <;> simp [run, cancelled, finishes, steps]

theorem run_of_finished {reported : List S} (going : cancels reported = false)
    (finished : job.isFinished = true) (count : Nat) :
    job.run sampler cancels count reported = (reported, job.finish) := by
  cases count <;> simp [run, going, finished]

theorem run_of_failed {reported : List S} (going : cancels reported = false)
    (more : job.isFinished = false) {e : ExportError S} {next : ExportJob S}
    (steps : job.step sampler = (.error e, next)) (count : Nat) :
    job.run sampler cancels (count + 1) reported = (reported, .error e) := by
  simp [run, going, more, steps]

theorem run_of_stepped {reported : List S} (going : cancels reported = false)
    (more : job.isFinished = false) {fraction : S} {next : ExportJob S}
    (steps : job.step sampler = (.ok fraction, next)) (count : Nat) :
    job.run sampler cancels (count + 1) reported =
      next.run sampler cancels count (fraction :: reported) := by
  simp [run, going, more, steps]

theorem Underway.run (underway : Underway grid batchSize batches job)
    (delivered : Delivered sampler grid batchSize cancels batches) {count : Nat}
    (left : batches.length + count = (start grid batchSize).batchCount) :
    ∃ all result,
      job.run sampler cancels count (reports grid batchSize batches.length).reverse =
        ((reports grid batchSize all.length).reverse, result) ∧
      Delivered sampler grid batchSize cancels all ∧
      Ended sampler grid batchSize cancels all result := by
  -- on the steps that are left; a cancellation ends the run in either case
  induction count generalizing job batches with
  | zero =>
      cases going : cancels (reports grid batchSize batches.length).reverse with
      | true => exact ⟨_, _, run_cancelled going _, delivered, .aborted going⟩
      | false =>
          have finished : job.isFinished = true := by
            have unfinished := underway.isFinished_iff
            cases done : job.isFinished with
            | true => rfl
            | false =>
                have := unfinished.mp done
                omega
          have full : job.values.length = job.grid.size := of_decide_eq_true finished
          have volume := finish_ok_iff.mpr ⟨congrArg cancelled underway.job_eq, full, rfl⟩
          refine ⟨_, _, (run_of_finished going finished _).trans (congrArg _ volume), delivered, ?_⟩
          rw [underway.job_eq]
          exact .finished going left
  | succ count ih =>
      cases going : cancels (reports grid batchSize batches.length).reverse with
      | true => exact ⟨_, _, run_cancelled going _, delivered, .aborted going⟩
      | false =>
          have more := underway.isFinished_iff.mpr (by omega)
          have running : job.cancelled = false := congrArg cancelled underway.job_eq
          have outcome := job.stepped sampler
          generalize steps : job.step sampler = result at outcome
          cases outcome with
          | aborted cancelled => rw [running] at cancelled; cases cancelled
          | finished _ finished => rw [more] at finished; cases finished
          | failed _ _ fails =>
              refine ⟨_, _, run_of_failed going more steps count, delivered,
                .failed going (by omega) fun batch delivers => ?_⟩
              exact fails batch ((underway.gets_iff more).mpr delivers)
          | @sampled batch _ _ gets =>
              have delivers := (underway.gets_iff more).mp gets
              have one : (batches ++ [batch]).length = batches.length + 1 := List.length_append
              have rest := ih (underway.keep more delivers)
                (delivered.keep going (by omega) delivers) (by rw [one]; omega)
              rw [one, reports_succ, ← underway.progress_keep more delivers,
                ← run_of_stepped going more steps] at rest
              exact rest

end ExportJob

open ExportJob

section
variable {S : Type} [Scalar S] {settings : ExportSettings S} {grid : Grid S}

theorem exportVolume_delivers (accepted : settings.grid = .ok grid) (sampler : Sampler S)
    (cancels : List S → Bool) :
    ∃ batches result,
      exportVolume sampler settings cancels =
        (reports grid defaultBatchSize batches.length, result) ∧
      Delivered sampler grid defaultBatchSize cancels batches ∧
      Ended sampler grid defaultBatchSize cancels batches result := by
  have begun : Underway grid defaultBatchSize [] (start grid defaultBatchSize) :=
    ⟨rfl, by decide, by simp [start, cellsOf]⟩
  have none : Delivered sampler grid defaultBatchSize cancels [] :=
    ⟨by simp, Nat.zero_le _, by simp⟩
  obtain ⟨batches, result, ran, delivered, ended⟩ := begun.run none (Nat.zero_add _)
  refine ⟨batches, result, ?_, delivered, ended⟩
  have whole : (start grid defaultBatchSize).run sampler cancels
      (start grid defaultBatchSize).batchCount [] = _ := ran
  rw [exportVolume, accepted]
  dsimp only
  rw [whole, List.reverse_reverse]

/-- A cancellation in one of the calls is seen before the next batch, and before the end. -/
theorem exportVolume_cancelled (accepted : settings.grid = .ok grid) {sampler : Sampler S}
    {cancels : List S → Bool} {count : Nat}
    (few : count ≤ (start grid defaultBatchSize).batchCount)
    (deliveries : ∀ number < count, ∃ batch,
      Delivers sampler grid defaultBatchSize number batch)
    (undisturbed : ∀ earlier < count,
      cancels (reports grid defaultBatchSize earlier).reverse = false)
    (cancelled : cancels (reports grid defaultBatchSize count).reverse = true) :
    (exportVolume sampler settings cancels).1.length = count ∧
      (exportVolume sampler settings cancels).2 = .error .aborted := by
  obtain ⟨batches, result, ran, delivered, ended⟩ := exportVolume_delivers accepted sampler cancels
  rw [ran, reports_length]
  rcases Nat.lt_trichotomy batches.length count with early | rfl | late
  · exfalso
    have going := undisturbed _ early
    cases ended with
    | aborted cancelled => rw [going] at cancelled; cases cancelled
    | finished _ all => omega
    | failed _ _ fails =>
        obtain ⟨batch, delivers⟩ := deliveries _ early
        exact fails batch delivers
  · cases ended with
    | aborted => exact ⟨rfl, rfl⟩
    | finished going => rw [cancelled] at going; cases going
    | failed going => rw [cancelled] at going; cases going
  · have going := delivered.undisturbed _ late
    rw [cancelled] at going
    cases going

end

/-- Whatever is done to a job, and however its sampler behaves, it never has more or less than whole
batches, and no volume comes of a job that is cancelled or not complete. An export reports each
batch once, and a cancellation in any of these calls leaves it without a volume. -/
theorem interrupted_export_hands_out_nothing {settings : ExportSettings Single}
    {grid : Grid Single} (accepted : settings.grid = .ok grid) (sampler : Sampler Single) :
    (∀ (batchSize : UInt64) (events : List Event),
      let begun := start grid batchSize.toNat
      let job := begun.after sampler events
      (∀ e next, job.step sampler = (.error e, next) →
        next.values = job.values ∧ next.progress = job.progress ∧
          next.isFinished = job.isFinished) ∧
      job.values = (begun.batches sampler events).flatten ∧
      (.cancel ∈ events → ∀ other : Sampler Single, job.step other = (.error .aborted, job)) ∧
      (∀ volume, job.finish = .ok volume ↔
        .cancel ∉ events ∧ job.values.length = settings.resolution.toInt.toNat ^ 3 ∧
          volume = ⟨grid.resolution, grid.low, grid.high, job.values⟩) ∧
      0.0 ≤ job.progress ∧ job.progress ≤ 1.0 ∧
      (∀ more, job.progress ≤ (begun.after sampler (events ++ more)).progress) ∧
      ∀ fraction next, job.step sampler = (.ok fraction, next) →
        (fraction == next.progress) = true) ∧
    ∀ cancels : List Single → Bool,
      (∃ batches result,
        exportVolume sampler settings cancels =
          (reports grid defaultBatchSize batches.length, result) ∧
        Delivered sampler grid defaultBatchSize cancels batches ∧
        Ended sampler grid defaultBatchSize cancels batches result) ∧
      ∀ count, 1 ≤ count → count ≤ (start grid defaultBatchSize).batchCount →
        (∀ number < count, ∃ batch, Delivers sampler grid defaultBatchSize number batch) →
        (∀ earlier < count, cancels (reports grid defaultBatchSize earlier).reverse = false) →
        cancels (reports grid defaultBatchSize count).reverse = true →
        (exportVolume sampler settings cancels).1.length = count ∧
          (exportVolume sampler settings cancels).2 = .error .aborted := by
  obtain ⟨cells, few⟩ := ExportSettings.grid_size accepted
  constructor
  · intro batchSize events begun job
    -- Whatever happens only continues the job, and nothing below looks at the events again.
    have continues : Continues begun job := continues_after sampler begun events
    have same : job.grid = grid := continues.grid_eq
    have bounded : job.values.length ≤ job.grid.size := continues.bounded (Nat.zero_le _)
    have cells : 0 < job.grid.size := same ▸ cells
    have few : job.grid.size < 2 ^ 32 := by
      rw [same]
      omega
    have cancelled : job.cancelled = true ↔ .cancel ∈ events := by
      have either := after_cancelled sampler begun events
      exact either.trans (or_iff_right Bool.false_ne_true)
    refine ⟨fun _ _ => step_failed, after_values sampler begun events,
      fun member => step_cancelled (cancelled.mpr member), fun volume => ?_,
      progress_nonneg cells few bounded, progress_le_one cells few bounded, fun more => ?_,
      fun _ _ => step_progress cells few bounded⟩
    · rw [finish_ok_iff, ← Bool.not_eq_true, cancelled, same, ExportSettings.grid_size_eq accepted]
    · rw [after_append]
      exact (continues_after sampler job more).progress_le cells few bounded
  · intro cancels
    exact ⟨exportVolume_delivers accepted sampler cancels,
      fun _ _ few deliveries undisturbed cancelled =>
        exportVolume_cancelled accepted few deliveries undisturbed cancelled⟩

def tiresome : Sampler Single := fun calls _ start stop =>
  .ok (if calls = 0 then List.replicate (stop - start) 0.5 else [])

/-- The first of three batches is all that there ever is of this job; an export, which samples these
cells in one batch, is cancelled in its only call. -/
theorem threePerAxis_interrupted :
    ∃ grid, threePerAxis.grid = .ok grid ∧
      (let job := (start grid 10).after tiresome [.step, .step, .cancel];
        job.values = ((start grid 10).batches tiresome [.step, .step, .cancel]).flatten ∧
        (∀ other : Sampler Single, job.step other = (.error .aborted, job)) ∧
        ∀ volume, job.finish ≠ .ok volume) ∧
      (exportVolume tiresome threePerAxis fun reported => !reported.isEmpty).1.length = 1 ∧
      (exportVolume tiresome threePerAxis fun reported => !reported.isEmpty).2 =
        .error .aborted := by
  have accepted : threePerAxis.grid = .ok ⟨3, Vec3.splat (-1.0), Vec3.splat 1.0⟩ := by rfl
  obtain ⟨jobs, exports⟩ := interrupted_export_hands_out_nothing accepted tiresome
  obtain ⟨-, values, aborts, finishes, -⟩ := jobs 10 [.step, .step, .cancel]
  refine ⟨_, accepted, ⟨values, aborts (by decide), fun volume finished => ?_⟩, ?_⟩
  · exact ((finishes volume).mp finished).1 (by decide)
  · refine (exports _).2 1 le_rfl (by decide) (fun number first => ?_) (fun earlier first => ?_) rfl
    · obtain rfl := Nat.lt_one_iff.mp first
      exact ⟨List.replicate 27 0.5, rfl, rfl⟩
    · obtain rfl := Nat.lt_one_iff.mp first
      rfl

end RayScene
