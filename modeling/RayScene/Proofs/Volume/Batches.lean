import RayScene.Proofs.Volume.Cells

/-!
Stepping an export job to its end. The batches that it samples tile the grid: none of them is
empty, each goes on where the one before it stopped, and together they are all cells. What the
finished job hands out is the field at every cell, however many cells a batch has.
-/

namespace RayScene

variable {S : Type}

/-- Whatever it was asked before, the sampler answers for every range of cells in the grid with
the values of the field. -/
def Sampler.Honors (sampler : Sampler S) (grid : Grid S) (field : Nat → S) : Prop :=
  ∀ calls start stop, start ≤ stop → stop ≤ grid.size →
    sampler calls grid start stop = .ok ((indexRange start stop).map field)

theorem indexRange_append {start middle stop : Nat} (low : start ≤ middle) (high : middle ≤ stop) :
    indexRange start middle ++ indexRange middle stop = indexRange start stop := by
  have next : middle = start + (middle - start) := by omega
  have total : stop - start = middle - start + (stop - middle) := by omega
  rw [indexRange, indexRange, indexRange, total, List.range'_append_1.symm, ← next]

theorem range_eq_indexRange (n : Nat) : List.range n = indexRange 0 n := by
  rw [indexRange, List.range_eq_range', Nat.sub_zero]

namespace ExportJob

variable [Scalar S]

/-- A job that is stepped without a fault, until it is finished, samples these batches. -/
inductive Drains (sampler : Sampler S) : ExportJob S → List (Nat × Nat) → ExportJob S → Prop where
  | finished {job : ExportJob S} : job.isFinished = true → Drains sampler job [] job
  | step {job next last : ExportJob S} {progress : S} {batches : List (Nat × Nat)} :
      job.isFinished = false → job.step sampler = (.ok progress, next) →
      Drains sampler next batches last → Drains sampler job (job.nextBatch :: batches) last

theorem Drains.unique {sampler : Sampler S} {job last other : ExportJob S}
    {batches others : List (Nat × Nat)} (drains : Drains sampler job batches last)
    (again : Drains sampler job others other) : others = batches ∧ other = last := by
  induction drains generalizing others other with
  | finished done =>
      cases again with
      | finished => exact ⟨rfl, rfl⟩
      | step more => rw [done] at more; cases more
  | step more steps _ ih =>
      cases again with
      | finished done => rw [more] at done; cases done
      | step _ steps' rest =>
          rw [steps] at steps'
          obtain ⟨-, rfl⟩ := Prod.mk.inj steps'
          obtain ⟨rfl, rfl⟩ := ih rest
          exact ⟨rfl, rfl⟩

theorem Drains.run {sampler : Sampler S} {job last : ExportJob S} {batches : List (Nat × Nat)}
    (drains : Drains sampler job batches last) {count : Nat} (enough : batches.length ≤ count)
    (reported : List S) :
    (job.run sampler (fun _ => false) count reported).2 = last.finish := by
  induction drains generalizing count reported with
  | finished done => cases count <;> simp [ExportJob.run, done]
  | step more steps _ ih =>
      cases count with
      | zero => cases enough
      | succ count =>
          have rest := ih (Nat.le_of_succ_le_succ enough)
          simp [ExportJob.run, more, steps, rest]

structure Samples (grid : Grid S) (field : Nat → S) (job : ExportJob S) : Prop where
  grid_eq : job.grid = grid
  cancelled_eq : job.cancelled = false
  positive : 0 < job.batchSize
  bounded : job.values.length ≤ grid.size
  values_eq : job.values = (indexRange 0 job.values.length).map field
  whole : job.values.length = 0 ∨ job.batchSize ≤ job.values.length ∨
    job.values.length = grid.size

variable {grid : Grid S} {field : Nat → S} {sampler : Sampler S} {job : ExportJob S}

omit [Scalar S] in
theorem samples_start (grid : Grid S) (field : Nat → S) (batchSize : Nat) :
    Samples grid field (start grid batchSize) where
  grid_eq := rfl
  cancelled_eq := rfl
  positive := Nat.le_max_right _ _
  bounded := Nat.zero_le _
  values_eq := rfl
  whole := .inl rfl

omit [Scalar S] in
theorem Samples.isFinished_iff (samples : Samples grid field job) :
    job.isFinished = true ↔ job.values.length = grid.size := by
  rw [isFinished, samples.grid_eq, decide_eq_true_iff]

omit [Scalar S] in
theorem Samples.nextBatch_eq (samples : Samples grid field job) :
    job.nextBatch =
      (job.values.length, min (job.values.length + job.batchSize) grid.size) := by
  rw [nextBatch, samples.grid_eq]

theorem Samples.step (samples : Samples grid field job) (honors : sampler.Honors grid field)
    (more : job.values.length < grid.size) :
    ∃ progress next, job.step sampler = (.ok progress, next) ∧ Samples grid field next ∧
      next.batchSize = job.batchSize ∧
      next.values.length = min (job.values.length + job.batchSize) grid.size := by
  have unfinished : ¬ job.isFinished = true := by
    rw [samples.isFinished_iff]
    omega
  let stop := min (job.values.length + job.batchSize) grid.size
  have ahead : job.values.length ≤ stop := by
    have positive := samples.positive
    omega
  have inside : stop ≤ grid.size := Nat.min_le_right _ _
  have answer := honors job.calls job.values.length stop ahead inside
  have count : ((indexRange job.values.length stop).map field).length =
      stop - job.values.length := by
    rw [List.length_map, indexRange, List.length_range']
  let next : ExportJob S := ⟨grid, job.batchSize, false, job.calls + 1,
    job.values ++ (indexRange job.values.length stop).map field⟩
  have length : next.values.length = stop := by
    show (job.values ++ _).length = stop
    rw [List.length_append, count]
    omega
  refine ⟨next.progress, next, ?_, ?_, rfl, length⟩
  · simp only [ExportJob.step, samples.cancelled_eq, if_neg unfinished, samples.nextBatch_eq,
      samples.grid_eq, Bool.false_eq_true, if_false]
    rw [show min (job.values.length + job.batchSize) grid.size = stop from rfl, answer]
    simp only [count, if_true]
    rfl
  · constructor
    · rfl
    · rfl
    · exact samples.positive
    · rw [length]
      exact inside
    · rw [length, ← indexRange_append (Nat.zero_le _) ahead, List.map_append, ← samples.values_eq]
    · rw [length]
      show stop = 0 ∨ job.batchSize ≤ stop ∨ stop = grid.size
      omega

structure InGrid (grid : Grid S) (batchSize : Nat) (batch : Nat × Nat) : Prop where
  nonempty : batch.1 < batch.2
  inside : batch.2 ≤ grid.size
  short : batch.2 - batch.1 ≤ batchSize
  no_overflow : batch.1 + batchSize < UInt64.size

omit [Scalar S] in
theorem Samples.nextBatch_inGrid (samples : Samples grid field job)
    (more : job.values.length < grid.size) (small : grid.size + grid.size < UInt64.size)
    (word : job.batchSize < UInt64.size) : InGrid grid job.batchSize job.nextBatch := by
  have positive := samples.positive
  have whole := samples.whole
  rw [samples.nextBatch_eq]
  constructor <;> dsimp only <;> omega

def batchesFor (cells batchSize : Nat) : Nat := (cells + batchSize - 1) / batchSize

theorem batchesFor_zero {batchSize : Nat} (positive : 0 < batchSize) :
    batchesFor 0 batchSize = 0 :=
  Nat.div_eq_of_lt (by omega)

theorem batchesFor_next {cells batchSize : Nat} (positive : 0 < batchSize) (more : 0 < cells) :
    batchesFor cells batchSize = batchesFor (cells - min batchSize cells) batchSize + 1 := by
  have first : cells + batchSize - 1 = cells - 1 + batchSize := by omega
  rw [batchesFor, first, Nat.add_div_right _ positive, batchesFor]
  congr 1
  by_cases last : cells ≤ batchSize
  · have none : cells - min batchSize cells + batchSize - 1 = batchSize - 1 := by omega
    rw [none, Nat.div_eq_of_lt (by omega), Nat.div_eq_of_lt (by omega)]
  · have rest : cells - min batchSize cells + batchSize - 1 = cells - 1 := by omega
    rw [rest]

/-- What is left of a job: the batches up to the end of the grid, and the finished job. -/
theorem Samples.drains (honors : sampler.Honors grid field)
    (small : grid.size + grid.size < UInt64.size) (samples : Samples grid field job)
    (word : job.batchSize < UInt64.size) :
    ∃ batches last, Drains sampler job batches last ∧ Samples grid field last ∧
      last.values.length = grid.size ∧
      batches.length = batchesFor (grid.size - job.values.length) job.batchSize ∧
      (∀ batch ∈ batches, InGrid grid job.batchSize batch) ∧
      batches.flatMap (fun batch => indexRange batch.1 batch.2) =
        indexRange job.values.length grid.size := by
  generalize left : grid.size - job.values.length = cells
  induction cells using Nat.strongRecOn generalizing job with
  | ind cells ih =>
    have positive := samples.positive
    have bounded := samples.bounded
    by_cases done : job.values.length = grid.size
    · refine ⟨[], job, .finished (samples.isFinished_iff.mpr done), samples, done, ?_, by simp, ?_⟩
      · rw [← left, done, Nat.sub_self, batchesFor_zero positive, List.length_nil]
      · rw [done, indexRange, Nat.sub_self, List.range'_zero, List.flatMap_nil]
    · have more : job.values.length < grid.size := by omega
      have unfinished : job.isFinished = false := by
        rw [← Bool.not_eq_true, samples.isFinished_iff]
        exact done
      obtain ⟨progress, next, steps, sampled, same, length⟩ := samples.step honors more
      have shorter : grid.size - next.values.length < cells := by omega
      obtain ⟨batches, last, drains, finished, full, count, fits, covers⟩ :=
        ih _ shorter sampled (same ▸ word) rfl
      rw [same] at count fits
      refine ⟨job.nextBatch :: batches, last, .step unfinished steps drains, finished, full,
        ?_, ?_, ?_⟩
      · have rest : grid.size - next.values.length = cells - min job.batchSize cells := by omega
        rw [List.length_cons, count, rest, ← batchesFor_next positive (by omega)]
      · intro batch member
        rcases List.mem_cons.mp member with rfl | member
        · exact samples.nextBatch_inGrid more small word
        · exact fits batch member
      · rw [List.flatMap_cons, covers, samples.nextBatch_eq, length]
        exact indexRange_append (by omega) (Nat.min_le_right _ _)

omit [Scalar S] in
theorem Samples.finish (samples : Samples grid field job)
    (full : job.values.length = grid.size) : job.finish = .ok (grid.volume field) := by
  have finished := samples.isFinished_iff.mpr full
  have values : job.values = (List.range grid.size).map field := by
    rw [range_eq_indexRange, ← full, ← samples.values_eq]
  simp only [ExportJob.finish, samples.cancelled_eq, finished, Bool.not_true, Bool.or_false,
    Bool.false_eq_true, if_false, samples.grid_eq, values, Grid.volume]

end ExportJob

open ExportJob

variable [Scalar S] {settings : ExportSettings S} {grid : Grid S}

theorem Sampler.ofScene_honors (scene : Scene S) (grid : Grid S) :
    (Sampler.ofScene scene).Honors grid fun index => scene.distance (grid.centerOf index) := by
  intro calls start stop low high
  have inside : ¬ (stop < start ∨ grid.size < stop) := by omega
  rw [Sampler.ofScene, if_neg inside]

omit [Scalar S] in
theorem Grid.volume_value {c : Cell} (field : Nat → S) (small : grid.size < Volume.indexBound)
    (inside : grid.Contains c) :
    (grid.volume field).value c = .ok (some (field (grid.index c))) := by
  have within := Grid.index_lt_size inside
  have counted : grid.index c < Volume.indexBound := Nat.lt_trans within small
  have found : ((List.range grid.size).map field)[grid.index c]? = some (field (grid.index c)) := by
    rw [List.getElem?_map, List.getElem?_range within, Option.map_some]
  rw [Volume.value]
  exact (if_pos inside).trans ((if_pos counted).trans (congrArg Except.ok found))

/-- Running a job to its end in batches of any size. The batches are the whole grid, taken apart;
the volume is the field at all its cells. A volume of a scene has the distance at the center of
every cell. -/
theorem batches_sample_whole_grid (accepted : settings.grid = .ok grid) (batchSize : UInt64) :
    (∀ (sampler : Sampler S) (field : Nat → S), sampler.Honors grid field →
      (∃ batches last,
        Drains sampler (start grid batchSize.toNat) batches last ∧
        (∀ others other, Drains sampler (start grid batchSize.toNat) others other →
          others = batches ∧ other = last) ∧
        batches.length = (start grid batchSize.toNat).batchCount ∧
        (∀ batch ∈ batches, InGrid grid (max batchSize.toNat 1) batch) ∧
        batches.flatMap (fun batch => indexRange batch.1 batch.2) = List.range grid.size ∧
        last.finish = .ok (grid.volume field)) ∧
      (exportVolume sampler settings fun _ => false).2 = .ok (grid.volume field)) ∧
    ∀ scene : Scene S, ∃ field, (Sampler.ofScene scene).Honors grid field ∧
      ∀ c, grid.Contains c →
        (grid.volume field).value c = .ok (some (scene.distance (grid.cellCenter c))) := by
  obtain ⟨-, high⟩ := ExportSettings.grid_size accepted
  have small : grid.size + grid.size < UInt64.size := by
    have bound : 512 * 512 * 512 + 512 * 512 * 512 < UInt64.size := by decide
    omega
  constructor
  · intro sampler field honors
    have finishes (size : Nat) (word : max size 1 < UInt64.size) :=
      (samples_start grid field size).drains honors small word
    constructor
    · have word : max batchSize.toNat 1 < UInt64.size := by
        have bound := batchSize.toNat_lt_size
        have one : 1 < UInt64.size := by decide
        omega
      obtain ⟨batches, last, drains, samples, full, count, fits, covers⟩ := finishes _ word
      refine ⟨batches, last, drains, fun _ _ again => drains.unique again, count, fits, ?_,
        samples.finish full⟩
      rw [covers, range_eq_indexRange]
      rfl
    · obtain ⟨batches, last, drains, samples, full, count, -, -⟩ :=
        finishes defaultBatchSize (by decide)
      have ran := drains.run (Nat.le_of_eq count) []
      rw [exportVolume, accepted]
      exact ran.trans (samples.finish full)
  · intro scene
    refine ⟨_, Sampler.ofScene_honors scene grid, ?_⟩
    intro c inside
    have below : grid.size < Volume.indexBound := by
      have bound : 512 * 512 * 512 < Volume.indexBound := by decide
      omega
    rw [Grid.volume_value _ below inside, Grid.centerOf, Grid.cell_index inside]

def threePerAxis : ExportSettings Single := ⟨3, Vec3.splat (-1.0), Vec3.splat 1.0⟩

def ballAndBox : Scene Single := .ofObjects [
  ⟨0, .sphere (Vec3.splat 0.5) 0.25, .lambert, .standard⟩,
  ⟨1, .solid (.primitive .box Vec3.zero (Vec3.splat 0.5)), .glass, .standard⟩]

/-- Of batches of ten cells, the last one has seven. -/
theorem threePerAxis_sampled_in_tens :
    ∃ grid field, threePerAxis.grid = .ok grid ∧ (Sampler.ofScene ballAndBox).Honors grid field ∧
      (∃ batches last, Drains (Sampler.ofScene ballAndBox) (start grid 10) batches last ∧
        batches.length = 3 ∧ last.finish = .ok (grid.volume field)) ∧
      grid.Contains ⟨2, 1, 0⟩ ∧
      (grid.volume field).value ⟨2, 1, 0⟩ =
        .ok (some (ballAndBox.distance (grid.cellCenter ⟨2, 1, 0⟩))) := by
  have accepted : threePerAxis.grid = .ok ⟨3, Vec3.splat (-1.0), Vec3.splat 1.0⟩ := by rfl
  have inside : Grid.Contains ⟨3, Vec3.splat (-1.0 : Single), Vec3.splat 1.0⟩ ⟨2, 1, 0⟩ := by
    decide
  obtain ⟨samples, scenes⟩ := batches_sample_whole_grid accepted 10
  obtain ⟨field, honors, values⟩ := scenes ballAndBox
  obtain ⟨⟨batches, last, drains, -, count, -, -, finished⟩, -⟩ := samples _ field honors
  exact ⟨_, field, accepted, honors, ⟨batches, last, drains, count, finished⟩, inside,
    values _ inside⟩

end RayScene
