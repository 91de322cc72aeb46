import RayScene.Volume.Grid

/-!
Exports of distance fields. A job samples its grid batch by batch and hands out its values only
when all of them are there and nobody has cancelled it.
-/

namespace RayScene

structure Volume (S : Type) where
  resolution : UInt32
  minCoords : Vec3 S
  maxCoords : Vec3 S
  values : List S
  deriving DecidableEq, Repr

inductive IndexFault where
  | overflow
  /-- The grid has no cells, so that values belong to none. -/
  | noCells
  deriving DecidableEq, Repr

namespace Volume

variable {S : Type}

def grid (volume : Volume S) : Grid S := ⟨volume.resolution, volume.minCoords, volume.maxCoords⟩

def indexBound : Nat := Nat.pow 2 64

/-- The value of a cell, if the cell is inside the grid and has one. -/
def value (volume : Volume S) (c : Cell) : Except IndexFault (Option S) :=
  if c.i < volume.resolution ∧ c.j < volume.resolution ∧ c.k < volume.resolution then
    let index := volume.grid.index c
    if index < indexBound then .ok volume.values[index]? else .error .overflow
  else .ok none

def cells (volume : Volume S) : Except IndexFault (List (Cell × S)) :=
  if volume.grid.isEmpty ∧ !volume.values.isEmpty then .error .noCells
  else .ok (volume.values.mapIdx fun index value => (volume.grid.cell index, value))

end Volume

/--
Something that evaluates a field in the cells from `start` up to, but not including, `stop`. It
may answer each call in another way, so it is told how many calls have gone before.
-/
abbrev Sampler (S : Type) :=
  (calls : Nat) → Grid S → (start stop : Nat) → Except SamplerError (List S)

variable {S : Type}

def indexRange (start stop : Nat) : List Nat := List.range' start (stop - start)

/-- Samples the field of a scene, in cells of the grid only. -/
def Sampler.ofScene [Scalar S] (scene : Scene S) : Sampler S := fun _ grid start stop =>
  if stop < start ∨ grid.size < stop then .error (.rangeOutOfBounds start stop grid.size)
  else .ok ((indexRange start stop).map fun index => scene.distance (grid.centerOf index))

def defaultBatchSize : Nat := 4096

structure ExportJob (S : Type) where
  grid : Grid S
  batchSize : Nat
  cancelled : Bool
  calls : Nat
  values : List S
  deriving DecidableEq, Repr

namespace ExportJob

/-- A job for a grid; a batch has at least one cell. -/
def start (grid : Grid S) (batchSize : Nat) : ExportJob S := ⟨grid, max batchSize 1, false, 0, []⟩

def cancel (job : ExportJob S) : ExportJob S := { job with cancelled := true }

def batchCount (job : ExportJob S) : Nat := (job.grid.size + job.batchSize - 1) / job.batchSize

def isFinished (job : ExportJob S) : Bool := job.values.length = job.grid.size

def nextBatch (job : ExportJob S) : Nat × Nat :=
  (job.values.length, min (job.values.length + job.batchSize) job.grid.size)

variable [Scalar S]

def progress (job : ExportJob S) : S :=
  Scalar.ofNat job.values.length / Scalar.ofNat job.grid.size

def step (sampler : Sampler S) (job : ExportJob S) : Except (ExportError S) S × ExportJob S :=
  if job.cancelled then (.error .aborted, job)
  else if job.isFinished then (.ok 1.0, job)
  else
    let (start, stop) := job.nextBatch
    let asked := { job with calls := job.calls + 1 }
    match sampler job.calls job.grid start stop with
    | .error e => (.error (.sampler e), asked)
    | .ok batch =>
      if batch.length = stop - start then
        let done := { asked with values := job.values ++ batch }
        (.ok done.progress, done)
      else
        (.error (.sampler (.readback
          s!"expected {stop - start} samples, got {batch.length}")), asked)

omit [Scalar S] in
def finish (job : ExportJob S) : Except (ExportError S) (Volume S) :=
  if job.cancelled || !job.isFinished then .error .aborted
  else .ok ⟨job.grid.resolution, job.grid.low, job.grid.high, job.values⟩

/--
Runs a job to its end in at most `count` steps. The fractions that have been reported, the latest
one first, decide whether the job is cancelled before the next step.
-/
def run (sampler : Sampler S) (cancels : List S → Bool) :
    Nat → List S → ExportJob S → List S × Except (ExportError S) (Volume S)
  | count, reported, job =>
    let job := if cancels reported then job.cancel else job
    match count with
    | 0 => (reported, job.finish)
    | count + 1 =>
      if job.isFinished then (reported, job.finish)
      else
        match job.step sampler with
        | (.error e, _) => (reported, .error e)
        | (.ok fraction, job) => run sampler cancels count (fraction :: reported) job

end ExportJob

/-- Samples the whole grid of the settings. Also returns the fractions reported on the way. -/
def exportVolume [Scalar S] (sampler : Sampler S) (settings : ExportSettings S)
    (cancels : List S → Bool) : List S × Except (ExportError S) (Volume S) :=
  match settings.grid with
  | .error e => ([], .error e)
  | .ok grid =>
    let job := ExportJob.start grid defaultBatchSize
    let (reported, result) := job.run sampler cancels job.batchCount []
    (reported.reverse, result)

end RayScene
