import Mathlib.Data.List.Basic
import RayScene.Proofs.Shader.Kernel
import RayScene.Proofs.Volume.Batches

/-!
Grids sampled by shaders. The kernel computes in words which cell a thread stands for, and where the
center of the cell is. Whatever batch of cells it is given, its threads write the field at the same
points as are sampled without it, each of them once.
-/

namespace RayScene

open Wgsl.Kernel Shader

variable {S : Type} [Scalar S]

def fieldCalls (field : Vec3 S → S) : Calls S
  | "f32", [.unsigned n] => some (.number (Scalar.ofNat n.toNat))
  | "vec3f", [.number x, .number y, .number z] => some (.numbers [x, y, z])
  | "grid_distance", [.numbers [x, y, z]] => some (.number (field ⟨x, y, z⟩))
  | _, _ => none

def memberNames : Wgsl.Item S → List String
  | .struct _ members => members.map (·.name)
  | _ => []

/-- The parameters of a batch as the kernel sees them. -/
def ExportParams.globals (params : ExportParams S) : Locals S
  | "params" => some (.record ((memberNames (exportParamsStruct : Wgsl.Item S)).zip
      [.numbers params.minCoords, .numbers params.cellSize, .unsigned params.resolution,
        .unsigned params.offset, .unsigned params.count, .unsigned 0]))
  | _ => none

namespace Grid

/-- What the threads of a dispatch write for a batch of cells, if they call this field. -/
def dispatched? (grid : Grid S) (start stop : Nat) (field : Vec3 S → S) : Option (List (Write S)) :=
  let count := UInt32.ofNat (stop - start)
  dispatch? (fieldCalls field) (ExportParams.ofGrid grid (UInt32.ofNat start) count).globals
    EntryPoint.distances.function (workgroups count)

def batchWrites (grid : Grid S) (start stop : Nat) (field : Vec3 S → S) : List (Write S) :=
  (List.range (stop - start)).map fun slot =>
    ⟨"export_values", slot, field (grid.centerOf (start + slot))⟩

variable {grid : Grid S} {index : Nat}

/-- The center of a cell from the digits of its number; nothing is left above the last one. -/
theorem centerOf_eq (inside : index < grid.size) :
    grid.centerOf index = grid.cellCenter
      ⟨UInt32.ofNat (index % grid.resolution.toNat),
        UInt32.ofNat (index / grid.resolution.toNat % grid.resolution.toNat),
        UInt32.ofNat (index / (grid.resolution.toNat * grid.resolution.toNat))⟩ := by
  rw [centerOf, cell, Nat.mod_eq_of_lt (Nat.div_lt_of_lt_mul inside)]

omit [Scalar S] in
theorem resolution_pos (inside : index < grid.size) : 0 < grid.resolution.toNat :=
  Nat.pos_of_mul_pos_left (Nat.zero_lt_of_lt inside)

end Grid

section Thread

variable {grid : Grid S} {start count thread : Nat} (field : Vec3 S → S)

theorem eval?_beyond {locals : Locals S} (threads : thread < UInt32.size)
    (counts : count < UInt32.size)
    (gid : locals "gid" = some (.words [UInt32.ofNat thread, 0, 0]))
    (free : locals "params" = none) :
    eval? (fieldCalls field)
        (ExportParams.ofGrid grid (UInt32.ofNat start) (UInt32.ofNat count)).globals locals
        (.binary .ge (.member (.var "gid") "x") (.member (.var "params") "count")) =
      some (.flag (decide (count ≤ thread))) := by
  refine Eq.trans (eval?_binary .ge (a := word thread) (b := word count) ?_ ?_)
    (ge_word threads counts)
  · rw [eval?, eval?, gid]
    rfl
  · rw [eval?, eval?, free]
    rfl

theorem invoke?_behind (threads : thread < UInt32.size) (behind : count ≤ thread) :
    invoke? (fieldCalls field)
        (ExportParams.ofGrid grid (UInt32.ofNat start) (UInt32.ofNat count)).globals
        EntryPoint.distances.function thread = some [] := by
  have counts := Nat.lt_of_le_of_lt behind threads
  refine invoke?_of_block threads (execBlock?_stop _ ?_)
  refine (eval?_beyond field threads counts rfl rfl).trans ?_
  rw [decide_eq_true behind]

theorem invoke?_within (small : grid.resolution.toNat ≤ 512) (batch : start + count ≤ grid.size)
    (within : thread < count) :
    invoke? (fieldCalls field)
        (ExportParams.ofGrid grid (UInt32.ofNat start) (UInt32.ofNat count)).globals
        EntryPoint.distances.function thread =
      some [⟨"export_values", thread, field (grid.centerOf (start + thread))⟩] := by
  let r := grid.resolution.toNat
  let index := start + thread
  have inside : index < grid.size := by omega
  have positive : 0 < r := Grid.resolution_pos inside
  -- every number on the way is a word
  have square : r * r ≤ 512 * 512 := Nat.mul_le_mul small small
  have size : grid.size ≤ 512 * 512 * 512 := Nat.mul_le_mul square small
  have words : 512 * 512 * 512 < UInt32.size := by decide
  have numbers : index < UInt32.size := by omega
  have threads : thread < UInt32.size := by omega
  have counts : count < UInt32.size := by omega
  have lines : r < UInt32.size := by omega
  have layers : r * r < UInt32.size := Nat.lt_of_le_of_lt square (by decide)
  have resolution : Datum.unsigned grid.resolution = (word r : Datum S) := by
    rw [word, UInt32.ofNat_toNat]
  apply invoke?_of_block threads
  refine (execBlock?_skip _ ?_).trans ?_
  · refine (eval?_beyond field threads counts rfl rfl).trans ?_
    rw [decide_eq_false (Nat.not_le.mpr within)]
  refine (execBlock?_bind _ (word index) ?_ rfl).trans ?_
  · exact (eval?_binary .add rfl rfl).trans (add_word numbers)
  refine (execBlock?_bind _ (word r) ?_ rfl).trans ?_
  · rw [← resolution]
    rfl
  refine (execBlock?_bind _ (word (index % r)) ?_ rfl).trans ?_
  · exact (eval?_binary .mod rfl rfl).trans (mod_word numbers lines positive)
  refine (execBlock?_bind _ (word (index / r % r)) ?_ rfl).trans ?_
  · refine (eval?_binary .mod ?_ rfl).trans (mod_word ?_ lines positive)
    · exact (eval?_binary .div rfl rfl).trans (div_word numbers lines positive)
    · exact Nat.lt_of_le_of_lt (Nat.div_le_self index r) numbers
  refine (execBlock?_bind _ (word (index / (r * r))) ?_ rfl).trans ?_
  · refine (eval?_binary .div rfl ?_).trans
      (div_word numbers layers (Nat.mul_pos positive positive))
    exact (eval?_binary .mul rfl rfl).trans (mul_word lines lines layers)
  let middles : List S := [Grid.middle (UInt32.ofNat (index % r)),
    Grid.middle (UInt32.ofNat (index / r % r)), Grid.middle (UInt32.ofNat (index / (r * r)))]
  refine (execBlock?_bind _ (.numbers middles) rfl rfl).trans ?_
  refine (execBlock?_write (UInt32.ofNat thread) (field (grid.centerOf index)) rfl ?_).trans ?_
  · rw [Grid.centerOf_eq inside]
    rfl
  · rw [UInt32.toNat_ofNat_of_lt' threads]

end Thread

theorem flatMap_threads {T : Type} (w : Nat → T) {count threads : Nat} (covered : count ≤ threads) :
    ((List.range threads).flatMap fun thread => if thread < count then [w thread] else []) =
      (List.range count).map w := by
  obtain ⟨rest, rfl⟩ := Nat.exists_eq_add_of_le covered
  have within : ∀ thread ∈ List.range count,
      (if thread < count then [w thread] else []) = [w thread] :=
    fun thread member => if_pos (List.mem_range.mp member)
  have behind : (List.range rest).flatMap
      (fun thread => if count + thread < count then [w (count + thread)] else []) = [] :=
    List.flatMap_eq_nil_iff.mpr fun thread _ => if_neg (by omega)
  rw [List.range_add, List.flatMap_append, List.flatMap_map, behind, List.append_nil,
    List.flatMap_congr within, List.map_eq_flatMap]

theorem workgroups_cover {count : Nat} (small : count ≤ 512 * 512 * 512) :
    count ≤ workgroupSize * (workgroups (UInt32.ofNat count)).toNat ∧
      workgroupSize * (workgroups (UInt32.ofNat count)).toNat ≤ count + workgroupSize := by
  have words : 512 * 512 * 512 < UInt32.size := by decide
  have counted : (UInt32.ofNat count).toNat = count := UInt32.toNat_ofNat_of_lt' (by omega)
  rw [workgroups, counted, workgroupSize, UInt32.toNat_ofNat_of_lt' (by omega)]
  omega

variable {settings : ExportSettings S} {grid : Grid S}

/-- For every batch of a grid the threads of the kernel compute without overflow. They write the
field at the centers of the cells of the batch, in the order in which a sampler of the scene has
them, and nothing else. -/
theorem kernel_samples_batch (accepted : settings.grid = .ok grid) {start stop : Nat}
    (low : start ≤ stop) (high : stop ≤ grid.size) :
    (∀ field, grid.dispatched? start stop field = some (grid.batchWrites start stop field)) ∧
      ∀ scene calls, Sampler.ofScene scene calls grid start stop =
        .ok ((grid.batchWrites start stop scene.distance).map (·.value)) := by
  obtain ⟨-, small⟩ := ExportSettings.grid_resolution accepted
  obtain ⟨-, size⟩ := ExportSettings.grid_size accepted
  constructor
  · intro field
    have batch : stop - start ≤ 512 * 512 * 512 := by omega
    obtain ⟨covered, few⟩ := workgroups_cover batch
    have words : 512 * 512 * 512 + workgroupSize < UInt32.size := by decide
    refine (dispatch?_of_threads (fun thread => if thread < stop - start then
      [⟨"export_values", thread, field (grid.centerOf (start + thread))⟩] else []) rfl ?_).trans ?_
    · intro thread dispatched
      by_cases within : thread < stop - start
      · rw [if_pos within]
        exact invoke?_within field small (by omega) within
      · rw [if_neg within]
        exact invoke?_behind field (by omega) (Nat.le_of_not_lt within)
    · exact congrArg Option.some (flatMap_threads _ covered)
  · intro scene calls
    rw [Sampler.ofScene_honors scene grid calls start stop low high, indexRange, Grid.batchWrites,
      List.map_map, List.range'_eq_map_range, List.map_map]
    rfl

theorem threePerAxis_dispatched_to_end :
    ∃ grid : Grid Single, threePerAxis.grid = .ok grid ∧ 20 ≤ 27 ∧ 27 ≤ grid.size ∧
      workgroups 7 = 1 ∧
      grid.dispatched? 20 27 ballAndBox.distance =
        some (grid.batchWrites 20 27 ballAndBox.distance) ∧
      (grid.batchWrites 20 27 ballAndBox.distance).map (·.slot) = [0, 1, 2, 3, 4, 5, 6] := by
  have accepted : threePerAxis.grid = .ok ⟨3, Vec3.splat (-1.0), Vec3.splat 1.0⟩ := by rfl
  have whole : 27 ≤ Grid.size ⟨3, Vec3.splat (-1.0 : Single), Vec3.splat 1.0⟩ := by decide
  obtain ⟨dispatched, -⟩ := kernel_samples_batch accepted (by decide : 20 ≤ 27) whole
  exact ⟨_, accepted, by decide, whole, by decide, dispatched ballAndBox.distance, rfl⟩

end RayScene
