import RayScene.Proofs.Number.Arithmetic
import RayScene.Proofs.Volume.Storage

/-!
Where the cells of a grid are sampled. A grid is accepted for its corners, while its cells get their
size from the difference of the corners, rounded. The centers are finite if, and only if, this
difference is. Then they lie in the box, unless it is so thin that a cell is hardly longer than the
least number above zero.
-/

namespace RayScene

open Single

structure Axis where
  cells : Nat
  low : Single
  high : Single
  some : 0 < cells
  few : cells ≤ 512
  low_finite : Scalar.isFinite low = true
  high_finite : Scalar.isFinite high = true
  ordered : low < high

namespace Axis

variable (axis : Axis)

def extent : Single := axis.high - axis.low

def edge : Single := axis.extent / Scalar.ofNat axis.cells

def offset (count : UInt32) : Single := Grid.middle count * axis.edge

def center (count : UInt32) : Single := axis.low + axis.offset count

noncomputable def length : ℝ := axis.high.value - axis.low.value

noncomputable def exactOffset (count : UInt32) : ℝ :=
  (Grid.middle count : Single).value * axis.edge.value

theorem cells_bounds : (1 : ℝ) ≤ axis.cells ∧ (axis.cells : ℝ) ≤ 512 := by
  constructor
  · exact_mod_cast axis.some
  · exact_mod_cast axis.few

theorem units_le : axis.cells ^ 2 * (smallest : ℝ) ≤ 2 ^ 18 * smallest := by
  have square : (axis.cells : ℝ) ^ 2 ≤ 512 ^ 2 := by
    gcongr
    exact axis.cells_bounds.2
  exact mul_le_mul_of_nonneg_right (square.trans (by norm_num)) smallest_pos.le

theorem length_pos : 0 < axis.length :=
  sub_pos.mpr ((lt_iff_value axis.low_finite axis.high_finite).mp axis.ordered)

theorem extent_roundsTo : RoundsTo axis.extent axis.length :=
  sub_roundsTo axis.high_finite axis.low_finite

theorem extent_exact (thin : axis.length < 2 ^ 23 * smallest) :
    Scalar.isFinite axis.extent = true ∧ axis.extent.value = axis.length := by
  obtain ⟨low, low_eq⟩ := value_units axis.low
  obtain ⟨high, high_eq⟩ := value_units axis.high
  have units : axis.length = ((high - low : ℤ) : ℝ) * smallest := by
    rw [length, low_eq, high_eq]
    push_cast
    ring
  have positive := axis.length_pos
  rw [units] at positive thin
  have above : 0 < high - low := by
    exact_mod_cast (mul_pos_iff_of_pos_right smallest_pos).mp positive
  have below : high - low < 2 ^ 23 := by
    exact_mod_cast lt_of_mul_lt_mul_right thin smallest_pos.le
  obtain ⟨n, count⟩ := Int.eq_ofNat_of_zero_le above.le
  have rounds := axis.extent_roundsTo
  rw [units, count, smallest_eq, Int.cast_natCast] at rounds
  rw [units, count, smallest_eq, Int.cast_natCast]
  exact rounds.exact (by omega) le_rfl (by decide)

section

variable (finite : Scalar.isFinite axis.extent = true) {count : UInt32}
include finite

theorem extent_nonneg : 0 ≤ axis.extent.value := by
  rw [← zero_value]
  apply axis.extent_roundsTo.above finite
  rw [zero_value]
  exact axis.length_pos.le

theorem extent_near : (1 - epsilon / 2) * axis.length - smallest / 2 ≤ axis.extent.value ∧
    axis.extent.value ≤ (1 + epsilon / 2) * axis.length + smallest / 2 := by
  have half := abs_le.mp (axis.extent_roundsTo.half finite)
  rw [abs_of_pos axis.length_pos] at half
  constructor <;> linarith [half.1, half.2]

theorem edge_bounds : Scalar.isFinite axis.edge = true ∧ 0 ≤ axis.edge.value ∧
    axis.edge.value ≤ (1 + epsilon / 2) * (axis.extent.value / axis.cells) + smallest / 2 := by
  obtain ⟨whole, cells⟩ := ofNat_value (n := axis.cells) (by have := axis.few; omega)
  have some := axis.cells_bounds.1
  have nonneg := axis.extent_nonneg finite
  have rounds : RoundsTo axis.edge (axis.extent.value / axis.cells) := by
    rw [← cells]
    apply div_roundsTo finite whole
    rw [cells]
    positivity
  have quotient : 0 ≤ axis.extent.value / axis.cells := by positivity
  obtain ⟨bounded, least, -⟩ := rounds.between Scalar.zero axis.extent
    (by rwa [zero_value]) (div_le_self nonneg some)
  rw [zero_value] at least
  exact ⟨bounded, least, rounds.le_of_nonneg bounded quotient⟩

end

theorem middle_value (count : UInt32) (few : count.toNat < 512) :
    Scalar.isFinite (Grid.middle count : Single) = true ∧
      (Grid.middle count : Single).value = count.toNat + 1 / 2 := by
  obtain ⟨whole, place⟩ := ofNat_value (n := count.toNat) (by omega)
  have half : (0.5 : Single).value = ((1 / 2 : ℚ) : ℝ) := value_eq (by decide +kernel)
  have rounds := add_roundsTo whole (show Scalar.isFinite (0.5 : Single) = true by decide +kernel)
  have halves : (Scalar.ofNat count.toNat : Single).value + (0.5 : Single).value =
      ((2 * count.toNat + 1 : ℕ) : ℝ) * 2 ^ (-1 : ℤ) := by
    rw [place, half]
    push_cast
    ring
  rw [halves] at rounds
  obtain ⟨finite, value⟩ := rounds.exact (by omega) (by decide) (by decide)
  refine ⟨finite, value.trans ?_⟩
  push_cast
  ring

section

variable (finite : Scalar.isFinite axis.extent = true) {count : UInt32}
  (inside : count.toNat < axis.cells)
include finite inside

theorem offset_roundsTo : RoundsTo (axis.offset count) (axis.exactOffset count) :=
  mul_roundsTo (middle_value count (inside.trans_le axis.few)).1 (axis.edge_bounds finite).1

theorem exactOffset_nonneg : 0 ≤ axis.exactOffset count := by
  have edge := (axis.edge_bounds finite).2.1
  rw [exactOffset, (middle_value count (inside.trans_le axis.few)).2]
  exact mul_nonneg (by positivity) edge

theorem exactOffset_le : ∃ edge : ℝ, 0 ≤ edge ∧ axis.extent.value = axis.cells * edge ∧
    axis.exactOffset count ≤
      (axis.cells - 1 / 2) * ((1 + epsilon / 2) * edge + smallest / 2) := by
  obtain ⟨some, -⟩ := axis.cells_bounds
  obtain ⟨-, start, most⟩ := axis.edge_bounds finite
  have nonneg := axis.extent_nonneg finite
  have last : (Grid.middle count : Single).value ≤ axis.cells - 1 / 2 := by
    have next : ((count.toNat + 1 : ℕ) : ℝ) ≤ axis.cells := by exact_mod_cast inside
    push_cast at next
    rw [(middle_value count (inside.trans_le axis.few)).2]
    linarith
  exact ⟨axis.extent.value / axis.cells, by positivity, by field_simp,
    mul_le_mul last most start (by linarith)⟩

theorem exactOffset_le_extent (thick : axis.cells ^ 2 * smallest ≤ axis.extent.value) :
    axis.exactOffset count ≤ axis.extent.value := by
  obtain ⟨some, few⟩ := axis.cells_bounds
  obtain ⟨edge, nonneg, cut, exact⟩ := axis.exactOffset_le finite inside
  have positive : (0 : ℝ) < axis.cells := by linarith
  have units : axis.cells * smallest ≤ edge := by
    rw [cut, sq, mul_assoc] at thick
    exact le_of_mul_le_mul_left thick positive
  have square : (axis.cells : ℝ) * axis.cells ≤ 512 * 512 := by gcongr
  rw [epsilon_eq] at exact
  rw [cut]
  -- half an edge pays for the units that all edges are rounded up by, and for their small parts
  have room : 0 ≤ (edge - axis.cells * smallest) * (1 / 2 - axis.cells * (1 / 8388608 / 2)) :=
    mul_nonneg (by linarith) (by linarith)
  have rest : 0 ≤ (512 * 512 - axis.cells * axis.cells : ℝ) * smallest :=
    mul_nonneg (by linarith) smallest_pos.le
  linarith [smallest_pos]

theorem offset_le_of_wide (wide : 2 ^ 23 * smallest ≤ axis.length)
    (bounded : Scalar.isFinite (axis.offset count) = true) :
    (axis.offset count).value ≤ axis.length := by
  obtain ⟨some, few⟩ := axis.cells_bounds
  obtain ⟨edge, nonneg, cut, exact⟩ := axis.exactOffset_le finite inside
  have extent := (axis.extent_near finite).2
  have rounded := (axis.offset_roundsTo finite inside).le_of_nonneg bounded
    (axis.exactOffset_nonneg finite inside)
  rw [epsilon_eq] at exact extent rounded
  have share : axis.extent.value ≤ 512 * edge := by
    rw [cut]
    exact mul_le_mul_of_nonneg_right few nonneg
  have units : (axis.cells : ℝ) * smallest ≤ 512 * smallest :=
    mul_le_mul_of_nonneg_right few smallest_pos.le
  have below : axis.exactOffset count ≤
      (1 + 1 / 8388608 / 2) * (1 - 1 / 1024) * axis.extent.value + 256 * smallest := by
    linarith [smallest_pos]
  calc (axis.offset count).value
      ≤ (1 + 1 / 8388608 / 2) * axis.exactOffset count + smallest / 2 := rounded
    _ ≤ (1 + 1 / 8388608 / 2) * ((1 + 1 / 8388608 / 2) * (1 - 1 / 1024) *
          ((1 + 1 / 8388608 / 2) * axis.length + smallest / 2) + 256 * smallest) +
            smallest / 2 := by linarith
    _ ≤ axis.length := by linarith [smallest_pos]

theorem offset_bounds (thick : axis.cells ^ 2 * smallest ≤ axis.length) :
    Scalar.isFinite (axis.offset count) = true ∧ 0 ≤ (axis.offset count).value ∧
      (axis.offset count).value ≤ axis.length := by
  have rounds := axis.offset_roundsTo finite inside
  have least : (Scalar.zero : Single).value ≤ axis.exactOffset count := by
    rw [zero_value]
    exact axis.exactOffset_nonneg finite inside
  rcases lt_or_ge axis.length (2 ^ 23 * smallest) with thin | wide
  · have same := (axis.extent_exact thin).2
    have most := axis.exactOffset_le_extent finite inside (by rwa [same])
    obtain ⟨bounded, above, below⟩ := rounds.between _ _ least most
    rw [zero_value] at above
    rw [same] at below
    exact ⟨bounded, above, below⟩
  · have large : axis.cells ^ 2 * smallest ≤ axis.extent.value := by
      have extent := (axis.extent_near finite).1
      rw [epsilon_eq] at extent
      linarith [axis.units_le, smallest_pos]
    have most := axis.exactOffset_le_extent finite inside large
    obtain ⟨bounded, above, -⟩ := rounds.between _ _ least most
    rw [zero_value] at above
    exact ⟨bounded, above, axis.offset_le_of_wide finite inside wide bounded⟩

theorem center_inside (thick : axis.cells ^ 2 * smallest ≤ axis.length) :
    Scalar.isFinite (axis.center count) = true ∧ axis.low ≤ axis.center count ∧
      axis.center count ≤ axis.high := by
  obtain ⟨bounded, above, below⟩ := axis.offset_bounds finite inside thick
  rw [length] at below
  have rounds : RoundsTo (axis.center count) (axis.low.value + (axis.offset count).value) :=
    add_roundsTo axis.low_finite bounded
  obtain ⟨stored, least, most⟩ := rounds.between axis.low axis.high (by linarith)
    (by linarith)
  exact ⟨stored, (le_iff_value axis.low_finite stored).mpr least,
    (le_iff_value stored axis.high_finite).mpr most⟩

end

/-- A short box is near the origin, for elsewhere there are only whole numbers. -/
theorem low_of_short (short : axis.length < 1) : |axis.low.value| < 2 ^ 23 + 1 := by
  have positive := axis.length_pos
  rw [length] at short positive
  rcases whole_or_small axis.low with ⟨z, low⟩ | small
  · rcases whole_or_small axis.high with ⟨z', high⟩ | small
    · rw [low, high] at short positive
      have before : z' < z + 1 := by
        have : (z' : ℝ) < z + 1 := by linarith
        exact_mod_cast this
      have after : z < z' := by
        have : (z : ℝ) < z' := by linarith
        exact_mod_cast this
      omega
    · obtain ⟨least, most⟩ := abs_lt.mp small
      exact abs_lt.mpr ⟨by linarith, by linarith⟩
  · linarith

section

variable {count : UInt32} (inside : count.toNat < axis.cells)
include inside

theorem center_finite_of_short (short : axis.length < 1) :
    Scalar.isFinite (axis.center count) = true := by
  have finite : Scalar.isFinite axis.extent = true := by
    apply axis.extent_roundsTo.approximates.bounded
    rw [abs_of_pos axis.length_pos]
    linarith
  have nonneg := axis.exactOffset_nonneg finite inside
  have small : axis.exactOffset count ≤ 3 := by
    obtain ⟨some, few⟩ := axis.cells_bounds
    obtain ⟨edge, edge_nonneg, cut, exact⟩ := axis.exactOffset_le finite inside
    have extent := (axis.extent_near finite).2
    have units : axis.cells * (smallest : ℝ) ≤ 512 * 1e-44 :=
      mul_le_mul few smallest_le smallest_pos.le (by norm_num)
    rw [epsilon_eq] at exact extent
    linarith [smallest_le]
  have offset : (axis.offset count).Within (1.001 * 3 + 1) := by
    apply (axis.offset_roundsTo finite inside).approximates.within _ (by norm_num)
    rwa [abs_of_nonneg nonneg]
  have rounds : RoundsTo (axis.center count) (axis.low.value + (axis.offset count).value) :=
    add_roundsTo axis.low_finite offset.1
  apply rounds.approximates.bounded
  have low := axis.low_of_short short
  have size := abs_add_le axis.low.value (axis.offset count).value
  linarith [offset.2]

theorem center_finite_iff :
    Scalar.isFinite (axis.center count) = true ↔ Scalar.isFinite axis.extent = true := by
  constructor
  · intro finite
    exact div_finite (mul_finite (add_finite finite).2).2
  · intro finite
    rcases lt_or_ge axis.length 1 with short | long
    · exact axis.center_finite_of_short inside short
    · have thick : axis.cells ^ 2 * smallest ≤ axis.length := by
        linarith [axis.units_le, smallest_le]
      exact (axis.center_inside finite inside thick).1

end

end Axis

/-- How a center lies along a side that is cut into cells: it is finite if, and only if, the extent
is, and then it is between the ends, unless the side is shorter than `cells ^ 2` times the least
number above zero. -/
structure Centered (cells : Nat) (low high center : Single) : Prop where
  finite : Scalar.isFinite center = true ↔ Scalar.isFinite (high - low) = true
  inside : Scalar.isFinite (high - low) = true → cells ^ 2 * smallest ≤ high.value - low.value →
    low ≤ center ∧ center ≤ high

theorem Axis.centered (axis : Axis) {count : UInt32} (inside : count.toNat < axis.cells) :
    Centered axis.cells axis.low axis.high (axis.center count) :=
  ⟨axis.center_finite_iff inside, fun finite thick => (axis.center_inside finite inside thick).2⟩

namespace ExportSettings

variable {settings : ExportSettings Single} {grid : Grid Single}

theorem grid_spans (accepted : settings.grid = .ok grid) :
    spansBox settings.minCoords settings.maxCoords = true := by
  unfold ExportSettings.grid at accepted
  split at accepted
  next => cases accepted
  next =>
    split at accepted
    next => cases accepted
    next spans =>
      rw [Bool.not_eq_true', Bool.not_eq_false] at spans
      exact spans

/-- Each side of the box of accepted settings is one that can be cut. -/
theorem centered_of_accepted (accepted : settings.grid = .ok grid) {low high : Single}
    (low_finite : Scalar.isFinite low = true) (high_finite : Scalar.isFinite high = true)
    (ordered : low < high) {count : UInt32} (inside : count < grid.resolution) :
    Centered grid.resolution.toNat low high
      (low + Grid.middle count * ((high - low) / Scalar.ofNat grid.resolution.toNat)) := by
  obtain ⟨some, few⟩ := grid_resolution accepted
  exact Axis.centered ⟨grid.resolution.toNat, low, high, some, few, low_finite, high_finite,
    ordered⟩ (UInt32.lt_iff_toNat_lt.mp inside)

end ExportSettings

/-- The centers of all cells of an accepted grid are finite along every axis along which the extent
of the box is, and there they lie in the box, if it is not thin. -/
theorem centers_lie_in_box {settings : ExportSettings Single} {grid : Grid Single}
    (accepted : settings.grid = .ok grid) (index : Nat) :
    Centered grid.resolution.toNat settings.minCoords.x settings.maxCoords.x
        (grid.centerOf index).x ∧
      Centered grid.resolution.toNat settings.minCoords.y settings.maxCoords.y
        (grid.centerOf index).y ∧
      Centered grid.resolution.toNat settings.minCoords.z settings.maxCoords.z
        (grid.centerOf index).z := by
  have spans := ExportSettings.grid_spans accepted
  have positive := (ExportSettings.grid_resolution accepted).1
  obtain ⟨x, y, z⟩ := Grid.contains_cell positive index
  simp only [ExportSettings.spansBox, Vec3.toList, List.all_cons, List.all_nil, Bool.and_true,
    Bool.and_eq_true, decide_eq_true_eq] at spans
  obtain ⟨⟨⟨⟨⟨lx, ly, lz⟩, hx, hy, hz⟩, x_less⟩, y_less⟩, z_less⟩ := spans
  obtain ⟨-, -, rfl⟩ := ExportSettings.grid_ok accepted
  exact ⟨ExportSettings.centered_of_accepted accepted lx hx x_less x,
    ExportSettings.centered_of_accepted accepted ly hy y_less y,
    ExportSettings.centered_of_accepted accepted lz hz z_less z⟩

def tallBox : ExportSettings Single := ⟨2, ⟨-1.0, -1.0, -1.0⟩, ⟨1.0, 3.0, 1.0⟩⟩

theorem tallBox_centered :
    ∃ grid, tallBox.grid = .ok grid ∧ Scalar.isFinite (grid.centerOf 6).y = true ∧
      tallBox.minCoords.y ≤ (grid.centerOf 6).y ∧ (grid.centerOf 6).y ≤ tallBox.maxCoords.y := by
  have accepted : tallBox.grid = .ok ⟨2, tallBox.minCoords, tallBox.maxCoords⟩ := by
    decide +kernel
  obtain ⟨-, y, -⟩ := centers_lie_in_box accepted 6
  have extent : Scalar.isFinite (tallBox.maxCoords.y - tallBox.minCoords.y) = true := by
    decide +kernel
  have low : tallBox.minCoords.y.value = ((-1 : ℚ) : ℝ) := value_eq (by decide +kernel)
  have high : tallBox.maxCoords.y.value = ((3 : ℚ) : ℝ) := value_eq (by decide +kernel)
  have thick : ((2 : Nat) : ℝ) ^ 2 * smallest ≤
      tallBox.maxCoords.y.value - tallBox.minCoords.y.value := by
    rw [low, high, smallest_eq]
    norm_num
  exact ⟨_, accepted, y.finite.mpr extent, y.inside extent thick⟩

/-- A box with finite corners that are too far from each other for their difference to be finite. -/
def wideBox : ExportSettings Single := ⟨1, ⟨-3e38, 0.0, 0.0⟩, ⟨3e38, 1.0, 1.0⟩⟩

/-- A box that is six units of the least number long and is cut into four cells along each axis. -/
def thinBox : ExportSettings Single := ⟨4, ⟨0.0, 0.0, 0.0⟩, ⟨8e-45, 1.0, 1.0⟩⟩

theorem centers_leave_boxes :
    (∃ grid, wideBox.grid = .ok grid ∧ 0 < grid.size ∧
      Scalar.isFinite (grid.centerOf 0).x = false) ∧
    ∃ grid, thinBox.grid = .ok grid ∧ 3 < grid.size ∧
      Scalar.isFinite (grid.centerOf 3).x = true ∧ ¬ (grid.centerOf 3).x ≤ thinBox.maxCoords.x := by
  have wide : wideBox.grid = .ok ⟨1, wideBox.minCoords, wideBox.maxCoords⟩ := by decide +kernel
  have thin : thinBox.grid = .ok ⟨4, thinBox.minCoords, thinBox.maxCoords⟩ := by decide +kernel
  exact ⟨⟨_, wide, by decide, by decide +kernel⟩,
    ⟨_, thin, by decide, by decide +kernel, by decide +kernel⟩⟩

end RayScene
