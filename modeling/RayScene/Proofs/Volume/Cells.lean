import RayScene.Volume.Export

namespace RayScene.Grid

variable {S : Type}

/-- The cell lies inside the grid along each axis. -/
def Contains (g : Grid S) (c : Cell) : Prop :=
  c.i < g.resolution ∧ c.j < g.resolution ∧ c.k < g.resolution

instance (g : Grid S) (c : Cell) : Decidable (g.Contains c) :=
  inferInstanceAs (Decidable (_ ∧ _ ∧ _))

def numbered (r i j k : Nat) : Nat := i + r * (j + r * k)

theorem numbered_lt {r i j k : Nat} (hi : i < r) (hj : j < r) (hk : k < r) :
    numbered r i j k < r * r * r := by
  have row : j + r * k < r * r := by
    have rows : r * (k + 1) ≤ r * r := Nat.mul_le_mul_left r hk
    rw [Nat.mul_succ] at rows
    omega
  have all : r * (j + r * k + 1) ≤ r * (r * r) := Nat.mul_le_mul_left r row
  rw [Nat.mul_succ, ← Nat.mul_assoc] at all
  rw [numbered]
  omega

theorem numbered_mod {r i : Nat} (j k : Nat) (hi : i < r) : numbered r i j k % r = i := by
  rw [numbered, Nat.add_mul_mod_self_left, Nat.mod_eq_of_lt hi]

theorem numbered_div {r i : Nat} (j k : Nat) (hi : i < r) :
    numbered r i j k / r = j + r * k := by
  have positive : 0 < r := by omega
  rw [numbered, Nat.add_mul_div_left _ _ positive, Nat.div_eq_of_lt hi, Nat.zero_add]

theorem index_lt_size {g : Grid S} {c : Cell} (inside : g.Contains c) : g.index c < g.size :=
  numbered_lt inside.1 inside.2.1 inside.2.2

theorem cell_index {g : Grid S} {c : Cell} (inside : g.Contains c) : g.cell (g.index c) = c := by
  have hi := UInt32.lt_iff_toNat_lt.mp inside.1
  have hj := UInt32.lt_iff_toNat_lt.mp inside.2.1
  have hk := UInt32.lt_iff_toNat_lt.mp inside.2.2
  have i : g.index c % g.resolution.toNat = c.i.toNat := numbered_mod _ _ hi
  have rows : g.index c / g.resolution.toNat = c.j.toNat + g.resolution.toNat * c.k.toNat :=
    numbered_div _ _ hi
  have j : g.index c / g.resolution.toNat % g.resolution.toNat = c.j.toNat := by
    rw [rows, Nat.add_mul_mod_self_left, Nat.mod_eq_of_lt hj]
  have k : g.index c / (g.resolution.toNat * g.resolution.toNat) % g.resolution.toNat =
      c.k.toNat := by
    have positive : 0 < g.resolution.toNat := Nat.zero_lt_of_lt hj
    rw [← Nat.div_div_eq_div_mul, rows, Nat.add_mul_div_left _ _ positive, Nat.div_eq_of_lt hj,
      Nat.zero_add, Nat.mod_eq_of_lt hk]
  simp only [cell, i, j, k, UInt32.ofNat_toNat]

/-- The values of a field at the cells of a grid, in the order of their numbers. -/
def volume (g : Grid S) (field : Nat → S) : Volume S where
  resolution := g.resolution
  minCoords := g.low
  maxCoords := g.high
  values := (List.range g.size).map field

end RayScene.Grid

namespace RayScene.ExportSettings

variable {S : Type} [Scalar S] {settings : ExportSettings S} {grid : Grid S}

theorem grid_ok (accepted : settings.grid = .ok grid) :
    1 ≤ settings.resolution.toInt ∧ settings.resolution.toInt ≤ 512 ∧
      grid = ⟨UInt32.ofNat settings.resolution.toInt.toNat, settings.minCoords,
        settings.maxCoords⟩ := by
  unfold ExportSettings.grid at accepted
  split at accepted
  next => cases accepted
  next bounded =>
    split at accepted
    next => cases accepted
    next =>
      rw [not_or, Int64.not_lt, Int64.not_lt, Int64.le_iff_toInt_le, Int64.le_iff_toInt_le]
        at bounded
      exact ⟨bounded.1, bounded.2, (Except.ok.inj accepted).symm⟩

theorem grid_resolution_eq (accepted : settings.grid = .ok grid) :
    grid.resolution.toNat = settings.resolution.toInt.toNat := by
  obtain ⟨low, high, rfl⟩ := grid_ok accepted
  apply UInt32.toNat_ofNat_of_lt'
  show _ < 4294967296
  omega

theorem grid_resolution (accepted : settings.grid = .ok grid) :
    1 ≤ grid.resolution.toNat ∧ grid.resolution.toNat ≤ 512 := by
  have whole := grid_resolution_eq accepted
  obtain ⟨low, high, -⟩ := grid_ok accepted
  omega

theorem grid_size (accepted : settings.grid = .ok grid) :
    1 ≤ grid.size ∧ grid.size ≤ 512 * 512 * 512 := by
  obtain ⟨low, high⟩ := grid_resolution accepted
  have square := Nat.mul_le_mul high high
  exact ⟨Nat.mul_pos (Nat.mul_pos low low) low, Nat.mul_le_mul square high⟩

end RayScene.ExportSettings
