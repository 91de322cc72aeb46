import RayScene.Proofs.Volume.Cells

/-!
The order of the values in a volume. Numbering the cells of a grid is a bijection that keeps their
order, layer by layer and row by row, so the values of a whole volume are those of all its cells,
each one once.
-/

namespace RayScene

/-- Cells are ordered by their layers, in a layer by their rows, and in a row along it. -/
def Cell.Before (c d : Cell) : Prop :=
  c.k < d.k ∨ c.k = d.k ∧ (c.j < d.j ∨ c.j = d.j ∧ c.i < d.i)

theorem Cell.not_before_self (c : Cell) : ¬ c.Before c := by
  rintro (layer | ⟨-, row | ⟨-, place⟩⟩)
  · exact UInt32.lt_irrefl _ layer
  · exact UInt32.lt_irrefl _ row
  · exact UInt32.lt_irrefl _ place

namespace Grid

variable {S : Type} {g : Grid S} {c d : Cell}

def word? (limit n : Nat) : Option Nat := if n < limit then some n else none

/-- The number of a cell, if all that is computed on the way to it fits into words. -/
def index? (g : Grid S) (limit : Nat) (c : Cell) : Option Nat := do
  let layers ← word? limit (g.resolution.toNat * c.k.toNat)
  let rows ← word? limit (c.j.toNat + layers)
  let before ← word? limit (g.resolution.toNat * rows)
  word? limit (c.i.toNat + before)

theorem index?_eq {limit : Nat} (inside : g.Contains c) (fits : g.size < limit) :
    g.index? limit c = some (g.index c) := by
  have below := Nat.lt_trans (index_lt_size inside) fits
  have positive : 0 < g.resolution.toNat := Nat.zero_lt_of_lt (UInt32.lt_iff_toNat_lt.mp inside.1)
  have rows : c.j.toNat + g.resolution.toNat * c.k.toNat ≤
      g.resolution.toNat * (c.j.toNat + g.resolution.toNat * c.k.toNat) :=
    Nat.le_mul_of_pos_left _ positive
  have fitting {n : Nat} (less : n ≤ g.index c) : word? limit n = some n :=
    if_pos (Nat.lt_of_le_of_lt less below)
  have index_eq : g.index c = c.i.toNat + g.resolution.toNat *
    (c.j.toNat + g.resolution.toNat * c.k.toNat) := rfl
  simp only [index?, fitting (show g.resolution.toNat * c.k.toNat ≤ g.index c by omega),
    fitting (show c.j.toNat + g.resolution.toNat * c.k.toNat ≤ g.index c by omega),
    fitting (show g.resolution.toNat * (c.j.toNat + g.resolution.toNat * c.k.toNat) ≤ g.index c by
      omega), Option.bind_eq_bind, Option.bind_some]
  exact fitting (Nat.le_refl _)

section
variable (positive : 0 < g.resolution.toNat)
include positive

theorem toNat_ofNat_mod (n : Nat) :
    (UInt32.ofNat (n % g.resolution.toNat)).toNat = n % g.resolution.toNat :=
  UInt32.toNat_ofNat_of_lt' (Nat.lt_trans (Nat.mod_lt n positive) g.resolution.toNat_lt)

theorem contains_cell (n : Nat) : g.Contains (g.cell n) := by
  have below (m : Nat) : UInt32.ofNat (m % g.resolution.toNat) < g.resolution := by
    rw [UInt32.lt_iff_toNat_lt, toNat_ofNat_mod positive]
    exact Nat.mod_lt m positive
  exact ⟨below _, below _, below _⟩

theorem index_cell {n : Nat} (inside : n < g.size) : g.index (g.cell n) = n := by
  have layer : n / (g.resolution.toNat * g.resolution.toNat) < g.resolution.toNat :=
    Nat.div_lt_of_lt_mul inside
  simp only [index, cell, toNat_ofNat_mod positive]
  rw [Nat.mod_eq_of_lt layer, ← Nat.div_div_eq_div_mul, Nat.mod_add_div, Nat.mod_add_div]

end

theorem digit_lt_iff {r i i' : Nat} (q q' : Nat) (digit : i < r) (digit' : i' < r) :
    i + r * q < i' + r * q' ↔ q < q' ∨ q = q' ∧ i < i' := by
  rcases Nat.lt_trichotomy q q' with less | rfl | more
  · have next : r * (q + 1) ≤ r * q' := Nat.mul_le_mul_left r less
    rw [Nat.mul_succ] at next
    omega
  · omega
  · have next : r * (q' + 1) ≤ r * q := Nat.mul_le_mul_left r more
    rw [Nat.mul_succ] at next
    omega

theorem index_lt_iff (first : g.Contains c) (second : g.Contains d) :
    g.index c < g.index d ↔ c.Before d := by
  have i := UInt32.lt_iff_toNat_lt.mp first.1
  have i' := UInt32.lt_iff_toNat_lt.mp second.1
  have j := UInt32.lt_iff_toNat_lt.mp first.2.1
  have j' := UInt32.lt_iff_toNat_lt.mp second.2.1
  have rows := digit_lt_iff c.k.toNat d.k.toNat j j'
  have rows' := digit_lt_iff d.k.toNat c.k.toNat j' j
  rw [index, index, digit_lt_iff _ _ i i', Cell.Before]
  simp only [UInt32.lt_iff_toNat_lt, ← UInt32.toNat_inj]
  omega

end Grid

namespace Volume

variable {S : Type} {volume : Volume S}

def entries (volume : Volume S) : List (Cell × S) :=
  volume.values.mapIdx fun index value => (volume.grid.cell index, value)

theorem cells_eq (positive : 0 < volume.resolution.toNat) : volume.cells = .ok volume.entries := by
  have nonempty : volume.grid.isEmpty = false := by
    rw [Grid.isEmpty, decide_eq_false_iff_not]
    intro none
    have zero : volume.resolution = 0 := none
    rw [zero] at positive
    exact Nat.lt_irrefl 0 positive
  rw [cells, nonempty]
  exact if_neg fun both => Bool.false_ne_true both.1

theorem entries_cells (volume : Volume S) :
    volume.entries.map Prod.fst = (List.range volume.values.length).map volume.grid.cell :=
  List.ext_getElem (by simp [entries]) fun n first second => by simp [entries]

theorem entries_values (volume : Volume S) : volume.entries.map Prod.snd = volume.values :=
  List.ext_getElem (by simp [entries]) fun n first second => by simp [entries]

theorem value_cell (positive : 0 < volume.resolution.toNat)
    (fits : volume.grid.size < indexBound) {n : Nat} (inside : n < volume.grid.size) :
    volume.value (volume.grid.cell n) = .ok volume.values[n]? := by
  have numbered := Grid.index_cell (g := volume.grid) positive inside
  rw [value, numbered]
  exact (if_pos (Grid.contains_cell positive n)).trans (if_pos (Nat.lt_trans inside fits))

end Volume

/-- The numbers of the cells are those below the size of the grid. None of them overflows, they lead
back to the cells, and they are in the order of the cells. A volume with a value for each of them
lists every cell once, in this order, with the value that it has there. -/
theorem cells_are_numbered {S : Type} {g : Grid S} (positive : 0 < g.resolution.toNat)
    (fits : g.size < Volume.indexBound) :
    (∀ c, g.Contains c → g.index? Volume.indexBound c = some (g.index c) ∧
      g.index c < g.size ∧ g.cell (g.index c) = c) ∧
    (∀ n, n < g.size → g.Contains (g.cell n) ∧ g.index (g.cell n) = n) ∧
    (∀ c d, g.Contains c → g.Contains d → (g.index c < g.index d ↔ c.Before d)) ∧
    ∀ volume : Volume S, volume.grid = g → volume.values.length = g.size →
      ∃ entries, volume.cells = .ok entries ∧ entries.map Prod.snd = volume.values ∧
        (entries.map Prod.fst).Pairwise Cell.Before ∧ (entries.map Prod.fst).Nodup ∧
        (∀ c, c ∈ entries.map Prod.fst ↔ g.Contains c) ∧
        ∀ entry ∈ entries, volume.value entry.1 = .ok (some entry.2) := by
  refine ⟨fun c inside => ⟨Grid.index?_eq inside fits, Grid.index_lt_size inside,
    Grid.cell_index inside⟩, fun n inside => ⟨Grid.contains_cell positive n,
    Grid.index_cell positive inside⟩, fun c d => Grid.index_lt_iff, ?_⟩
  rintro volume rfl full
  have cells : volume.entries.map Prod.fst =
      (List.range volume.grid.size).map volume.grid.cell := by
    rw [Volume.entries_cells, full]
  have ordered : (volume.entries.map Prod.fst).Pairwise Cell.Before := by
    rw [cells, List.pairwise_map]
    refine List.pairwise_lt_range.imp_of_mem fun {m n} first second less => ?_
    rw [← Grid.index_lt_iff (Grid.contains_cell positive m) (Grid.contains_cell positive n),
      Grid.index_cell positive (List.mem_range.mp first),
      Grid.index_cell positive (List.mem_range.mp second)]
    exact less
  refine ⟨volume.entries, Volume.cells_eq positive, volume.entries_values, ordered, ?_, ?_, ?_⟩
  · refine ordered.imp fun {c d} before same => ?_
    rw [same] at before
    exact d.not_before_self before
  · intro c
    rw [cells, List.mem_map]
    constructor
    · rintro ⟨n, -, rfl⟩
      exact Grid.contains_cell positive n
    · intro inside
      exact ⟨_, List.mem_range.mpr (Grid.index_lt_size inside), Grid.cell_index inside⟩
  · intro entry member
    obtain ⟨n, stored, rfl⟩ := List.mem_mapIdx.mp member
    rw [Volume.value_cell positive fits (full ▸ stored), List.getElem?_eq_getElem stored]

def countedCells : Volume Nat := ⟨3, Vec3.splat 0, Vec3.splat 1, List.range 27⟩

theorem countedCells_listed :
    0 < countedCells.grid.resolution.toNat ∧ countedCells.grid.size < Volume.indexBound ∧
      countedCells.grid.index? Volume.indexBound ⟨2, 1, 1⟩ = some 14 ∧
      countedCells.grid.cell 14 = ⟨2, 1, 1⟩ ∧
      ∃ entries, countedCells.cells = .ok entries ∧
        ∃ value, (⟨2, 1, 1⟩, value) ∈ entries ∧
          countedCells.value ⟨2, 1, 1⟩ = .ok (some value) := by
  have positive : 0 < countedCells.grid.resolution.toNat := by decide
  have fits : countedCells.grid.size < Volume.indexBound := by decide
  have inside : countedCells.grid.Contains ⟨2, 1, 1⟩ := by decide
  obtain ⟨numbers, -, -, volumes⟩ := cells_are_numbered positive fits
  obtain ⟨number, -, back⟩ := numbers _ inside
  obtain ⟨entries, listed, -, -, -, all, values⟩ := volumes countedCells rfl (by decide)
  obtain ⟨⟨_, value⟩, member, rfl⟩ := List.mem_map.mp ((all _).mpr inside)
  exact ⟨positive, fits, number, back, entries, listed, value, member, values _ member⟩

end RayScene
