import Mathlib.Tactic.Ring
import RayScene.Proofs.Outcome
import RayScene.Proofs.Volume.Storage
import RayScene.Volume.File

/-!
Looking cells up in a volume that may come from any file. Nothing in a file ties the resolution to
the number of values, so the number of a cell may be too large for a word, and values may belong to
no cell. In all other cases a cell has the value that is stored under its number.
-/

namespace RayScene

namespace Grid

variable {S : Type} {g : Grid S} {c : Cell} {limit : Nat}

theorem word?_eq_none_of_le {m n : Nat} (none : word? limit m = none) (le : m ≤ n) :
    word? limit n = .none := by
  unfold word? at none ⊢
  grind

theorem word?_bind_eq (m : Nat) {f : Nat → Option Nat} {n : Nat} (next : f m = word? limit n)
    (le : m ≤ n) : (word? limit m).bind f = word? limit n := by
  by_cases fits : m < limit
  · rw [word?, if_pos fits, Option.bind_some, next]
  · have none : word? limit m = none := if_neg fits
    rw [none, word?_eq_none_of_le none le, Option.bind_none]

/-- Some step on the way to the number of a cell overflows only if the number itself does. -/
theorem index?_eq_word? (inside : g.Contains c) :
    g.index? limit c = word? limit (g.index c) := by
  have positive : 0 < g.resolution.toNat := Nat.zero_lt_of_lt (UInt32.lt_iff_toNat_lt.mp inside.1)
  have rows : c.j.toNat + g.resolution.toNat * c.k.toNat ≤
      g.resolution.toNat * (c.j.toNat + g.resolution.toNat * c.k.toNat) :=
    Nat.le_mul_of_pos_left _ positive
  have index_eq : g.index c = c.i.toNat + g.resolution.toNat *
    (c.j.toNat + g.resolution.toNat * c.k.toNat) := rfl
  refine word?_bind_eq _ (word?_bind_eq _ (word?_bind_eq _ rfl ?_) ?_) ?_
  · omega
  · omega
  · omega

theorem index?_eq_none_iff (inside : g.Contains c) :
    g.index? limit c = none ↔ limit ≤ g.index c := by
  rw [index?_eq_word? inside, word?]
  split
  next fits => simp [fits]
  next large => simpa using large

/-- The greatest resolution whose cells all have numbers below `2 ^ 64`. -/
def wordResolution : Nat := 2642245

theorem size_le_indexBound_iff :
    g.size ≤ Volume.indexBound ↔ g.resolution.toNat ≤ wordResolution := by
  have bound : Volume.indexBound = 2 ^ 64 := rfl
  rw [size, bound, wordResolution]
  rcases Nat.lt_or_ge 2642245 g.resolution.toNat with more | few
  · have cube := Nat.mul_le_mul (Nat.mul_le_mul more more) more
    omega
  · have cube := Nat.mul_le_mul (Nat.mul_le_mul few few) few
    omega

def lastCell (g : Grid S) : Cell := ⟨g.resolution - 1, g.resolution - 1, g.resolution - 1⟩

theorem lastCell_index (some : g.resolution ≠ 0) :
    g.Contains g.lastCell ∧ g.index g.lastCell + 1 = g.size := by
  have positive : 0 < g.resolution.toNat := by
    rw [Nat.pos_iff_ne_zero]
    exact fun zero => some (UInt32.toNat_inj.mp zero)
  have one : (g.resolution - 1).toNat = g.resolution.toNat - 1 :=
    UInt32.toNat_sub_of_le _ _ (UInt32.le_iff_toNat_le.mpr positive)
  have less : g.resolution - 1 < g.resolution := by
    rw [UInt32.lt_iff_toNat_lt, one]
    omega
  refine ⟨⟨less, less, less⟩, ?_⟩
  simp only [index, lastCell, one, size]
  obtain ⟨r, same⟩ := Nat.exists_eq_add_of_lt positive
  rw [same, Nat.zero_add, Nat.add_sub_cancel]
  ring

end Grid

namespace Volume

variable {S : Type} {volume : Volume S}

theorem value_eq (volume : Volume S) (c : Cell) :
    volume.value c =
      if volume.grid.Contains c then
        match volume.grid.index? indexBound c with
        | some n => .ok volume.values[n]?
        | none => .error .overflow
      else .ok none := by
  have whole : volume.value c =
      if volume.grid.Contains c then
        if volume.grid.index c < indexBound then .ok volume.values[volume.grid.index c]?
        else .error .overflow
      else .ok none := rfl
  rw [whole]
  split
  next inside =>
    rw [Grid.index?_eq_word? inside, Grid.word?]
    by_cases fits : volume.grid.index c < indexBound
    · simp only [if_pos fits]
    · simp only [if_neg fits]
  next => rfl

theorem value_eq_error_iff {c : Cell} {fault : IndexFault} :
    volume.value c = .error fault ↔
      fault = .overflow ∧ volume.grid.Contains c ∧ volume.grid.index? indexBound c = none := by
  rw [value_eq]
  split
  next inside =>
    cases volume.grid.index? indexBound c with
    | some n => simp
    | none => simp [inside, eq_comm]
  next outside => simp [outside]

theorem value_eq_some_iff {c : Cell} {x : S} :
    volume.value c = .ok (some x) ↔
      volume.grid.Contains c ∧ volume.grid.index c < indexBound ∧
        volume.values[volume.grid.index c]? = some x := by
  rw [value_eq]
  split
  next inside =>
    rw [Grid.index?_eq_word? inside, Grid.word?]
    by_cases fits : volume.grid.index c < indexBound
    · simp [fits, inside]
    · simp [fits]
  next outside => simp [outside]

theorem value_eq_none_iff {c : Cell} :
    volume.value c = .ok none ↔
      ¬ volume.grid.Contains c ∨
        volume.grid.index c < indexBound ∧ volume.values.length ≤ volume.grid.index c := by
  rw [value_eq]
  split
  next inside =>
    rw [Grid.index?_eq_word? inside, Grid.word?]
    by_cases fits : volume.grid.index c < indexBound
    · simp [fits, inside]
    · simp [fits, inside]
  next outside => simp [outside]

theorem values_iff_wordResolution :
    (∀ c, ∃ found, volume.value c = .ok found) ↔
      volume.resolution.toNat ≤ Grid.wordResolution := by
  show _ ↔ volume.grid.resolution.toNat ≤ _
  rw [← Grid.size_le_indexBound_iff]
  constructor
  · intro all
    by_cases zero : volume.grid.resolution = 0
    · rw [Grid.size, zero]
      exact Nat.zero_le _
    · obtain ⟨inside, last⟩ := Grid.lastCell_index zero
      obtain ⟨found, ok⟩ := all volume.grid.lastCell
      have fits : ¬ indexBound ≤ volume.grid.index volume.grid.lastCell := by
        intro large
        have failed : volume.value volume.grid.lastCell = .error .overflow :=
          value_eq_error_iff.mpr ⟨rfl, inside, (Grid.index?_eq_none_iff inside).mpr large⟩
        rw [ok] at failed
        cases failed
      omega
  · intro few c
    rcases value : volume.value c with fault | found
    · obtain ⟨-, inside, none⟩ := value_eq_error_iff.mp value
      have large := (Grid.index?_eq_none_iff inside).mp none
      have below := Grid.index_lt_size inside
      omega
    · exact ⟨found, rfl⟩

theorem cells_eq_error_iff {fault : IndexFault} :
    volume.cells = .error fault ↔
      fault = .noCells ∧ volume.resolution = 0 ∧ volume.values ≠ [] := by
  by_cases zero : volume.resolution = 0
  · by_cases empty : volume.values = []
    · simp [cells, empty]
    · have lost : volume.cells = .error .noCells :=
        if_pos (by simp [Grid.isEmpty, grid, zero, empty])
      simp [lost, zero, empty, eq_comm]
  · have found : volume.cells = .ok volume.entries := if_neg (by simp [Grid.isEmpty, grid, zero])
    simp [found, zero]

theorem cells_ok {entries : List (Cell × S)} (listed : volume.cells = .ok entries) :
    entries = volume.entries := by
  unfold cells at listed
  split at listed
  next => cases listed
  next => exact (Except.ok.inj listed).symm

end Volume

/--
Looking up a cell fails only if a step on the way to its number overflows, which happens in some
cell of every grid finer than `wordResolution` and in no other grid. Otherwise a cell has a value
exactly if it lies inside the grid and its number is that of a stored value. The values can all be
listed with their cells, unless there are values and no cells.
-/
theorem lookups_of_any_volume {S : Type} (volume : Volume S) :
    (∀ c fault, volume.value c = .error fault ↔ fault = .overflow ∧ volume.grid.Contains c ∧
      volume.grid.index? Volume.indexBound c = none) ∧
    (∀ c, volume.grid.Contains c → (volume.grid.index? Volume.indexBound c = none ↔
      Volume.indexBound ≤ volume.grid.index c)) ∧
    (∀ c x, volume.value c = .ok (some x) ↔ volume.grid.Contains c ∧
      volume.grid.index c < Volume.indexBound ∧
        volume.values[volume.grid.index c]? = some x) ∧
    (∀ c, volume.value c = .ok none ↔ ¬ volume.grid.Contains c ∨
      volume.grid.index c < Volume.indexBound ∧
        volume.values.length ≤ volume.grid.index c) ∧
    ((∀ c, ∃ found, volume.value c = .ok found) ↔
      volume.resolution.toNat ≤ Grid.wordResolution) ∧
    (∀ fault, volume.cells = .error fault ↔
      fault = .noCells ∧ volume.resolution = 0 ∧ volume.values ≠ []) ∧
    ∀ entries, volume.cells = .ok entries → entries.map Prod.snd = volume.values ∧
      entries.map Prod.fst = (List.range volume.values.length).map volume.grid.cell := by
  refine ⟨fun c fault => Volume.value_eq_error_iff, fun c => Grid.index?_eq_none_iff,
    fun c x => Volume.value_eq_some_iff, fun c => Volume.value_eq_none_iff,
    Volume.values_iff_wordResolution, fun fault => Volume.cells_eq_error_iff, ?_⟩
  intro entries listed
  obtain rfl := Volume.cells_ok listed
  exact ⟨volume.entries_values, volume.entries_cells⟩

/-- A volume with a value, but without cells. -/
def lostValue : String :=
  "\x7b\"resolution\":0,\"minCoords\":[0,0,0],\"maxCoords\":[1,1,1],\"values\":[1.5]\x7d"

def vastVolume : String :=
  "\x7b\"resolution\":2642246,\"minCoords\":[0,0,0],\"maxCoords\":[1,1,1],\"values\":[1.5]\x7d"

/-- Files of volumes in which a value has no cell, and in which a cell inside the grid has no
number. -/
theorem files_with_failing_lookups :
    (∃ volume, Volume.read lostValue = .ok volume ∧ volume.cells = .error .noCells) ∧
      ∃ volume, Volume.read vastVolume = .ok volume ∧
        volume.grid.Contains ⟨2642245, 2642245, 2642245⟩ ∧
        volume.value ⟨2642245, 2642245, 2642245⟩ = .error .overflow := by
  have lost : (Volume.read lostValue).toOption.map (fun v => (v.resolution, v.values.length)) =
      some (0, 1) := by decide +kernel
  have vast : (Volume.read vastVolume).toOption.map (·.resolution) = some 2642246 := by
    decide +kernel
  obtain ⟨volume, accepted, shape⟩ := Option.map_eq_some_iff.mp lost
  obtain ⟨volume', accepted', fine⟩ := Option.map_eq_some_iff.mp vast
  obtain ⟨none, one⟩ := Prod.mk.inj shape
  refine ⟨⟨volume, Outcome.toOption_eq_some.mp accepted, Volume.cells_eq_error_iff.mpr
    ⟨rfl, none, ?_⟩⟩, volume', Outcome.toOption_eq_some.mp accepted', ?_⟩
  · exact List.ne_nil_of_length_pos (one ▸ Nat.one_pos)
  · have same : volume'.grid.resolution = 2642246 := fine
    have inside : volume'.grid.Contains ⟨2642245, 2642245, 2642245⟩ := by
      rw [Grid.Contains, same]
      decide
    have large : Volume.indexBound ≤ volume'.grid.index ⟨2642245, 2642245, 2642245⟩ := by
      rw [Grid.index, same]
      decide
    exact ⟨inside, Volume.value_eq_error_iff.mpr
      ⟨rfl, inside, (Grid.index?_eq_none_iff inside).mpr large⟩⟩

end RayScene
