import RayScene.Number.Shortest
import RayScene.Proofs.Number.Rounding

namespace RayScene.Shortest

open BinaryFormat

def Interval.Holds (i : Interval) (x : ℚ) : Prop :=
  if i.closed then (i.low : ℚ) ≤ x ∧ x ≤ i.high else (i.low : ℚ) < x ∧ x < i.high

theorem Interval.Holds.within {i : Interval} {x : ℚ} (holds : i.Holds x) :
    (i.low : ℚ) ≤ x ∧ x ≤ i.high := by
  unfold Interval.Holds at holds
  split at holds
  · exact holds
  · exact ⟨holds.1.le, holds.2.le⟩

section Grids

variable {i : Interval} {exponent place : Int} {n : Nat}

theorem grid_ratio (exponent place : Int) :
    0 < (grid exponent place).step ∧ 0 < (grid exponent place).unit ∧
      ((grid exponent place).step : ℚ) / (grid exponent place).unit =
        (10 : ℚ) ^ place / (2 : ℚ) ^ exponent := by
  have signed (base : ℚ) (nonzero : base ≠ 0) (k : Int) :
      base ^ k = base ^ k.toNat / base ^ (-k).toNat := by
    rw [← zpow_natCast, ← zpow_natCast, ← zpow_sub₀ nonzero]
    congr 1
    omega
  refine ⟨by simp [grid], by simp [grid], ?_⟩
  rw [signed 10 (by norm_num) place, signed 2 (by norm_num) exponent]
  simp only [grid, Nat.pow_eq, Nat.cast_mul, Nat.cast_pow, Nat.cast_ofNat]
  field_simp

theorem contains_iff :
    i.contains (grid exponent place) n = true ↔
      i.Holds (n * (10 : ℚ) ^ place / (2 : ℚ) ^ exponent) := by
  obtain ⟨_, unit, ratio⟩ := grid_ratio exponent place
  have unit : (0 : ℚ) < (grid exponent place).unit := Nat.cast_pos.mpr unit
  rw [mul_div_assoc, ← ratio, ← mul_div_assoc]
  unfold Interval.contains Interval.Holds
  split
  · rw [le_div_iff₀ unit, div_le_iff₀ unit, decide_eq_true_iff]
    norm_cast
  · rw [lt_div_iff₀ unit, div_lt_iff₀ unit, decide_eq_true_iff]
    norm_cast

theorem candidate?_contains {g : Grid} (found : candidate? i g = some n) :
    i.contains g n = true := by
  unfold candidate? at found
  grind

/-- On a grid no coarser than the unit the point below the value is one of the interval. -/
theorem candidate?_fine {g : Grid} (fine : g.step ≤ g.unit) (positive : 0 < g.step)
    (low : i.low < i.value) (high : i.value < i.high) : (candidate? i g).isSome := by
  have below : i.contains g (i.value * g.unit / g.step) = true := by
    have most := Nat.div_mul_le_self (i.value * g.unit) g.step
    have least := Nat.lt_div_mul_add (a := i.value * g.unit) positive
    have lower : i.low * g.unit + g.unit ≤ i.value * g.unit := by
      rw [← Nat.succ_mul]; exact Nat.mul_le_mul_right _ low
    have upper : i.value * g.unit + g.unit ≤ i.high * g.unit := by
      rw [← Nat.succ_mul]; exact Nat.mul_le_mul_right _ high
    unfold Interval.contains
    grind
  unfold candidate?
  grind

theorem search_holds {count : Nat} {found : Int}
    (searched : search i exponent count place = some (n, found)) :
    i.Holds (n * (10 : ℚ) ^ found / (2 : ℚ) ^ exponent) ∧ place < found + count ∧
      found ≤ place := by
  induction count generalizing place with
  | zero => cases searched
  | succ count ih =>
    unfold search at searched
    split at searched
    next candidate =>
      cases searched
      exact ⟨contains_iff.mp (candidate?_contains candidate), by omega, le_rfl⟩
    next =>
      obtain ⟨holds, least, most⟩ := ih searched
      exact ⟨holds, by omega, by omega⟩

theorem search_isSome {count : Nat} {fine : Int}
    (candidate : (candidate? i (grid exponent fine)).isSome) (least : place < fine + count)
    (most : fine ≤ place) : (search i exponent count place).isSome := by
  induction count generalizing place with
  | zero => omega
  | succ count ih =>
    unfold search
    split
    · rfl
    next absent =>
      by_cases same : fine = place
      · rw [← same, ← Option.not_isSome_iff_eq_none] at absent
        exact absurd candidate absent
      · exact ih (by omega) (by omega)

end Grids

theorem stripZeros_value (count digits : Nat) (place : Int) :
    ((stripZeros count digits place).1 : ℚ) * 10 ^ (stripZeros count digits place).2 =
        digits * 10 ^ place ∧
      place ≤ (stripZeros count digits place).2 := by
  induction count generalizing digits place with
  | zero => exact ⟨rfl, le_rfl⟩
  | succ count ih =>
    unfold stripZeros
    split
    next trailing =>
      obtain ⟨value, most⟩ := ih (digits / 10) (place + 1)
      refine ⟨?_, by omega⟩
      rw [value, zpow_add_one₀ (by norm_num)]
      have whole : ((10 * (digits / 10) : Nat) : ℚ) = digits := by congr 1; omega
      rw [← whole]
      push_cast
      ring
    next => exact ⟨rfl, le_rfl⟩

theorem zpow_digitCount {n : Nat} (positive : 0 < n) :
    (10 : ℚ) ^ (Decimal.digitCount n - 1 : Int) ≤ n ∧
      (n : ℚ) < 10 ^ (Decimal.digitCount n : Int) := by
  have some : 0 < Decimal.digitCount n := Nat.length_toDigits_pos
  obtain ⟨k, count⟩ : ∃ k, Decimal.digitCount n = k + 1 := ⟨_, (Nat.succ_pred some.ne').symm⟩
  have upper : n < 10 ^ (k + 1) :=
    (Nat.length_toDigits_le_iff (by omega) (by omega)).mp count.le
  have lower : 10 ^ k ≤ n := by
    by_contra short
    have exponent : 0 < k := by
      by_contra zero
      simp only [show k = 0 by omega] at short
      omega
    have : Decimal.digitCount n ≤ k :=
      (Nat.length_toDigits_le_iff (by omega) exponent).mpr (not_le.mp short)
    omega
  rw [count, Nat.cast_succ, add_sub_cancel_right, ← Nat.cast_succ, zpow_natCast, zpow_natCast]
  exact ⟨by exact_mod_cast lower, by exact_mod_cast upper⟩

theorem leadingPlace_spec {n d : Nat} (nonzero : 0 < n) (positive : 0 < d) :
    (10 : ℚ) ^ (leadingPlace n d - 1) < n / d ∧ (n : ℚ) / d < 10 ^ (leadingPlace n d + 1) := by
  have denominator : (0 : ℚ) < d := Nat.cast_pos.mpr positive
  obtain ⟨lower, upper⟩ := zpow_digitCount nonzero
  obtain ⟨lower', upper'⟩ := zpow_digitCount positive
  rw [lt_div_iff₀ denominator, div_lt_iff₀ denominator]
  constructor
  · calc (10 : ℚ) ^ (leadingPlace n d - 1) * d
        < 10 ^ (leadingPlace n d - 1) * 10 ^ (Decimal.digitCount d : Int) := by gcongr
      _ = 10 ^ (Decimal.digitCount n - 1 : Int) := by
        rw [← zpow_add₀ (by norm_num)]; congr 1; unfold leadingPlace; ring
      _ ≤ n := lower
  · calc (n : ℚ) < 10 ^ (Decimal.digitCount n : Int) := upper
      _ = 10 ^ (leadingPlace n d + 1) * 10 ^ (Decimal.digitCount d - 1 : Int) := by
        rw [← zpow_add₀ (by norm_num)]; congr 1; unfold leadingPlace; ring
      _ ≤ 10 ^ (leadingPlace n d + 1) * d := by gcongr

section Digits

variable {f : BinaryFormat} {m : Nat} {e : Int}

theorem interval_around (nonzero : 0 < m) :
    (interval f m e).low < (interval f m e).value ∧
      (interval f m e).value < (interval f m e).high := by
  simp only [interval]
  split <;> omega

theorem Interval.Holds.nonzero (nonzero : 0 < m) {n : Nat} {place unit : Int}
    (holds : (interval f m e).Holds (n * (10 : ℚ) ^ place / 2 ^ unit)) : 0 < n := by
  have low : 0 < (interval f m e).low := by
    simp only [interval]
    split <;> omega
  have above : (0 : ℚ) < (interval f m e).low := Nat.cast_pos.mpr low
  have lower := holds.within.1
  by_contra zero
  rw [show n = 0 by omega, Nat.cast_zero, zero_mul, zero_div] at lower
  exact absurd lower above.not_ge

/-- Nineteen places below the first, the grid is no coarser than a quarter of the last place. -/
theorem grid_fine (canonical : f.Canonical m e) (wide : 0 < f.significandBits)
    (bounded : f.significandBits ≤ 53) {place : Int}
    (most : (10 : ℚ) ^ (place + 17) < m * 2 ^ e) :
    (grid (e - 2) place).step ≤ (grid (e - 2) place).unit := by
  obtain ⟨_, unit, ratio⟩ := grid_ratio (e - 2) place
  have unit : (0 : ℚ) < (grid (e - 2) place).unit := Nat.cast_pos.mpr unit
  have power : (0 : ℚ) < 2 ^ e := zpow_pos two_pos e
  have significand : (m : ℚ) < 2 ^ 53 :=
    calc (m : ℚ) < (2 * f.hiddenBit : Nat) := by exact_mod_cast canonical.bound
      _ = 2 ^ (f.significandBits : Int) := two_mul_hiddenBit wide
      _ ≤ 2 ^ (53 : Int) := by gcongr <;> [norm_num; exact_mod_cast bounded]
      _ = 2 ^ 53 := by norm_num
  -- seventeen places are worth more than a significand of 53 bits and the two bits of a quarter
  have spacing : (10 : ℚ) ^ place ≤ 2 ^ (e - 2) := by
    rw [zpow_add₀ (by norm_num)] at most
    rw [zpow_sub₀ two_ne_zero]
    norm_num at most ⊢
    nlinarith
  have : ((grid (e - 2) place).step : ℚ) ≤ (grid (e - 2) place).unit := by
    rw [← div_le_one unit, ratio, div_le_one (zpow_pos two_pos _)]
    exact spacing
  exact_mod_cast this

/-- The digits lie in the interval; their place is one that the search can reach. -/
theorem digits_holds (canonical : f.Canonical m e) (wide : 0 < f.significandBits)
    (bounded : f.significandBits ≤ 53) (nonzero : 0 < m) :
    (interval f m e).Holds ((digits f m e).1 * 10 ^ (digits f m e).2 / 2 ^ (e - 2)) ∧
      (2 : ℚ) ^ e < 10 ^ ((digits f m e).2 + 19) := by
  obtain ⟨positive, ratio⟩ := rescale_ratio m one_pos (-e)
  unfold digits
  rw [if_neg nonzero.ne']
  generalize rescale m 1 (-e) = scaled at positive ratio
  obtain ⟨numerator, denominator⟩ := scaled
  simp only [Nat.cast_one, div_one, zpow_neg, div_inv_eq_mul] at positive ratio ⊢
  have value : (0 : ℚ) < m * 2 ^ e := mul_pos (Nat.cast_pos.mpr nonzero) (zpow_pos two_pos e)
  have numerator_pos : 0 < numerator := by
    rw [← ratio] at value
    have := (div_pos_iff_of_pos_right (Nat.cast_pos.mpr positive)).mp value
    exact_mod_cast this
  obtain ⟨lower, upper⟩ := leadingPlace_spec numerator_pos positive
  rw [ratio] at lower upper
  generalize leadingPlace numerator denominator = leading at lower upper
  obtain ⟨below, above⟩ := interval_around (f := f) (e := e) nonzero
  have fine : (grid (e - 2) (leading - 18)).step ≤ (grid (e - 2) (leading - 18)).unit :=
    grid_fine canonical wide bounded
      (by rw [show leading - 18 + 17 = leading - 1 by ring]; exact lower)
  have candidate := candidate?_fine fine (grid_ratio _ _).1 below above
  have found : (search (interval f m e) (e - 2) 20 (leading + 1)).isSome :=
    search_isSome candidate (by omega) (by omega)
  obtain ⟨⟨n, place⟩, searched⟩ := Option.isSome_iff_exists.mp found
  obtain ⟨holds, reached, -⟩ := search_holds searched
  obtain ⟨same, higher⟩ := stripZeros_value 20 n place
  simp only [searched, same]
  refine ⟨holds, ?_⟩
  have significand : (1 : ℚ) ≤ m := by exact_mod_cast nonzero
  calc (2 : ℚ) ^ e ≤ m * 2 ^ e := le_mul_of_one_le_left (zpow_pos two_pos e).le significand
    _ < 10 ^ (leading + 1) := upper
    _ ≤ 10 ^ ((stripZeros 20 n place).2 + 19) :=
      zpow_le_zpow_right₀ (by norm_num) (by omega)

end Digits

end RayScene.Shortest
