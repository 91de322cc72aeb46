import Mathlib
import RayScene.Number.Binary

namespace RayScene.BinaryFormat

variable {f : BinaryFormat}

theorem rescale_ratio (n : Nat) {d : Nat} (positive : 0 < d) (e : Int) :
    0 < (rescale n d e).2 ∧
      ((rescale n d e).1 : ℚ) / (rescale n d e).2 = (n : ℚ) / d / (2 : ℚ) ^ e := by
  have denominator : (d : ℚ) ≠ 0 := Nat.cast_ne_zero.mpr positive.ne'
  unfold rescale
  split
  next whole =>
    obtain ⟨k, rfl⟩ := Int.eq_ofNat_of_zero_le whole
    refine ⟨Nat.mul_pos positive (Nat.two_pow_pos k), ?_⟩
    simp only [Int.toNat_natCast, Nat.pow_eq, Nat.cast_mul, Nat.cast_pow, Nat.cast_ofNat,
      zpow_natCast]
    rw [div_div]
  next negative =>
    obtain ⟨k, rfl⟩ : ∃ k : Nat, e = -(k : Int) := ⟨(-e).toNat, by omega⟩
    refine ⟨positive, ?_⟩
    simp only [neg_neg, Int.toNat_natCast, Nat.pow_eq, Nat.cast_mul, Nat.cast_pow, Nat.cast_ofNat,
      zpow_neg, zpow_natCast]
    field_simp

/-- A quotient no further than a half from a whole number is rounded to it; halves go to even. -/
theorem divRound_eq {n d m : Nat} (positive : 0 < d) (low : (m : ℚ) - 1 / 2 ≤ (n : ℚ) / d)
    (high : (n : ℚ) / d ≤ m + 1 / 2)
    (odd : m % 2 = 1 → (m : ℚ) - 1 / 2 < (n : ℚ) / d ∧ (n : ℚ) / d < m + 1 / 2) :
    divRound n d = m := by
  have denominator : (0 : ℚ) < d := Nat.cast_pos.mpr positive
  have whole := Nat.div_add_mod n d
  have rest := Nat.mod_lt n positive
  have below : 2 * (m * d) ≤ 2 * n + d := by
    rw [le_div_iff₀ denominator] at low
    have : (2 : ℚ) * (m * d) ≤ 2 * n + d := by linarith
    exact_mod_cast this
  have above : 2 * n ≤ 2 * (m * d) + d := by
    rw [div_le_iff₀ denominator] at high
    have : (2 : ℚ) * n ≤ 2 * (m * d) + d := by linarith
    exact_mod_cast this
  have strict (uneven : m % 2 = 1) : 2 * (m * d) < 2 * n + d ∧ 2 * n < 2 * (m * d) + d := by
    obtain ⟨low, high⟩ := odd uneven
    rw [lt_div_iff₀ denominator] at low
    rw [div_lt_iff₀ denominator] at high
    have first : (2 : ℚ) * (m * d) < 2 * n + d := by linarith
    have second : (2 : ℚ) * n < 2 * (m * d) + d := by linarith
    exact ⟨by exact_mod_cast first, by exact_mod_cast second⟩
  -- cut off, the quotient is the whole number or the one below
  have quotient : n / d = m ∨ n / d + 1 = m := by
    have most := Nat.mul_div_le n d
    have upper : d * (n / d) < d * (m + 1) := by linarith
    have lower : d * m < d * (n / d + 2) := by linarith
    have := Nat.lt_of_mul_lt_mul_left upper
    have := Nat.lt_of_mul_lt_mul_left lower
    omega
  simp only [divRound]
  rcases quotient with same | next
  · rw [same, mul_comm] at whole
    rw [same, if_neg]
    rintro (more | ⟨tie, uneven⟩)
    · omega
    · have := strict uneven
      omega
  · have product : m * d = d * (n / d) + d := by rw [← next]; ring
    rw [if_pos, next]
    by_cases even : m % 2 = 0
    · omega
    · have := strict (by omega)
      omega

theorem two_mul_hiddenBit (wide : 0 < f.significandBits) :
    ((2 * f.hiddenBit : Nat) : ℚ) = (2 : ℚ) ^ (f.significandBits : Int) := by
  obtain ⟨s, same⟩ : ∃ s, f.significandBits = s + 1 := ⟨f.significandBits - 1, by omega⟩
  simp only [hiddenBit, same, Nat.add_sub_cancel, Nat.pow_eq, zpow_natCast]
  push_cast
  ring

theorem zpow_log2_le {n : Nat} (positive : 0 < n) :
    (2 : ℚ) ^ (n.log2 : Int) ≤ n ∧ (n : ℚ) < (2 : ℚ) ^ (n.log2 + 1 : Int) := by
  rw [← Nat.cast_succ, zpow_natCast, zpow_natCast]
  exact ⟨by exact_mod_cast Nat.log2_self_le positive.ne', by exact_mod_cast Nat.lt_log2_self⟩

theorem exponentFor_eq (wide : 0 < f.significandBits) {n d : Nat} (nonzero : 0 < n)
    (positive : 0 < d) :
    f.exponentFor n d =
      max f.leastExponent (Int.log 2 ((n : ℚ) / d) + 1 - f.significandBits) := by
  have two : (1 : ℚ) < 2 := one_lt_two
  have numerator : (0 : ℚ) < n := Nat.cast_pos.mpr nonzero
  have denominator : (0 : ℚ) < d := Nat.cast_pos.mpr positive
  have quotient : (0 : ℚ) < n / d := div_pos numerator denominator
  obtain ⟨lower, upper⟩ := zpow_log2_le nonzero
  obtain ⟨lower', upper'⟩ := zpow_log2_le positive
  set guess : Int := (n.log2 : Int) - d.log2 - f.significandBits with guess_eq
  have least : guess + f.significandBits - 1 ≤ Int.log 2 ((n : ℚ) / d) := by
    rw [← Int.zpow_le_iff_le_log one_lt_two quotient, Nat.cast_ofNat, le_div_iff₀ denominator]
    calc (2 : ℚ) ^ (guess + f.significandBits - 1) * d
        ≤ (2 : ℚ) ^ (guess + f.significandBits - 1) * (2 : ℚ) ^ (d.log2 + 1 : Int) := by gcongr
      _ = (2 : ℚ) ^ (n.log2 : Int) := by
        rw [← zpow_add₀ two_ne_zero]; congr 1; omega
      _ ≤ n := lower
  have most : Int.log 2 ((n : ℚ) / d) < guess + f.significandBits + 1 := by
    rw [← Int.lt_zpow_iff_log_lt one_lt_two quotient, Nat.cast_ofNat, div_lt_iff₀ denominator]
    calc (n : ℚ) < (2 : ℚ) ^ (n.log2 + 1 : Int) := upper
      _ = (2 : ℚ) ^ (guess + f.significandBits + 1) * (2 : ℚ) ^ (d.log2 : Int) := by
        rw [← zpow_add₀ two_ne_zero]; congr 1; omega
      _ ≤ (2 : ℚ) ^ (guess + f.significandBits + 1) * d := by gcongr
  obtain ⟨scale, scaled⟩ := rescale_ratio n positive guess
  have full : (rescale n d guess).1 / (rescale n d guess).2 < 2 * f.hiddenBit ↔
      Int.log 2 ((n : ℚ) / d) < guess + f.significandBits := by
    rw [← Int.lt_zpow_iff_log_lt one_lt_two quotient, Nat.cast_ofNat, zpow_add₀ two_ne_zero,
      ← two_mul_hiddenBit wide, ← div_lt_iff₀' (zpow_pos two_pos guess), ← scaled,
      div_lt_iff₀ (Nat.cast_pos.mpr scale), Nat.div_lt_iff_lt_mul scale]
    exact_mod_cast Iff.rfl
  simp only [exponentFor, if_neg nonzero.ne', ← guess_eq, full]
  congr 1
  split <;> omega

theorem roundRatio_at {n d m : Nat} (positive : 0 < d)
    (low : (m : ℚ) - 1 / 2 ≤ n / d / (2 : ℚ) ^ f.exponentFor n d)
    (high : n / d / (2 : ℚ) ^ f.exponentFor n d ≤ m + 1 / 2)
    (odd : m % 2 = 1 → (m : ℚ) - 1 / 2 < n / d / (2 : ℚ) ^ f.exponentFor n d ∧
      n / d / (2 : ℚ) ^ f.exponentFor n d < m + 1 / 2) :
    f.roundRatio n d =
      min f.infinityBits ((f.exponentFor n d - f.leastExponent).toNat * f.hiddenBit + m) := by
  obtain ⟨scale, scaled⟩ := rescale_ratio n positive (f.exponentFor n d)
  simp only [← scaled] at low high odd
  simp only [roundRatio, divRound_eq scale low high odd]

structure Canonical (f : BinaryFormat) (significand : Nat) (exponent : Int) : Prop where
  least : f.leastExponent ≤ exponent
  bound : significand < 2 * f.hiddenBit
  full : exponent = f.leastExponent ∨ f.hiddenBit ≤ significand

theorem hiddenBit_mul_zpow (wide : 0 < f.significandBits) (e : Int) :
    (f.hiddenBit : ℚ) * 2 ^ e = 2 ^ (e - 1 + f.significandBits) := by
  rw [zpow_add₀ two_ne_zero, ← two_mul_hiddenBit wide, zpow_sub_one₀ two_ne_zero]
  push_cast
  ring

theorem roundRatio_below {n d : Nat} {e : Int} (wide : 0 < f.significandBits)
    (numerator : 0 < n) (positive : 0 < d) (inner : f.leastExponent < e)
    (low : (f.hiddenBit : ℚ) - 1 / 4 ≤ n / d / 2 ^ e) (high : (n : ℚ) / d / 2 ^ e < f.hiddenBit) :
    f.roundRatio n d =
      min f.infinityBits ((e - f.leastExponent).toNat * f.hiddenBit + f.hiddenBit) := by
  have power : (0 : ℚ) < (2 : ℚ) ^ e := zpow_pos two_pos e
  have quotient : (0 : ℚ) < n / d :=
    div_pos (Nat.cast_pos.mpr numerator) (Nat.cast_pos.mpr positive)
  have hidden := hiddenBit_mul_zpow wide e
  have short : Int.log 2 ((n : ℚ) / d) < e - 1 + f.significandBits := by
    rwa [← Int.lt_zpow_iff_log_lt one_lt_two quotient, Nat.cast_ofNat, ← hidden,
      ← div_lt_iff₀ power]
  have above : e - 2 + f.significandBits ≤ Int.log 2 ((n : ℚ) / d) := by
    have one : (1 : ℚ) ≤ f.hiddenBit := by exact_mod_cast Nat.two_pow_pos _
    rw [← Int.zpow_le_iff_le_log one_lt_two quotient, Nat.cast_ofNat,
      ← div_le_div_iff_of_pos_right power]
    have : (2 : ℚ) ^ (e - 2 + f.significandBits) / 2 ^ e = f.hiddenBit / 2 := by
      rw [div_eq_div_iff power.ne' two_ne_zero, hidden,
        show e - 1 + (f.significandBits : Int) = e - 2 + f.significandBits + 1 by ring,
        zpow_add_one₀ two_ne_zero]
    linarith
  have lower : f.exponentFor n d = e - 1 := by
    rw [exponentFor_eq wide numerator positive]
    omega
  have twice : (n : ℚ) / d / 2 ^ (e - 1) = 2 * (n / d / 2 ^ e) := by
    rw [zpow_sub_one₀ two_ne_zero]
    field_simp
  rw [roundRatio_at (m := 2 * f.hiddenBit) positive, lower]
  · congr 1
    obtain ⟨k, same⟩ : ∃ k : Nat, e = f.leastExponent + k + 1 :=
      ⟨(e - 1 - f.leastExponent).toNat, by omega⟩
    rw [show (e - 1 - f.leastExponent).toNat = k by omega,
      show (e - f.leastExponent).toNat = k + 1 by omega]
    ring
  · rw [lower, twice]
    push_cast
    linarith
  · rw [lower, twice]
    push_cast
    linarith
  · intro odd
    omega

/--
A quotient that lies no further from a number than halfway to its neighbours is rounded to that
number. Below a power of two the lower neighbour is only half as far away.
-/
theorem Canonical.roundRatio_eq {m : Nat} {e : Int} (canonical : f.Canonical m e)
    (wide : 0 < f.significandBits) (nonzero : 0 < m) {n d : Nat} (positive : 0 < d)
    (low : (m : ℚ) - 1 / 2 ≤ n / d / (2 : ℚ) ^ e) (high : n / d / (2 : ℚ) ^ e ≤ m + 1 / 2)
    (odd : m % 2 = 1 → (m : ℚ) - 1 / 2 < n / d / (2 : ℚ) ^ e ∧ n / d / (2 : ℚ) ^ e < m + 1 / 2)
    (narrow : m = f.hiddenBit → f.leastExponent < e → (m : ℚ) - 1 / 4 ≤ n / d / (2 : ℚ) ^ e) :
    f.roundRatio n d =
      min f.infinityBits ((e - f.leastExponent).toNat * f.hiddenBit + m) := by
  have power : (0 : ℚ) < (2 : ℚ) ^ e := zpow_pos two_pos e
  have denominator : (0 : ℚ) < d := Nat.cast_pos.mpr positive
  have significand : (1 : ℚ) ≤ m := by exact_mod_cast nonzero
  have quotient : (0 : ℚ) < n / d := by
    have := (le_div_iff₀ power).mp low
    have : (0 : ℚ) < (m - 1 / 2) * 2 ^ e := mul_pos (by linarith) power
    linarith
  have numerator : 0 < n := by
    have := (div_pos_iff_of_pos_right denominator).mp quotient
    exact_mod_cast this
  have exponent := exponentFor_eq wide numerator positive
  -- the quotient lies below the power of two that bounds the significands at `e`
  have below : Int.log 2 ((n : ℚ) / d) < e + f.significandBits := by
    rw [← Int.lt_zpow_iff_log_lt one_lt_two quotient, Nat.cast_ofNat, zpow_add₀ two_ne_zero,
      ← two_mul_hiddenBit wide, ← div_lt_iff₀' power]
    have : (m : ℚ) + 1 ≤ (2 * f.hiddenBit : Nat) := by exact_mod_cast canonical.bound
    linarith
  by_cases same : f.exponentFor n d = e
  · rw [← same] at low high odd ⊢
    exact roundRatio_at positive low high odd
  · -- the quotient falls below the power of two, where the exponent is one less
    have inner : f.leastExponent < e := by have := canonical.least; omega
    have full : f.hiddenBit ≤ m := by have := canonical.full; omega
    have short : (n : ℚ) / d / 2 ^ e < f.hiddenBit := by
      rw [div_lt_iff₀ power, hiddenBit_mul_zpow wide]
      have : Int.log 2 ((n : ℚ) / d) < e - 1 + f.significandBits := by omega
      rwa [← Int.lt_zpow_iff_log_lt one_lt_two quotient, Nat.cast_ofNat] at this
    obtain rfl : m = f.hiddenBit := by
      have : (m : ℚ) < f.hiddenBit + 1 := by linarith
      have : m < f.hiddenBit + 1 := by exact_mod_cast this
      omega
    exact roundRatio_below wide numerator positive inner (narrow rfl inner) short

end RayScene.BinaryFormat
