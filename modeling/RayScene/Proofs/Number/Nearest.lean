import RayScene.Proofs.Number.Order
import RayScene.Proofs.Number.Whole

namespace RayScene.Single

open Float.Model (Format UnpackedFloat)
open Float.Model.UnpackedFloat (Accuracy ExtendedMantissa)

theorem log2_of_full {m : Nat} (low : 2 ^ 23 ≤ m) (high : m < 2 ^ 24) : m.log2 = 23 :=
  (Nat.log2_eq_iff (by omega)).mpr ⟨low, high⟩

theorem targetExponent_normal {place : Int} (normal : -125 ≤ place) :
    Format.binary32.targetExponent place = place - 24 := by
  show max (place - 24) (-149) = place - 24
  omega

def Fits (m : Nat) : Accuracy → ℚ → Prop
  | .exact, t => t = m
  | .inexact .lt, t => m < t ∧ t < m + 1 / 2
  | .inexact .eq, t => t = m + 1 / 2
  | .inexact .gt, t => m + 1 / 2 < t ∧ t < m + 1

variable {m : Nat} {accuracy : Accuracy} {t : ℚ}

theorem Fits.bounds (fits : Fits m accuracy t) : (m : ℚ) ≤ t ∧ t < m + 1 := by
  rcases accuracy with _ | (_ | _ | _) <;> simp only [Fits] at fits <;> constructor <;> linarith

theorem Fits.rounded (fits : Fits m accuracy t) :
    ((accuracy.roundToNearestEven m : Nat) : ℚ) - 1 / 2 ≤ t ∧
      t ≤ (accuracy.roundToNearestEven m : Nat) + 1 / 2 := by
  rcases accuracy with _ | (_ | _ | _) <;>
    simp only [Fits, Accuracy.roundToNearestEven, Nat.cast_add, Nat.cast_one] at fits ⊢
  case inexact.eq =>
    rcases Nat.mod_two_eq_zero_or_one m with even | odd
    · rw [even, Nat.cast_zero]
      constructor <;> linarith
    · rw [odd, Nat.cast_one]
      constructor <;> linarith
  all_goals constructor <;> linarith

theorem Fits.extended (fits : Fits m accuracy t) :
    Fits (ExtendedMantissa.ofMantissaAndAccuracy m accuracy).mantissa
      (ExtendedMantissa.ofMantissaAndAccuracy m accuracy).accuracy t := by
  rcases accuracy with _ | (_ | _ | _) <;> exact fits

theorem Fits.shiftRightOne {em : ExtendedMantissa} (fits : Fits em.mantissa em.accuracy t) :
    Fits em.shiftRightOne.mantissa em.shiftRightOne.accuracy (t / 2) := by
  obtain ⟨m, round, sticky⟩ := em
  -- the bit that is dropped becomes the round bit, and the two bits behind it one
  obtain ⟨h, rfl | rfl⟩ : ∃ h, m = 2 * h ∨ m = 2 * h + 1 := ⟨m / 2, by omega⟩
  · cases round <;> cases sticky <;>
      simp [ExtendedMantissa.shiftRightOne, ExtendedMantissa.accuracy, Fits] at fits ⊢ <;>
      first | linarith | (constructor <;> linarith)
  · have half : (2 * h + 1) / 2 = h := by omega
    cases round <;> cases sticky <;>
      simp [ExtendedMantissa.shiftRightOne, ExtendedMantissa.accuracy, Fits, half] at fits ⊢ <;>
      first | linarith | (constructor <;> linarith)

theorem Fits.shiftRight {em : ExtendedMantissa} (fits : Fits em.mantissa em.accuracy t)
    (places : Nat) : Fits (em >>> places).mantissa (em >>> places).accuracy (t / 2 ^ places) := by
  induction places with
  | zero =>
      rw [pow_zero, div_one]
      exact fits
  | succ places ih =>
      rw [pow_succ, ← div_div]
      exact ih.shiftRightOne

/-- A significand with bits to spare loses them. -/
theorem shift_normal {e k : Int} (accuracy : Accuracy) (enough : 23 ≤ m.log2)
    (place : (m.log2 : Int) + e = k) (normal : -126 ≤ k) :
    UnpackedFloat.shiftToTargetExponent Format.binary32 m e accuracy =
      (ExtendedMantissa.ofMantissaAndAccuracy m accuracy >>> (m.log2 - 23), k - 23) := by
  have target : Format.binary32.targetExponent (Float.Model.totalExponent m e) = k - 23 := by
    rw [Float.Model.totalExponent, targetExponent_normal (by omega)]
    omega
  have amount : (k - 23 - e).toNat = m.log2 - 23 := by omega
  unfold UnpackedFloat.shiftToTargetExponent UnpackedFloat.shiftToExponent
  dsimp only
  rw [target, amount]
  congr 1
  omega

theorem shifted_mantissa (m : Nat) (accuracy : Accuracy) (places : Nat) :
    (ExtendedMantissa.ofMantissaAndAccuracy m accuracy >>> places).mantissa = m / 2 ^ places := by
  rw [shiftRight_mantissa]
  rcases accuracy with _ | (_ | _ | _) <;> rfl

theorem shifted_bounds (enough : 23 ≤ m.log2) :
    2 ^ 23 ≤ m / 2 ^ (m.log2 - 23) ∧ m / 2 ^ (m.log2 - 23) < 2 ^ 24 := by
  have positive : m ≠ 0 := by
    rintro rfl
    simp at enough
  constructor
  · rw [Nat.le_div_iff_mul_le (Nat.two_pow_pos _), ← Nat.pow_add, Nat.add_sub_cancel' enough]
    exact Nat.log2_self_le positive
  · rw [Nat.div_lt_iff_lt_mul (Nat.two_pow_pos _), ← Nat.pow_add]
    calc m < 2 ^ (m.log2 + 1) := Nat.lt_log2_self
      _ = 2 ^ (24 + (m.log2 - 23)) := by congr 1; omega

theorem roundedMantissa_bounds (em : ExtendedMantissa) :
    em.mantissa ≤ em.roundedMantissa ∧ em.roundedMantissa ≤ em.mantissa + 1 := by
  rcases em with ⟨m, _ | _, _ | _⟩
  all_goals simp only [ExtendedMantissa.roundedMantissa, ExtendedMantissa.accuracy,
    Accuracy.roundToNearestEven]
  all_goals omega

/--
No number with a full significand is nearer to `v` than `m * 2 ^ e`. Below a power of two the next
number is only half as far away.
-/
structure Nearest (v : ℚ) (m : Nat) (e : Int) : Prop where
  least : 2 ^ 23 ≤ m
  most : m < 2 ^ 24
  low : (m : ℚ) - 1 / 2 ≤ v / 2 ^ e
  high : v / 2 ^ e ≤ m + 1 / 2
  narrow : m = 2 ^ 23 → (m : ℚ) - 1 / 4 ≤ v / 2 ^ e

variable {v w : ℚ} {n : Nat} {e f : Int}

theorem Nearest.of_carry (low : 2 ^ 24 - 1 / 2 ≤ v / 2 ^ e)
    (high : v / 2 ^ e ≤ 2 ^ 24) : Nearest v (2 ^ 23) (e + 1) := by
  have halved : v / 2 ^ (e + 1) = v / 2 ^ e / 2 := by
    rw [zpow_add_one₀ two_ne_zero, div_div]
  refine ⟨le_refl _, by norm_num, ?_, ?_, fun _ => ?_⟩ <;> rw [halved] <;> push_cast <;> linarith

theorem Nearest.upper (nearest : Nearest v m e) : v ≤ (2 ^ 24 - 1 / 2) * 2 ^ e := by
  have most : (m : ℚ) + 1 ≤ 2 ^ 24 := by exact_mod_cast nearest.most
  have high := nearest.high
  rw [← div_le_iff₀ (zpow_pos two_pos e)]
  linarith

theorem Nearest.lower (nearest : Nearest v m e) : (2 ^ 23 - 1 / 4) * 2 ^ e ≤ v := by
  rw [← le_div_iff₀ (zpow_pos two_pos e)]
  rcases nearest.least.eq_or_lt with start | more
  · have narrow := nearest.narrow start.symm
    rw [← start] at narrow
    exact_mod_cast narrow
  · have least : (2 : ℚ) ^ 23 + 1 ≤ m := by exact_mod_cast more
    have low := nearest.low
    linarith

theorem upper_le_lower (less : e < f) :
    ((2 : ℚ) ^ 24 - 1 / 2) * 2 ^ e ≤ (2 ^ 23 - 1 / 4) * 2 ^ f := by
  have double : (2 : ℚ) ^ (e + 1) ≤ 2 ^ f := zpow_le_zpow_right₀ one_le_two less
  rw [zpow_add_one₀ two_ne_zero] at double
  linarith

/-- A number with a full significand is the only one that is nearest to itself. -/
theorem Nearest.of_full (nearest : Nearest (n * 2 ^ f) m e) (low : 2 ^ 23 ≤ n)
    (high : n < 2 ^ 24) : m = n ∧ f = e := by
  have unit : (0 : ℚ) < 2 ^ f := zpow_pos two_pos f
  have least : (2 : ℚ) ^ 23 * 2 ^ f ≤ n * 2 ^ f :=
    mul_le_mul_of_nonneg_right (by exact_mod_cast low) unit.le
  have most : (n : ℚ) * 2 ^ f ≤ (2 ^ 24 - 1) * 2 ^ f := by
    have : (n : ℚ) + 1 ≤ 2 ^ 24 := by exact_mod_cast high
    exact mul_le_mul_of_nonneg_right (by linarith) unit.le
  rcases lt_trichotomy f e with less | rfl | more
  · have above := (upper_le_lower less).trans nearest.lower
    linarith
  · obtain ⟨-, -, near, far, -⟩ := nearest
    rw [mul_div_cancel_right₀ _ unit.ne'] at near far
    have below : (m : ℚ) < n + 1 := by linarith
    have above : (n : ℚ) < m + 1 := by linarith
    norm_cast at below above
    exact ⟨by omega, rfl⟩
  · have below := nearest.upper.trans (upper_le_lower more)
    linarith

theorem Nearest.mono (first : Nearest v m e) (second : Nearest w n f) (less : v < w) :
    e < f ∨ e = f ∧ m ≤ n := by
  rcases lt_trichotomy e f with before | rfl | after
  · exact .inl before
  · have scaled : v / 2 ^ e < w / 2 ^ e := div_lt_div_of_pos_right less (zpow_pos two_pos e)
    have low := first.low
    have high := second.high
    have close : (m : ℚ) < n + 1 := by linarith
    norm_cast at close
    exact .inr ⟨rfl, by omega⟩
  · have order := second.upper.trans ((upper_le_lower after).trans first.lower)
    linarith

theorem shift_kept {r : Nat} {k : Int} (low : 2 ^ 23 ≤ r) (high : r < 2 ^ 24)
    (normal : -126 ≤ k) :
    UnpackedFloat.shiftToTargetExponent Format.binary32 r (k - 23) .exact =
      (⟨r, false, false⟩, k - 23) := by
  have log := log2_of_full low high
  have shift := shift_normal (m := r) (e := k - 23) (k := k) .exact (by omega) (by omega) normal
  rw [shift, log]
  rfl

theorem shift_carry {k : Int} (normal : -126 ≤ k) :
    UnpackedFloat.shiftToTargetExponent Format.binary32 (2 ^ 24) (k - 23) .exact =
      (⟨2 ^ 23, false, false⟩, k + 1 - 23) := by
  have log : (2 ^ 24).log2 = 24 := Nat.log2_two_pow
  have shift := shift_normal (m := 2 ^ 24) (e := k - 23) (k := k + 1) .exact (by omega) (by omega)
    (by omega)
  rw [shift, log]
  rfl

/-- Rounding keeps the binade, or goes up to the start of the next one. -/
theorem roundWithAccuracy_nearest {k : Int} (fits : Fits m accuracy t) (enough : 23 ≤ m.log2)
    (place : (m.log2 : Int) + e = k) (normal : -126 ≤ k) :
    ∃ r j pos, UnpackedFloat.roundWithAccuracy Format.binary32 .positive m e accuracy =
      .finite .positive r (j - 23) pos ∧ (j = k ∨ j = k + 1) ∧
      Nearest (t * 2 ^ e) r (j - 23) := by
  set em := ExtendedMantissa.ofMantissaAndAccuracy m accuracy >>> (m.log2 - 23) with em_eq
  have first : UnpackedFloat.shiftToTargetExponent Format.binary32 m e accuracy = (em, k - 23) :=
    shift_normal accuracy enough place normal
  have kept : t * 2 ^ e / 2 ^ (k - 23) = t / 2 ^ (m.log2 - 23) := by
    have exponent : k - 23 = e + ((m.log2 - 23 : Nat) : Int) := by omega
    have power : (2 : ℚ) ^ e ≠ 0 := zpow_ne_zero e two_ne_zero
    rw [exponent, zpow_add₀ two_ne_zero, zpow_natCast]
    field_simp
  have shifted : Fits em.mantissa em.accuracy (t * 2 ^ e / 2 ^ (k - 23)) :=
    kept ▸ fits.extended.shiftRight _
  obtain ⟨low, high⟩ := shifted_bounds enough
  rw [← shifted_mantissa m accuracy, ← em_eq] at low high
  obtain ⟨least, most⟩ := roundedMantissa_bounds em
  obtain ⟨above, below⟩ := shifted.bounds
  obtain ⟨near, far⟩ := shifted.rounded
  rw [← ExtendedMantissa.roundedMantissa] at near far
  have start : (2 : ℚ) ^ 23 ≤ em.mantissa := by exact_mod_cast low
  -- a significand of ones only may be rounded up to one bit more, which is then shifted out
  by_cases full : em.roundedMantissa < 2 ^ 24
  · refine ⟨em.roundedMantissa, k, by omega, ?_, .inl rfl, by omega, full, near, far, ?_⟩
    · unfold UnpackedFloat.roundWithAccuracy
      rw [first]
      dsimp only
      rw [shift_kept (by omega) full normal]
      exact dif_neg (by dsimp only; omega)
    · intro power
      rw [power]
      push_cast
      linarith
  · have carried : em.roundedMantissa = 2 ^ 24 := by omega
    have finish : (em.mantissa : ℚ) + 1 ≤ 2 ^ 24 := by exact_mod_cast high
    rw [carried] at near
    push_cast at near
    have next : k - 23 + 1 = k + 1 - 23 := by ring
    refine ⟨2 ^ 23, k + 1, by decide, ?_, .inr rfl, ?_⟩
    · unfold UnpackedFloat.roundWithAccuracy
      rw [first]
      dsimp only
      rw [carried, shift_carry normal]
      exact dif_neg (by dsimp only; omega)
    · rw [← next]
      exact .of_carry near (by linarith)

end RayScene.Single
