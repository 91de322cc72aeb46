import RayScene.Proofs.Number.Value

namespace RayScene.Single

open BinaryFormat
open Float.Model (Format UnpackedFloat)
open Float.Model.UnpackedFloat (Accuracy ExtendedMantissa Sign)

def epsilon : ℚ := 2 ^ (-23 : ℤ)

def smallest : ℚ := 2 ^ (-149 : ℤ)

structure Close (v : ℝ) (u : UnpackedFloat) : Prop where
  canonical : IsCanonical u
  proper : isProper u = true
  near : |(unpackedValue u : ℝ) - v| ≤ epsilon * |v| + smallest

structure Approximates (x : Single) (v : ℝ) : Prop where
  near : Scalar.isFinite x = true → |x.value - v| ≤ epsilon * |v| + smallest
  bounded : |v| ≤ 2 ^ 127 → Scalar.isFinite x = true

variable {m : Nat} {e : Int} {sign : Sign} {t v : ℝ} {x : Single} {u : UnpackedFloat}

theorem epsilon_eq : (epsilon : ℝ) = 1 / 8388608 := by
  norm_num [epsilon]

theorem smallest_eq : ((smallest : ℚ) : ℝ) = 2 ^ (-149 : ℤ) := by
  norm_num [smallest]

theorem epsilon_pos : (0 : ℝ) < epsilon := by
  norm_num [epsilon]

theorem smallest_pos : (0 : ℝ) < smallest := by
  norm_num [smallest]

theorem smallest_le : (smallest : ℝ) ≤ 1e-44 := by
  norm_num [smallest]

theorem canonical_overflow {positive : 0 < m}
    (canonical : IsCanonical (.finite sign m e positive)) (large : 104 < e) :
    (2 : ℝ) ^ 128 ≤ |(unpackedValue (.finite sign m e positive) : ℝ)| := by
  have full : 2 ^ 23 ≤ m := by
    have := ((canonical_iff m e).mp canonical).2.2
    omega
  have least : (2 : ℚ) ^ 23 ≤ m := by exact_mod_cast full
  have exponent : (2 : ℚ) ^ (105 : ℤ) ≤ 2 ^ e := zpow_le_zpow_right₀ one_le_two large
  have bound : (2 : ℚ) ^ 128 ≤ |unpackedValue (.finite sign m e positive)| := by
    rw [abs_unpackedValue]
    calc (2 : ℚ) ^ 128 = (2 : ℚ) ^ 23 * (2 : ℚ) ^ (105 : ℤ) := by norm_num
      _ ≤ (m * 2 ^ e : ℚ) := mul_le_mul least exponent (by positivity) (by positivity)
  exact_mod_cast bound

theorem Close.small (close : Close v u) (bounded : |v| ≤ 2 ^ 127) :
    |(unpackedValue u : ℝ)| < 2 ^ 128 := by
  have near := close.near
  have triangle := abs_sub_abs_le_abs_sub (unpackedValue u : ℝ) v
  rw [epsilon_eq] at near
  linarith [smallest_le]

/-- What is stored is kept, unless it is too large. -/
theorem stored_cases (canonical : IsCanonical u) (proper : isProper u = true)
    (result : x = Float32.ofModel (Float32.Model.pack u)) :
    Scalar.isFinite x = true ∧ x.value = unpackedValue u ∨
      Scalar.isFinite x = false ∧ (2 : ℝ) ^ 128 ≤ |(unpackedValue u : ℝ)| := by
  have read : x.toModel.unpack = reread u := by
    rw [result]
    rfl
  have kept (same : reread u = u) : Scalar.isFinite x = true ∧ x.value = unpackedValue u := by
    rw [isFinite_eq_isProper, value, read, same]
    exact ⟨proper, rfl⟩
  cases u with
  | infinity => cases proper
  | notANumber => cases proper
  | zero sign => exact .inl (kept (reread_zero sign))
  | finite sign m e positive =>
      rcases le_or_gt e 104 with small | large
      · exact .inl (kept (reread_canonical canonical small positive))
      · refine .inr ⟨?_, canonical_overflow canonical large⟩
        rw [isFinite_eq_isProper, read, reread_overflow large]
        rfl

theorem stored_of_bounded (canonical : IsCanonical u) (proper : isProper u = true)
    (result : x = Float32.ofModel (Float32.Model.pack u))
    (bounded : |(unpackedValue u : ℝ)| < 2 ^ 128) :
    Scalar.isFinite x = true ∧ x.value = unpackedValue u :=
  (stored_cases canonical proper result).resolve_right fun overflow => overflow.2.not_gt bounded

theorem Close.approximates (close : Close v u)
    (result : x = Float32.ofModel (Float32.Model.pack u)) : Approximates x v := by
  refine ⟨fun finite => ?_, fun bounded =>
    (stored_of_bounded close.canonical close.proper result (close.small bounded)).1⟩
  rcases stored_cases close.canonical close.proper result with ⟨-, same⟩ | ⟨infinite, -⟩
  · rw [same]
    exact close.near
  · rw [infinite] at finite
    cases finite

def settle (sign : Sign) (m : Nat) (e : Int) : UnpackedFloat :=
  let (final, exponent) := UnpackedFloat.shiftToTargetExponent Format.binary32 m e .exact
  if h : final.mantissa = 0 then .zero sign
  else .finite sign final.mantissa exponent (Nat.pos_of_ne_zero h)

theorem targetExponent_eq (place : Int) :
    Format.binary32.targetExponent place = max (place - 24) (-149) := rfl

theorem settle_kept (bound : m < 2 ^ 24) (least : -149 ≤ e) :
    settle sign m e =
      if h : m = 0 then .zero sign else .finite sign m e (Nat.pos_of_ne_zero h) := by
  have amount : (Format.binary32.targetExponent (Float.Model.totalExponent m e) - e).toNat = 0 := by
    have log : m.log2 < 24 := by
      rcases Nat.eq_zero_or_pos m with rfl | positive
      · decide
      · exact (Nat.log2_lt (by omega)).mpr bound
    rw [Float.Model.totalExponent, targetExponent_eq]
    omega
  have shift : UnpackedFloat.shiftToTargetExponent Format.binary32 m e .exact =
      (⟨m, false, false⟩, e) := by
    unfold UnpackedFloat.shiftToTargetExponent UnpackedFloat.shiftToExponent
    dsimp only
    rw [amount, Nat.cast_zero, add_zero]
    rfl
  unfold settle
  rw [shift]

theorem settle_carried (least : -149 ≤ e) :
    settle sign (2 ^ 24) e = .finite sign (2 ^ 23) (e + 1) (by decide) := by
  have shift := shift_carry (k := e + 23) (by omega)
  rw [show e + 23 - 23 = e by omega, show e + 23 + 1 - 23 = e + 1 by omega] at shift
  unfold settle
  rw [shift]
  rfl

/-- What a rounded significand stands for at its exponent is what is stored. -/
theorem settle_value (sign : Sign) (bound : m ≤ 2 ^ 24) (least : -149 ≤ e)
    (full : e = -149 ∨ 2 ^ 23 ≤ m) :
    IsCanonical (settle sign m e) ∧ isProper (settle sign m e) = true ∧
      unpackedValue (settle sign m e) = (sign.apply m : ℤ) * 2 ^ e := by
  rcases bound.lt_or_eq with below | rfl
  · rw [settle_kept below least]
    split
    next none =>
      refine ⟨trivial, rfl, ?_⟩
      rw [none]
      cases sign <;> exact (zero_mul _).symm
    next => exact ⟨(canonical_iff m e).mpr ⟨least, below, full⟩, rfl, rfl⟩
  · rw [settle_carried least]
    refine ⟨(canonical_iff _ _).mpr ⟨by omega, by decide, .inr le_rfl⟩, rfl, ?_⟩
    have double : (2 : ℚ) ^ (e + 1) = 2 ^ e * 2 := zpow_add_one₀ two_ne_zero e
    cases sign with
    | negative =>
        rw [unpackedValue_negative, double]
        show _ = ((-((2 ^ 24 : ℕ) : ℤ) : ℤ) : ℚ) * 2 ^ e
        push_cast
        ring
    | positive =>
        rw [unpackedValue_positive, double]
        show _ = (((2 ^ 24 : ℕ) : ℤ) : ℚ) * 2 ^ e
        push_cast
        ring

theorem sign_apply_cast (sign : Sign) (m : Nat) :
    ((sign.apply m : ℤ) : ℝ) = (sign.apply 1 : ℤ) * m := by
  cases sign with
  | negative =>
      show ((-(m : ℤ) : ℤ) : ℝ) = ((-1 : ℤ) : ℝ) * m
      push_cast
      ring
  | positive =>
      show (((m : ℤ) : ℤ) : ℝ) = ((1 : ℤ) : ℝ) * m
      push_cast
      ring

theorem negative_mul (v : ℝ) : ((Sign.negative.apply 1 : ℤ) : ℝ) * v = -v := by
  show ((-1 : ℤ) : ℝ) * v = -v
  rw [Int.cast_neg, Int.cast_one, neg_one_mul]

theorem positive_mul (v : ℝ) : ((Sign.positive.apply 1 : ℤ) : ℝ) * v = v := by
  show ((1 : ℤ) : ℝ) * v = v
  rw [Int.cast_one, one_mul]

theorem abs_sign_mul (sign : Sign) (v : ℝ) : |((sign.apply 1 : ℤ) : ℝ) * v| = |v| := by
  cases sign with
  | negative => rw [negative_mul, abs_neg]
  | positive => rw [positive_mul]

theorem cut_bounds (low : (m : ℝ) ≤ t) (high : t < m + 1) (places : Nat) :
    ((m / 2 ^ places : Nat) : ℝ) ≤ t / 2 ^ places ∧
      t / 2 ^ places < (m / 2 ^ places : Nat) + 1 := by
  have power : (0 : ℝ) < 2 ^ places := by positivity
  have floor := Nat.div_mul_le_self m (2 ^ places)
  have ceiling : m + 1 ≤ (m / 2 ^ places + 1) * 2 ^ places :=
    Nat.succ_le_of_lt (Nat.lt_mul_of_div_lt (Nat.lt_succ_self _) (Nat.two_pow_pos places))
  have floor' : ((m / 2 ^ places : Nat) : ℝ) * 2 ^ places ≤ m := by exact_mod_cast floor
  have ceiling' : (m : ℝ) + 1 ≤ ((m / 2 ^ places : Nat) + 1) * 2 ^ places := by
    exact_mod_cast ceiling
  rw [le_div_iff₀ power, div_lt_iff₀ power]
  exact ⟨floor'.trans low, high.trans_le ceiling'⟩

/-- A unit in the last place is a small part of the number, or the least one above zero. -/
theorem unit_le {k : Int} (full : k = -149 ∨ 2 ^ 23 ≤ t) :
    (2 : ℝ) ^ k ≤ epsilon * |t * 2 ^ k| + smallest := by
  have part : (0 : ℝ) ≤ epsilon * |t * 2 ^ k| := mul_nonneg epsilon_pos.le (abs_nonneg _)
  rcases full with rfl | full
  · rw [smallest_eq]
    exact le_add_of_nonneg_left part
  · have unit : (0 : ℝ) < 2 ^ k := zpow_pos two_pos k
    calc (2 : ℝ) ^ k = epsilon * (2 ^ 23 * 2 ^ k) := by
          rw [epsilon_eq]
          ring
      _ ≤ epsilon * |t * 2 ^ k| := by
          apply mul_le_mul_of_nonneg_left _ epsilon_pos.le
          exact (mul_le_mul_of_nonneg_right full unit.le).trans (le_abs_self _)
      _ ≤ epsilon * |t * 2 ^ k| + smallest := le_add_of_nonneg_right smallest_pos.le

theorem zpow_dropped (t : ℝ) {k : Int} {places : Nat} (dropped : k = e + places) :
    t * 2 ^ e = t / 2 ^ places * 2 ^ k := by
  rw [dropped, zpow_add₀ two_ne_zero, zpow_natCast]
  field_simp

/-- Rounding drops so many bits, and goes up by one or not at all, whichever is nearer. -/
theorem roundWithAccuracy_settles (sign : Sign) (accuracy : Accuracy)
    (enough : e ≤ Format.binary32.targetExponent (Float.Model.totalExponent m e)) :
    ∃ (k : Int) (places r : Nat), k = e + places ∧ -149 ≤ k ∧
      UnpackedFloat.roundWithAccuracy Format.binary32 sign m e accuracy = settle sign r k ∧
      m / 2 ^ places ≤ r ∧ r ≤ m / 2 ^ places + 1 ∧ r ≤ 2 ^ 24 ∧
      (k = -149 ∨ 2 ^ 23 ≤ m / 2 ^ places) ∧
      ∀ q : ℚ, Fits m accuracy q → |(r : ℝ) - q / 2 ^ places| ≤ 1 / 2 := by
  -- the exponent of the result: 24 bits are kept, unless the smallest numbers have fewer
  obtain ⟨k, place⟩ : ∃ k : Int, k = max (m.log2 + 1 + e - 24) (-149) := ⟨_, rfl⟩
  rw [Float.Model.totalExponent, targetExponent_eq, ← place] at enough
  obtain ⟨places, dropped⟩ : ∃ places : Nat, k = e + places := ⟨(k - e).toNat, by omega⟩
  set em := ExtendedMantissa.ofMantissaAndAccuracy m accuracy >>> places
  have shift : UnpackedFloat.shiftToTargetExponent Format.binary32 m e accuracy = (em, k) := by
    have amount : (k - e).toNat = places := by omega
    unfold UnpackedFloat.shiftToTargetExponent UnpackedFloat.shiftToExponent
    dsimp only
    rw [Float.Model.totalExponent, targetExponent_eq, ← place, amount, ← dropped]
  have rounded : UnpackedFloat.roundWithAccuracy Format.binary32 sign m e accuracy =
      settle sign em.roundedMantissa k := by
    unfold UnpackedFloat.roundWithAccuracy
    rw [shift]
    rfl
  have cut : em.mantissa = m / 2 ^ places := shifted_mantissa m accuracy places
  obtain ⟨floor, ceiling⟩ := roundedMantissa_bounds em
  rw [cut] at floor ceiling
  have few : m / 2 ^ places < 2 ^ 24 := by
    rw [Nat.div_lt_iff_lt_mul (Nat.two_pow_pos _), ← Nat.pow_add]
    calc m < 2 ^ (m.log2 + 1) := Nat.lt_log2_self
      _ ≤ 2 ^ (24 + places) := Nat.pow_le_pow_right two_pos (by omega)
  refine ⟨k, places, em.roundedMantissa, dropped, by omega, rounded, floor, ceiling, by omega, ?_,
    fun q fits => ?_⟩
  · rcases eq_or_ne k (-149) with lowest | above
    · exact .inl lowest
    · have many : places = m.log2 - 23 := by omega
      have bounds := (shifted_bounds (m := m) (by omega)).1
      rw [← many] at bounds
      exact .inr bounds
  · obtain ⟨low, high⟩ := (fits.extended.shiftRight places).rounded
    rw [← ExtendedMantissa.roundedMantissa] at low high
    have near : |(em.roundedMantissa : ℚ) - q / 2 ^ places| ≤ 1 / 2 :=
      abs_le.mpr ⟨by linarith, by linarith⟩
    have cast := (Rat.cast_le (K := ℝ)).mpr near
    push_cast at cast
    exact cast

theorem cut_full {k : Int} {places : Nat} (full : k = -149 ∨ 2 ^ 23 ≤ m / 2 ^ places)
    (low : (m : ℝ) ≤ t) (high : t < m + 1) : k = -149 ∨ 2 ^ 23 ≤ t / 2 ^ places := by
  refine full.imp_right fun few => le_trans ?_ (cut_bounds low high places).1
  exact_mod_cast few

/-- A number that was cut off to `m`, with enough bits left, is rounded to a close one. -/
theorem roundWithAccuracy_close (sign : Sign) (accuracy : Accuracy) (low : (m : ℝ) ≤ t)
    (high : t < m + 1)
    (enough : e ≤ Format.binary32.targetExponent (Float.Model.totalExponent m e)) :
    Close ((sign.apply 1 : ℤ) * (t * 2 ^ e))
      (UnpackedFloat.roundWithAccuracy Format.binary32 sign m e accuracy) := by
  obtain ⟨k, places, r, dropped, least, rounded, floor, ceiling, bound, full, -⟩ :=
    roundWithAccuracy_settles sign accuracy enough
  obtain ⟨canonical, proper, stands⟩ :=
    settle_value sign bound least (full.imp_right floor.trans')
  rw [rounded, zpow_dropped t dropped]
  refine ⟨canonical, proper, ?_⟩
  have unit : (0 : ℝ) < 2 ^ k := zpow_pos two_pos k
  have within : |(r : ℝ) - t / 2 ^ places| ≤ 1 := by
    obtain ⟨below, above⟩ := cut_bounds low high places
    have floor' : ((m / 2 ^ places : Nat) : ℝ) ≤ r := by exact_mod_cast floor
    have ceiling' : (r : ℝ) ≤ (m / 2 ^ places : Nat) + 1 := by exact_mod_cast ceiling
    rw [abs_le]
    constructor <;> linarith
  have distance : ((unpackedValue (settle sign r k) : ℚ) : ℝ) -
      (sign.apply 1 : ℤ) * (t / 2 ^ places * 2 ^ k) =
        (sign.apply 1 : ℤ) * ((r - t / 2 ^ places) * 2 ^ k) := by
    rw [stands, Rat.cast_mul, Rat.cast_intCast, sign_apply_cast, Rat.cast_zpow, Rat.cast_ofNat]
    ring
  rw [distance, abs_sign_mul, abs_sign_mul, abs_mul, abs_of_pos unit]
  calc |(r : ℝ) - t / 2 ^ places| * 2 ^ k
      ≤ 1 * 2 ^ k := mul_le_mul_of_nonneg_right within unit.le
    _ = 2 ^ k := one_mul _
    _ ≤ epsilon * |t / 2 ^ places * 2 ^ k| + smallest := unit_le (cut_full full low high)

theorem log2_shiftLeft (some : m ≠ 0) (places : Nat) : (m <<< places).log2 = m.log2 + places := by
  rw [Nat.shiftLeft_eq]
  have positive : m * 2 ^ places ≠ 0 := Nat.mul_ne_zero some (Nat.two_pow_pos places).ne'
  rw [Nat.log2_eq_iff positive, Nat.pow_add, Nat.add_right_comm, Nat.pow_add]
  exact ⟨Nat.mul_le_mul_right _ (Nat.log2_self_le some),
    Nat.mul_lt_mul_of_pos_right Nat.lt_log2_self (Nat.two_pow_pos places)⟩

end RayScene.Single
