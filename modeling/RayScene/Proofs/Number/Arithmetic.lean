import RayScene.Proofs.Number.Faithful

namespace RayScene.Single

open BinaryFormat
open Float.Model (Format UnpackedFloat)
open Float.Model.UnpackedFloat (Sign)

variable {m n : Nat} {e f : Int} {sign : Sign} {x y : Single} {u w : UnpackedFloat}

theorem finite_value (sign : Sign) (e : Int) (positive : 0 < m) :
    ((unpackedValue (.finite sign m e positive) : ℚ) : ℝ) = (sign.apply m : ℤ) * 2 ^ e := by
  rw [unpackedValue]
  push_cast
  rfl

theorem decrease_value (sign : Sign) (m : Nat) {e least : Int} (above : least ≤ e) :
    ((sign.apply (m <<< (e - least).toNat : Nat) : ℤ) : ℝ) * 2 ^ least =
      (sign.apply m : ℤ) * 2 ^ e := by
  obtain ⟨places, rfl⟩ : ∃ places : Nat, e = least + places := ⟨(e - least).toNat, by omega⟩
  have amount : (least + places - least).toNat = places := by omega
  rw [sign_apply_cast, sign_apply_cast sign m, amount, Nat.shiftLeft_eq, zpow_add₀ two_ne_zero,
    zpow_natCast]
  push_cast
  ring

theorem sub_eq_add_opposite (u w : UnpackedFloat) :
    UnpackedFloat.sub Format.binary32 u w = UnpackedFloat.add Format.binary32 u w.neg := by
  have opposite (sign : Sign) (k : Int) : (-sign).apply k = -sign.apply k := by
    cases sign with
    | negative => exact (neg_neg k).symm
    | positive => rfl
  cases u <;> cases w <;> try rfl
  show UnpackedFloat.normalize _ (_ - _) _ _ = UnpackedFloat.normalize _ (_ + _) _ _
  rw [opposite, Int.sub_eq_add_neg]

theorem sign_mul (sign sign' : Sign) :
    (((sign * sign').apply 1 : ℤ) : ℝ) = (sign.apply 1 : ℤ) * (sign'.apply 1 : ℤ) := by
  cases sign <;> cases sign' <;> norm_cast

theorem sign_div (sign sign' : Sign) :
    (((sign / sign').apply 1 : ℤ) : ℝ) = (sign.apply 1 : ℤ) / (sign'.apply 1 : ℤ) := by
  have same : sign / sign' = sign * sign' := by cases sign <;> cases sign' <;> rfl
  rw [same, sign_mul, div_eq_mul_inv]
  cases sign' <;> norm_num [Sign.apply]

theorem log2_le_div (a : Nat) (positive : 0 < n) : a.log2 ≤ (a / n).log2 + n.log2 + 1 := by
  rcases Nat.eq_zero_or_pos a with rfl | some
  · exact Nat.zero_le _
  · have below : a < 2 ^ ((a / n).log2 + n.log2 + 2) :=
      calc a < (a / n + 1) * n := Nat.lt_mul_of_div_lt (Nat.lt_succ_self _) positive
        _ ≤ 2 ^ ((a / n).log2 + 1) * 2 ^ (n.log2 + 1) :=
          Nat.mul_le_mul Nat.lt_log2_self Nat.lt_log2_self.le
        _ = 2 ^ ((a / n).log2 + n.log2 + 2) := by
          rw [← Nat.pow_add]
          congr 1
          omega
    have := (Nat.log2_lt some.ne').mpr below
    omega

theorem log2_sqrt (some : 0 < n) : n.sqrt.log2 = n.log2 / 2 := by
  have low : 2 ^ n.log2 ≤ n := Nat.log2_self_le some.ne'
  have high : n < 2 ^ (n.log2 + 1) := Nat.lt_log2_self
  rw [Nat.log2_eq_iff (Nat.sqrt_pos.mpr some).ne']
  constructor
  · rw [Nat.le_sqrt', ← Nat.pow_mul]
    exact (Nat.pow_le_pow_right two_pos (by omega)).trans low
  · rw [Nat.sqrt_lt', ← Nat.pow_mul]
    exact high.trans_le (Nat.pow_le_pow_right two_pos (by omega))

section

variable (positive : 0 < m) (positive' : 0 < n)

theorem product_rounded {sign sign' : Sign} (canonical : IsCanonical (.finite sign m e positive))
    (canonical' : IsCanonical (.finite sign' n f positive')) :
    Rounded
      (unpackedValue (.finite sign m e positive) * unpackedValue (.finite sign' n f positive'))
      (UnpackedFloat.mul Format.binary32 (.finite sign m e positive)
        (.finite sign' n f positive')) := by
  have product : ((unpackedValue (.finite sign m e positive) : ℚ) : ℝ) *
      (unpackedValue (.finite sign' n f positive') : ℚ) =
        ((sign * sign').apply 1 : ℤ) * (((m * n : Nat) : ℚ) * 2 ^ (e + f)) := by
    rw [finite_value, finite_value, sign_apply_cast, sign_apply_cast sign' n, sign_mul,
      zpow_add₀ two_ne_zero]
    push_cast
    ring
  have exact : Fits (m * n) .exact (m * n : Nat) := rfl
  rw [product]
  apply roundWithAccuracy_rounded (sign * sign') exact
  rw [Float.Model.totalExponent, targetExponent_eq]
  have first := (canonical_iff m e).mp canonical
  have second := (canonical_iff n f).mp canonical'
  -- a factor that is full leaves enough bits, and without one both are the smallest
  rcases le_or_gt (2 ^ 23) (m * n) with full | tiny
  · have log : 23 ≤ (m * n).log2 := (Nat.le_log2 (by positivity)).mpr full
    omega
  · have left : m ≤ m * n := Nat.le_mul_of_pos_right m positive'
    have right : n ≤ m * n := Nat.le_mul_of_pos_left n positive
    omega

theorem quotient_rounded {sign sign' : Sign} :
    Rounded
      (unpackedValue (.finite sign m e positive) / unpackedValue (.finite sign' n f positive'))
      (UnpackedFloat.div Format.binary32 (.finite sign m e positive)
        (.finite sign' n f positive')) := by
  obtain ⟨k, place⟩ : ∃ k : Int, k = min (e - f) (Format.binary32.targetExponent
    (Float.Model.totalExponent m e - Float.Model.totalExponent n f)) := ⟨_, rfl⟩
  obtain ⟨places, moved⟩ : ∃ places : Nat, e - f = k + places :=
    ⟨(e - f - k).toNat, by omega⟩
  have core : UnpackedFloat.divCore Format.binary32 m e n f = (m <<< places / n, k,
      UnpackedFloat.accuracyOfFraction (m <<< places % n) n) := by
    have amount : (e - f - k).toNat = places := by omega
    unfold UnpackedFloat.divCore
    dsimp only
    rw [← place, amount]
  have quotient : ((unpackedValue (.finite sign m e positive) : ℚ) : ℝ) /
      (unpackedValue (.finite sign' n f positive') : ℚ) =
        ((sign / sign').apply 1 : ℤ) * (((m <<< places : Nat) / n : ℚ) * 2 ^ k) := by
    have power : (2 : ℝ) ^ e = 2 ^ f * (2 ^ k * 2 ^ places) := by
      rw [← zpow_natCast, ← zpow_add₀ two_ne_zero, ← zpow_add₀ two_ne_zero]
      congr 1
      omega
    have unit : ((sign'.apply 1 : ℤ) : ℝ) ≠ 0 := by cases sign' <;> norm_num [Sign.apply]
    rw [finite_value, finite_value, sign_apply_cast, sign_apply_cast sign' n, sign_div,
      Nat.shiftLeft_eq, power]
    push_cast
    field_simp
  unfold UnpackedFloat.div
  dsimp only
  rw [core, quotient]
  have rounded := roundWithAccuracy_rounded (sign / sign') (e := k)
    (fits_quotient (m <<< places) positive')
  push_cast at rounded ⊢
  apply rounded
  rw [Float.Model.totalExponent, targetExponent_eq]
  rw [Float.Model.totalExponent, Float.Model.totalExponent, targetExponent_eq] at place
  have log := log2_shiftLeft positive.ne' places
  have least := log2_le_div (m <<< places) positive'
  omega

theorem root_close :
    Close √(unpackedValue (.finite .positive m e positive) : ℝ)
      (UnpackedFloat.sqrt Format.binary32 (.finite .positive m e positive)) := by
  obtain ⟨k, place⟩ : ∃ k : Int, k = min (Int.ediv e 2)
    (Format.binary32.targetExponent (Int.ediv (Float.Model.totalExponent m e + 1) 2)) :=
      ⟨_, rfl⟩
  have half : k ≤ e / 2 := place ▸ min_le_left _ _
  obtain ⟨places, moved⟩ : ∃ places : Nat, e = 2 * k + places :=
    ⟨(e - 2 * k).toNat, by omega⟩
  obtain ⟨accuracy, core⟩ : ∃ accuracy, UnpackedFloat.sqrtCore Format.binary32 m e =
      ((m <<< places).sqrt, k, accuracy) := by
    have amount : (e - 2 * k).toNat = places := by omega
    unfold UnpackedFloat.sqrtCore
    dsimp only
    rw [← place, amount]
    exact ⟨_, rfl⟩
  have root : √((unpackedValue (.finite .positive m e positive) : ℚ) : ℝ) =
      ((Sign.positive.apply 1 : ℤ) : ℝ) * (√((m <<< places : Nat) : ℝ) * 2 ^ k) := by
    have unit : ((Sign.positive.apply 1 : ℤ) : ℝ) = 1 := by norm_cast
    have square : (2 : ℝ) ^ (2 * k) = (2 ^ k) ^ 2 := by
      rw [mul_comm, zpow_mul]
      rfl
    rw [finite_value, sign_apply_cast, unit, one_mul, one_mul, moved,
      zpow_add₀ two_ne_zero, square, Nat.shiftLeft_eq, zpow_natCast]
    push_cast
    rw [show (m : ℝ) * ((2 ^ k) ^ 2 * 2 ^ places) = m * 2 ^ places * (2 ^ k) ^ 2 by ring,
      Real.sqrt_mul (by positivity), Real.sqrt_sq (by positivity)]
  unfold UnpackedFloat.sqrt
  dsimp only
  rw [core, root]
  apply roundWithAccuracy_close .positive accuracy Real.nat_sqrt_le_real_sqrt
    Real.real_sqrt_lt_nat_sqrt_succ
  have log := log2_shiftLeft positive.ne' places
  have shifted : 0 < m <<< places := by
    rw [Nat.shiftLeft_eq]
    positivity
  rw [Float.Model.totalExponent, targetExponent_eq, log2_sqrt shifted, log]
  rw [Float.Model.totalExponent, targetExponent_eq] at place
  have whole : k = min (e / 2) (max ((m.log2 + 1 + e + 1) / 2 - 24) (-149)) := place
  omega

end

section

variable (canonical : IsCanonical u) (canonical' : IsCanonical w) (proper : isProper u = true)
  (proper' : isProper w = true)
include canonical canonical' proper proper'

theorem add_rounded :
    Rounded (unpackedValue u + unpackedValue w) (UnpackedFloat.add Format.binary32 u w) := by
  cases u with
  | infinity => cases proper
  | notANumber => cases proper
  | zero sign =>
      rw [unpackedValue_zero, Rat.cast_zero, zero_add]
      cases w with
      | infinity => cases proper'
      | notANumber => cases proper'
      | zero sign' =>
          rw [unpackedValue_zero, Rat.cast_zero]
          cases sign <;> cases sign' <;> exact rounded_zero _
      | finite sign' n f positive' => exact .refl canonical' rfl
  | finite sign m e positive =>
      cases w with
      | infinity => cases proper'
      | notANumber => cases proper'
      | zero sign' =>
          rw [unpackedValue_zero, Rat.cast_zero, add_zero]
          exact .refl canonical rfl
      | finite sign' n f positive' =>
          rw [finite_value, finite_value, ← decrease_value sign m (min_le_left e f),
            ← decrease_value sign' n (min_le_right e f), ← add_mul, ← Int.cast_add]
          exact normalize_rounded _ _ _

theorem sub_rounded :
    Rounded (unpackedValue u - unpackedValue w) (UnpackedFloat.sub Format.binary32 u w) := by
  have rounded := add_rounded canonical (neg_isCanonical canonical') proper (neg_isProper proper')
  rwa [neg_value, Rat.cast_neg, ← sub_eq_add_neg, ← sub_eq_add_opposite] at rounded

theorem mul_rounded :
    Rounded (unpackedValue u * unpackedValue w) (UnpackedFloat.mul Format.binary32 u w) := by
  cases u with
  | infinity => cases proper
  | notANumber => cases proper
  | zero sign =>
      rw [unpackedValue_zero, Rat.cast_zero, zero_mul]
      cases w with
      | infinity => cases proper'
      | notANumber => cases proper'
      | _ => exact rounded_zero _
  | finite sign m e positive =>
      cases w with
      | infinity => cases proper'
      | notANumber => cases proper'
      | zero sign' =>
          rw [unpackedValue_zero, Rat.cast_zero, mul_zero]
          exact rounded_zero _
      | finite sign' n f positive' =>
          exact product_rounded positive positive' canonical canonical'

theorem div_rounded (divisor : unpackedValue w ≠ 0) :
    Rounded (unpackedValue u / unpackedValue w) (UnpackedFloat.div Format.binary32 u w) := by
  cases w with
  | infinity => cases proper'
  | notANumber => cases proper'
  | zero sign' => exact absurd (unpackedValue_zero sign') divisor
  | finite sign' n f positive' =>
      cases u with
      | infinity => cases proper
      | notANumber => cases proper
      | zero sign =>
          rw [unpackedValue_zero, Rat.cast_zero, zero_div]
          exact rounded_zero _
      | finite sign m e positive =>
          exact quotient_rounded positive positive'

end

theorem sqrt_close (canonical : IsCanonical u) (proper : isProper u = true)
    (nonneg : 0 ≤ unpackedValue u) :
    Close √(unpackedValue u : ℝ) (UnpackedFloat.sqrt Format.binary32 u) := by
  cases u with
  | infinity => cases proper
  | notANumber => cases proper
  | zero sign =>
      rw [unpackedValue_zero, Rat.cast_zero, Real.sqrt_zero]
      exact (rounded_zero sign).close
  | finite sign m e positive =>
      cases sign with
      | negative =>
          have below : (0 : ℚ) < m * 2 ^ e :=
            mul_pos (Nat.cast_pos.mpr positive) (zpow_pos two_pos e)
          rw [unpackedValue_negative] at nonneg
          linarith
      | positive =>
          exact root_close positive

section

variable (first : Scalar.isFinite x = true) (second : Scalar.isFinite y = true)
include first second

theorem add_roundsTo : RoundsTo (x + y) (x.value + y.value) := by
  rw [isFinite_eq_isProper] at first second
  exact ⟨_, add_rounded (unpack_canonical x) (unpack_canonical y) first second, rfl⟩

theorem sub_roundsTo : RoundsTo (x - y) (x.value - y.value) := by
  rw [isFinite_eq_isProper] at first second
  exact ⟨_, sub_rounded (unpack_canonical x) (unpack_canonical y) first second, rfl⟩

theorem mul_roundsTo : RoundsTo (x * y) (x.value * y.value) := by
  rw [isFinite_eq_isProper] at first second
  exact ⟨_, mul_rounded (unpack_canonical x) (unpack_canonical y) first second, rfl⟩

theorem div_roundsTo (divisor : y.value ≠ 0) : RoundsTo (x / y) (x.value / y.value) := by
  rw [isFinite_eq_isProper] at first second
  exact ⟨_, div_rounded (unpack_canonical x) (unpack_canonical y) first second
    (Rat.cast_ne_zero.mp divisor), rfl⟩

theorem add_approximates : Approximates (x + y) (x.value + y.value) :=
  (add_roundsTo first second).approximates

theorem sub_approximates : Approximates (x - y) (x.value - y.value) :=
  (sub_roundsTo first second).approximates

theorem mul_approximates : Approximates (x * y) (x.value * y.value) :=
  (mul_roundsTo first second).approximates

theorem div_approximates (divisor : y.value ≠ 0) : Approximates (x / y) (x.value / y.value) :=
  (div_roundsTo first second divisor).approximates

end

theorem sqrt_approximates (finite : Scalar.isFinite x = true) (nonneg : 0 ≤ x.value) :
    Approximates (Scalar.sqrt x) √x.value := by
  rw [isFinite_eq_isProper] at finite
  exact (sqrt_close (unpack_canonical x) finite (Rat.cast_nonneg.mp nonneg)).approximates rfl

theorem isProper_of_reread (proper : isProper (reread u) = true) : isProper u = true := by
  cases u with
  | infinity sign =>
      rw [reread_infinity] at proper
      exact proper
  | notANumber =>
      rw [reread_nan] at proper
      exact proper
  | _ => rfl

theorem isProper_add (proper : isProper (UnpackedFloat.add Format.binary32 u w) = true) :
    isProper u = true ∧ isProper w = true := by
  rcases u with (_ | _) | _ | _ | _ <;> rcases w with (_ | _) | _ | _ | _ <;>
    first | exact ⟨rfl, rfl⟩ | cases proper

theorem isProper_mul (proper : isProper (UnpackedFloat.mul Format.binary32 u w) = true) :
    isProper u = true ∧ isProper w = true := by
  rcases u with (_ | _) | _ | _ | _ <;> rcases w with (_ | _) | _ | _ | _ <;>
    first | exact ⟨rfl, rfl⟩ | cases proper

theorem isProper_div (proper : isProper (UnpackedFloat.div Format.binary32 u w) = true) :
    isProper u = true := by
  rcases u with (_ | _) | _ | _ | _ <;> rcases w with (_ | _) | _ | _ | _ <;>
    first | rfl | cases proper

theorem isProper_neg (proper : isProper u.neg = true) : isProper u = true := by
  cases u <;> exact proper

theorem isProper_sqrt (proper : isProper (UnpackedFloat.sqrt Format.binary32 u) = true) :
    isProper u = true ∧ 0 ≤ unpackedValue u := by
  rcases u with (_ | _) | _ | _ | ⟨(_ | _), m, e, positive⟩
  case zero => exact ⟨rfl, le_rfl⟩
  case finite.positive =>
    rw [unpackedValue_positive]
    exact ⟨rfl, by positivity⟩
  all_goals cases proper

theorem add_finite (finite : Scalar.isFinite (x + y) = true) :
    Scalar.isFinite x = true ∧ Scalar.isFinite y = true := by
  rw [isFinite_eq_isProper] at finite
  rw [isFinite_eq_isProper, isFinite_eq_isProper]
  exact isProper_add (isProper_of_reread finite)

theorem sub_finite (finite : Scalar.isFinite (x - y) = true) :
    Scalar.isFinite x = true ∧ Scalar.isFinite y = true := by
  rw [isFinite_eq_isProper] at finite
  rw [isFinite_eq_isProper, isFinite_eq_isProper]
  have proper := isProper_of_reread (u := UnpackedFloat.sub _ x.toModel.unpack y.toModel.unpack)
    finite
  rw [sub_eq_add_opposite] at proper
  exact (isProper_add proper).imp_right isProper_neg

theorem mul_finite (finite : Scalar.isFinite (x * y) = true) :
    Scalar.isFinite x = true ∧ Scalar.isFinite y = true := by
  rw [isFinite_eq_isProper] at finite
  rw [isFinite_eq_isProper, isFinite_eq_isProper]
  exact isProper_mul (isProper_of_reread finite)

theorem div_finite (finite : Scalar.isFinite (x / y) = true) : Scalar.isFinite x = true := by
  rw [isFinite_eq_isProper] at finite
  rw [isFinite_eq_isProper]
  exact isProper_div (isProper_of_reread finite)

theorem sqrt_finite (finite : Scalar.isFinite (Scalar.sqrt x) = true) :
    Scalar.isFinite x = true ∧ 0 ≤ x.value := by
  rw [isFinite_eq_isProper] at finite
  rw [isFinite_eq_isProper]
  exact (isProper_sqrt (isProper_of_reread finite)).imp_right Rat.cast_nonneg.mpr

theorem Normal.value_eq {k : Int} (normal : Normal x m k) :
    Scalar.isFinite x = true ∧ x.value = m * 2 ^ k := by
  obtain ⟨-, -, positive, unpacked⟩ := normal
  rw [isFinite_eq_isProper, value, unpacked, unpackedValue_positive]
  push_cast
  exact ⟨rfl, rfl⟩

theorem ofNat_value (small : n < 2 ^ 24) :
    Scalar.isFinite (Scalar.ofNat n : Single) = true ∧ (Scalar.ofNat n : Single).value = n := by
  rcases Nat.eq_zero_or_pos n with rfl | positive
  · have zero : (Scalar.ofNat 0 : Single).value = ((0 : ℚ) : ℝ) := value_eq (by decide)
    rw [zero]
    exact ⟨by decide, by norm_num⟩
  · obtain ⟨m, k, normal, nearest, -⟩ := ofNat_rounds positive (by omega)
    have few : n.log2 ≤ 23 := Nat.lt_succ_iff.mp ((Nat.log2_lt positive.ne').mpr small)
    obtain ⟨low, high⟩ := scaled_bounds (Nat.log2_self_le positive.ne') Nat.lt_log2_self few
    have whole : (scaled n n.log2 * 2 ^ ((n.log2 : Int) - 23) : ℚ) = n := by
      rw [← scaled_ratio few, Nat.cast_one, div_one,
        div_mul_cancel₀ _ (zpow_ne_zero _ two_ne_zero)]
    rw [← whole] at nearest
    obtain ⟨rfl, exponent⟩ := nearest.of_full low high
    obtain ⟨finite, value⟩ := normal.value_eq
    refine ⟨finite, value.trans ?_⟩
    have cast := congrArg (Rat.cast : ℚ → ℝ) whole
    push_cast at cast
    rw [← exponent]
    exact cast

theorem ofScientific_roundsTo (positive : 0 < n) :
    RoundsTo (Float32.ofModel (Float32.Model.ofScientific n 0)) n := by
  have exact : Fits (n * 2 ^ 24 * 1) .exact ((n * 2 ^ 24 * 1 : Nat) : ℚ) := rfl
  have rounded := roundWithAccuracy_rounded .positive exact (e := -24 + 0) (by
    rw [Float.Model.totalExponent, targetExponent_eq, log2_widened positive]
    omega)
  have value : (((n * 2 ^ 24 * 1 : Nat) : ℚ) : ℝ) * 2 ^ (-24 + 0 : Int) = n := by
    have whole := congrArg (Rat.cast : ℚ → ℝ) (widened_value n)
    rwa [Rat.cast_mul, Rat.cast_zpow, Rat.cast_ofNat, Rat.cast_natCast n] at whole
  rw [value, positive_mul] at rounded
  exact ⟨_, rounded, ofScientific_eq positive⟩

/-- A whole number of any size is rounded when it is converted. -/
theorem ofNat_approximates (n : Nat) : Approximates (Scalar.ofNat n) n := by
  rcases Nat.lt_or_ge n (2 ^ 24) with small | large
  · obtain ⟨finite, value⟩ := ofNat_value small
    refine ⟨fun _ => ?_, fun _ => finite⟩
    rw [value, sub_self, abs_zero]
    exact units_nonneg n
  · have number : (Scalar.ofNat n : Single) = Float32.ofScientific n false 0 := rfl
    rw [number]
    unfold Float32.ofScientific
    split
    next fast => omega
    next => exact (ofScientific_roundsTo (by omega)).approximates

/-- Finite, and no further from zero than `b`. -/
def Within (x : Single) (b : ℝ) : Prop := Scalar.isFinite x = true ∧ |x.value| ≤ b

theorem Approximates.within {v b : ℝ} (approximates : Approximates x v) (size : |v| ≤ b)
    (bounded : b ≤ 1e38) : x.Within (1.001 * b + 1) := by
  have finite := approximates.bounded (size.trans (bounded.trans (by norm_num)))
  have near := approximates.near finite
  have triangle := abs_sub_abs_le_abs_sub x.value v
  have least := smallest_le
  rw [epsilon_eq] at near
  exact ⟨finite, by linarith [abs_nonneg v]⟩

theorem mul_within {a b : ℝ} (first : x.Within a) (second : y.Within b) (bounded : a * b ≤ 1e38) :
    (x * y).Within (1.001 * (a * b) + 1) := by
  apply (mul_approximates first.1 second.1).within _ bounded
  rw [abs_mul]
  exact mul_le_mul first.2 second.2 (abs_nonneg _) ((abs_nonneg _).trans first.2)

theorem sub_within {a b : ℝ} (first : x.Within a) (second : y.Within b) (bounded : a + b ≤ 1e38) :
    (x - y).Within (1.001 * (a + b) + 1) :=
  (sub_approximates first.1 second.1).within
    ((abs_sub _ _).trans (add_le_add first.2 second.2)) bounded

end RayScene.Single
