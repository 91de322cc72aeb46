import RayScene.Proofs.Number.Close

namespace RayScene.Single

open BinaryFormat
open Float.Model (Format UnpackedFloat)
open Float.Model.UnpackedFloat (Accuracy Sign)

structure Rounded (v : ℝ) (u : UnpackedFloat) : Prop where
  canonical : IsCanonical u
  proper : isProper u = true
  half : |(unpackedValue u : ℝ) - v| ≤ (epsilon * |v| + smallest) / 2
  above : ∀ w, IsCanonical w → (unpackedValue w : ℝ) ≤ v → (unpackedValue w : ℝ) ≤ unpackedValue u
  below : ∀ w, IsCanonical w → v ≤ unpackedValue w → (unpackedValue u : ℝ) ≤ unpackedValue w

variable {m n r : Nat} {e k : Int} {sign : Sign} {t v : ℝ} {x low high : Single}
  {u w : UnpackedFloat}

theorem units_nonneg (v : ℝ) : 0 ≤ (epsilon : ℝ) * |v| + smallest :=
  add_nonneg (mul_nonneg epsilon_pos.le (abs_nonneg v)) smallest_pos.le

theorem Rounded.close (rounded : Rounded v u) : Close v u :=
  ⟨rounded.canonical, rounded.proper,
    rounded.half.trans (half_le_self (units_nonneg v))⟩

theorem Rounded.refl (canonical : IsCanonical u) (proper : isProper u = true) :
    Rounded (unpackedValue u) u := by
  refine ⟨canonical, proper, ?_, fun _ _ => id, fun _ _ => id⟩
  rw [sub_self, abs_zero]
  exact div_nonneg (units_nonneg _) two_pos.le

theorem rounded_zero (sign : Sign) : Rounded 0 (.zero sign) := by
  have rounded : Rounded (unpackedValue (.zero sign)) (.zero sign) := .refl trivial rfl
  rwa [unpackedValue_zero, Rat.cast_zero] at rounded

theorem neg_value (u : UnpackedFloat) : unpackedValue u.neg = -unpackedValue u := by
  cases u with
  | finite sign m e positive =>
      cases sign with
      | negative =>
          rw [unpackedValue_negative, neg_neg]
          exact unpackedValue_positive
      | positive =>
          rw [unpackedValue_positive]
          exact unpackedValue_negative
  | _ => exact neg_zero.symm

theorem neg_isCanonical (canonical : IsCanonical u) : IsCanonical u.neg := by
  cases u <;> exact canonical

theorem neg_isProper (proper : isProper u = true) : isProper u.neg = true := by
  cases u <;> exact proper

theorem Rounded.neg (rounded : Rounded v u) : Rounded (-v) u.neg := by
  have opposite (w : UnpackedFloat) : ((unpackedValue w.neg : ℚ) : ℝ) = -unpackedValue w := by
    rw [neg_value, Rat.cast_neg]
  refine ⟨neg_isCanonical rounded.canonical, neg_isProper rounded.proper, ?_,
    fun w canonical order => ?_, fun w canonical order => ?_⟩
  · rw [opposite, neg_sub_neg, abs_sub_comm, abs_neg]
    exact rounded.half
  · have kept := rounded.below w.neg (neg_isCanonical canonical) (by rw [opposite]; linarith)
    rw [opposite] at kept ⊢
    linarith
  · have kept := rounded.above w.neg (neg_isCanonical canonical) (by rw [opposite]; linarith)
    rw [opposite] at kept ⊢
    linarith

/-- A number that can be stored is so many units, unless it is too small for a full significand. -/
theorem units_or_small (canonical : IsCanonical w) (k : Int) :
    (∃ z : ℤ, (unpackedValue w : ℝ) = z * 2 ^ k) ∨
      -149 < k ∧ |(unpackedValue w : ℝ)| < 2 ^ 23 * 2 ^ k := by
  cases w with
  | finite sign m e positive =>
      obtain ⟨least, bound, -⟩ := (canonical_iff m e).mp canonical
      rcases le_or_gt k e with within | finer
      · obtain ⟨places, rfl⟩ : ∃ places : Nat, e = k + places := ⟨(e - k).toNat, by omega⟩
        refine .inl ⟨sign.apply m * 2 ^ places, ?_⟩
        rw [unpackedValue, zpow_add₀ two_ne_zero, zpow_natCast]
        push_cast
        ring
      · have significand : (m : ℝ) < 2 ^ 24 := by exact_mod_cast bound
        have exponent : (2 : ℝ) ^ (e + 1) ≤ 2 ^ k := zpow_le_zpow_right₀ one_le_two finer
        have size : |((unpackedValue (.finite sign m e positive) : ℚ) : ℝ)| = m * 2 ^ e := by
          rw [← Rat.cast_abs, abs_unpackedValue]
          push_cast
          rfl
        refine .inr ⟨by omega, ?_⟩
        rw [size]
        calc (m : ℝ) * 2 ^ e < 2 ^ 24 * 2 ^ e :=
              mul_lt_mul_of_pos_right significand (zpow_pos two_pos e)
          _ = 2 ^ 23 * 2 ^ (e + 1) := by
              rw [zpow_add_one₀ two_ne_zero]
              ring
          _ ≤ 2 ^ 23 * 2 ^ k := by gcongr
  | _ => exact .inl ⟨0, by simp [unpackedValue]⟩

theorem value_units (x : Single) : ∃ z : ℤ, x.value = z * smallest := by
  rw [smallest_eq]
  rcases units_or_small (unpack_canonical x) (-149) with whole | ⟨above, -⟩
  · exact whole
  · exact absurd above (lt_irrefl _)

theorem whole_or_small (x : Single) : (∃ z : ℤ, x.value = z) ∨ |x.value| < 2 ^ 23 := by
  rcases units_or_small (unpack_canonical x) 0 with ⟨z, whole⟩ | ⟨-, small⟩
  · exact .inl ⟨z, by rw [value, whole, zpow_zero, mul_one]⟩
  · rw [zpow_zero, mul_one] at small
    exact .inr small

theorem settle_positive (bound : r ≤ 2 ^ 24) (least : -149 ≤ k) (full : k = -149 ∨ 2 ^ 23 ≤ t)
    (nearest : |(r : ℝ) - t| ≤ 1 / 2) : Rounded (t * 2 ^ k) (settle .positive r k) := by
  have unit : (0 : ℝ) < 2 ^ k := zpow_pos two_pos k
  obtain ⟨low, high⟩ := abs_le.mp nearest
  have many : k = -149 ∨ 2 ^ 23 ≤ r := by
    refine full.imp_right fun above => ?_
    have : ((2 ^ 23 : Nat) : ℝ) < r + 1 := by
      push_cast
      linarith
    exact Nat.lt_succ_iff.mp (by exact_mod_cast this)
  obtain ⟨canonical, proper, stands⟩ := settle_value .positive bound least many
  have stored : ((unpackedValue (settle .positive r k) : ℚ) : ℝ) = r * 2 ^ k := by
    rw [stands, Rat.cast_mul, Rat.cast_zpow, Rat.cast_ofNat]
    rfl
  refine ⟨canonical, proper, ?_, fun w canonical order => ?_, fun w canonical order => ?_⟩
  · rw [stored, ← sub_mul, abs_mul, abs_of_pos unit]
    calc |(r : ℝ) - t| * 2 ^ k ≤ 1 / 2 * 2 ^ k := mul_le_mul_of_nonneg_right nearest unit.le
      _ ≤ (epsilon * |t * 2 ^ k| + smallest) / 2 := by linarith [unit_le full]
  · rw [stored]
    rcases units_or_small canonical k with ⟨z, whole⟩ | ⟨above, small⟩
    · rw [whole] at order ⊢
      have before : (z : ℝ) < r + 1 := by linarith [le_of_mul_le_mul_right order unit]
      have : z ≤ r := Int.lt_add_one_iff.mp (by exact_mod_cast before)
      exact mul_le_mul_of_nonneg_right (by exact_mod_cast this) unit.le
    · have least : (2 : ℝ) ^ 23 ≤ r := by exact_mod_cast many.resolve_left above.ne'
      exact (le_abs_self _).trans
        (small.le.trans (mul_le_mul_of_nonneg_right least unit.le))
  · rw [stored]
    rcases units_or_small canonical k with ⟨z, whole⟩ | ⟨above, small⟩
    · rw [whole] at order ⊢
      have after : (r : ℝ) < z + 1 := by linarith [le_of_mul_le_mul_right order unit]
      have : (r : ℤ) ≤ z := Int.lt_add_one_iff.mp (by exact_mod_cast after)
      exact mul_le_mul_of_nonneg_right (by exact_mod_cast this) unit.le
    · have least := mul_le_mul_of_nonneg_right (full.resolve_left above.ne') unit.le
      linarith [le_abs_self ((unpackedValue w : ℚ) : ℝ)]

theorem settle_neg (m : Nat) (e : Int) : settle .negative m e = (settle .positive m e).neg := by
  unfold settle
  dsimp only
  split <;> rfl

theorem settle_rounded (sign : Sign) (bound : r ≤ 2 ^ 24) (least : -149 ≤ k)
    (full : k = -149 ∨ 2 ^ 23 ≤ t) (nearest : |(r : ℝ) - t| ≤ 1 / 2) :
    Rounded ((sign.apply 1 : ℤ) * (t * 2 ^ k)) (settle sign r k) := by
  have rounded := settle_positive bound least full nearest
  cases sign with
  | negative =>
      rw [negative_mul, settle_neg]
      exact rounded.neg
  | positive =>
      rw [positive_mul]
      exact rounded

/-- A number that was cut off, with enough bits left, is rounded to a neighbour. -/
theorem roundWithAccuracy_rounded (sign : Sign) {accuracy : Accuracy} {q : ℚ}
    (fits : Fits m accuracy q)
    (enough : e ≤ Format.binary32.targetExponent (Float.Model.totalExponent m e)) :
    Rounded ((sign.apply 1 : ℤ) * (q * 2 ^ e))
      (UnpackedFloat.roundWithAccuracy Format.binary32 sign m e accuracy) := by
  obtain ⟨k, places, r, dropped, least, rounded, -, -, bound, full, nearest⟩ :=
    roundWithAccuracy_settles sign accuracy enough
  have low : (m : ℝ) ≤ q := by exact_mod_cast fits.bounds.1
  have high : (q : ℝ) < m + 1 := by exact_mod_cast fits.bounds.2
  rw [rounded, zpow_dropped q dropped]
  exact settle_rounded sign bound least (cut_full full low high) (nearest q fits)

theorem round_rounded (sign : Sign) (some : m ≠ 0) (e : Int) :
    Rounded ((sign.apply 1 : ℤ) * (m * 2 ^ e)) (UnpackedFloat.round Format.binary32 sign m e) := by
  obtain ⟨places, amount⟩ : ∃ places : Nat, places = (e -
      Format.binary32.targetExponent (Float.Model.totalExponent m e)).toNat := ⟨_, rfl⟩
  have rounded : UnpackedFloat.round Format.binary32 sign m e =
      UnpackedFloat.roundWithAccuracy Format.binary32 sign (m <<< places) (e - places) .exact := by
    rw [amount]
    rfl
  have same : (((m <<< places : Nat) : ℚ) : ℝ) * 2 ^ (e - places) = m * 2 ^ e := by
    rw [Nat.shiftLeft_eq, zpow_sub₀ two_ne_zero, zpow_natCast]
    push_cast
    field_simp
  have exact : Fits (m <<< places) .exact (m <<< places : Nat) := rfl
  rw [rounded, ← same]
  apply roundWithAccuracy_rounded sign exact
  rw [Float.Model.totalExponent, targetExponent_eq] at amount ⊢
  rw [log2_shiftLeft some]
  omega

theorem normalize_rounded (z e : Int) (zeroSign : Sign) :
    Rounded (z * 2 ^ e) (UnpackedFloat.normalize Format.binary32 z e zeroSign) := by
  unfold UnpackedFloat.normalize
  rcases lt_trichotomy z 0 with negative | rfl | positive
  · rw [compare_lt_iff_lt.mpr negative]
    have rounded := round_rounded .negative (m := (-z).toNat) (by omega) e
    have cast : (((-z).toNat : Nat) : ℝ) = -z := by
      have whole : (((-z).toNat : Nat) : ℤ) = -z := Int.toNat_of_nonneg (by omega)
      exact_mod_cast whole
    rwa [negative_mul, cast, neg_mul, neg_neg] at rounded
  · rw [compare_eq_iff_eq.mpr rfl, Int.cast_zero, zero_mul]
    exact rounded_zero _
  · rw [compare_gt_iff_gt.mpr positive]
    have rounded := round_rounded .positive (m := z.toNat) (by omega) e
    have cast : ((z.toNat : Nat) : ℝ) = z := by
      have whole : ((z.toNat : Nat) : ℤ) = z := Int.toNat_of_nonneg (by omega)
      exact_mod_cast whole
    rwa [positive_mul, cast] at rounded

/-- Every number with few enough bits can be stored, if no exponent is too large. -/
theorem exists_canonical (small : n < 2 ^ 24) (least : -149 ≤ e) :
    ∃ w, IsCanonical w ∧ (unpackedValue w : ℝ) = n * 2 ^ e := by
  rcases Nat.eq_zero_or_pos n with rfl | positive
  · refine ⟨.zero .positive, trivial, ?_⟩
    rw [unpackedValue_zero, Rat.cast_zero, Nat.cast_zero, zero_mul]
  · -- the significand is moved to the left until it is full, or nothing is left of the exponent
    obtain ⟨places, moved⟩ : ∃ places : Nat, places = min (23 - n.log2) (e + 149).toNat := ⟨_, rfl⟩
    have few : n.log2 ≤ 23 := Nat.lt_succ_iff.mp ((Nat.log2_lt positive.ne').mpr small)
    obtain ⟨full, bound⟩ := scaled_bounds (Nat.log2_self_le positive.ne') Nat.lt_log2_self few
    rw [scaled] at full bound
    have below : n * 2 ^ places ≤ n * 2 ^ (23 - n.log2) :=
      Nat.mul_le_mul_left n (Nat.pow_le_pow_right two_pos (by omega))
    have some : 0 < n * 2 ^ places := Nat.mul_pos positive (Nat.two_pow_pos places)
    refine ⟨.finite .positive (n * 2 ^ places) (e - places) some,
      (canonical_iff _ _).mpr ⟨by omega, below.trans_lt bound, ?_⟩, ?_⟩
    · rcases le_total (23 - n.log2) (e + 149).toNat with all | rest
      · have same : places = 23 - n.log2 := by omega
        rw [same]
        exact .inr full
      · exact .inl (by omega)
    · rw [unpackedValue_positive, zpow_sub₀ two_ne_zero, zpow_natCast]
      push_cast
      field_simp

theorem Rounded.exact (rounded : Rounded (n * 2 ^ e) u) (small : n < 2 ^ 24) (least : -149 ≤ e) :
    (unpackedValue u : ℝ) = n * 2 ^ e := by
  obtain ⟨w, canonical, same⟩ := exists_canonical small least
  apply le_antisymm
  · rw [← same]
    exact rounded.below w canonical same.ge
  · rw [← same]
    exact rounded.above w canonical same.le

def RoundsTo (x : Single) (v : ℝ) : Prop :=
  ∃ u, Rounded v u ∧ x = Float32.ofModel (Float32.Model.pack u)

theorem RoundsTo.approximates (rounds : RoundsTo x v) : Approximates x v := by
  obtain ⟨u, rounded, result⟩ := rounds
  exact rounded.close.approximates result

theorem RoundsTo.rounded (rounds : RoundsTo x v) (finite : Scalar.isFinite x = true) :
    Rounded v x.toModel.unpack := by
  obtain ⟨u, rounded, result⟩ := rounds
  have canonical := unpack_canonical x
  rw [isFinite_eq_isProper] at finite
  rcases stored_cases rounded.canonical rounded.proper result with ⟨-, same⟩ | ⟨infinite, -⟩
  · rw [value] at same
    refine ⟨canonical, finite, ?_, ?_, ?_⟩ <;> rw [same]
    · exact rounded.half
    · exact rounded.above
    · exact rounded.below
  · rw [isFinite_eq_isProper, finite] at infinite
    cases infinite

theorem RoundsTo.half (rounds : RoundsTo x v) (finite : Scalar.isFinite x = true) :
    |x.value - v| ≤ (epsilon * |v| + smallest) / 2 :=
  (rounds.rounded finite).half

theorem RoundsTo.le_of_nonneg (rounds : RoundsTo x v) (finite : Scalar.isFinite x = true)
    (nonneg : 0 ≤ v) : x.value ≤ (1 + epsilon / 2) * v + smallest / 2 := by
  have half := (abs_le.mp (rounds.half finite)).2
  rw [abs_of_nonneg nonneg] at half
  linarith

/-- A number that is already stored is a bound of the result, if it is one of the exact result. -/
theorem RoundsTo.above (rounds : RoundsTo x v) (finite : Scalar.isFinite x = true)
    (least : low.value ≤ v) : low.value ≤ x.value :=
  (rounds.rounded finite).above _ (unpack_canonical low) least

theorem RoundsTo.below (rounds : RoundsTo x v) (finite : Scalar.isFinite x = true)
    (most : v ≤ high.value) : x.value ≤ high.value :=
  (rounds.rounded finite).below _ (unpack_canonical high) most

theorem RoundsTo.between (low high : Single) (rounds : RoundsTo x v) (least : low.value ≤ v)
    (most : v ≤ high.value) :
    Scalar.isFinite x = true ∧ low.value ≤ x.value ∧ x.value ≤ high.value := by
  suffices finite : Scalar.isFinite x = true from
    ⟨finite, rounds.above finite least, rounds.below finite most⟩
  obtain ⟨u, rounded, result⟩ := rounds
  have above : low.value ≤ unpackedValue u := rounded.above _ (unpack_canonical low) least
  have below : unpackedValue u ≤ high.value := rounded.below _ (unpack_canonical high) most
  have first := (abs_lt.mp (abs_value_lt low)).1
  have last := (abs_lt.mp (abs_value_lt high)).2
  exact (stored_of_bounded rounded.canonical rounded.proper result
    (abs_lt.mpr ⟨first.trans_le above, below.trans_lt last⟩)).1

theorem RoundsTo.exact (rounds : RoundsTo x (n * 2 ^ e)) (small : n < 2 ^ 24) (least : -149 ≤ e)
    (most : e ≤ 104) : Scalar.isFinite x = true ∧ x.value = n * 2 ^ e := by
  obtain ⟨u, rounded, result⟩ := rounds
  have same := rounded.exact small least
  have bounded : |(unpackedValue u : ℝ)| < 2 ^ 128 := by
    have bound := (Rat.cast_lt (K := ℝ)).mpr (stored_lt small most)
    push_cast at bound
    rwa [same, abs_of_nonneg (by positivity)]
  obtain ⟨finite, value⟩ := stored_of_bounded rounded.canonical rounded.proper result bounded
  exact ⟨finite, value.trans same⟩

end RayScene.Single
