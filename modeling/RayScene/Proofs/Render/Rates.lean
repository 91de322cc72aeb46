import RayScene.Proofs.Number.Arithmetic
import RayScene.Render.Clock

namespace RayScene.Render

open Single

theorem error_le {x : Single} {v b : ℝ} (approximates : Approximates x v) (size : |v| ≤ b)
    (bounded : b ≤ 2 ^ 127) :
    Scalar.isFinite x = true ∧ |x.value - v| ≤ 1 / 8388608 * b + smallest := by
  have finite := approximates.bounded (size.trans bounded)
  have near := approximates.near finite
  rw [epsilon_eq] at near
  exact ⟨finite, by linarith⟩

namespace Duration

/-- The length in seconds, without rounding. -/
noncomputable def exact (d : Duration) : ℝ := (d.nanoseconds : ℝ) / second

theorem exact_eq (d : Duration) : d.exact = d.seconds + (d.subseconds : ℝ) / second := by
  have parts : second * d.seconds + d.subseconds = d.nanoseconds :=
    Nat.div_add_mod d.nanoseconds second
  have cast : (second : ℝ) * d.seconds + d.subseconds = d.nanoseconds := by exact_mod_cast parts
  have some : (second : ℝ) ≠ 0 := by norm_num [second]
  rw [exact, ← cast]
  field_simp

theorem second_value :
    Scalar.isFinite (Scalar.ofNat second : Single) = true ∧
      (Scalar.ofNat second : Single).value = 1e9 := by
  rw [value_eq (x := Scalar.ofNat second) (q := 1000000000) (by decide +kernel)]
  exact ⟨by decide +kernel, by norm_num⟩

structure Ordinary (d : Duration) : Prop where
  some : 0 < d.nanoseconds
  short : d.nanoseconds ≤ longest.nanoseconds

variable {d : Duration}

theorem second_eq : ((second : ℕ) : ℝ) = 1e9 := by
  norm_num [second]

theorem Ordinary.least (ordinary : d.Ordinary) : 1e-9 ≤ d.exact := by
  have whole : (1 : ℝ) ≤ d.nanoseconds := by exact_mod_cast ordinary.some
  rw [exact, second_eq, le_div_iff₀ (by norm_num)]
  linarith

theorem Ordinary.most (ordinary : d.Ordinary) : d.exact ≤ 2 ^ 64 := by
  have bound : d.nanoseconds ≤ 2 ^ 64 * second := by
    have short := ordinary.short
    have most : longest.nanoseconds = 2 ^ 64 * second - 1 := rfl
    omega
  have cast : (d.nanoseconds : ℝ) ≤ 2 ^ 64 * second := by exact_mod_cast bound
  rwa [exact, div_le_iff₀ (by norm_num [second])]

/-- What is behind the whole seconds is rounded twice, as a number and as a part of a second. -/
theorem subseconds_near (d : Duration) :
    Scalar.isFinite (Scalar.ofNat d.subseconds / Scalar.ofNat second : Single) = true ∧
      |(Scalar.ofNat d.subseconds / Scalar.ofNat second : Single).value - d.subseconds / 1e9| ≤
        1 / 4000000 * (d.subseconds / 1e9) + 2 * smallest := by
  obtain ⟨divisible, divisor⟩ := second_value
  have tiny := smallest_le
  have positive := smallest_pos
  have nonneg : (0 : ℝ) ≤ d.subseconds := Nat.cast_nonneg _
  have below : (d.subseconds : ℝ) ≤ 1e9 := by
    rw [← second_eq]
    exact_mod_cast (Nat.mod_lt d.nanoseconds (by decide : 0 < second)).le
  obtain ⟨finite, near⟩ := error_le (ofNat_approximates d.subseconds) (abs_of_nonneg nonneg).le
    (by linarith)
  obtain ⟨part, scaled⟩ : ∃ part : ℝ, (d.subseconds : ℝ) = 1e9 * part :=
    ⟨d.subseconds / 1e9, by field_simp⟩
  obtain ⟨rounded, moved⟩ : ∃ rounded, (Scalar.ofNat d.subseconds : Single).value = 1e9 * rounded :=
    ⟨(Scalar.ofNat d.subseconds : Single).value / 1e9, by field_simp⟩
  rw [scaled] at nonneg below
  rw [moved, scaled, abs_le] at near
  have approximates := div_approximates finite divisible (by rw [divisor]; norm_num)
  rw [divisor, moved, mul_div_cancel_left₀ rounded (by norm_num)] at approximates
  have size : |rounded| ≤ 1.001 * part + smallest := abs_le.mpr ⟨by linarith, by linarith⟩
  obtain ⟨divided, close⟩ := error_le approximates size (by linarith)
  refine ⟨divided, ?_⟩
  rw [scaled, mul_div_cancel_left₀ part (by norm_num)]
  rw [abs_le] at close ⊢
  exact ⟨by linarith, by linarith⟩

/-- Four roundings make four units of error at most. -/
theorem Ordinary.inSeconds_near (ordinary : d.Ordinary) :
    Scalar.isFinite (d.inSeconds : Single) = true ∧
      |(d.inSeconds : Single).value - d.exact| ≤ 4 * epsilon * d.exact := by
  have least := ordinary.least
  have most := ordinary.most
  have tiny := smallest_le
  have total := d.exact_eq
  rw [second_eq] at total
  have whole : (0 : ℝ) ≤ d.seconds := Nat.cast_nonneg _
  have part : (0 : ℝ) ≤ d.subseconds / 1e9 := by positivity
  obtain ⟨n_finite, n_near⟩ := error_le (ofNat_approximates d.seconds)
    (abs_of_nonneg whole).le (by linarith)
  obtain ⟨q_finite, q_near⟩ := d.subseconds_near
  rw [abs_le] at n_near q_near
  have size : |(Scalar.ofNat d.seconds : Single).value +
      (Scalar.ofNat d.subseconds / Scalar.ofNat second : Single).value| ≤ 1.001 * d.exact :=
    abs_le.mpr ⟨by linarith, by linarith⟩
  obtain ⟨finite, near⟩ := error_le (add_approximates n_finite q_finite) size (by linarith)
  refine ⟨finite, ?_⟩
  have same : (d.inSeconds : Single) =
    Scalar.ofNat d.seconds + Scalar.ofNat d.subseconds / Scalar.ofNat second := rfl
  rw [same]
  rw [abs_le] at near
  rw [epsilon_eq, abs_le]
  exact ⟨by linarith, by linarith⟩

theorem quotient_moved {n t exact : ℝ} (some : 0 ≤ n) (positive : 0 < exact)
    (near : |t - exact| ≤ 4 * epsilon * exact) :
    0 < t ∧ |n / t - n / exact| ≤ 5e-7 * (n / exact) := by
  rw [epsilon_eq, abs_le] at near
  have t_pos : 0 < t := by linarith
  have ratio : n / t - n / exact = (exact - t) / t * (n / exact) := by
    field_simp
  have part : |(exact - t) / t| ≤ 5e-7 := by
    rw [abs_div, abs_of_pos t_pos, div_le_iff₀ t_pos, abs_le]
    exact ⟨by linarith, by linarith⟩
  refine ⟨t_pos, ?_⟩
  rw [ratio, abs_mul, abs_of_nonneg (show 0 ≤ n / exact by positivity)]
  exact mul_le_mul_of_nonneg_right part (by positivity)

/-- So many frames in a length of time. -/
theorem Ordinary.quotient_near (ordinary : d.Ordinary) {n : Nat} (some : 0 < n) (few : n < 5) :
    Scalar.isPositive (Scalar.ofNat n / d.inSeconds : Single) = true ∧
      |(Scalar.ofNat n / d.inSeconds : Single).value - n / d.exact| ≤ 1e-6 * (n / d.exact) := by
  obtain ⟨span_finite, span_near⟩ := ordinary.inSeconds_near
  obtain ⟨n_finite, n_same⟩ := ofNat_value (show n < 2 ^ 24 by omega)
  have least := ordinary.least
  have most := ordinary.most
  have tiny := smallest_le
  have one : (1 : ℝ) ≤ n := by exact_mod_cast some
  have four : (n : ℝ) ≤ 4 := by exact_mod_cast Nat.le_of_lt_succ few
  have d_pos : 0 < d.exact := by linarith
  have rate_least : (1e-20 : ℝ) ≤ n / d.exact := by
    rw [le_div_iff₀ d_pos]
    linarith
  have rate_most : n / d.exact ≤ 1e10 := by
    rw [div_le_iff₀ d_pos]
    linarith
  -- first the quotient by the rounded time, then the rounding of it
  obtain ⟨t_pos, moved⟩ := quotient_moved (Nat.cast_nonneg n) d_pos span_near
  have approximates := div_approximates n_finite span_finite t_pos.ne'
  rw [n_same] at approximates
  generalize (d.inSeconds : Single).value = t at t_pos moved approximates
  rw [abs_le] at moved
  have size : |n / t| ≤ 1.001 * (n / d.exact) := abs_le.mpr ⟨by linarith, by linarith⟩
  obtain ⟨finite, near⟩ := error_le approximates size (by linarith)
  rw [abs_le] at near
  refine ⟨?_, abs_le.mpr ⟨by linarith, by linarith⟩⟩
  rw [Scalar.isPositive, finite, Bool.true_and, decide_eq_true_eq,
    lt_iff_value (by decide) finite, zero_value]
  linarith

theorem Ordinary.inSeconds_pos (ordinary : d.Ordinary) :
    ¬ (d.inSeconds : Single) ≤ Scalar.zero := by
  obtain ⟨finite, near⟩ := ordinary.inSeconds_near
  have least := ordinary.least
  rw [epsilon_eq, abs_le] at near
  rw [le_iff_value finite (by decide), zero_value]
  linarith

end Duration

theorem Duration.inSeconds_since {later earlier : Duration}
    (wrong : later.nanoseconds ≤ earlier.nanoseconds) :
    ((later.since earlier).inSeconds : Single) ≤ Scalar.zero := by
  rw [Duration.since, Nat.sub_eq_zero_of_le wrong]
  decide +kernel

inductive RateOf : List Duration → Option Single → Prop
  | few {times : List Duration} : times.length < 2 → RateOf times none
  | still {first last : Duration} {between : List Duration} :
    last.nanoseconds ≤ first.nanoseconds → RateOf (first :: (between ++ [last])) none
  | moving {first last : Duration} {between : List Duration} {rate : Single} :
    first.nanoseconds < last.nanoseconds →
    rate = Scalar.ofNat (between.length + 1) / (last.since first).inSeconds →
    Scalar.isPositive rate = true →
    |rate.value - (between.length + 1 : ℕ) / (last.since first).exact| ≤
      1e-6 * ((between.length + 1 : ℕ) / (last.since first).exact) →
    RateOf (first :: (between ++ [last])) (some rate)

namespace FrameTimes

variable {frames : FrameTimes}

theorem rate?_eq {first last : Duration} {between : List Duration}
    (times : frames.times = first :: (between ++ [last])) :
    (frames.rate? : Option Single) =
      if last.nanoseconds < first.nanoseconds ∨
        ((last.since first).inSeconds : Single) ≤ Scalar.zero then none
      else some (Scalar.ofNat (between.length + 1) / (last.since first).inSeconds) := by
  have count : frames.times.length - 1 = between.length + 1 := by
    rw [times]
    simp
  rw [rate?, count, times, List.head?_cons, ← List.cons_append, List.getLast?_concat]

theorem rateOf_rate? (few : frames.times.length ≤ window)
    (short : ∀ time ∈ frames.times, time.nanoseconds ≤ Duration.longest.nanoseconds) :
    RateOf frames.times frames.rate? := by
  rcases times : frames.times with _ | ⟨first, rest⟩
  · rw [rate?, times]
    exact .few Nat.zero_lt_two
  rcases List.eq_nil_or_concat' rest with rfl | ⟨between, last, rfl⟩
  · have none_yet : (frames.rate? : Option Single) = none := by
      rw [rate?, times]
      exact if_pos (.inr (Duration.inSeconds_since le_rfl))
    rw [none_yet]
    exact .few Nat.one_lt_two
  rw [times] at few short
  rw [rate?_eq times]
  rcases Nat.lt_or_ge first.nanoseconds last.nanoseconds with later | still
  · have ordinary : (last.since first).Ordinary :=
      ⟨Nat.sub_pos_of_lt later, Nat.le_trans (Nat.sub_le _ _) (short last (by simp))⟩
    rw [if_neg (not_or.mpr ⟨Nat.lt_asymm later, ordinary.inSeconds_pos⟩)]
    have count : between.length + 1 < 5 := by
      rw [List.length_cons, List.length_append, List.length_singleton, window] at few
      omega
    obtain ⟨positive, near⟩ := ordinary.quotient_near (Nat.succ_pos between.length) count
    exact .moving later rfl positive near
  · rw [if_pos (.inr (Duration.inSeconds_since still))]
    exact .still still

end FrameTimes
end RayScene.Render
