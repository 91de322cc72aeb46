import RayScene.Proofs.Number.Binade
import RayScene.Proofs.Number.Literal

namespace RayScene

namespace Single

open Float.Model (Format UnpackedFloat)

def isProper : UnpackedFloat → Bool
  | .zero _ | .finite .. => true
  | .infinity _ | .notANumber => false

theorem isProper_iff_rank {u : UnpackedFloat} (number : u.isNaN = false) :
    isProper u = true ↔ rankOf (-2) 0 0 < unpackedRank u ∧ unpackedRank u < rankOf 2 0 0 := by
  rcases u with (_ | _) | _ | _ | ⟨(_ | _), m, e, _⟩
  case infinity.negative => exact iff_of_false Bool.false_ne_true fun both => both.1.false
  case infinity.positive => exact iff_of_false Bool.false_ne_true fun both => both.2.false
  case notANumber => cases number
  all_goals exact iff_of_true rfl ⟨rankOf_lt (by decide), rankOf_lt (by decide)⟩

theorem compare_nan {x : Single} (nan : x.toModel.unpack.isNaN = true) (y : Single) :
    x.toModel.compare y.toModel = none := by
  have unpacked : x.toModel.unpack = .notANumber := by
    cases same : x.toModel.unpack <;> rw [same] at nan <;> first | rfl | cases nan
  show UnpackedFloat.compare x.toModel.unpack _ = none
  rw [unpacked]
  rfl

theorem isFinite_eq_isProper (x : Single) : Scalar.isFinite x = isProper x.toModel.unpack := by
  have low : rank (-Scalar.infinity : Single) = rankOf (-2) 0 0 := by decide
  have high : rank (Scalar.infinity : Single) = rankOf 2 0 0 := by decide
  cases number : x.toModel.unpack.isNaN with
  | true =>
      have improper : isProper x.toModel.unpack = false := by
        cases same : x.toModel.unpack <;> rw [same] at number <;> first | rfl | cases number
      have above : ¬ x < Scalar.infinity := by
        intro less
        have ordered : (x.toModel.compare (Scalar.infinity : Single).toModel == some .lt) = true :=
          of_decide_eq_true less
        rw [compare_nan number] at ordered
        cases ordered
      rw [Scalar.isFinite, decide_eq_false above, Bool.and_false, improper]
  | false =>
      rw [Bool.eq_iff_iff, isProper_iff_rank number, Scalar.isFinite, Bool.and_eq_true,
        decide_eq_true_eq, decide_eq_true_eq, lt_iff_rank (by rfl) number,
        lt_iff_rank number infinity_isNaN, low, high]
      rfl

theorem unpackSign_eq_zero_iff (word : BitVec Format.binary32.numBits) :
    UnpackedFloat.unpackSign word = 0#1 ↔ word.toNat < 2 ^ 31 := by
  have bound : word.toNat < 2 ^ 32 := word.isLt
  rw [← BitVec.toNat_inj, UnpackedFloat.unpackSign, BitVec.toNat_cast, BitVec.extractLsb_toNat,
    Nat.shiftRight_eq_div_pow]
  show word.toNat / 2 ^ 31 % 2 = 0 ↔ _
  omega

theorem unpackExponent_toNat (word : BitVec Format.binary32.numBits) :
    (UnpackedFloat.unpackExponent word).toNat = word.toNat / 2 ^ 23 % 2 ^ 8 := by
  rw [UnpackedFloat.unpackExponent, BitVec.toNat_cast, BitVec.extractLsb_toNat,
    Nat.shiftRight_eq_div_pow]
  rfl

theorem unpackMantissa_toNat (word : BitVec Format.binary32.numBits) :
    (UnpackedFloat.unpackMantissa word).toNat = word.toNat % 2 ^ 23 := by
  rw [UnpackedFloat.unpackMantissa, BitVec.toNat_cast, BitVec.extractLsb_toNat,
    Nat.shiftRight_zero]
  rfl

theorem isProper_unpack (word : BitVec Format.binary32.numBits) :
    isProper (UnpackedFloat.unpack Format.binary32 word) = true ↔
      word.toNat / 2 ^ 23 % 2 ^ 8 ≠ 255 := by
  have full : UnpackedFloat.unpackExponent word =
      -1#(Format.binary32.exponentBits) ↔
      word.toNat / 2 ^ 23 % 2 ^ 8 = 255 := by
    rw [← BitVec.toNat_inj, unpackExponent_toNat]
    rfl
  rw [ne_eq, ← full]
  unfold UnpackedFloat.unpack
  dsimp only
  split
  next infinite =>
    have improper (u : UnpackedFloat) (same : isProper u = false) :
        isProper u = true ↔ ¬ UnpackedFloat.unpackExponent word = -1#8 := by
      rw [same]
      exact iff_of_false Bool.false_ne_true (not_not.mpr infinite)
    split <;> exact improper _ rfl
  next bounded =>
    split
    next => split <;> exact iff_of_true rfl bounded
    next => exact iff_of_true rfl bounded

theorem isFinite_iff_decode (x : Single) :
    Scalar.isFinite x = true ↔ ∃ negative m e, x.decode = .finite negative m e := by
  have stored : x.toModel.unpack = UnpackedFloat.unpack Format.binary32 x.toBits.toBitVec := rfl
  rw [isFinite_eq_isProper, stored, isProper_unpack]
  have word : x.toBits.toBitVec.toNat = x.toBits.toNat := rfl
  have bound : x.toBits.toNat < 2 ^ 32 := x.toBits.toNat_lt
  have infinite : BinaryFormat.single.infinityBits = 255 * 2 ^ 23 := infinityBits_single
  have sign : BinaryFormat.single.signBit = 2 ^ 31 := by decide
  rw [word]
  unfold decode BinaryFormat.decode
  dsimp only
  rw [sign, infinite]
  split
  next nan => exact iff_of_false (by omega) (by simp)
  next =>
    split
    next => exact iff_of_false (by omega) (by simp)
    next =>
      have below : x.toBits.toNat / 2 ^ 23 % 2 ^ 8 ≠ 255 := by omega
      split <;> exact iff_of_true below ⟨_, _, _, rfl⟩

theorem isFinite_of_beq_zero {x : Single} (same : (x == Scalar.zero) = true) :
    Scalar.isFinite x = true := by
  have zero : (Scalar.zero : Single).isNaN = false := by decide
  cases number : x.toModel.unpack.isNaN with
  | true =>
      have equal : (x.toModel.compare (Scalar.zero : Single).toModel == some .eq) = true := same
      rw [compare_nan number] at equal
      cases equal
  | false =>
      have low : rank (-Scalar.infinity : Single) < rank (Scalar.zero : Single) := by decide
      have high : rank (Scalar.zero : Single) < rank (Scalar.infinity : Single) := by decide
      rw [← (beq_iff_rank number zero).mp same] at low high
      rw [Scalar.isFinite, Bool.and_eq_true, decide_eq_true_eq, decide_eq_true_eq,
        lt_iff_rank (by rfl) number, lt_iff_rank number infinity_isNaN]
      exact ⟨low, high⟩

/-- What is stored without a sign is not below zero. -/
theorem unpackedRank_unpack {word : BitVec Format.binary32.numBits}
    (unsigned : word.toNat < 2 ^ 31) :
    rankOf 0 0 0 ≤ unpackedRank (UnpackedFloat.unpack Format.binary32 word) := by
  have sign := (unpackSign_eq_zero_iff word).mpr unsigned
  have above (e m : ℤ) {kind : ℤ} (more : 0 < kind) : rankOf 0 0 0 ≤ rankOf kind e m :=
    (rankOf_lt more).le
  unfold UnpackedFloat.unpack
  dsimp only
  rw [sign]
  split
  next =>
    split
    next => exact above _ _ (by decide)
    next => exact le_rfl
  next =>
    split
    next =>
      split
      next => exact le_rfl
      next => exact above _ _ (by decide)
    next => exact above _ _ (by decide)

theorem isNaN_eq_false {x : Single} (finite : Scalar.isFinite x = true) : x.isNaN = false := by
  rw [isFinite_eq_isProper] at finite
  show x.toModel.unpack.isNaN = false
  cases same : x.toModel.unpack <;> rw [same] at finite <;> first | rfl | cases finite

theorem IsMagnitude.nonneg {x : Single} (magnitude : x.IsMagnitude)
    (finite : Scalar.isFinite x = true) : Scalar.zero ≤ x := by
  obtain ⟨bits, small, rfl⟩ := magnitude
  have start : rank (Scalar.zero : Single) = rankOf 0 0 0 := by decide
  have stored := toBits_ofPattern small.le
  rw [infinityBits_single] at small
  rw [le_iff_rank (by decide) (isNaN_eq_false finite), start]
  exact unpackedRank_unpack (stored.trans_lt (by omega))

end Single

/-- What is written instead of digits. -/
def NumberStyle.words : List String := ["inf", "-inf", "NaN"]

theorem Numeral.chars_initial (n : Numeral) : ∃ c rest, n.chars = c :: rest ∧ c.isDigit = true := by
  obtain ⟨c, rest, whole⟩ := List.exists_cons_of_ne_nil n.nonempty
  have digit : c.isDigit = true := n.isDigit c (by simp [whole])
  exact ⟨c, rest ++ pointChars n.fraction ++ powerChars n.power, by simp [chars, whole], digit⟩

/-- A number is written with digits if, and only if, it is finite. -/
theorem Single.isFinite_iff_literal (x : Single) :
    Scalar.isFinite x = true ↔ x.literal ∉ NumberStyle.words := by
  rw [isFinite_iff_decode, Single.literal, Single.write]
  cases x.decode with
  | nan => simp [NumberStyle.write, NumberStyle.words]
  | infinite negative => cases negative <;> simp [NumberStyle.write, NumberStyle.words]
  | finite negative m e =>
      refine iff_of_true ⟨negative, m, e, rfl⟩ ?_
      obtain ⟨n, written, -⟩ := NumberStyle.literal_numeral
        (Shortest.digits .single m e).1 (Shortest.digits .single m e).2
      obtain ⟨c, rest, initial, digit⟩ := n.chars_initial
      have chars : (NumberStyle.literal.write .single (.finite negative m e)).toList =
          (if negative then ['-'] else []) ++ c :: rest := by
        rw [← initial, ← written]
        cases negative <;> simp [NumberStyle.write]
      intro member
      have word : (if negative then ['-'] else []) ++ c :: rest ∈
          NumberStyle.words.map String.toList := chars ▸ List.mem_map_of_mem member
      have letter : c = 'i' ∨ c = '-' ∨ c = 'N' := by
        cases negative <;> simp [NumberStyle.words] at word <;> tauto
      rcases letter with rfl | rfl | rfl <;> cases digit

end RayScene
