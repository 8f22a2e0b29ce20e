import Assessment.Proofs.Number.Arithmetic

/-!
# Comparison of doubles

Doubles are compared as the numbers that they stand for, although it is exponents and mantissas that
are looked at. The bits of the positive ones count up with them.

## Main results

- `Double.HasValue.lt_iff` and `Double.HasValue.beq_iff`: how doubles are compared.
- `Double.hasValue_ofBits` and `Double.HasValue.toBits_le`: which bits are those of numbers that are
  not negative.
- `Double.hasValue_ofBits_one_add`: the bits of the numbers from one to two.
-/

open Float.Model Float.Model.UnpackedFloat

namespace Assessment.Double

open Rounding

variable {x y : Float}

/-! ### Comparison -/

/-- Of two doubles with one sign the one with the greater exponent is the greater one. -/
theorem lt_of_exponent_lt {m n : ℕ} {e d : ℤ} (hm : IsCanonical m e) (hn : IsCanonical n d)
    (h : e < d) : (m : ℚ) * 2 ^ e < n * 2 ^ d := by
  have hdigits : (m : ℚ) < 2 ^ (53 : ℤ) := by exact_mod_cast hm.lt
  have hfull : (2 : ℚ) ^ (52 : ℤ) ≤ n := by
    exact_mod_cast hn.full.resolve_right (by have := hm.le; omega)
  calc (m : ℚ) * 2 ^ e < 2 ^ (53 : ℤ) * 2 ^ e := mul_lt_mul_of_pos_right hdigits (two_zpow_pos e)
    _ = 2 ^ (53 + e) := (zpow_add₀ two_ne_zero _ _).symm
    _ ≤ 2 ^ (52 + d) := two_zpow_mono (by omega)
    _ = 2 ^ (52 : ℤ) * 2 ^ d := zpow_add₀ two_ne_zero _ _
    _ ≤ n * 2 ^ d := mul_le_mul_of_nonneg_right hfull (two_zpow_pos d).le

/-- Exponents are compared first, then mantissas. -/
theorem compare_mul_two_zpow {m n : ℕ} {e d : ℤ} (hm : IsCanonical m e) (hn : IsCanonical n d) :
    (compare e d).then (compare m n) = compare ((m : ℚ) * 2 ^ e) (n * 2 ^ d) := by
  obtain hlt | rfl | hgt := lt_trichotomy e d
  · rw [compare_lt_iff_lt.2 hlt, compare_lt_iff_lt.2 (lt_of_exponent_lt hm hn hlt)]
    rfl
  · rw [compare_eq_iff_eq.2 rfl]
    have hpos := two_zpow_pos e
    show compare m n = _
    obtain hlt | rfl | hgt := lt_trichotomy m n
    · rw [compare_lt_iff_lt.2 hlt, eq_comm, compare_lt_iff_lt]
      exact mul_lt_mul_of_pos_right (Nat.cast_lt.2 hlt) hpos
    · rw [compare_eq_iff_eq.2 rfl, compare_eq_iff_eq.2 rfl]
    · rw [compare_gt_iff_gt.2 hgt, eq_comm, compare_gt_iff_gt]
      exact mul_lt_mul_of_pos_right (Nat.cast_lt.2 hgt) hpos
  · rw [compare_gt_iff_gt.2 hgt, compare_gt_iff_gt.2 (lt_of_exponent_lt hn hm hgt)]
    rfl

theorem compare_neg_neg (x y : ℚ) : compare (-x) (-y) = (compare x y).swap := by
  obtain hlt | rfl | hgt := lt_trichotomy x y
  · rw [compare_lt_iff_lt.2 hlt, compare_gt_iff_gt.2 (neg_lt_neg hlt)]
    rfl
  · rw [compare_eq_iff_eq.2 rfl, compare_eq_iff_eq.2 rfl]
    rfl
  · rw [compare_gt_iff_gt.2 hgt, compare_lt_iff_lt.2 (neg_lt_neg hgt)]
    rfl

/-- Doubles are compared as the numbers that they stand for. -/
theorem unpackedCompare_eq {u v : UnpackedFloat} (hu : Fits u) (hv : Fits v)
    (hu' : u ≠ .notANumber) (hv' : v ≠ .notANumber) :
    UnpackedFloat.compare u v = some (compare (unpackedValue u) (unpackedValue v)) := by
  have hpositive {m : ℕ} (hm : 0 < m) (e : ℤ) : (0 : ℚ) < m * 2 ^ e :=
    mul_pos (Nat.cast_pos.2 hm) (two_zpow_pos e)
  -- The infinities are above and below all others.
  have hbelow {w : UnpackedFloat} (hw : Fits w) (h : w.isFinite = true) :
      compare limit (unpackedValue w) = .gt ∧ compare (unpackedValue w) limit = .lt :=
    have hlt := (abs_lt.1 (abs_value_lt hw h)).2
    ⟨compare_gt_iff_gt.2 hlt, compare_lt_iff_lt.2 hlt⟩
  have habove {w : UnpackedFloat} (hw : Fits w) (h : w.isFinite = true) :
      compare (-limit) (unpackedValue w) = .lt ∧ compare (unpackedValue w) (-limit) = .gt :=
    have hlt := (abs_lt.1 (abs_value_lt hw h)).1
    ⟨compare_lt_iff_lt.2 hlt, compare_gt_iff_gt.2 hlt⟩
  have hopposite : compare (-limit) limit = .lt ∧ compare limit (-limit) = .gt :=
    have hlt : -limit < limit := by linarith [limit_pos]
    ⟨compare_lt_iff_lt.2 hlt, compare_gt_iff_gt.2 hlt⟩
  have hsame (x : ℚ) : compare x x = .eq := compare_eq_iff_eq.2 rfl
  cases u with
  | notANumber => exact absurd rfl hu'
  | infinity s =>
    cases v with
    | notANumber => exact absurd rfl hv'
    | infinity t =>
      cases s <;> cases t
      · exact congrArg some (hsame _).symm
      · exact congrArg some hopposite.1.symm
      · exact congrArg some hopposite.2.symm
      · exact congrArg some (hsame _).symm
    | zero t =>
      cases s
      · exact congrArg some (habove hv rfl).1.symm
      · exact congrArg some (hbelow hv rfl).1.symm
    | finite t n d hn =>
      cases s
      · exact congrArg some (habove hv rfl).1.symm
      · exact congrArg some (hbelow hv rfl).1.symm
  | zero s =>
    cases v with
    | notANumber => exact absurd rfl hv'
    | infinity t =>
      cases t
      · exact congrArg some (habove hu rfl).2.symm
      · exact congrArg some (hbelow hu rfl).2.symm
    | zero t => exact congrArg some (hsame _).symm
    | finite t n d hn =>
      cases t
      · exact congrArg some (compare_gt_iff_gt.2 (neg_neg_of_pos (hpositive hn d))).symm
      · exact congrArg some (compare_lt_iff_lt.2 (hpositive hn d)).symm
  | finite s m e hm =>
    cases v with
    | notANumber => exact absurd rfl hv'
    | infinity t =>
      cases t
      · exact congrArg some (habove hu rfl).2.symm
      · exact congrArg some (hbelow hu rfl).2.symm
    | zero t =>
      cases s
      · exact congrArg some (compare_lt_iff_lt.2 (neg_neg_of_pos (hpositive hm e))).symm
      · exact congrArg some (compare_gt_iff_gt.2 (hpositive hm e)).symm
    | finite t n d hn =>
      have hcompare := compare_mul_two_zpow hu.1 hv.1
      cases s <;> cases t
      · show some ((compare e d).then (compare m n)).swap = some (compare (-_) (-_))
        rw [hcompare, compare_neg_neg]
      · exact congrArg some (compare_lt_iff_lt.2
          ((neg_neg_of_pos (hpositive hm e)).trans (hpositive hn d))).symm
      · exact congrArg some (compare_gt_iff_gt.2
          ((neg_neg_of_pos (hpositive hn d)).trans (hpositive hm e))).symm
      · exact congrArg some hcompare

theorem HasValue.compare_eq {v w : ℚ} (hx : HasValue x v) (hy : HasValue y w) :
    UnpackedFloat.compare x.toModel.unpack y.toModel.unpack = some (compare v w) := by
  obtain ⟨hx, rfl⟩ := hx
  obtain ⟨hy, rfl⟩ := hy
  exact unpackedCompare_eq (fits_of x) (fits_of y) hx hy

theorem HasValue.lt_iff {v w : ℚ} (hx : HasValue x v) (hy : HasValue y w) : x < y ↔ v < w := by
  show decide ((UnpackedFloat.compare x.toModel.unpack y.toModel.unpack == some .lt) = true) =
    true ↔ v < w
  rw [hx.compare_eq hy, decide_eq_true_iff, beq_iff_eq, Option.some_inj, compare_lt_iff_lt]

theorem HasValue.beq_iff {v w : ℚ} (hx : HasValue x v) (hy : HasValue y w) :
    (x == y) = true ↔ v = w := by
  show (UnpackedFloat.compare x.toModel.unpack y.toModel.unpack == some .eq) = true ↔ v = w
  rw [hx.compare_eq hy, beq_iff_eq, Option.some_inj, compare_eq_iff_eq]

/-! ### Bits -/

/-- The bits of the positive infinity. Those of greater numbers come after them. -/
def infinityBits : ℕ := 0x7FF0000000000000

theorem toNat_unpackMantissa (bits : BitVec 64) :
    (@unpackMantissa .binary64 bits).toNat = bits.toNat % 2 ^ 52 := by
  simp [unpackMantissa, BitVec.extractLsb_toNat]

theorem toNat_unpackExponent (bits : BitVec 64) :
    (@unpackExponent .binary64 bits).toNat = bits.toNat / 2 ^ 52 % 2 ^ 11 := by
  simp [unpackExponent, BitVec.extractLsb_toNat, Nat.shiftRight_eq_div_pow]

theorem toNat_unpackSign (bits : BitVec 64) :
    (@unpackSign .binary64 bits).toNat = bits.toNat / 2 ^ 63 := by
  have := bits.isLt
  simp [unpackSign, BitVec.extractLsb_toNat, Nat.shiftRight_eq_div_pow]
  omega

/-- Up to those of infinity, bits are those of numbers that are not negative. -/
theorem unpackedValue_nonneg {bits : BitVec 64} (h : bits.toNat ≤ infinityBits) :
    UnpackedFloat.unpack .binary64 bits ≠ .notANumber ∧
      0 ≤ unpackedValue (UnpackedFloat.unpack .binary64 bits) := by
  have hsign : @unpackSign .binary64 bits = 0#1 := by
    apply BitVec.eq_of_toNat_eq
    rw [toNat_unpackSign, BitVec.toNat_zero]
    unfold infinityBits at h
    omega
  have hexponent := toNat_unpackExponent bits
  have hmantissa := toNat_unpackMantissa bits
  rw [UnpackedFloat.unpack, hsign]
  dsimp only
  split
  next hgreatest =>
    -- Bits with the greatest exponent are not below those of infinity, and have no digits then.
    rw [hgreatest, show ((-1#11).toNat) = 2047 by rfl] at hexponent
    have hnone : @unpackMantissa .binary64 bits = 0#52 := by
      apply BitVec.eq_of_toNat_eq
      rw [hmantissa, BitVec.toNat_zero]
      unfold infinityBits at h
      omega
    rw [if_pos hnone]
    exact ⟨nofun, limit_pos.le⟩
  next =>
    split
    next =>
      split
      next => exact ⟨nofun, le_refl 0⟩
      next => exact ⟨nofun, mul_nonneg (Nat.cast_nonneg _) (two_zpow_pos _).le⟩
    next => exact ⟨nofun, mul_nonneg (Nat.cast_nonneg _) (two_zpow_pos _).le⟩

theorem hasValue_ofBits (bits : UInt64) (h : bits.toNat ≤ infinityBits) :
    ∃ v, 0 ≤ v ∧ HasValue (Float.ofBits bits) v := by
  have hunpack : (Float.ofBits bits).toModel.unpack =
      UnpackedFloat.unpack .binary64 bits.toBitVec := unpack_ofUnpacked (fits_unpack _)
  obtain ⟨hnumber, hnonneg⟩ := @unpackedValue_nonneg bits.toBitVec h
  refine ⟨_, hnonneg, ?_, ?_⟩
  · rw [hunpack]
    exact hnumber
  · rw [value, hunpack]

/-- The bits of a positive number do not come after those of infinity. -/
theorem HasValue.toBits_le {v : ℚ} (h : HasValue x v) (hpos : 0 < v) :
    x.toBits.toNat ≤ infinityBits := by
  obtain ⟨hnumber, rfl⟩ := h
  show x.toModel.toBits.toBitVec.toNat ≤ infinityBits
  have hvalue : 0 < unpackedValue (UnpackedFloat.unpack .binary64 x.toModel.toBits.toBitVec) := hpos
  replace hnumber : UnpackedFloat.unpack .binary64 x.toModel.toBits.toBitVec ≠ .notANumber :=
    hnumber
  generalize x.toModel.toBits.toBitVec = bits at hnumber hvalue
  have hexponent := toNat_unpackExponent bits
  have hmantissa := toNat_unpackMantissa bits
  have hsign := toNat_unpackSign bits
  have hlt := bits.isLt
  by_contra hgreat
  unfold infinityBits at hgreat
  by_cases hnegative : @unpackSign .binary64 bits = 0#1
  · -- Without a sign the exponent is the greatest one, and there are digits, so that it is no
    -- number.
    rw [hnegative, BitVec.toNat_zero] at hsign
    have hgreatest : @unpackExponent .binary64 bits = -1#11 := by
      apply BitVec.eq_of_toNat_eq
      rw [hexponent, show ((-1#11).toNat) = 2047 by rfl]
      omega
    have hdigits : @unpackMantissa .binary64 bits ≠ 0#52 := by
      intro hnone
      rw [hnone, BitVec.toNat_zero] at hmantissa
      rw [hgreatest, show ((-1#11).toNat) = 2047 by rfl] at hexponent
      omega
    refine hnumber ?_
    rw [UnpackedFloat.unpack]
    dsimp only
    rw [if_pos hgreatest, if_neg hdigits]
  · -- With a sign the number is not positive.
    have hsigned : Sign.ofBitVec (@unpackSign .binary64 bits) = .negative := if_neg hnegative
    refine absurd hvalue (not_lt.2 ?_)
    have hsize (m : ℕ) (e : ℤ) : -((m : ℚ) * 2 ^ e) ≤ 0 :=
      neg_nonpos.2 (mul_nonneg (Nat.cast_nonneg m) (two_zpow_pos e).le)
    rw [UnpackedFloat.unpack, hsigned]
    dsimp only
    split
    next =>
      split
      next => exact neg_nonpos.2 limit_pos.le
      next => exact le_refl 0
    next =>
      split
      next =>
        split
        next => exact le_refl 0
        next => exact hsize _ _
      next => exact hsize _ _

/-- The bits of the numbers from one to two count in units of the last digit. -/
theorem hasValue_ofBits_one_add {bits : UInt64} {k : ℕ} (hk : k < 2 ^ 52)
    (h : bits.toNat = 1023 * 2 ^ 52 + k) :
    HasValue (Float.ofBits bits) ((2 ^ 52 + k : ℕ) * 2 ^ (-52 : ℤ)) := by
  have hunpack : (Float.ofBits bits).toModel.unpack =
      UnpackedFloat.unpack .binary64 bits.toBitVec := unpack_ofUnpacked (fits_unpack _)
  have hexponent := toNat_unpackExponent bits.toBitVec
  have hmantissa := toNat_unpackMantissa bits.toBitVec
  have hsign := toNat_unpackSign bits.toBitVec
  rw [show bits.toBitVec.toNat = 1023 * 2 ^ 52 + k from h] at hexponent hmantissa hsign
  have hpositive : @unpackSign .binary64 bits.toBitVec = 0#1 := by
    apply BitVec.eq_of_toNat_eq
    rw [hsign, BitVec.toNat_zero]
    omega
  have hone : @unpackExponent .binary64 bits.toBitVec = 1023#11 := by
    apply BitVec.eq_of_toNat_eq
    rw [hexponent, show (1023#11).toNat = 1023 by rfl]
    omega
  have hnormal : UnpackedFloat.unpack .binary64 bits.toBitVec =
      .finite .positive (2 ^ 52 + k) (-52) (by omega) := by
    rw [UnpackedFloat.unpack, hone, hpositive]
    dsimp only
    rw [if_neg (by decide), if_neg (by decide)]
    congr 1
    rw [toNat_one_append, hmantissa]
    omega
  exact hasValue_of_unpack (hunpack.trans hnormal) rfl rfl

end Assessment.Double
