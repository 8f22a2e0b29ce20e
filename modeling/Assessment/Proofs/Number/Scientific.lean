import Assessment.Number.Reading
import Assessment.Proofs.Number.Finite

/-!
# Decimals as doubles

A decimal is turned into the double nearest to it, whatever its digits and its exponent are. Where
both are small enough this takes one operation on doubles that stand for them exactly, and otherwise
one on mantissas that are as long as they have to be. Decimals that are far beyond the range of
doubles are infinite or zero without any computation.

## Main results

- `Double.hasValue_ofScientific`: the digits and a power of ten that is not out of all range.
- `Double.hasValue_decimalFloat`: any digits and any power of ten.
-/

open Float.Model Float.Model.UnpackedFloat

namespace Assessment.Double

open Rounding

/-! ### Powers of ten -/

theorem ten_zpow_pos (e : ℤ) : (0 : ℚ) < 10 ^ e := zpow_pos (by norm_num) e

theorem ten_zpow_mono {a b : ℤ} (h : a ≤ b) : (10 : ℚ) ^ a ≤ 10 ^ b :=
  zpow_le_zpow_right₀ (by norm_num) h

theorem two_pow_le_ten_pow {j k : ℕ} (h : 28 * j ≤ 93 * k) : 2 ^ j ≤ 10 ^ k := by
  rw [← Nat.pow_le_pow_iff_left (show 28 ≠ 0 by decide)]
  calc (2 ^ j) ^ 28 = 2 ^ (28 * j) := by rw [← pow_mul, mul_comm]
    _ ≤ 2 ^ (93 * k) := Nat.pow_le_pow_right (by decide) h
    _ = (2 ^ 93) ^ k := pow_mul _ _ _
    _ ≤ (10 ^ 28) ^ k := Nat.pow_le_pow_left (by decide) k
    _ = (10 ^ k) ^ 28 := by rw [← pow_mul, ← pow_mul, mul_comm]

theorem ten_pow_le_two_pow {j k : ℕ} (h : 10 * k ≤ 3 * j) : 10 ^ k ≤ 2 ^ j := by
  rw [← Nat.pow_le_pow_iff_left (show 3 ≠ 0 by decide)]
  calc (10 ^ k) ^ 3 = (10 ^ 3) ^ k := by rw [← pow_mul, ← pow_mul, mul_comm]
    _ ≤ (2 ^ 10) ^ k := Nat.pow_le_pow_left (by decide) k
    _ = 2 ^ (10 * k) := (pow_mul _ _ _).symm
    _ ≤ 2 ^ (3 * j) := Nat.pow_le_pow_right (by decide) h
    _ = (2 ^ j) ^ 3 := by rw [← pow_mul, mul_comm]

/-- Powers of ten and of two compare about as the exponents do. The two ratios are a little greater
and a little less than the logarithm of ten. -/
theorem ten_zpow_le_two_zpow {j k : ℤ} (habove : 10 * k ≤ 3 * j) (hbelow : 93 * k ≤ 28 * j) :
    (10 : ℚ) ^ k ≤ 2 ^ j := by
  obtain ⟨n, rfl | rfl⟩ := k.eq_nat_or_neg
  · obtain ⟨i, rfl⟩ := Int.eq_ofNat_of_zero_le (show 0 ≤ j by omega)
    rw [zpow_natCast, zpow_natCast]
    exact_mod_cast ten_pow_le_two_pow (by omega)
  · obtain ⟨i, rfl | rfl⟩ := j.eq_nat_or_neg
    · rw [zpow_neg, zpow_natCast, zpow_natCast]
      exact (inv_le_one_of_one_le₀ (one_le_pow₀ (by norm_num))).trans (one_le_pow₀ (by norm_num))
    · rw [zpow_neg, zpow_neg, zpow_natCast, zpow_natCast]
      refine inv_anti₀ (by positivity) ?_
      exact_mod_cast two_pow_le_ten_pow (by omega)

/-- The powers of ten of which there is a list. -/
theorem nearest_ten_pow {e : ℕ} (he : e ≤ 22) : nearest (10 ^ e) = 10 ^ e := by
  have hdigits : 5 ^ e < 2 ^ 53 := (Nat.pow_le_pow_right (by decide) he).trans_lt (by decide)
  have hsplit : (10 : ℚ) ^ e = ((5 ^ e : ℕ) : ℚ) * 2 ^ (e : ℤ) := by
    rw [zpow_natCast, Nat.cast_pow, ← mul_pow]
    norm_num
  rw [hsplit]
  exact nearest_of_digits hdigits (by omega) (by omega)

theorem listedPower_eq : ∀ i : Fin Float.exactlyRepresentablePowersOfTen.size,
    Float.exactlyRepresentablePowersOfTen[i] = .ofModel (.ofInt (10 ^ i.val)) ∧
      Float.exactlyRepresentablePowersOfTen[i].isFinite = true := by
  decide +kernel

theorem hasValue_listedPower {e : ℕ} (h : e < Float.exactlyRepresentablePowersOfTen.size) :
    HasValue Float.exactlyRepresentablePowersOfTen[e] (10 ^ e) := by
  have hvalue := hasValue_ofInt (10 ^ e)
  rw [← (listedPower_eq ⟨e, h⟩).1, Int.cast_pow, Int.cast_ofNat,
    nearest_ten_pow (Nat.lt_succ_iff.1 h)] at hvalue
  exact hvalue

/-! ### Digits and a power of ten -/

/-- Few digits and a power of ten that is listed are doubles, and one operation rounds. -/
theorem hasValue_ofScientific_short {m e : ℕ} (hm : m < 2 ^ 53) (he : e ≤ 22) (negative : Bool) :
    HasValue (Float.ofScientific m negative e)
      (nearest (m * 10 ^ (if negative then -(e : ℤ) else e))) := by
  have hsize : e < Float.exactlyRepresentablePowersOfTen.size := Nat.lt_succ_iff.2 he
  have hpower := hasValue_listedPower hsize
  have hdigits : HasValue m.toUInt64.toFloat m := by
    have hvalue := hasValue_toFloat m.toUInt64
    have htoNat : m.toUInt64.toNat = m := UInt64.toNat_ofNat_of_lt (hm.trans (by decide))
    rwa [htoNat, nearest_natCast hm] at hvalue
  have hfinite : m.toUInt64.toFloat.isFinite = true := isFinite_toFloat _
  have hfinitePower : Float.exactlyRepresentablePowersOfTen[e].isFinite = true :=
    (listedPower_eq ⟨e, hsize⟩).2
  unfold Float.ofScientific
  rw [dif_pos ⟨hm, he⟩]
  cases negative with
  | true =>
    have hquotient := hasValue_div hfinite hfinitePower (by rw [hpower.value]; positivity)
    rw [hdigits.value, hpower.value] at hquotient
    simpa [div_eq_mul_inv] using hquotient
  | false =>
    have hproduct := hasValue_mul hfinite hfinitePower
    rw [hdigits.value, hpower.value] at hproduct
    simpa using hproduct

theorem ten_zpow_eq_natCast {e : ℤ} (h : 0 ≤ e) : (10 : ℚ) ^ e = ((10 ^ e.toNat : ℕ) : ℚ) := by
  rw [Nat.cast_pow, Nat.cast_ofNat, ← zpow_natCast, Int.toNat_of_nonneg h]

/-- Long digits are multiplied by a power of ten, and rounded once. -/
theorem hasValue_mulPower {n k : ℕ} (hn : 2 ^ 52 ≤ n) (hk : 0 < k) (d : ℤ) (hn' hk') :
    HasValue (ofUnpacked (UnpackedFloat.mul .binary64 (.finite .positive n d hn')
      (.finite .positive k 0 hk'))) (nearest (n * 2 ^ d * k)) := by
  have hlong : 52 ≤ (n * k).log2 :=
    (Nat.le_log2 (Nat.mul_pos hn' hk).ne').2 (hn.trans (Nat.le_mul_of_pos_right n hk))
  have hvalue := hasValue_mulDigits .positive .positive (e := d) (d := 0) (.inl hlong)
  rw [zpow_zero, mul_one] at hvalue
  exact hvalue

/-- In other cases mantissas of any length are multiplied or divided, and rounded once. -/
theorem hasValue_ofScientific_long {m : ℕ} (hm : 0 < m) {e : ℤ} (hle : e ≤ 2048)
    (hge : -(2048 + m.log2 : ℤ) ≤ e) :
    HasValue (.ofModel (.ofScientific m e)) (nearest (m * 10 ^ e)) := by
  show HasValue (ofUnpacked (UnpackedFloat.ofScientific .binary64 m e)) _
  rw [UnpackedFloat.ofScientific, dif_neg hm.ne', if_neg (show ¬e > 2 ^ 11 by omega),
    if_neg (show ¬e < -((2 ^ 11 : ℤ) + m.log2) by omega)]
  split
  next hnonneg =>
    -- The digits are made longer than a mantissa first.
    have hshift : 2 ^ 52 ≤ m <<< 53 := by
      rw [Nat.shiftLeft_eq]
      omega
    have hunit : ((2 ^ 53 : ℕ) : ℚ) * 2 ^ (-53 : ℤ) = 1 := by norm_num
    have hvalue : (m : ℚ) * (10 : ℚ) ^ e = ((m <<< 53 : ℕ) : ℚ) * 2 ^ (-53 : ℤ) *
        ((10 ^ e.toNat : ℕ) : ℚ) := by
      rw [← ten_zpow_eq_natCast hnonneg, Nat.shiftLeft_eq, Nat.cast_mul, mul_assoc (m : ℚ), hunit,
        mul_one]
    rw [hvalue]
    exact hasValue_mulPower hshift (Nat.pow_pos (by decide)) (-53) _ _
  next hneg =>
    have hpower : unpackedValue (.finite .positive (10 ^ (-e).toNat) 0 (Nat.pow_pos (by decide))) =
        (10 ^ e)⁻¹ := by
      show ((10 ^ (-e).toNat : ℕ) : ℚ) * 2 ^ (0 : ℤ) = _
      rw [← ten_zpow_eq_natCast (by omega), zpow_zero, mul_one, zpow_neg]
    have hdigits : unpackedValue (.finite .positive m 0 hm) = m := by
      show (m : ℚ) * 2 ^ (0 : ℤ) = m
      rw [zpow_zero, mul_one]
    have hvalue := hasValue_unpackedDiv (u := .finite .positive m 0 hm)
      (v := .finite .positive (10 ^ (-e).toNat) 0 (Nat.pow_pos (by decide))) rfl rfl
      (by rw [hpower]; exact inv_ne_zero (ten_zpow_pos e).ne')
    rw [hpower, hdigits, div_inv_eq_mul] at hvalue
    exact hvalue

/-- Digits and a power of ten that is not out of all range are turned into the nearest double. -/
theorem hasValue_ofScientific {m : ℕ} (hm : 0 < m) {e : ℤ} (hle : e ≤ 2048)
    (hge : -(2048 + m.log2 : ℤ) ≤ e) :
    HasValue (Float.ofScientific m (e < 0) e.natAbs) (nearest (m * 10 ^ e)) := by
  have hexponent : (if decide (e < 0) = true then -(e.natAbs : ℤ) else e.natAbs) = e := by
    split
    next hneg => rw [Int.ofNat_natAbs_of_nonpos (of_decide_eq_true hneg).le, neg_neg]
    next hneg => exact Int.natAbs_of_nonneg (by simpa using hneg)
  by_cases hshort : m < 2 ^ 53 ∧ e.natAbs ≤ 22
  · have hvalue := hasValue_ofScientific_short hshort.1 hshort.2 (e < 0)
    rwa [hexponent] at hvalue
  · have hmodel : Float.ofScientific m (e < 0) e.natAbs = .ofModel (.ofScientific m e) := by
      unfold Float.ofScientific
      rw [dif_neg hshort]
      exact congrArg (fun k => Float.ofModel (.ofScientific m k)) hexponent
    rw [hmodel]
    exact hasValue_ofScientific_long hm hle hge

/-! ### All decimals -/

theorem length_toString_le_iff {m k : ℕ} (hk : 0 < k) : (toString m).length ≤ k ↔ m < 10 ^ k :=
  Nat.length_repr_le_iff hk

theorem length_toString_pos (m : ℕ) : 0 < (toString m).length := Nat.length_repr_pos

theorem lt_ten_pow_length (m : ℕ) : m < 10 ^ (toString m).length :=
  (length_toString_le_iff (length_toString_pos m)).1 (le_refl _)

theorem ten_pow_length_le {m : ℕ} (hm : 0 < m) : 10 ^ ((toString m).length - 1) ≤ m := by
  by_cases hone : (toString m).length = 1
  · rw [hone]
    exact hm
  · have hpos := length_toString_pos m
    refine not_lt.1 fun hlt => ?_
    have hle := (length_toString_le_iff (by omega)).2 hlt
    omega

/-- There are no more decimal digits than binary ones. -/
theorem length_toString_le_log2 (m : ℕ) : (toString m).length ≤ m.log2 + 1 := by
  rw [length_toString_le_iff (Nat.succ_pos _)]
  exact m.lt_log2_self.trans_le (Nat.pow_le_pow_left (by decide) _)

/-- What reaches the limit is rounded to infinity. -/
theorem nearest_of_limit_le {x : ℚ} (h : limit ≤ x) : nearest x = limit := by
  have hpoint : onGrid limit = limit := by
    have hdigits := onGrid_of_digits (m := 1) (e := 1024) (by decide) (by decide)
    rwa [Nat.cast_one, one_mul] at hdigits
  have hmono := onGrid_mono limit_pos.le h
  rw [hpoint] at hmono
  rw [nearest_of_nonneg (limit_pos.le.trans h), min_eq_right hmono]

/-- What is less than half of the least positive double is rounded to zero. -/
theorem nearest_of_lt {x : ℚ} (hx : 0 < x) (h : x < 2 ^ (-1075 : ℤ)) : nearest x = 0 := by
  have hgrid : gridExponent x = -1074 :=
    le_antisymm (gridExponent_le_of_lt hx (le_refl _) (h.trans_le (two_zpow_mono (by decide))))
      (le_gridExponent x)
  have hhalf : x / 2 ^ (-1074 : ℤ) < ((0 : ℕ) : ℚ) + 1 / 2 := by
    rw [div_lt_iff₀ (two_zpow_pos _)]
    refine h.trans_eq ?_
    rw [Nat.cast_zero, zero_add, show (-1075 : ℤ) = -1 + -1074 by rfl, zpow_add₀ two_ne_zero]
    norm_num
  have hnone : onGrid x = 0 := by
    rw [onGrid, hgrid, Nat.le_zero.1 (nearestEven_le_of_lt_half hhalf), Nat.cast_zero, zero_mul]
  rw [nearest_of_nonneg hx.le, hnone, min_eq_left limit_pos.le]

/-- A decimal is turned into the double nearest to it. -/
theorem hasValue_decimalFloat {m : ℕ} (hm : 0 < m) (e : ℤ) :
    HasValue (decimalFloat m e) (nearest (m * 10 ^ e)) := by
  have hm' : (0 : ℚ) < m := Nat.cast_pos.2 hm
  have hpos : (0 : ℚ) < m * 10 ^ e := mul_pos hm' (ten_zpow_pos e)
  have hlength := length_toString_pos m
  have hlog := length_toString_le_log2 m
  unfold decimalFloat
  rw [if_neg hm.ne']
  dsimp only
  split_ifs with hgreat hsmall hneg
  · -- Even the first digit alone is beyond the limit.
    have hlimit : limit ≤ m * 10 ^ e := by
      have hdigits : (10 : ℚ) ^ ((toString m).length - 1 : ℕ) ≤ m := by
        exact_mod_cast ten_pow_length_le hm
      calc limit = 2 ^ (1024 : ℕ) := rfl
        _ ≤ 10 ^ (400 : ℕ) := by exact_mod_cast two_pow_le_ten_pow (by decide)
        _ ≤ 10 ^ (e + ((toString m).length - 1 : ℕ)) := ten_zpow_mono (a := 400) (by omega)
        _ = 10 ^ ((toString m).length - 1 : ℕ) * 10 ^ e := by
          rw [add_comm, zpow_add₀ (by norm_num), zpow_natCast]
        _ ≤ m * 10 ^ e := mul_le_mul_of_nonneg_right hdigits (ten_zpow_pos e).le
    rw [nearest_of_limit_le hlimit]
    exact hasValue_of_unpack (u := .infinity .positive) rfl rfl rfl
  · have hlt : (m : ℚ) * 10 ^ e < 2 ^ (-1075 : ℤ) := by
      have hdigits : (m : ℚ) < 10 ^ (toString m).length := by
        exact_mod_cast lt_ten_pow_length m
      calc (m : ℚ) * 10 ^ e < 10 ^ (toString m).length * 10 ^ e :=
            mul_lt_mul_of_pos_right hdigits (ten_zpow_pos e)
        _ = 10 ^ (e + (toString m).length) := by
          rw [add_comm, zpow_add₀ (by norm_num), zpow_natCast]
        _ ≤ 10 ^ (-400 : ℤ) := ten_zpow_mono (by omega)
        _ ≤ 2 ^ (-1075 : ℤ) := ten_zpow_le_two_zpow (by decide) (by decide)
    rw [nearest_of_lt hpos hlt]
    exact hasValue_of_unpack (u := .zero .positive) rfl rfl rfl
  · have hvalue := hasValue_ofScientific hm (e := e) (by omega) (by omega)
    rwa [decide_eq_true hneg] at hvalue
  · have hvalue := hasValue_ofScientific hm (e := e) (by omega) (by omega)
    rwa [decide_eq_false hneg] at hvalue

end Assessment.Double
