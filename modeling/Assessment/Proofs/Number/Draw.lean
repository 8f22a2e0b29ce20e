import Assessment.Evaluation.Basic
import Assessment.Proofs.Number.Finite

/-!
# Doubles drawn at random

A double is drawn from an interval by scaling a random fraction. The scale is about the width of the
interval, and goes down double by double as long as the greatest fraction would pass the upper end.
The first that is small enough is finite and not negative, and what is drawn with it is between the
two ends.

## Main results

- `RandomSource.within_bounded`: what is drawn is between the two ends, and finite.
- `isFinite_of_drawFloat`: a random double has a finite value.
-/

open Float.Model Float.Model.UnpackedFloat

namespace Assessment

open Double Rounding

namespace Double

variable {x y : Float}

theorem nearest_value (h : x.isFinite = true) : nearest (value x) = value x :=
  nearest_unpackedValue (fits_of x) h

/-- Finite doubles are whole numbers of the least positive one. -/
theorem exists_units (h : x.isFinite = true) : ∃ n : ℤ, value x = n * 2 ^ (-1074 : ℤ) := by
  have hfits := fits_of x
  rw [value]
  rcases zero_or_finite (show x.toModel.unpack.isFinite = true from h) with
    ⟨s, hunpack⟩ | ⟨s, m, e, hm, hunpack⟩
  · refine ⟨0, ?_⟩
    rw [hunpack, Int.cast_zero, zero_mul]
    rfl
  · rw [hunpack] at hfits ⊢
    refine ⟨s.apply (m * 2 ^ (e + 1074).toNat : ℕ), ?_⟩
    have hunits := two_zpow_eq_natCast_mul hfits.1.le
    rw [sub_neg_eq_add] at hunits
    show signed s (m * 2 ^ e) = _
    rw [hunits, signed_apply, Int.cast_natCast, Nat.cast_mul, ← mul_assoc]
    cases s
    · exact (neg_mul _ _).symm
    · rfl

/-- The least positive double. -/
def leastPositive : ℚ := 2 ^ (-1074 : ℤ)

theorem leastPositive_pos : 0 < leastPositive := two_zpow_pos _

theorem leastPositive_le_nearest {v : ℚ} (h : leastPositive ≤ v) : leastPositive ≤ nearest v := by
  have hself := @nearest_of_digits 1 (-1074) (by decide) (by decide) (by decide)
  rw [Nat.cast_one, one_mul] at hself
  calc leastPositive = nearest leastPositive := hself.symm
    _ ≤ nearest v := nearest_mono h

/-- Two finite doubles that are not equal are at least the least positive one apart. -/
theorem leastPositive_le_sub (hx : x.isFinite = true) (hy : y.isFinite = true)
    (h : value x < value y) : leastPositive ≤ value y - value x := by
  obtain ⟨m, hm⟩ := exists_units hx
  obtain ⟨n, hn⟩ := exists_units hy
  have hpos := leastPositive_pos
  rw [hm, hn] at h ⊢
  have hlt : m < n := by exact_mod_cast lt_of_mul_lt_mul_right h hpos.le
  have hone : (1 : ℚ) ≤ n - m := by exact_mod_cast (show 1 ≤ n - m by omega)
  rw [← sub_mul]
  exact le_mul_of_one_le_left hpos.le hone

end Double

namespace RandomSource

variable {least greatest : Float}

/-- The number that `greatestFraction` stands for. -/
def fractionBound : ℚ := (2 ^ 52 - 1 : ℕ) * 2 ^ (-52 : ℤ)

theorem unpack_greatestFraction : greatestFraction.toModel.unpack =
    .finite .positive 9007199254740990 (-53) (by decide) := by rfl

theorem hasValue_greatestFraction : HasValue greatestFraction fractionBound := by
  refine hasValue_of_unpack unpack_greatestFraction rfl ?_
  show ((9007199254740990 : ℕ) : ℚ) * 2 ^ (-53 : ℤ) = (2 ^ 52 - 1 : ℕ) * 2 ^ (-52 : ℤ)
  norm_num

theorem fractionBound_pos : 0 < fractionBound := mul_pos (by norm_num) (two_zpow_pos _)

theorem fractionBound_le_one : fractionBound ≤ 1 := by
  unfold fractionBound
  norm_num

/-- A scale with which no draw passes the end of the interval. -/
structure IsScale (least greatest scale : Float) : Prop where
  /-- The scale is finite. -/
  finite : scale.isFinite = true
  /-- It is not negative. -/
  nonneg : 0 ≤ value scale
  /-- The greatest draw does not pass the end. -/
  le : nearest (nearest (value scale * fractionBound) + value least) ≤ value greatest

/-- A number times a fraction is not greater. -/
theorem isFinite_mul_greatestFraction {scale : Float} (h : scale.isFinite = true)
    (hnonneg : 0 ≤ value scale) : (scale * greatestFraction).isFinite = true := by
  have hproduct := hasValue_mul (y := greatestFraction) h rfl
  rw [hasValue_greatestFraction.value] at hproduct
  rw [hproduct.isFinite_iff,
    abs_of_nonneg (nearest_nonneg (mul_nonneg hnonneg fractionBound_pos.le))]
  have hle : nearest (value scale * fractionBound) ≤ value scale := by
    refine (nearest_mono (mul_le_of_le_one_right hnonneg fractionBound_le_one)).trans_eq ?_
    exact nearest_value h
  exact hle.trans_lt (lt_of_abs_lt ((hasValue_of_isFinite h).isFinite_iff.1 h))

/-- An infinite scale passes the end. -/
theorem lt_of_infinite {scale : Float} (hleast : least.isFinite = true)
    (hgreatest : greatest.isFinite = true) (h : scale.toModel.unpack = .infinity .positive) :
    greatest < scale * greatestFraction + least := by
  have hproduct : (scale * greatestFraction).toModel.unpack = .infinity .positive := by
    show (ofUnpacked (UnpackedFloat.mul .binary64 scale.toModel.unpack
      greatestFraction.toModel.unpack)).toModel.unpack = _
    rw [h, unpack_greatestFraction]
    exact unpack_ofUnpacked (u := .infinity .positive) trivial
  have hsum : (scale * greatestFraction + least).toModel.unpack = .infinity .positive := by
    show (ofUnpacked (UnpackedFloat.add .binary64 (scale * greatestFraction).toModel.unpack
      least.toModel.unpack)).toModel.unpack = _
    rw [hproduct]
    rcases zero_or_finite (show least.toModel.unpack.isFinite = true from hleast) with
      ⟨s, hunpack⟩ | ⟨s, m, e, hm, hunpack⟩
    all_goals
      rw [hunpack]
      exact unpack_ofUnpacked (u := .infinity .positive) trivial
  have hvalue : HasValue (scale * greatestFraction + least) limit :=
    hasValue_of_unpack hsum rfl rfl
  have hbound := hasValue_of_isFinite hgreatest
  exact (hbound.lt_iff hvalue).2 (lt_of_abs_lt (hbound.isFinite_iff.1 hgreatest))

/-- A scale that is tried and not too great is one. -/
theorem isScale_of_not_lt {scale : Float} {v : ℚ} (hleast : least.isFinite = true)
    (hgreatest : greatest.isFinite = true) (hscale : HasValue scale v) (hnonneg : 0 ≤ v)
    (h : ¬greatest < scale * greatestFraction + least) : IsScale least greatest scale := by
  obtain ⟨hnumber, rfl⟩ := hscale
  have hfinite : scale.isFinite = true := by
    cases hunpack : scale.toModel.unpack with
    | notANumber => exact absurd hunpack hnumber
    | infinity s =>
      cases s
      · rw [value, hunpack] at hnonneg
        exact absurd hnonneg (not_le.2 (neg_neg_of_pos limit_pos))
      · exact absurd (lt_of_infinite hleast hgreatest hunpack) h
    | zero s =>
      show scale.toModel.unpack.isFinite = true
      rw [hunpack]
      rfl
    | finite s m e hm =>
      show scale.toModel.unpack.isFinite = true
      rw [hunpack]
      rfl
  have hproduct := hasValue_mul (y := greatestFraction) hfinite rfl
  have hsum := hasValue_add (isFinite_mul_greatestFraction hfinite hnonneg) hleast
  rw [hproduct.value, hasValue_greatestFraction.value] at hsum
  rw [(hasValue_of_isFinite hgreatest).lt_iff hsum, not_lt] at h
  exact ⟨hfinite, hnonneg, h⟩

/-- The search for a scale finds one. -/
theorem isScale_shrinkScale {bits : ℕ} (hleast : least.isFinite = true)
    (hgreatest : greatest.isFinite = true) (hle : value least ≤ value greatest)
    (h : bits ≤ infinityBits) : IsScale least greatest (shrinkScale least greatest bits) := by
  induction bits with
  | zero =>
    have hzero : value (Float.ofBits 0) = 0 := rfl
    rw [shrinkScale]
    refine ⟨rfl, hzero.ge, ?_⟩
    rw [hzero, zero_mul, nearest_zero, zero_add, nearest_value hleast]
    exact hle
  | succ bits ih =>
    rw [shrinkScale]
    split
    next => exact ih (by omega)
    next hlt =>
      have htoNat : (UInt64.ofNat (bits + 1)).toNat = bits + 1 := by
        unfold infinityBits at h
        exact UInt64.toNat_ofNat_of_lt (show bits + 1 < 2 ^ 64 by omega)
      obtain ⟨v, hnonneg, hvalue⟩ := hasValue_ofBits (UInt64.ofNat (bits + 1)) (by omega)
      exact isScale_of_not_lt hleast hgreatest hvalue hnonneg hlt

/-- The width of an interval is divided into positive bits. -/
theorem toBits_width_le (hleast : least.isFinite = true) (hgreatest : greatest.isFinite = true)
    (hwidth : (greatest - least).isFinite = true) (hlt : value least < value greatest) :
    ((greatest - least) / greatestFraction).toBits.toNat ≤ infinityBits := by
  have hdifference := hasValue_sub hgreatest hleast
  have hquotient := hasValue_div (y := greatestFraction) hwidth rfl
    (by rw [hasValue_greatestFraction.value]; exact fractionBound_pos.ne')
  rw [hdifference.value, hasValue_greatestFraction.value] at hquotient
  have hpos := leastPositive_le_nearest (leastPositive_le_sub hleast hgreatest hlt)
  have hgrown : nearest (value greatest - value least) ≤
      nearest (value greatest - value least) / fractionBound :=
    le_div_self (leastPositive_pos.le.trans hpos) fractionBound_pos fractionBound_le_one
  exact hquotient.toBits_le
    (leastPositive_pos.trans_le (leastPositive_le_nearest (hpos.trans hgrown)))

/-- A drawn fraction is not negative and at most the greatest one. -/
theorem fraction_bounded (word : UInt64) :
    (Float.ofBits ((word >>> 12) ||| 0x3FF0000000000000) - 1.0).isFinite = true ∧
      0 ≤ value (Float.ofBits ((word >>> 12) ||| 0x3FF0000000000000) - 1.0) ∧
      value (Float.ofBits ((word >>> 12) ||| 0x3FF0000000000000) - 1.0) ≤ fractionBound := by
  obtain ⟨k, hk, hbits⟩ : ∃ k < 2 ^ 52,
      ((word >>> 12) ||| 0x3FF0000000000000).toNat = 1023 * 2 ^ 52 + k := by
    refine ⟨word.toNat / 2 ^ 12, ?_, ?_⟩
    · have := word.toNat_lt
      omega
    · have hshort : word.toNat / 2 ^ 12 < 2 ^ 52 := by
        have := word.toNat_lt
        omega
      have hsum := Nat.shiftLeft_add_eq_or_of_lt hshort 1023
      rw [Nat.shiftLeft_eq] at hsum
      rw [hsum, Nat.or_comm]
      simp [Nat.shiftRight_eq_div_pow]
  have hone := hasValue_ofBits_one_add hk hbits
  set bits := (word >>> 12) ||| 0x3FF0000000000000
  have hnonneg : (0 : ℚ) ≤ k * 2 ^ (-52 : ℤ) := mul_nonneg (Nat.cast_nonneg k) (two_zpow_pos _).le
  have hfinite : (Float.ofBits bits).isFinite = true := by
    rw [hone.isFinite_iff, abs_of_nonneg (mul_nonneg (Nat.cast_nonneg _) (two_zpow_pos _).le)]
    exact digits_lt_limit (by omega) (by decide)
  have hdifference := hasValue_sub (y := 1.0) hfinite rfl
  have hfraction : ((2 ^ 52 + k : ℕ) : ℚ) * 2 ^ (-52 : ℤ) - 1 = k * 2 ^ (-52 : ℤ) := by
    rw [Nat.cast_add, add_mul, add_sub_right_comm]
    norm_num
  rw [hone.value, value_one, hfraction, nearest_of_digits (by omega) (by decide) (by decide)]
    at hdifference
  refine ⟨?_, ?_, ?_⟩
  · rw [hdifference.isFinite_iff, abs_of_nonneg hnonneg]
    exact digits_lt_limit (by omega) (by decide)
  · rw [hdifference.value]
    exact hnonneg
  · rw [hdifference.value]
    refine mul_le_mul_of_nonneg_right ?_ (two_zpow_pos _).le
    exact Nat.cast_le.2 (by omega)

/-- What is drawn from an interval is a finite double of the interval. -/
theorem within_bounded (source : RandomSource) (hleast : least.isFinite = true)
    (hgreatest : greatest.isFinite = true) (hwidth : (greatest - least).isFinite = true)
    (hlt : value least < value greatest) :
    (source.within least greatest).1.isFinite = true ∧
      value least ≤ value (source.within least greatest).1 ∧
        value (source.within least greatest).1 ≤ value greatest := by
  have hscale := isScale_shrinkScale hleast hgreatest hlt.le
    (toBits_width_le hleast hgreatest hwidth hlt)
  obtain ⟨hfraction, hfnonneg, hfle⟩ := fraction_bounded source.next.1
  set scale := shrinkScale least greatest ((greatest - least) / greatestFraction).toBits.toNat
  set fraction := Float.ofBits ((source.next.1 >>> 12) ||| 0x3FF0000000000000) - 1.0
  have hdraw : (source.within least greatest).1 = fraction * scale + least := rfl
  have hproduct := hasValue_mul hfraction hscale.finite
  have hproductnonneg : 0 ≤ value fraction * value scale := mul_nonneg hfnonneg hscale.nonneg
  -- A fraction of the scale is not greater than the greatest fraction of it.
  have hle : value fraction * value scale ≤ value scale * fractionBound := by
    rw [mul_comm]
    exact mul_le_mul_of_nonneg_left hfle hscale.nonneg
  have hfinite : (fraction * scale).isFinite = true := by
    have hgreater := isFinite_mul_greatestFraction hscale.finite hscale.nonneg
    have hgreatervalue := hasValue_mul (y := greatestFraction) hscale.finite rfl
    rw [hasValue_greatestFraction.value] at hgreatervalue
    rw [hgreatervalue.isFinite_iff] at hgreater
    rw [hproduct.isFinite_iff, abs_of_nonneg (nearest_nonneg hproductnonneg)]
    exact (nearest_mono hle).trans_lt (lt_of_abs_lt hgreater)
  have hsum := hasValue_add hfinite hleast
  rw [hproduct.value] at hsum
  have hlow : value least ≤ nearest (nearest (value fraction * value scale) + value least) := by
    refine (nearest_value hleast).symm.trans_le (nearest_mono ?_)
    exact le_add_of_nonneg_left (nearest_nonneg hproductnonneg)
  have hhigh : nearest (nearest (value fraction * value scale) + value least) ≤ value greatest :=
    (nearest_mono (add_le_add_left (nearest_mono hle) _)).trans hscale.le
  rw [hdraw, hsum.isFinite_iff, hsum.value]
  refine ⟨abs_lt.2 ⟨?_, ?_⟩, hlow, hhigh⟩
  · exact (abs_lt.1 ((hasValue_of_isFinite hleast).isFinite_iff.1 hleast)).1.trans_le hlow
  · exact hhigh.trans_lt (abs_lt.1 ((hasValue_of_isFinite hgreatest).isFinite_iff.1 hgreatest)).2

end RandomSource

/-- What is drawn from an interval is finite. -/
theorem isFinite_of_drawFloat {least greatest : Float} {source rest : RandomSource} {value : Value}
    (h : drawFloat least greatest source = .ok (value, rest)) :
    ∃ x, value = .float x ∧ x.isFinite = true := by
  unfold drawFloat at h
  split at h
  next => cases h
  next hproper =>
    obtain ⟨⟨hleast, hgreatest⟩, hnotlt⟩ : (least.isFinite = true ∧ greatest.isFinite = true) ∧
        ¬greatest < least := by
      simpa using hproper
    split at h
    next =>
      cases h
      exact ⟨least, rfl, hleast⟩
    next hne =>
      split at h
      next => cases h
      next hwidth =>
        cases h
        have hlow := hasValue_of_isFinite hleast
        have hhigh := hasValue_of_isFinite hgreatest
        rw [hhigh.lt_iff hlow, not_lt] at hnotlt
        have hdistinct : Double.value greatest ≠ Double.value least := fun heq =>
          hne ((hhigh.beq_iff hlow).2 heq)
        exact ⟨_, rfl, (RandomSource.within_bounded source hleast hgreatest (by simpa using hwidth)
          (lt_of_le_of_ne hnotlt hdistinct.symm)).1⟩

end Assessment
