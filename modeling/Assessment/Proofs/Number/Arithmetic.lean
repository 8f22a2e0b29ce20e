import Assessment.Proofs.Number.Double

/-!
# Arithmetic on doubles

An operation on doubles that are not infinite gives the double nearest to the exact result.

## Main results

- `Double.hasValue_add`, `Double.hasValue_sub`, `Double.hasValue_mul` and `Double.hasValue_div`:
  what the operations give.
- `Double.hasValue_ofInt`: what a whole number is turned into.
- `Double.HasValue.isFinite_iff`: doubles are infinite from the limit on.
-/

open Float.Model Float.Model.UnpackedFloat

namespace Assessment.Double

open Rounding

/-! ### Sums -/

theorem hasValue_zero (s : Sign) : HasValue (ofUnpacked (.zero s)) 0 :=
  hasValue_of_unpack (unpack_ofUnpacked trivial) rfl rfl

/-- A double that is not infinite is what it is rounded to. -/
theorem hasValue_ofUnpacked {u : UnpackedFloat} (h : Fits u) (hfinite : u.isFinite = true) :
    HasValue (ofUnpacked u) (nearest (unpackedValue u)) := by
  have hunpack := unpack_ofUnpacked h
  refine ⟨?_, ?_⟩
  · rw [hunpack]
    rintro rfl
    cases hfinite
  · rw [value, hunpack, nearest_unpackedValue h hfinite]

@[simp]
theorem nearest_zero : nearest 0 = 0 := by
  exact_mod_cast nearest_natCast (by decide : 0 < 2 ^ 53)

/-- A whole number of units is packed into the double nearest to it. -/
theorem hasValue_normalize (n : ℤ) (e : ℤ) :
    HasValue (ofUnpacked (normalize .binary64 n e .positive)) (nearest (n * 2 ^ e)) := by
  obtain hn | rfl | hn := lt_trichotomy n 0
  · have hsize : (((-n).toNat : ℕ) : ℚ) = -n := by
      have : (((-n).toNat : ℕ) : ℤ) = -n := Int.toNat_of_nonneg (by omega)
      exact_mod_cast this
    have hrounded := isRounded_round .negative (show (-n).toNat ≠ 0 by omega) e
    have hpacked := hasValue_of_isRounded
      (mul_nonneg (Nat.cast_nonneg _) (two_zpow_pos e).le) hrounded
    rw [hsize] at hpacked
    have hnormalize : UnpackedFloat.normalize .binary64 n e .positive =
        UnpackedFloat.round .binary64 .negative (-n).toNat e := by
      rw [UnpackedFloat.normalize, Int.compare_eq_lt.2 hn]
    rw [hnormalize]
    convert hpacked using 2
    show _ = -(-(n : ℚ) * 2 ^ e)
    rw [neg_mul, neg_neg]
  · rw [Int.cast_zero, zero_mul, nearest_zero]
    exact hasValue_zero .positive
  · have hsize : ((n.toNat : ℕ) : ℚ) = n := by
      have : ((n.toNat : ℕ) : ℤ) = n := Int.toNat_of_nonneg hn.le
      exact_mod_cast this
    have hrounded := isRounded_round .positive (show n.toNat ≠ 0 by omega) e
    have hpacked := hasValue_of_isRounded
      (mul_nonneg (Nat.cast_nonneg _) (two_zpow_pos e).le) hrounded
    rw [hsize] at hpacked
    have hnormalize : UnpackedFloat.normalize .binary64 n e .positive =
        UnpackedFloat.round .binary64 .positive n.toNat e := by
      rw [UnpackedFloat.normalize, Int.compare_eq_gt.2 hn]
    rw [hnormalize]
    exact hpacked

/-- A mantissa is made longer without a change of the number. -/
theorem signed_decreaseExponent (s : Sign) (m : ℕ) {e t : ℤ} (h : t ≤ e) :
    ((s.apply (decreaseExponent m e t).1 : ℤ) : ℚ) * 2 ^ t = signed s (m * 2 ^ e) := by
  have hvalue : (((decreaseExponent m e t).1 : ℕ) : ℚ) * 2 ^ t = m * 2 ^ e := by
    show ((m <<< (e - t).toNat : ℕ) : ℚ) * 2 ^ t = m * 2 ^ e
    rw [Nat.shiftLeft_eq, two_zpow_eq_natCast_mul h, Nat.cast_mul, mul_assoc]
  rw [signed_apply, ← hvalue]
  cases s
  · exact neg_mul _ _
  · rfl

/-- What is not infinite is zero or has digits. -/
theorem zero_or_finite {u : UnpackedFloat} (h : u.isFinite = true) :
    (∃ s, u = .zero s) ∨ ∃ s m e hm, u = .finite s m e hm := by
  cases u with
  | notANumber => cases h
  | infinity s => cases h
  | zero s => exact .inl ⟨s, rfl⟩
  | finite s m e hm => exact .inr ⟨s, m, e, hm, rfl⟩

theorem hasValue_unpackedAdd {u v : UnpackedFloat} (hu : Fits u) (hv : Fits v)
    (hufinite : u.isFinite = true) (hvfinite : v.isFinite = true) :
    HasValue (ofUnpacked (UnpackedFloat.add .binary64 u v))
      (nearest (unpackedValue u + unpackedValue v)) := by
  rcases zero_or_finite hufinite with ⟨s, rfl⟩ | ⟨s, m, e, hm, rfl⟩ <;>
    rcases zero_or_finite hvfinite with ⟨t, rfl⟩ | ⟨t, n, d, hn, rfl⟩
  · show HasValue (ofUnpacked (if s == t then .zero s else .zero .positive)) (nearest (0 + 0))
    rw [add_zero, nearest_zero]
    split
    · exact hasValue_zero s
    · exact hasValue_zero .positive
  · show HasValue (ofUnpacked (.finite t n d hn)) (nearest (0 + _))
    rw [zero_add]
    exact hasValue_ofUnpacked hv rfl
  · show HasValue (ofUnpacked (.finite s m e hm)) (nearest (_ + 0))
    rw [add_zero]
    exact hasValue_ofUnpacked hu rfl
  · show HasValue (ofUnpacked (normalize .binary64 _ (min e d) .positive))
      (nearest (signed s (m * 2 ^ e) + signed t (n * 2 ^ d)))
    -- Both mantissas are brought to the lesser exponent.
    have hsum := hasValue_normalize (s.apply (decreaseExponent m e (min e d)).1 +
      t.apply (decreaseExponent n d (min e d)).1) (min e d)
    rw [Int.cast_add, add_mul, signed_decreaseExponent s m (min_le_left e d),
      signed_decreaseExponent t n (min_le_right e d)] at hsum
    exact hsum

theorem apply_neg_sign (s : Sign) (n : ℤ) : (-s).apply n = -s.apply n := by
  cases s
  · exact (neg_neg n).symm
  · rfl

theorem unpackedSub_eq (u v : UnpackedFloat) :
    UnpackedFloat.sub .binary64 u v = UnpackedFloat.add .binary64 u v.neg := by
  cases u <;> cases v <;> try rfl
  case finite.finite s m e hm t n d hn =>
    simp only [UnpackedFloat.sub, UnpackedFloat.add, UnpackedFloat.neg]
    rw [apply_neg_sign, sub_eq_add_neg]

theorem unpackedValue_neg (u : UnpackedFloat) : unpackedValue u.neg = -unpackedValue u := by
  cases u with
  | notANumber => exact neg_zero.symm
  | infinity s => exact signed_neg s limit
  | zero s => exact neg_zero.symm
  | finite s m e hm => exact signed_neg s (m * 2 ^ e)

theorem fits_neg {u : UnpackedFloat} (h : Fits u) : Fits u.neg := by
  cases u <;> exact h

/-! ### Products and quotients -/

/-- The product of mantissas that are not too short is packed into the double nearest to it. -/
theorem hasValue_mulDigits (s t : Sign) {m n : ℕ} {e d : ℤ}
    (hlong : 52 ≤ (m * n).log2 ∨ e + d ≤ -1074) :
    HasValue (ofUnpacked (roundWithAccuracy .binary64 (s * t) (m * n) (e + d) .exact))
      (nearest (signed s (m * 2 ^ e) * signed t (n * 2 ^ d))) := by
  have hproduct : ((m * n : ℕ) : ℚ) * 2 ^ (e + d) = (m * 2 ^ e) * (n * 2 ^ d) := by
    rw [zpow_add₀ two_ne_zero, Nat.cast_mul]
    ring
  have hrounded := isRounded_roundWithAccuracy (s * t) (approximates_exact (m * n)) hlong
  have hpacked := hasValue_of_isRounded
    (mul_nonneg (Nat.cast_nonneg _) (two_zpow_pos (e + d)).le) hrounded
  rwa [hproduct, signed_mul] at hpacked

theorem hasValue_unpackedMul {u v : UnpackedFloat} (hu : Fits u) (hv : Fits v)
    (hufinite : u.isFinite = true) (hvfinite : v.isFinite = true) :
    HasValue (ofUnpacked (UnpackedFloat.mul .binary64 u v))
      (nearest (unpackedValue u * unpackedValue v)) := by
  rcases zero_or_finite hufinite with ⟨s, rfl⟩ | ⟨s, m, e, hm, rfl⟩ <;>
    rcases zero_or_finite hvfinite with ⟨t, rfl⟩ | ⟨t, n, d, hn, rfl⟩
  · show HasValue (ofUnpacked (.zero (s * t))) (nearest (0 * 0))
    rw [zero_mul, nearest_zero]
    exact hasValue_zero _
  · show HasValue (ofUnpacked (.zero (s * t))) (nearest (0 * _))
    rw [zero_mul, nearest_zero]
    exact hasValue_zero _
  · show HasValue (ofUnpacked (.zero (s * t))) (nearest (_ * 0))
    rw [mul_zero, nearest_zero]
    exact hasValue_zero _
  · -- The product of two mantissas has at least the digits of each of them, and the exponent is
    -- less than the least one where both are short.
    refine hasValue_mulDigits s t ?_
    rcases hu.1.full with hfull | rfl
    · exact .inl ((Nat.le_log2 (Nat.mul_pos hm hn).ne').2
        (hfull.trans (Nat.le_mul_of_pos_right m hn)))
    rcases hv.1.full with hfull | rfl
    · exact .inl ((Nat.le_log2 (Nat.mul_pos hm hn).ne').2
        (hfull.trans (Nat.le_mul_of_pos_left n hm)))
    · exact .inr (by decide)

/-- Of a number between two mantissas it counts on which side of the middle it is. -/
theorem approximates_inexact (q : ℕ) {f : ℚ} (hpos : 0 < f) (hlt : f < 1) :
    Approximates (ExtendedMantissa.ofMantissaAndAccuracy q (.inexact (compare f (1 / 2))))
      (q + f) := by
  obtain hbelow | rfl | habove := lt_trichotomy f (1 / 2)
  · rw [compare_lt_iff_lt.2 hbelow]
    refine ⟨show (q : ℚ) ≤ q + f by linarith, show (q : ℚ) + f < q + 1 by linarith, ?_, ?_⟩
    · show false = true ↔ (q : ℚ) + 1 / 2 ≤ q + f
      simp only [Bool.false_eq_true, add_le_add_iff_left, not_le.2 hbelow]
    · show true = true ↔ (q : ℚ) + f ≠ q ∧ (q : ℚ) + f ≠ q + 1 / 2
      exact iff_of_true rfl ⟨fun heq => by linarith, fun heq => by linarith⟩
  · rw [compare_eq_iff_eq.2 rfl]
    refine ⟨show (q : ℚ) ≤ q + 1 / 2 by linarith, show (q : ℚ) + 1 / 2 < q + 1 by linarith, ?_, ?_⟩
    · exact iff_of_true rfl (le_refl _)
    · exact iff_of_false Bool.false_ne_true fun h => h.2 rfl
  · rw [compare_gt_iff_gt.2 habove]
    refine ⟨show (q : ℚ) ≤ q + f by linarith, show (q : ℚ) + f < q + 1 by linarith, ?_, ?_⟩
    · exact iff_of_true rfl (show (q : ℚ) + 1 / 2 ≤ q + f by linarith)
    · exact iff_of_true rfl ⟨show (q : ℚ) + f ≠ q from fun heq => by linarith,
        show (q : ℚ) + f ≠ q + 1 / 2 from fun heq => by linarith⟩

theorem compare_div_half (r : ℕ) {n : ℕ} (hn : 0 < n) :
    compare ((r : ℚ) / n) (1 / 2) = compare (2 * r) n := by
  have hn' : (0 : ℚ) < n := Nat.cast_pos.2 hn
  obtain hlt | heq | hgt := lt_trichotomy (2 * r) n
  · rw [compare_lt_iff_lt.2 hlt, compare_lt_iff_lt, div_lt_div_iff₀ hn' two_pos]
    rw [one_mul, mul_comm]
    exact_mod_cast hlt
  · rw [compare_eq_iff_eq.2 heq, compare_eq_iff_eq, div_eq_div_iff hn'.ne' two_ne_zero]
    rw [one_mul, mul_comm]
    exact_mod_cast heq
  · rw [compare_gt_iff_gt.2 hgt, compare_gt_iff_gt, div_lt_div_iff₀ two_pos hn']
    rw [one_mul, mul_comm]
    exact_mod_cast hgt

/-- What is left over after the division of whole numbers says where the quotient is. -/
theorem approximates_quotient (m : ℕ) {n : ℕ} (hn : 0 < n) :
    Approximates (ExtendedMantissa.ofMantissaAndAccuracy (m / n) (accuracyOfFraction (m % n) n))
      ((m : ℚ) / n) := by
  have hn' : (0 : ℚ) < n := Nat.cast_pos.2 hn
  have hrest : m % n < n := Nat.mod_lt m hn
  have hquotient : (m : ℚ) / n = (m / n : ℕ) + (m % n : ℕ) / n := by
    have hm : (m : ℚ) = n * (m / n : ℕ) + (m % n : ℕ) := by
      exact_mod_cast (Nat.div_add_mod m n).symm
    rw [hm, add_div, mul_div_cancel_left₀ _ hn'.ne']
  rw [hquotient]
  generalize m / n = q
  generalize m % n = r at hrest
  obtain rfl | hr := Nat.eq_zero_or_pos r
  · rw [Nat.cast_zero, zero_div, add_zero]
    exact approximates_exact q
  · rw [accuracyOfFraction, if_neg hr.ne', ← compare_div_half r hn]
    exact approximates_inexact q (div_pos (Nat.cast_pos.2 hr) hn')
      ((div_lt_one hn').2 (by exact_mod_cast hrest))

theorem hasValue_unpackedDiv {u v : UnpackedFloat} (hufinite : u.isFinite = true)
    (hvfinite : v.isFinite = true) (hne : unpackedValue v ≠ 0) :
    HasValue (ofUnpacked (UnpackedFloat.div .binary64 u v))
      (nearest (unpackedValue u / unpackedValue v)) := by
  rcases zero_or_finite hvfinite with ⟨t, rfl⟩ | ⟨t, n, d, hn, rfl⟩
  · exact absurd rfl hne
  rcases zero_or_finite hufinite with ⟨s, rfl⟩ | ⟨s, m, e, hm, rfl⟩
  · show HasValue (ofUnpacked (.zero (s / t))) (nearest (0 / _))
    rw [zero_div, nearest_zero]
    exact hasValue_zero _
  -- The dividend is made so long that the quotient gets all its digits.
  set target := min (e - d) (max (totalExponent m e - totalExponent n d - 53) (-1074)) with htarget
  have hdiv : UnpackedFloat.div .binary64 (.finite s m e hm) (.finite t n d hn) =
      roundWithAccuracy .binary64 (s / t) ((m <<< (e - d - target).toNat) / n) target
        (accuracyOfFraction ((m <<< (e - d - target).toNat) % n) n) := rfl
  set long := m <<< (e - d - target).toNat with hlong
  have hquotient : (long : ℚ) / n * 2 ^ target = (m * 2 ^ e) / (n * 2 ^ d) := by
    rw [mul_div_mul_comm, ← zpow_sub₀ two_ne_zero, two_zpow_eq_natCast_mul (min_le_left _ _ :
      target ≤ e - d), hlong, Nat.shiftLeft_eq, Nat.cast_mul]
    ring
  have hdigits : 52 ≤ (long / n).log2 ∨ target ≤ -1074 := by
    by_cases hleast : target ≤ -1074
    · exact .inr hleast
    have hlonger : 53 + n.log2 ≤ m.log2 + (e - d - target).toNat := by
      simp only [totalExponent] at htarget
      omega
    have hfull : 2 ^ 52 * n ≤ long :=
      calc 2 ^ 52 * n ≤ 2 ^ 52 * 2 ^ (n.log2 + 1) := Nat.mul_le_mul_left _ n.lt_log2_self.le
        _ = 2 ^ (53 + n.log2) := by
          rw [← pow_add]
          congr 1
          omega
        _ ≤ 2 ^ (m.log2 + (e - d - target).toNat) := Nat.pow_le_pow_right two_pos hlonger
        _ = 2 ^ m.log2 * 2 ^ (e - d - target).toNat := pow_add _ _ _
        _ ≤ m * 2 ^ (e - d - target).toNat := Nat.mul_le_mul_right _ (Nat.log2_self_le hm.ne')
        _ = long := (Nat.shiftLeft_eq _ _).symm
    have hquotient : 2 ^ 52 ≤ long / n := (Nat.le_div_iff_mul_le hn).2 hfull
    exact .inl ((Nat.le_log2 (by omega)).2 hquotient)
  have hrounded := isRounded_roundWithAccuracy (s / t) (approximates_quotient long hn) hdigits
  have hpacked := hasValue_of_isRounded (mul_nonneg
    (div_nonneg (Nat.cast_nonneg long) (Nat.cast_nonneg n)) (two_zpow_pos target).le) hrounded
  rw [hquotient, signed_div] at hpacked
  rw [hdiv]
  exact hpacked

/-! ### Operations -/

variable {x y : Float}

theorem fits_of (x : Float) : Fits x.toModel.unpack := fits_unpack _

theorem hasValue_add (hx : x.isFinite = true) (hy : y.isFinite = true) :
    HasValue (x + y) (nearest (value x + value y)) :=
  hasValue_unpackedAdd (fits_of x) (fits_of y) hx hy

theorem hasValue_sub (hx : x.isFinite = true) (hy : y.isFinite = true) :
    HasValue (x - y) (nearest (value x - value y)) := by
  have hfinite : y.toModel.unpack.neg.isFinite = true := by
    rw [← show y.toModel.unpack.isFinite = true from hy]
    cases y.toModel.unpack <;> rfl
  have hsum := hasValue_unpackedAdd (fits_of x) (fits_neg (fits_of y)) hx hfinite
  rw [← unpackedSub_eq, unpackedValue_neg, ← sub_eq_add_neg] at hsum
  exact hsum

theorem hasValue_mul (hx : x.isFinite = true) (hy : y.isFinite = true) :
    HasValue (x * y) (nearest (value x * value y)) :=
  hasValue_unpackedMul (fits_of x) (fits_of y) hx hy

theorem hasValue_div (hx : x.isFinite = true) (hy : y.isFinite = true) (hne : value y ≠ 0) :
    HasValue (x / y) (nearest (value x / value y)) :=
  hasValue_unpackedDiv hx hy hne

theorem hasValue_ofInt (n : ℤ) : HasValue (.ofModel (.ofInt n)) (nearest n) := by
  have h := hasValue_normalize n 0
  rw [zpow_zero, mul_one] at h
  exact h

theorem HasValue.neg {v : ℚ} (h : HasValue x v) : HasValue (-x) (-v) := by
  obtain ⟨hnumber, rfl⟩ := h
  have hunpack : (-x).toModel.unpack = x.toModel.unpack.neg :=
    unpack_ofUnpacked (fits_neg (fits_of x))
  refine ⟨?_, ?_⟩
  · rw [hunpack]
    revert hnumber
    cases x.toModel.unpack <;> nofun
  · show unpackedValue (-x).toModel.unpack = _
    rw [hunpack, unpackedValue_neg]
    rfl

/-- A double that is a number is finite if it is not as great as the limit. -/
theorem HasValue.isFinite_iff {v : ℚ} (h : HasValue x v) : x.isFinite = true ↔ |v| < limit := by
  obtain ⟨hnumber, rfl⟩ := h
  show x.toModel.unpack.isFinite = true ↔ |unpackedValue x.toModel.unpack| < limit
  have hfits := fits_of x
  generalize x.toModel.unpack = u at hnumber hfits
  refine ⟨abs_value_lt hfits, fun hlt => ?_⟩
  cases u with
  | notANumber => exact absurd rfl hnumber
  | infinity s =>
    refine absurd hlt (not_lt.2 ?_)
    show limit ≤ |signed s limit|
    rw [abs_signed, abs_of_pos limit_pos]
  | zero s => rfl
  | finite s m e hm => rfl

/-- A finite double is a number. -/
theorem hasValue_of_isFinite (h : x.isFinite = true) : HasValue x (value x) := by
  refine ⟨fun hnone => ?_, rfl⟩
  rw [show x.isFinite = x.toModel.unpack.isFinite by rfl, hnone] at h
  cases h

end Assessment.Double
