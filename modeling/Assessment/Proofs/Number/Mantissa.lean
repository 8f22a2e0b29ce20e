import Mathlib
import Assessment.Proofs.Number.Rounding

/-!
# Rounding mantissas

Arithmetic on doubles computes a mantissa that is too long, or one that stands for a number it does
not quite reach, and shifts it to the right until it fits. Two bits keep what gets lost: the last
digit that was shifted out, and whether there was anything behind it. They are all that is needed to
round to the nearest double in the end.

## Main definitions

- `Rounding.Approximates`: a mantissa and its two bits stand for a number.
- `Rounding.IsCanonical`: the mantissas and exponents of doubles, if these are not infinite.
- `Rounding.IsRounded`: the outcome of rounding a number.

## Main results

- `Rounding.isRounded_roundWithAccuracy`: an approximation of a number is rounded to the point of
  its grid nearest to the number.
- `Rounding.isRounded_round`: so are mantissas of any length.
-/

open Float.Model Float.Model.UnpackedFloat

namespace Assessment.Rounding

/-! ### Approximations -/

/-- A mantissa with its two bits stands for a number between it and the next greater one. -/
structure Approximates (em : ExtendedMantissa) (x : ℚ) : Prop where
  /-- The number is not below the mantissa. -/
  le : em.mantissa ≤ x
  /-- The number is below the next greater mantissa. -/
  lt : x < em.mantissa + 1
  /-- The first bit says whether the number is in the upper half. -/
  round : em.roundBit = true ↔ em.mantissa + 1 / 2 ≤ x
  /-- The second bit says whether the number is none of the two that the first bit leaves open. -/
  sticky : em.stickyBit = true ↔ x ≠ em.mantissa ∧ x ≠ em.mantissa + 1 / 2

/-- A mantissa stands for a number exactly. -/
theorem approximates_exact (m : ℕ) :
    Approximates (ExtendedMantissa.ofMantissaAndAccuracy m .exact) m := by
  refine ⟨le_refl _, lt_add_one _, ?_, ?_⟩ <;> simp [ExtendedMantissa.ofMantissaAndAccuracy]

namespace Approximates

variable {em : ExtendedMantissa} {x : ℚ}

theorem nonneg (h : Approximates em x) : 0 ≤ x := (Nat.cast_nonneg _).trans h.le

/-- The two bits suffice to round the number. -/
theorem roundedMantissa (h : Approximates em x) : em.roundedMantissa = nearestEven x := by
  have hfloor : ⌊x⌋₊ = em.mantissa := (Nat.floor_eq_iff h.nonneg).2 ⟨h.le, h.lt⟩
  rcases em with ⟨m, round, sticky⟩
  rcases h with ⟨-, -, hround, hsticky⟩
  rw [nearestEven, hfloor]
  dsimp only at hround hsticky ⊢
  -- The first bit tells the number from the middle between the two mantissas.
  cases round with
  | false =>
    have hlow : x < m + 1 / 2 := not_le.1 fun hle => Bool.false_ne_true (hround.2 hle)
    rw [if_pos hlow]
    cases sticky <;> rfl
  | true =>
    have hhigh : (m : ℚ) + 1 / 2 ≤ x := hround.1 rfl
    rw [if_neg (not_lt.2 hhigh)]
    cases sticky with
    | false =>
      have hmiddle : x = m + 1 / 2 := by
        by_contra hne
        exact Bool.false_ne_true (hsticky.2 ⟨fun heq => by linarith, hne⟩)
      rw [if_pos hmiddle]
      rfl
    | true =>
      rw [if_neg (hsticky.1 rfl).2]
      rfl

/-- Shifting a mantissa to the right by one halves the number. -/
theorem shiftRightOne (h : Approximates em x) : Approximates em.shiftRightOne (x / 2) := by
  rcases em with ⟨m, round, sticky⟩
  rcases h with ⟨hle, hlt, hround, hsticky⟩
  dsimp only at hle hlt hround hsticky
  have hm : (m : ℚ) = 2 * (m / 2 : ℕ) + (m % 2 : ℕ) := by exact_mod_cast (Nat.div_add_mod m 2).symm
  -- Together the bits say whether the mantissa falls short of the number.
  have hinexact : (round || sticky) = true ↔ x ≠ m := by
    rw [Bool.or_eq_true, hround, hsticky]
    constructor
    · rintro (hhigh | ⟨hne, -⟩)
      · exact fun heq => by linarith
      · exact hne
    · intro hne
      by_cases hhigh : (m : ℚ) + 1 / 2 ≤ x
      · exact .inl hhigh
      · exact .inr ⟨hne, fun heq => hhigh heq.ge⟩
  -- The digit that is shifted out is the last one of the mantissa.
  rcases Nat.mod_two_eq_zero_or_one m with hdigit | hdigit
  · rw [hdigit, Nat.cast_zero, add_zero] at hm
    refine ⟨show ((m / 2 : ℕ) : ℚ) ≤ x / 2 by linarith,
      show x / 2 < ((m / 2 : ℕ) : ℚ) + 1 by linarith, ?_, hinexact.trans ?_⟩
    · show (m % 2 != 0) = true ↔ ((m / 2 : ℕ) : ℚ) + 1 / 2 ≤ x / 2
      simp only [hdigit, bne_self_eq_false, Bool.false_eq_true, false_iff, not_le]
      linarith
    · show x ≠ m ↔ x / 2 ≠ ((m / 2 : ℕ) : ℚ) ∧ x / 2 ≠ ((m / 2 : ℕ) : ℚ) + 1 / 2
      exact ⟨fun hne => ⟨fun heq => hne (by linarith), fun heq => by linarith⟩,
        fun hne heq => hne.1 (by linarith)⟩
  · rw [hdigit, Nat.cast_one] at hm
    refine ⟨show ((m / 2 : ℕ) : ℚ) ≤ x / 2 by linarith,
      show x / 2 < ((m / 2 : ℕ) : ℚ) + 1 by linarith, ?_, hinexact.trans ?_⟩
    · show (m % 2 != 0) = true ↔ ((m / 2 : ℕ) : ℚ) + 1 / 2 ≤ x / 2
      simp only [hdigit, bne_iff_ne, ne_eq, one_ne_zero, not_false_eq_true, true_iff]
      linarith
    · show x ≠ m ↔ x / 2 ≠ ((m / 2 : ℕ) : ℚ) ∧ x / 2 ≠ ((m / 2 : ℕ) : ℚ) + 1 / 2
      exact ⟨fun hne => ⟨fun heq => by linarith, fun heq => hne (by linarith)⟩,
        fun hne heq => hne.2 (by linarith)⟩

theorem shiftRight (h : Approximates em x) (n : ℕ) : Approximates (em >>> n) (x / 2 ^ n) := by
  induction n with
  | zero =>
    show Approximates em (x / 2 ^ 0)
    rw [pow_zero, div_one]
    exact h
  | succ n ih =>
    show Approximates (em >>> n).shiftRightOne (x / 2 ^ (n + 1))
    rw [pow_succ, ← div_div]
    exact ih.shiftRightOne

end Approximates

/-! ### Shifting -/

/-- The exponent that a mantissa is shifted to. -/
theorem targetExponent_eq (m : ℕ) (e : ℤ) :
    Format.binary64.targetExponent (totalExponent m e) = max (m.log2 + e - 52) (-1074) := by
  simp only [Format.targetExponent, totalExponent, Format.mantissaBits, Format.minExponent]
  norm_num
  omega

/-- The exponent that a mantissa is shifted to is that of the grid of the number that it stands for,
if the mantissa is not too short. -/
theorem gridExponent_of_approximates {em : ExtendedMantissa} {x : ℚ} {e : ℤ}
    (h : Approximates em x) (hx : 0 < x) (hlong : 52 ≤ em.mantissa.log2 ∨ e ≤ -1074) :
    gridExponent (x * 2 ^ e) = max (em.mantissa.log2 + e - 52) (-1074) := by
  set t := max (em.mantissa.log2 + e - 52) (-1074) with ht
  apply le_antisymm
  · refine gridExponent_le_of_lt (mul_pos hx (two_zpow_pos e)) (le_max_right _ _) ?_
    have hdigits : x < 2 ^ (em.mantissa.log2 + 1 : ℤ) := by
      refine h.lt.trans_le ?_
      exact_mod_cast Nat.succ_le_of_lt em.mantissa.lt_log2_self
    calc x * 2 ^ e < 2 ^ (em.mantissa.log2 + 1 : ℤ) * 2 ^ e :=
          mul_lt_mul_of_pos_right hdigits (two_zpow_pos e)
      _ = 2 ^ (em.mantissa.log2 + 1 + e : ℤ) := (zpow_add₀ two_ne_zero _ _).symm
      _ ≤ 2 ^ (t + 53) := two_zpow_mono (by omega)
  · by_cases hfinest : t = -1074
    · rw [hfinest]
      exact le_gridExponent _
    -- On a coarser grid the first digit of the mantissa is not missing.
    have hne : em.mantissa ≠ 0 := by
      intro hzero
      rw [hzero, Nat.log2_zero] at ht hlong
      omega
    refine le_gridExponent_of_le ?_
    have hdigit : (2 : ℚ) ^ (em.mantissa.log2 : ℤ) ≤ x := by
      refine le_trans ?_ h.le
      exact_mod_cast Nat.log2_self_le hne
    calc (2 : ℚ) ^ (t + 52) = 2 ^ (em.mantissa.log2 + e : ℤ) := by congr 1; omega
      _ = 2 ^ (em.mantissa.log2 : ℤ) * 2 ^ e := zpow_add₀ two_ne_zero _ _
      _ ≤ x * 2 ^ e := mul_le_mul_of_nonneg_right hdigit (two_zpow_pos e).le

/-! ### Rounding -/

/-- A mantissa has at most 53 digits, and all of them unless the exponent is the least one. -/
structure IsCanonical (m : ℕ) (e : ℤ) : Prop where
  /-- There are at most 53 digits. -/
  lt : m < 2 ^ 53
  /-- The exponent is not below the least one. -/
  le : -1074 ≤ e
  /-- Digits are missing only with the least exponent. -/
  full : 2 ^ 52 ≤ m ∨ e = -1074

/-- The outcome of rounding a number that is not negative, with a sign. -/
inductive IsRounded (s : Sign) (x : ℚ) : UnpackedFloat → Prop where
  /-- The number is rounded to zero. -/
  | zero : onGrid x = 0 → IsRounded s x (.zero s)
  /-- The number is rounded to another point of its grid. -/
  | finite {m : ℕ} {e : ℤ} {hm : 0 < m} :
      IsCanonical m e → onGrid x = m * 2 ^ e → IsRounded s x (.finite s m e hm)

/-- A mantissa that fits is not shifted. -/
theorem shiftToTargetExponent_of_lt {m : ℕ} {e : ℤ} (hm : m < 2 ^ 53) (he : -1074 ≤ e) :
    shiftToTargetExponent .binary64 m e .exact = (⟨m, false, false⟩, e) := by
  have hlog : m.log2 < 53 := by
    by_cases hzero : m = 0
    · simp [hzero]
    · exact (Nat.log2_lt hzero).2 hm
  have hshift : (max (m.log2 + e - 52) (-1074) - e).toNat = 0 := by omega
  rw [shiftToTargetExponent, targetExponent_eq, shiftToExponent, hshift]
  show (_, e + ((0 : ℕ) : ℤ)) = _
  rw [Nat.cast_zero, add_zero]
  rfl

/-- A mantissa that got one digit too long is shifted by that digit. -/
theorem shiftToTargetExponent_of_eq {e : ℤ} (he : -1074 ≤ e) :
    shiftToTargetExponent .binary64 (2 ^ 53) e .exact = (⟨2 ^ 52, false, false⟩, e + 1) := by
  have hlog : (2 ^ 53 : ℕ).log2 = 53 := Nat.log2_two_pow
  have hshift : (max (((2 ^ 53 : ℕ).log2 : ℤ) + e - 52) (-1074) - e).toNat = 1 := by
    rw [hlog]
    omega
  rw [shiftToTargetExponent, targetExponent_eq, shiftToExponent, hshift]
  rfl

/-- An approximation of a number is rounded to the point of its grid nearest to the number, if the
mantissa is not too short. -/
theorem isRounded_roundWithAccuracy (s : Sign) {m : ℕ} {accuracy : Accuracy} {x : ℚ} {e : ℤ}
    (h : Approximates (ExtendedMantissa.ofMantissaAndAccuracy m accuracy) x)
    (hlong : 52 ≤ m.log2 ∨ e ≤ -1074) :
    IsRounded s (x * 2 ^ e) (roundWithAccuracy .binary64 s m e accuracy) := by
  have hm : (ExtendedMantissa.ofMantissaAndAccuracy m accuracy).mantissa = m := by
    rcases accuracy with _ | _ | _ | _ <;> rfl
  set t := max (m.log2 + e - 52) (-1074) with ht
  have hle : e ≤ t := by omega
  -- The first shift leads to the grid of the number, and there the mantissa is rounded.
  have hfirst : shiftToTargetExponent .binary64 m e accuracy =
      (ExtendedMantissa.ofMantissaAndAccuracy m accuracy >>> (t - e).toNat, t) := by
    rw [shiftToTargetExponent, targetExponent_eq, shiftToExponent, ← ht]
    congr 1
    omega
  have hscale : x * 2 ^ e / 2 ^ t = x / 2 ^ (t - e).toNat := by
    rw [two_zpow_eq_natCast_mul hle, Nat.cast_pow, Nat.cast_ofNat,
      mul_div_mul_right _ _ (two_zpow_pos e).ne']
  have hrounded : (ExtendedMantissa.ofMantissaAndAccuracy m accuracy >>>
      (t - e).toNat).roundedMantissa = nearestEven (x * 2 ^ e / 2 ^ t) := by
    rw [hscale]
    exact (h.shiftRight _).roundedMantissa
  rw [roundWithAccuracy, hfirst]
  dsimp only
  rw [hrounded]
  obtain hzero | hx := h.nonneg.eq_or_lt
  · -- Nothing is rounded to nothing.
    have hnone : nearestEven (x * 2 ^ e / 2 ^ t) = 0 := by
      rw [← hzero, zero_mul, zero_div]
      exact_mod_cast nearestEven_natCast 0
    rw [hnone, shiftToTargetExponent_of_lt (by decide) (by omega)]
    refine .zero ?_
    rw [← hzero, zero_mul, onGrid_zero]
  have hpos : 0 < x * 2 ^ e := mul_pos hx (two_zpow_pos e)
  have hgrid : gridExponent (x * 2 ^ e) = t := by
    rw [gridExponent_of_approximates h hx (by rwa [hm]), hm]
  have hvalue : onGrid (x * 2 ^ e) = nearestEven (x * 2 ^ e / 2 ^ t) * 2 ^ t := by
    rw [onGrid, hgrid]
  have hdigits : nearestEven (x * 2 ^ e / 2 ^ t) ≤ 2 ^ 53 := by
    refine nearestEven_le_of_le ?_
    rw [div_le_iff₀ (two_zpow_pos t)]
    have hlt := lt_of_gridExponent (x * 2 ^ e)
    rw [hgrid, two_zpow_eq_natCast_mul (show t ≤ t + 53 by omega), add_sub_cancel_left] at hlt
    exact hlt.le
  have hfull : 2 ^ 52 ≤ nearestEven (x * 2 ^ e / 2 ^ t) ∨ t = -1074 := by
    by_cases hfinest : t = -1074
    · exact .inr hfinest
    refine .inl (le_nearestEven_of_le ?_)
    rw [le_div_iff₀ (two_zpow_pos t)]
    have hge := le_of_gridExponent hpos (by omega)
    rw [hgrid, two_zpow_eq_natCast_mul (show t ≤ t + 52 by omega), add_sub_cancel_left] at hge
    exact hge
  generalize nearestEven (x * 2 ^ e / 2 ^ t) = r at hvalue hdigits hfull
  -- Rounding up may have made the mantissa one digit too long, which the second shift sets right.
  obtain hlt | heq := hdigits.lt_or_eq
  · rw [shiftToTargetExponent_of_lt hlt (by omega)]
    dsimp only
    split
    next hzero =>
      refine .zero ?_
      rw [hvalue, hzero, Nat.cast_zero, zero_mul]
    next => exact .finite ⟨hlt, by omega, hfull⟩ hvalue
  · rw [heq, shiftToTargetExponent_of_eq (by omega)]
    refine .finite ⟨show 2 ^ 52 < 2 ^ 53 by decide, by omega, .inl (le_refl _)⟩ ?_
    rw [hvalue, heq, zpow_add_one₀ two_ne_zero]
    push_cast
    ring

theorem log2_shiftLeft {m : ℕ} (h : m ≠ 0) (k : ℕ) : (m <<< k).log2 = m.log2 + k := by
  induction k with
  | zero => simp
  | succ k ih =>
    have hne : m <<< k ≠ 0 := by simp [Nat.shiftLeft_eq, h]
    rw [Nat.shiftLeft_succ, Nat.log2_two_mul hne, ih, add_assoc]

/-- A mantissa of any length is rounded to the point of its grid nearest to the number. -/
theorem isRounded_round (s : Sign) {m : ℕ} (hm : m ≠ 0) (e : ℤ) :
    IsRounded s (m * 2 ^ e) (UnpackedFloat.round .binary64 s m e) := by
  rw [UnpackedFloat.round, targetExponent_eq, decreaseExponent]
  dsimp only
  generalize hk : (e - max (m.log2 + e - 52) (-1074)).toNat = k
  -- A short mantissa is made longer without a change of the number.
  have hvalue : (m : ℚ) * 2 ^ e = ((m <<< k : ℕ) : ℚ) * 2 ^ (e - k) := by
    rw [Nat.shiftLeft_eq, two_zpow_eq_natCast_mul (show e - k ≤ e by omega), sub_sub_cancel,
      Int.toNat_natCast, Nat.cast_mul, mul_assoc]
  rw [hvalue]
  refine isRounded_roundWithAccuracy s (approximates_exact _) ?_
  rw [log2_shiftLeft hm]
  omega

end Assessment.Rounding
