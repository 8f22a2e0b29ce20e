import Mathlib.Data.Int.Log
import Mathlib.Data.Rat.Floor
import Mathlib.Tactic.Linarith
import Mathlib.Tactic.NormNum
import Mathlib.Tactic.Positivity
import Mathlib.Tactic.Ring

/-!
# Rounding to doubles

A double that is not infinite has at most 53 binary digits, the last of which is worth at least
`2 ^ -1074`. The doubles around a number are therefore the points of a grid, which is coarser around
greater numbers. Rounding takes a number to the nearest point of its grid, and numbers that are too
great to an infinity, for which `limit` stands here.

## Main definitions

- `Rounding.nearestEven`: the nearest whole number.
- `Rounding.gridExponent`: the grid of doubles around a number.
- `Rounding.nearest`: the value of the double nearest to a number.

## Main results

- `Rounding.nearest_mono`: of two numbers the greater is not rounded to less than the other.
- `Rounding.nearest_of_digits`: numbers that are doubles are rounded to themselves.
- `Rounding.abs_nearest_lt`: numbers that are not too great are not rounded to infinity.
-/

namespace Assessment.Rounding

/-! ### Whole numbers -/

/-- The whole number nearest to a number that is not negative; a half goes to the even neighbour. -/
def nearestEven (x : ℚ) : ℕ :=
  let whole := ⌊x⌋₊
  if x < whole + 1 / 2 then whole
  else if x = whole + 1 / 2 then whole + whole % 2
  else whole + 1

theorem floor_le_nearestEven (x : ℚ) : ⌊x⌋₊ ≤ nearestEven x := by
  unfold nearestEven
  dsimp only
  split_ifs <;> omega

theorem nearestEven_le_floor_add_one (x : ℚ) : nearestEven x ≤ ⌊x⌋₊ + 1 := by
  unfold nearestEven
  dsimp only
  split_ifs <;> omega

theorem nearestEven_natCast (n : ℕ) : nearestEven n = n := by
  simp [nearestEven]

theorem nearestEven_mono {x y : ℚ} (h : x ≤ y) : nearestEven x ≤ nearestEven y := by
  have hfloor : ⌊x⌋₊ ≤ ⌊y⌋₊ := Nat.floor_mono h
  by_cases heq : ⌊x⌋₊ = ⌊y⌋₊
  · -- Between the same two whole numbers only the middle decides.
    have habove (z : ℚ) (hlt : ¬z < ⌊y⌋₊ + 1 / 2) (hne : ¬z = ⌊y⌋₊ + 1 / 2) : ⌊y⌋₊ + 1 / 2 < z :=
      lt_of_le_of_ne (not_lt.1 hlt) (Ne.symm hne)
    unfold nearestEven
    dsimp only
    rw [heq]
    split_ifs
    all_goals first | omega | linarith | linarith [habove x ‹_› ‹_›]
  · have hx := nearestEven_le_floor_add_one x
    have hy := floor_le_nearestEven y
    omega

theorem nearestEven_le_of_le {x : ℚ} {n : ℕ} (h : x ≤ n) : nearestEven x ≤ n :=
  (nearestEven_mono h).trans_eq (nearestEven_natCast n)

theorem le_nearestEven_of_le {x : ℚ} {n : ℕ} (h : n ≤ x) : n ≤ nearestEven x :=
  (nearestEven_natCast n).symm.trans_le (nearestEven_mono h)

/-- Below the middle between two whole numbers the lower one is the nearest. -/
theorem nearestEven_le_of_lt_half {x : ℚ} {n : ℕ} (h : x < n + 1 / 2) : nearestEven x ≤ n := by
  by_cases hx : x ≤ n
  · exact nearestEven_le_of_le hx
  · have hfloor : ⌊x⌋₊ = n := by
      rw [Nat.floor_eq_iff (by linarith [(Nat.cast_nonneg n : (0 : ℚ) ≤ n)])]
      exact ⟨by linarith, by linarith⟩
    simp only [nearestEven, hfloor, if_pos h, le_refl]

/-! ### Grids -/

theorem two_zpow_pos (e : ℤ) : (0 : ℚ) < 2 ^ e := zpow_pos two_pos e

theorem two_zpow_mono {a b : ℤ} (h : a ≤ b) : (2 : ℚ) ^ a ≤ 2 ^ b :=
  zpow_le_zpow_right₀ one_le_two h

/-- A power of two is a whole number of lower powers. -/
theorem two_zpow_eq_natCast_mul {a b : ℤ} (h : a ≤ b) :
    (2 : ℚ) ^ b = ((2 ^ (b - a).toNat : ℕ) : ℚ) * 2 ^ a := by
  have hcast : (((b - a).toNat : ℕ) : ℤ) = b - a := Int.toNat_of_nonneg (by omega)
  rw [Nat.cast_pow, Nat.cast_ofNat, ← zpow_natCast, hcast, ← zpow_add₀ two_ne_zero]
  congr 1
  omega

/-- The exponent of the last digit of the doubles around a positive number. -/
def gridExponent (x : ℚ) : ℤ := max (Int.log 2 x - 52) (-1074)

theorem le_gridExponent (x : ℚ) : -1074 ≤ gridExponent x := le_max_right _ _

theorem gridExponent_mono {x y : ℚ} (hx : 0 < x) (h : x ≤ y) : gridExponent x ≤ gridExponent y :=
  max_le_max_right _ (Int.sub_le_sub_right (Int.log_mono_right hx h) _)

/-- A number is less than 53 digits on its grid. -/
theorem lt_of_gridExponent (x : ℚ) : x < 2 ^ (gridExponent x + 53) := by
  refine (Int.lt_zpow_succ_log_self one_lt_two x).trans_le (two_zpow_mono ?_)
  have : Int.log 2 x - 52 ≤ gridExponent x := le_max_left _ _
  omega

/-- A number has all 53 digits on its grid, unless the grid is the finest. -/
theorem le_of_gridExponent {x : ℚ} (hx : 0 < x) (h : -1074 < gridExponent x) :
    (2 : ℚ) ^ (gridExponent x + 52) ≤ x := by
  have hlog : gridExponent x + 52 ≤ Int.log 2 x := by
    unfold gridExponent at h ⊢
    omega
  exact (two_zpow_mono hlog).trans (Int.zpow_log_le_self one_lt_two hx)

theorem gridExponent_le_of_lt {x : ℚ} {e : ℤ} (hx : 0 < x) (he : -1074 ≤ e)
    (h : x < 2 ^ (e + 53)) : gridExponent x ≤ e := by
  have hlog : Int.log 2 x < e + 53 := (Int.lt_zpow_iff_log_lt one_lt_two hx).1 h
  unfold gridExponent
  omega

theorem le_gridExponent_of_le {x : ℚ} {e : ℤ} (h : 2 ^ (e + 52) ≤ x) : e ≤ gridExponent x := by
  have hlog : e + 52 ≤ Int.log 2 x :=
    (Int.zpow_le_iff_le_log one_lt_two ((two_zpow_pos _).trans_le h)).1 h
  unfold gridExponent
  omega

/-! ### The nearest point of a grid -/

/-- The point of its grid nearest to a number that is not negative. -/
def onGrid (x : ℚ) : ℚ := nearestEven (x / 2 ^ gridExponent x) * 2 ^ gridExponent x

theorem onGrid_nonneg (x : ℚ) : 0 ≤ onGrid x :=
  mul_nonneg (Nat.cast_nonneg _) (two_zpow_pos _).le

@[simp]
theorem onGrid_zero : onGrid 0 = 0 := by
  have h := nearestEven_natCast 0
  rw [Nat.cast_zero] at h
  rw [onGrid, zero_div, h, Nat.cast_zero, zero_mul]

/-- Numbers of at most 53 digits are points of their grids. -/
theorem onGrid_of_digits {m : ℕ} {e : ℤ} (hm : m < 2 ^ 53) (he : -1074 ≤ e) :
    onGrid (m * 2 ^ e) = m * 2 ^ e := by
  obtain rfl | hpos := Nat.eq_zero_or_pos m
  · simp
  have hx : (0 : ℚ) < m * 2 ^ e := mul_pos (Nat.cast_pos.2 hpos) (two_zpow_pos e)
  have hlt : (m : ℚ) * 2 ^ e < 2 ^ (e + 53) := by
    rw [add_comm, zpow_add₀ two_ne_zero]
    refine mul_lt_mul_of_pos_right ?_ (two_zpow_pos e)
    exact_mod_cast hm
  -- The grid is no coarser than the digits, so that they are a whole number of its units.
  have hgrid := gridExponent_le_of_lt hx he hlt
  rw [onGrid]
  generalize gridExponent (m * 2 ^ e) = g at hgrid
  have hdiv : (m : ℚ) * 2 ^ e / 2 ^ g = ((m * 2 ^ (e - g).toNat : ℕ) : ℚ) := by
    rw [two_zpow_eq_natCast_mul hgrid, ← mul_assoc, mul_div_assoc, div_self (two_zpow_pos g).ne',
      mul_one, Nat.cast_mul]
  rw [hdiv, nearestEven_natCast, ← hdiv, div_mul_cancel₀ _ (two_zpow_pos g).ne']

/-- Rounding keeps the order. -/
theorem onGrid_mono {x y : ℚ} (hx : 0 ≤ x) (h : x ≤ y) : onGrid x ≤ onGrid y := by
  obtain rfl | hx := hx.eq_or_lt
  · rw [onGrid_zero]
    exact onGrid_nonneg y
  obtain heq | hlt := (gridExponent_mono hx h).eq_or_lt
  · -- On one grid it is the nearest whole numbers that count.
    rw [onGrid, onGrid, heq]
    refine mul_le_mul_of_nonneg_right ?_ (two_zpow_pos _).le
    exact_mod_cast nearestEven_mono (div_le_div_of_nonneg_right h (two_zpow_pos _).le)
  · -- Where the grid gets coarser there is a power of two, which is a point of both grids.
    have hcoarse : -1074 < gridExponent y := (le_gridExponent x).trans_lt hlt
    set middle : ℚ := 2 ^ (gridExponent y + 52) with hmiddle
    have hbelow : x ≤ middle := (lt_of_gridExponent x).le.trans (two_zpow_mono (by omega))
    have habove : middle ≤ y := le_of_gridExponent (hx.trans_le h) hcoarse
    have hleft : onGrid x ≤ middle := by
      have hpoint := two_zpow_eq_natCast_mul (show gridExponent x ≤ gridExponent y + 52 by omega)
      rw [onGrid, hmiddle, hpoint]
      refine mul_le_mul_of_nonneg_right ?_ (two_zpow_pos _).le
      rw [Nat.cast_le]
      refine nearestEven_le_of_le ?_
      rw [div_le_iff₀ (two_zpow_pos _), ← hpoint, ← hmiddle]
      exact hbelow
    have hright : middle ≤ onGrid y := by
      have hpoint := two_zpow_eq_natCast_mul (show gridExponent y ≤ gridExponent y + 52 by omega)
      rw [onGrid, hmiddle, hpoint]
      refine mul_le_mul_of_nonneg_right ?_ (two_zpow_pos _).le
      rw [Nat.cast_le]
      refine le_nearestEven_of_le ?_
      rw [le_div_iff₀ (two_zpow_pos _), ← hpoint, ← hmiddle]
      exact habove
    exact hleft.trans hright

/-! ### The nearest double -/

/-- The value that stands for infinity: the least one that is too great for a double. -/
def limit : ℚ := 2 ^ (1024 : ℤ)

theorem limit_pos : 0 < limit := two_zpow_pos 1024

/-- The value of the double nearest to a number, with `limit` for infinity. -/
def nearest (x : ℚ) : ℚ := if 0 ≤ x then min (onGrid x) limit else -min (onGrid (-x)) limit

theorem nearest_of_nonneg {x : ℚ} (h : 0 ≤ x) : nearest x = min (onGrid x) limit := if_pos h

theorem nearest_neg (x : ℚ) : nearest (-x) = -nearest x := by
  obtain h | rfl | h := lt_trichotomy x 0
  · rw [nearest_of_nonneg (by linarith), nearest, if_neg (by linarith), neg_neg]
  · simp [nearest, limit_pos.le]
  · rw [nearest_of_nonneg h.le, nearest, if_neg (by linarith), neg_neg]

theorem nearest_nonneg {x : ℚ} (h : 0 ≤ x) : 0 ≤ nearest x := by
  rw [nearest_of_nonneg h]
  exact le_min (onGrid_nonneg x) limit_pos.le

/-- Rounding keeps the order, also of numbers that are too great for doubles. -/
theorem nearest_mono {x y : ℚ} (h : x ≤ y) : nearest x ≤ nearest y := by
  have hsame {x y : ℚ} (hx : 0 ≤ x) (h : x ≤ y) : nearest x ≤ nearest y := by
    rw [nearest_of_nonneg hx, nearest_of_nonneg (hx.trans h)]
    exact min_le_min_right _ (onGrid_mono hx h)
  by_cases hx : 0 ≤ x
  · exact hsame hx h
  · have hneg : nearest x = -nearest (-x) := by rw [nearest_neg, neg_neg]
    by_cases hy : 0 ≤ y
    · have : 0 ≤ nearest (-x) := nearest_nonneg (by linarith)
      rw [hneg]
      linarith [nearest_nonneg hy]
    · have hsizes : nearest (-y) ≤ nearest (-x) := hsame (by linarith) (by linarith)
      rw [nearest_neg, nearest_neg] at hsizes
      linarith

/-- The greatest number of 53 digits on the coarsest grid is below the limit. -/
theorem digits_lt_limit {m : ℕ} {e : ℤ} (hm : m < 2 ^ 53) (he : e ≤ 971) :
    (m : ℚ) * 2 ^ e < limit := by
  have hsplit : limit = 2 ^ (53 : ℕ) * 2 ^ (971 : ℤ) := by
    rw [limit, ← zpow_natCast, ← zpow_add₀ two_ne_zero]
    rfl
  have hdigits : (m : ℚ) < 2 ^ (53 : ℕ) := by exact_mod_cast hm
  calc (m : ℚ) * 2 ^ e ≤ m * 2 ^ (971 : ℤ) :=
        mul_le_mul_of_nonneg_left (two_zpow_mono he) (Nat.cast_nonneg m)
    _ < 2 ^ (53 : ℕ) * 2 ^ (971 : ℤ) := mul_lt_mul_of_pos_right hdigits (two_zpow_pos _)
    _ = limit := hsplit.symm

/-- Numbers that are doubles are rounded to themselves. -/
theorem nearest_of_digits {m : ℕ} {e : ℤ} (hm : m < 2 ^ 53) (he : -1074 ≤ e) (he' : e ≤ 971) :
    nearest (m * 2 ^ e) = m * 2 ^ e := by
  have hnonneg : (0 : ℚ) ≤ m * 2 ^ e := mul_nonneg (Nat.cast_nonneg _) (two_zpow_pos _).le
  rw [nearest_of_nonneg hnonneg, onGrid_of_digits hm he]
  exact min_eq_left (digits_lt_limit hm he').le

theorem nearest_natCast {n : ℕ} (h : n < 2 ^ 53) : nearest n = n := by
  simpa using nearest_of_digits h (e := 0) (by decide) (by decide)

/-- The greatest double that is not infinite. -/
def greatest : ℚ := (2 ^ 53 - 1 : ℕ) * 2 ^ (971 : ℤ)

theorem greatest_lt_limit : greatest < limit := digits_lt_limit (by decide) (by decide)

/-- The size of a number below the middle between the greatest double and the limit is not rounded
to the limit. -/
theorem nearest_lt_limit {x : ℚ} (hx : 0 ≤ x) (h : x < greatest + 2 ^ (970 : ℤ)) :
    nearest x < limit := by
  by_cases hgreat : x ≤ greatest
  · refine (nearest_mono hgreat).trans_lt ?_
    rw [greatest, nearest_of_digits (by decide) (by decide) (by decide)]
    exact greatest_lt_limit
  have hpos : (0 : ℚ) < 2 ^ (971 : ℤ) := two_zpow_pos 971
  -- Beyond the greatest double the grid is still the coarsest one that doubles have.
  have hhalf : x / 2 ^ (971 : ℤ) < (2 ^ 53 - 1 : ℕ) + 1 / 2 := by
    rw [div_lt_iff₀ hpos, add_mul]
    refine h.trans_eq (congrArg (greatest + ·) ?_)
    rw [show (971 : ℤ) = 970 + 1 by rfl, zpow_add_one₀ two_ne_zero]
    ring
  have hpositive : 0 < x := by
    refine lt_of_le_of_lt ?_ (not_le.1 hgreat)
    exact mul_nonneg (Nat.cast_nonneg _) hpos.le
  have hgrid : gridExponent x ≤ 971 := by
    refine gridExponent_le_of_lt hpositive (by decide) ?_
    rw [div_lt_iff₀ hpos] at hhalf
    refine hhalf.trans ?_
    rw [two_zpow_eq_natCast_mul (show (971 : ℤ) ≤ 971 + 53 by decide)]
    refine mul_lt_mul_of_pos_right ?_ hpos
    rw [show (971 + 53 - 971 : ℤ).toNat = 53 by decide]
    norm_num
  have hcoarse : 971 ≤ gridExponent x := by
    refine le_gridExponent_of_le (le_trans ?_ (not_le.1 hgreat).le)
    rw [greatest, two_zpow_eq_natCast_mul (show (971 : ℤ) ≤ 971 + 52 by decide)]
    refine mul_le_mul_of_nonneg_right ?_ hpos.le
    rw [Nat.cast_le]
    decide
  rw [nearest_of_nonneg hx, onGrid, le_antisymm hgrid hcoarse]
  refine (min_le_left _ _).trans_lt (lt_of_le_of_lt ?_ greatest_lt_limit)
  refine mul_le_mul_of_nonneg_right ?_ hpos.le
  rw [Nat.cast_le]
  exact nearestEven_le_of_lt_half hhalf

theorem abs_nearest_lt {x : ℚ} (h : |x| < greatest + 2 ^ (970 : ℤ)) : |nearest x| < limit := by
  obtain hx | hx := le_total 0 x
  · rw [abs_of_nonneg hx] at h
    rw [abs_of_nonneg (nearest_nonneg hx)]
    exact nearest_lt_limit hx h
  · rw [abs_of_nonpos hx] at h
    have hneg := nearest_lt_limit (neg_nonneg.2 hx) h
    rw [← abs_neg, ← nearest_neg, abs_of_nonneg (nearest_nonneg (neg_nonneg.2 hx))]
    exact hneg

end Assessment.Rounding
