import Assessment.Number.Decimal
import Assessment.Proofs.Number.Scientific

/-!
# The shortest decimals of doubles

The numbers that are rounded to one double are those between the middles to its two neighbours, and
the middles too if the double is even. The lower neighbour of a power of two is only half as far
away as the upper one. The decimal that is found for a double is one of these numbers: grids get
finer until there is one, and the last grid that is tried is finer than the space on one side.

## Main definitions

- `Rounding.InBasin`: a number is between the middles to the neighbours of a double.

## Main results

- `Rounding.onGrid_of_inBasin`: such a number is rounded to the double.
- `Decimal.inBasin_shortest`: the decimal that is found is such a number.
- `Double.hasValue_shortest`: it is turned into the double again.
-/

namespace Assessment

namespace Rounding

/-! ### The middles between whole numbers -/

theorem le_nearestEven_of_half_lt {x : ℚ} {n : ℕ} (h : n - 1 / 2 < x) : n ≤ nearestEven x := by
  obtain rfl | hn := Nat.eq_zero_or_pos n
  · exact Nat.zero_le _
  obtain ⟨k, rfl⟩ : ∃ k, n = k + 1 := ⟨n - 1, by omega⟩
  by_cases hx : ((k + 1 : ℕ) : ℚ) ≤ x
  · exact le_nearestEven_of_le hx
  push_cast at h hx
  have hfloor : ⌊x⌋₊ = k := by
    rw [Nat.floor_eq_iff (by linarith [(Nat.cast_nonneg k : (0 : ℚ) ≤ k)])]
    exact ⟨by linarith, by linarith⟩
  unfold nearestEven
  rw [hfloor]
  dsimp only
  rw [if_neg (by linarith), if_neg (by linarith)]

theorem nearestEven_half (n : ℕ) : nearestEven (n + 1 / 2) = n + n % 2 := by
  have hfloor : ⌊(n : ℚ) + 1 / 2⌋₊ = n := by
    rw [Nat.floor_eq_iff (by positivity)]
    exact ⟨by linarith, by linarith⟩
  unfold nearestEven
  rw [hfloor]
  dsimp only
  rw [if_neg (lt_irrefl _), if_pos rfl]

/-- A number is nearer to a whole number than to any other, or in the middle to one of its
neighbours while it is even. -/
def Near (n : ℕ) (x : ℚ) : Prop :=
  if n % 2 = 0 then n - 1 / 2 ≤ x ∧ x ≤ n + 1 / 2 else n - 1 / 2 < x ∧ x < n + 1 / 2

theorem nearestEven_of_near {n : ℕ} {x : ℚ} (h : Near n x) : nearestEven x = n := by
  unfold Near at h
  split at h
  next heven =>
    refine le_antisymm ?_ ?_
    · refine (nearestEven_mono h.2).trans_eq ?_
      rw [nearestEven_half, heven, add_zero]
    · obtain rfl | hn := Nat.eq_zero_or_pos n
      · exact Nat.zero_le _
      obtain ⟨k, rfl⟩ : ∃ k, n = k + 1 := ⟨n - 1, by omega⟩
      -- The middle below an even number is rounded up, since the number below it is odd.
      have hhalf : nearestEven (k + 1 / 2) = k + 1 := by
        rw [nearestEven_half]
        omega
      rw [← hhalf]
      refine nearestEven_mono ?_
      push_cast at h
      linarith
  next =>
    exact le_antisymm (nearestEven_le_of_lt_half h.2) (le_nearestEven_of_half_lt h.1)

/-! ### The middles between doubles -/

/-- How far below a double the middle to its lower neighbour is. -/
def below (m : ℕ) (e : ℤ) : ℚ := if m = 2 ^ 52 ∧ e ≠ -1074 then 1 / 4 else 1 / 2

/-- A number is between the middles to the neighbours of a double, or one of the middles while the
double is even. -/
def InBasin (m : ℕ) (e : ℤ) (x : ℚ) : Prop :=
  if m % 2 = 0 then (m - below m e) * 2 ^ e ≤ x ∧ x ≤ (m + 1 / 2) * 2 ^ e
  else (m - below m e) * 2 ^ e < x ∧ x < (m + 1 / 2) * 2 ^ e

theorem below_pos (m : ℕ) (e : ℤ) : 0 < below m e := by
  unfold below
  split_ifs <;> norm_num

theorem below_le (m : ℕ) (e : ℤ) : below m e ≤ 1 / 2 := by
  unfold below
  split_ifs <;> norm_num

variable {m : ℕ} {e : ℤ} {x : ℚ}

theorem InBasin.le (h : InBasin m e x) :
    (m - below m e) * 2 ^ e ≤ x ∧ x ≤ (m + 1 / 2) * 2 ^ e := by
  unfold InBasin at h
  split_ifs at h
  · exact h
  · exact ⟨h.1.le, h.2.le⟩

/-- What is near to a mantissa on its grid is rounded to it. -/
theorem onGrid_of_near {n : ℕ} {g : ℤ} (hgrid : gridExponent x = g) (h : Near n (x / 2 ^ g)) :
    onGrid x = n * 2 ^ g := by
  rw [onGrid, hgrid, nearestEven_of_near h]

theorem InBasin.near (h : InBasin m e x) : Near m (x / 2 ^ e) := by
  have hbelow := below_le m e
  unfold InBasin at h
  unfold Near
  rw [le_div_iff₀ (two_zpow_pos e), div_le_iff₀ (two_zpow_pos e), lt_div_iff₀ (two_zpow_pos e),
    div_lt_iff₀ (two_zpow_pos e)]
  have hlow : ((m : ℚ) - 1 / 2) * 2 ^ e ≤ (m - below m e) * 2 ^ e :=
    mul_le_mul_of_nonneg_right (by linarith) (two_zpow_pos e).le
  split_ifs at h ⊢
  · exact ⟨hlow.trans h.1, h.2⟩
  · exact ⟨hlow.trans_lt h.1, h.2⟩

/-- Below a power of two the grid is finer than above it. -/
theorem onGrid_of_inBasin_power (he : -1074 < e) (h : InBasin (2 ^ 52) e x)
    (hlt : x < 2 ^ (e + 52)) : onGrid x = (2 ^ 52 : ℕ) * 2 ^ e := by
  have hbelow : below (2 ^ 52) e = 1 / 4 := if_pos ⟨rfl, he.ne'⟩
  have hlow := h.le.1
  rw [hbelow] at hlow
  have hpower (k : ℕ) : (2 : ℚ) ^ (e - 1 + k) = 2 ^ k * 2 ^ (e - 1) := by
    rw [add_comm, zpow_add₀ two_ne_zero, zpow_natCast]
  have hstep : (2 : ℚ) ^ e = 2 * 2 ^ (e - 1) := by
    have hone := hpower 1
    rwa [pow_one, Nat.cast_one, sub_add_cancel] at hone
  rw [show e + 52 = e - 1 + (53 : ℕ) by omega, hpower] at hlt
  rw [hstep] at hlow ⊢
  have hunit := two_zpow_pos (e - 1)
  push_cast at hlow ⊢
  have hgrid : gridExponent x = e - 1 := by
    refine le_antisymm (gridExponent_le_of_lt (by linarith) (by omega) ?_)
      (le_gridExponent_of_le ?_)
    · rwa [show e - 1 + 53 = e - 1 + (53 : ℕ) by rfl, hpower]
    · rw [show e - 1 + 52 = e - 1 + (52 : ℕ) by rfl, hpower]
      linarith
  have hnear : Near (2 ^ 53) (x / 2 ^ (e - 1)) := by
    unfold Near
    rw [if_pos (by decide), le_div_iff₀ hunit, div_le_iff₀ hunit]
    push_cast
    constructor <;> linarith
  rw [onGrid_of_near hgrid hnear]
  push_cast
  ring

/-- What is between the middles to the neighbours of a double is rounded to it. -/
theorem onGrid_of_inBasin (hm : 0 < m) (hcanonical : IsCanonical m e) (h : InBasin m e x) :
    onGrid x = m * 2 ^ e := by
  have hunit := two_zpow_pos e
  have hm' : (1 : ℚ) ≤ m := by exact_mod_cast hm
  have hlt : (m : ℚ) + 1 ≤ 2 ^ (53 : ℤ) := by exact_mod_cast hcanonical.lt
  obtain ⟨hlow, hhigh⟩ := h.le
  have hbelow := below_le m e
  have hpos : 0 < x := lt_of_lt_of_le (mul_pos (by linarith) hunit) hlow
  -- Only below a power of two is the grid of the number another one.
  by_cases hside : (2 : ℚ) ^ (e + 52) ≤ x ∨ e = -1074
  · -- The grid of the number is that of the double.
    have hgrid : gridExponent x = e := by
      refine le_antisymm (gridExponent_le_of_lt hpos hcanonical.le ?_) ?_
      · rw [add_comm, zpow_add₀ two_ne_zero]
        exact hhigh.trans_lt (mul_lt_mul_of_pos_right (by linarith) hunit)
      · rcases hside with hside | rfl
        · exact le_gridExponent_of_le hside
        · exact le_gridExponent x
    exact onGrid_of_near hgrid h.near
  · rw [not_or, not_le] at hside
    obtain ⟨hless, hcoarse⟩ := hside
    -- The number can only be below the least double of the grid.
    have hdigits : m < 2 ^ 52 + 1 := by
      rw [add_comm, zpow_add₀ two_ne_zero] at hless
      have hfew := lt_of_mul_lt_mul_right (hlow.trans_lt hless) hunit.le
      have hcast : (m : ℚ) < ((2 ^ 52 + 1 : ℕ) : ℚ) := by
        push_cast
        linarith
      exact_mod_cast hcast
    obtain rfl : m = 2 ^ 52 := by
      have := hcanonical.full.resolve_right hcoarse
      omega
    exact onGrid_of_inBasin_power (lt_of_le_of_ne hcanonical.le (Ne.symm hcoarse)) h hless

end Rounding

namespace Decimal

open Rounding

/-! ### Points of decimal grids -/

/-- Powers with exponents that are not whole numbers, as quotients of such with exponents that
are. -/
theorem pow_toNat {b : ℚ} (hb : b ≠ 0) (k : ℤ) : b ^ k.toNat = b ^ k * b ^ (-k).toNat := by
  rw [← zpow_natCast, ← zpow_natCast, ← zpow_add₀ hb]
  congr 1
  omega

/-- The point that is found reads back. -/
theorem Basin.has_of_nearest? {half : HalfWay} {basin : Basin} {exponent : ℤ} {n : ℕ}
    (h : basin.nearest? half exponent = some n) :
    (basin.refine (10 ^ (-exponent).toNat)).has (n * (basin.one * 10 ^ exponent.toNat)) = true := by
  unfold nearest? at h
  dsimp only at h
  split at h
  next hbelow habove =>
    cases h
    split_ifs
    · exact habove
    · exact hbelow
  next hbelow _ =>
    cases h
    exact hbelow
  next _ habove =>
    cases h
    exact habove
  next => cases h

theorem Basin.has_of_lt {basin : Basin} {n : ℕ} (hlow : basin.low < n) (hhigh : n < basin.high) :
    basin.has n = true := by
  unfold has
  split_ifs <;> simp <;> omega

/-- On a grid that is finer than the space above the double, there is a point. -/
theorem Basin.exists_nearest? {basin : Basin} {exponent : ℤ} (hone : 0 < basin.one)
    (hlow : basin.low ≤ basin.value)
    (hfine : basin.value * 10 ^ (-exponent).toNat + basin.one * 10 ^ exponent.toNat <
      basin.high * 10 ^ (-exponent).toNat) (half : HalfWay) :
    ∃ n, basin.nearest? half exponent = some n := by
  -- The first point above the double is not beyond the upper end.
  have habove : (basin.refine (10 ^ (-exponent).toNat)).has
      (((basin.refine (10 ^ (-exponent).toNat)).value / (basin.one * 10 ^ exponent.toNat) + 1) *
        (basin.one * 10 ^ exponent.toNat)) = true := by
    have hlow' := Nat.mul_le_mul_right (10 ^ (-exponent).toNat) hlow
    have hstep : 0 < basin.one * 10 ^ exponent.toNat := Nat.mul_pos hone (Nat.pow_pos (by decide))
    have hvalue := Nat.div_add_mod (basin.value * 10 ^ (-exponent).toNat)
      (basin.one * 10 ^ exponent.toNat)
    have hrest := Nat.mod_lt (basin.value * 10 ^ (-exponent).toNat) hstep
    rw [mul_comm] at hvalue
    refine has_of_lt ?_ ?_ <;> dsimp only [Basin.refine] <;> rw [add_mul, one_mul] <;> omega
  unfold nearest?
  dsimp only
  split
  next => exact ⟨_, rfl⟩
  next => exact ⟨_, rfl⟩
  next => exact ⟨_, rfl⟩
  next hnone => exact absurd (hnone.symm.trans habove) Bool.false_ne_true

/-- As soon as there is a point on one of the grids that are tried, one is found. -/
theorem nearest?_coarsest {half : HalfWay} {basin : Basin} {fuel k : ℕ} {start : ℤ} (hk : k < fuel)
    (h : ∃ n, basin.nearest? half (start - k) = some n) :
    basin.nearest? half (coarsest half basin fuel start).exponent =
      some (coarsest half basin fuel start).digits := by
  induction fuel generalizing k start with
  | zero => omega
  | succ fuel ih =>
    rw [coarsest]
    cases hfirst : basin.nearest? half start with
    | some digits => exact hfirst
    | none =>
      -- The grid with a point is one of those that follow.
      cases k with
      | zero =>
        rw [Nat.cast_zero, sub_zero, hfirst] at h
        obtain ⟨n, hn⟩ := h
        cases hn
      | succ k =>
        refine ih (k := k) (by omega) ?_
        rwa [show start - 1 - (k : ℤ) = start - (k + 1 : ℕ) by omega]

/-! ### The decimals that are found -/

variable {m : ℕ} {e : ℤ}

theorem quarter_eq (e : ℤ) : (2 : ℚ) ^ e = 4 * 2 ^ (e - 2) := by
  rw [zpow_sub₀ two_ne_zero]
  norm_num
  ring

/-- The points of a basin are quarters of the last digit, counted in its unit. -/
theorem cast_quarters (m c : ℕ) (e : ℤ) :
    ((c * 2 ^ (e - 2).toNat : ℕ) : ℚ) = c / 4 * 2 ^ e * (Basin.of m e).one := by
  show _ = (c : ℚ) / 4 * 2 ^ e * ((2 ^ (2 - e).toNat : ℕ) : ℚ)
  push_cast
  rw [pow_toNat two_ne_zero (e - 2), neg_sub, quarter_eq e]
  ring

theorem value_basin (m : ℕ) (e : ℤ) :
    ((Basin.of m e).value : ℚ) = m * 2 ^ e * (Basin.of m e).one := by
  refine (cast_quarters m (4 * m) e).trans ?_
  push_cast
  ring

theorem high_basin (m : ℕ) (e : ℤ) :
    ((Basin.of m e).high : ℚ) = (m + 1 / 2) * 2 ^ e * (Basin.of m e).one := by
  refine (cast_quarters m (4 * m + 2) e).trans ?_
  push_cast
  ring

theorem low_basin (hm : 0 < m) (e : ℤ) :
    ((Basin.of m e).low : ℚ) = (m - below m e) * 2 ^ e * (Basin.of m e).one := by
  have hbelow : ((4 * m - if m = BinaryFraction.leadingBit ∧ e ≠ -1074 then 1 else 2 : ℕ) : ℚ) =
      4 * (m - below m e) := by
    have hbit : BinaryFraction.leadingBit = 2 ^ 52 := rfl
    rw [hbit, Nat.cast_sub (by split_ifs <;> omega)]
    unfold below
    split_ifs <;> push_cast <;> ring
  refine (cast_quarters m _ e).trans ?_
  rw [hbelow]
  ring

theorem one_basin_pos (m : ℕ) (e : ℤ) : 0 < (Basin.of m e).one := Nat.pow_pos (by decide)

/-- What reads back as a double is between the middles to its neighbours. -/
theorem inBasin_of_has (hm : 0 < m) {f n : ℕ} (hf : 0 < f)
    (h : ((Basin.of m e).refine f).has n = true) :
    InBasin m e (n / ((Basin.of m e).one * f)) := by
  have hunit : (0 : ℚ) < (Basin.of m e).one * f :=
    mul_pos (Nat.cast_pos.2 (one_basin_pos m e)) (Nat.cast_pos.2 hf)
  have hlow : (m - below m e) * 2 ^ e * ((Basin.of m e).one * f) =
      (((Basin.of m e).low * f : ℕ) : ℚ) := by
    rw [Nat.cast_mul, low_basin hm]
    ring
  have hhigh : ((m : ℚ) + 1 / 2) * 2 ^ e * ((Basin.of m e).one * f) =
      (((Basin.of m e).high * f : ℕ) : ℚ) := by
    rw [Nat.cast_mul, high_basin]
    ring
  unfold InBasin
  rw [le_div_iff₀ hunit, div_le_iff₀ hunit, lt_div_iff₀ hunit, div_lt_iff₀ hunit, hlow, hhigh,
    Nat.cast_le, Nat.cast_le, Nat.cast_lt, Nat.cast_lt]
  have hclosed : ((Basin.of m e).refine f).closed = decide (m % 2 = 0) := rfl
  unfold Basin.has at h
  rw [hclosed] at h
  simp only [decide_eq_true_eq] at h
  split_ifs at h ⊢ <;> rwa [Bool.and_eq_true, decide_eq_true_eq, decide_eq_true_eq] at h

/-- On a grid that is finer than half of the space above a double, a point is found. -/
theorem exists_nearest?_of_fine (hm : 0 < m) {k : ℤ} (hfine : (10 : ℚ) ^ k ≤ 2 ^ (e - 2))
    (half : HalfWay) : ∃ n, (Basin.of m e).nearest? half k = some n := by
  have hone := one_basin_pos m e
  have hone' : (0 : ℚ) < (Basin.of m e).one := Nat.cast_pos.2 hone
  have hlow : (Basin.of m e).low ≤ (Basin.of m e).value := by
    have hle : (m - below m e) * (2 : ℚ) ^ e ≤ m * 2 ^ e :=
      mul_le_mul_of_nonneg_right (by linarith [below_pos m e]) (two_zpow_pos e).le
    rw [← Nat.cast_le (α := ℚ), low_basin hm, value_basin]
    exact mul_le_mul_of_nonneg_right hle hone'.le
  refine Basin.exists_nearest? hone hlow ?_ half
  have hpower : (0 : ℚ) < 10 ^ (-k).toNat := by positivity
  have hstep : (10 : ℚ) ^ k < 1 / 2 * 2 ^ e := by
    rw [quarter_eq]
    linarith [two_zpow_pos (e - 2)]
  rw [← Nat.cast_lt (α := ℚ)]
  push_cast
  rw [value_basin, high_basin, pow_toNat (by norm_num) k]
  calc m * 2 ^ e * (Basin.of m e).one * (10 : ℚ) ^ (-k).toNat +
        (Basin.of m e).one * (10 ^ k * 10 ^ (-k).toNat) =
        (m * 2 ^ e + 10 ^ k) * ((Basin.of m e).one * 10 ^ (-k).toNat) := by ring
    _ < (m * 2 ^ e + 1 / 2 * 2 ^ e) * ((Basin.of m e).one * 10 ^ (-k).toNat) :=
      mul_lt_mul_of_pos_right (by linarith) (mul_pos hone' hpower)
    _ = (m + 1 / 2) * 2 ^ e * (Basin.of m e).one * 10 ^ (-k).toNat := by ring

/-- The decimal that is found for a double is between the middles to its neighbours. -/
theorem inBasin_shortest (hm : 0 < m) (hcanonical : IsCanonical m e) (he : e ≤ 971)
    (half : HalfWay) :
    InBasin m e ((shortest half m e).digits * 10 ^ (shortest half m e).exponent) := by
  have hlog : m.log2 < 53 := (Nat.log2_lt hm.ne').2 hcanonical.lt
  have hleast := hcanonical.le
  obtain ⟨start, hstart⟩ : ∃ start : ℤ, (e + m.log2 + 1) * 30103 / 100000 + 1 = start := ⟨_, rfl⟩
  -- Whatever the size is, the last of the grids is finer than a quarter of the last digit.
  have hpoint : ∃ n, (Basin.of m e).nearest? half (start - (23 : ℕ)) = some n :=
    exists_nearest?_of_fine hm (Double.ten_zpow_le_two_zpow (by omega) (by omega)) half
  have hfound := nearest?_coarsest (show 23 < 24 by decide) hpoint
  have hshortest : shortest half m e = coarsest half (Basin.of m e) 24 start := by
    rw [← hstart]
    rfl
  rw [← hshortest] at hfound
  have hin := inBasin_of_has hm (Nat.pow_pos (by decide)) (Basin.has_of_nearest? hfound)
  have hone : (0 : ℚ) < (Basin.of m e).one := Nat.cast_pos.2 (one_basin_pos m e)
  -- The point is counted in units of the basin, which cancel.
  have hunit (n one a b : ℚ) : n * (one * (a * b)) = n * a * (one * b) := by ring
  push_cast at hin
  rwa [pow_toNat (by norm_num) (shortest half m e).exponent, hunit,
    mul_div_cancel_right₀ _ (by positivity)] at hin

end Decimal

namespace Double

open Rounding Decimal

/-- What the shortest decimal writes is turned into the double that it was found for, however its
digits are shifted. -/
theorem hasValue_shortest {m : ℕ} {e : ℤ} (hm : 0 < m) (hcanonical : IsCanonical m e)
    (he : e ≤ 971) (half : HalfWay) {n : ℕ} {k : ℤ}
    (h : (n : ℚ) * 10 ^ k = (shortest half m e).digits * 10 ^ (shortest half m e).exponent) :
    HasValue (decimalFloat n k) (m * 2 ^ e) := by
  have hin := inBasin_shortest hm hcanonical he half
  rw [← h] at hin
  have hm' : (1 : ℚ) ≤ m := by exact_mod_cast hm
  have hlow : 0 < (m - below m e) * (2 : ℚ) ^ e :=
    mul_pos (by linarith [below_le m e]) (two_zpow_pos e)
  have hn : 0 < n := by
    have hpos := hlow.trans_le hin.le.1
    rw [mul_pos_iff_of_pos_right (ten_zpow_pos _)] at hpos
    exact_mod_cast hpos
  have hvalue := hasValue_decimalFloat hn k
  rwa [nearest_of_nonneg (hlow.le.trans hin.le.1), onGrid_of_inBasin hm hcanonical hin,
    min_eq_left (digits_lt_limit hcanonical.lt he).le] at hvalue

end Double

end Assessment
