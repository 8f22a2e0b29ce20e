import Assessment.Evaluation.Numeric
import Assessment.Proofs.Number.Comparison
import Assessment.Time

/-!
# Finite doubles

Some operations of the engine give doubles without looking whether these are finite: words are
turned into doubles, spans of time are added up, and doubles are rounded to decimal places. Wherever
the doubles that they begin with are finite, so are those that they give.

A word is turned into the double nearest to it. Up to `2 ^ 53` this is the word itself; of greater
words several share one double. The sign is kept, by sums and products of doubles as well: numbers
whose size is at least one are not rounded to zero.

## Main results

- `Double.IsSmall.isFinite_add`: a small double can be added to any finite double.
- `Word.isFinite_toFloat`: a word is turned into a finite double.
- `Double.isFinite_add_secondsSince`: a span of time can be added to any finite double.
- `Double.isFinite_of_lt_of_lt`: what is between two finite doubles is finite.
- `isFinite_of_roundFigures`: what is rounded to decimal places is finite.
- `Word.hasValue_toFloat`: what a word is turned into.
- `Rounding.nearest_intCast`: which integers are doubles without a change.
- `Rounding.nearest_lt_zero_iff`: rounding keeps the sign of numbers that are not too small.
-/

open Float.Model Float.Model.UnpackedFloat

namespace Assessment

open Double Rounding

/-! ### Words -/

namespace Double

variable {x y : Float}

/-- The size of a finite double is at most that of the greatest one. -/
theorem abs_value_le (h : x.isFinite = true) : |value x| ≤ greatest := by
  have hfits := fits_of x
  rw [value]
  rcases zero_or_finite (show x.toModel.unpack.isFinite = true from h) with
    ⟨s, hunpack⟩ | ⟨s, m, e, hm, hunpack⟩
  · rw [hunpack]
    show |(0 : ℚ)| ≤ greatest
    rw [abs_zero]
    exact mul_nonneg (Nat.cast_nonneg _) (two_zpow_pos _).le
  · rw [hunpack] at hfits ⊢
    obtain ⟨⟨hlt, -, -⟩, hle⟩ := hfits
    show |signed s (m * 2 ^ e)| ≤ greatest
    rw [abs_signed, abs_of_nonneg (mul_nonneg (Nat.cast_nonneg m) (two_zpow_pos e).le)]
    refine mul_le_mul ?_ (two_zpow_mono hle) (two_zpow_pos e).le (Nat.cast_nonneg _)
    exact Nat.cast_le.2 (Nat.le_sub_one_of_lt hlt)

@[simp]
theorem isFinite_neg : (-x).isFinite = x.isFinite := by
  show (ofUnpacked x.toModel.unpack.neg).toModel.unpack.isFinite = x.toModel.unpack.isFinite
  rw [unpack_ofUnpacked (fits_neg (fits_of x))]
  cases x.toModel.unpack <;> rfl

theorem value_one : value 1.0 = 1 := by
  show ((4503599627370496 : ℕ) : ℚ) * 2 ^ (-52 : ℤ) = 1
  norm_num

/-- Words are far from the greatest double. -/
theorem two_pow_lt_two_zpow : (2 : ℚ) ^ (64 : ℕ) < 2 ^ (970 : ℤ) := by
  rw [← zpow_natCast]
  exact zpow_lt_zpow_right₀ one_lt_two (by decide)

theorem isFinite_of_abs_le {v : ℚ} (h : HasValue x (nearest v)) (hle : |v| ≤ 2 ^ 64) :
    x.isFinite = true := by
  rw [h.isFinite_iff]
  refine abs_nearest_lt (hle.trans_lt (two_pow_lt_two_zpow.trans_le ?_))
  exact le_add_of_nonneg_left (mul_nonneg (Nat.cast_nonneg _) (two_zpow_pos _).le)

/-- A finite double that is small enough to be added to every other: less than half of the distance
of the greatest double to the one before it, which is about `10 ^ 292`. -/
def IsSmall (x : Float) : Prop := x.isFinite = true ∧ |value x| < 2 ^ (970 : ℤ)

theorem IsSmall.isFinite_add (hy : IsSmall y) (hx : x.isFinite = true) :
    (x + y).isFinite = true := by
  rw [(hasValue_add hx hy.1).isFinite_iff]
  exact abs_nearest_lt ((abs_add_le _ _).trans_lt (add_lt_add_of_le_of_lt (abs_value_le hx) hy.2))

/-- What is not greater than a word is small. -/
theorem isSmall_of_le (h : x.isFinite = true) (hle : |value x| ≤ 2 ^ 64) : IsSmall x :=
  ⟨h, hle.trans_lt two_pow_lt_two_zpow⟩

theorem isSmall_zero : IsSmall 0.0 := by
  refine isSmall_of_le rfl ?_
  rw [show value 0.0 = 0 from rfl, abs_zero]
  positivity

theorem isSmall_getD {x : Option Float} (h : ∀ y ∈ x, IsSmall y) : IsSmall (x.getD 0.0) := by
  cases x with
  | none => exact isSmall_zero
  | some y => exact h y rfl

theorem hasValue_toFloat (n : UInt64) : HasValue n.toFloat (nearest n.toNat) := by
  have h := hasValue_ofInt n.toNat
  rw [Int.cast_natCast] at h
  exact h

theorem toNat_le (n : UInt64) : (n.toNat : ℚ) ≤ 2 ^ 64 := by
  exact_mod_cast n.toNat_lt.le

theorem isFinite_toFloat (n : UInt64) : n.toFloat.isFinite = true := by
  refine isFinite_of_abs_le (hasValue_toFloat n) ?_
  rw [abs_of_nonneg (Nat.cast_nonneg _)]
  exact toNat_le n

end Double

/-- A word is turned into a finite double. -/
theorem Word.isFinite_toFloat (w : Int64) : (Word.toFloat w).isFinite = true := by
  unfold Word.toFloat
  dsimp only
  split
  · rw [isFinite_neg]
    exact Double.isFinite_toFloat _
  · exact Double.isFinite_toFloat _

/-! ### Spans of time -/

namespace Double

variable {x : Float}

theorem hasValue_thousand : HasValue 1000.0 1000 := by
  have hunpack : (1000.0 : Float).toModel.unpack =
      .finite .positive 8796093022208000 (-43) (by decide) := by rfl
  refine hasValue_of_unpack hunpack rfl ?_
  show ((8796093022208000 : ℕ) : ℚ) * 2 ^ (-43 : ℤ) = 1000
  norm_num

/-- The seconds between two moments are finite, and there are not too many of them. -/
theorem secondsSince_bounded {now earlier : Timestamp} {seconds : Float}
    (h : now.secondsSince? earlier = some seconds) :
    seconds.isFinite = true ∧ 0 ≤ value seconds ∧ value seconds ≤ 2 ^ 64 := by
  obtain ⟨millis, -, rfl⟩ := Option.map_eq_some_iff.1 h
  have hpower : nearest ((2 ^ 64 : ℕ) : ℚ) = (2 ^ 64 : ℕ) := by
    have := @nearest_of_digits 1 64 (by decide) (by decide) (by decide)
    rw [Nat.cast_one, one_mul] at this
    exact_mod_cast this
  have hmillis := hasValue_toFloat (UInt64.ofNat millis)
  have hnonneg : 0 ≤ nearest (UInt64.ofNat millis).toNat := nearest_nonneg (Nat.cast_nonneg _)
  have hle : nearest (UInt64.ofNat millis).toNat ≤ (2 ^ 64 : ℕ) := by
    refine (nearest_mono ?_).trans_eq hpower
    exact_mod_cast toNat_le (UInt64.ofNat millis)
  generalize (nearest (UInt64.ofNat millis).toNat) = n at hmillis hnonneg hle
  have hquotient := hasValue_div (Double.isFinite_toFloat (UInt64.ofNat millis)) (y := 1000.0) rfl
    (by rw [hasValue_thousand.value]; norm_num)
  rw [hmillis.value, hasValue_thousand.value] at hquotient
  have hshort : n / 1000 ≤ (2 ^ 64 : ℕ) := (div_le_self hnonneg (by norm_num)).trans hle
  refine ⟨isFinite_of_abs_le hquotient ?_, ?_, ?_⟩
  · rw [abs_of_nonneg (div_nonneg hnonneg (by norm_num))]
    exact_mod_cast hshort
  · rw [hquotient.value]
    exact nearest_nonneg (div_nonneg hnonneg (by norm_num))
  · rw [hquotient.value]
    refine (nearest_mono hshort).trans ?_
    rw [hpower]
    norm_num

/-- A span of time can be added to any finite double. -/
theorem isFinite_add_secondsSince {now earlier : Timestamp} {seconds : Float}
    (hx : x.isFinite = true) (h : now.secondsSince? earlier = some seconds) :
    (x + seconds).isFinite = true := by
  obtain ⟨hfinite, hnonneg, hle⟩ := secondsSince_bounded h
  refine (isSmall_of_le hfinite ?_).isFinite_add hx
  rw [abs_of_nonneg hnonneg]
  exact hle

end Double

/-! ### Numbers between two others -/

namespace Double

variable {x least greatest : Float}

theorem isNaN_of_isFinite (h : x.isFinite = true) : x.isNaN = false := by
  replace h : x.toModel.unpack.isFinite = true := h
  show x.toModel.unpack.isNaN = false
  cases hunpack : x.toModel.unpack <;> rw [hunpack] at h <;> first | rfl | cases h

/-- What is between two finite doubles is finite. -/
theorem isFinite_of_lt_of_lt (hleast : least.isFinite = true) (hgreatest : greatest.isFinite = true)
    (hlow : least < x) (hhigh : x < greatest) : x.isFinite = true := by
  have hnumber : x.toModel.unpack ≠ .notANumber := by
    intro hunpack
    have hcompare : decide ((UnpackedFloat.compare least.toModel.unpack x.toModel.unpack ==
      some .lt) = true) = true := hlow
    rw [decide_eq_true_iff, beq_iff_eq, hunpack] at hcompare
    -- Nothing compares with what is no number.
    cases hbound : least.toModel.unpack <;> rw [hbound] at hcompare <;> cases hcompare
  have hx : HasValue x (value x) := ⟨hnumber, rfl⟩
  have hbelow := hasValue_of_isFinite hleast
  have habove := hasValue_of_isFinite hgreatest
  rw [hbelow.lt_iff hx] at hlow
  rw [hx.lt_iff habove] at hhigh
  rw [hx.isFinite_iff, abs_lt]
  constructor
  · exact (abs_lt.1 (hbelow.isFinite_iff.1 hleast)).1.trans hlow
  · exact hhigh.trans (abs_lt.1 (habove.isFinite_iff.1 hgreatest)).2

end Double

/-! ### Decimal places -/

namespace Double

variable {x y : Float}

/-- A product is finite only if its factors are. -/
theorem isFinite_of_mul (h : (x * y).isFinite = true) : x.isFinite = true ∧ y.isFinite = true := by
  replace h : (ofUnpacked (UnpackedFloat.mul .binary64 x.toModel.unpack
    y.toModel.unpack)).toModel.unpack.isFinite = true := h
  show x.toModel.unpack.isFinite = true ∧ y.toModel.unpack.isFinite = true
  generalize x.toModel.unpack = u at h ⊢
  generalize y.toModel.unpack = v at h ⊢
  by_contra hnot
  have hmul : (∃ s, UnpackedFloat.mul .binary64 u v = .infinity s) ∨
      UnpackedFloat.mul .binary64 u v = .notANumber := by
    cases u <;> cases v
    all_goals first
      | exact absurd ⟨rfl, rfl⟩ hnot
      | exact .inr rfl
      | exact .inl ⟨_, rfl⟩
  rcases hmul with ⟨s, hmul⟩ | hmul
  · rw [hmul, unpack_ofUnpacked (u := .infinity s) trivial] at h
    cases h
  · rw [hmul, unpack_ofUnpacked (u := .notANumber) trivial] at h
    cases h

/-- A finite double can be divided by any that is at least one. -/
theorem isFinite_div_of_one_le (hx : x.isFinite = true) (hy : y.isFinite = true)
    (hone : 1 ≤ value y) : (x / y).isFinite = true := by
  have hpos : 0 < value y := one_pos.trans_le hone
  rw [(hasValue_div hx hy hpos.ne').isFinite_iff]
  refine abs_nearest_lt (lt_of_le_of_lt ?_ (lt_add_of_pos_right greatest (two_zpow_pos 970)))
  rw [abs_div, abs_of_pos hpos]
  exact (div_le_self (abs_nonneg _) hone).trans (abs_value_le hx)

/-- A double that is at least one, unless it is too great. -/
def FromOne (x : Float) : Prop := x.isFinite = true → 1 ≤ value x

theorem FromOne.mul (hx : FromOne x) (hy : FromOne y) : FromOne (x * y) := by
  intro hfinite
  obtain ⟨hxfinite, hyfinite⟩ := isFinite_of_mul hfinite
  have hone : nearest 1 = 1 := by exact_mod_cast nearest_natCast (by decide : 1 < 2 ^ 53)
  rw [(hasValue_mul hxfinite hyfinite).value, ← hone]
  exact nearest_mono (one_le_mul_of_one_le_of_one_le (hx hxfinite) (hy hyfinite))

end Double

theorem fromOne_scaleByPower (steps : ℕ) {result base : Float} (exponent : ℕ)
    (hresult : FromOne result) (hbase : FromOne base) :
    FromOne (scaleByPower steps result base exponent) := by
  induction steps generalizing result base exponent with
  | zero => exact hresult
  | succ steps ih =>
    rw [scaleByPower]
    have hnext : FromOne (if exponent % 2 = 1 then result * base else result) := by
      split
      · exact hresult.mul hbase
      · exact hresult
    split
    · exact hnext
    · exact ih _ hnext (hbase.mul hbase)

theorem fromOne_powerOfTen {places : ℤ} (h : 0 ≤ places) : FromOne (powerOfTen places) := by
  rw [powerOfTen, if_neg (not_lt.2 h)]
  refine fromOne_scaleByPower 64 _ (fun _ => value_one.ge) fun _ => ?_
  show (1 : ℚ) ≤ ((5629499534213120 : ℕ) : ℚ) * 2 ^ (-49 : ℤ)
  norm_num

theorem isFinite_awayFromZero {x : Float} (h : x.isFinite = true) :
    (awayFromZero x).isFinite = true := by
  rw [awayFromZero]
  dsimp only
  split
  next =>
    set whole := x.abs.toUInt64.toFloat
    have hwhole : whole.isFinite = true := isFinite_toFloat _
    have hnearest : (if x.abs - whole < 0.5 then whole else whole + 1.0).isFinite = true := by
      split
      · exact hwhole
      · refine (isSmall_of_le rfl ?_).isFinite_add hwhole
        rw [value_one]
        norm_num
    split
    · exact hnearest
    · rw [isFinite_neg]
      exact hnearest
  next => exact h

/-- What is rounded to decimal places is finite. -/
theorem isFinite_of_roundFigures {operation : String} {x y : Float} {figures : Int64}
    (hx : x.isFinite = true) (h : roundFigures operation x .decimalPlaces figures = .ok y) :
    y.isFinite = true := by
  unfold roundFigures placesKept? at h
  simp only [hx, Bool.not_true, Bool.false_eq_true, if_false, reduceCtorEq, decide_false,
    Bool.false_and] at h
  by_cases hnegative : figures < 0
  · rw [if_pos hnegative] at h
    cases h
  rw [if_neg hnegative] at h
  dsimp only at h
  have hplaces : 0 ≤ figures.toInt := by
    rw [Int64.lt_iff_toInt_lt] at hnegative
    exact not_lt.1 hnegative
  split at h
  next => cases h
  next =>
    split at h
    next =>
      cases h
      exact hx
    next hreach =>
      cases h
      obtain ⟨⟨hfactor, -⟩, hscaled⟩ : ((powerOfTen figures.toInt).isFinite = true ∧
          (powerOfTen figures.toInt == 0.0) = false) ∧
            (x * powerOfTen figures.toInt).isFinite = true := by
        simpa using hreach
      exact isFinite_div_of_one_le (isFinite_awayFromZero hscaled) hfactor
        (fromOne_powerOfTen hplaces hfactor)

/-! ### Words and the doubles nearest to them -/

namespace Rounding

variable {x : ℚ}

/-- Integers of at most 53 digits are doubles, and so is the next one. -/
theorem nearest_intCast {n : ℤ} (h : n.natAbs ≤ 2 ^ 53) : nearest n = n := by
  have hnat {n : ℕ} (h : n ≤ 2 ^ 53) : nearest n = n := by
    obtain hlt | rfl := h.lt_or_eq
    · exact nearest_natCast hlt
    · have hpower := @nearest_of_digits 1 53 (by decide) (by decide) (by decide)
      rw [Nat.cast_one, one_mul] at hpower
      exact_mod_cast hpower
  obtain ⟨m, rfl | rfl⟩ := n.eq_nat_or_neg
  · exact_mod_cast hnat (by simpa using h)
  · rw [Int.cast_neg, Int.cast_natCast, nearest_neg, hnat (by simpa using h)]

/-- Rounding keeps the sign of numbers that are not between minus one and zero. -/
theorem nearest_lt_zero_iff (h : x ≤ -1 ∨ 0 ≤ x) : nearest x < 0 ↔ x < 0 := by
  obtain hneg | hpos := h
  · have hone := @nearest_intCast (-1) (by decide)
    have hle := nearest_mono hneg
    push_cast at hone
    rw [hone] at hle
    exact iff_of_true (by linarith) (by linarith)
  · exact iff_of_false (nearest_nonneg hpos).not_gt hpos.not_gt

end Rounding

namespace Double

variable {x y : Float} {v : ℚ}

theorem HasValue.lt_zero_iff (h : HasValue x v) : x < 0.0 ↔ v < 0 :=
  h.lt_iff (hasValue_of_unpack rfl rfl rfl)

end Double

namespace Word

/-- A word is turned into the double nearest to it. -/
theorem hasValue_toFloat (w : Int64) : HasValue (toFloat w) (nearest w.toInt) := by
  have hsize := Double.hasValue_toFloat (UInt64.ofNat w.toInt.natAbs)
  rw [toNat_ofNat_natAbs, Nat.cast_natAbs] at hsize
  unfold toFloat
  dsimp only
  split
  next hneg =>
    rw [abs_of_neg (Int64.lt_iff_toInt_lt.1 hneg), Int.cast_neg, nearest_neg] at hsize
    simpa using hsize.neg
  next hpos =>
    rw [abs_of_nonneg (not_lt.1 fun h => hpos (Int64.lt_iff_toInt_lt.2 h))] at hsize
    exact hsize

theorem value_toFloat (w : Int64) : value (toFloat w) = nearest w.toInt :=
  (hasValue_toFloat w).value

theorem value_nonneg {w : Int64} (h : 0 ≤ w.toInt) : 0 ≤ value (toFloat w) := by
  rw [value_toFloat]
  exact nearest_nonneg (Int.cast_nonneg h)

/-- The size of a word other than zero is at least one, also as a double. -/
theorem one_le_value {w : Int64} (h : 1 ≤ w.toInt) : 1 ≤ value (toFloat w) := by
  have hone := @nearest_intCast 1 (by decide)
  push_cast at hone
  rw [value_toFloat, ← hone]
  exact nearest_mono (by exact_mod_cast h)

theorem value_le_neg_one {w : Int64} (h : w.toInt ≤ -1) : value (toFloat w) ≤ -1 := by
  have hone := @nearest_intCast (-1) (by decide)
  push_cast at hone
  rw [value_toFloat, ← hone]
  exact nearest_mono (by exact_mod_cast h)

end Word

end Assessment
