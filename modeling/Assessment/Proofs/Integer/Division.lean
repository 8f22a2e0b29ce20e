import Mathlib.Algebra.Order.Floor.Ring
import Mathlib.Data.Rat.Floor
import Mathlib.Tactic.Linarith
import Assessment.Proofs.Integer.Basic

/-!
# Division that rounds down

Words are divided with rounding toward zero. Where that rounded up, the quotient is lowered by one,
and a remainder that has not the sign of the divisor is raised by the divisor. Together they are the
quotient that is rounded down, and its remainder. Only the least word divided by minus one leaves
the range, and of the operations on the way no other one does.

## Main definitions

- `Word.DividesInRange`: no operation on the way leaves the range.

## Main results

- `Word.inRange_tdiv_iff`: which quotients leave the range.
- `toInt_of_divideDown` and `toInt_of_remainderDown`: quotient and remainder are rounded down.
- `Operator.division_exact`: what the two operators give.
-/

namespace Assessment

/-! ### Integers -/

namespace Word

variable {a b : Int}

theorem natAbs_tmod_lt (a : Int) (hb : b ≠ 0) : (a.tmod b).natAbs < b.natAbs := by
  rw [Int.natAbs_tmod]
  exact Nat.mod_lt _ (Int.natAbs_pos.2 hb)

/-- A remainder has the sign of the dividend, unless it is zero. -/
theorem tmod_neg_iff (h : a.tmod b ≠ 0) : a.tmod b < 0 ↔ a < 0 := by
  obtain hneg | hpos := lt_or_ge a 0
  · have hnonneg := Int.tmod_nonneg b (neg_nonneg.2 hneg.le)
    rw [Int.neg_tmod] at hnonneg
    omega
  · have hnonneg := Int.tmod_nonneg b hpos
    omega

/-- A quotient is rounded down by lowering it where rounding toward zero has raised it. -/
theorem fdiv_eq_ite (hb : b ≠ 0) :
    a.fdiv b = if a.tmod b ≠ 0 ∧ ¬(a < 0 ↔ b < 0) then a.tdiv b - 1 else a.tdiv b := by
  rw [Int.fdiv_eq_tdiv]
  simp only [Int.dvd_iff_tmod_eq_zero]
  obtain hneg | hpos := lt_or_gt_of_ne hb
  · rw [Int.sign_eq_neg_one_of_neg hneg]
    split_ifs <;> omega
  · rw [Int.sign_eq_one_of_pos hpos]
    split_ifs <;> omega

/-- The remainder of a quotient that is lowered is raised. -/
theorem fmod_eq_ite (hb : b ≠ 0) :
    a.fmod b = if a.tmod b ≠ 0 ∧ ¬(a.tmod b < 0 ↔ b < 0) then a.tmod b + b else a.tmod b := by
  have hsign : (a.tmod b ≠ 0 ∧ ¬(a.tmod b < 0 ↔ b < 0)) ↔ a.tmod b ≠ 0 ∧ ¬(a < 0 ↔ b < 0) :=
    and_congr_right fun hne => by rw [tmod_neg_iff hne]
  simp only [hsign]
  rw [Int.fmod_def, Int.tmod_def, fdiv_eq_ite hb, Int.tmod_def]
  split_ifs
  · ring
  · rfl

/-- Division that rounds down takes the greatest integer below the exact quotient. -/
theorem fdiv_eq_floor (a b : Int) : a.fdiv b = ⌊(a : ℚ) / b⌋ := by
  have hnonneg (a : Int) (n : ℕ) : a.fdiv n = ⌊(a : ℚ) / (n : Int)⌋ := by
    rw [Int.fdiv_eq_ediv_of_nonneg a (Int.natCast_nonneg n), Int.cast_natCast,
      Rat.floor_intCast_div_natCast]
  obtain ⟨n, rfl | rfl⟩ := b.eq_nat_or_neg
  · exact hnonneg a n
  · rw [← Int.neg_fdiv_neg, neg_neg, hnonneg, Int.cast_neg, Int.cast_neg, neg_div, div_neg]

/-- The remainder of a quotient that is rounded down is smaller than the divisor, and has its sign
unless it is zero. -/
theorem fmod_bounds (a : Int) (hb : b ≠ 0) :
    (a.fmod b).natAbs < b.natAbs ∧ (a.fmod b = 0 ∨ (a.fmod b < 0 ↔ b < 0)) := by
  have hlt := natAbs_tmod_lt a hb
  rw [fmod_eq_ite hb]
  generalize a.tmod b = r at hlt ⊢
  -- A remainder of the other sign does not outweigh the divisor that is added to it.
  split_ifs <;> omega

/-! ### Words -/

variable {x y q r : Int64}

theorem toInt_ne_zero (hy : y ≠ 0) : y.toInt ≠ 0 := fun h => hy (Int64.toInt_inj.1 h)

theorem signsDiffer_iff (x y : Int64) :
    signsDiffer x y = true ↔ ¬(x.toInt < 0 ↔ y.toInt < 0) := by
  simp only [signsDiffer, bne_iff_ne, ne_eq, decide_eq_decide, Int64.lt_iff_toInt_lt,
    Int64.toInt_zero]

theorem sub?_of_inRange (h : InRange (x.toInt - y.toInt)) :
    sub? x y = some (x - y) ∧ (x - y).toInt = x.toInt - y.toInt := by
  have hsub : Int64.ofInt (x.toInt - y.toInt) = x - y := by
    rw [Int64.ofInt_sub, Int64.ofInt_toInt, Int64.ofInt_toInt]
  rw [sub?, narrow?_of_inRange h, ← hsub]
  exact ⟨rfl, toInt_ofInt h⟩

theorem add?_of_inRange (h : InRange (x.toInt + y.toInt)) :
    add? x y = some (x + y) ∧ (x + y).toInt = x.toInt + y.toInt := by
  have hadd : Int64.ofInt (x.toInt + y.toInt) = x + y := by
    rw [Int64.ofInt_add, Int64.ofInt_toInt, Int64.ofInt_toInt]
  rw [add?, narrow?_of_inRange h, ← hadd]
  exact ⟨rfl, toInt_ofInt h⟩

/-- A quotient by anything but minus one, zero and one is at most half of the dividend. -/
theorem two_mul_natAbs_tdiv_le {a b : Int} (hb : 2 ≤ b.natAbs) :
    2 * (a.tdiv b).natAbs ≤ a.natAbs := by
  rw [Int.natAbs_tdiv]
  calc 2 * (a.natAbs / b.natAbs) ≤ b.natAbs * (a.natAbs / b.natAbs) := Nat.mul_le_mul_right _ hb
    _ ≤ a.natAbs := Nat.mul_div_le _ _

/-- Only the least word divided by minus one leaves the range. -/
theorem inRange_tdiv_iff (hy : y ≠ 0) :
    InRange (x.toInt.tdiv y.toInt) ↔ ¬(x = leastWord ∧ y = -1) := by
  have hx := inRange_toInt x
  have hne := toInt_ne_zero hy
  simp only [InRange, least, greatest] at hx ⊢
  refine ⟨?_, fun hleast => ?_⟩
  · rintro h ⟨rfl, rfl⟩
    revert h
    decide
  by_cases hgreat : 2 ≤ y.toInt.natAbs
  · have hhalf := two_mul_natAbs_tdiv_le (a := x.toInt) hgreat
    omega
  obtain hone | hminus : y.toInt = 1 ∨ y.toInt = -1 := by omega
  · rw [hone, Int.tdiv_one]
    exact hx
  · rw [hminus, Int.tdiv_neg, Int.tdiv_one]
    have hne' : x.toInt ≠ leastWord.toInt := fun h =>
      hleast ⟨Int64.toInt_inj.1 h, Int64.toInt_inj.1 hminus⟩
    have hvalue : leastWord.toInt = -0x8000000000000000 := rfl
    omega

/-- Where there is a quotient, it is rounded toward zero, and so is the remainder. -/
theorem div?_eq_some_iff :
    div? x y = some q ↔ y ≠ 0 ∧ ¬(x = leastWord ∧ y = -1) ∧ q.toInt = x.toInt.tdiv y.toInt := by
  by_cases hy : y = 0
  · simp [div?, hy]
  rw [div?, if_neg hy]
  by_cases hrange : InRange (x.toInt.tdiv y.toInt)
  · rw [narrow?_of_inRange hrange, Option.some_inj]
    simp only [ne_eq, hy, not_false_eq_true, true_and, (inRange_tdiv_iff hy).1 hrange]
    rw [← Int64.toInt_inj, toInt_ofInt hrange, eq_comm]
  · rw [narrow?_of_not_inRange hrange]
    have hleast := mt (inRange_tdiv_iff hy).2 hrange
    simp [hleast]

/-- Where there is a remainder, it is that of the quotient rounded toward zero. -/
theorem mod?_eq_some_iff :
    mod? x y = some r ↔ y ≠ 0 ∧ ¬(x = leastWord ∧ y = -1) ∧ r = x % y := by
  rw [mod?, Option.map_eq_some_iff]
  refine ⟨?_, fun ⟨hy, hleast, hr⟩ => ?_⟩
  · rintro ⟨q, hq, rfl⟩
    obtain ⟨hy, hleast, -⟩ := div?_eq_some_iff.1 hq
    exact ⟨hy, hleast, rfl⟩
  · have hrange := (inRange_tdiv_iff hy).2 hleast
    exact ⟨_, div?_eq_some_iff.2 ⟨hy, hleast, toInt_ofInt hrange⟩, hr.symm⟩

/-- No operation on the way to a quotient and a remainder that are rounded down leaves the range of
words, the one division apart for which there is no quotient. -/
structure DividesInRange (x y : Int64) : Prop where
  /-- A remainder is taken only where the division is one of words. -/
  divides : ∀ q, div? x y = some q → y ≠ 0 ∧ ¬(x = leastWord ∧ y = -1)
  /-- A quotient that is lowered is still a word. -/
  lowers : ∀ q, div? x y = some q → x % y ≠ 0 → signsDiffer x y = true → sub? q 1 = some (q - 1)
  /-- A remainder that is raised by the divisor is still a word. -/
  raises : ∀ r, mod? x y = some r → r ≠ 0 → signsDiffer r y = true → add? r y = some (r + y)

theorem mod_ne_zero_iff : x % y ≠ 0 ↔ x.toInt.tmod y.toInt ≠ 0 := by
  rw [ne_eq, ← Int64.toInt_inj, Int64.toInt_mod, Int64.toInt_zero]

/-- A division that leaves a remainder has a quotient that can be lowered. -/
theorem inRange_tdiv_sub_one (hy : y ≠ 0) (h : x.toInt.tmod y.toInt ≠ 0) :
    InRange (x.toInt.tdiv y.toInt - 1) := by
  have hx := inRange_toInt x
  have hlt := natAbs_tmod_lt x.toInt (toInt_ne_zero hy)
  -- Nothing is left over by a divisor of one or of minus one.
  have hhalf := two_mul_natAbs_tdiv_le (a := x.toInt) (b := y.toInt) (by omega)
  simp only [InRange, least, greatest] at hx ⊢
  omega

/-- Of two words of which one is below zero and the other is not the sum is a word. -/
theorem inRange_add_of_signsDiffer (h : signsDiffer x y = true) : InRange (x.toInt + y.toInt) := by
  have hx := inRange_toInt x
  have hy := inRange_toInt y
  rw [signsDiffer_iff] at h
  simp only [InRange, least, greatest] at hx hy ⊢
  omega

theorem dividesInRange (x y : Int64) : DividesInRange x y where
  divides q hq := ⟨(div?_eq_some_iff.1 hq).1, (div?_eq_some_iff.1 hq).2.1⟩
  lowers q hq hmod _ := by
    obtain ⟨hy, -, hvalue⟩ := div?_eq_some_iff.1 hq
    refine (sub?_of_inRange ?_).1
    rw [hvalue]
    exact inRange_tdiv_sub_one hy (mod_ne_zero_iff.1 hmod)
  raises r _ _ hsigns := (add?_of_inRange (inRange_add_of_signsDiffer hsigns)).1

end Word

/-! ### Operators -/

open Word

variable {x y : Int64}

/-- The quotient of words is rounded down. -/
theorem toInt_of_divideDown (hy : y ≠ 0) (hleast : ¬(x = leastWord ∧ y = -1)) (operation : String)
    (policy : OverflowPolicy) :
    ∃ q, divideDown operation policy x y = .ok q ∧ q.toInt = x.toInt.fdiv y.toInt := by
  have hrange := (inRange_tdiv_iff hy).2 hleast
  have hvalue := toInt_ofInt hrange
  have hdiv := div?_eq_some_iff.2 ⟨hy, hleast, hvalue⟩
  rw [divideDown, if_neg hy, hdiv]
  refine ⟨_, rfl, ?_⟩
  simp only [mod_ne_zero_iff, signsDiffer_iff]
  rw [fdiv_eq_ite (toInt_ne_zero hy)]
  split_ifs with hlowered
  · rw [(sub?_of_inRange ?_).2, hvalue]
    · rfl
    · rw [hvalue]
      exact inRange_tdiv_sub_one hy hlowered.1
  · exact hvalue

/-- The remainder of words is that of the quotient that is rounded down. -/
theorem toInt_of_remainderDown (hy : y ≠ 0) (operation : String) :
    ∃ r, remainderDown operation x y = .ok r ∧ r.toInt = x.toInt.fmod y.toInt := by
  rw [remainderDown, if_neg hy]
  refine ⟨_, rfl, ?_⟩
  -- Without a quotient there is nothing left over, as the other division says as well.
  have hmod : (mod? x y).getD 0 = x % y := by
    by_cases hleast : x = leastWord ∧ y = -1
    · obtain ⟨rfl, rfl⟩ := hleast
      rfl
    · rw [mod?_eq_some_iff.2 ⟨hy, hleast, rfl⟩]
      rfl
  rw [hmod]
  simp only [mod_ne_zero_iff, signsDiffer_iff]
  rw [Int64.toInt_mod, fmod_eq_ite (toInt_ne_zero hy)]
  split_ifs with hraised
  · rw [(add?_of_inRange ?_).2, Int64.toInt_mod]
    refine inRange_add_of_signsDiffer ((signsDiffer_iff _ _).2 ?_)
    rw [Int64.toInt_mod]
    exact hraised.2
  · exact Int64.toInt_mod x y

/-- The least word divided by minus one is an overflow. -/
theorem divideDown_leastWord (operation : String) (policy : OverflowPolicy) :
    divideDown operation policy leastWord (-1) = onOverflow operation policy greatestWord := rfl

namespace Operator

variable (policy : OverflowPolicy) (source : RandomSource) (x y : Int64)

theorem apply_integerDivide :
    integerDivide.apply policy [.integer x, .integer y] source =
      (divideDown "integerDivide" policy x y).map (Value.integer ·, source) := by
  show (divideDown "integerDivide" policy x y >>= fun q => Except.ok (Value.integer q)) >>= _ = _
  cases divideDown "integerDivide" policy x y <;> rfl

theorem apply_integerModulus :
    integerModulus.apply policy [.integer x, .integer y] source =
      (remainderDown "integerModulus" x y).map (Value.integer ·, source) := by
  show (remainderDown "integerModulus" x y >>= fun r => Except.ok (Value.integer r)) >>= _ = _
  cases remainderDown "integerModulus" x y <;> rfl

variable {x y}

theorem exists_apply_integerDivide (hy : y ≠ 0) (hleast : ¬(x = leastWord ∧ y = -1)) :
    ∃ q : Int64,
      integerDivide.apply policy [.integer x, .integer y] source = .ok (.integer q, source) ∧
      q.toInt = x.toInt.fdiv y.toInt := by
  obtain ⟨q, hq, hdiv⟩ := toInt_of_divideDown hy hleast "integerDivide" policy
  refine ⟨q, ?_, hdiv⟩
  rw [apply_integerDivide, hq]
  rfl

theorem exists_apply_integerModulus (hy : y ≠ 0) :
    ∃ r : Int64,
      integerModulus.apply policy [.integer x, .integer y] source = .ok (.integer r, source) ∧
      r.toInt = x.toInt.fmod y.toInt := by
  obtain ⟨r, hr, hmod⟩ := toInt_of_remainderDown (x := x) hy "integerModulus"
  refine ⟨r, ?_, hmod⟩
  rw [apply_integerModulus, hr]
  rfl

theorem apply_integerDivide_ne_divisionByZero (hy : y ≠ 0) :
    integerDivide.apply policy [.integer x, .integer y] source ≠
      .error (.divisionByZero "integerDivide") := by
  by_cases hleast : x = leastWord ∧ y = -1
  · obtain ⟨rfl, rfl⟩ := hleast
    rw [apply_integerDivide, divideDown_leastWord]
    cases policy <;> nofun
  · obtain ⟨q, hq, -⟩ := exists_apply_integerDivide policy source hy hleast
    rw [hq]
    nofun

variable (x y)

/-- **Division of integers rounds down.** The two operators fault for a divisor of zero, and for no
other. Any other divisor leaves a remainder that is smaller and is zero or has its sign, and the
quotient is the greatest integer below the exact one. The least word divided by minus one is the
one overflow, and leaves nothing over. No operation on the way leaves the range of words. -/
theorem division_exact :
    (integerDivide.apply policy [.integer x, .integer y] source =
      .error (.divisionByZero "integerDivide") ↔ y = 0) ∧
    (integerModulus.apply policy [.integer x, .integer y] source =
      .error (.divisionByZero "integerModulus") ↔ y = 0) ∧
    (y ≠ 0 → ∃ r : Int64,
      integerModulus.apply policy [.integer x, .integer y] source = .ok (.integer r, source) ∧
      r.toInt.natAbs < y.toInt.natAbs ∧ (r = 0 ∨ (r.toInt < 0 ↔ y.toInt < 0)) ∧
      (¬(x = leastWord ∧ y = -1) → ∃ q : Int64,
        integerDivide.apply policy [.integer x, .integer y] source = .ok (.integer q, source) ∧
        q.toInt = ⌊(x.toInt : ℚ) / y.toInt⌋ ∧ x.toInt = q.toInt * y.toInt + r.toInt) ∧
      (x = leastWord ∧ y = -1 → r = 0 ∧
        integerDivide.apply .fail [.integer x, .integer y] source =
          .error (.overflow "integerDivide") ∧
        integerDivide.apply .saturate [.integer x, .integer y] source =
          .ok (.integer greatestWord, source))) ∧
    DividesInRange x y := by
  by_cases hy : y = 0
  · subst hy
    exact ⟨iff_of_true rfl rfl, iff_of_true rfl rfl, fun hne => absurd rfl hne, dividesInRange x 0⟩
  obtain ⟨r, hmodulus, hmod⟩ := exists_apply_integerModulus (x := x) policy source hy
  have hbounds := fmod_bounds x.toInt (toInt_ne_zero hy)
  rw [← hmod] at hbounds
  refine ⟨iff_of_false (apply_integerDivide_ne_divisionByZero policy source hy) hy,
    iff_of_false (hmodulus ▸ nofun) hy, fun _ => ⟨r, hmodulus, hbounds.1, ?_, ?_, ?_⟩,
    dividesInRange x y⟩
  · exact hbounds.2.imp_left fun hzero => Int64.toInt_inj.1 hzero
  · intro hleast
    obtain ⟨q, hq, hdiv⟩ := exists_apply_integerDivide policy source hy hleast
    refine ⟨q, hq, hdiv.trans (fdiv_eq_floor _ _), ?_⟩
    rw [hdiv, hmod, Int.fdiv_mul_add_fmod]
  · rintro ⟨rfl, rfl⟩
    refine ⟨?_, rfl, rfl⟩
    rw [← Int64.toInt_inj, hmod]
    decide

/-- Minus seven divided by two is minus four, and one is left over. -/
theorem division_exact_negative :
    integerDivide.apply .fail [.integer (-7), .integer 2] (.ofSeed 0) =
        .ok (.integer (-4), .ofSeed 0) ∧
      integerModulus.apply .fail [.integer (-7), .integer 2] (.ofSeed 0) =
        .ok (.integer 1, .ofSeed 0) := by
  obtain ⟨r, hr, -, -, hdivides, -⟩ :=
    (division_exact .fail (.ofSeed 0) (-7) 2).2.2.1 (by decide)
  obtain ⟨q, hq, hfloor, hsum⟩ := hdivides (by decide)
  have hvalue : q.toInt = -4 := by
    rw [hfloor]
    show ⌊((-7 : ℤ) : ℚ) / ((2 : ℤ) : ℚ)⌋ = -4
    norm_num
  have hrest : r.toInt = 1 := by
    rw [hvalue] at hsum
    change -7 = -4 * 2 + r.toInt at hsum
    omega
  obtain rfl : q = -4 := Int64.toInt_inj.1 hvalue
  obtain rfl : r = 1 := Int64.toInt_inj.1 hrest
  exact ⟨hq, hr⟩

end Operator

end Assessment
