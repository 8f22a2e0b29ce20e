import Assessment.Evaluation.Operation
import Assessment.Proofs.Number.Finite

/-!
# Comparison of integers

Integers are put in order as words. Whether they are equal is asked of the doubles nearest to them,
as it is for all numbers, and great words may share a double: then two integers are called equal of
which one is also called less. Otherwise order and equality agree.

## Main definitions

- `Operator.Decides`: an operator gives the truth value of a statement about two integers.
- `Operator.ComparisonsAgree`: order and equality agree about two integers.

## Main results

- `Operator.decides_compare`: the order is that of the integers.
- `Operator.decides_equal`: equality is that of the nearest doubles.
- `Operator.comparisons_agree_iff`: order and equality agree unless different integers share a
  double.
-/

namespace Assessment

open Double Rounding

/-! ### What the operators say -/

/-- What a comparison says about two integers. -/
def Comparison.Orders (comparison : Comparison) (a b : Int) : Prop :=
  match comparison with
  | lt => a < b
  | gt => b < a
  | lte => a ≤ b
  | gte => b ≤ a

theorem Comparison.holdsWords_iff (comparison : Comparison) (a b : Int64) :
    comparison.holdsWords a b = true ↔ comparison.Orders a.toInt b.toInt := by
  cases comparison <;>
    simp [holdsWords, Orders, Int64.lt_iff_toInt_lt, Int64.le_iff_toInt_le]

/-- The test for numbers that are equal without a tolerance. -/
def EqualityTest.exactly (test : EqualityTest) : EqualityTest := { test with mode := .exact }

/-- Words are accepted as equal when they share a double. -/
theorem EqualityTest.accepts_exactly (test : EqualityTest) (a b : Int64) :
    test.exactly.accepts (Word.toFloat a) (Word.toFloat b) = true ↔
      nearest a.toInt = nearest b.toInt :=
  (Word.hasValue_toFloat a).beq_iff (Word.hasValue_toFloat b)

namespace Operator

section Statements

variable (policy : OverflowPolicy) (source : RandomSource) (operator : Operator) (a b : Int64)

/-- Over two integers an operator gives a truth value, and it is that of a statement. -/
def Decides (p : Prop) : Prop :=
  ∃ truth : Bool,
    operator.apply policy [.integer a, .integer b] source = .ok (.boolean truth, source) ∧
    (truth = true ↔ p)

/-- Over two integers an operator gives true. -/
def Affirms : Prop :=
  operator.apply policy [.integer a, .integer b] source = .ok (.boolean true, source)

/-- What the operators say about the order and about the equality of two integers fits together. -/
structure ComparisonsAgree (test : EqualityTest) : Prop where
  /-- The first is less, or greater, or equal, and only one of these. -/
  existsUnique : ∃! operator : Operator,
    operator ∈ [compare .lt, compare .gt, equal test.exactly] ∧ Affirms policy source operator a b
  /-- Not greater is less or equal. -/
  lte_iff : Affirms policy source (compare .lte) a b ↔
    Affirms policy source (compare .lt) a b ∨ Affirms policy source (equal test.exactly) a b
  /-- Not less is greater or equal. -/
  gte_iff : Affirms policy source (compare .gte) a b ↔
    Affirms policy source (compare .gt) a b ∨ Affirms policy source (equal test.exactly) a b
  /-- An integer is equal to itself alone. -/
  equal_iff : Affirms policy source (equal test.exactly) a b ↔ a = b

variable {policy source operator a b} in
theorem Decides.affirms_iff {p : Prop} (h : Decides policy source operator a b p) :
    Affirms policy source operator a b ↔ p := by
  obtain ⟨truth, happly, htruth⟩ := h
  rw [← htruth, Affirms, happly]
  cases truth <;> simp [Value.boolean]

/-- Integers are put in order as integers. -/
theorem decides_compare (comparison : Comparison) :
    Decides policy source (compare comparison) a b (comparison.Orders a.toInt b.toInt) :=
  ⟨_, rfl, comparison.holdsWords_iff a b⟩

/-- Integers are equal when they share a double. -/
theorem decides_equal (test : EqualityTest) :
    Decides policy source (equal test.exactly) a b (nearest a.toInt = nearest b.toInt) :=
  ⟨_, rfl, test.accepts_exactly a b⟩

/-! ### Agreement -/

variable {policy source a b} (test : EqualityTest)

/-- Order and equality agree when equality is that of integers: then all say what is so. -/
theorem comparisonsAgree_of_iff (h : Affirms policy source (equal test.exactly) a b ↔ a = b) :
    ComparisonsAgree policy source a b test := by
  have hequal : a = b ↔ a.toInt = b.toInt := Int64.toInt_inj.symm
  have horder (comparison : Comparison) :=
    (decides_compare policy source a b comparison).affirms_iff
  refine ⟨?_, ?_, ?_, h⟩
  · simp only [List.mem_cons, List.not_mem_nil, or_false]
    obtain hlt | heq | hgt := lt_trichotomy a.toInt b.toInt
    · refine ⟨compare .lt, ⟨.inl rfl, (horder .lt).2 hlt⟩, ?_⟩
      rintro - ⟨rfl | rfl | rfl, haffirms⟩
      · rfl
      · exact absurd ((horder .gt).1 haffirms) hlt.not_gt
      · exact absurd (hequal.1 (h.1 haffirms)) hlt.ne
    · refine ⟨equal test.exactly, ⟨.inr (.inr rfl), h.2 (hequal.2 heq)⟩, ?_⟩
      rintro - ⟨rfl | rfl | rfl, haffirms⟩
      · exact absurd heq ((horder .lt).1 haffirms).ne
      · exact absurd heq ((horder .gt).1 haffirms).ne'
      · rfl
    · refine ⟨compare .gt, ⟨.inr (.inl rfl), (horder .gt).2 hgt⟩, ?_⟩
      rintro - ⟨rfl | rfl | rfl, haffirms⟩
      · exact absurd ((horder .lt).1 haffirms) hgt.not_gt
      · rfl
      · exact absurd (hequal.1 (h.1 haffirms)) hgt.ne'
  · rw [horder, horder, h, hequal]
    exact le_iff_lt_or_eq
  · rw [horder, horder, h, hequal, eq_comm]
    exact le_iff_lt_or_eq

end Statements

/-- **Order and equality of integers.** The four comparisons are those of the integers, and two
integers are called equal when they share a double. All of this fits together exactly where the
integers are the same or do not share a double, and so for integers up to `2 ^ 53`. -/
theorem comparisons_agree_iff (policy : OverflowPolicy) (source : RandomSource)
    (test : EqualityTest) (a b : Int64) :
    (∀ comparison, Decides policy source (compare comparison) a b
      (comparison.Orders a.toInt b.toInt)) ∧
    Decides policy source (equal test.exactly) a b (nearest a.toInt = nearest b.toInt) ∧
    (ComparisonsAgree policy source a b test ↔ (nearest a.toInt = nearest b.toInt → a = b)) ∧
    (a.toInt.natAbs ≤ 2 ^ 53 → b.toInt.natAbs ≤ 2 ^ 53 →
      ComparisonsAgree policy source a b test) := by
  have hequal := decides_equal policy source a b test
  have hagree : ComparisonsAgree policy source a b test ↔
      (nearest a.toInt = nearest b.toInt → a = b) := by
    refine ⟨fun h hnearest => h.equal_iff.1 (hequal.affirms_iff.2 hnearest), fun h => ?_⟩
    refine comparisonsAgree_of_iff test (hequal.affirms_iff.trans ⟨h, ?_⟩)
    rintro rfl
    rfl
  refine ⟨decides_compare policy source a b, hequal, hagree, fun ha hb => hagree.2 fun h => ?_⟩
  rw [nearest_intCast ha, nearest_intCast hb, Int.cast_inj] at h
  exact Int64.toInt_inj.1 h

/-- Minus three and two are put in order, and are not equal. -/
theorem comparisons_agree_iff_small :
    ComparisonsAgree .fail (.ofSeed 0) (-3) 2 ⟨.exact, [], true, true⟩ :=
  (comparisons_agree_iff .fail (.ofSeed 0) ⟨.exact, [], true, true⟩ (-3) 2).2.2.2
    (by decide) (by decide)

/-- The first integer that is not a double is called equal to the one before it. -/
theorem not_forall_comparisonsAgree :
    ¬∀ (policy : OverflowPolicy) (source : RandomSource) (test : EqualityTest) (a b : Int64),
      ComparisonsAgree policy source a b test := by
  intro h
  have hagree := h .fail (.ofSeed 0) ⟨.exact, [], true, true⟩ 0x20000000000000 0x20000000000001
  exact absurd (hagree.equal_iff.1 rfl) (by decide)

end Operator

end Assessment
