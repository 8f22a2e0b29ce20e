import Mathlib.Algebra.BigOperators.Group.List.Basic
import Mathlib.Algebra.Order.BigOperators.Group.List
import Mathlib.Algebra.Order.Ring.Int
import Mathlib.Data.List.Perm.Subperm
import Assessment.Proofs.Integer.Basic
import Assessment.Proofs.Number.Finite

/-!
# Sums and products of integers

The sum and the product of words are found by going through the words from left to right, and what
is found on the way is narrowed each time. So the result is exact where no total of the first words
leaves the range, and otherwise there is an overflow, also where the total of all words is a word
again. Whether this happens depends on the order of the words.

## Main definitions

- `Arithmetic.Computes`: an operation on words computes the totals of integers.
- `Operator.TotalsWords`: what an operator makes of words that are totalled.

## Main results

- `Arithmetic.Computes.foldlM_of_inRange` and `Arithmetic.Computes.foldlM_of_not_inRange`: which
  words have a total.
- `Arithmetic.Computes.foldl_clamp_of_pos`: the total of positive words is held at the end of the
  range.
- `Operator.totalsWords_sum_product`: what sums and products are.
-/

namespace Assessment

open Word

/-! ### Steps -/

namespace Arithmetic

/-- An operation on words computes the totals of integers. -/
structure Computes (arithmetic : Arithmetic) (total : List Int64 → Int) : Prop where
  /-- The total of no words is in the range. -/
  nil : InRange (total [])
  /-- The total of one word is the word. -/
  singleton : ∀ w, total [w] = w.toInt
  /-- A word stands for two of which it is the total. -/
  merge : ∀ {a b w : Int64} (rest : List Int64), w.toInt = total [a, b] →
    total (w :: rest) = total (a :: b :: rest)
  /-- The total does not depend on the order. -/
  perm : ∀ {words others : List Int64}, words.Perm others → total words = total others
  /-- Positive words make the total greater. -/
  grows : ∀ front back : List Int64, (∀ w ∈ front ++ back, 0 < w.toInt) →
    total front ≤ total (front ++ back)
  /-- The operation gives the total of two words, if it is a word. -/
  onWords : ∀ a b, arithmetic.onWords a b = narrow? (total [a, b])
  /-- Otherwise doubles have the sign of the total. -/
  onDoubles : ∀ a b, ¬InRange (total [a, b]) →
    (arithmetic.onDoubles (toFloat a) (toFloat b) < 0.0 ↔ total [a, b] < 0)

namespace Computes

variable {arithmetic : Arithmetic} {total : List Int64 → Int} {a b : Int64} {operation : String}
  {policy : OverflowPolicy}

/-- One step gives the total, if it is a word. -/
theorem step_of_inRange (h : arithmetic.Computes total) (hrange : InRange (total [a, b])) :
    arithmetic.step operation policy a b = .ok (Int64.ofInt (total [a, b])) := by
  rw [step, h.onWords, narrow?_of_inRange hrange]

/-- Otherwise it is an overflow, and the end of the range that the doubles tell is the nearest
word. -/
theorem step_of_not_inRange (h : arithmetic.Computes total) (hrange : ¬InRange (total [a, b])) :
    arithmetic.step operation policy a b = onOverflow operation policy (clamp (total [a, b])) := by
  rw [step, h.onWords, narrow?_of_not_inRange hrange]
  dsimp only
  have hsign := h.onDoubles a b hrange
  congr 1
  split
  next hlow => exact (clamp_of_le_least (le_least_of_not_inRange hrange (hsign.1 hlow))).symm
  next hhigh =>
    have hpos := not_lt.1 (mt hsign.2 hhigh)
    exact (clamp_of_greatest_le (greatest_le_of_not_inRange hrange hpos)).symm

theorem step_fail (h : arithmetic.Computes total) (hrange : ¬InRange (total [a, b])) :
    arithmetic.step operation .fail a b = .error (.overflow operation) :=
  h.step_of_not_inRange hrange

theorem step_saturate (h : arithmetic.Computes total) :
    arithmetic.step operation .saturate a b = .ok (clamp (total [a, b])) := by
  by_cases hrange : InRange (total [a, b])
  · rw [h.step_of_inRange hrange, clamp_of_inRange hrange]
  · exact h.step_of_not_inRange hrange

/-! ### Runs -/

variable {first : Int64} {front rest : List Int64}

/-- The total of all words is found where no total on the way leaves the range. -/
theorem foldlM_of_inRange (h : arithmetic.Computes total)
    (hrange : ∀ front, front <+: first :: rest → InRange (total front)) :
    rest.foldlM (arithmetic.step operation policy) first =
      .ok (Int64.ofInt (total (first :: rest))) := by
  induction rest generalizing first with
  | nil =>
    rw [h.singleton, Int64.ofInt_toInt]
    rfl
  | cons next rest ih =>
    have hpair := hrange [first, next] (List.prefix_append [first, next] rest)
    have hmerge := toInt_ofInt hpair
    rw [List.foldlM_cons, h.step_of_inRange hpair]
    show rest.foldlM _ (Int64.ofInt (total [first, next])) = _
    rw [ih, h.merge rest hmerge]
    -- The totals on the way from here are those of the first two words and some more.
    intro front hfront
    obtain rfl | ⟨more, rfl, hmore⟩ := List.prefix_cons_iff.1 hfront
    · exact h.nil
    · rw [h.merge more hmerge]
      exact hrange _ (List.cons_prefix_cons.2 ⟨rfl, List.cons_prefix_cons.2 ⟨rfl, hmore⟩⟩)

/-- One total on the way that leaves the range is a fault. -/
theorem foldlM_of_not_inRange (h : arithmetic.Computes total) (hfront : front <+: first :: rest)
    (hrange : ¬InRange (total front)) :
    rest.foldlM (arithmetic.step operation .fail) first = .error (.overflow operation) := by
  obtain rfl | ⟨more, rfl, hmore⟩ := List.prefix_cons_iff.1 hfront
  · exact absurd h.nil hrange
  -- Each step puts one word in the place of two, and so shortens the words that leave the range.
  clear hfront
  induction rest generalizing first more with
  | nil =>
    obtain rfl := List.prefix_nil.1 hmore
    rw [h.singleton] at hrange
    exact absurd (inRange_toInt first) hrange
  | cons next rest ih =>
    rw [List.foldlM_cons]
    by_cases hpair : InRange (total [first, next])
    · rw [h.step_of_inRange hpair]
      show rest.foldlM _ (Int64.ofInt (total [first, next])) = _
      obtain rfl | ⟨others, rfl, hothers⟩ := List.prefix_cons_iff.1 hmore
      · rw [h.singleton] at hrange
        exact absurd (inRange_toInt first) hrange
      · rw [← h.merge others (toInt_ofInt hpair)] at hrange
        exact ih others hothers hrange
    · rw [h.step_fail hpair]
      rfl

/-- Held at the ends of the range, there always is a result. -/
theorem foldlM_saturate (h : arithmetic.Computes total) :
    rest.foldlM (arithmetic.step operation .saturate) first =
      .ok (rest.foldl (fun w next => clamp (total [w, next])) first) := by
  have hstep : arithmetic.step operation .saturate =
      fun w next => pure (clamp (total [w, next])) := by
    funext w next
    exact h.step_saturate
  rw [hstep, List.foldlM_pure]
  rfl

/-- Positive words leave the range at its upper end and do not come back: holding the total on the
way is holding it at the end. -/
theorem foldl_clamp_of_pos (h : arithmetic.Computes total)
    (hpos : ∀ w ∈ first :: rest, 0 < w.toInt) :
    rest.foldl (fun w next => clamp (total [w, next])) first = clamp (total (first :: rest)) := by
  induction rest generalizing first with
  | nil => rw [h.singleton, clamp_toInt, List.foldl_nil]
  | cons next rest ih =>
    have hpair : first.toInt ≤ total [first, next] := by
      rw [← h.singleton]
      exact h.grows [first] [next] fun w hw =>
        hpos w ((List.prefix_append [first, next] rest).subset hw)
    have hfirst := hpos first List.mem_cons_self
    have hmore := h.grows [first, next] rest hpos
    have hclamp := toInt_clamp (total [first, next])
    have hrest : ∀ w ∈ clamp (total [first, next]) :: rest, 0 < w.toInt := by
      refine List.forall_mem_cons.2 ⟨?_, fun w hw =>
        hpos w (List.mem_cons_of_mem _ (List.mem_cons_of_mem _ hw))⟩
      rw [hclamp]
      simp only [least, greatest]
      omega
    rw [List.foldl_cons, ih hrest]
    by_cases hrange : InRange (total [first, next])
    · rw [clamp_of_inRange hrange, h.merge rest (toInt_ofInt hrange)]
    · -- From here on both what is held and the exact total stay at or above the end of the range.
      have hhigh := greatest_le_of_not_inRange hrange (hfirst.le.trans hpair)
      have hheld := h.grows [clamp (total [first, next])] rest hrest
      rw [h.singleton, hclamp, Int.min_eq_right hhigh] at hheld
      have hend : greatest ≤ total (first :: next :: rest) := hhigh.trans hmore
      rw [clamp_of_greatest_le hend]
      exact clamp_of_greatest_le ((Int.le_max_right _ _).trans hheld)

/-- The totals of the first positive words are in the range if that of all of them is. -/
theorem inRange_of_pos {words : List Int64} (h : arithmetic.Computes total)
    (hpos : ∀ w ∈ words, 0 < w.toInt) (hrange : InRange (total words)) (hfront : front <+: words) :
    InRange (total front) := by
  obtain ⟨back, rfl⟩ := hfront
  have hnil := h.grows [] front fun w hw => hpos w (List.mem_append_left _ hw)
  exact ⟨h.nil.1.trans hnil, (h.grows front back hpos).trans hrange.2⟩

end Computes

/-! ### Addition and multiplication -/

open Double
open Rounding (nearest nearest_nonneg nearest_lt_zero_iff)

/-- Doubles have the sign of the sum, if it leaves the range: then the words have one sign. -/
theorem toFloat_add_lt_zero_iff {a b : Int64} (h : ¬InRange (a.toInt + b.toInt)) :
    toFloat a + toFloat b < 0.0 ↔ a.toInt + b.toInt < 0 := by
  rw [(hasValue_add (isFinite_toFloat a) (isFinite_toFloat b)).lt_zero_iff]
  have ha := range_toInt a
  have hb := range_toInt b
  simp only [InRange, least, greatest] at h ha hb
  obtain ⟨hanonneg, hbnonneg⟩ | ⟨haneg, hbneg⟩ :
      0 ≤ a.toInt ∧ 0 ≤ b.toInt ∨ a.toInt ≤ -1 ∧ b.toInt ≤ -1 := by omega
  · have hsum := add_nonneg (value_nonneg hanonneg) (value_nonneg hbnonneg)
    exact iff_of_false (nearest_nonneg hsum).not_gt (by omega)
  · have hsum := add_le_add (value_le_neg_one haneg) (value_le_neg_one hbneg)
    rw [nearest_lt_zero_iff (.inl (by linarith))]
    exact iff_of_true (by linarith) (by omega)

/-- Words of which one is negative and one positive have a negative product, also as doubles. -/
theorem mul_lt_zero_of_signs {a b : Int64} (ha : a.toInt ≤ -1) (hb : 1 ≤ b.toInt) :
    nearest (value (toFloat a) * value (toFloat b)) < 0 ∧ a.toInt * b.toInt < 0 := by
  have hproduct : value (toFloat a) * value (toFloat b) ≤ -1 := by
    nlinarith only [value_le_neg_one ha, one_le_value hb]
  refine ⟨(nearest_lt_zero_iff (.inl hproduct)).2 (by linarith), ?_⟩
  exact Int.mul_neg_of_neg_of_pos (by omega) (by omega)

/-- Doubles have the sign of the product, if it leaves the range: then no word is zero. -/
theorem toFloat_mul_lt_zero_iff {a b : Int64} (h : ¬InRange (a.toInt * b.toInt)) :
    toFloat a * toFloat b < 0.0 ↔ a.toInt * b.toInt < 0 := by
  rw [(hasValue_mul (isFinite_toFloat a) (isFinite_toFloat b)).lt_zero_iff]
  have hne : a.toInt * b.toInt ≠ 0 := fun hzero => h (hzero ▸ by decide)
  obtain ⟨hane, hbne⟩ := mul_ne_zero_iff.1 hne
  obtain ha | ha : 1 ≤ a.toInt ∨ a.toInt ≤ -1 := by omega
  all_goals obtain hb | hb : 1 ≤ b.toInt ∨ b.toInt ≤ -1 := by omega
  · have hproduct := mul_nonneg (value_nonneg (zero_le_one.trans ha))
      (value_nonneg (zero_le_one.trans hb))
    exact iff_of_false (nearest_nonneg hproduct).not_gt (mul_nonneg (by omega) (by omega)).not_gt
  · have hsigns := mul_lt_zero_of_signs hb ha
    rw [mul_comm, mul_comm b.toInt] at hsigns
    exact iff_of_true hsigns.1 hsigns.2
  · have hsigns := mul_lt_zero_of_signs ha hb
    exact iff_of_true hsigns.1 hsigns.2
  · have hproduct := mul_nonneg_of_nonpos_of_nonpos ((value_le_neg_one ha).trans (by norm_num))
      ((value_le_neg_one hb).trans (by norm_num))
    exact iff_of_false (nearest_nonneg hproduct).not_gt
      (mul_nonneg_of_nonpos_of_nonpos (by omega) (by omega)).not_gt

theorem computes_addition : addition.Computes fun words => (words.map Int64.toInt).sum where
  nil := by decide
  singleton w := List.sum_singleton
  merge rest h := by
    simp only [List.map_cons, List.sum_cons, List.map_nil, List.sum_nil] at h ⊢
    omega
  perm h := (h.map _).sum_eq
  grows front back hpos := by
    rw [List.map_append, List.sum_append]
    refine le_add_of_nonneg_right (List.sum_nonneg (List.forall_mem_map.2 fun w hw => ?_))
    exact (hpos w (List.mem_append_right _ hw)).le
  onWords a b := by
    simp [addition, add?]
  onDoubles a b h := by
    simp only [List.map_cons, List.sum_cons, List.map_nil, List.sum_nil, add_zero] at h ⊢
    exact toFloat_add_lt_zero_iff h

theorem computes_multiplication :
    multiplication.Computes fun words => (words.map Int64.toInt).prod where
  nil := by decide
  singleton w := List.prod_singleton
  merge rest h := by
    simp only [List.map_cons, List.prod_cons, List.map_nil, List.prod_nil, mul_one] at h ⊢
    rw [h, mul_assoc]
  perm h := (h.map _).prod_eq
  grows front back hpos := by
    rw [List.map_append, List.prod_append]
    have hfront : 0 < (front.map Int64.toInt).prod :=
      List.prod_pos (List.forall_mem_map.2 fun w hw => hpos w (List.mem_append_left _ hw))
    have hback : 0 < (back.map Int64.toInt).prod :=
      List.prod_pos (List.forall_mem_map.2 fun w hw => hpos w (List.mem_append_right _ hw))
    exact le_mul_of_one_le_right hfront.le hback
  onWords a b := by
    simp [multiplication, mul?]
  onDoubles a b h := by
    simp only [List.map_cons, List.prod_cons, List.map_nil, List.prod_nil, mul_one] at h ⊢
    exact toFloat_mul_lt_zero_iff h

/-! ### Operands -/

theorem words?_map_word (words : List Int64) :
    Number.words? (words.map .word) = some words := by
  have hread : (words.map Number.word).mapM Number.word? = some (words.map id) :=
    List.mapM_map.trans List.mapM_pure
  rw [Number.words?, hread, List.map_id]

/-- Numbers that are all words are folded as words. -/
theorem fold_words (arithmetic : Arithmetic) (operation : String) (policy : OverflowPolicy)
    (first : Int64) (rest : List Int64) :
    arithmetic.fold operation policy ((first :: rest).map .word) =
      (rest.foldlM (arithmetic.step operation policy) first).map .integer := by
  have hwords := words?_map_word (first :: rest)
  rw [List.map_cons] at hwords ⊢
  unfold fold
  simp only [hwords]
  cases rest.foldlM (arithmetic.step operation policy) first <;> rfl

end Arithmetic

namespace Operator

/-- An operator folds the numbers of its operands. -/
structure Folds (operator : Operator) (arithmetic : Arithmetic) : Prop where
  /-- The operator draws no random number. -/
  ne_random : operator ≠ .random
  /-- The operator reads the numbers of all operands, and folds them. -/
  compute_eq : ∀ policy operands, operator.compute policy operands =
    operands.mapM (Operand.addends operator.name) >>= fun numbers =>
      arithmetic.fold operator.name policy numbers.flatten

theorem folds_sum : Folds sum .addition := ⟨nofun, fun _ _ => rfl⟩

theorem folds_product : Folds product .multiplication := ⟨nofun, fun _ _ => rfl⟩

section Totals

variable (operator : Operator) (total : List Int64 → Int) (operands : List Value)
  (words : List Int64)

/-- What an operator makes of words that are totalled from left to right. -/
structure TotalsWords : Prop where
  /-- The total is exact where no total on the way leaves the range. -/
  exact : (∀ front, front <+: words → InRange (total front)) → ∀ policy source,
    operator.apply policy operands source = .ok (.integer (Int64.ofInt (total words)), source)
  /-- One total on the way that leaves the range is an overflow. -/
  overflow : ∀ front, front <+: words → ¬InRange (total front) → ∀ source,
    operator.apply .fail operands source = .error (.overflow operator.name)
  /-- Or it is held at the end of the range, and the others are added to what is held. -/
  held : ∀ first rest, words = first :: rest → ∀ source,
    operator.apply .saturate operands source =
      .ok (.integer (rest.foldl (fun w next => clamp (total [w, next])) first), source)
  /-- For positive words it is the total of all words alone that matters. -/
  positive : (∀ w ∈ words, 0 < w.toInt) → ∀ policy source,
    operator.apply policy operands source = operator.settled policy (total words) source
  /-- How the words are spread over the operands does not matter. -/
  grouping : ∀ others, Operand.Hold others words → ∀ policy source,
    operator.apply policy others source = operator.apply policy operands source
  /-- The words can be put in any order exactly where no total of some of them leaves the range. -/
  anyOrder : (∀ part, part.Sublist words → InRange (total part)) ↔
    ∀ others reordered, reordered.Perm words → Operand.Hold others reordered → ∀ source,
      operator.apply .fail others source = .ok (.integer (Int64.ofInt (total words)), source)

end Totals

variable {operator : Operator} {arithmetic : Arithmetic} {total : List Int64 → Int}
  {operands : List Value} {words front : List Int64}

/-- An operator that folds numbers goes through the words of its operands. -/
theorem Folds.apply_eq {first : Int64} {rest : List Int64} (h : Folds operator arithmetic)
    (hold : Operand.Hold operands (first :: rest)) (policy : OverflowPolicy)
    (source : RandomSource) :
    operator.apply policy operands source =
      (rest.foldlM (arithmetic.step operator.name policy) first).map (Value.integer ·, source) := by
  obtain ⟨numbers, hnumbers, hflatten⟩ := hold.addends_eq operator.name
  rw [apply_of_hold hold h.ne_random, h.compute_eq, hnumbers]
  show (arithmetic.fold operator.name policy numbers.flatten).map _ = _
  rw [hflatten, arithmetic.fold_words]
  cases rest.foldlM (arithmetic.step operator.name policy) first <;> rfl

theorem Folds.apply_of_inRange (h : Folds operator arithmetic)
    (hcomputes : arithmetic.Computes total) (hold : Operand.Hold operands words) (hne : words ≠ [])
    (hrange : ∀ front, front <+: words → InRange (total front)) (policy : OverflowPolicy)
    (source : RandomSource) :
    operator.apply policy operands source =
      .ok (.integer (Int64.ofInt (total words)), source) := by
  obtain ⟨first, rest, rfl⟩ := List.exists_cons_of_ne_nil hne
  rw [h.apply_eq hold, hcomputes.foldlM_of_inRange hrange]
  rfl

theorem Folds.apply_of_not_inRange (h : Folds operator arithmetic)
    (hcomputes : arithmetic.Computes total) (hold : Operand.Hold operands words) (hne : words ≠ [])
    (hfront : front <+: words) (hrange : ¬InRange (total front)) (source : RandomSource) :
    operator.apply .fail operands source = .error (.overflow operator.name) := by
  obtain ⟨first, rest, rfl⟩ := List.exists_cons_of_ne_nil hne
  rw [h.apply_eq hold, hcomputes.foldlM_of_not_inRange hfront hrange]
  rfl

theorem Folds.apply_saturate {first : Int64} {rest : List Int64} (h : Folds operator arithmetic)
    (hcomputes : arithmetic.Computes total) (hold : Operand.Hold operands (first :: rest))
    (source : RandomSource) :
    operator.apply .saturate operands source =
      .ok (.integer (rest.foldl (fun w next => clamp (total [w, next])) first), source) := by
  rw [h.apply_eq hold, hcomputes.foldlM_saturate]
  rfl

theorem Folds.apply_of_pos (h : Folds operator arithmetic) (hcomputes : arithmetic.Computes total)
    (hold : Operand.Hold operands words) (hne : words ≠ []) (hpos : ∀ w ∈ words, 0 < w.toInt)
    (policy : OverflowPolicy) (source : RandomSource) :
    operator.apply policy operands source = operator.settled policy (total words) source := by
  by_cases hrange : InRange (total words)
  · rw [settled_of_inRange hrange]
    exact h.apply_of_inRange hcomputes hold hne
      (fun _ hfront => hcomputes.inRange_of_pos hpos hrange hfront) policy source
  · rw [settled_of_not_inRange hrange]
    cases policy with
    | fail => exact h.apply_of_not_inRange hcomputes hold hne (List.prefix_refl _) hrange source
    | saturate =>
      obtain ⟨first, rest, rfl⟩ := List.exists_cons_of_ne_nil hne
      rw [h.apply_saturate hcomputes hold, hcomputes.foldl_clamp_of_pos hpos]
      rfl

/-- Any of the words can come first, and then have to have a total of their own. -/
theorem Folds.anyOrder_iff (h : Folds operator arithmetic) (hcomputes : arithmetic.Computes total)
    (hne : words ≠ []) :
    (∀ part, part.Sublist words → InRange (total part)) ↔
      ∀ others reordered, reordered.Perm words → Operand.Hold others reordered → ∀ source,
        operator.apply .fail others source =
          .ok (.integer (Int64.ofInt (total words)), source) := by
  have hreordered {reordered : List Int64} (hperm : reordered.Perm words) : reordered ≠ [] := by
    rintro rfl
    exact hne hperm.symm.eq_nil
  refine ⟨fun hparts others reordered hperm hold source => ?_, fun horder part hpart => ?_⟩
  · rw [← hcomputes.perm hperm]
    refine h.apply_of_inRange hcomputes hold (hreordered hperm) (fun front hfront => ?_) .fail
      source
    -- The first of the reordered words are some of the words.
    obtain ⟨part, hpart, hsublist⟩ := hfront.sublist.subperm.trans hperm.subperm
    rw [← hcomputes.perm hpart]
    exact hparts part hsublist
  · by_contra hrange
    -- With this part in front its total is one on the way.
    obtain ⟨back, hperm⟩ := hpart.exists_perm_append
    have hhold := Operand.hold_map_integer (part ++ back)
    have hfault := h.apply_of_not_inRange hcomputes hhold (hreordered hperm.symm)
      (List.prefix_append part back) hrange (.ofSeed 0)
    rw [horder _ _ hperm.symm hhold] at hfault
    cases hfault

theorem Folds.totalsWords (h : Folds operator arithmetic) (hcomputes : arithmetic.Computes total)
    (hold : Operand.Hold operands words) (hne : words ≠ []) :
    TotalsWords operator total operands words where
  exact := h.apply_of_inRange hcomputes hold hne
  overflow _ := h.apply_of_not_inRange hcomputes hold hne
  held first rest hwords source := by
    subst hwords
    exact h.apply_saturate hcomputes hold source
  positive := h.apply_of_pos hcomputes hold hne
  grouping others hothers policy source := by
    obtain ⟨first, rest, rfl⟩ := List.exists_cons_of_ne_nil hne
    rw [h.apply_eq hold, h.apply_eq hothers]
  anyOrder := h.anyOrder_iff hcomputes hne

/-- **Sums and products of integers.** Both go through the words of their operands from left to
right. They are exact where no sum or product of the first words leaves the range, and otherwise
an overflow. -/
theorem totalsWords_sum_product (hold : Operand.Hold operands words) (hne : words ≠ []) :
    TotalsWords sum (fun words => (words.map Int64.toInt).sum) operands words ∧
      TotalsWords product (fun words => (words.map Int64.toInt).prod) operands words :=
  ⟨folds_sum.totalsWords Arithmetic.computes_addition hold hne,
    folds_product.totalsWords Arithmetic.computes_multiplication hold hne⟩

/-- The sum and the product of two and of a container of three and seven. -/
theorem totalsWords_sum_product_small :
    sum.apply .fail [.integer 2, .multiple ⟨.integer, [.integer 3, .integer 7], by decide⟩]
        (.ofSeed 0) = .ok (.integer 12, .ofSeed 0) ∧
      product.apply .fail [.integer 2, .multiple ⟨.integer, [.integer 3, .integer 7], by decide⟩]
        (.ofSeed 0) = .ok (.integer 42, .ofSeed 0) := by
  have hcontainer : Operand.Hold
      [.multiple ⟨.integer, [.integer 3, .integer 7], by decide⟩] [3, 7] :=
    (Operand.hold_container rfl (by decide)).1
  have htotals := totalsWords_sum_product ((Operand.hold_map_integer [2]).append hcontainer)
    (by decide)
  have hpos : ∀ w ∈ [2] ++ [(3 : Int64), 7], 0 < w.toInt := by simp
  have hsum := htotals.1.positive hpos .fail (.ofSeed 0)
  have hproduct := htotals.2.positive hpos .fail (.ofSeed 0)
  rw [settled_of_inRange (by decide)] at hsum hproduct
  exact ⟨hsum, hproduct⟩

/-- The sum of the greatest word, one and minus one is the greatest word, and is an overflow. -/
theorem not_forall_apply_sum_eq_settled :
    ¬∀ (policy : OverflowPolicy) (source : RandomSource) (operands : List Value)
      (words : List Int64), Operand.Hold operands words → words ≠ [] →
      sum.apply policy operands source =
        sum.settled policy (words.map Int64.toInt).sum source := by
  intro h
  have heq := h .fail (.ofSeed 0) _ _ (Operand.hold_map_integer [greatestWord, 1, -1]) (by decide)
  have hoverflow : sum.apply .fail ([greatestWord, 1, -1].map .integer) (.ofSeed 0) =
      .error (.overflow "sum") := rfl
  rw [hoverflow, settled_of_inRange (by decide)] at heq
  cases heq

end Operator

end Assessment
