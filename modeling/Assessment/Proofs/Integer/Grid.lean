import Assessment.Evaluation.Basic
import Assessment.Proofs.Integer.Division

/-!
# Random integers

A random integer is the least integer of a grid and a number of steps from it, which is drawn below
the number of integers that the grid has. Three things are looked at before: the step, the order of
the bounds, and whether their distance is a word. They are enough to keep all that follows in the
range of words, however near to its ends the bounds are.

## Main definitions

- `Drawer`: any way to draw numbers below a bound.
- `InGrid`: the words of a grid.
- `GridInRange`: no operation on the way to a word of a grid leaves the range.

## Main results

- `gridInRange`: it is so for all bounds and steps that pass.
- `inGrid_iff`: the words of a grid are those that some number of steps leads to.
- `Drawer.integer_exact`: what a random integer is, whatever is drawn.
-/

namespace Assessment

namespace Word

theorem mul?_of_inRange {x y : Int64} (h : InRange (x.toInt * y.toInt)) :
    mul? x y = some (x * y) ∧ (x * y).toInt = x.toInt * y.toInt := by
  have hmul : Int64.ofInt (x.toInt * y.toInt) = x * y := by
    rw [Int64.ofInt_mul, Int64.ofInt_toInt, Int64.ofInt_toInt]
  rw [mul?, narrow?_of_inRange h, ← hmul]
  exact ⟨rfl, toInt_ofInt h⟩

end Word

open Word

/-! ### Grids -/

/-- A word is between two bounds, and a whole number of steps from the lower one. -/
def InGrid (least greatest step n : Int64) : Prop :=
  least ≤ n ∧ n ≤ greatest ∧ step.toInt ∣ n.toInt - least.toInt

/-- A number of steps that leads to no word beyond the last one of a grid. -/
def IsPick (slots pick : Int64) : Prop := 0 ≤ pick ∧ pick ≤ slots

/-- No operation on the way to a word of a grid leaves the range of words. -/
structure GridInRange (least greatest step slots : Int64) : Prop where
  /-- The distance of the bounds is a word. -/
  span : sub? greatest least = some (greatest - least)
  /-- So is the greatest number of steps that are no longer than the distance together. -/
  steps : div? (greatest - least) step = some slots
  /-- So is the length of every number of steps up to it. -/
  product : ∀ pick, IsPick slots pick → mul? pick step = some (pick * step)
  /-- So is what these steps lead to. -/
  sum : ∀ pick, IsPick slots pick → add? least (pick * step) = some (least + pick * step)

section grid

variable {least greatest step slots pick : Int64}

theorem isPick_iff : IsPick slots pick ↔ 0 ≤ pick.toInt ∧ pick.toInt ≤ slots.toInt := by
  simp only [IsPick, Int64.le_iff_toInt_le, Int64.toInt_zero]

/-- The bounds and the step of a grid from which a random integer can be drawn. -/
structure IsGrid (least greatest step : Int64) : Prop where
  /-- The step goes up. -/
  step_pos : 1 ≤ step
  /-- The bounds are in order. -/
  le : least ≤ greatest
  /-- Their distance is a word. -/
  span : InRange (greatest.toInt - least.toInt)

/-- The greatest number of steps in a grid. -/
def slotsOf (least greatest step : Int64) : Int64 :=
  Int64.ofInt ((greatest.toInt - least.toInt) / step.toInt)

namespace IsGrid

variable (h : IsGrid least greatest step)

include h

theorem toInt_step_pos : 0 < step.toInt := Int.lt_of_add_one_le (Int64.le_iff_toInt_le.1 h.step_pos)

theorem toInt_le : least.toInt ≤ greatest.toInt := Int64.le_iff_toInt_le.1 h.le

theorem span_nonneg : 0 ≤ greatest.toInt - least.toInt := Int.sub_nonneg_of_le h.toInt_le

theorem slots_nonneg : 0 ≤ (greatest.toInt - least.toInt) / step.toInt :=
  Int.ediv_nonneg h.span_nonneg h.toInt_step_pos.le

theorem toInt_slotsOf :
    (slotsOf least greatest step).toInt = (greatest.toInt - least.toInt) / step.toInt := by
  have hhigh := Int.ediv_le_self step.toInt h.span_nonneg
  exact toInt_ofInt ⟨Int.le_trans (by decide) h.slots_nonneg, hhigh.trans h.span.2⟩

/-- The steps up to the greatest number of them are no longer than the distance of the bounds. -/
theorem mul_le (hpick : IsPick (slotsOf least greatest step) pick) :
    0 ≤ pick.toInt * step.toInt ∧ pick.toInt * step.toInt ≤ greatest.toInt - least.toInt := by
  obtain ⟨hlow, hhigh⟩ := isPick_iff.1 hpick
  rw [h.toInt_slotsOf] at hhigh
  refine ⟨Int.mul_nonneg hlow h.toInt_step_pos.le, ?_⟩
  calc pick.toInt * step.toInt
      ≤ (greatest.toInt - least.toInt) / step.toInt * step.toInt :=
        Int.mul_le_mul_of_nonneg_right hhigh h.toInt_step_pos.le
    _ ≤ greatest.toInt - least.toInt := Int.ediv_mul_le _ h.toInt_step_pos.ne'

theorem inRange_mul (hpick : IsPick (slotsOf least greatest step) pick) :
    InRange (pick.toInt * step.toInt) := by
  obtain ⟨hlow, hhigh⟩ := h.mul_le hpick
  exact ⟨Int.le_trans (by decide) hlow, hhigh.trans h.span.2⟩

/-- The steps lead from the lower bound to no more than the upper one. -/
theorem inRange_add (hpick : IsPick (slotsOf least greatest step) pick) :
    InRange (least.toInt + (pick * step).toInt) := by
  obtain ⟨hlow, hhigh⟩ := h.mul_le hpick
  have hleast := inRange_toInt least
  have hgreatest := inRange_toInt greatest
  rw [(mul?_of_inRange (h.inRange_mul hpick)).2]
  simp only [InRange] at hleast hgreatest ⊢
  omega

theorem toInt_add_mul (hpick : IsPick (slotsOf least greatest step) pick) :
    (least + pick * step).toInt = least.toInt + pick.toInt * step.toInt := by
  rw [(add?_of_inRange (h.inRange_add hpick)).2, (mul?_of_inRange (h.inRange_mul hpick)).2]

theorem gridInRange : GridInRange least greatest step (slotsOf least greatest step) where
  span := (sub?_of_inRange h.span).1
  steps := by
    refine div?_eq_some_iff.2 ⟨?_, ?_, ?_⟩
    · rintro rfl
      exact absurd h.step_pos (by decide)
    · rintro ⟨-, rfl⟩
      exact absurd h.step_pos (by decide)
    · -- The distance is not negative, so rounding toward zero rounds down.
      rw [h.toInt_slotsOf, (sub?_of_inRange h.span).2, Int.tdiv_eq_ediv_of_nonneg h.span_nonneg]
  product pick hpick := (mul?_of_inRange (h.inRange_mul hpick)).1
  sum pick hpick := (add?_of_inRange (h.inRange_add hpick)).1

/-- The words of a grid are those that some number of steps leads to. -/
theorem inGrid_iff {n : Int64} : InGrid least greatest step n ↔
    ∃ pick, IsPick (slotsOf least greatest step) pick ∧ n = least + pick * step := by
  constructor
  · rintro ⟨hlow, hhigh, count, hcount⟩
    have hpos := h.toInt_step_pos
    rw [Int64.le_iff_toInt_le] at hlow hhigh
    have hnonneg : 0 ≤ count :=
      Int.nonneg_of_mul_nonneg_right (hcount ▸ Int.sub_nonneg_of_le hlow) hpos
    have hle : count ≤ (slotsOf least greatest step).toInt := by
      rw [h.toInt_slotsOf, Int.le_ediv_iff_mul_le hpos, Int.mul_comm]
      omega
    have hvalue : (Int64.ofInt count).toInt = count :=
      toInt_ofInt ⟨Int.le_trans (by decide) hnonneg, hle.trans (inRange_toInt _).2⟩
    have hpick : IsPick (slotsOf least greatest step) (Int64.ofInt count) :=
      isPick_iff.2 (hvalue.symm ▸ ⟨hnonneg, hle⟩)
    refine ⟨_, hpick, Int64.toInt_inj.1 ?_⟩
    rw [h.toInt_add_mul hpick, hvalue, Int.mul_comm]
    omega
  · rintro ⟨pick, hpick, rfl⟩
    obtain ⟨hlow, hhigh⟩ := h.mul_le hpick
    rw [InGrid, Int64.le_iff_toInt_le, Int64.le_iff_toInt_le, h.toInt_add_mul hpick,
      add_sub_cancel_left]
    refine ⟨?_, ?_, Int.dvd_mul_left _ _⟩
    all_goals omega

end IsGrid

theorem not_isGrid_iff : ¬IsGrid least greatest step ↔
    step < 1 ∨ greatest < least ∨ ¬InRange (greatest.toInt - least.toInt) := by
  rw [← Int64.not_le, ← Int64.not_le, ← not_and_or, ← not_and_or, not_iff_not]
  exact ⟨fun h => ⟨h.step_pos, h.le, h.span⟩, fun h => ⟨h.1, h.2.1, h.2.2⟩⟩

/-- A grid has one word more than it has steps. -/
theorem gridSize_of_isGrid (h : IsGrid least greatest step) :
    gridSize least greatest step = .ok ((slotsOf least greatest step).toInt.toNat + 1) := by
  have hpass : ¬(step < 1 ∨ greatest < least) :=
    not_or.2 ⟨Int64.not_lt.2 h.step_pos, Int64.not_lt.2 h.le⟩
  rw [gridSize, if_neg hpass, (sub?_of_inRange h.span).1, h.toInt_slotsOf]
  simp only [(sub?_of_inRange h.span).2]

theorem gridSize_of_not_isGrid (h : ¬IsGrid least greatest step) :
    ∃ fault, gridSize least greatest step = .error fault := by
  rw [not_isGrid_iff, ← or_assoc] at h
  by_cases hpass : step < 1 ∨ greatest < least
  · exact ⟨_, if_pos hpass⟩
  · have hspan := narrow?_of_not_inRange (h.resolve_left hpass)
    rw [gridSize, if_neg hpass, sub?, hspan]
    exact ⟨_, rfl⟩

/-- The word of a grid at a number of steps is the one that operations on words lead to. -/
theorem gridPoint_toNat (h : IsGrid least greatest step)
    (hpick : IsPick (slotsOf least greatest step) pick) :
    gridPoint least step pick.toInt.toNat = least + pick * step := by
  rw [gridPoint, Int.ofNat_eq_natCast, Int.toNat_of_nonneg (isPick_iff.1 hpick).1,
    ← h.toInt_add_mul hpick, Int64.ofInt_toInt]

end grid

/-! ### Draws -/

/-- A way to draw numbers below a bound from a source. -/
structure Drawer (σ : Type) where
  /-- Draw a number. -/
  below : Nat → σ → Nat × σ
  /-- What is drawn below a positive bound is below it. -/
  below_lt : ∀ bound source, 0 < bound → (below bound source).1 < bound

namespace Drawer

/-- The way in which evaluations draw. -/
def ofSource : Drawer RandomSource := ⟨RandomSource.below, fun _ source h => source.below_lt h⟩

variable {σ : Type} (drawer : Drawer σ) (least greatest step : Int64)

/-- A random integer of a grid, drawn in some way. -/
def integer (source : σ) : Except RuntimeFault (Value × σ) := do
  let (place, source) := drawer.below (← gridSize least greatest step) source
  .ok (.integer (gridPoint least step place), source)

/-- Evaluations draw random integers in their way. -/
theorem tryEvaluate_randomInteger (engine : Engine) (view : View) :
    (Expression.randomInteger least greatest step).tryEvaluate engine view =
      Evaluation.drawn (ofSource.integer least greatest step) := rfl

variable {least greatest step}

/-- What is drawn from a grid is a number of steps that it has. -/
theorem exists_integer_eq (h : IsGrid least greatest step) (source : σ) :
    ∃ pick left, IsPick (slotsOf least greatest step) pick ∧
      drawer.below ((slotsOf least greatest step).toInt.toNat + 1) source =
        (pick.toInt.toNat, left) ∧
      drawer.integer least greatest step source = .ok (.integer (least + pick * step), left) := by
  let draw := drawer.below ((slotsOf least greatest step).toInt.toNat + 1) source
  have hlt : draw.1 < (slotsOf least greatest step).toInt.toNat + 1 :=
    drawer.below_lt _ source (Nat.succ_pos _)
  have hslots := inRange_toInt (slotsOf least greatest step)
  have hnonneg : 0 ≤ (slotsOf least greatest step).toInt := h.toInt_slotsOf ▸ h.slots_nonneg
  have hvalue : (Int64.ofInt draw.1).toInt = draw.1 := by
    refine toInt_ofInt ?_
    simp only [InRange, Word.least, Word.greatest] at hslots ⊢
    omega
  have hpick : IsPick (slotsOf least greatest step) (Int64.ofInt draw.1) := by
    rw [isPick_iff, hvalue]
    omega
  have hplace : (Int64.ofInt draw.1).toInt.toNat = draw.1 := by rw [hvalue, Int.toNat_natCast]
  refine ⟨_, draw.2, hpick, by rw [hplace], ?_⟩
  rw [← gridPoint_toNat h hpick, hplace, integer, gridSize_of_isGrid h]
  rfl

/-- The way that always draws the same number, or the greatest below a bound that is no greater. -/
def always (place : Nat) : Drawer Unit where
  below bound source := (min place (bound - 1), source)
  below_lt bound _ h := by
    show min place (bound - 1) < bound
    omega

/-- Every word of a grid is drawn in some way. -/
theorem exists_integer_eq_of_inGrid (h : IsGrid least greatest step) {n : Int64}
    (hn : InGrid least greatest step n) :
    ∃ drawer : Drawer Unit, drawer.integer least greatest step () = .ok (.integer n, ()) := by
  obtain ⟨pick, hpick, rfl⟩ := h.inGrid_iff.1 hn
  obtain ⟨other, ⟨⟩, hother, hdraw, hvalue⟩ := (always pick.toInt.toNat).exists_integer_eq h ()
  obtain rfl : other = pick := by
    have hsame : min pick.toInt.toNat ((slotsOf least greatest step).toInt.toNat + 1 - 1) =
        other.toInt.toNat := congrArg Prod.fst hdraw
    rw [isPick_iff] at hpick hother
    apply Int64.toInt_inj.1
    omega
  exact ⟨_, hvalue⟩

/-- **Random integers stay on their grid.** They are drawn in the same way from whatever gives
numbers below a bound. There is a fault exactly for a step below one, for bounds that are not in
order, and for bounds whose distance is no word. Otherwise no operation leaves the range of words,
and what is drawn is between the bounds and a whole number of steps from the lower one; every such
word is drawn in some way. -/
theorem integer_exact (drawer : Drawer σ) (least greatest step : Int64) :
    (∀ engine view, (Expression.randomInteger least greatest step).tryEvaluate engine view =
      Evaluation.drawn (ofSource.integer least greatest step)) ∧
    (∀ source, (∃ fault, drawer.integer least greatest step source = .error fault) ↔
      step < 1 ∨ greatest < least ∨ ¬InRange (greatest.toInt - least.toInt)) ∧
    (1 ≤ step → least ≤ greatest → InRange (greatest.toInt - least.toInt) →
      ∃ slots, GridInRange least greatest step slots ∧
        (∀ source, ∃ pick left, IsPick slots pick ∧
          drawer.below (slots.toInt.toNat + 1) source = (pick.toInt.toNat, left) ∧
          drawer.integer least greatest step source =
            .ok (.integer (least + pick * step), left) ∧
          InGrid least greatest step (least + pick * step)) ∧
        ∀ n, InGrid least greatest step n → ∃ drawer : Drawer Unit,
          drawer.integer least greatest step () = .ok (.integer n, ())) := by
  refine ⟨tryEvaluate_randomInteger least greatest step, fun source => ?_,
    fun hstep hle hspan => ?_⟩
  · rw [← not_isGrid_iff]
    constructor
    · rintro ⟨fault, hfault⟩ h
      obtain ⟨pick, left, -, -, hok⟩ := drawer.exists_integer_eq h source
      rw [hok] at hfault
      cases hfault
    · intro h
      obtain ⟨fault, hfault⟩ := gridSize_of_not_isGrid h
      exact ⟨fault, by rw [integer, hfault]; rfl⟩
  · have h : IsGrid least greatest step := ⟨hstep, hle, hspan⟩
    refine ⟨_, h.gridInRange, fun source => ?_, fun n => exists_integer_eq_of_inGrid h⟩
    obtain ⟨pick, left, hpick, hdraw, hvalue⟩ := drawer.exists_integer_eq h source
    exact ⟨pick, left, hpick, hdraw, hvalue, h.inGrid_iff.2 ⟨pick, hpick, rfl⟩⟩

/-- From the least word to minus one it is as far as a distance can be. -/
theorem integer_exact_widest :
    ∃ slots, GridInRange leastWord (-1) 1 slots ∧
      ∃ drawer : Drawer Unit, drawer.integer leastWord (-1) 1 () = .ok (.integer (-1), ()) := by
  obtain ⟨slots, hrange, -, hdrawn⟩ :=
    (ofSource.integer_exact leastWord (-1) 1).2.2 (by decide) (by decide) (by decide)
  exact ⟨slots, hrange, hdrawn (-1) ⟨by decide, by decide, by decide⟩⟩

end Drawer

end Assessment
