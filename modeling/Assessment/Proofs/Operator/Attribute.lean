import Assessment.Proofs.Integer.Basic
import Assessment.Proofs.Logic.Connective
import Assessment.Proofs.Number.Finite
import Assessment.Proofs.Validation

/-!
# Attributes that validation lets through

Validation looks at the attributes of an operator before any operand has a value, and the operator
looks at them again. The two do not agree everywhere: bounds of a count may be in order and below
zero, a number of figures may be positive and beyond the powers of ten that rounding can take, and
the bounds of a grid may be in order and further apart than any word. Attributes like these pass,
and the operator then ends with a fault over operands that it takes.

## Main definitions

- `Expression.Suits`: the operands have values of the types that the operator takes.
- `Expression.InReach`: the attributes are such that the operator has a value.
- `Expression.reachFault`: the fault of attributes that are not.

## Main results

- `roundFigures_of_inReach` and `roundFigures_of_not_inReach`: rounding with validated figures.
- `Expression.run_tryEvaluate_of_checkNode`: a validated node over suitable operands has a value
  exactly where its attributes are in reach.
-/

namespace Assessment

open Operand

/-! ### Rounding -/

/-- Rounding a number to so many figures takes a power of ten whose exponent is a half word. -/
def FiguresInReach (x : Float) (figures : Int64) : RoundingMode → Prop
  | .decimalPlaces => figures.toInt < 0x80000000
  | .significantFigures => x == 0.0 ∨
    -- the figures behind the point are those that the digits before it leave
    ∃ magnitude, wordOfFloat? x.abs.log10.floor = some magnitude ∧
      -0x80000000 ≤ figures.toInt - (magnitude.toInt + 1) ∧
      figures.toInt - (magnitude.toInt + 1) < 0x80000000

/-- A number of figures that validation accepts. -/
def FiguresValid (figures : Int64) : RoundingMode → Prop
  | .decimalPlaces => 0 ≤ figures
  | .significantFigures => 1 ≤ figures

/-- Validation lets these numbers of figures through, and no others. -/
theorem operatorProblem?_roundTo {mode : RoundingMode} {figures : Int64} :
    Subject.operatorProblem? (.roundTo mode figures) = none ↔ FiguresValid figures mode := by
  cases mode <;> simp [Subject.operatorProblem?, FiguresValid]

theorem operatorProblem?_equalRounded {mode : RoundingMode} {figures : Int64} :
    Subject.operatorProblem? (.equalRounded mode figures) = none ↔ FiguresValid figures mode := by
  cases mode <;> simp [Subject.operatorProblem?, FiguresValid]

section rounding

variable {x : Float} {mode : RoundingMode} {figures : Int64} (operation : String)

/-- Figures in reach leave a place that rounding can take, unless there is nothing to round. -/
theorem exists_placesKept? (hvalid : FiguresValid figures mode)
    (hreach : FiguresInReach x figures mode) (hzero : ¬(mode = .significantFigures ∧ x == 0.0)) :
    ∃ places, placesKept? x mode figures = some places ∧
      ¬(places < -0x80000000 ∨ 0x80000000 ≤ places) := by
  cases mode with
  | significantFigures =>
    obtain hnothing | ⟨magnitude, hmagnitude, hlow, hhigh⟩ := hreach
    · exact absurd ⟨rfl, hnothing⟩ hzero
    · refine ⟨_, ?_, not_or.2 ⟨Int.not_lt.2 hlow, Int.not_le.2 hhigh⟩⟩
      rw [placesKept?, if_neg (Int64.not_lt.2 hvalid), hmagnitude]
      rfl
  | decimalPlaces =>
    have hpos : 0 ≤ figures.toInt := Int64.le_iff_toInt_le.1 hvalid
    have hhigh : figures.toInt < 0x80000000 := hreach
    -- The places are the figures, which validation has found not to be below zero.
    refine ⟨figures.toInt, if_neg (Int64.not_lt.2 hvalid), ?_⟩
    omega

/-- Figures out of reach leave no place, or one that rounding cannot take. -/
theorem placesKept?_of_not_figuresInReach (hreach : ¬FiguresInReach x figures mode) :
    ∀ places ∈ placesKept? x mode figures, places < -0x80000000 ∨ 0x80000000 ≤ places := by
  intro places hplaces
  cases mode with
  | significantFigures =>
    rw [placesKept?] at hplaces
    split at hplaces
    next => cases hplaces
    next =>
      obtain ⟨magnitude, hmagnitude, rfl⟩ := Option.map_eq_some_iff.1 hplaces
      by_contra hin
      rw [not_or, Int.not_lt, Int.not_le] at hin
      exact hreach (.inr ⟨magnitude, hmagnitude, hin⟩)
  | decimalPlaces =>
    rw [placesKept?] at hplaces
    split at hplaces
    next => cases hplaces
    next =>
      obtain rfl := Option.some.inj hplaces
      exact .inr (Int.not_lt.1 hreach)

theorem roundFigures_of_inReach (hvalid : FiguresValid figures mode)
    (hreach : FiguresInReach x figures mode) :
    ∃ y, roundFigures operation x mode figures = .ok y := by
  unfold roundFigures
  dsimp only
  split
  -- not finite
  next => exact ⟨x, rfl⟩
  next =>
    split
    -- nothing to round
    next => exact ⟨0.0, rfl⟩
    next hzero =>
      have hsome : ¬(mode = .significantFigures ∧ x == 0.0) := by
        rintro ⟨rfl, hnothing⟩
        exact hzero (by simp [hnothing, show 1 ≤ figures from hvalid])
      obtain ⟨places, hplaces, hin⟩ := exists_placesKept? hvalid hreach hsome
      rw [hplaces]
      dsimp only
      rw [if_neg hin]
      -- Places beyond the precision of a double leave the number as it is.
      split
      next => exact ⟨x, rfl⟩
      next => exact ⟨_, rfl⟩

theorem roundFigures_of_not_inReach (hfinite : x.isFinite = true)
    (hreach : ¬FiguresInReach x figures mode) :
    roundFigures operation x mode figures =
      .error (.domain operation (.badFigures figures mode)) := by
  have hzero : ¬(mode = .significantFigures && 1 ≤ figures && x == 0.0) = true := by
    intro h
    simp only [Bool.and_eq_true, decide_eq_true_eq] at h
    obtain ⟨⟨rfl, -⟩, hnothing⟩ := h
    exact hreach (.inl hnothing)
  rw [roundFigures, if_neg (by simp [hfinite]), if_neg hzero]
  split
  next => rfl
  next places hplaces => rw [if_pos (placesKept?_of_not_figuresInReach hreach places hplaces)]

end rounding

/-! ### Operators -/

/-- A value is a number that is `x` as a double, and finite. -/
inductive Value.HasNumber : Value → Float → Prop
  /-- A word, which is finite. -/
  | integer (n : Int64) : HasNumber (.integer n) (Word.toFloat n)
  /-- A double that is finite. -/
  | float {x : Float} (hfinite : x.isFinite = true) : HasNumber (.float x) x

namespace Value.HasNumber

variable {value : Value} {x y : Float}

theorem isFinite (h : value.HasNumber x) : x.isFinite = true := by
  cases h with
  | integer n => exact Word.isFinite_toFloat n
  | float hfinite => exact hfinite

theorem isNull_eq_false (h : value.HasNumber x) : value.isNull = false := by
  cases h <;> rfl

theorem eq (h : value.HasNumber x) (hy : value.HasNumber y) : y = x := by
  cases h <;> cases hy <;> rfl

/-- Operators on numbers read the number. -/
theorem number_eq (h : value.HasNumber x) (operation : String) :
    ∃ number, Operand.number operation value = .ok number ∧ number.toFloat = x := by
  cases h with
  | integer n => exact ⟨.word n, rfl, rfl⟩
  | float _ => exact ⟨.double _, rfl, rfl⟩

end Value.HasNumber

namespace Operator

/-- The values are operands of the types that an operator takes whose attributes are in question. -/
def Suits : Operator → List Value → Prop
  | anyN _ _, values => ∀ value ∈ values, value.isNull = true ∨ ∃ b, value = .boolean b
  | index _, values => ∃ container, values = [.ordered container] ∧ container.items ≠ []
  | roundTo _ _, values => ∃ value x, values = [value] ∧ value.HasNumber x
  | equalRounded _ _, values =>
    ∃ a b x y, values = [a, b] ∧ a.HasNumber x ∧ b.HasNumber y
  | _, _ => False

/-- The attributes of an operator are such that it has a value. -/
def InReach : Operator → List Value → Prop
  | anyN least _, _ => 0 ≤ least
  | roundTo mode figures, values | equalRounded mode figures, values =>
    ∀ value ∈ values, ∀ x, value.HasNumber x → FiguresInReach x figures mode
  | _, _ => True

/-- The fault of attributes that are such that an operator has no value. -/
def reachFault (operator : Operator) : RuntimeFault :=
  match operator with
  | roundTo mode figures | equalRounded mode figures =>
    .domain operator.name (.badFigures figures mode)
  | _ => .domain operator.name .negativeBounds

variable {operator : Operator} {values : List Value}

/-- An operator over suitable operands is computed from them, without a random number. -/
theorem Suits.apply_eq (h : operator.Suits values) (policy : OverflowPolicy)
    (source : RandomSource) :
    operator.apply policy values source =
      (operator.compute policy values).map (·, source) := by
  have hrandom : operator ≠ .random := by
    rintro rfl
    exact h
  cases operator with
  | anyN least greatest =>
    change (countTrue _ values least greatest >>= fun value => .ok (value, source)) =
      (countTrue _ values least greatest).map (·, source)
    cases countTrue _ values least greatest <;> rfl
  | index n =>
    obtain ⟨container, rfl, hitems⟩ := h
    refine apply_of_any_isNull ?_ hrandom policy source
    simpa [Value.isNull, Container.isEmpty] using hitems
  | roundTo mode figures =>
    obtain ⟨value, x, rfl, hnumber⟩ := h
    refine apply_of_any_isNull ?_ hrandom policy source
    simp [hnumber.isNull_eq_false]
  | equalRounded mode figures =>
    obtain ⟨a, b, x, y, rfl, ha, hb⟩ := h
    refine apply_of_any_isNull ?_ hrandom policy source
    simp [ha.isNull_eq_false, hb.isNull_eq_false]
  | _ => exact h.elim

/-- Values that are nothing or truth values have truth values. -/
theorem exists_mapM_triState? (operation : String)
    (h : ∀ value ∈ values, value.isNull = true ∨ ∃ b, value = .boolean b) :
    ∃ states, values.mapM (fun value => orExpecting operation "single boolean" value.triState?) =
      .ok states := by
  have hstates : Yields (values.mapM fun value : Value =>
      orExpecting operation "single boolean" value.triState?)
      (fun states => ∀ state ∈ states, True) fun _ => False := by
    refine yields_mapM_all fun value hmem => ?_
    obtain hnull | ⟨b, rfl⟩ := h value hmem
    · rw [Value.triState?, if_pos hnull]
      trivial
    · trivial
  obtain ⟨states, hstates, -⟩ := hstates.exists_ok
  exact ⟨states, hstates⟩

section compute

variable {a b : Value} {m n : Number} {mode : RoundingMode} {figures : Int64}

theorem compute_roundTo (ha : number "roundTo" a = .ok m) (policy : OverflowPolicy) :
    (roundTo mode figures).compute policy [a] =
      (roundFigures "roundTo" m.toFloat mode figures).map .float := by
  change (number "roundTo" a >>= fun m => roundFigures "roundTo" m.toFloat mode figures >>= fun x =>
    .ok (Value.float x)) = _
  rw [ha]
  change (roundFigures "roundTo" m.toFloat mode figures >>= _) = _
  cases roundFigures "roundTo" m.toFloat mode figures <;> rfl

/-- The first number is rounded before the second one is read, which makes no difference if both are
numbers. -/
theorem compute_equalRounded (ha : number "equalRounded" a = .ok m)
    (hb : number "equalRounded" b = .ok n) (policy : OverflowPolicy) :
    (equalRounded mode figures).compute policy [a, b] =
      roundFigures "equalRounded" m.toFloat mode figures >>= fun x =>
        roundFigures "equalRounded" n.toFloat mode figures >>= fun y =>
          .ok (.boolean (x == y)) := by
  change (number "equalRounded" a >>= fun m =>
    roundFigures "equalRounded" m.toFloat mode figures >>= fun x =>
      number "equalRounded" b >>= fun n =>
        roundFigures "equalRounded" n.toFloat mode figures >>= fun y =>
          .ok (Value.boolean (x == y))) = _
  rw [ha, hb]
  rfl

end compute

/-- A validated operator over suitable operands has a value if its attributes are in reach. -/
theorem compute_of_inReach (hvalid : Subject.operatorProblem? operator = none)
    (hsuits : operator.Suits values) (hreach : operator.InReach values) (policy : OverflowPolicy) :
    ∃ value, operator.compute policy values = .ok value := by
  cases operator with
  | anyN least greatest =>
    obtain ⟨states, hstates⟩ := exists_mapM_triState? "anyN" hsuits
    have hordered : ¬least > greatest := fun hlt => by
      simp [Subject.operatorProblem?, hlt] at hvalid
    -- The bounds are in order, so only the lower one can be below zero alone.
    have hbounds : ¬(least < 0 ∨ greatest < 0) :=
      not_or.2 ⟨Int64.not_lt.2 hreach,
        Int64.not_lt.2 (Int64.le_trans hreach (Int64.not_lt.1 hordered))⟩
    refine ⟨ofTriState (.between least.toInt.toNat greatest.toInt.toNat (.of states)), ?_⟩
    change countTrue "anyN" values least greatest = _
    rw [countTrue, if_neg hbounds, hstates]
    rfl
  | index n =>
    obtain ⟨container, rfl, -⟩ := hsuits
    have hpos : ¬n < 1 := fun hlt => by simp [Subject.operatorProblem?, hlt] at hvalid
    exact ⟨_, if_neg hpos⟩
  | roundTo mode figures =>
    obtain ⟨value, x, rfl, hnumber⟩ := hsuits
    obtain ⟨m, hread, rfl⟩ := hnumber.number_eq "roundTo"
    have hfigures : FiguresInReach m.toFloat figures mode :=
      hreach value (List.mem_singleton_self _) _ hnumber
    obtain ⟨y, hy⟩ := roundFigures_of_inReach "roundTo" (operatorProblem?_roundTo.1 hvalid) hfigures
    rw [compute_roundTo hread, hy]
    exact ⟨_, rfl⟩
  | equalRounded mode figures =>
    obtain ⟨a, b, x, y, rfl, ha, hb⟩ := hsuits
    obtain ⟨m, hreadA, rfl⟩ := ha.number_eq "equalRounded"
    obtain ⟨n, hreadB, rfl⟩ := hb.number_eq "equalRounded"
    have hfigures := operatorProblem?_equalRounded.1 hvalid
    obtain ⟨x, hx⟩ := roundFigures_of_inReach "equalRounded" hfigures
      (hreach a List.mem_cons_self _ ha)
    obtain ⟨y, hy⟩ := roundFigures_of_inReach "equalRounded" hfigures
      (hreach b (List.mem_cons_of_mem _ List.mem_cons_self) _ hb)
    rw [compute_equalRounded hreadA hreadB, hx, hy]
    exact ⟨_, rfl⟩
  | _ => exact hsuits.elim

/-- An operator over suitable operands ends with its fault if its attributes are out of reach. -/
theorem compute_of_not_inReach (hvalid : Subject.operatorProblem? operator = none)
    (hsuits : operator.Suits values) (hreach : ¬operator.InReach values) (policy : OverflowPolicy) :
    operator.compute policy values = .error operator.reachFault := by
  cases operator with
  | anyN least greatest => exact if_pos (.inl (Int64.not_le.1 hreach))
  | index n => exact absurd trivial hreach
  | roundTo mode figures =>
    obtain ⟨value, x, rfl, hnumber⟩ := hsuits
    obtain ⟨m, hread, rfl⟩ := hnumber.number_eq "roundTo"
    have hfigures : ¬FiguresInReach m.toFloat figures mode := by
      refine fun hin => hreach fun other hmem x hx => ?_
      obtain rfl := List.mem_singleton.1 hmem
      rwa [hnumber.eq hx]
    rw [compute_roundTo hread, roundFigures_of_not_inReach _ hnumber.isFinite hfigures]
    rfl
  | equalRounded mode figures =>
    obtain ⟨a, b, x, y, rfl, ha, hb⟩ := hsuits
    obtain ⟨m, hreadA, rfl⟩ := ha.number_eq "equalRounded"
    obtain ⟨n, hreadB, rfl⟩ := hb.number_eq "equalRounded"
    have hfigures := operatorProblem?_equalRounded.1 hvalid
    rw [compute_equalRounded hreadA hreadB]
    -- The fault is the same for both numbers, and the first one that has it ends the comparison.
    by_cases hfirst : FiguresInReach m.toFloat figures mode
    · have hsecond : ¬FiguresInReach n.toFloat figures mode := by
        refine fun hsecond => hreach fun other hmem x hx => ?_
        obtain rfl | hmem := List.mem_cons.1 hmem
        · rwa [ha.eq hx]
        · obtain rfl := List.mem_singleton.1 hmem
          rwa [hb.eq hx]
      obtain ⟨x, hx⟩ := roundFigures_of_inReach "equalRounded" hfigures hfirst
      rw [hx, roundFigures_of_not_inReach _ hb.isFinite hsecond]
      rfl
    · rw [roundFigures_of_not_inReach _ ha.isFinite hfirst]
      rfl
  | _ => exact hsuits.elim

end Operator

/-! ### Random integers -/

section grid

variable {least greatest step : Int64} (hle : ¬least > greatest) (hstep : ¬step < 1)

include hle hstep

/-- A validated grid is drawn from if its bounds are a word apart. -/
theorem drawInteger_of_inRange (hspan : Word.InRange (greatest.toInt - least.toInt))
    (source : RandomSource) :
    ∃ value left, drawInteger least greatest step source = .ok (value, left) := by
  have hsize : gridSize least greatest step =
      .ok (((Int64.ofInt (greatest.toInt - least.toInt)).toInt / step.toInt).toNat + 1) := by
    rw [gridSize, if_neg (not_or.2 ⟨hstep, hle⟩), Word.sub?, Word.narrow?_of_inRange hspan]
  rw [drawInteger, hsize]
  exact ⟨_, _, rfl⟩

theorem drawInteger_of_not_inRange (hspan : ¬Word.InRange (greatest.toInt - least.toInt))
    (source : RandomSource) :
    drawInteger least greatest step source = .error (.overflow "randomInteger") := by
  have hsize : gridSize least greatest step = .error (.overflow "randomInteger") := by
    rw [gridSize, if_neg (not_or.2 ⟨hstep, hle⟩), Word.sub?, Word.narrow?_of_not_inRange hspan]
  rw [drawInteger, hsize]
  rfl

end grid

/-! ### Nodes of expressions -/

/-- Every problem of an operator makes a definition unusable. -/
theorem Subject.isWarning_operatorProblem? {operator : Operator} {problem : Problem}
    (h : operatorProblem? operator = some problem) : problem.isWarning = false := by
  unfold operatorProblem? at h
  -- The attributes of each operator have one problem at most.
  repeat' split at h
  all_goals cases h
  all_goals rfl

/-- An operator without errors has as many operands as it takes, and no problem. -/
theorem Subject.of_checkOperator {source : String} {operator : Operator} {count : Nat}
    (h : (checkOperator source operator count).errors = []) :
    operator.arity.accepts count = true ∧ operatorProblem? operator = none := by
  obtain ⟨harity, hattributes⟩ := Findings.errors_append_eq_nil.1 h
  refine ⟨?_, ?_⟩
  · by_contra hcount
    -- A wrong number of operands is an error, and not only a warning.
    rw [if_neg hcount, Findings.errors_singleton_eq_nil] at harity
    cases harity
  · cases hproblem : operatorProblem? operator with
    | none => rfl
    | some problem =>
      rw [hproblem] at hattributes
      have hwarning : problem.isWarning = true := Findings.errors_singleton_eq_nil.1 hattributes
      rw [isWarning_operatorProblem? hproblem] at hwarning
      cases hwarning

/-- What cannot be drawn is a fault, and the environment stays as it is. -/
theorem Evaluation.run_drawn_eq_error {α : Type} {environment : Environment} {error : RuntimeFault}
    {draw : RandomSource → Except RuntimeFault (α × RandomSource)}
    (h : draw environment.random = .error error) :
    (drawn draw).run.run environment = (.error (.runtime error), environment) := by
  have hget : (get : Evaluation Environment).run.run environment = (.ok environment, environment) :=
    rfl
  rw [drawn, Action.run_bind, hget]
  dsimp only
  rw [h]
  rfl

namespace Expression

variable {engine : Engine} {view : View} {operator : Operator} {operands : List Expression}
  {values : List Value} {environment after : Environment}

/-- An operator that is not a connective is applied to the values of its operands. -/
theorem run_apply (hand : operator ≠ .and) (hor : operator ≠ .or)
    (harity : operator.arity.accepts operands.length = true)
    (hvalues : (tryEvaluateAll engine view operands).run.run environment = (.ok values, after)) :
    ((apply operator operands).tryEvaluate engine view).run.run environment =
      (Evaluation.drawn (operator.apply engine.options.overflow values)).run.run after := by
  have heval : (apply operator operands).tryEvaluate engine view =
      tryEvaluateAll engine view operands >>= fun values =>
        Evaluation.drawn (operator.apply engine.options.overflow values) := by
    simp [tryEvaluate, harity]
  rw [heval, Action.run_bind, hvalues]

/-- The values are operands of the types that a node takes whose attributes are in question. -/
def Suits : Expression → List Value → Prop
  | apply operator _, values => operator.Suits values
  | randomInteger _ _ _, _ => True
  | _, _ => False

/-- The attributes of a node are such that it has a value. -/
def InReach : Expression → List Value → Prop
  | apply operator _, values => operator.InReach values
  | randomInteger least greatest _, _ => Word.InRange (greatest.toInt - least.toInt)
  | _, _ => True

/-- The fault of attributes that are such that a node has no value. -/
def reachFault : Expression → RuntimeFault
  | apply operator _ => operator.reachFault
  | _ => .overflow "randomInteger"

/-- **A validated node over suitable operands has a value exactly where its attributes are in
reach**, and ends with the fault of its attributes otherwise. -/
theorem run_tryEvaluate_of_checkNode {subject : Subject} {registry : Registry} {source : String}
    {node : Expression} (hvalid : (subject.checkNode registry source node).errors = [])
    (hvalues : (tryEvaluateAll engine view node.operands).run.run environment =
      (.ok values, after))
    (hsuits : node.Suits values) :
    (node.InReach values →
      ∃ value left, (node.tryEvaluate engine view).run.run environment = (.ok value, left)) ∧
    (¬node.InReach values →
      (node.tryEvaluate engine view).run.run environment =
        (.error (.runtime node.reachFault), after)) := by
  cases node with
  | apply operator operands =>
    obtain ⟨harity, hproblem⟩ := Subject.of_checkOperator hvalid
    -- The connectives, which have no attributes, are evaluated operand by operand.
    have hand : operator ≠ .and := by rintro rfl; exact hsuits
    have hor : operator ≠ .or := by rintro rfl; exact hsuits
    rw [run_apply hand hor harity hvalues]
    have happly := Operator.Suits.apply_eq hsuits engine.options.overflow after.random
    refine ⟨fun hreach => ?_, fun hreach => ?_⟩
    · obtain ⟨value, hvalue⟩ :=
        Operator.compute_of_inReach hproblem hsuits hreach engine.options.overflow
      rw [hvalue] at happly
      exact ⟨value, _, Evaluation.run_drawn happly⟩
    · rw [Operator.compute_of_not_inReach hproblem hsuits hreach] at happly
      exact Evaluation.run_drawn_eq_error happly
  | randomInteger least greatest step =>
    have hgrid : ¬(least > greatest ∨ step < 1) := by
      intro h
      have herrors := Findings.errors_ite_eq_nil.1 hvalid h
      cases herrors
    obtain ⟨hle, hstep⟩ := not_or.1 hgrid
    -- There are no operands, so nothing has changed before the draw.
    obtain ⟨-, rfl⟩ := Prod.mk.inj hvalues
    refine ⟨fun hspan => ?_, fun hspan => ?_⟩
    · obtain ⟨value, random, hdraw⟩ := drawInteger_of_inRange hle hstep hspan environment.random
      exact ⟨value, _, Evaluation.run_drawn hdraw⟩
    · exact Evaluation.run_drawn_eq_error (drawInteger_of_not_inRange hle hstep hspan _)
  | _ => exact hsuits.elim

/-- One is rounded to two decimal places. Three thousand million decimal places pass validation as
well, and are a fault. -/
theorem run_tryEvaluate_of_checkNode_roundTo :
    (∃ value left, ((apply (.roundTo .decimalPlaces 2) [.baseValue (.integer 1)]).tryEvaluate
      ⟨.empty, .default⟩ .undeclared).run.run (.forPass 0 0 .info) = (.ok value, left)) ∧
    ((apply (.roundTo .decimalPlaces 3000000000) [.baseValue (.integer 1)]).tryEvaluate
      ⟨.empty, .default⟩ .undeclared).run.run (.forPass 0 0 .info) =
        (.error (.runtime (.domain "roundTo" (.badFigures 3000000000 .decimalPlaces))),
          .forPass 0 0 .info) := by
  have hvalid (figures : Int64) (hpos : ¬figures < 0) :
      ((Subject.ofItem (.bare ⟨"Q", by decide +kernel⟩)).checkNode .empty ""
        (apply (.roundTo .decimalPlaces figures) [.baseValue (.integer 1)])).errors = [] := by
    simp [Subject.checkNode, Subject.checkOperator, Subject.operatorProblem?, hpos, Operator.arity,
      Arity.accepts, Arity.exactly, Findings.errors]
  have hvalues : (tryEvaluateAll ⟨.empty, .default⟩ .undeclared
      [.baseValue (.integer 1)]).run.run (.forPass 0 0 .info) =
        (.ok [.integer 1], .forPass 0 0 .info) := rfl
  have hsuits (figures : Int64) : (Operator.roundTo .decimalPlaces figures).Suits [.integer 1] :=
    ⟨_, _, rfl, .integer 1⟩
  have hin : (2 : Int64).toInt < 0x80000000 := by decide
  have hout : ¬(3000000000 : Int64).toInt < 0x80000000 := by decide
  have htwo := run_tryEvaluate_of_checkNode (hvalid 2 (by decide)) hvalues (hsuits 2)
  have hmany :=
    run_tryEvaluate_of_checkNode (hvalid 3000000000 (by decide)) hvalues (hsuits 3000000000)
  exact ⟨htwo.1 fun _ _ _ _ => hin, hmany.2 fun h => hout (h _ List.mem_cons_self _ (.integer 1))⟩

/-- Bounds from minus one to one are in order, and pass validation. -/
theorem not_forall_exists_run_of_checkNode :
    ¬∀ (subject : Subject) (registry : Registry) (source : String) (node : Expression)
      (engine : Engine) (view : View) (environment after : Environment) (values : List Value),
      (subject.checkNode registry source node).errors = [] →
      (tryEvaluateAll engine view node.operands).run.run environment = (.ok values, after) →
      node.Suits values →
      ∃ value left, (node.tryEvaluate engine view).run.run environment = (.ok value, left) := by
  intro h
  have hsuits : (Operator.anyN (-1) 1).Suits [.boolean true] :=
    List.forall_mem_singleton.2 (.inr ⟨true, rfl⟩)
  obtain ⟨value, left, hvalue⟩ := h (.ofItem (.bare ⟨"Q", by decide +kernel⟩)) .empty ""
    (apply (.anyN (-1) 1) [.baseValue (.boolean true)]) ⟨.empty, .default⟩ .undeclared
    (.forPass 0 0 .info) _ _ rfl rfl hsuits
  have hfault : ((apply (.anyN (-1) 1) [.baseValue (.boolean true)]).tryEvaluate
      ⟨.empty, .default⟩ .undeclared).run.run (.forPass 0 0 .info) =
        (.error (.runtime (.domain "anyN" .negativeBounds)), .forPass 0 0 .info) := rfl
  rw [hfault] at hvalue
  cases hvalue

end Expression

end Assessment
