import Assessment.Proofs.Evaluation
import Assessment.Proofs.Test.Operation

/-!
# Conditions

Conditions are evaluated one after the other, up to the first that is not true, with the random
numbers of the next pass. What their evaluation reports is about evaluation.

## Main definitions

- `Expression.HoldFrom`: conditions that are true one after the other.
- `TestDelivery.Meets`: a session meets conditions.

## Main results

- `Evaluation.keeps_evaluateLeaf` and `Expression.keeps_evaluate`: what evaluations keep that only
  draw random numbers and report what they cannot evaluate.
- `TestDelivery.yields_conditionsHold`: conditions hold just if the session meets them.
-/

namespace Assessment

open Action

/-! ### What evaluations keep -/

namespace Evaluation

variable {holds : Environment → Prop}
  (hrandom : ∀ environment random, holds environment → holds { environment with random })

theorem keeps_of_found {α : Type} (result : Except LogicError α) :
    Keeps holds (fun _ => True) (found result) := keeps_found yields_true

theorem keeps_of_computed {α : Type} (result : Except RuntimeFault α) :
    Keeps holds (fun _ => True) (computed result) := keeps_computed yields_true

theorem keeps_responseDeclaration (view : View) (operation : String) (name : Identifier) :
    Keeps holds (fun _ => True) (responseDeclaration view operation name) := by
  unfold responseDeclaration
  split
  next => exact keeps_pure _
  next => exact keeps_fault trivial
  next => exact keeps_fault trivial

theorem keeps_mappedScore (view : View) (name : Identifier) :
    Keeps holds (fun _ => True) (mappedScore view name) := by
  refine (keeps_responseDeclaration view _ name).bind fun declaration => ?_
  split
  next => exact keeps_fault trivial
  next => exact (keeps_of_found _).bind fun _ => keeps_pure _

theorem keeps_mappedPointScore (view : View) (name : Identifier) :
    Keeps holds (fun _ => True) (mappedPointScore view name) := by
  refine (keeps_responseDeclaration view _ name).bind fun declaration => ?_
  split
  next => exact keeps_fault trivial
  next =>
    split
    next => exact keeps_fault trivial
    next => exact (keeps_of_found _).bind fun _ => keeps_pure _

theorem keeps_aggregated (view : View) (operation : String) :
    Keeps holds (fun _ => True) (aggregated view operation) := by
  unfold aggregated
  split
  next => exact keeps_pure _
  next => exact fun _ h => ⟨h, trivial⟩

include hrandom

theorem keeps_of_drawn {α : Type} (draw : RandomSource → Except RuntimeFault (α × RandomSource)) :
    Keeps holds (fun _ => True) (drawn draw) := keeps_drawn hrandom fun _ => yields_true

/-- The value of a leaf is found without a report. -/
theorem keeps_evaluateLeaf (view : View) (node : Expression) :
    Keeps holds (fun _ => True) (evaluateLeaf view node) := by
  cases node with
  | baseValue | mathConstant | null | apply | custom => exact keeps_pure _
  | valueOf => exact (keeps_of_found _).bind fun _ => keeps_pure _
  | defaultOf | correctOf => exact keeps_of_found _
  | mapResponse name => exact keeps_mappedScore view name
  | mapResponsePoint name => exact keeps_mappedPointScore view name
  | randomInteger | randomFloat => exact keeps_of_drawn hrandom _
  | countItems => exact (keeps_aggregated view _).bind fun _ => keeps_pure _
  | testVariables name weight baseType subset =>
    refine (keeps_aggregated view _).bind fun items => ?_
    dsimp only
    split
    next => exact keeps_pure _
    next => exact fun _ h => ⟨h, trivial⟩
  | outcomeBounds => exact (keeps_aggregated view _).bind fun _ => keeps_of_computed _

end Evaluation

/-- What does not depend on random numbers, and is kept by reports about evaluation, is kept by the
evaluation of an expression. -/
theorem Expression.keeps_evaluate {holds : Environment → Prop} {engine : Engine} {view : View}
    (hrandom : ∀ environment random, holds environment → holds { environment with random })
    (hrecord : ∀ environment level source message, holds environment →
      holds (environment.record ⟨level, .evaluation, source, message⟩))
    (expression : Expression) {environment : Environment} (h : holds environment) :
    (expression.evaluate engine view).Ensures environment (fun _ => holds) fun _ => holds := by
  have hkeep : NodesKeep engine view (fun _ => True) holds fun _ => True :=
    { leaf := fun _ => Evaluation.keeps_evaluateLeaf hrandom view _
      arity := fun _ _ => trivial
      builtIn := fun _ _ => Evaluation.keeps_of_drawn hrandom _
      connective := fun _ => trivial
      extension := fun _ _ _ => Evaluation.keeps_of_computed _
      unsupported := fun _ environment henvironment => hrecord environment _ _ _ henvironment }
  exact (ensures_evaluate (hkeep.keeps_tryEvaluate expression fun _ _ => trivial)
    (fun hleft _ => hrecord _ _ _ _ hleft) h).mono (fun _ _ h => h) fun _ _ h => h.1

/-! ### Conditions -/

/-- Every notification of a log is about the evaluation of an expression. -/
def NotificationLog.IsEvaluation (log : NotificationLog) : Prop :=
  ∀ entry ∈ log.entries, entry.kind = .evaluation

theorem NotificationLog.IsEvaluation.record {log : NotificationLog} (h : log.IsEvaluation)
    {notification : Notification} (hkind : notification.kind = .evaluation) :
    (log.record notification).IsEvaluation := by
  rw [NotificationLog.record]
  split
  next =>
    refine List.forall_mem_append.2 ⟨h, ?_⟩
    rintro _ (_ | ⟨_, ⟨⟩⟩)
    exact hkind
  next => exact h

/-- Conditions that are evaluated one after the other, from an environment on, are true. -/
def Expression.HoldFrom (engine : Engine) (view : View) : List Expression → Environment → Prop
  | [], _ => True
  | first :: rest, environment => ∃ value next,
    (first.evaluate engine view).run.run environment = (.ok value, next) ∧
      value.bool? = some true ∧ HoldFrom engine view rest next

namespace TestDelivery

variable (delivery : TestDelivery) (state : TestState)

/-- A session meets conditions: they are true one after the other, with the random numbers of the
next pass. -/
def Meets (conditions : List Expression) : Prop :=
  Expression.HoldFrom delivery.engine (state.view delivery.definition) conditions
    (.forPass state.seed state.passes delivery.engine.options.level)

/-- Conditions that are evaluated to the end are found to be true just if they are. -/
theorem ensures_allTrue (engine : Engine) (view : View) (conditions : List Expression)
    {environment : Environment} (h : environment.log.IsEvaluation) :
    (allTrue engine view conditions).Ensures environment
      (fun holds left => left.log.IsEvaluation ∧
        (holds = true ↔ Expression.HoldFrom engine view conditions environment))
      fun _ _ => True := by
  induction conditions generalizing environment with
  | nil => exact ⟨h, iff_of_true rfl trivial⟩
  | cons first rest ih =>
    rw [allTrue]
    have hkeeps : (first.evaluate engine view).Ensures environment
        (fun _ left => left.log.IsEvaluation) fun _ left => left.log.IsEvaluation :=
      first.keeps_evaluate (fun _ _ h => h) (fun _ _ _ _ h => h.record rfl) h
    refine (hkeeps.and (ensures_run _ _)).bind ?_ fun _ _ _ => trivial
    rintro value next ⟨hnext, hrun⟩
    -- The run of the first condition is the only one there is.
    have hfirst : Expression.HoldFrom engine view (first :: rest) environment ↔
        value.bool? = some true ∧ Expression.HoldFrom engine view rest next := by
      constructor
      · rintro ⟨_, _, hother, htrue, hrest⟩
        cases hrun.symm.trans hother
        exact ⟨htrue, hrest⟩
      · exact fun hrest => ⟨value, next, hrun, hrest⟩
    rw [ensures_ite]
    refine ⟨fun htrue => ?_, fun hfalse => ⟨hnext, ?_⟩⟩
    · refine (ih hnext).mono (fun holds left hleft => ⟨hleft.1, ?_⟩) fun _ _ h => h
      rw [hleft.2, hfirst, and_iff_right htrue]
    · rw [hfirst]
      exact iff_of_false Bool.false_ne_true fun hrest => hfalse hrest.1

/-- Conditions that are evaluated without an error hold just if the session meets them. What is
reported is about their evaluation. -/
theorem yields_conditionsHold (conditions : List Expression) :
    Yields (delivery.conditionsHold state conditions)
      (fun answer => answer.2.IsEvaluation ∧ (answer.1 = true ↔ delivery.Meets state conditions))
      fun _ => True := by
  have hempty : (Environment.forPass state.seed state.passes
    delivery.engine.options.level).log.IsEvaluation := fun _ h => absurd h List.not_mem_nil
  have hall := ensures_allTrue delivery.engine (state.view delivery.definition) conditions hempty
  rcases hrun : (allTrue delivery.engine (state.view delivery.definition) conditions).run.run
    (.forPass state.seed state.passes delivery.engine.options.level) with ⟨error | holds, left⟩
  · rw [conditionsHold, hrun]
    trivial
  · rw [conditionsHold, hrun]
    exact hall.ok hrun

end TestDelivery

end Assessment
