import Assessment.Execution.Basic
import Assessment.Proofs.Action

/-!
# What runs of rules keep

Rules change a session through the assignments of its stage alone, and report what fails in their
environment. A property of runs that evaluations, assignments and notifications keep is therefore
kept by every run of rules, however the rules are nested and however often template processing
starts over. In the same way a run ends with a logic error only if an assignment or the evaluation
of an expression does.

## Main definitions

- `Stage.Carries`: a property of runs that the parts of rules keep, and one of the values that are
  assigned.
- `Stage.Preserves`: a property of runs that the parts of rules keep, whatever is assigned.
- `Expression.RaisesOnly`: which logic errors the evaluation of an expression may end with.
- `Stage.Keeps`: a property of sessions that the assignments of a stage keep, and the logic errors
  that evaluations and assignments on the stage may end with.
- `Stage.Stores`: a property of values that expressions give, and a property of sessions that
  assignments of such values keep.

## Main results

- `Execution.ensures_write_of`: what a rule that writes ensures, by what it writes.
- `Stage.Carries.ensures_execute` and `Stage.Carries.ensures_executeTemplate`: runs of rules keep
  what their parts keep.
- `Rule.ensures_execute` and `Rule.ensures_executeTemplate`: runs of rules keep what the stage
  keeps.
- `Stage.Stores.ensures_execute` and `Stage.Stores.ensures_executeTemplate`: so they do where it
  depends on the values that are assigned, and where they end with an error.
-/

namespace Assessment

open Action

variable {σ : Type}

/-- A run in which a notification of a rule was recorded. -/
def Run.noted (run : Run σ) (level : Level) (source : String) (message : Message) : Run σ :=
  { run with environment := run.environment.record ⟨level, .execution, source, message⟩ }

/-- The parts of rules of which `admits` holds preserve the property `holds` of runs, and of the
values of expressions `good` holds. A logic error ends a run with an error and a run of which
`failed` holds. -/
structure Stage.Carries (engine : Engine) (stage : Stage σ) (admits : Rule → Prop)
    (good : Value → Prop) (holds : Run σ → Prop) (failed : LogicError → Run σ → Prop) : Prop where
  /-- The evaluation of an expression preserves the property, and so does the note of its fault. -/
  evaluate : ∀ {rule expression run}, admits rule → expression ∈ rule.ownExpressions → holds run →
    (expression.tryEvaluate engine (stage.view run.session)).Ensures run.environment
      (fun value environment => good value ∧ holds { run with environment })
      fun fault environment =>
        match fault with
        | .logic error => failed error { run with environment }
        | .runtime fault => ∀ source,
          holds (Run.noted { run with environment } .error source (.fault fault))
  /-- The note of a test that is no truth value preserves it. -/
  notBoolean : ∀ {run source value}, holds run → holds (run.noted .error source (.notBoolean value))
  /-- The note of a value that cannot be assigned preserves it. -/
  refuse : ∀ {target name expression run source given problem},
    admits (.assign target name expression) → holds run →
    prepare stage run.session target name given = .error problem →
    holds (run.noted .error source (.assignment problem))
  /-- Writing a value that was prepared preserves it. -/
  write : ∀ {target name expression run source given value},
    admits (.assign target name expression) → holds run → good given →
    prepare stage run.session target name given = .ok value →
    (Execution.write stage source target name value).Ensures run (fun _ => holds) failed
  /-- The warning of a constraint preserves it. -/
  warn : ∀ {run source message}, message ∈ [Message.constraintRelaxed, .constraintIgnored] →
    holds run → holds (run.noted .warning source message)
  /-- Whether constraints were let pass does not matter. -/
  relax : ∀ {run} relaxed, holds run → holds { run with relaxed }

namespace Execution

variable {engine : Engine} {stage : Stage σ} {admits : Rule → Prop} {good : Value → Prop}
  {holds : Run σ → Prop} {failed : LogicError → Run σ → Prop} {run : Run σ}

@[simp]
theorem ensures_note {done : Unit → Run σ → Prop} (level : Level) (source : String)
    (message : Message) :
    (note level source message).Ensures run done failed ↔
      done () (run.noted level source message) := Iff.rfl

theorem ensures_valueOf? (hstage : stage.Carries engine admits good holds failed) {rule : Rule}
    {source : String} {expression : Expression} (hrule : admits rule)
    (hexpression : expression ∈ rule.ownExpressions) (hrun : holds run) :
    (valueOf? engine stage source expression).Ensures run
      (fun value left => (∀ given ∈ value, good given) ∧ holds left) failed := by
  have hvalue := hstage.evaluate hrule hexpression hrun
  unfold Ensures at hvalue
  simp only [valueOf?, ensures_bind, ensures_get]
  rcases hresult : (expression.tryEvaluate engine (stage.view run.session)).run.run run.environment
    with ⟨fault | value, environment⟩
  · rw [hresult] at hvalue
    cases fault with
    | runtime fault =>
      refine ⟨?_, hvalue source⟩
      rintro _ ⟨⟩
    | logic error => exact hvalue
  · rw [hresult] at hvalue
    refine ⟨?_, hvalue.2⟩
    rintro _ ⟨⟩
    exact hvalue.1

theorem ensures_isTrue (hstage : stage.Carries engine admits good holds failed) {rule : Rule}
    {source : String} {test : Expression} (hrule : admits rule) (htest : test ∈ rule.ownExpressions)
    (hrun : holds run) :
    (isTrue engine stage source test).Ensures run (fun _ => holds) failed := by
  refine (ensures_valueOf? hstage hrule htest hrun).bind ?_ fun _ _ herror => herror
  rintro value left ⟨-, hleft⟩
  cases value with
  | none => exact hleft
  | some value =>
    rw [ensures_ite]
    refine ⟨fun _ => hleft, fun _ => ?_⟩
    cases value.bool? with
    | some truth => exact hleft
    | none => exact hstage.notBoolean hleft

theorem ensures_assign (hstage : stage.Carries engine admits good holds failed) {target : Target}
    {name : Identifier} {expression : Expression} (hrule : admits (.assign target name expression))
    (hrun : holds run) :
    (assign engine stage target name expression).Ensures run (fun _ => holds) failed := by
  refine (ensures_valueOf? hstage hrule (List.mem_singleton.2 rfl) hrun).bind ?_
    fun _ _ herror => herror
  rintro given left ⟨hgiven, hleft⟩
  cases given with
  | none => exact hleft
  | some given =>
    simp only [ensures_bind, ensures_get]
    cases hvalue : prepare stage left.session target name given with
    | error problem => exact hstage.refuse hrule hleft hvalue
    | ok value => exact hstage.write hrule hleft (hgiven given rfl) hvalue

theorem ensures_constrain (hstage : stage.Carries engine admits good holds failed)
    {mode : ConstraintMode} {expression : Expression} (hrule : admits (.constraint expression))
    (hrun : holds run) :
    (constrain engine stage mode expression).Ensures run (fun _ => holds) failed := by
  refine (ensures_isTrue hstage hrule (List.mem_singleton.2 rfl) hrun).bind ?_
    fun _ _ herror => herror
  intro truth left hleft
  rw [ensures_ite]
  refine ⟨fun _ => hleft, fun _ => ?_⟩
  cases mode with
  | enforce => exact hleft
  | relax => exact hstage.warn (by simp) (hstage.relax true hleft)
  | ignore => exact hstage.warn (by simp) hleft

end Execution

/-! ### Runs of nested rules -/

namespace Stage.Carries

open Execution Rule

variable {engine : Engine} {stage : Stage σ} {admits : Rule → Prop} {good : Value → Prop}
  {holds : Run σ → Prop} {failed : LogicError → Run σ → Prop}

-- The recursion follows the nesting of rules: a list of rules ends early where one of them ends the
-- run, and a condition runs the rules of one branch.
mutual

/-- A rule preserves what its parts preserve. -/
theorem ensures_run (hstage : stage.Carries engine admits good holds failed)
    (mode : ConstraintMode) : ∀ (rule : Rule) (before : Run σ),
      (∀ nested ∈ rule.walk, admits nested) → holds before →
      (rule.run engine stage mode).Ensures before (fun _ => holds) failed
  | .assign target name expression, before, hrules, hbefore => by
    rw [run, ensures_bind]
    exact ensures_assign hstage (hrules _ (by simp [walk])) hbefore
  | .condition branches none, before, hrules, hbefore => by
    have hrule : admits (.condition branches none) := hrules _ (by simp [walk])
    rw [run, ensures_bind]
    refine ensures_runBranches hstage mode branches before hrule
      (fun branch hbranch => List.mem_map_of_mem hbranch) (fun nested hnested => ?_) hbefore
    exact hrules nested (by simp [walk, hnested])
  | .condition branches (some otherwise), before, hrules, hbefore => by
    have hrule : admits (.condition branches (some otherwise)) := hrules _ (by simp [walk])
    have hbranches : ∀ nested ∈ walkBranches branches, admits nested := fun nested hnested =>
      hrules nested (by simp [walk, hnested])
    rw [run]
    refine (ensures_runBranches hstage mode branches before hrule
      (fun branch hbranch => List.mem_map_of_mem hbranch) hbranches hbefore).bind ?_
      fun _ _ herror => herror
    intro flow left hleft
    cases flow with
    | some flow => exact hleft
    | none =>
      refine ensures_runAll hstage mode otherwise left (fun nested hnested => ?_) hleft
      exact hrules nested (by simp [walk, hnested])
  | .exit scope, before, _, hbefore => hbefore
  | .constraint expression, before, hrules, hbefore =>
    ensures_constrain hstage (hrules _ (by simp [walk])) hbefore

/-- Rules in a list preserve what their parts preserve. -/
theorem ensures_runAll (hstage : stage.Carries engine admits good holds failed)
    (mode : ConstraintMode) :
    ∀ (rules : List Rule) (before : Run σ), (∀ rule ∈ walkAll rules, admits rule) → holds before →
      (runAll engine stage mode rules).Ensures before (fun _ => holds) failed
  | [], _, _, hbefore => hbefore
  | first :: rest, before, hrules, hbefore => by
    have hfirst : ∀ nested ∈ first.walk, admits nested := fun nested hnested =>
      hrules nested (by simp [walkAll, hnested])
    rw [runAll]
    refine (ensures_run hstage mode first before hfirst hbefore).bind ?_ fun _ _ herror => herror
    intro flow left hleft
    cases flow with
    -- Only after a rule that goes on to the next one do the rest run.
    | next =>
      refine ensures_runAll hstage mode rest left (fun nested hnested => ?_) hleft
      exact hrules nested (by simp [walkAll, hnested])
    | exit scope => exact hleft
    | constraintFailed => exact hleft

/-- The branches of a condition preserve what their parts preserve. -/
theorem ensures_runBranches (hstage : stage.Carries engine admits good holds failed)
    (mode : ConstraintMode) :
    ∀ (branches : List Branch) (before : Run σ) {rule : Rule}, admits rule →
      (∀ branch ∈ branches, branch.test ∈ rule.ownExpressions) →
      (∀ nested ∈ walkBranches branches, admits nested) → holds before →
      (runBranches engine stage mode branches).Ensures before (fun _ => holds)
        failed
  | [], _, _, _, _, _, hbefore => hbefore
  | .mk test rules :: rest, before, rule, hrule, htests, hrules, hbefore => by
    have htest : test ∈ rule.ownExpressions := htests (.mk test rules) List.mem_cons_self
    rw [runBranches]
    refine (ensures_isTrue hstage hrule htest hbefore).bind ?_ fun _ _ herror => herror
    intro truth left hleft
    rw [ensures_ite]
    constructor
    · intro _
      rw [ensures_bind]
      refine ensures_runAll hstage mode rules left (fun nested hnested => ?_) hleft
      exact hrules nested (by simp [walkBranches, hnested])
    · intro _
      refine ensures_runBranches hstage mode rest left hrule (fun branch hbranch => ?_)
        (fun nested hnested => ?_) hleft
      · exact htests branch (List.mem_cons_of_mem _ hbranch)
      · exact hrules nested (by simp [walkBranches, hnested])

end

variable {rules : List Rule} {before : Run σ}

/-- Running rules once preserves what their parts preserve. -/
theorem ensures_execute (hstage : stage.Carries engine admits good holds failed)
    (hrules : ∀ rule ∈ walkAll rules, admits rule) (hbefore : holds before) :
    (execute engine stage rules).Ensures before (fun _ => holds) failed := by
  rw [execute, ensures_bind]
  exact hstage.ensures_runAll .ignore rules before hrules hbefore

theorem ensures_templatePass (hstage : stage.Carries engine admits good holds failed)
    (hrules : ∀ rule ∈ walkAll rules, admits rule) (hbefore : holds before)
    (mode : ConstraintMode) :
    (templatePass engine stage rules mode).Ensures before (fun _ => holds) failed := by
  rw [templatePass, ensures_bind, ensures_modify]
  exact hstage.ensures_runAll mode rules _ hrules (hstage.relax false hbefore)

/-- Template processing preserves what the parts of rules and a new start preserve, through all its
passes. -/
theorem ensures_templatePasses (hstage : stage.Carries engine admits good holds failed)
    (hrestart : ∀ run, holds run →
      (Rule.restart stage).Ensures run (fun _ => holds) failed)
    (hrules : ∀ rule ∈ walkAll rules, admits rule) (further : Nat) :
    ∀ (passes : Nat) (before : Run σ), holds before →
      (templatePasses engine stage rules passes further).Ensures before (fun _ => holds)
        failed := by
  -- The induction is on the passes that may still follow; the last one runs with relaxed
  -- constraints, so that it does not start over.
  induction further with
  | zero =>
    intro passes before hbefore
    refine (hstage.ensures_templatePass hrules hbefore .relax).bind ?_ fun _ _ herror => herror
    intro flow left hleft
    simpa using hleft
  | succ further ih =>
    intro passes before hbefore
    refine (hstage.ensures_templatePass hrules hbefore .enforce).bind ?_ fun _ _ herror => herror
    intro flow left hleft
    cases flow with
    | next => simpa using hleft
    | exit scope => simpa using hleft
    | constraintFailed =>
      refine (hrestart left hleft).bind (fun _ started hstarted => ?_) fun _ _ herror => herror
      exact ih (passes + 1) started hstarted

/-- Template processing preserves what the parts of rules and a new start preserve. -/
theorem ensures_executeTemplate (hstage : stage.Carries engine admits good holds failed)
    (hrestart : ∀ run, holds run →
      (Rule.restart stage).Ensures run (fun _ => holds) failed)
    (hrules : ∀ rule ∈ walkAll rules, admits rule) (hbefore : holds before) :
    (executeTemplate engine stage rules).Ensures before (fun _ => holds) failed :=
  hstage.ensures_templatePasses hrestart hrules _ 0 before hbefore

end Stage.Carries

/-- The parts of rules of which `admits` holds preserve the property `holds` of runs, and fail with
no logic error but one of which `raises` holds. -/
structure Stage.Preserves (engine : Engine) (stage : Stage σ) (admits : Rule → Prop)
    (holds : Run σ → Prop) (raises : LogicError → Prop) : Prop where
  /-- The evaluation of an expression preserves the property, and so does the note of its fault. -/
  evaluate : ∀ {rule expression run}, admits rule → expression ∈ rule.ownExpressions → holds run →
    (expression.tryEvaluate engine (stage.view run.session)).Ensures run.environment
      (fun _ environment => holds { run with environment })
      fun fault environment =>
        match fault with
        | .logic error => raises error
        | .runtime fault => ∀ source,
          holds (Run.noted { run with environment } .error source (.fault fault))
  /-- The note of a test that is no truth value preserves it. -/
  notBoolean : ∀ {run source value}, holds run → holds (run.noted .error source (.notBoolean value))
  /-- The note of a value that cannot be assigned preserves it. -/
  refuse : ∀ {target name expression run source given problem},
    admits (.assign target name expression) → holds run →
    prepare stage run.session target name given = .error problem →
    holds (run.noted .error source (.assignment problem))
  /-- Writing a value that was prepared preserves it. -/
  write : ∀ {target name expression run source given value},
    admits (.assign target name expression) → holds run →
    prepare stage run.session target name given = .ok value →
    (Execution.write stage source target name value).Ensures run (fun _ => holds)
      fun error _ => raises error
  /-- The warning of a constraint preserves it. -/
  warn : ∀ {run source message}, message ∈ [Message.constraintRelaxed, .constraintIgnored] →
    holds run → holds (run.noted .warning source message)
  /-- Whether constraints were let pass does not matter. -/
  relax : ∀ {run} relaxed, holds run → holds { run with relaxed }

namespace Stage.Preserves

open Rule

variable {engine : Engine} {stage : Stage σ} {admits : Rule → Prop} {holds : Run σ → Prop}
  {raises : LogicError → Prop} {rules : List Rule} {before : Run σ}

/-- What is preserved is carried, where nothing is asked of values and of what an error leaves. -/
theorem carries (hstage : stage.Preserves engine admits holds raises) :
    stage.Carries engine admits (fun _ => True) holds fun error _ => raises error where
  evaluate hrule hexpression hrun :=
    (hstage.evaluate hrule hexpression hrun).mono (fun _ _ hleft => ⟨trivial, hleft⟩)
      fun _ _ herror => herror
  notBoolean := hstage.notBoolean
  refuse := hstage.refuse
  write hrule hrun _ := hstage.write hrule hrun
  warn := hstage.warn
  relax := hstage.relax

/-- Running rules once preserves what their parts preserve. -/
theorem ensures_execute (hstage : stage.Preserves engine admits holds raises)
    (hrules : ∀ rule ∈ walkAll rules, admits rule) (hbefore : holds before) :
    (execute engine stage rules).Ensures before (fun _ => holds) fun error _ => raises error :=
  hstage.carries.ensures_execute hrules hbefore

/-- Template processing preserves what the parts of rules and a new start preserve. -/
theorem ensures_executeTemplate (hstage : stage.Preserves engine admits holds raises)
    (hrestart : ∀ run, holds run →
      (Rule.restart stage).Ensures run (fun _ => holds) fun error _ => raises error)
    (hrules : ∀ rule ∈ walkAll rules, admits rule) (hbefore : holds before) :
    (executeTemplate engine stage rules).Ensures before (fun _ => holds)
      fun error _ => raises error :=
  hstage.carries.ensures_executeTemplate hrestart hrules hbefore

end Stage.Preserves

/-! ### Properties of sessions -/

/-- The evaluation of an expression ends with no logic errors but those of which `raises` holds. -/
def Expression.RaisesOnly (engine : Engine) (view : View) (raises : LogicError → Prop)
    (expression : Expression) : Prop :=
  ∀ environment, (expression.tryEvaluate engine view).Ensures environment (fun _ _ => True)
    fun fault _ => ∀ error, fault = .logic error → raises error

/-- On a stage, the assignments keep the property `keeps` of sessions, and neither they nor the
evaluation of an expression of which `admits` holds fails with a logic error but one of which
`raises` holds. An assignment is only made to a variable that the stage offers, and with a value
that was prepared for it. -/
structure Stage.Keeps (engine : Engine) (stage : Stage σ) (admits : Expression → Prop)
    (keeps : σ → Prop) (raises : LogicError → Prop) : Prop where
  /-- Evaluating an expression raises no other errors. -/
  evaluate : ∀ {expression session}, admits expression → keeps session →
    expression.RaisesOnly engine (stage.view session) raises
  /-- Assigning a value keeps the property. -/
  assign : ∀ {session target name declaration given value}, keeps session →
    stage.assignable? name = some declaration →
    prepareFor target name declaration given = .ok value →
    Yields (stage.assign name value session) keeps raises
  /-- Changing a correct answer keeps the property. -/
  setCorrect : ∀ {session name declaration overrides given value}, keeps session →
    stage.assignable? name = some declaration → stage.overrides = some overrides →
    prepareFor .correctResponse name declaration given = .ok value →
    Yields (overrides.setCorrect name value session) keeps raises
  /-- Changing a default keeps the property. -/
  setDefault : ∀ {session name declaration overrides given value}, keeps session →
    stage.assignable? name = some declaration → stage.overrides = some overrides →
    prepareFor .defaultValue name declaration given = .ok value →
    Yields (overrides.setDefault name value session) keeps raises

/-- A value is prepared for a variable that the stage offers. -/
theorem exists_of_prepare {stage : Stage σ} {session : σ} {target : Target} {name : Identifier}
    {given value : Value} (h : prepare stage session target name given = .ok value) :
    ∃ declaration, stage.assignable? name = some declaration ∧
      prepareFor target name declaration given = .ok value := by
  unfold prepare at h
  split at h
  next declaration hname => exact ⟨declaration, hname, h⟩
  next => split at h <;> cases h

section keeps

open Execution

variable {engine : Engine} {stage : Stage σ} {admits : Expression → Prop} {keeps : σ → Prop}
  {raises : LogicError → Prop} {run : Run σ}

/-- A change leaves the changed session, or leaves the run as it is. -/
theorem Execution.ensures_change_iff {f : σ → Except LogicError σ} {done : Unit → Run σ → Prop}
    {failed : LogicError → Run σ → Prop} :
    (change f).Ensures run done failed ↔
      Yields (f run.session) (fun session => done () { run with session })
        fun error => failed error run := by
  simp only [change, ensures_bind, ensures_get]
  cases f run.session <;> rfl

/-- What a write ensures: it is a change, or a stage without overrides only notes that a correct
answer or a default was to be changed. -/
theorem Execution.ensures_write_of {target : Target} {name : Identifier} {source : String}
    {value : Value} {done : Unit → Run σ → Prop} {failed : LogicError → Run σ → Prop}
    (hnote : target.isOverride = true → stage.overrides = none →
      (note .error source (.assignment (.noOverrides target))).Ensures run done failed)
    (hassign : target.isOverride = false →
      (change (stage.assign name value)).Ensures run done failed)
    (hcorrect : ∀ overrides, target = .correctResponse → stage.overrides = some overrides →
      (change (overrides.setCorrect name value)).Ensures run done failed)
    (hdefault : ∀ overrides, target = .defaultValue → stage.overrides = some overrides →
      (change (overrides.setDefault name value)).Ensures run done failed) :
    (write stage source target name value).Ensures run done failed := by
  cases hover : stage.overrides with
  | none =>
    cases target <;> simp only [write, hover]
    case correctResponse => exact hnote rfl hover
    case defaultValue => exact hnote rfl hover
    all_goals exact hassign rfl
  | some overrides =>
    cases target <;> simp only [write, hover]
    case correctResponse => exact hcorrect overrides rfl hover
    case defaultValue => exact hdefault overrides rfl hover
    all_goals exact hassign rfl

theorem Execution.ensures_change {f : σ → Except LogicError σ}
    (h : Yields (f run.session) keeps raises) :
    (change f).Ensures run
      (fun _ left => keeps left.session ∧ left.environment = run.environment)
      fun error _ => raises error :=
  ensures_change_iff.2 (h.mono (fun _ hkeeps => ⟨hkeeps, rfl⟩) fun _ herror => herror)

/-- Writing a value that was prepared for a variable keeps what the stage keeps, and nothing is
reported by a stage with overrides. -/
theorem Stage.Keeps.ensures_write (hstage : stage.Keeps engine admits keeps raises)
    {target : Target} {name : Identifier} {declaration : Declaration} {source : String}
    {given value : Value} (hrun : keeps run.session)
    (hname : stage.assignable? name = some declaration)
    (hvalue : prepareFor target name declaration given = .ok value) :
    (write stage source target name value).Ensures run
      (fun _ left => keeps left.session ∧
        (target.isOverride = false ∨ stage.overrides.isSome = true →
          left.environment = run.environment))
      fun error _ => raises error := by
  refine ensures_write_of (fun htarget hover => ⟨hrun, fun h => ?_⟩) (fun _ => ?_)
    (fun overrides htarget hover => ?_) fun overrides htarget hover => ?_
  · rw [htarget, hover] at h
    obtain h | h := h <;> cases h
  · exact (ensures_change (hstage.assign hrun hname hvalue)).mono
      (fun _ _ h => ⟨h.1, fun _ => h.2⟩) fun _ _ herror => herror
  · exact (ensures_change (hstage.setCorrect hrun hname hover (htarget ▸ hvalue))).mono
      (fun _ _ h => ⟨h.1, fun _ => h.2⟩) fun _ _ herror => herror
  · exact (ensures_change (hstage.setDefault hrun hname hover (htarget ▸ hvalue))).mono
      (fun _ _ h => ⟨h.1, fun _ => h.2⟩) fun _ _ herror => herror

/-- What the stage keeps of sessions is preserved by the parts of rules. -/
theorem Stage.Keeps.preserves (hstage : stage.Keeps engine admits keeps raises) :
    stage.Preserves engine (fun rule => ∀ expression ∈ rule.ownExpressions, admits expression)
      (fun run => keeps run.session) raises where
  evaluate {_ _ run} hrule hexpression hrun := by
    refine (hstage.evaluate (hrule _ hexpression) hrun run.environment).mono (fun _ _ _ => hrun) ?_
    intro fault _ hraises
    cases fault with
    | logic error => exact hraises error rfl
    | runtime fault => exact fun _ => hrun
  notBoolean hrun := hrun
  refuse _ hrun _ := hrun
  write _ hrun hvalue := by
    obtain ⟨declaration, hname, hvalue⟩ := exists_of_prepare hvalue
    exact (hstage.ensures_write hrun hname hvalue).mono (fun _ _ h => h.1) fun _ _ herror => herror
  warn _ hrun := hrun
  relax _ hrun := hrun

end keeps

namespace Rule

variable {engine : Engine} {stage : Stage σ} {admits : Expression → Prop} {keeps : σ → Prop}
  {raises : LogicError → Prop} {rules : List Rule} {before : Run σ}

/-- All expressions in some rules are ones of which `admits` holds. -/
def Admitted (admits : Expression → Prop) (rules : List Rule) : Prop :=
  ∀ rule ∈ rules, ∀ expression ∈ rule.ownExpressions, admits expression

/-- Running rules once keeps what the stage keeps. -/
theorem ensures_execute (hstage : stage.Keeps engine admits keeps raises)
    (hadmits : Admitted admits (walkAll rules)) (hbefore : keeps before.session) :
    (execute engine stage rules).Ensures before (fun _ left => keeps left.session)
      fun error _ => raises error :=
  hstage.preserves.ensures_execute hadmits hbefore

/-- Template processing keeps what the stage and a new start keep. -/
theorem ensures_executeTemplate (hstage : stage.Keeps engine admits keeps raises)
    (hrestart : ∀ session, keeps session →
      stage.restart.Ensures session (fun _ => keeps) fun error _ => raises error)
    (hadmits : Admitted admits (walkAll rules)) (hbefore : keeps before.session) :
    (executeTemplate engine stage rules).Ensures before (fun _ left => keeps left.session)
      fun error _ => raises error := by
  refine hstage.preserves.ensures_executeTemplate (fun run hrun => ?_) hadmits hbefore
  rw [restart, ensures_within]
  exact hrestart run.session hrun

end Rule

/-- What a run of rules comes to is what it comes to on the session that it is made on, with what
was reported. -/
theorem Execution.ensures_on_iff {α : Type} {execution : Execution σ α} {environment : Environment}
    {session : σ} {done : α × NotificationLog → σ → Prop} {failed : LogicError → σ → Prop} :
    (execution.on environment).Ensures session done failed ↔
      execution.Ensures ⟨session, environment, false⟩
        (fun a left => done (a, left.environment.log) left.session)
        fun error left => failed error left.session := by
  simp only [Execution.on, ensures_bind, ensures_get]
  conv_rhs => unfold Ensures
  rcases execution.run.run ⟨session, environment, false⟩ with ⟨error | a, left⟩ <;> simp

/-- What a run of rules ensures of its session and of its log it ensures of the session that it is
made on and of what is reported. -/
theorem Execution.ensures_on_log {α : Type} {execution : Execution σ α} {environment : Environment}
    {session : σ} {keeps : σ → Prop} {quiet : NotificationLog → Prop} {raises : LogicError → Prop}
    (h : execution.Ensures ⟨session, environment, false⟩
      (fun _ left => keeps left.session ∧ quiet left.environment.log) fun error _ => raises error) :
    (execution.on environment).Ensures session (fun answer left => keeps left ∧ quiet answer.2)
      fun error _ => raises error :=
  ensures_on_iff.2 h

/-- What a run of rules ensures of its session it ensures of the session that it is made on. -/
theorem Execution.ensures_on {α : Type} {execution : Execution σ α} {environment : Environment}
    {session : σ} {keeps : σ → Prop} {raises : LogicError → Prop}
    (h : execution.Ensures ⟨session, environment, false⟩ (fun _ left => keeps left.session)
      fun error _ => raises error) :
    (execution.on environment).Ensures session (fun _ => keeps) fun error _ => raises error :=
  ensures_on_iff.2 h

/-! ### Values that are assigned -/

/-- On a stage, the values of expressions of which `admits` holds are ones of which `good` holds,
and so are the values that are prepared from these. Assignments of such values keep the property
`keeps` of sessions. -/
structure Stage.Stores (engine : Engine) (stage : Stage σ) (admits : Expression → Prop)
    (good : Value → Prop) (keeps : σ → Prop) : Prop where
  /-- Evaluating an expression gives such a value. -/
  evaluate : ∀ {expression session} environment, admits expression → keeps session →
    (expression.tryEvaluate engine (stage.view session)).Ensures environment
      (fun value _ => good value) fun _ _ => True
  /-- Such a value is prepared from such a value. -/
  prepare : ∀ {target name declaration given value}, good given →
    stage.assignable? name = some declaration →
    prepareFor target name declaration given = .ok value → good value
  /-- Assigning such a value keeps the property. -/
  assign : ∀ {session after name value}, good value → keeps session →
    stage.assign name value session = .ok after → keeps after
  /-- Changing a correct answer to such a value keeps it. -/
  setCorrect : ∀ {session after overrides name value}, good value →
    stage.overrides = some overrides → keeps session →
    overrides.setCorrect name value session = .ok after → keeps after
  /-- Changing a default to such a value keeps it. -/
  setDefault : ∀ {session after overrides name value}, good value →
    stage.overrides = some overrides → keeps session →
    overrides.setDefault name value session = .ok after → keeps after

section stores

open Execution Rule

variable {engine : Engine} {stage : Stage σ} {admits : Expression → Prop} {good : Value → Prop}
  {keeps : σ → Prop} {rules : List Rule} {run : Run σ}

/-- A change that keeps a property where it succeeds keeps it also where it fails, as it then
changes nothing. -/
theorem Execution.ensures_change_of_ok {f : σ → Except LogicError σ} (hrun : keeps run.session)
    (h : ∀ after, f run.session = .ok after → keeps after) :
    (change f).Ensures run (fun _ left => keeps left.session) fun _ left => keeps left.session :=
  ensures_change_iff.2 (yields_iff.2 ⟨h, fun _ _ => hrun⟩)

/-- However a run of rules ends, what the stage stores keeps the property of sessions. -/
theorem Stage.Stores.carries (hstage : stage.Stores engine admits good keeps) :
    stage.Carries engine (fun rule => ∀ expression ∈ rule.ownExpressions, admits expression) good
      (fun run => keeps run.session) fun _ run => keeps run.session where
  evaluate {_ _ run} hrule hexpression hrun := by
    refine (hstage.evaluate run.environment (hrule _ hexpression) hrun).mono
      (fun _ _ hvalue => ⟨hvalue, hrun⟩) fun fault _ _ => ?_
    cases fault with
    | logic error => exact hrun
    | runtime fault => exact fun _ => hrun
  notBoolean hrun := hrun
  refuse _ hrun _ := hrun
  write {target name _ run source given value} _ hrun hgiven hvalue := by
    obtain ⟨declaration, hname, hprepared⟩ := exists_of_prepare hvalue
    have hgood := hstage.prepare hgiven hname hprepared
    refine Execution.ensures_write_of (fun _ _ => hrun) (fun _ => ?_)
      (fun overrides htarget hover => ?_) fun overrides htarget hover => ?_
    · exact ensures_change_of_ok hrun fun _ hafter => hstage.assign hgood hrun hafter
    · exact ensures_change_of_ok hrun fun _ hafter => hstage.setCorrect hgood hover hrun hafter
    · exact ensures_change_of_ok hrun fun _ hafter => hstage.setDefault hgood hover hrun hafter
  warn _ hrun := hrun
  relax _ hrun := hrun

variable {session : σ}

/-- Running rules once keeps what the stage stores, however the run ends. -/
theorem Stage.Stores.ensures_execute (hstage : stage.Stores engine admits good keeps)
    (hadmits : Admitted admits (walkAll rules)) (environment : Environment)
    (hsession : keeps session) :
    ((execute engine stage rules).on environment).Ensures session (fun _ => keeps)
      fun _ => keeps :=
  ensures_on_iff.2 (hstage.carries.ensures_execute hadmits hsession)

/-- Template processing keeps what the stage stores if a new start does, however the run ends. -/
theorem Stage.Stores.ensures_executeTemplate (hstage : stage.Stores engine admits good keeps)
    (hrestart : ∀ session, keeps session →
      stage.restart.Ensures session (fun _ => keeps) fun _ => keeps)
    (hadmits : Admitted admits (walkAll rules)) (environment : Environment)
    (hsession : keeps session) :
    ((executeTemplate engine stage rules).on environment).Ensures session (fun _ => keeps)
      fun _ => keeps := by
  refine ensures_on_iff.2 (hstage.carries.ensures_executeTemplate (fun run hrun => ?_) hadmits
    hsession)
  rw [Rule.restart, ensures_within]
  exact hrestart run.session hrun

end stores

end Assessment
