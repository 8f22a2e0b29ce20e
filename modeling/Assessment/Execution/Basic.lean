import Assessment.Execution.Stage

/-!
# Running rules

Rules are run in order against a stage. A rule whose expression has no value, or whose value cannot
be assigned, is recorded as failed and passed over. A logic error ends the run; what was assigned
before stays assigned.

Template processing is run again as long as a constraint is false. The last pass that the options
permit is kept as it is.

## Main definitions

- `Rule.execute`: run rules once; constraints have no effect.
- `Rule.executeTemplate`: run rules until all constraints hold.
-/

namespace Assessment

/-- What the run of rules works on. -/
structure Run (σ : Type) where
  /-- The session. -/
  session : σ
  /-- Where random numbers come from and notifications go to. -/
  environment : Environment
  /-- Whether a false constraint was let pass. -/
  relaxed : Bool

/-- A step in the run of rules. -/
abbrev Execution (σ : Type) : Type → Type := Action (Run σ) LogicError

/-- How the run of rules goes on. -/
inductive Flow where
  /-- With the next rule. -/
  | next
  /-- Not at all: an exit rule ended it. -/
  | exit (scope : ExitScope)
  /-- With another pass: a constraint is false. -/
  | constraintFailed
  deriving DecidableEq

/-- How a run ended. -/
def Flow.ending : Flow → Ending
  | exit scope => .exited scope
  | next | constraintFailed => .completed

/-- What a false constraint does. -/
inductive ConstraintMode where
  /-- It ends the pass. -/
  | enforce
  /-- It is let pass in the last pass. -/
  | relax
  /-- It has no effect outside of template processing. -/
  | ignore
  deriving DecidableEq

/-- How template processing went. -/
structure TemplateRun where
  /-- How the last pass ended. -/
  ending : Ending
  /-- How many passes there were. -/
  passes : Nat
  /-- Whether no false constraint was let pass. -/
  satisfied : Bool

namespace Execution

variable {σ : Type}

/-- Record a notification of a rule. -/
def note (level : Level) (source : String) (message : Message) : Execution σ Unit :=
  modify fun run =>
    { run with environment := run.environment.record ⟨level, .execution, source, message⟩ }

/-- Change the session. -/
def change (f : σ → Except LogicError σ) : Execution σ Unit := do
  let run ← get
  match f run.session with
  | .ok session => set { run with session }
  | .error error => throw error

/-- The value of an expression; none if it has no value, which is recorded. -/
def valueOf? (engine : Engine) (stage : Stage σ) (source : String) (expression : Expression) :
    Execution σ (Option Value) := do
  let run ← get
  -- the environment is kept also when the evaluation ends with a fault
  let (result, environment) :=
    (expression.tryEvaluate engine (stage.view run.session)).run.run run.environment
  set { run with environment }
  match result with
  | .ok value => return some value
  | .error (.logic error) => throw error
  | .error (.runtime fault) => do
    note .error source (.fault fault)
    return none

/-- Whether the value of a test is true. A value that is no truth value is recorded. -/
def isTrue (engine : Engine) (stage : Stage σ) (source : String) (test : Expression) :
    Execution σ Bool := do
  match ← valueOf? engine stage source test with
  | none => return false
  | some value =>
    -- nothing is not true, and nothing to report
    if value.isNull then return false
    else
      match value.bool? with
      | some truth => return truth
      | none => do
        note .error source (.notBoolean value)
        return false

/-- Write a prepared value. -/
def write (stage : Stage σ) (source : String) (target : Target) (name : Identifier)
    (value : Value) : Execution σ Unit :=
  match target, stage.overrides with
  | .correctResponse, some overrides => change (overrides.setCorrect name value)
  | .defaultValue, some overrides => change (overrides.setDefault name value)
  | .correctResponse, none | .defaultValue, none =>
    note .error source (.assignment (.noOverrides target))
  | _, _ => change (stage.assign name value)

/-- Run an assignment rule. -/
def assign (engine : Engine) (stage : Stage σ) (target : Target) (name : Identifier)
    (expression : Expression) : Execution σ Unit := do
  let source := (Rule.assign target name expression).source
  match ← valueOf? engine stage source expression with
  | none => return ()
  | some value =>
    match prepare stage (← get).session target name value with
    | .ok value => write stage source target name value
    | .error problem => note .error source (.assignment problem)

/-- Run a constraint. -/
def constrain (engine : Engine) (stage : Stage σ) (mode : ConstraintMode)
    (expression : Expression) : Execution σ Flow := do
  let source := (Rule.constraint expression).source
  if ← isTrue engine stage source expression then return .next
  else
    match mode with
    | .enforce => return .constraintFailed
    | .relax => do
      modify fun run => { run with relaxed := true }
      note .warning source .constraintRelaxed
      return .next
    | .ignore => do
      note .warning source .constraintIgnored
      return .next

/-- Run rules on a session in an environment of their own; also gives what they reported. -/
def on {α : Type} (environment : Environment) (execution : Execution σ α) :
    Action σ LogicError (α × NotificationLog) := do
  -- what was assigned before an error stays assigned
  let (result, run) := execution.run.run ⟨← get, environment, false⟩
  set run.session
  match result with
  | .ok a => return (a, run.environment.log)
  | .error error => throw error

end Execution

open Execution

namespace Rule

variable {σ : Type}

mutual

/-- Run a rule. -/
def run (engine : Engine) (stage : Stage σ) (mode : ConstraintMode) : Rule → Execution σ Flow
  | assign target name expression => do
    Execution.assign engine stage target name expression
    return .next
  | condition branches none => do
    return (← runBranches engine stage mode branches).getD .next
  | condition branches (some otherwise) => do
    match ← runBranches engine stage mode branches with
    | some flow => return flow
    | none => runAll engine stage mode otherwise
  | exit scope => return .exit scope
  | constraint expression => constrain engine stage mode expression

/-- Run several rules in order, until one ends the run. -/
def runAll (engine : Engine) (stage : Stage σ) (mode : ConstraintMode) :
    List Rule → Execution σ Flow
  | [] => return .next
  | first :: rest => do
    match ← run engine stage mode first with
    | .next => runAll engine stage mode rest
    | flow => return flow

/-- Run the rules of the first branch whose test is true; none if there is no such branch. -/
def runBranches (engine : Engine) (stage : Stage σ) (mode : ConstraintMode) :
    List Branch → Execution σ (Option Flow)
  | [] => return none
  | .mk test rules :: rest => do
    if ← isTrue engine stage "condition" test then
      return some (← runAll engine stage mode rules)
    else runBranches engine stage mode rest

end

/-- Run rules once. -/
def execute (engine : Engine) (stage : Stage σ) (rules : List Rule) : Execution σ Ending := do
  return (← runAll engine stage .ignore rules).ending

/-- Run one pass of template processing. -/
def templatePass (engine : Engine) (stage : Stage σ) (rules : List Rule) (mode : ConstraintMode) :
    Execution σ Flow := do
  modify fun run => { run with relaxed := false }
  runAll engine stage mode rules

/-- Put the template variables back before another pass. -/
def restart (stage : Stage σ) : Execution σ Unit :=
  stage.restart.within Run.session fun session run => { run with session }

/-- Run template processing until all constraints hold, with at most so many further passes after
the next one. `passes` are those before. -/
def templatePasses (engine : Engine) (stage : Stage σ) (rules : List Rule) (passes : Nat) :
    Nat → Execution σ TemplateRun
  -- the last pass: constraints are let pass, and its values are kept
  | 0 => do
    let flow ← templatePass engine stage rules .relax
    return ⟨flow.ending, passes + 1, !(← get).relaxed⟩
  | further + 1 => do
    match ← templatePass engine stage rules .enforce with
    | .constraintFailed => do
      restart stage
      templatePasses engine stage rules (passes + 1) further
    | flow => return ⟨flow.ending, passes + 1, !(← get).relaxed⟩

/-- Run template processing until all constraints hold, as often as the options permit. -/
def executeTemplate (engine : Engine) (stage : Stage σ) (rules : List Rule) :
    Execution σ TemplateRun :=
  -- zero attempts count as one
  templatePasses engine stage rules 0 (engine.options.maxTemplateAttempts.toNat - 1)

end Rule

end Assessment
