import Mathlib.Data.List.Perm.Basic
import Assessment.Execution.Basic
import Assessment.Proofs.Action
import Assessment.Validation.Basic

/-!
# What validation sees of rules

Operands that connectives leave out are not evaluated, nor is what stands in branches that are not
taken, behind an exit rule or behind a fault. Which expressions a run evaluates therefore depends on
the session and on the random numbers. Here evaluation and the running of rules are written once
more, so that they also list each node of an expression when its evaluation begins. Apart from the
list these steps come to the same, and what a pass lists stands among the nodes of its rules, in
their order and no node more often than there.

Validation lists all rules first, then the expressions that each of them holds itself, and then the
nodes of each expression. These are the nodes of all expressions in the rules, each as often as it
is written: no node is left out and none is checked twice, only their order is another one. What
runs of the rules evaluate is among them.

## Main definitions

- `Traced`: a step that lists nodes.
- `Expression.evaluateTraced`: evaluation that lists the nodes it comes to.
- `Rule.executeTraced` and `Rule.executeTemplateTraced`: runs of rules that list the nodes they come
  to.
- `Traced.Follows`: a step that lists nodes comes to the same as one that does not.
- `Rule.checkedNodes`: the nodes that validation checks, each with the rule that it is reported for.
- `Subject.checkAt`: what validation finds at one of them.

## Main results

- `Rule.follows_executeTraced` and `Rule.follows_executeTemplateTraced`: runs of rules list nodes of
  the rules in each pass.
- `Rule.perm_allExpressions`: the nodes that validation checks are those of all expressions in the
  rules.
- `Subject.checkRules_perm`: the findings are those of the rules and those of the nodes.
- `Rule.covered`: validation sees every expression once, and runs evaluate nothing else.
-/

namespace Assessment

open Action

variable {σ ε α β : Type}

/-- A step that also lists nodes of expressions. -/
abbrev Traced (σ ε : Type) : Type → Type := Action (σ × List Expression) ε

namespace Traced

/-- A step that lists nothing. -/
def quietly (step : Action σ ε α) : Traced σ ε α :=
  step.within Prod.fst fun state trace => (state, trace.2)

/-- List a node. -/
def visit (node : Expression) : Traced σ ε Unit :=
  modify fun trace => (trace.1, trace.2 ++ [node])

end Traced

open Traced

/-! ### Steps that list nodes -/

namespace Expression

mutual

/-- The value of an expression. The nodes that are evaluated are listed. -/
def evaluateTraced (engine : Engine) (view : View) : Expression → Traced Environment Fault Value
  | apply operator operands => do
    visit (apply operator operands)
    if !operator.arity.accepts operands.length then
      quietly (Evaluation.fault (.arity operator.name operator.arity operands.length))
    else
      match operator with
      | .and => connectTraced engine view false none operands
      | .or => connectTraced engine view true none operands
      | operator => do
        let values ← evaluateAllTraced engine view operands
        quietly (Evaluation.drawn (operator.apply engine.options.overflow values))
  | custom className operands => do
    visit (custom className operands)
    match engine.registry.operator? className with
    | none => quietly do
      Evaluation.note .warning .evaluation "customOperator" (.unsupportedOperator className)
      return .null
    | some (_, operator) => do
      let values ← evaluateAllTraced engine view operands
      quietly (Evaluation.computed (customValue className operator values))
  | leaf => do
    visit leaf
    quietly (evaluateLeaf view leaf)

/-- The values of several expressions in order. The nodes that are evaluated are listed. -/
def evaluateAllTraced (engine : Engine) (view : View) :
    List Expression → Traced Environment Fault (List Value)
  | [] => pure []
  | first :: rest => do
    let value ← evaluateTraced engine view first
    let values ← evaluateAllTraced engine view rest
    return value :: values

/-- The disjunction or conjunction of several expressions. The nodes that are evaluated are
listed. -/
def connectTraced (engine : Engine) (view : View) (disjunction : Bool) (before : Option TriState) :
    List Expression → Traced Environment Fault Value
  | [] => pure (ofTriState (before.getD .unknown))
  | first :: rest => do
    let value ← evaluateTraced engine view first
    match value.triState? with
    | none =>
      let name := if disjunction then "or" else "and"
      quietly (Evaluation.fault (.typeMismatch name (.expected "single boolean operands")))
    | some state =>
      if state.toBool? = some disjunction then pure (.boolean disjunction)
      else connectTraced engine view disjunction (some (connect disjunction before state)) rest

end

end Expression

namespace Execution

/-- The value of an expression, if it has one. The nodes that are evaluated are listed. -/
def valueTraced? (engine : Engine) (stage : Stage σ) (source : String) (expression : Expression) :
    Traced (Run σ) LogicError (Option Value) := do
  let trace ← get
  let (result, environment, seen) :=
    (expression.evaluateTraced engine (stage.view trace.1.session)).run.run
      (trace.1.environment, trace.2)
  set ({ trace.1 with environment }, seen)
  match result with
  | .ok value => return some value
  | .error (.logic error) => throw error
  | .error (.runtime fault) => quietly do
    note .error source (.fault fault)
    return none

/-- Whether the value of a test is true. The nodes that are evaluated are listed. -/
def isTrueTraced (engine : Engine) (stage : Stage σ) (source : String) (test : Expression) :
    Traced (Run σ) LogicError Bool := do
  match ← valueTraced? engine stage source test with
  | none => return false
  | some value =>
    if value.isNull then return false
    else
      match value.bool? with
      | some truth => return truth
      | none => quietly do
        note .error source (.notBoolean value)
        return false

/-- Run an assignment rule. The nodes that are evaluated are listed. -/
def assignTraced (engine : Engine) (stage : Stage σ) (target : Target) (name : Identifier)
    (expression : Expression) : Traced (Run σ) LogicError Unit := do
  let source := (Rule.assign target name expression).source
  match ← valueTraced? engine stage source expression with
  | none => return ()
  | some value => quietly do
    match prepare stage (← get).session target name value with
    | .ok value => write stage source target name value
    | .error problem => note .error source (.assignment problem)

/-- Run a constraint. The nodes that are evaluated are listed. -/
def constrainTraced (engine : Engine) (stage : Stage σ) (mode : ConstraintMode)
    (expression : Expression) : Traced (Run σ) LogicError Flow := do
  let source := (Rule.constraint expression).source
  if ← isTrueTraced engine stage source expression then return .next
  else quietly do
    match mode with
    | .enforce => return .constraintFailed
    | .relax => do
      modify fun run => { run with relaxed := true }
      note .warning source .constraintRelaxed
      return .next
    | .ignore => do
      note .warning source .constraintIgnored
      return .next

end Execution

namespace Rule

open Execution

mutual

/-- Run a rule. The nodes that are evaluated are listed. -/
def runTraced (engine : Engine) (stage : Stage σ) (mode : ConstraintMode) :
    Rule → Traced (Run σ) LogicError Flow
  | assign target name expression => do
    assignTraced engine stage target name expression
    return .next
  | condition branches none => do
    return (← runBranchesTraced engine stage mode branches).getD .next
  | condition branches (some otherwise) => do
    match ← runBranchesTraced engine stage mode branches with
    | some flow => return flow
    | none => runAllTraced engine stage mode otherwise
  | exit scope => return .exit scope
  | constraint expression => constrainTraced engine stage mode expression

/-- Run several rules in order. The nodes that are evaluated are listed. -/
def runAllTraced (engine : Engine) (stage : Stage σ) (mode : ConstraintMode) :
    List Rule → Traced (Run σ) LogicError Flow
  | [] => return .next
  | first :: rest => do
    match ← runTraced engine stage mode first with
    | .next => runAllTraced engine stage mode rest
    | flow => return flow

/-- Run the rules of the first branch whose test is true. The nodes that are evaluated are
listed. -/
def runBranchesTraced (engine : Engine) (stage : Stage σ) (mode : ConstraintMode) :
    List Branch → Traced (Run σ) LogicError (Option Flow)
  | [] => return none
  | .mk test rules :: rest => do
    if ← isTrueTraced engine stage "condition" test then
      return some (← runAllTraced engine stage mode rules)
    else runBranchesTraced engine stage mode rest

end

/-- Run rules once. The nodes that are evaluated are listed. -/
def executeTraced (engine : Engine) (stage : Stage σ) (rules : List Rule) :
    Traced (Run σ) LogicError Ending := do
  return (← runAllTraced engine stage .ignore rules).ending

/-- Run one pass of template processing. The nodes that are evaluated are listed. -/
def templatePassTraced (engine : Engine) (stage : Stage σ) (rules : List Rule)
    (mode : ConstraintMode) : Traced (Run σ) LogicError Flow := do
  quietly (modify fun run => { run with relaxed := false })
  runAllTraced engine stage mode rules

/-- Run template processing with at most so many further passes after the next one. The nodes that
are evaluated are listed. -/
def templatePassesTraced (engine : Engine) (stage : Stage σ) (rules : List Rule) (passes : Nat) :
    Nat → Traced (Run σ) LogicError TemplateRun
  | 0 => do
    let flow ← templatePassTraced engine stage rules .relax
    quietly do return ⟨flow.ending, passes + 1, !(← get).relaxed⟩
  | further + 1 => do
    match ← templatePassTraced engine stage rules .enforce with
    | .constraintFailed => do
      quietly (restart stage)
      templatePassesTraced engine stage rules (passes + 1) further
    | flow => quietly do return ⟨flow.ending, passes + 1, !(← get).relaxed⟩

/-- Run template processing until all constraints hold. The nodes that are evaluated are listed. -/
def executeTemplateTraced (engine : Engine) (stage : Stage σ) (rules : List Rule) :
    Traced (Run σ) LogicError TemplateRun :=
  templatePassesTraced engine stage rules 0 (engine.options.maxTemplateAttempts.toNat - 1)

end Rule

/-! ### What is listed -/

namespace Traced

/-- A step that lists nodes comes to the same as a step that does not. What it lists are some of the
given nodes, in their order. -/
def Follows (nodes : List Expression) (traced : Traced σ ε α) (step : Action σ ε α) : Prop :=
  ∀ state seen, ∃ visited, visited.Sublist nodes ∧
    traced.run.run (state, seen) =
      ((step.run.run state).1, (step.run.run state).2, seen ++ visited)

variable {nodes nodes' : List Expression} {traced : Traced σ ε α} {step : Action σ ε α}

/-- The nodes that a run of a step lists. -/
def visited (traced : Traced σ ε α) (state : σ) : List Expression :=
  (traced.run.run (state, [])).2.2

theorem Follows.visited_sublist (h : Follows nodes traced step) (state : σ) :
    (traced.visited state).Sublist nodes := by
  obtain ⟨visited, hvisited, hrun⟩ := h state []
  rwa [Traced.visited, hrun]

theorem Follows.mono (h : Follows nodes traced step) (hnodes : nodes.Sublist nodes') :
    Follows nodes' traced step := by
  intro state seen
  obtain ⟨visited, hvisited, hrun⟩ := h state seen
  exact ⟨visited, hvisited.trans hnodes, hrun⟩

theorem follows_quietly (step : Action σ ε α) : Follows nodes (quietly step) step := by
  intro state seen
  refine ⟨[], nodes.nil_sublist, ?_⟩
  rw [List.append_nil]
  rfl

theorem follows_pure (a : α) : Follows nodes (pure a : Traced σ ε α) (pure a) :=
  follows_quietly (pure a)

/-- Both steps take the same way. -/
theorem follows_ite {c : Prop} [Decidable c] {traced' : Traced σ ε α} {step' : Action σ ε α}
    (h : c → Follows nodes traced step) (h' : ¬c → Follows nodes traced' step') :
    Follows nodes (if c then traced else traced') (if c then step else step') := by
  by_cases hc : c
  · rw [if_pos hc, if_pos hc]
    exact h hc
  · rw [if_neg hc, if_neg hc]
    exact h' hc

/-- A node is listed before those that the rest of a step lists. -/
theorem Follows.visit_bind (h : Follows nodes traced step) (node : Expression) :
    Follows (node :: nodes) (visit node >>= fun _ => traced) step := by
  intro state seen
  obtain ⟨visited, hvisited, hrun⟩ := h state (seen ++ [node])
  refine ⟨node :: visited, hvisited.cons_cons node, ?_⟩
  rw [run_bind]
  refine hrun.trans ?_
  rw [List.append_assoc, List.singleton_append]

/-- A sequence lists what its first part lists and then what its second part does. -/
theorem Follows.bind {f : α → Traced σ ε β} {g : α → Action σ ε β}
    (h : Follows nodes traced step) (hnext : ∀ a, Follows nodes' (f a) (g a)) :
    Follows (nodes ++ nodes') (traced >>= f) (step >>= g) := by
  intro state seen
  obtain ⟨visited, hvisited, hrun⟩ := h state seen
  rw [run_bind, run_bind, hrun]
  rcases step.run.run state with ⟨error | a, left⟩
  · exact ⟨visited, hvisited.trans (List.sublist_append_left _ _), rfl⟩
  · obtain ⟨visited', hvisited', hrun'⟩ := hnext a left (seen ++ visited)
    refine ⟨visited ++ visited', hvisited.append hvisited', ?_⟩
    rw [← List.append_assoc]
    exact hrun'

/-- What comes after a step may list nothing. -/
theorem Follows.bind_quietly {f : α → Traced σ ε β} {g : α → Action σ ε β}
    (h : Follows nodes traced step) (hnext : ∀ a, Follows [] (f a) (g a)) :
    Follows nodes (traced >>= f) (step >>= g) := by
  have hbind := h.bind hnext
  rwa [List.append_nil] at hbind

/-- What comes before a step may list nothing. -/
theorem follows_quietly_bind (first : Action σ ε α) {f : α → Traced σ ε β} {g : α → Action σ ε β}
    (hnext : ∀ a, Follows nodes (f a) (g a)) :
    Follows nodes (quietly first >>= f) (first >>= g) := by
  have hfirst : Follows [] (quietly first) first := follows_quietly first
  exact hfirst.bind hnext

end Traced

namespace Expression

variable (engine : Engine) (view : View)

-- The recursion follows the nesting of operands. A node is listed before its operands are, and of
-- these a connective lists as many as it needs.
mutual

/-- Evaluation lists nodes of the expression. -/
theorem follows_evaluateTraced : ∀ expression : Expression,
    Follows expression.walk (evaluateTraced engine view expression)
      (tryEvaluate engine view expression)
  | apply operator operands => by
    unfold evaluateTraced tryEvaluate
    refine Follows.visit_bind (follows_ite (fun _ => follows_quietly _) fun _ => ?_) _
    cases operator with
    | and => exact follows_connectTraced false operands none
    | or => exact follows_connectTraced true operands none
    | _ => exact (follows_evaluateAllTraced operands).bind_quietly fun _ => follows_quietly _
  | custom className operands => by
    rw [evaluateTraced, tryEvaluate]
    refine Follows.visit_bind ?_ _
    rcases engine.registry.operator? className with _ | ⟨_, operator⟩
    · exact follows_quietly _
    · exact (follows_evaluateAllTraced operands).bind_quietly fun _ => follows_quietly _
  | baseValue _ | null | valueOf _ _ | defaultOf _ | correctOf _ | mapResponse _
  | mapResponsePoint _ | mathConstant _ | randomInteger _ _ _ | randomFloat _ _ | countItems _ _
  | testVariables _ _ _ _ | outcomeBounds _ _ _ _ => by
    exact Follows.visit_bind (follows_quietly _) _

/-- So it does for several expressions. -/
theorem follows_evaluateAllTraced : ∀ expressions : List Expression,
    Follows (walkAll expressions) (evaluateAllTraced engine view expressions)
      (tryEvaluateAll engine view expressions)
  | [] => follows_pure []
  | first :: rest => by
    rw [evaluateAllTraced, tryEvaluateAll]
    refine (follows_evaluateTraced first).bind fun value => ?_
    exact (follows_evaluateAllTraced rest).bind_quietly fun values => follows_pure _

/-- So it does for the operands of a connective. -/
theorem follows_connectTraced (disjunction : Bool) :
    ∀ (expressions : List Expression) (before : Option TriState),
      Follows (walkAll expressions) (connectTraced engine view disjunction before expressions)
        (tryConnect engine view disjunction before expressions)
  | [], _ => follows_pure _
  | first :: rest, before => by
    rw [connectTraced, tryConnect]
    refine (follows_evaluateTraced first).bind fun value => ?_
    cases value.triState? with
    | none => exact follows_quietly _
    | some state =>
      exact follows_ite (fun _ => follows_pure _) fun _ => follows_connectTraced disjunction rest _

end

end Expression

namespace Execution

variable (engine : Engine) (stage : Stage σ)

theorem follows_valueTraced? (source : String) (expression : Expression) :
    Follows expression.walk (valueTraced? engine stage source expression)
      (valueOf? engine stage source expression) := by
  intro run seen
  obtain ⟨visited, hvisited, hvalue⟩ :=
    expression.follows_evaluateTraced engine (stage.view run.session) run.environment seen
  refine ⟨visited, hvisited, ?_⟩
  -- Both take the environment out of the run and put it back, whatever evaluation comes to.
  rw [valueTraced?, valueOf?, run_get_bind, run_get_bind]
  dsimp only
  rcases hresult : (expression.tryEvaluate engine (stage.view run.session)).run.run run.environment
    with ⟨fault | value, environment⟩
  all_goals
    rw [hresult] at hvalue
    rw [hvalue]
  · cases fault <;> rfl
  · rfl

theorem follows_isTrueTraced (source : String) (test : Expression) :
    Follows test.walk (isTrueTraced engine stage source test)
      (isTrue engine stage source test) := by
  refine (follows_valueTraced? engine stage source test).bind_quietly fun value => ?_
  cases value with
  | none => exact follows_pure _
  | some value =>
    refine follows_ite (fun _ => follows_pure _) fun _ => ?_
    cases value.bool? with
    | some truth => exact follows_pure _
    | none => exact follows_quietly _

theorem follows_assignTraced (target : Target) (name : Identifier) (expression : Expression) :
    Follows expression.walk (assignTraced engine stage target name expression)
      (assign engine stage target name expression) := by
  refine (follows_valueTraced? engine stage _ expression).bind_quietly fun value => ?_
  cases value with
  | none => exact follows_pure _
  | some value => exact follows_quietly _

theorem follows_constrainTraced (mode : ConstraintMode) (expression : Expression) :
    Follows expression.walk (constrainTraced engine stage mode expression)
      (constrain engine stage mode expression) := by
  refine (follows_isTrueTraced engine stage _ expression).bind_quietly fun truth => ?_
  cases truth with
  | true => exact follows_pure _
  | false => exact follows_quietly _

end Execution

namespace Rule

open Execution

variable (engine : Engine) (stage : Stage σ) (mode : ConstraintMode)

-- The recursion follows the nesting of rules. The nodes of a condition are those of its branches,
-- each test before its rules, and then those of the rules that are run otherwise.
mutual

/-- A run of a rule lists nodes of the rule. -/
theorem follows_runTraced : ∀ rule : Rule,
    Follows rule.expressions (runTraced engine stage mode rule) (run engine stage mode rule)
  | .assign target name expression => by
    rw [runTraced, run, expressions]
    exact (follows_assignTraced engine stage target name expression).bind_quietly
      fun _ => follows_pure _
  | .condition branches none => by
    rw [runTraced, run, expressions]
    exact (follows_runBranchesTraced branches).bind_quietly fun _ => follows_pure _
  | .condition branches (some otherwise) => by
    rw [runTraced, run, expressions]
    refine (follows_runBranchesTraced branches).bind fun flow => ?_
    cases flow with
    | some flow => exact follows_pure _
    | none => exact follows_runAllTraced otherwise
  | .exit scope => follows_pure _
  | .constraint expression => by
    rw [runTraced, run, expressions]
    exact follows_constrainTraced engine stage mode expression

/-- A run of several rules lists nodes of the rules. -/
theorem follows_runAllTraced : ∀ rules : List Rule,
    Follows (allExpressions rules) (runAllTraced engine stage mode rules)
      (runAll engine stage mode rules)
  | [] => follows_pure _
  | first :: rest => by
    rw [runAllTraced, runAll, allExpressions]
    refine (follows_runTraced first).bind fun flow => ?_
    cases flow with
    | next => exact follows_runAllTraced rest
    | exit scope => exact follows_pure _
    | constraintFailed => exact follows_pure _

/-- A run of branches lists nodes of the branches. -/
theorem follows_runBranchesTraced : ∀ branches : List Branch,
    Follows (branchExpressions branches) (runBranchesTraced engine stage mode branches)
      (runBranches engine stage mode branches)
  | [] => follows_pure _
  | .mk test rules :: rest => by
    rw [runBranchesTraced, runBranches, branchExpressions, List.append_assoc]
    refine (follows_isTrueTraced engine stage "condition" test).bind fun truth => ?_
    -- Either the rules of the branch are run or the other branches are tried, but not both.
    cases truth with
    | true =>
      refine Follows.mono ?_ (List.sublist_append_left _ _)
      exact (follows_runAllTraced rules).bind_quietly fun _ => follows_pure _
    | false => exact (follows_runBranchesTraced rest).mono (List.sublist_append_right _ _)

end

/-- A run of rules lists nodes of the rules. -/
theorem follows_executeTraced (rules : List Rule) :
    Follows (allExpressions rules) (executeTraced engine stage rules)
      (execute engine stage rules) :=
  (follows_runAllTraced engine stage .ignore rules).bind_quietly fun _ => follows_pure _

theorem follows_templatePassTraced (rules : List Rule) :
    Follows (allExpressions rules) (templatePassTraced engine stage rules mode)
      (templatePass engine stage rules mode) :=
  follows_quietly_bind _ fun _ => follows_runAllTraced engine stage mode rules

/-- Each pass of template processing lists nodes of the rules. -/
theorem follows_templatePassesTraced (rules : List Rule) (further : ℕ) : ∀ passes,
    Follows (List.replicate (further + 1) (allExpressions rules)).flatten
      (templatePassesTraced engine stage rules passes further)
      (templatePasses engine stage rules passes further) := by
  induction further with
  | zero =>
    intro passes
    rw [Nat.zero_add, List.replicate_one, List.flatten_singleton]
    exact (follows_templatePassTraced engine stage .relax rules).bind_quietly
      fun _ => follows_quietly _
  | succ further ih =>
    intro passes
    rw [List.replicate_succ, List.flatten_cons]
    refine (follows_templatePassTraced engine stage .enforce rules).bind fun flow => ?_
    -- Another pass follows only where a constraint failed.
    cases flow with
    | next => exact follows_quietly _
    | exit scope => exact follows_quietly _
    | constraintFailed => exact follows_quietly_bind _ fun _ => ih (passes + 1)

/-- Template processing lists nodes of the rules in each pass. -/
theorem follows_executeTemplateTraced (rules : List Rule) :
    Follows (List.replicate (engine.options.maxTemplateAttempts.toNat - 1 + 1)
        (allExpressions rules)).flatten
      (executeTemplateTraced engine stage rules) (executeTemplate engine stage rules) :=
  follows_templatePassesTraced engine stage rules _ 0

end Rule

/-! ### The nodes of rules -/

namespace Rule

/-- The nodes of the expressions that a rule holds itself. -/
def ownNodes (rule : Rule) : List Expression := rule.ownExpressions.flatMap Expression.walk

/-- The nodes that validation checks, each with the rule that it is reported for. -/
def checkedNodes (rules : List Rule) : List (String × Expression) :=
  (walkAll rules).flatMap fun rule => rule.ownNodes.map (rule.source, ·)

theorem map_snd_checkedNodes (rules : List Rule) :
    (checkedNodes rules).map Prod.snd = (walkAll rules).flatMap ownNodes := by
  simp only [checkedNodes, List.map_flatMap, List.map_map, Function.comp_def, List.map_id']

-- The recursion follows the nesting of rules. Validation comes to the tests of all branches of a
-- condition before it comes to the rules in them.
mutual

/-- The nodes that the rules of a tree hold themselves are all nodes in the tree. -/
theorem perm_expressions : ∀ rule : Rule, (rule.walk.flatMap ownNodes).Perm rule.expressions
  | .assign _ _ _ | .constraint _ => by
    simp [walk, expressions, ownNodes, ownExpressions]
  | .condition branches none => by
    rw [walk, expressions, List.flatMap_cons]
    exact perm_branchExpressions branches
  | .condition branches (some otherwise) => by
    rw [walk, expressions, List.flatMap_cons, List.flatMap_append, ← List.append_assoc]
    exact (perm_branchExpressions branches).append (perm_allExpressions otherwise)
  | .exit _ => List.Perm.refl []

/-- The nodes that the rules of several trees hold themselves are all nodes in the trees. -/
theorem perm_allExpressions : ∀ rules : List Rule,
    ((walkAll rules).flatMap ownNodes).Perm (allExpressions rules)
  | [] => List.Perm.refl []
  | first :: rest => by
    rw [walkAll, allExpressions, List.flatMap_append]
    exact (perm_expressions first).append (perm_allExpressions rest)

/-- The nodes of the tests of branches, and those that the rules in the branches hold themselves,
are all nodes in the branches. -/
theorem perm_branchExpressions : ∀ branches : List Branch,
    ((branches.map Branch.test).flatMap Expression.walk ++
      (walkBranches branches).flatMap ownNodes).Perm (branchExpressions branches)
  | [] => List.Perm.refl []
  | .mk test rules :: rest => by
    rw [List.map_cons, List.flatMap_cons, walkBranches, branchExpressions, List.flatMap_append,
      List.append_assoc, List.append_assoc]
    refine List.Perm.append_left _ ?_
    -- The tests of the other branches are checked before the rules of this one.
    refine (List.perm_append_comm_assoc _ _ _).trans ?_
    exact (perm_allExpressions rules).append (perm_branchExpressions rest)

end

end Rule

/-! ### Findings -/

namespace Subject

/-- What is wrong with a node of an expression in a rule. -/
def checkAt (subject : Subject) (registry : Registry) (entry : String × Expression) : Findings :=
  let place := entry.1 ++ "/" ++ entry.2.name
  if subject.admits entry.2 then subject.checkNode registry place entry.2 else [⟨place, .testOnly⟩]

/-- The findings of a rule's own expressions are those of their nodes. -/
theorem checkExpressions_ownExpressions (subject : Subject) (registry : Registry) (rule : Rule) :
    subject.checkExpressions registry rule.source rule.ownExpressions =
      (rule.ownNodes.map (rule.source, ·)).flatMap (subject.checkAt registry) := by
  rw [Rule.ownNodes, List.flatMap_map, List.flatMap_assoc]
  rfl

/-- The findings of rules are those of each rule by itself and those of each checked node. -/
theorem checkRules_perm (subject : Subject) (registry : Registry) (kind : ProcessingKind)
    (rules : List Rule) :
    (subject.checkRules registry kind rules).Perm
      ((Rule.walkAll rules).flatMap (subject.checkRuleHead kind) ++
        (Rule.checkedNodes rules).flatMap (subject.checkAt registry)) := by
  have hnodes : (Rule.checkedNodes rules).flatMap (subject.checkAt registry) =
      (Rule.walkAll rules).flatMap fun rule =>
        subject.checkExpressions registry rule.source rule.ownExpressions := by
    simp only [Rule.checkedNodes, List.flatMap_assoc, checkExpressions_ownExpressions]
  rw [hnodes]
  exact (List.flatMap_append_perm _ _ _).symm

end Subject

/-! ### What validation covers -/

/-- The nodes that validation checks in rules are all that are written there and all that can be
evaluated. -/
structure Rule.Covered (rules : List Rule) : Prop where
  /-- What is found are the findings of each rule by itself and of each checked node. -/
  findings : ∀ subject registry kind, (Subject.checkRules subject registry kind rules).Perm
    ((walkAll rules).flatMap (subject.checkRuleHead kind) ++
      (checkedNodes rules).flatMap (subject.checkAt registry))
  /-- The checked nodes are all nodes of expressions, each as often as it is written. -/
  nodes : ((checkedNodes rules).map Prod.snd).Perm (allExpressions rules)
  /-- A run evaluates some of them, none more often than it is written. -/
  execute : ∀ {σ : Type} engine (stage : Stage σ), Follows (allExpressions rules)
    (executeTraced engine stage rules) (execute engine stage rules)
  /-- So does each pass of template processing. -/
  executeTemplate : ∀ {σ : Type} engine (stage : Stage σ),
    Follows (List.replicate (engine.options.maxTemplateAttempts.toNat - 1 + 1)
        (allExpressions rules)).flatten
      (executeTemplateTraced engine stage rules) (executeTemplate engine stage rules)
  /-- Nothing else is ever evaluated. -/
  evaluated : ∀ {σ : Type} engine (stage : Stage σ) run node,
    node ∈ (executeTraced engine stage rules).visited run ∨
        node ∈ (executeTemplateTraced engine stage rules).visited run →
      node ∈ (checkedNodes rules).map Prod.snd

/-- **Validation sees every expression once.** For every list of rules, nested to any depth, the
nodes that validation checks are the nodes of all expressions in the rules, each as often as it is
written, and every node is among them that a run of the rules evaluates on any stage. -/
theorem Rule.covered (rules : List Rule) : Covered rules where
  findings subject registry kind := subject.checkRules_perm registry kind rules
  nodes := map_snd_checkedNodes rules ▸ perm_allExpressions rules
  execute engine stage := follows_executeTraced engine stage rules
  executeTemplate engine stage := follows_executeTemplateTraced engine stage rules
  evaluated engine stage run node hnode := by
    rw [map_snd_checkedNodes, (perm_allExpressions rules).mem_iff]
    obtain hnode | hnode := hnode
    · exact ((follows_executeTraced engine stage rules).visited_sublist run).subset hnode
    · have hpasses := (follows_executeTemplateTraced engine stage rules).visited_sublist run
      obtain ⟨pass, hpass, hmem⟩ := List.mem_flatten.1 (hpasses.subset hnode)
      rwa [List.eq_of_mem_replicate hpass] at hmem

/-- A disjunction with a true operand leaves out the others, and no branch behind it is tried.
Validation checks them all, and the tests of both branches before the rules of the first one. -/
example (engine : Engine) (stage : Stage σ) (run : Run σ) :
    let yes := Expression.baseValue (.boolean true)
    let sure := Expression.apply .or [yes, .null]
    let rules : List Rule := [.condition [.mk sure [.constraint yes], .mk .null []] none]
    (Rule.executeTraced engine stage rules).visited run = [sure, yes, yes] ∧
      (Rule.checkedNodes rules).map Prod.snd = [sure, yes, .null, .null, yes] :=
  ⟨rfl, rfl⟩

end Assessment
