import Assessment.Declaration.Basic
import Assessment.Expression.Encoding

/-!
# Processing rules

Ordered lists of rules change the variables of a session: they assign values, branch on
conditions, end the processing, or ask template processing to start over.

`Rule.walk` lists the rules of a tree, each before those nested in it, and `Rule.expressions` all
nodes of the expressions in it.
-/

namespace Assessment

/-- When a list of rules is run. -/
inductive ProcessingKind where
  /-- Once, before an item is presented. -/
  | template
  /-- After an attempt. -/
  | response
  /-- After the items of a test were scored. -/
  | outcome
  deriving DecidableEq

/-- The name of a kind of processing. -/
def ProcessingKind.name : ProcessingKind → String
  | .template => "templateProcessing"
  | .response => "responseProcessing"
  | .outcome => "outcomeProcessing"

/-- What an exit rule ends. -/
inductive ExitScope where
  /-- Template processing. -/
  | template
  /-- Response processing. -/
  | response
  /-- The test. -/
  | test
  deriving DecidableEq

/-- How the run of a list of rules ended. -/
inductive Ending where
  /-- All rules were run. -/
  | completed
  /-- An exit rule ended it. -/
  | exited (scope : ExitScope)
  deriving DecidableEq

/-- What an assignment rule assigns. -/
inductive Target where
  /-- The value of an outcome variable. -/
  | outcomeValue
  /-- The value of a response variable. -/
  | responseValue
  /-- The value of a template variable. -/
  | templateValue
  /-- The correct answer of a response variable in this session. -/
  | correctResponse
  /-- The default of a variable in this session. -/
  | defaultValue
  /-- The value of an outcome variable, through its lookup table. -/
  | lookupOutcome
  deriving DecidableEq

namespace Target

/-- The name of the rule that assigns a target. -/
def name : Target → String
  | outcomeValue => "setOutcomeValue"
  | responseValue => "setResponseValue"
  | templateValue => "setTemplateValue"
  | correctResponse => "setCorrectResponse"
  | defaultValue => "setDefaultValue"
  | lookupOutcome => "lookupOutcomeValue"

/-- The roles that the variable may have. -/
def roles : Target → List Role
  | outcomeValue | lookupOutcome => [.outcome]
  | responseValue | correctResponse => [.response]
  | templateValue => [.template]
  | defaultValue => [.response, .outcome]

/-- Whether the rule changes what a session declares and not a value. -/
def isOverride : Target → Bool
  | correctResponse | defaultValue => true
  | _ => false

end Target

mutual

/-- A processing rule. -/
inductive Rule where
  /-- Assign the value of an expression. -/
  | assign (target : Target) (identifier : Identifier) (expression : Expression)
  /-- Run the rules of the first branch whose test is true, or else the last list. -/
  | condition (branches : List Branch) (otherwise : Option (List Rule))
  /-- End the processing. -/
  | exit (scope : ExitScope)
  /-- Start template processing over unless the expression is true. -/
  | constraint (expression : Expression)

/-- A test and the rules that are run when it is true. -/
inductive Branch where
  /-- A branch of a condition. -/
  | mk (test : Expression) (rules : List Rule)

end

namespace Branch

/-- The test of a branch. -/
def test : Branch → Expression
  | mk test _ => test

/-- The rules of a branch. -/
def rules : Branch → List Rule
  | mk _ rules => rules

end Branch

namespace Rule

/-- The name of a rule. -/
def name : Rule → String
  | assign target _ _ => target.name
  | condition _ _ => "condition"
  | exit .template => "exitTemplate"
  | exit .response => "exitResponse"
  | exit .test => "exitTest"
  | constraint _ => "templateConstraint"

/-- The variable that a rule assigns. -/
def identifier? : Rule → Option Identifier
  | assign _ identifier _ => some identifier
  | _ => none

/-- The roles that the assigned variable may have. -/
def roles : Rule → List Role
  | assign target _ _ => target.roles
  | _ => []

/-- How messages refer to a rule: by its name and the variable it assigns. -/
def source (rule : Rule) : String :=
  match rule.identifier? with
  | some identifier => rule.name ++ "[" ++ identifier.text ++ "]"
  | none => rule.name

mutual

/-- The rules of a tree, each before those nested in it. -/
def walk : Rule → List Rule
  | condition branches none => condition branches none :: walkBranches branches
  | condition branches (some otherwise) =>
    condition branches (some otherwise) :: (walkBranches branches ++ walkAll otherwise)
  | leaf => [leaf]

/-- The rules of several trees in order. -/
def walkAll : List Rule → List Rule
  | [] => []
  | first :: rest => walk first ++ walkAll rest

/-- The rules in the branches of a condition. -/
def walkBranches : List Branch → List Rule
  | [] => []
  | .mk _ rules :: rest => walkAll rules ++ walkBranches rest

end

mutual

/-- The nodes of all expressions in a rule, in the order in which they are written. -/
def expressions : Rule → List Expression
  | assign _ _ expression => expression.walk
  | condition branches none => branchExpressions branches
  | condition branches (some otherwise) =>
    branchExpressions branches ++ allExpressions otherwise
  | exit _ => []
  | constraint expression => expression.walk

/-- The nodes of all expressions in several rules. -/
def allExpressions : List Rule → List Expression
  | [] => []
  | first :: rest => expressions first ++ allExpressions rest

/-- The nodes of all expressions in the branches of a condition. -/
def branchExpressions : List Branch → List Expression
  | [] => []
  | .mk test rules :: rest => test.walk ++ allExpressions rules ++ branchExpressions rest

end

/-- The expressions that a rule holds itself; those of nested rules are left to them. -/
def ownExpressions : Rule → List Expression
  | assign _ _ expression => [expression]
  | condition branches _ => branches.map Branch.test
  | exit _ => []
  | constraint expression => [expression]

end Rule

end Assessment
