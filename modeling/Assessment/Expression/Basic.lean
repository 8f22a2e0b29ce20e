import Assessment.Expression.Operator

/-!
# Expressions

Immutable trees that are evaluated to values: literals, references to variables, random numbers,
aggregates over the items of a test, and operators over further expressions.

`walk` lists the nodes of a tree, each before its operands.
-/

namespace Assessment

/-- A constant of mathematics. -/
inductive MathConstant where
  /-- The ratio of a circle's circumference to its diameter. -/
  | pi
  /-- The base of the natural logarithm. -/
  | e
  deriving DecidableEq

/-- The double nearest to a constant. -/
def MathConstant.value : MathConstant → Float
  | .pi => 3.141592653589793
  | .e => 2.718281828459045

/-- Which items of a test an aggregate looks at. -/
structure ItemSubset where
  /-- Only items somewhere inside this section. -/
  within : Option Identifier
  /-- Only items of one of these categories, unless none is named. -/
  including : List Identifier
  /-- No items of these categories. -/
  excluding : List Identifier
  deriving DecidableEq

namespace ItemSubset

/-- All items. -/
def all : ItemSubset := ⟨none, [], []⟩

/-- Whether items of some categories are looked at. -/
def acceptsCategories (subset : ItemSubset) (categories : List Identifier) : Bool :=
  (subset.including.isEmpty || subset.including.any categories.contains) &&
    !subset.excluding.any categories.contains

end ItemSubset

/-- What an aggregate counts items for. -/
inductive ItemCount where
  /-- All responses are correct. -/
  | correct
  /-- Some response is not correct. -/
  | incorrect
  /-- The item was presented. -/
  | presented
  /-- An attempt was made. -/
  | responded
  /-- The item is there. -/
  | selected
  deriving DecidableEq

/-- The name of an aggregate that counts. -/
def ItemCount.name : ItemCount → String
  | .correct => "numberCorrect"
  | .incorrect => "numberIncorrect"
  | .presented => "numberPresented"
  | .responded => "numberResponded"
  | .selected => "numberSelected"

/-- A declared bound of an outcome. -/
inductive OutcomeBound where
  /-- The least value. -/
  | minimum
  /-- The greatest value. -/
  | maximum
  deriving DecidableEq

/-- The name of an aggregate over bounds. -/
def OutcomeBound.name : OutcomeBound → String
  | .minimum => "outcomeMinimum"
  | .maximum => "outcomeMaximum"

/-- An expression. -/
inductive Expression where
  /-- A literal. -/
  | baseValue (scalar : Scalar)
  /-- Nothing. -/
  | null
  /-- The value of a variable, with a weight for variables of items in a test. -/
  | valueOf (identifier : Identifier) (weight : Option Identifier)
  /-- The default of a variable. -/
  | defaultOf (identifier : Identifier)
  /-- The correct answer of a response variable. -/
  | correctOf (identifier : Identifier)
  /-- The score that a mapping gives a response. -/
  | mapResponse (identifier : Identifier)
  /-- The score that an area mapping gives a response. -/
  | mapResponsePoint (identifier : Identifier)
  /-- A constant of mathematics. -/
  | mathConstant (constant : MathConstant)
  /-- A random integer of a grid. -/
  | randomInteger (least greatest step : Int64)
  /-- A random double of an interval. -/
  | randomFloat (least greatest : Float)
  /-- How many items of a test have some property. -/
  | countItems (count : ItemCount) (subset : ItemSubset)
  /-- The values of one variable of several items. -/
  | testVariables (identifier : Identifier) (weight : Option Identifier)
      (baseType : Option BaseType) (subset : ItemSubset)
  /-- The declared bounds of one outcome of several items. -/
  | outcomeBounds (bound : OutcomeBound) (identifier : Identifier) (weight : Option Identifier)
      (subset : ItemSubset)
  /-- A built-in operator. -/
  | apply (operator : Operator) (operands : List Expression)
  /-- An operator of an extension. -/
  | custom (className : String) (operands : List Expression)

namespace Expression

/-- The name of an expression. -/
def name : Expression → String
  | baseValue _ => "baseValue"
  | null => "null"
  | valueOf _ _ => "variable"
  | defaultOf _ => "default"
  | correctOf _ => "correct"
  | mapResponse _ => "mapResponse"
  | mapResponsePoint _ => "mapResponsePoint"
  | mathConstant _ => "mathConstant"
  | randomInteger _ _ _ => "randomInteger"
  | randomFloat _ _ => "randomFloat"
  | countItems count _ => count.name
  | testVariables _ _ _ _ => "testVariables"
  | outcomeBounds bound _ _ _ => bound.name
  | apply operator _ => operator.name
  | custom _ _ => "customOperator"

/-- The operands of an expression. -/
def operands : Expression → List Expression
  | apply _ operands | custom _ operands => operands
  | _ => []

/-- Whether an expression makes sense only in a test. -/
def isTestOnly : Expression → Bool
  | countItems _ _ | testVariables _ _ _ _ | outcomeBounds _ _ _ _ => true
  | _ => false

mutual

/-- The nodes of a tree, each before its operands. -/
def walk : Expression → List Expression
  | apply operator operands => apply operator operands :: walkAll operands
  | custom className operands => custom className operands :: walkAll operands
  | leaf => [leaf]

/-- The nodes of several trees in order. -/
def walkAll : List Expression → List Expression
  | [] => []
  | first :: rest => walk first ++ walkAll rest

end

end Expression

end Assessment
