import Assessment.Evaluation.Operation
import Assessment.Evaluation.View

/-!
# Aggregates

Expressions over the items of a test: how many have some property, the values of one variable of
several items, and the declared bounds of one outcome.
-/

namespace Assessment

/-- Whether an item is in a subset. -/
def ItemSubset.accepts (subset : ItemSubset) (item : TestItem) : Bool :=
  (match subset.within with
    | some name => item.sections.contains name
    | none => true) &&
    subset.acceptsCategories item.ref.categories

/-- Whether an item has the property that is counted. -/
def ItemCount.holds (item : TestItem) : ItemCount → Bool
  | correct => item.state.responded && item.isCorrect
  | incorrect => item.state.responded && !item.isCorrect
  | presented => item.state.isPresented
  | responded => item.state.responded
  | selected => true

/-- How many items of a subset have a property. -/
def countItems (count : ItemCount) (subset : ItemSubset) (items : List TestItem) : Value :=
  .integer (Int64.ofNat ((items.filter subset.accepts).countP fun item => count.holds item))

/-- A scalar with a factor, if there is one. Only numbers take factors, and they become doubles. -/
def weighted (factor : Option Float) (scalar : Scalar) : Scalar :=
  match factor, scalar with
  | some factor, .integer n => .float (Word.toFloat n * factor)
  | some factor, .float x => .float (x * factor)
  | _, scalar => scalar

/-- A value with a factor, if there is one. -/
def weightedValue (factor : Option Float) : Value → Value
  | .single scalar => .single (weighted factor scalar)
  | value => value

/-- The factor of a name that an item has. -/
def factorOf (item : TestItem) (name : Option Identifier) : Option Float :=
  name >>= item.ref.weight?

/-- Whether a scalar is collected: one of the base type, or any number where none is given. -/
def isWanted (baseType : Option BaseType) (scalar : Scalar) : Bool :=
  match baseType with
  | some baseType => scalar.baseType = baseType
  | none => scalar.baseType.isNumeric

/-- The scalar that an item adds to a collection. -/
def collectedFrom (read : TestItem → Except LogicError Value) (weight : Option Identifier)
    (baseType : Option BaseType) (item : TestItem) : Except LogicError (Option Scalar) :=
  match read item with
  | .ok (.single scalar) =>
    .ok (if isWanted baseType scalar then some (weighted (factorOf item weight) scalar) else none)
  | .ok _ => .ok none
  -- items without the variable are passed over; any other error is one of the session
  | .error (.undeclaredVariable _) => .ok none
  | .error error => .error error

/-- The base type of collected scalars: numbers are doubles as soon as one of them is. -/
def collectionType (baseType : Option BaseType) (collected : List Scalar) : BaseType :=
  let declared := baseType.getD .integer
  if declared.isNumeric && collected.any (·.baseType = .float) then .float else declared

/-- A scalar as one of a base type: words become doubles where doubles are wanted. -/
def widened (baseType : BaseType) (scalar : Scalar) : Scalar :=
  match baseType, scalar with
  | .float, .integer n => .float (Word.toFloat n)
  | _, scalar => scalar

/-- The values of a variable of several items. -/
def testVariables (read : TestItem → Except LogicError Value) (weight : Option Identifier)
    (baseType : Option BaseType) (subset : ItemSubset) (items : List TestItem) :
    Except Fault Value := do
  let collected ← match (items.filter subset.accepts).mapM (collectedFrom read weight baseType) with
    | .ok collected => .ok (collected.filterMap id)
    | .error error => .error (Fault.logic error)
  -- factors turn words into doubles, so the type is known only now
  let resultType := collectionType baseType collected
  match buildContainer "testVariables" false resultType (collected.map (widened resultType)) with
  | .ok value => .ok value
  | .error fault => .error (.runtime fault)

/-- The declared bound of an outcome. -/
def OutcomeBound.of (declaration : OutcomeDeclaration) : OutcomeBound → Option Float
  | minimum => declaration.normalMinimum
  | maximum => declaration.normalMaximum

/-- The bounds of an outcome of the items that declare it. Nothing, if one of these declares no
bound. -/
def outcomeBounds (bound : OutcomeBound) (name : Identifier) (weight : Option Identifier)
    (subset : ItemSubset) (items : List TestItem) : Except RuntimeFault Value :=
  let declared := (items.filter subset.accepts).filterMap fun item =>
    (item.definition.outcome? name).map fun declaration => (item, declaration)
  let bounds := declared.mapM fun (item, declaration) =>
    (bound.of declaration).map fun x => Scalar.float (x * (factorOf item weight).getD 1.0)
  match bounds with
  | some bounds => buildContainer bound.name false .float bounds
  | none => .ok .null

end Assessment
