import Assessment.Evaluation.Aggregate
import Assessment.Evaluation.Environment
import Assessment.Item.View

/-!
# Evaluation

The value of an expression against a view of a session. Evaluation draws random numbers and records
notifications in its environment. It ends with a fault where an expression has no value;
`Expression.evaluate` then records the fault, and the value is nothing.

## Main definitions

- `Expression.tryEvaluate`: the value of an expression, or a fault.
- `Expression.evaluate`: the value of an expression, where faults of the values count as nothing.
-/

namespace Assessment

/-- An evaluation in an environment. -/
abbrev Evaluation : Type → Type := Action Environment Fault

namespace Evaluation

/-- Record a notification. -/
def note {ε : Type} (level : Level) (kind : NotificationKind) (source : String)
    (message : Message) : Action Environment ε Unit :=
  modify fun environment => environment.record ⟨level, kind, source, message⟩

/-- End with a fault of the values. -/
def fault {α : Type} (fault : RuntimeFault) : Evaluation α := throw (.runtime fault)

/-- The result of a look-up. -/
def found {α : Type} (result : Except LogicError α) : Evaluation α :=
  match result with
  | .ok a => pure a
  | .error error => throw (.ofLookup error)

/-- The result of an operation on values. -/
def computed {α : Type} (result : Except RuntimeFault α) : Evaluation α :=
  match result with
  | .ok a => pure a
  | .error error => fault error

/-- The result of an operation, which may draw random numbers. -/
def drawn {α : Type} (draw : RandomSource → Except RuntimeFault (α × RandomSource)) :
    Evaluation α := do
  match draw (← get).random with
  | .ok (a, random) =>
    modify fun environment => { environment with random }
    pure a
  | .error error => fault error

end Evaluation

open Evaluation

/-! ### Leaves -/

/-- The integer of a grid at a number of steps from its least one. -/
def gridPoint (least step : Int64) (place : Nat) : Int64 :=
  Int64.ofInt (least.toInt + Int.ofNat place * step.toInt)

/-- The number of integers of a grid. -/
def gridSize (least greatest step : Int64) : Except RuntimeFault Nat :=
  if step < 1 ∨ greatest < least then
    .error (.domain "randomInteger" (.emptyGrid least greatest step))
  else
    -- the span itself has to be a word
    match Word.sub? greatest least with
    | some span => .ok ((span.toInt / step.toInt).toNat + 1)
    | none => .error (.overflow "randomInteger")

/-- A random integer of a grid. -/
def drawInteger (least greatest step : Int64) (source : RandomSource) :
    Except RuntimeFault (Value × RandomSource) := do
  let (place, source) := source.below (← gridSize least greatest step)
  .ok (.integer (gridPoint least step place), source)

/-- A random double of an interval. -/
def drawFloat (least greatest : Float) (source : RandomSource) :
    Except RuntimeFault (Value × RandomSource) :=
  if !(least.isFinite && greatest.isFinite) || greatest < least then
    .error (.domain "randomFloat" (.emptyInterval least greatest))
  -- nothing is drawn from an interval of one number
  else if greatest == least then .ok (.float least, source)
  else if !(greatest - least).isFinite then
    .error (.domain "randomFloat" (.wideInterval least greatest))
  else
    let (x, source) := source.within least greatest
    .ok (.float x, source)

/-- The declaration of a response variable. -/
def responseDeclaration (view : View) (operation : String) (name : Identifier) :
    Evaluation ResponseDeclaration :=
  match view.declaration? name with
  | some (.response declaration) => pure declaration
  | some _ => fault (.typeMismatch operation (.notResponse name))
  | none => fault (.undeclaredVariable name)

/-- The score that its mapping gives a response. -/
def mappedScore (view : View) (name : Identifier) : Evaluation Value := do
  let declaration ← responseDeclaration view "mapResponse" name
  match declaration.mapping with
  | none => fault (.domain "mapResponse" (.noMapping name))
  | some mapping => return .float (mapping.score (← found (view.value name)))

/-- The score that its area mapping gives a response. -/
def mappedPointScore (view : View) (name : Identifier) : Evaluation Value := do
  let declaration ← responseDeclaration view "mapResponsePoint" name
  match declaration.areaMapping with
  | none => fault (.domain "mapResponsePoint" (.noAreaMapping name))
  | some mapping =>
    if declaration.signature.baseType ≠ some .point then
      fault (.typeMismatch "mapResponsePoint" (.expected "a point response"))
    else return .float (mapping.score (← found (view.value name)))

/-- The items of a test, for an operation that aggregates over them. -/
def aggregated (view : View) (operation : String) : Evaluation (List TestItem) :=
  match view.items operation with
  | .ok items => pure items
  | .error error => throw (.logic error)

/-- The value of an expression without operands. -/
def evaluateLeaf (view : View) : Expression → Evaluation Value
  | .baseValue scalar => pure (.single scalar)
  | .valueOf name weight => do
    let value ← found (view.value name)
    return weightedValue (weight >>= view.weight? name) value
  | .defaultOf name => found (view.defaultValue name)
  | .correctOf name => found (view.correctValue name)
  | .mapResponse name => mappedScore view name
  | .mapResponsePoint name => mappedPointScore view name
  | .mathConstant constant => pure (.float constant.value)
  | .randomInteger least greatest step => drawn (drawInteger least greatest step)
  | .randomFloat least greatest => drawn (drawFloat least greatest)
  | .countItems count subset => do
    return countItems count subset (← aggregated view count.name)
  | .testVariables name weight baseType subset => do
    let items ← aggregated view "testVariables"
    let read (item : TestItem) := item.state.read item.definition name
    match testVariables read weight baseType subset items with
    | .ok value => pure value
    | .error error => throw error
  | .outcomeBounds bound name weight subset => do
    let items ← aggregated view bound.name
    computed (outcomeBounds bound name weight subset items)
  | .null | .apply _ _ | .custom _ _ => pure .null

/-! ### Operators -/

/-- The value of an operator of an extension. -/
def customValue (className : String) (operator : CustomOperator) (operands : List Value) :
    Except RuntimeFault Value :=
  match operator.evaluate operands with
  | .ok value => .ok value
  | .error error => .error (.extension className error)

/-- The truth value of the operands so far and of one more. -/
def connect (disjunction : Bool) (before : Option TriState) (state : TriState) : TriState :=
  match before with
  | none => state
  | some before => if disjunction then before.or .lenient state else before.and state

namespace Expression

mutual

/-- The value of an expression. -/
def tryEvaluate (engine : Engine) (view : View) : Expression → Evaluation Value
  | apply operator operands =>
    if !operator.arity.accepts operands.length then
      fault (.arity operator.name operator.arity operands.length)
    else
      match operator with
      -- the two connectives may leave operands out, all others take their values
      | .and => tryConnect engine view false none operands
      | .or => tryConnect engine view true none operands
      | operator => do
        let values ← tryEvaluateAll engine view operands
        drawn (operator.apply engine.options.overflow values)
  | custom className operands =>
    match engine.registry.operator? className with
    | none => do
      note .warning .evaluation "customOperator" (.unsupportedOperator className)
      return .null
    | some (_, operator) => do
      let values ← tryEvaluateAll engine view operands
      computed (customValue className operator values)
  | leaf => evaluateLeaf view leaf

/-- The values of several expressions in order. -/
def tryEvaluateAll (engine : Engine) (view : View) : List Expression → Evaluation (List Value)
  | [] => pure []
  | first :: rest => do
    let value ← tryEvaluate engine view first
    let values ← tryEvaluateAll engine view rest
    return value :: values

/-- The disjunction or conjunction of several expressions. Those after the first that decides the
result are not evaluated. -/
def tryConnect (engine : Engine) (view : View) (disjunction : Bool) (before : Option TriState) :
    List Expression → Evaluation Value
  | [] => pure (ofTriState (before.getD .unknown))
  | first :: rest => do
    let value ← tryEvaluate engine view first
    match value.triState? with
    | none =>
      let name := if disjunction then "or" else "and"
      fault (.typeMismatch name (.expected "single boolean operands"))
    | some state =>
      -- true decides a disjunction and false a conjunction
      if state.toBool? = some disjunction then pure (.boolean disjunction)
      else tryConnect engine view disjunction (some (connect disjunction before state)) rest

end

/-- The value of an expression. A fault of the values is recorded, and the value is nothing. -/
def evaluate (engine : Engine) (view : View) (expression : Expression) :
    Action Environment LogicError Value :=
  ExceptT.mk do
    match ← (tryEvaluate engine view expression).run with
    | .ok value => return .ok value
    -- logic errors are no values: they go on to the caller
    | .error (.logic error) => return .error error
    | .error (.runtime error) => do
      modify fun environment =>
        environment.record ⟨.error, .evaluation, expression.name, .fault error⟩
      return .ok .null

end Expression

end Assessment
