import Assessment.Execution.Stage
import Assessment.Item.View
import Assessment.Test.State

/-!
# What expressions see of a test session, and what rules change

A name means an outcome variable of the test, its duration, or, qualified by the name of a reference
to an item, a variable of that item.

Rules of a test assign outcome variables of the test as a whole. They read the variables of items
and do not change them; neither do they change declarations or start over.
-/

namespace Assessment

namespace TestState

/-- The variable of the test as a whole that a name means. -/
def ownDeclaration? (test : TestDefinition) (name : Identifier) : Option Declaration :=
  match test.outcome? name with
  | some declaration => some (.outcome declaration)
  | none => if name = BuiltIn.duration.identifier then some (.builtIn .duration) else none

/-- What a qualified name means: a reference to an item, the item, its session, and the name of one
of its variables. -/
def qualified? (test : TestDefinition) (state : TestState) (name : Identifier) :
    Option (ItemRef × ItemDefinition × ItemState × Identifier) := do
  let (refName, variableName) ← name.split?
  let ref ← test.itemRef? refName
  let definition ← test.item? ref.item
  let session ← state.items.get? ref.identifier
  some (ref, definition, session, variableName)

/-- The declaration that a name means. -/
def declaration? (test : TestDefinition) (state : TestState) (name : Identifier) :
    Option Declaration :=
  match ownDeclaration? test name with
  | some declaration => some declaration
  | none => do
    let (_, definition, _, inner) ← state.qualified? test name
    definition.resolve? inner.text

/-- Read a variable of an item by its qualified name. -/
def readQualified (test : TestDefinition) (state : TestState) (name : Identifier)
    (read : ItemDefinition → ItemState → Identifier → Except LogicError Value) :
    Except LogicError Value :=
  match state.qualified? test name with
  | some (_, definition, session, inner) => read definition session inner
  | none => .error (.undeclaredVariable name)

/-- The value of a variable. -/
def read (test : TestDefinition) (state : TestState) (name : Identifier) :
    Except LogicError Value :=
  match ownDeclaration? test name with
  | some _ => state.outcomes.value name
  | none => state.readQualified test name ItemState.read

/-- The default of a variable. -/
def readDefault (test : TestDefinition) (state : TestState) (name : Identifier) :
    Except LogicError Value :=
  match ownDeclaration? test name with
  | some declaration => .ok (declaration.defaultValue.getD .null)
  | none => state.readQualified test name ItemState.readDefault

/-- The correct answer of a variable. The test as a whole has no responses. -/
def readCorrect (test : TestDefinition) (state : TestState) (name : Identifier) :
    Except LogicError Value :=
  match ownDeclaration? test name with
  | some _ => .ok .null
  | none => state.readQualified test name ItemState.readCorrect

/-- The factor of a name that the reference to an item gives for a qualified name. -/
def weight? (test : TestDefinition) (state : TestState) (name weight : Identifier) :
    Option Float := do
  let (ref, _) ← state.qualified? test name
  ref.weight? weight

/-- The item that a node of the plan stands for, with its session; none for other nodes. -/
def itemAt (test : TestDefinition) (state : TestState) (index : Nat) :
    Except LogicError (Option TestItem) := do
  let node ← state.plan.node index
  match node.identifier? with
  | none => return none
  | some name =>
    match test.itemRef? name with
    | none => throw (.unknownItem name)
    | some ref =>
      match test.item? ref.item, state.items.get? name with
      | none, _ => throw (.missingItemDefinition ref.identifier ref.item)
      | _, none => throw (.unknownItem name)
      | some definition, some session =>
        return some ⟨ref, definition, session, state.plan.enclosingSections index⟩

/-- The items of a test with their sessions, in the order of the plan. -/
def testItems (test : TestDefinition) (state : TestState) : Except LogicError (List TestItem) := do
  return (← state.plan.items.mapM (state.itemAt test)).filterMap id

/-- What expressions see of a test session. -/
def view (test : TestDefinition) (state : TestState) : View where
  declaration? := state.declaration? test
  value := state.read test
  defaultValue := state.readDefault test
  correctValue := state.readCorrect test
  weight? := state.weight? test
  items _ := state.testItems test

/-! ### Rules -/

/-- Assign a value to an outcome variable of the test. -/
def assign (test : TestDefinition) (name : Identifier) (value : Value) (state : TestState) :
    Except LogicError TestState :=
  match test.outcome? name with
  | none => .error (.undeclaredVariable name)
  | some _ => do .ok { state with outcomes := ← state.outcomes.set name value }

/-- How rules read and change a test session. -/
def stage (test : TestDefinition) : Stage TestState where
  view := view test
  assignable? name := (test.outcome? name).map .outcome
  assign := assign test
  overrides := none
  restart := throw (.wrongScope "templateConstraint")

end TestState

end Assessment
