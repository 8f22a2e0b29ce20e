import Assessment.Item.Definition
import Assessment.Item.State
import Assessment.Test.Definition

/-!
# Views

What an expression sees of a session: the declarations it may refer to, the values they hold, and in
a test the items to aggregate over.
-/

namespace Assessment

/-- An item of a test with its session. -/
structure TestItem where
  /-- The reference to the item. -/
  ref : ItemRef
  /-- The item. -/
  definition : ItemDefinition
  /-- The session of the item. -/
  state : ItemState
  /-- The sections that the reference stands in, from the inside out. -/
  sections : List Identifier

namespace TestItem

/-- The correct answers of an item, as far as there are any. -/
def correctAnswers (item : TestItem) : List (Identifier × Value) :=
  item.definition.responses.filterMap fun declaration =>
    (item.state.correctOverrides.get? declaration.identifier <|> declaration.correctResponse).map
      (declaration.identifier, ·)

/-- Whether a response variable holds a value. -/
def holds (item : TestItem) (name : Identifier) (correct : Value) : Bool :=
  (item.state.responses.get? name).any (· == correct)

/-- Whether all responses are correct that can be; false if none can. -/
def isCorrect (item : TestItem) : Bool :=
  !item.correctAnswers.isEmpty && item.correctAnswers.all fun answer => item.holds answer.1 answer.2

end TestItem

/-- What an expression sees of a session. -/
structure View where
  /-- The declaration that a name means. -/
  declaration? : Identifier → Option Declaration
  /-- The value of a variable. -/
  value : Identifier → Except LogicError Value
  /-- The default of a variable. -/
  defaultValue : Identifier → Except LogicError Value
  /-- The correct answer of a variable. -/
  correctValue : Identifier → Except LogicError Value
  /-- The factor of a name that belongs to a variable. -/
  weight? : Identifier → Identifier → Option Float
  /-- The items to aggregate over, for an operation that asks for them. -/
  items : String → Except LogicError (List TestItem)

end Assessment
