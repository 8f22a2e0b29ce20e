import Assessment.Evaluation.View

/-!
# What expressions see of an item session

Reading the variables of an item: their values, their defaults and their correct answers. Overrides
of the session stand in place of what the item declares.
-/

namespace Assessment

namespace ItemState

/-- The store that holds the variables of a role. -/
def store (state : ItemState) : Role → Store
  | .template => state.templates
  | .response => state.responses
  | .outcome => state.outcomes

/-- Replace the store that holds the variables of a role. -/
def setStore (state : ItemState) (role : Role) (store : Store) : ItemState :=
  match role with
  | .template => { state with templates := store }
  | .response => { state with responses := store }
  | .outcome => { state with outcomes := store }

/-- The declaration that a name means, or the error that there is none. -/
def declared (definition : ItemDefinition) (name : Identifier) : Except LogicError Declaration :=
  match definition.resolve? name.text with
  | some declaration => .ok declaration
  | none => .error (.undeclaredVariable name)

/-- The value of a variable. -/
def read (definition : ItemDefinition) (state : ItemState) (name : Identifier) :
    Except LogicError Value := do
  let declaration ← declared definition name
  (state.store declaration.role).value name

/-- The default of a variable. -/
def readDefault (definition : ItemDefinition) (state : ItemState) (name : Identifier) :
    Except LogicError Value := do
  let declaration ← declared definition name
  .ok ((state.defaultOverrides.get? name <|> declaration.defaultValue).getD .null)

/-- The correct answer of a variable. -/
def readCorrect (definition : ItemDefinition) (state : ItemState) (name : Identifier) :
    Except LogicError Value := do
  -- a name without a declaration is an error, a declaration of another role is not
  let _ ← declared definition name
  let written := definition.response? name >>= (·.correctResponse)
  .ok ((state.correctOverrides.get? name <|> written).getD .null)

/-- What expressions see of an item session. There are no items to aggregate over. -/
def view (definition : ItemDefinition) (state : ItemState) : View where
  declaration? name := definition.resolve? name.text
  value := state.read definition
  defaultValue := state.readDefault definition
  correctValue := state.readCorrect definition
  weight? _ _ := none
  items operation := .error (.wrongScope operation)

end ItemState

end Assessment
