import Assessment.Evaluation.Basic

/-!
# Stages

How rules read and change a session. Rules of items and rules of tests are run alike; what differs
is which variables they may assign, and whether they may change declarations and start over.
-/

namespace Assessment

/-- How rules change what a session declares. -/
structure Overrides (σ : Type) where
  /-- Change the correct answer of a response variable. -/
  setCorrect : Identifier → Value → σ → Except LogicError σ
  /-- Change the default of a variable. -/
  setDefault : Identifier → Value → σ → Except LogicError σ

/-- How rules read and change a session. -/
structure Stage (σ : Type) where
  /-- What expressions see. -/
  view : σ → View
  /-- The variable that an assignment of a name means. -/
  assignable? : Identifier → Option Declaration
  /-- Assign a value to a variable. -/
  assign : Identifier → Value → σ → Except LogicError σ
  /-- How declarations are changed, if they can be. -/
  overrides : Option (Overrides σ)
  /-- Put the template variables back before another pass. -/
  restart : Action σ LogicError Unit

/-! ### Preparing an assignment -/

/-- A value for a variable of a signature: words become doubles where doubles are declared. -/
def coerce (value : Value) (signature : Signature) : Value :=
  if signature.baseType ≠ some .float ∨ value.baseType? ≠ some .integer then value
  else
    let scalars := value.elements.map (widened .float)
    let container := Container.ofItems .float scalars
    match value, scalars, container with
    | .single _, [scalar], _ => .single scalar
    | .multiple _, _, .ok container => .multiple container
    | .ordered _, _, .ok container => .ordered container
    | _, _, _ => value

/-- The value that a lookup table gives for a value, where a rule looks up. -/
def lookedUp (target : Target) (declaration : Declaration) (name : Identifier) (value : Value) :
    Except AssignmentProblem Value :=
  if target = .lookupOutcome then
    match declaration.outcome? >>= (·.lookupTable) with
    | some table => .ok (ofScalar? (table.find? value))
    | none => .error (.noLookupTable name)
  else .ok value

/-- Whether a variable is kept by the session itself. -/
def isMaintained : Declaration → Bool
  | .builtIn .numAttempts | .builtIn .duration => true
  | _ => false

/-- The value that a rule assigns to a variable. -/
def prepareFor (target : Target) (name : Identifier) (declaration : Declaration) (value : Value) :
    Except AssignmentProblem Value :=
  if isMaintained declaration then .error (.maintained name)
  else if !target.roles.contains declaration.role then
    .error (.wrongRole target declaration.role name)
  else do
    -- the table is asked before the type is looked at: it may change the type
    let value ← lookedUp target declaration name value
    let value := coerce value declaration.signature
    if value.conforms declaration.signature then .ok value
    else .error (.misfit value declaration.signature name)

/-- The value that a rule assigns to the variable of a name, or why it assigns none. -/
def prepare {σ : Type} (stage : Stage σ) (session : σ) (target : Target) (name : Identifier)
    (value : Value) : Except AssignmentProblem Value :=
  match stage.assignable? name with
  | some declaration => prepareFor target name declaration value
  | none =>
    -- a name that can be read but not assigned is told from one that means nothing
    if ((stage.view session).declaration? name).isSome then .error (.readOnly name)
    else .error (.undeclared name)

/-! ### The stage of an item -/

namespace ItemState

/-- Assign a value to a variable of an item. -/
def assign (definition : ItemDefinition) (name : Identifier) (value : Value) (state : ItemState) :
    Except LogicError ItemState := do
  let declaration ← declared definition name
  let role := declaration.role
  .ok (state.setStore role (← (state.store role).set name value))

/-- Change the correct answer of a response variable. -/
def setCorrect (definition : ItemDefinition) (name : Identifier) (value : Value)
    (state : ItemState) : Except LogicError ItemState :=
  match definition.response? name with
  | none => .error (.undeclaredVariable name)
  | some _ => .ok { state with correctOverrides := state.correctOverrides.insert name value }

/-- Change the default of a variable. -/
def setDefault (definition : ItemDefinition) (name : Identifier) (value : Value)
    (state : ItemState) : Except LogicError ItemState := do
  let _ ← declared definition name
  .ok { state with defaultOverrides := state.defaultOverrides.insert name value }

/-- Set several variables of a role in turn. -/
def setAll (role : Role) : List (Identifier × Value) → Action ItemState LogicError Unit
  | [] => pure ()
  | (name, value) :: rest => do
    let state ← get
    match (state.store role).set name value with
    | .ok store => set (state.setStore role store)
    | .error error => throw error
    setAll role rest

/-- The value that a template variable has before template processing. -/
def templateStart (state : ItemState) (declaration : TemplateDeclaration) : Value :=
  (state.templateDefaults.get? declaration.identifier).getD declaration.initial

/-- Put the template variables back to where they start. -/
def restartTemplates (definition : ItemDefinition) : Action ItemState LogicError Unit := do
  let state ← get
  setAll .template (definition.templates.map fun d => (d.identifier, state.templateStart d))

/-- How rules read and change an item session. -/
def stage (definition : ItemDefinition) : Stage ItemState where
  view := view definition
  assignable? name := definition.resolve? name.text
  assign := assign definition
  overrides := some ⟨setCorrect definition, setDefault definition⟩
  restart := restartTemplates definition

end ItemState

end Assessment
