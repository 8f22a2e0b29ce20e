import Assessment.Extension
import Assessment.Test.Definition
import Assessment.Validation.Finding

/-!
# Validation

Checks of items and tests before any session is made of them. Every reference to a variable is
resolved, every rule and every node of every expression is looked at, and all that is wrong is
listed; a definition without errors only has references that lead to one variable each.

## Main definitions

- `Subject`: the item or the test that is checked, with the variables it can refer to.
- `ItemDefinition.validate` and `TestDefinition.validate`: all findings.
-/

namespace Assessment

/-- The definition that is checked. -/
inductive Subject where
  /-- An item. -/
  | ofItem (item : ItemDefinition)
  /-- A test with its items. -/
  | ofTest (test : TestDefinition)

namespace Subject

/-- The kind of a definition. -/
def kind : Subject → String
  | ofItem _ => "item"
  | ofTest _ => "test"

/-- The item that is checked. -/
def asItem : Subject → Except LogicError ItemDefinition
  | ofItem item => .ok item
  | ofTest _ => .error (.wrongSubject "item")

/-- The test that is checked. -/
def asTest : Subject → Except LogicError TestDefinition
  | ofTest test => .ok test
  | ofItem _ => .error (.wrongSubject "test")

/-! ### Resolving references -/

/-- All variables of an item that a qualified name means in a test. -/
def qualifiedCandidates (test : TestDefinition) (name : Identifier) : List Declaration :=
  let item := do
    let (refName, inner) ← name.split?
    let ref ← test.itemRef? refName
    some (← test.item? ref.item, inner)
  match item with
  | some (item, inner) => item.resolveAll inner.text
  | none => []

/-- All variables that a name may mean. -/
def candidates (subject : Subject) (name : Identifier) : List Declaration :=
  match subject with
  | ofItem item => item.resolveAll name.text
  | ofTest test =>
    (test.outcomes.filter (·.identifier = name)).map .outcome ++
      (if name = BuiltIn.duration.identifier then [.builtIn .duration] else []) ++
      qualifiedCandidates test name

/-- The variable that a name means, or what is wrong with the reference. -/
def resolve (subject : Subject) (name : Identifier) : Except Problem Declaration :=
  match subject.candidates name with
  | [] => .error (.undeclared name)
  | [declaration] =>
    if declaration.signature.isValid then .ok declaration else .error (.unusable name)
  | _ => .error (.ambiguous name)

/-- What is wrong with a reference to a variable. -/
def checkReference (subject : Subject) (source : String) (name : Identifier) : Findings :=
  match subject.resolve name with
  | .ok _ => []
  | .error problem => [⟨source, problem⟩]

/-- The response variable that a name means, or what is wrong with the reference. -/
def resolveResponse (subject : Subject) (name : Identifier) :
    Except Problem ResponseDeclaration := do
  match (← subject.resolve name).response? with
  | some response => return response
  | none => throw (.notResponse name)

/-! ### Expressions -/

/-- What is wrong with a restriction to some items. -/
def checkSubset (subject : Subject) (source : String) (subset : ItemSubset) : Findings :=
  match subject, subset.within with
  | ofTest test, some name =>
    if test.sections.any (·.identifier = name) then [] else [⟨source, .unknownSection name⟩]
  | _, _ => []

/-- What is wrong with the name of a variable of several items. -/
def checkItemVariable (subject : Subject) (source : String) (name : Identifier) : Findings :=
  match subject with
  | ofItem _ => []
  | ofTest test =>
    if test.items.any fun item => !(item.resolveAll name.text).isEmpty then []
    else [⟨source, .noItemDeclares name⟩]

/-- Whether a reference to an item has a factor; for a qualified name, the one that it begins
with. -/
def hasWeight (test : TestDefinition) (reference : Option Identifier) (weight : Identifier) :
    Bool :=
  match reference >>= Identifier.split? with
  | some (refName, _) => (test.itemRef? refName).any fun ref => (ref.weight? weight).isSome
  | none => test.itemRefs.any fun ref => (ref.weight? weight).isSome

/-- What is wrong with a factor, if one is named. -/
def checkWeight (subject : Subject) (source : String) (reference : Option Identifier) :
    Option Identifier → Findings
  | none => []
  | some weight =>
    match subject with
    | ofItem _ => [⟨source, .weightOutside weight⟩]
    | ofTest test =>
      if hasWeight test reference weight then [] else [⟨source, .unknownWeight weight⟩]

/-- What is wrong with the attributes of an operator. -/
def operatorProblem? : Operator → Option Problem
  | .patternMatch pattern =>
    match Pattern.readWhole pattern with
    | .ok _ => none
    | .error error => some (.badPattern error)
  | .index n => if n < 1 then some .badIndex else none
  | .anyN least greatest => if least > greatest then some .crossedBounds else none
  | .roundTo .significantFigures figures | .equalRounded .significantFigures figures =>
    if figures < 1 then some (.badFigures figures) else none
  | .roundTo .decimalPlaces figures | .equalRounded .decimalPlaces figures =>
    if figures < 0 then some (.badFigures figures) else none
  | .equal equality =>
    if equality.mode ≠ .exact ∧ equality.tolerance.isEmpty then some .noTolerance else none
  | .repeat count => if count < 1 then some .badRepeats else none
  | _ => none

/-- What is wrong with an operator over a number of operands. -/
def checkOperator (source : String) (operator : Operator) (count : Nat) : Findings :=
  (if operator.arity.accepts count then [] else [⟨source, .arity operator.arity count⟩]) ++
    ((operatorProblem? operator).map (⟨source, ·⟩)).toList

/-- What is wrong with a score by a mapping. -/
def checkMapping (subject : Subject) (source : String) (name : Identifier) : Findings :=
  match subject.resolveResponse name with
  | .error problem => [⟨source, problem⟩]
  | .ok response => if response.mapping.isNone then [⟨source, .noMapping name⟩] else []

/-- What is wrong with a score by an area mapping. -/
def checkAreaMapping (subject : Subject) (source : String) (name : Identifier) : Findings :=
  match subject.resolveResponse name with
  | .error problem => [⟨source, problem⟩]
  | .ok response =>
    (if response.areaMapping.isNone then [⟨source, .noAreaMapping name⟩] else []) ++
      (if response.signature.baseType ≠ some .point then [⟨source, .notPoint name⟩] else [])

/-- What is wrong with a reference to a correct answer. -/
def checkResponse (subject : Subject) (source : String) (name : Identifier) : Findings :=
  match subject.resolveResponse name with
  | .error problem => [⟨source, problem⟩]
  | .ok _ => []

/-- What is wrong with an aggregate over one variable of several items. -/
def checkAggregate (subject : Subject) (source : String) (name : Identifier)
    (weight : Option Identifier) (subset : ItemSubset) : Findings :=
  subject.checkSubset source subset ++ subject.checkItemVariable source name ++
    subject.checkWeight source none weight

/-- What is wrong with a node of an expression, apart from its operands. -/
def checkNode (subject : Subject) (registry : Registry) (source : String) :
    Expression → Findings
  | .valueOf name weight =>
    subject.checkReference source name ++ subject.checkWeight source (some name) weight
  | .defaultOf name => subject.checkReference source name
  | .correctOf name => subject.checkResponse source name
  | .mapResponse name => subject.checkMapping source name
  | .mapResponsePoint name => subject.checkAreaMapping source name
  | .randomInteger least greatest step =>
    if least > greatest ∨ step < 1 then [⟨source, .emptyGrid⟩] else []
  | .randomFloat least greatest =>
    if least.isNaN || greatest.isNaN || greatest < least then [⟨source, .emptyInterval⟩] else []
  | .countItems _ subset => subject.checkSubset source subset
  | .testVariables name weight _ subset => subject.checkAggregate source name weight subset
  | .outcomeBounds _ name weight subset => subject.checkAggregate source name weight subset
  | .apply operator operands => checkOperator source operator operands.length
  | .custom className _ =>
    if (registry.operator? className).isNone then [⟨source, .unsupportedOperator className⟩]
    else []
  | .baseValue _ | .null | .mathConstant _ => []

/-- Whether an expression stands where it makes sense. -/
def admits (subject : Subject) (expression : Expression) : Bool :=
  match subject with
  | ofTest _ => true
  | ofItem _ => !expression.isTestOnly

/-- What is wrong with an expression and its operands. -/
def checkExpression (subject : Subject) (registry : Registry) (source : String)
    (expression : Expression) : Findings :=
  expression.walk.flatMap fun node =>
    let place := source ++ "/" ++ node.name
    -- an aggregate in an item is one error, whatever else is wrong with it
    if subject.admits node then subject.checkNode registry place node else [⟨place, .testOnly⟩]

/-- What is wrong with several expressions at one place. -/
def checkExpressions (subject : Subject) (registry : Registry) (source : String)
    (expressions : List Expression) : Findings :=
  expressions.flatMap (subject.checkExpression registry source)

/-! ### Rules -/

/-- What keeps a rule of a kind of processing from assigning a variable at all. -/
def placeProblem? (kind : ProcessingKind) (target : Target) (name : Identifier) :
    Option Problem :=
  if kind ≠ .outcome then none
  else if name.split?.isSome then some .assignsItem
  else if target.isOverride then some .noOverrides
  else none

/-- What keeps a rule from assigning a variable that its name leads to. -/
def targetProblems (target : Target) (name : Identifier) (declaration : Declaration) :
    List Problem :=
  if !target.roles.contains declaration.role then [.wrongRole declaration.role name]
  else
    (if declaration.isBuiltIn ∧ declaration.role ≠ .outcome then [.maintained name] else []) ++
      (if target = .lookupOutcome ∧ (declaration.outcome? >>= (·.lookupTable)).isNone then
        [.noLookupTable name]
      else [])

/-- What is wrong with the variable that a rule assigns. -/
def checkTarget (subject : Subject) (kind : ProcessingKind) (source : String) (target : Target)
    (name : Identifier) : Findings :=
  match placeProblem? kind target name with
  | some problem => [⟨source, problem⟩]
  | none =>
    match subject.resolve name with
    | .error problem => [⟨source, problem⟩]
    | .ok declaration => (targetProblems target name declaration).map (⟨source, ·⟩)

/-- Whether an exit rule ends a kind of processing. -/
def exits : ExitScope → ProcessingKind → Bool
  | .template, .template | .response, .response | .test, .outcome => true
  | _, _ => false

/-- What is wrong with a rule, apart from those nested in it and from its expressions. -/
def checkRuleHead (subject : Subject) (kind : ProcessingKind) (rule : Rule) : Findings :=
  match rule with
  | .assign target name _ => subject.checkTarget kind rule.source target name
  | .constraint _ => if kind ≠ .template then [⟨rule.source, .noEffect kind⟩] else []
  | .exit scope => if exits scope kind then [] else [⟨rule.source, .noEffect kind⟩]
  | .condition _ _ => []

/-- What is wrong with a list of rules and all that are nested in them. -/
def checkRules (subject : Subject) (registry : Registry) (kind : ProcessingKind)
    (rules : List Rule) : Findings :=
  (Rule.walkAll rules).flatMap fun rule =>
    subject.checkRuleHead kind rule ++
      subject.checkExpressions registry rule.source rule.ownExpressions

/-! ### Declarations -/

/-- The place of a declaration. -/
def declarationSource (declaration : Declaration) : String :=
  declaration.role.name ++ "Declaration[" ++ declaration.identifier.text ++ "]"

/-- What is wrong with the name of a declaration behind others. -/
def nameProblem? (seen : List Identifier) (name : Identifier) : Option Problem :=
  -- a reserved name is reported as such each time, and never as repeated
  if (BuiltIn.ofName? name.text).isSome then some (.reserved name)
  else if seen.contains name then some (.duplicate name)
  else none

/-- What is wrong with the type and the default of a declaration. -/
def valueProblem? (declaration : Declaration) : Option Problem :=
  let signature := declaration.signature
  if !signature.isValid then some (.invalidSignature signature)
  else if declaration.defaultValue.all (·.conforms signature) then none
  else some (.defaultMisfit signature)

/-- What is wrong with declarations behind others of the names `seen`. -/
def checkDeclarations (seen : List Identifier) : List Declaration → Findings
  | [] => []
  | declaration :: rest =>
    let source := declarationSource declaration
    let name := declaration.identifier
    ((nameProblem? seen name).toList ++ (valueProblem? declaration).toList).map (⟨source, ·⟩) ++
      checkDeclarations (name :: seen) rest

end Subject

/-! ### Items -/

namespace ItemDefinition

/-- What is wrong with the correct answer of a response variable. -/
def checkCorrect (declaration : ResponseDeclaration) : Findings :=
  let signature := declaration.signature
  if signature.isValid && !declaration.correctResponse.all (·.conforms signature) then
    [⟨"responseDeclaration[" ++ declaration.identifier.text ++ "]", .correctMisfit signature⟩]
  else []

/-- What is wrong with an interaction. -/
def checkInteraction (item : ItemDefinition) (registry : Registry) (interaction : Interaction) :
    Findings :=
  let source := "interaction[" ++ interaction.response.text ++ "]"
  (if (item.response? interaction.response).isNone then [⟨source, .unboundInteraction⟩] else []) ++
    match interaction.customClass with
    | none => []
    | some className =>
      if (registry.interaction? className).isNone then
        [⟨source, .unsupportedInteraction className⟩]
      else []

/-- All declarations of an item. -/
def declarations (item : ItemDefinition) : List Declaration :=
  item.templates.map .template ++ item.responses.map .response ++ item.outcomes.map .outcome

/-- All that is wrong with an item. -/
def validate (item : ItemDefinition) (registry : Registry) : Findings :=
  let subject := Subject.ofItem item
  item.responses.flatMap checkCorrect ++
    Subject.checkDeclarations [] item.declarations ++
    item.interactions.flatMap (item.checkInteraction registry) ++
    subject.checkRules registry .template item.templateProcessing ++
    subject.checkRules registry .response item.responseProcessing

end ItemDefinition

/-! ### Tests -/

namespace TestDefinition

/-- The names of a list that stood in it before. -/
def repeats (seen : List Identifier) : List Identifier → List Identifier
  | [] => []
  | name :: rest =>
    if seen.contains name then name :: repeats seen rest else repeats (name :: seen) rest

/-- The place of a test. -/
def source (test : TestDefinition) : String := "assessmentTest[" ++ test.identifier.text ++ "]"

/-- The names of parts, sections and references to items. -/
def structureNames (test : TestDefinition) : List Identifier :=
  test.parts.map (·.identifier) ++ test.sections.map (·.identifier) ++
    test.itemRefs.map (·.identifier)

/-- What is wrong with the names in a test. -/
def checkNames (test : TestDefinition) : Findings :=
  (repeats [] test.structureNames).map (fun name => ⟨test.source, .duplicate name⟩) ++
    (repeats [] (test.items.map (·.identifier))).map fun name =>
      ⟨"assessmentItem[" ++ name.text ++ "]", .duplicateItem⟩

/-- The item that the reference of a name leads to, or what is wrong with it. -/
def resolveItem (test : TestDefinition) (name : Identifier) : Except Problem ItemDefinition :=
  match test.itemRef? name with
  | none => .error .unknownItemRef
  | some ref =>
    match test.item? ref.item with
    | none => .error (.missingItem ref.item)
    | some item => .ok item

/-- What is wrong with the reference of a name. -/
def checkItemRef (test : TestDefinition) (name : Identifier) : Findings :=
  match test.resolveItem name with
  | .ok _ => []
  | .error problem => [⟨"assessmentItemRef[" ++ name.text ++ "]", problem⟩]

/-- What is wrong with the conditions of a part or of a reference to an item. -/
def checkConditions (test : TestDefinition) (registry : Registry) (name : Identifier)
    (conditions : List Expression) : Findings :=
  (Subject.ofTest test).checkExpressions registry ("preCondition[" ++ name.text ++ "]") conditions

/-- What is wrong with the target of a branch of the part at a position. -/
def targetProblem? (test : TestDefinition) (position : Nat) (part target : Identifier) :
    Option Problem :=
  if target.isExitTest then none
  else
    -- of two parts of one name the first is meant
    match test.parts.findIdx? (·.identifier = target) with
    | none => some (.unknownTarget target)
    | some found => if found ≤ position then some (.backwardTarget target part) else none

/-- What is wrong with a branch of the part at a position. -/
def checkBranch (test : TestDefinition) (registry : Registry) (position : Nat) (part : Identifier)
    (rule : BranchRule) : Findings :=
  let source := "branchRule[" ++ rule.target.text ++ "]"
  (Subject.ofTest test).checkExpression registry source rule.expression ++
    ((test.targetProblem? position part rule.target).map (⟨source, ·⟩)).toList

/-- What is wrong with the part at a position. -/
def checkPart (test : TestDefinition) (registry : Registry) (entry : TestPart × Nat) : Findings :=
  let (part, position) := entry
  test.checkConditions registry part.identifier part.preConditions ++
    part.branchRules.flatMap (test.checkBranch registry position part.identifier)

/-- All that is wrong with the items of a test. -/
def checkItems (test : TestDefinition) (registry : Registry) : Findings :=
  test.items.flatMap fun item =>
    (item.validate registry).map (.inside ("assessmentItem[" ++ item.identifier.text ++ "]"))

/-- All that is wrong with a test and its items. -/
def validate (test : TestDefinition) (registry : Registry) : Findings :=
  Subject.checkDeclarations [] (test.outcomes.map .outcome) ++
    (if test.parts.isEmpty then [⟨test.source, .noParts⟩] else []) ++
    test.checkNames ++
    test.itemRefs.flatMap (fun ref =>
      test.checkItemRef ref.identifier ++
        test.checkConditions registry ref.identifier ref.preConditions) ++
    test.parts.zipIdx.flatMap (test.checkPart registry) ++
    (Subject.ofTest test).checkRules registry .outcome test.outcomeProcessing ++
    test.checkItems registry

end TestDefinition

end Assessment
