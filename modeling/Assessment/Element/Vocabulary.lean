import Assessment.Element.Attribute
import Assessment.Rule.Basic

/-!
# Vocabularies

Which elements are known, and what each of them writes. A vocabulary is a table that further entries
may be added to; an entry for a tag takes the place of an earlier one.
-/

namespace Assessment

/-- How an element writes an expression. -/
inductive ExpressionForm where
  /-- By its attributes and its text only. -/
  | leaf (build : Element → Except BuildError Expression)
  /-- As an operator of an extension over the elements in it. -/
  | custom

/-- How an element writes a rule. -/
inductive RuleForm where
  /-- By its attributes only. -/
  | leaf (build : Element → Except BuildError Rule)
  /-- As an assignment of the one expression in it. -/
  | assignment (target : Target)
  /-- As a condition with branches. -/
  | condition
  /-- As a constraint: the one expression in it. -/
  | constraint

/-- The elements that are known. -/
structure Vocabulary where
  /-- Elements for expressions that are no built-in operators. -/
  expressions : SortedMap String ExpressionForm
  /-- Elements for built-in operators over the elements in them. -/
  operators : SortedMap String (Element → Except BuildError Operator)
  /-- Elements for rules. -/
  rules : SortedMap String RuleForm

namespace Vocabulary

/-- The vocabulary without elements. -/
def empty : Vocabulary := ⟨.empty, .empty, .empty⟩

/-- Add an element for expressions. -/
def withExpression (vocabulary : Vocabulary) (tag : String) (form : ExpressionForm) :
    Vocabulary :=
  { vocabulary with expressions := vocabulary.expressions.insert tag form }

/-- Add an element for an operator. -/
def withOperator (vocabulary : Vocabulary) (tag : String)
    (build : Element → Except BuildError Operator) : Vocabulary :=
  { vocabulary with operators := vocabulary.operators.insert tag build }

/-- Add an element for rules. -/
def withRule (vocabulary : Vocabulary) (tag : String) (form : RuleForm) : Vocabulary :=
  { vocabulary with rules := vocabulary.rules.insert tag form }

/-- Whether an element of a tag is known. -/
def knows (vocabulary : Vocabulary) (tag : String) : Bool :=
  vocabulary.expressions.contains tag || vocabulary.operators.contains tag ||
    vocabulary.rules.contains tag

/-! ### The standard elements -/

/-- The literal that an element writes with its text. -/
def literal (element : Element) : Except BuildError Expression := do
  let baseType ← element.requiredAs "baseType" BaseType.ofName?
  match Scalar.read baseType (Text.trim (element.text.getD "")) with
  | .ok scalar => return .baseValue scalar
  | .error error => throw (.value error)

/-- The name that an element refers to. -/
def nameOf (element : Element) (source : String) : Except BuildError Identifier :=
  element.requiredAs source Identifier.ofText?

/-- The factor that an element names. -/
def weightOf (element : Element) : Except BuildError (Option Identifier) :=
  element.optionalAs "weightIdentifier" Identifier.ofText?

/-- A reference to a variable. -/
def variableForm (element : Element) : Except BuildError Expression := do
  let name ← nameOf element "identifier"
  return .valueOf name (← weightOf element)

/-- A reference to a variable without a factor. -/
def referenceForm (build : Identifier → Expression) (element : Element) :
    Except BuildError Expression :=
  (nameOf element "identifier").map build

/-- A random integer. -/
def randomIntegerForm (element : Element) : Except BuildError Expression := do
  let least ← element.defaultedAs "min" Element.wordOf? 0
  let greatest ← element.requiredAs "max" Element.wordOf?
  let step ← element.defaultedAs "step" Element.wordOf? 1
  return .randomInteger least greatest step

/-- A random double. -/
def randomFloatForm (element : Element) : Except BuildError Expression := do
  let least ← element.defaultedAs "min" Element.floatOf? 0.0
  let greatest ← element.requiredAs "max" Element.floatOf?
  return .randomFloat least greatest

/-- An aggregate that counts items. -/
def countForm (count : ItemCount) (element : Element) : Except BuildError Expression :=
  element.subset.map (.countItems count)

/-- An aggregate over the values of one variable. -/
def testVariablesForm (element : Element) : Except BuildError Expression := do
  let name ← nameOf element "variableIdentifier"
  let weight ← weightOf element
  let baseType ← element.optionalAs "baseType" BaseType.ofName?
  return .testVariables name weight baseType (← element.subset)

/-- An aggregate over the bounds of one outcome. -/
def boundsForm (bound : OutcomeBound) (element : Element) : Except BuildError Expression := do
  let name ← nameOf element "outcomeIdentifier"
  let weight ← weightOf element
  return .outcomeBounds bound name weight (← element.subset)

/-- The standard elements for expressions that are no built-in operators. -/
def standardExpressions : List (String × ExpressionForm) :=
  [("baseValue", .leaf literal), ("null", .leaf fun _ => .ok .null),
    ("variable", .leaf variableForm), ("default", .leaf (referenceForm .defaultOf)),
    ("correct", .leaf (referenceForm .correctOf)),
    ("mapResponse", .leaf (referenceForm .mapResponse)),
    ("mapResponsePoint", .leaf (referenceForm .mapResponsePoint)),
    ("mathConstant", .leaf fun element =>
      (element.requiredAs "name" Element.constantOf?).map .mathConstant),
    ("randomInteger", .leaf randomIntegerForm), ("randomFloat", .leaf randomFloatForm),
    ("numberCorrect", .leaf (countForm .correct)),
    ("numberIncorrect", .leaf (countForm .incorrect)),
    ("numberPresented", .leaf (countForm .presented)),
    ("numberResponded", .leaf (countForm .responded)),
    ("numberSelected", .leaf (countForm .selected)), ("testVariables", .leaf testVariablesForm),
    ("outcomeMinimum", .leaf (boundsForm .minimum)),
    ("outcomeMaximum", .leaf (boundsForm .maximum)), ("customOperator", .custom)]

/-- An operator with one truth value for the case of letters. -/
def caseForm (build : Bool → Operator) (element : Element) : Except BuildError Operator :=
  (element.defaultedAs "caseSensitive" Element.flagOf? true).map build

/-- An operator with two bounds. -/
def boundedForm (element : Element) : Except BuildError Operator := do
  let least ← element.requiredAs "min" Element.wordOf?
  return .anyN least (← element.requiredAs "max" Element.wordOf?)

/-- An operator that rounds. -/
def roundingForm (build : RoundingMode → Int64 → Operator) (element : Element) :
    Except BuildError Operator := do
  let mode ← element.defaultedAs "roundingMode" Element.roundingOf? .significantFigures
  return build mode (← element.requiredAs "figures" Element.wordOf?)

/-- The standard elements for operators with attributes. -/
def attributedOperators : List (String × (Element → Except BuildError Operator)) :=
  [("index", fun element => (element.requiredAs "n" Element.wordOf?).map .index),
    ("fieldValue", fun element => (nameOf element "fieldIdentifier").map .fieldValue),
    ("substring", caseForm .substring), ("anyN", boundedForm),
    ("stringMatch", caseForm .stringMatch),
    ("patternMatch", fun element => (element.required "pattern").map .patternMatch),
    ("equal", fun element => element.equality.map .equal),
    ("equalRounded", roundingForm .equalRounded),
    ("inside", fun element => element.shape.map .inside), ("roundTo", roundingForm .roundTo),
    ("repeat", fun element => (element.requiredAs "numberRepeats" Element.wordOf?).map .repeat)]

/-- The standard elements for operators: those without attributes have the names of operators. -/
def standardOperators : List (String × (Element → Except BuildError Operator)) :=
  (Operator.plain.map fun entry => (entry.2.name, fun _ => .ok entry.2)) ++ attributedOperators

/-- The standard elements for rules. -/
def standardRules : List (String × RuleForm) :=
  [("setOutcomeValue", .assignment .outcomeValue),
    ("setResponseValue", .assignment .responseValue),
    ("setTemplateValue", .assignment .templateValue),
    ("setCorrectResponse", .assignment .correctResponse),
    ("setDefaultValue", .assignment .defaultValue),
    ("lookupOutcomeValue", .assignment .lookupOutcome), ("responseCondition", .condition),
    ("outcomeCondition", .condition), ("templateCondition", .condition),
    ("exitResponse", .leaf fun _ => .ok (.exit .response)),
    ("exitTemplate", .leaf fun _ => .ok (.exit .template)),
    ("exitTest", .leaf fun _ => .ok (.exit .test)), ("templateConstraint", .constraint)]

/-- The standard vocabulary. -/
def standard : Vocabulary :=
  ⟨.ofList standardExpressions, .ofList standardOperators, .ofList standardRules⟩

end Vocabulary

end Assessment
