import Assessment.Execution.Stage
import Assessment.Pattern.Reading

/-!
# Findings

What is found wrong with a definition before any session is made of it. Errors make a definition
unusable; warnings tell of parts that will have no effect.
-/

namespace Assessment

/-- What is wrong at a place of a definition. -/
inductive Problem where
  /-- Several variables have the name. -/
  | ambiguous (name : Identifier)
  /-- No variable has the name. -/
  | undeclared (name : Identifier)
  /-- The variable has a type that no value has. -/
  | unusable (name : Identifier)
  /-- No reference to an item has the name. -/
  | unknownItemRef
  /-- The test does not hold the item. -/
  | missingItem (item : Identifier)
  /-- The correct answer is of another type. -/
  | correctMisfit (signature : Signature)
  /-- The default is of another type. -/
  | defaultMisfit (signature : Signature)
  /-- The type is one that no value has. -/
  | invalidSignature (signature : Signature)
  /-- The name belongs to a built-in variable. -/
  | reserved (name : Identifier)
  /-- The name was given before. -/
  | duplicate (name : Identifier)
  /-- An item of the name was given before. -/
  | duplicateItem
  /-- The interaction answers no response variable. -/
  | unboundInteraction
  /-- No extension has the interaction. -/
  | unsupportedInteraction (className : String)
  /-- No extension has the operator. -/
  | unsupportedOperator (className : String)
  /-- The test has no parts. -/
  | noParts
  /-- No part has the name that a branch leads to. -/
  | unknownTarget (target : Identifier)
  /-- The part that a branch leads to does not stand behind it. -/
  | backwardTarget (target part : Identifier)
  /-- The rule does nothing where it stands. -/
  | noEffect (kind : ProcessingKind)
  /-- Rules of a test do not assign variables of items. -/
  | assignsItem
  /-- Rules of a test do not change declarations. -/
  | noOverrides
  /-- The rule assigns variables of another role. -/
  | wrongRole (role : Role) (name : Identifier)
  /-- The variable is kept by the session itself. -/
  | maintained (name : Identifier)
  /-- The outcome has no lookup table. -/
  | noLookupTable (name : Identifier)
  /-- The expression makes sense only in a test. -/
  | testOnly
  /-- The variable holds no response. -/
  | notResponse (name : Identifier)
  /-- The response has no mapping. -/
  | noMapping (name : Identifier)
  /-- The response has no area mapping. -/
  | noAreaMapping (name : Identifier)
  /-- The response holds no points. -/
  | notPoint (name : Identifier)
  /-- No integer is in the range. -/
  | emptyGrid
  /-- No double is in the range. -/
  | emptyInterval
  /-- The operator stands over too few or too many operands. -/
  | arity (expected : Arity) (found : Nat)
  /-- The text is no pattern. -/
  | badPattern (error : Pattern.PatternError)
  /-- Positions are counted from one. -/
  | badIndex
  /-- The lower bound is greater than the upper one. -/
  | crossedBounds
  /-- A number cannot be rounded to so many figures. -/
  | badFigures (figures : Int64)
  /-- A tolerance has to be given. -/
  | noTolerance
  /-- The number of repetitions is not positive. -/
  | badRepeats
  /-- The test has no such section. -/
  | unknownSection (name : Identifier)
  /-- No item has a variable of the name. -/
  | noItemDeclares (name : Identifier)
  /-- Factors belong to tests. -/
  | weightOutside (weight : Identifier)
  /-- No reference to an item has the factor. -/
  | unknownWeight (weight : Identifier)

namespace Problem

/-- Whether a definition is usable in spite of a problem. -/
def isWarning : Problem → Bool
  | unusable _ | unsupportedInteraction _ | unsupportedOperator _ | invalidSignature _ | noEffect _
  | noItemDeclares _ | weightOutside _ | unknownWeight _ => true
  | _ => false

/-- The message of a problem. -/
def message : Problem → String
  | ambiguous name => "ambiguous identifier " ++ name.text
  | undeclared name => "undeclared variable " ++ name.text
  | unusable name =>
    "reference to " ++ name.text ++ " retained but unusable: invalid signature"
  | unknownItemRef => "unknown item reference"
  | missingItem item => "references missing item " ++ item.text
  | correctMisfit signature => "correct response does not conform to " ++ signature.text
  | defaultMisfit signature => "default value does not conform to " ++ signature.text
  | invalidSignature signature => "invalid signature " ++ signature.text
  | reserved name => "identifier " ++ name.text ++ " is reserved by the engine"
  | duplicate name => "duplicate identifier " ++ name.text
  | duplicateItem => "item definition supplied twice"
  | unboundInteraction => "interaction is bound to an undeclared response"
  | unsupportedInteraction className => "unsupported custom interaction " ++ className
  | unsupportedOperator className =>
    "unsupported custom operator " ++ className ++ "; evaluates to NULL"
  | noParts => "test has no test parts"
  | unknownTarget target => "unknown branch target " ++ target.text
  | backwardTarget target part =>
    "branch target " ++ target.text ++ " does not follow " ++ part.text
  | noEffect kind => "has no effect in " ++ kind.name
  | assignsItem => "item variables cannot be assigned from outcome processing"
  | noOverrides => "not available in outcome processing"
  | wrongRole role name => "cannot assign " ++ role.name ++ " variable " ++ name.text
  | maintained name => name.text ++ " is maintained by the engine"
  | noLookupTable name => "outcome " ++ name.text ++ " has no lookup table"
  | testOnly => "only available in test outcome processing"
  | notResponse name => name.text ++ " is not a response variable"
  | noMapping name => "response " ++ name.text ++ " has no mapping"
  | noAreaMapping name => "response " ++ name.text ++ " has no area mapping"
  | notPoint name => "response " ++ name.text ++ " is not a point"
  | emptyGrid => "empty integer range"
  | emptyInterval => "empty float range"
  | arity expected found =>
    "expects " ++ expected.text ++ " operands, found " ++ toString found
  | badPattern error => "invalid pattern: " ++ error.message
  | badIndex => "index must be at least 1"
  | crossedBounds => "min exceeds max"
  | badFigures figures => "illegal figures " ++ toString figures.toInt
  | noTolerance => "tolerance mode requires a tolerance"
  | badRepeats => "numberRepeats must be at least 1"
  | unknownSection name => "unknown section " ++ name.text
  | noItemDeclares name => "no item declares " ++ name.text
  | weightOutside weight => "weight " ++ weight.text ++ " is ignored outside a test"
  | unknownWeight weight =>
    "weight " ++ weight.text ++ " is not declared; treated as 1.0"

end Problem

/-- A problem and the place where it was found. -/
structure Finding where
  /-- The place, from the outside in. -/
  source : String
  /-- What is wrong there. -/
  problem : Problem

/-- A finding of an inner definition, as one of the definition around it. -/
def Finding.inside (outer : String) (finding : Finding) : Finding :=
  { finding with source := outer ++ "/" ++ finding.source }

/-- A finding as JSON. -/
def Finding.toJson (finding : Finding) : Json :=
  .obj [("source", .str finding.source), ("message", .str finding.problem.message)]

/-- What was found in a definition, in order. -/
abbrev Findings := List Finding

namespace Findings

/-- The findings that make a definition unusable. -/
def errors (findings : Findings) : List Finding := findings.filter fun f => !f.problem.isWarning

/-- The findings that tell of parts without effect. -/
def warnings (findings : Findings) : List Finding := findings.filter fun f => f.problem.isWarning

/-- Whether a definition is usable. -/
def isValid (findings : Findings) : Bool := findings.errors.isEmpty

/-- Findings as JSON, those that make a definition unusable apart from the others. -/
def toJson (findings : Findings) : Json :=
  .obj [("errors", .ofList Finding.toJson findings.errors),
    ("warnings", .ofList Finding.toJson findings.warnings)]

theorem isValid_append (first second : Findings) :
    isValid (first ++ second) = (isValid first && isValid second) := by
  unfold isValid errors
  rw [List.filter_append]
  cases first.filter fun f => !f.problem.isWarning <;> rfl

end Findings

end Assessment
