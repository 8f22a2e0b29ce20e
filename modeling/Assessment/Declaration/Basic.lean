import Assessment.Declaration.Mapping

/-!
# Declarations

Every variable of an item or a test is declared: with its name, its signature and its default.
Template variables shape an item, response variables hold what candidates answer, and outcome
variables hold scores. Three variables are built in and declared by nobody.
-/

namespace Assessment

/-- What a variable is for. -/
inductive Role where
  /-- It shapes the item. -/
  | template
  /-- It holds an answer. -/
  | response
  /-- It holds a score. -/
  | outcome
  deriving DecidableEq

/-- The name of a role. -/
def Role.name : Role → String
  | .template => "template"
  | .response => "response"
  | .outcome => "outcome"

/-- A declared template variable. -/
structure TemplateDeclaration where
  /-- The name of the variable. -/
  identifier : Identifier
  /-- Its type. -/
  signature : Signature
  /-- Its value before template processing. -/
  defaultValue : Option Value
  /-- Whether it stands for a parameter of an object. -/
  paramVariable : Bool
  /-- Whether it stands for a variable in a formula. -/
  mathVariable : Bool

/-- A declared response variable. -/
structure ResponseDeclaration where
  /-- The name of the variable. -/
  identifier : Identifier
  /-- Its type. -/
  signature : Signature
  /-- Its value before the first attempt. -/
  defaultValue : Option Value
  /-- The answer that is correct. -/
  correctResponse : Option Value
  /-- Scores for the scalars of an answer. -/
  mapping : Option Mapping
  /-- Scores for the points of an answer. -/
  areaMapping : Option AreaMapping

/-- A declared outcome variable. -/
structure OutcomeDeclaration where
  /-- The name of the variable. -/
  identifier : Identifier
  /-- Its type. -/
  signature : Signature
  /-- Its value before processing. -/
  defaultValue : Option Value
  /-- How to read the outcome. -/
  interpretation : Option String
  /-- The greatest magnitude that is to be expected. -/
  normalMaximum : Option Float
  /-- The least value that is to be expected. -/
  normalMinimum : Option Float
  /-- The value that shows mastery. -/
  masteryValue : Option Float
  /-- The table that look-ups of the outcome use. -/
  lookupTable : Option LookupTable

/-- A variable that every session has. -/
inductive BuiltIn where
  /-- How many attempts were accepted. -/
  | numAttempts
  /-- How many seconds the session has lasted. -/
  | duration
  /-- How far the candidate has come. -/
  | completionStatus
  deriving DecidableEq

/-- How far a candidate has come with an item. -/
inductive Completion where
  /-- The item was never presented. -/
  | notAttempted
  /-- The item was presented, and nothing more is known. -/
  | unknown
  /-- The item is not finished. -/
  | incomplete
  /-- The item is finished. -/
  | completed
  deriving DecidableEq

namespace Completion

/-- All completions. -/
def all : List Completion := [.notAttempted, .unknown, .incomplete, .completed]

/-- The identifier that the variable `completionStatus` holds. -/
def identifier : Completion → Identifier
  | notAttempted => ⟨"not_attempted", by decide +kernel⟩
  | unknown => ⟨"unknown", by decide +kernel⟩
  | incomplete => ⟨"incomplete", by decide +kernel⟩
  | completed => ⟨"completed", by decide +kernel⟩

/-- The completion that a value names. -/
def ofValue? (value : Value) : Option Completion := do
  let name ← value.identifier?
  all.find? (·.identifier.text = name.text)

end Completion

namespace BuiltIn

/-- All built-in variables. -/
def all : List BuiltIn := [.numAttempts, .duration, .completionStatus]

/-- The name of a built-in variable. -/
def identifier : BuiltIn → Identifier
  | numAttempts => ⟨"numAttempts", by decide +kernel⟩
  | duration => ⟨"duration", by decide +kernel⟩
  | completionStatus => ⟨"completionStatus", by decide +kernel⟩

/-- The built-in variable of a name. -/
def ofName? (name : String) : Option BuiltIn := all.find? (·.identifier.text = name)

/-- The type of a built-in variable. -/
def signature : BuiltIn → Signature
  | numAttempts => .single .integer
  | duration => .single .duration
  | completionStatus => .single .identifier

/-- What a built-in variable is for. -/
def role : BuiltIn → Role
  | numAttempts | duration => .response
  | completionStatus => .outcome

/-- The value of a built-in variable in a new session. -/
def initial : BuiltIn → Value
  | numAttempts => .integer 0
  | duration => .duration 0.0
  | completionStatus => .identifier Completion.notAttempted.identifier

end BuiltIn

/-- The value of a variable before anything happens: its default, or nothing. -/
def initialOf (defaultValue : Option Value) : Value := defaultValue.getD .null

namespace TemplateDeclaration

/-- The value before template processing. -/
def initial (declaration : TemplateDeclaration) : Value := initialOf declaration.defaultValue

end TemplateDeclaration

namespace ResponseDeclaration

/-- The value before the first attempt. -/
def initial (declaration : ResponseDeclaration) : Value := initialOf declaration.defaultValue

end ResponseDeclaration

namespace OutcomeDeclaration

/-- The value before processing. -/
def initial (declaration : OutcomeDeclaration) : Value := initialOf declaration.defaultValue

/-- An outcome variable of a type, with a default and nothing else. -/
def simple (identifier : Identifier) (signature : Signature) (defaultValue : Value) :
    OutcomeDeclaration :=
  ⟨identifier, signature, some defaultValue, none, none, none, none, none⟩

end OutcomeDeclaration

/-- What a reference to a variable leads to. -/
inductive Declaration where
  /-- A declared template variable. -/
  | template (declaration : TemplateDeclaration)
  /-- A declared response variable. -/
  | response (declaration : ResponseDeclaration)
  /-- A declared outcome variable. -/
  | outcome (declaration : OutcomeDeclaration)
  /-- A built-in variable. -/
  | builtIn (builtIn : BuiltIn)

namespace Declaration

/-- The name of the variable. -/
def identifier : Declaration → Identifier
  | template d => d.identifier
  | response d => d.identifier
  | outcome d => d.identifier
  | builtIn b => b.identifier

/-- The type of the variable. -/
def signature : Declaration → Signature
  | template d => d.signature
  | response d => d.signature
  | outcome d => d.signature
  | builtIn b => b.signature

/-- The declared default. -/
def defaultValue : Declaration → Option Value
  | template d => d.defaultValue
  | response d => d.defaultValue
  | outcome d => d.defaultValue
  | builtIn _ => none

/-- What the variable is for. -/
def role : Declaration → Role
  | template _ => .template
  | response _ => .response
  | outcome _ => .outcome
  | builtIn b => b.role

/-- The value in a new session. -/
def initial : Declaration → Value
  | builtIn b => b.initial
  | declaration => initialOf declaration.defaultValue

/-- The response declaration, if it is one. -/
def response? : Declaration → Option ResponseDeclaration
  | response d => some d
  | _ => none

/-- The outcome declaration, if it is one. -/
def outcome? : Declaration → Option OutcomeDeclaration
  | outcome d => some d
  | _ => none

/-- Whether the variable is built in. -/
def isBuiltIn : Declaration → Bool
  | builtIn _ => true
  | _ => false

end Declaration

/-! ### As JSON -/

namespace TemplateDeclaration

/-- A declaration as JSON. -/
def toJson (d : TemplateDeclaration) : Json :=
  .obj [("identifier", d.identifier.toJson), ("signature", d.signature.toJson),
    ("default_value", .ofOption Value.toJson d.defaultValue),
    ("param_variable", .bool d.paramVariable), ("math_variable", .bool d.mathVariable)]

/-- The declaration that JSON writes. -/
def ofJson? (datum : Datum) : Option TemplateDeclaration := do
  let fields ← datum.fields?
    ["identifier", "signature", "default_value", "param_variable", "math_variable"]
  some ⟨← fields.required "identifier" Identifier.ofJson?,
    ← fields.required "signature" Signature.ofJson?,
    ← fields.optional "default_value" Value.ofJson?,
    ← fields.defaulted "param_variable" Datum.bool? false,
    ← fields.defaulted "math_variable" Datum.bool? false⟩

end TemplateDeclaration

namespace ResponseDeclaration

/-- A declaration as JSON. -/
def toJson (d : ResponseDeclaration) : Json :=
  .obj [("identifier", d.identifier.toJson), ("signature", d.signature.toJson),
    ("default_value", .ofOption Value.toJson d.defaultValue),
    ("correct_response", .ofOption Value.toJson d.correctResponse),
    ("mapping", .ofOption Mapping.toJson d.mapping),
    ("area_mapping", .ofOption AreaMapping.toJson d.areaMapping)]

/-- The declaration that JSON writes. -/
def ofJson? (datum : Datum) : Option ResponseDeclaration := do
  let fields ← datum.fields?
    ["identifier", "signature", "default_value", "correct_response", "mapping", "area_mapping"]
  some ⟨← fields.required "identifier" Identifier.ofJson?,
    ← fields.required "signature" Signature.ofJson?,
    ← fields.optional "default_value" Value.ofJson?,
    ← fields.optional "correct_response" Value.ofJson?,
    ← fields.optional "mapping" Mapping.ofJson?,
    ← fields.optional "area_mapping" AreaMapping.ofJson?⟩

end ResponseDeclaration

namespace OutcomeDeclaration

/-- A declaration as JSON. -/
def toJson (d : OutcomeDeclaration) : Json :=
  .obj [("identifier", d.identifier.toJson), ("signature", d.signature.toJson),
    ("default_value", .ofOption Value.toJson d.defaultValue),
    ("interpretation", .ofOption Json.str d.interpretation),
    ("normal_maximum", .ofOption Json.ofFloat d.normalMaximum),
    ("normal_minimum", .ofOption Json.ofFloat d.normalMinimum),
    ("mastery_value", .ofOption Json.ofFloat d.masteryValue),
    ("lookup_table", .ofOption LookupTable.toJson d.lookupTable)]

/-- The declaration that JSON writes. -/
def ofJson? (datum : Datum) : Option OutcomeDeclaration := do
  let fields ← datum.fields?
    ["identifier", "signature", "default_value", "interpretation", "normal_maximum",
      "normal_minimum", "mastery_value", "lookup_table"]
  some ⟨← fields.required "identifier" Identifier.ofJson?,
    ← fields.required "signature" Signature.ofJson?,
    ← fields.optional "default_value" Value.ofJson?,
    ← fields.optional "interpretation" Datum.str?,
    ← fields.optional "normal_maximum" Datum.float?,
    ← fields.optional "normal_minimum" Datum.float?,
    ← fields.optional "mastery_value" Datum.float?,
    ← fields.optional "lookup_table" LookupTable.ofJson?⟩

end OutcomeDeclaration

end Assessment
