import Assessment.Digest.Basic
import Assessment.Rule.Encoding

/-!
# Items

An item is one question: its variables, the rules that shape and score it, and the interactions
through which candidates answer.
-/

namespace Assessment

/-- How candidates answer one response variable. -/
structure Interaction where
  /-- The response variable. -/
  response : Identifier
  /-- The class of an extension that binds the response. -/
  customClass : Option String
  deriving DecidableEq

/-- A question with its variables and rules. -/
structure ItemDefinition where
  /-- The name of the item. -/
  identifier : Identifier
  /-- What candidates see as its title. -/
  title : String
  /-- Whether rules, and not the number of attempts, decide when the item is finished. -/
  adaptive : Bool
  /-- Declared template variables. -/
  templates : List TemplateDeclaration
  /-- Declared response variables. -/
  responses : List ResponseDeclaration
  /-- Declared outcome variables. -/
  outcomes : List OutcomeDeclaration
  /-- The rules that shape the item. -/
  templateProcessing : List Rule
  /-- The rules that score the item. -/
  responseProcessing : List Rule
  /-- The interactions of the item. -/
  interactions : List Interaction

namespace Interaction

/-- An interaction as JSON. -/
def toJson (interaction : Interaction) : Json :=
  .obj [("response_identifier", interaction.response.toJson),
    ("custom_class", .ofOption Json.str interaction.customClass)]

/-- The interaction that JSON writes. -/
def ofJson? (datum : Datum) : Option Interaction := do
  let fields ← datum.fields? ["response_identifier", "custom_class"]
  some ⟨← fields.required "response_identifier" Identifier.ofJson?,
    ← fields.optional "custom_class" Datum.str?⟩

end Interaction

namespace ItemDefinition

/-- An item without variables and rules. -/
def bare (identifier : Identifier) : ItemDefinition :=
  ⟨identifier, "", false, [], [], [], [], [], []⟩

/-- The template variable of a name. -/
def template? (item : ItemDefinition) (name : Identifier) : Option TemplateDeclaration :=
  item.templates.find? (·.identifier = name)

/-- The response variable of a name. -/
def response? (item : ItemDefinition) (name : Identifier) : Option ResponseDeclaration :=
  item.responses.find? (·.identifier = name)

/-- The outcome variable of a name. -/
def outcome? (item : ItemDefinition) (name : Identifier) : Option OutcomeDeclaration :=
  item.outcomes.find? (·.identifier = name)

/-- The interaction for a response variable. -/
def interaction? (item : ItemDefinition) (name : String) : Option Interaction :=
  item.interactions.find? (·.response.text = name)

/-- All variables of a name: first a built-in one, then the declared ones. -/
def resolveAll (item : ItemDefinition) (name : String) : List Declaration :=
  ((BuiltIn.ofName? name).map Declaration.builtIn).toList ++
    (item.templates.filter (·.identifier.text = name)).map .template ++
    (item.responses.filter (·.identifier.text = name)).map .response ++
    (item.outcomes.filter (·.identifier.text = name)).map .outcome

/-- The variable that a name means. -/
def resolve? (item : ItemDefinition) (name : String) : Option Declaration :=
  (item.resolveAll name).head?

/-- An item as JSON. -/
def toJson (item : ItemDefinition) : Json :=
  .obj [("identifier", item.identifier.toJson), ("title", .str item.title),
    ("adaptive", .bool item.adaptive),
    ("template_declarations", .ofList TemplateDeclaration.toJson item.templates),
    ("response_declarations", .ofList ResponseDeclaration.toJson item.responses),
    ("outcome_declarations", .ofList OutcomeDeclaration.toJson item.outcomes),
    ("template_processing", .arr (Rule.toJsonAll item.templateProcessing)),
    ("response_processing", .arr (Rule.toJsonAll item.responseProcessing)),
    ("interactions", .ofList Interaction.toJson item.interactions)]

/-- The names of the fields of an item. -/
def fieldNames : List String :=
  ["identifier", "title", "adaptive", "template_declarations", "response_declarations",
    "outcome_declarations", "template_processing", "response_processing", "interactions"]

/-- The item that JSON writes. -/
def ofJson? (datum : Datum) : Option ItemDefinition := do
  let fields ← datum.fields? fieldNames
  some ⟨← fields.required "identifier" Identifier.ofJson?,
    ← fields.defaulted "title" Datum.str? "",
    ← fields.defaulted "adaptive" Datum.bool? false,
    ← fields.defaulted "template_declarations" (Datum.list? TemplateDeclaration.ofJson?) [],
    ← fields.defaulted "response_declarations" (Datum.list? ResponseDeclaration.ofJson?) [],
    ← fields.defaulted "outcome_declarations" (Datum.list? OutcomeDeclaration.ofJson?) [],
    ← fields.defaulted "template_processing" (Datum.list? Rule.ofJson?) [],
    ← fields.defaulted "response_processing" (Datum.list? Rule.ofJson?) [],
    ← fields.defaulted "interactions" (Datum.list? Interaction.ofJson?) []⟩

/-- The digest of an item. -/
def digest (item : ItemDefinition) : Digest := .ofJsonText item.toJson

end ItemDefinition

end Assessment
