import Assessment.Test.Definition

/-!
# Tests as JSON

The parts of a section are told apart by the tag `kind`.
-/

namespace Assessment

namespace Weight

/-- A factor as JSON. -/
def toJson (weight : Weight) : Json :=
  .obj [("identifier", weight.identifier.toJson), ("value", .ofFloat weight.value)]

/-- The factor that JSON writes. -/
def ofJson? (datum : Datum) : Option Weight := do
  let fields ← datum.fields? ["identifier", "value"]
  some ⟨← fields.required "identifier" Identifier.ofJson?, ← fields.required "value" Datum.float?⟩

end Weight

namespace ItemRef

/-- The fields of a reference as JSON. -/
def fieldsJson (ref : ItemRef) : List (String × Json) :=
  [("identifier", ref.identifier.toJson), ("item", ref.item.toJson),
    ("weights", .ofList Weight.toJson ref.weights),
    ("pre_conditions", .arr (Expression.toJsonAll ref.preConditions)),
    ("item_session_control", .ofOption ItemSessionControl.toJson ref.control),
    ("categories", .ofList Identifier.toJson ref.categories)]

/-- The reference that JSON writes. -/
def ofJson? (datum : Datum) : Option ItemRef := do
  let fields ← datum.fields?
    ["identifier", "item", "weights", "pre_conditions", "item_session_control", "categories"]
  some ⟨← fields.required "identifier" Identifier.ofJson?,
    ← fields.required "item" Identifier.ofJson?,
    ← fields.defaulted "weights" (Datum.list? Weight.ofJson?) [],
    ← fields.defaulted "pre_conditions" (Datum.list? Expression.ofJson?) [],
    ← fields.optional "item_session_control" ItemSessionControl.ofJson?,
    ← fields.defaulted "categories" (Datum.list? Identifier.ofJson?) []⟩

end ItemRef

namespace SectionHead

/-- The fields of a section as JSON, given those of its parts. -/
def fieldsJson (head : SectionHead) (parts : List Json) : List (String × Json) :=
  [("identifier", head.identifier.toJson), ("title", .str head.title),
    ("visible", .bool head.visible),
    ("item_session_control", .ofOption ItemSessionControl.toJson head.control),
    ("parts", .arr parts)]

end SectionHead

namespace Section

/-- The section that JSON writes, given how its parts are read. -/
def ofJsonWith? (part : Datum → Option SectionPart) (datum : Datum) : Option Section := do
  let fields ← datum.fields? ["identifier", "title", "visible", "item_session_control", "parts"]
  some ⟨⟨← fields.required "identifier" Identifier.ofJson?,
      ← fields.defaulted "title" Datum.str? "",
      ← fields.defaulted "visible" Datum.bool? true,
      ← fields.optional "item_session_control" ItemSessionControl.ofJson?⟩,
    ← fields.defaulted "parts" (Datum.list? part) []⟩

end Section

namespace SectionPart

mutual

/-- A part of a section as JSON. -/
def toJson : SectionPart → Json
  | nested head parts => .tagged "kind" "section" (head.fieldsJson (toJsonAll parts))
  | itemRef ref => .tagged "kind" "item_ref" ref.fieldsJson

/-- Several parts of a section as JSON. -/
def toJsonAll : List SectionPart → List Json
  | [] => []
  | first :: rest => toJson first :: toJsonAll rest

end

/-- The tags of the parts of a section. -/
def tags : List String := ["section", "item_ref"]

/-- The part of a section that JSON writes, if its tree is no deeper than a bound. -/
def ofJsonWithin : Nat → Datum → Option SectionPart
  | 0, _ => none
  | depth + 1, datum => do
    let (name, body) ← datum.variant? "kind" tags
    match name with
    | "section" =>
      (Section.ofJsonWith? (ofJsonWithin depth) body).map fun s => nested s.head s.parts
    | "item_ref" => (ItemRef.ofJson? body).map itemRef
    | _ => none

end SectionPart

namespace Section

/-- A section as JSON. -/
def toJson (s : Section) : Json := .obj (s.head.fieldsJson (SectionPart.toJsonAll s.parts))

/-- The section that JSON writes. -/
def ofJson? (datum : Datum) : Option Section :=
  ofJsonWith? (SectionPart.ofJsonWithin datum.json.depth) datum

end Section

namespace BranchRule

/-- A branch rule as JSON. -/
def toJson (rule : BranchRule) : Json :=
  .obj [("target", rule.target.toJson), ("expression", rule.expression.toJson)]

/-- The branch rule that JSON writes. -/
def ofJson? (datum : Datum) : Option BranchRule := do
  let fields ← datum.fields? ["target", "expression"]
  some ⟨← fields.required "target" Identifier.ofJson?,
    ← fields.required "expression" Expression.ofJson?⟩

end BranchRule

namespace TestPart

/-- A part as JSON. -/
def toJson (part : TestPart) : Json :=
  .obj [("identifier", part.identifier.toJson), ("navigation_mode", .str part.navigation.name),
    ("submission_mode", .str part.submission.name),
    ("pre_conditions", .arr (Expression.toJsonAll part.preConditions)),
    ("branch_rules", .ofList BranchRule.toJson part.branchRules),
    ("item_session_control", .ofOption ItemSessionControl.toJson part.control),
    ("sections", .ofList Section.toJson part.sections)]

/-- The part that JSON writes. -/
def ofJson? (datum : Datum) : Option TestPart := do
  let fields ← datum.fields?
    ["identifier", "navigation_mode", "submission_mode", "pre_conditions", "branch_rules",
      "item_session_control", "sections"]
  some ⟨← fields.required "identifier" Identifier.ofJson?,
    ← fields.defaulted "navigation_mode" (Datum.oneOf? NavigationMode.names) .linear,
    ← fields.defaulted "submission_mode" (Datum.oneOf? SubmissionMode.names) .individual,
    ← fields.defaulted "pre_conditions" (Datum.list? Expression.ofJson?) [],
    ← fields.defaulted "branch_rules" (Datum.list? BranchRule.ofJson?) [],
    ← fields.optional "item_session_control" ItemSessionControl.ofJson?,
    ← fields.defaulted "sections" (Datum.list? Section.ofJson?) []⟩

end TestPart

namespace TestDefinition

/-- A test as JSON. -/
def toJson (test : TestDefinition) : Json :=
  .obj [("identifier", test.identifier.toJson), ("title", .str test.title),
    ("outcome_declarations", .ofList OutcomeDeclaration.toJson test.outcomes),
    ("outcome_processing", .arr (Rule.toJsonAll test.outcomeProcessing)),
    ("test_parts", .ofList TestPart.toJson test.parts),
    ("items", .ofList ItemDefinition.toJson test.items)]

/-- The test that JSON writes. -/
def ofJson? (datum : Datum) : Option TestDefinition := do
  let fields ← datum.fields?
    ["identifier", "title", "outcome_declarations", "outcome_processing", "test_parts", "items"]
  some ⟨← fields.required "identifier" Identifier.ofJson?,
    ← fields.defaulted "title" Datum.str? "",
    ← fields.defaulted "outcome_declarations" (Datum.list? OutcomeDeclaration.ofJson?) [],
    ← fields.defaulted "outcome_processing" (Datum.list? Rule.ofJson?) [],
    ← fields.required "test_parts" (Datum.list? TestPart.ofJson?),
    ← fields.defaulted "items" (Datum.list? ItemDefinition.ofJson?) []⟩

/-- The digest of a test. -/
def digest (test : TestDefinition) : Digest := .ofJsonText test.toJson

end TestDefinition

end Assessment
