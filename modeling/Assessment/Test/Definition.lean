import Assessment.Item.Definition
import Assessment.Test.Control

/-!
# Tests

A test is a list of parts. Each part holds sections, which nest, and the sections refer to items by
name. The items themselves stand beside the parts.

`TestDefinition.itemRefs` and `TestDefinition.sections` list the references and the sections in the
order in which they are written.
-/

namespace Assessment

/-- A factor for the outcomes of an item. -/
structure Weight where
  /-- The name of the factor. -/
  identifier : Identifier
  /-- The factor. -/
  value : Float

/-- A place in a test where an item stands. -/
structure ItemRef where
  /-- The name of the place. -/
  identifier : Identifier
  /-- The name of the item. -/
  item : Identifier
  /-- Factors for its outcomes. -/
  weights : List Weight
  /-- The item is passed over unless all of these are true. -/
  preConditions : List Expression
  /-- Control of its session. -/
  control : Option ItemSessionControl
  /-- Categories that aggregates select by. -/
  categories : List Identifier

/-- What is written at the head of a section. -/
structure SectionHead where
  /-- The name of the section. -/
  identifier : Identifier
  /-- What candidates see as its title. -/
  title : String
  /-- Whether candidates see the section at all. -/
  visible : Bool
  /-- Control of the item sessions inside. -/
  control : Option ItemSessionControl
  deriving DecidableEq

/-- What stands in a section. -/
inductive SectionPart where
  /-- A section inside the section. -/
  | nested (head : SectionHead) (parts : List SectionPart)
  /-- A reference to an item. -/
  | itemRef (ref : ItemRef)

/-- A group of items and sections. -/
structure Section where
  /-- What is written at its head. -/
  head : SectionHead
  /-- What stands in it. -/
  parts : List SectionPart

/-- Where to go on after a part. -/
structure BranchRule where
  /-- The part to go on with, or the name that ends the test. -/
  target : Identifier
  /-- The rule is taken if this is true. -/
  expression : Expression

/-- A part of a test. -/
structure TestPart where
  /-- The name of the part. -/
  identifier : Identifier
  /-- The order in which its items are visited. -/
  navigation : NavigationMode
  /-- When its items are scored. -/
  submission : SubmissionMode
  /-- The part is passed over unless all of these are true. -/
  preConditions : List Expression
  /-- Where to go on after the part. -/
  branchRules : List BranchRule
  /-- Control of the item sessions inside. -/
  control : Option ItemSessionControl
  /-- The sections of the part. -/
  sections : List Section

/-- A test with its items. -/
structure TestDefinition where
  /-- The name of the test. -/
  identifier : Identifier
  /-- What candidates see as its title. -/
  title : String
  /-- Declared outcome variables of the test as a whole. -/
  outcomes : List OutcomeDeclaration
  /-- The rules that score the test. -/
  outcomeProcessing : List Rule
  /-- The parts of the test. -/
  parts : List TestPart
  /-- The items that the test refers to. -/
  items : List ItemDefinition

/-- The factor of a name. -/
def ItemRef.weight? (ref : ItemRef) (name : Identifier) : Option Float :=
  (ref.weights.find? (·.identifier = name)).map (·.value)

namespace SectionPart

mutual

/-- The references to items in a part of a section. -/
def itemRefs : SectionPart → List ItemRef
  | nested _ parts => itemRefsAll parts
  | itemRef ref => [ref]

/-- The references to items in several parts of a section. -/
def itemRefsAll : List SectionPart → List ItemRef
  | [] => []
  | first :: rest => itemRefs first ++ itemRefsAll rest

end

mutual

/-- The sections in a part of a section, each before those in it. -/
def sections : SectionPart → List SectionHead
  | nested head parts => head :: sectionsAll parts
  | itemRef _ => []

/-- The sections in several parts of a section. -/
def sectionsAll : List SectionPart → List SectionHead
  | [] => []
  | first :: rest => sections first ++ sectionsAll rest

end

end SectionPart

namespace TestDefinition

/-- The item of a name. -/
def item? (test : TestDefinition) (name : Identifier) : Option ItemDefinition :=
  test.items.find? (·.identifier = name)

/-- The part of a name. -/
def part? (test : TestDefinition) (name : Identifier) : Option TestPart :=
  test.parts.find? (·.identifier = name)

/-- The outcome variable of a name. -/
def outcome? (test : TestDefinition) (name : Identifier) : Option OutcomeDeclaration :=
  test.outcomes.find? (·.identifier = name)

/-- The sections that stand directly in the parts. -/
def topSections (test : TestDefinition) : List Section := test.parts.flatMap (·.sections)

/-- All references to items. -/
def itemRefs (test : TestDefinition) : List ItemRef :=
  test.topSections.flatMap fun s => SectionPart.itemRefsAll s.parts

/-- The reference to an item that has a name. -/
def itemRef? (test : TestDefinition) (name : Identifier) : Option ItemRef :=
  test.itemRefs.find? (·.identifier = name)

/-- All sections, each before those in it. -/
def sections (test : TestDefinition) : List SectionHead :=
  test.topSections.flatMap fun s => s.head :: SectionPart.sectionsAll s.parts

end TestDefinition

end Assessment
