import Assessment.Fault
import Assessment.Test.Encoding

/-!
# Test plans

The parts, sections and items of a test as one flat list of nodes. Nodes are named by their
position: the root stands first, and every node after its parent. Sessions keep their plan, so that
a plan may also come from outside; walks through it are therefore bounded by its length.
-/

namespace Assessment

/-- What a node of a plan stands for. -/
inductive PlanNodeKind where
  /-- The test. -/
  | root
  /-- A part of the test. -/
  | testPart (identifier : Identifier)
  /-- A section. -/
  | sectionNode (identifier : Identifier)
  /-- A reference to an item, with the control of its session. -/
  | itemRef (identifier item : Identifier) (control : EffectiveControl)
  deriving DecidableEq

/-- A node of a plan. -/
structure PlanNode where
  /-- What it stands for. -/
  kind : PlanNodeKind
  /-- The node it stands in. -/
  parent : Option Nat
  /-- The nodes that stand in it. -/
  children : List Nat
  deriving DecidableEq

/-- The structure of a test. -/
structure TestPlan where
  /-- The nodes. -/
  nodes : Array PlanNode
  deriving DecidableEq

namespace PlanNode

/-- The name of what a node stands for; the root has none. -/
def identifier? (node : PlanNode) : Option Identifier :=
  match node.kind with
  | .root => none
  | .testPart identifier | .sectionNode identifier | .itemRef identifier _ _ => some identifier

/-- Whether a node stands for a reference to an item. -/
def isItem (node : PlanNode) : Bool := node.kind matches .itemRef _ _ _

/-- Whether a node stands for a part. -/
def isPart (node : PlanNode) : Bool := node.kind matches .testPart _

end PlanNode

namespace TestPlan

/-! ### Building a plan -/

/-- The plan of a test without parts. -/
def rootOnly : TestPlan := ⟨#[⟨.root, none, []⟩]⟩

/-- Add a node in a given one; also gives its position. -/
def push (plan : TestPlan) (parent : Nat) (kind : PlanNodeKind) : Nat × TestPlan :=
  let index := plan.nodes.size
  let nodes := plan.nodes.push ⟨kind, some parent, []⟩
  (index, ⟨nodes.modify parent fun node => { node with children := node.children ++ [index] }⟩)

mutual

/-- Add what stands in a section in a node, under the control of that section. -/
def addPart (test : TestDefinition) (parent : Nat) (control : EffectiveControl) :
    SectionPart → TestPlan → Except LogicError TestPlan
  | .nested head parts, plan =>
    let (index, plan) := plan.push parent (.sectionNode head.identifier)
    addParts test index (control.inherit head.control) parts plan
  | .itemRef ref, plan =>
    match test.item? ref.item with
    | none => .error (.missingItemDefinition ref.identifier ref.item)
    | some _ =>
      let kind := .itemRef ref.identifier ref.item (control.inherit ref.control)
      .ok (plan.push parent kind).2

/-- Add several parts of a section in turn. -/
def addParts (test : TestDefinition) (parent : Nat) (control : EffectiveControl) :
    List SectionPart → TestPlan → Except LogicError TestPlan
  | [], plan => .ok plan
  | first :: rest, plan => do
    let plan ← addPart test parent control first plan
    addParts test parent control rest plan

end

/-- Add a section in a node. -/
def addSection (test : TestDefinition) (parent : Nat) (control : EffectiveControl)
    (plan : TestPlan) (s : Section) : Except LogicError TestPlan :=
  addPart test parent control (.nested s.head s.parts) plan

/-- Add a part of the test. -/
def addTestPart (test : TestDefinition) (plan : TestPlan) (part : TestPart) :
    Except LogicError TestPlan :=
  let (index, plan) := plan.push 0 (.testPart part.identifier)
  part.sections.foldlM (addSection test index (EffectiveControl.default.inherit part.control)) plan

/-- The plan of a test. It fails at the first reference to an item that the test does not hold. -/
def build (test : TestDefinition) : Except LogicError TestPlan :=
  test.parts.foldlM (addTestPart test) rootOnly

/-! ### Looking around in a plan -/

/-- The node at a position. -/
def node? (plan : TestPlan) (index : Nat) : Option PlanNode := plan.nodes[index]?

/-- The node at a position, or the error that there is none. -/
def node (plan : TestPlan) (index : Nat) : Except LogicError PlanNode :=
  match plan.node? index with
  | some node => .ok node
  | none => .error (.unknownPlanNode index)

/-- The number of nodes. -/
def size (plan : TestPlan) : Nat := plan.nodes.size

/-- Whether there is no node besides the root. -/
def isEmpty (plan : TestPlan) : Bool := plan.size ≤ 1

/-- The node that a node stands in. -/
def parent? (plan : TestPlan) (index : Nat) : Option Nat := plan.node? index >>= (·.parent)

/-- The parts of the test. -/
def testParts (plan : TestPlan) : List Nat :=
  match plan.node? 0 with
  | some root => root.children
  | none => []

/-- Whether the node at a position has a name. -/
def isNamed (plan : TestPlan) (name : String) (index : Nat) : Bool :=
  ((plan.node? index >>= PlanNode.identifier?).map Identifier.text) == some name

/-- The part of a name. -/
def findTestPart? (plan : TestPlan) (name : String) : Option Nat :=
  plan.testParts.find? (plan.isNamed name)

/-- The first item of a name. -/
def findItem? (plan : TestPlan) (name : String) : Option Nat :=
  -- nodes are numbered in order of the test, so this is the first in reading order
  (List.range plan.size).find? fun index =>
    plan.isNamed name index && (plan.node? index).any PlanNode.isItem

/-- The items at or below a node, down to a bounded depth. -/
def itemsWithin (plan : TestPlan) : Nat → Nat → List Nat
  | 0, _ => []
  -- a node that is missing has no items
  | depth + 1, index =>
    match plan.node? index with
    | none => []
    | some node =>
      (if node.isItem then [index] else []) ++ node.children.flatMap (plan.itemsWithin depth)

/-- The items at or below a node, in order. -/
def itemsUnder (plan : TestPlan) (index : Nat) : List Nat := plan.itemsWithin plan.size index

/-- All items, in order. -/
def items (plan : TestPlan) : List Nat := plan.itemsUnder 0

/-- A node and those that it stands in, from the inside out and up to a bounded number. -/
def chainWithin (plan : TestPlan) : Nat → Nat → List (Nat × PlanNode)
  | 0, _ => []
  | steps + 1, index =>
    match plan.node? index with
    | none => []
    | some node =>
      (index, node) :: match node.parent with
        | some parent => plan.chainWithin steps parent
        | none => []

/-- A node and those that it stands in, from the inside out. -/
def chain (plan : TestPlan) (index : Nat) : List (Nat × PlanNode) :=
  plan.chainWithin plan.size index

/-- The part that a node stands in. -/
def partOf? (plan : TestPlan) (index : Nat) : Option Nat :=
  ((plan.chain index).find? (·.2.isPart)).map (·.1)

/-- The name of the section that a node stands for. -/
def sectionName? (node : PlanNode) : Option Identifier :=
  match node.kind with
  | .sectionNode identifier => some identifier
  | _ => none

/-- The sections that a node stands in, from the inside out. -/
def enclosingSections (plan : TestPlan) (index : Nat) : List Identifier :=
  match plan.parent? index with
  | some parent => (plan.chain parent).filterMap fun entry => sectionName? entry.2
  | none => []

/-- The item that follows the first occurrence of another in a list. -/
def following? (current : Nat) : List Nat → Option Nat
  | [] => none
  | first :: rest => if first = current then rest.head? else following? current rest

/-- The next item in a part; the first one if none is current. -/
def nextItemInPart? (plan : TestPlan) (part : Nat) : Option Nat → Option Nat
  | none => (plan.itemsUnder part).head?
  | some current => following? current (plan.itemsUnder part)

/-! ### As JSON -/

/-- What a node stands for, as JSON. -/
def kindJson : PlanNodeKind → Json
  | .root => .tagged "node" "root" []
  | .testPart identifier => .tagged "node" "test_part" [("identifier", identifier.toJson)]
  | .sectionNode identifier => .tagged "node" "section" [("identifier", identifier.toJson)]
  | .itemRef identifier item control =>
    .tagged "node" "item_ref" [("identifier", identifier.toJson), ("item", item.toJson),
      ("session_control", control.toJson)]

/-- What a node stands for, as JSON writes it. -/
def kindOfJson? (datum : Datum) : Option PlanNodeKind := do
  let (name, body) ← datum.variant? "node" ["root", "test_part", "section", "item_ref"]
  match name with
  | "root" => if body.noFields then some .root else none
  | "test_part" =>
    let fields ← body.fields? ["identifier"]
    some (.testPart (← fields.required "identifier" Identifier.ofJson?))
  | "section" =>
    let fields ← body.fields? ["identifier"]
    some (.sectionNode (← fields.required "identifier" Identifier.ofJson?))
  | "item_ref" =>
    let fields ← body.fields? ["identifier", "item", "session_control"]
    some (.itemRef (← fields.required "identifier" Identifier.ofJson?)
      (← fields.required "item" Identifier.ofJson?)
      (← fields.required "session_control" EffectiveControl.ofJson?))
  | _ => none

/-- A node as JSON. -/
def nodeJson (node : PlanNode) : Json :=
  .obj [("kind", kindJson node.kind), ("parent", .ofOption Json.ofNat node.parent),
    ("children", .ofList Json.ofNat node.children)]

/-- The node that JSON writes. -/
def nodeOfJson? (datum : Datum) : Option PlanNode := do
  let fields ← datum.fields? ["kind", "parent", "children"]
  some ⟨← fields.required "kind" kindOfJson?, ← fields.nullable "parent" Datum.nat?,
    ← fields.required "children" (Datum.list? Datum.nat?)⟩

/-- A plan as JSON. -/
def toJson (plan : TestPlan) : Json := .obj [("nodes", .ofList nodeJson plan.nodes.toList)]

/-- The plan that JSON writes. -/
def ofJson? (datum : Datum) : Option TestPlan := do
  let fields ← datum.fields? ["nodes"]
  some ⟨(← fields.required "nodes" (Datum.list? nodeOfJson?)).toArray⟩

end TestPlan

end Assessment
