import Mathlib.Data.List.Forall2
import Mathlib.Data.List.Nodup
import Assessment.Proofs.Plan.Tree

/-!
# The plan of a test

The plan of a test is built node by node, each node at the end of those before it. It draws the tree
of the parts, sections and items of the test. So the parts and the items of a plan are those of the
test, in the order in which they are written, and no item stands in two parts.

## Main definitions

- `TestDefinition.tree`: the parts, sections and items of a test.
- `TestPart.itemRefs`: the references to items in a part.
- `TestPlan.Adds`: one plan is another with some trees added below a node.

## Main results

- `TestPlan.draws_of_build`: the plan of a test draws its tree.
- `TestPlan.exists_build`: a test that holds all items that it refers to has a plan.
-/

namespace Assessment

open PlanTree

namespace SectionPart

mutual

/-- The sections and items in a part of a section, under the control of that section. -/
def tree (control : EffectiveControl) : SectionPart → PlanTree
  | nested head parts =>
    .node (.sectionNode head.identifier) (trees (control.inherit head.control) parts)
  | itemRef ref => .node (.itemRef ref.identifier ref.item (control.inherit ref.control)) []

/-- The sections and items in several parts of a section. -/
def trees (control : EffectiveControl) : List SectionPart → List PlanTree
  | [] => []
  | first :: rest => tree control first :: trees control rest

end

end SectionPart

/-- A section as a part of another. -/
def Section.asPart (s : Section) : SectionPart := .nested s.head s.parts

/-- Among members with different names each is found by its name. -/
theorem find?_name_of_mem {α : Type} {name : α → Identifier} {members : List α}
    (hnames : (members.map name).Nodup) {a : α} (ha : a ∈ members) :
    members.find? (fun other => decide (name other = name a)) = some a := by
  have hsome : (members.find? fun other => decide (name other = name a)).isSome = true :=
    List.find?_isSome.2 ⟨a, ha, decide_eq_true rfl⟩
  obtain ⟨found, hfound⟩ := Option.isSome_iff_exists.1 hsome
  have hname := List.find?_some hfound
  rw [decide_eq_true_eq] at hname
  rw [hfound, List.inj_on_of_nodup_map hnames (List.mem_of_find?_eq_some hfound) ha hname]

namespace TestPart

/-- The trees of the sections of a part. -/
def sectionTrees (part : TestPart) : List PlanTree :=
  part.sections.map fun s => s.asPart.tree (EffectiveControl.default.inherit part.control)

/-- The sections and items of a part. -/
def tree (part : TestPart) : PlanTree := .node (.testPart part.identifier) part.sectionTrees

/-- The references to items in a part. -/
def itemRefs (part : TestPart) : List ItemRef :=
  part.sections.flatMap fun s => SectionPart.itemRefsAll s.parts

end TestPart

/-- The parts, sections and items of a test. -/
def TestDefinition.tree (test : TestDefinition) : PlanTree :=
  .node .root (test.parts.map TestPart.tree)

/-- The names of the reference at a place and of its item. -/
def ItemPlace.names (place : ItemPlace) : Identifier × Identifier := (place.ref, place.item)

/-- The names of a reference and of its item. -/
def ItemRef.names (ref : ItemRef) : Identifier × Identifier := (ref.identifier, ref.item)

/-- The names of the items that some nodes stand for. -/
def PlanNodeKind.itemNames (kinds : List PlanNodeKind) : List (Identifier × Identifier) :=
  (kinds.filterMap place?).map ItemPlace.names

@[simp]
theorem PlanNodeKind.itemNames_append (kinds more : List PlanNodeKind) :
    itemNames (kinds ++ more) = itemNames kinds ++ itemNames more := by
  simp [itemNames]

namespace SectionPart

mutual

/-- The items of a tree are those that are referred to, in order. -/
theorem itemNames_kinds (control : EffectiveControl) : ∀ part : SectionPart,
    PlanNodeKind.itemNames (part.tree control).kinds = part.itemRefs.map ItemRef.names
  | nested head parts => by
    rw [tree, kinds, itemRefs, ← itemNames_kindsAll _ parts]
    rfl
  | itemRef ref => rfl

theorem itemNames_kindsAll (control : EffectiveControl) : ∀ parts : List SectionPart,
    PlanNodeKind.itemNames (kindsAll (trees control parts)) =
      (itemRefsAll parts).map ItemRef.names
  | [] => rfl
  | first :: rest => by
    rw [trees, kindsAll, itemRefsAll, PlanNodeKind.itemNames_append, List.map_append,
      itemNames_kinds control first, itemNames_kindsAll control rest]

end

mutual

/-- No part of a test stands in a section. -/
theorem not_testPart (control : EffectiveControl) : ∀ (part : SectionPart) (name : Identifier),
    PlanNodeKind.testPart name ∉ (part.tree control).kinds
  | nested head parts, name => by
    rw [tree, kinds, List.mem_cons, not_or]
    exact ⟨nofun, not_testPart_of_mem _ parts name⟩
  | itemRef ref, name => by simp [tree, kinds, kindsAll]

theorem not_testPart_of_mem (control : EffectiveControl) :
    ∀ (parts : List SectionPart) (name : Identifier),
    PlanNodeKind.testPart name ∉ kindsAll (trees control parts)
  | [], _ => List.not_mem_nil
  | first :: rest, name => by
    rw [trees, kindsAll, List.mem_append, not_or]
    exact ⟨not_testPart _ first name, not_testPart_of_mem _ rest name⟩

end

end SectionPart

namespace TestPart

theorem itemNames_kinds (part : TestPart) :
    PlanNodeKind.itemNames part.tree.kinds = part.itemRefs.map ItemRef.names := by
  change PlanNodeKind.itemNames (kindsAll part.sectionTrees) = _
  rw [sectionTrees, itemRefs]
  induction part.sections with
  | nil => rfl
  | cons first rest ih =>
    rw [List.map_cons, kindsAll, PlanNodeKind.itemNames_append, ih, List.flatMap_cons,
      List.map_append, SectionPart.itemNames_kinds]
    rfl

theorem not_testPart (part : TestPart) (name : Identifier) :
    PlanNodeKind.testPart name ∉ kindsAll part.sectionTrees := by
  rw [sectionTrees]
  induction part.sections with
  | nil => exact List.not_mem_nil
  | cons first rest ih =>
    rw [List.map_cons, kindsAll, List.mem_append, not_or]
    exact ⟨SectionPart.not_testPart _ _ name, ih⟩

end TestPart

namespace TestDefinition

/-- The references of a test are those of its parts. -/
theorem itemRefs_eq (test : TestDefinition) :
    test.itemRefs = test.parts.flatMap TestPart.itemRefs := by
  rw [itemRefs, topSections, List.flatMap_assoc]
  rfl

theorem itemNames_kinds (test : TestDefinition) :
    PlanNodeKind.itemNames test.tree.kinds = test.itemRefs.map ItemRef.names := by
  change PlanNodeKind.itemNames (kindsAll (test.parts.map TestPart.tree)) = _
  rw [itemRefs_eq]
  induction test.parts with
  | nil => rfl
  | cons first rest ih =>
    rw [List.map_cons, kindsAll, PlanNodeKind.itemNames_append, ih, List.flatMap_cons,
      List.map_append, TestPart.itemNames_kinds]

end TestDefinition

namespace TestPlan

variable {plan grown : TestPlan} {parent : Nat}

/-! ### Adding nodes -/

/-- One plan is another with trees added below a node: they stand at the end, and nothing else is
changed. -/
structure Adds (plan : TestPlan) (parent : Nat) (trees : List PlanTree) (grown : TestPlan) :
    Prop where
  /-- Nothing but the nodes of the trees is added. -/
  size_eq : grown.size = plan.size + sizeAll trees
  /-- The node that the trees are below has them as children. -/
  node?_parent : ∀ node, plan.node? parent = some node →
    grown.node? parent = some { node with children := node.children ++ starts plan.size trees }
  /-- The other nodes are as before. -/
  node?_of_ne : ∀ i, i < plan.size → i ≠ parent → grown.node? i = plan.node? i
  /-- The trees stand at the end. -/
  draws : grown.DrawsAll parent plan.size trees

theorem Adds.nil (plan : TestPlan) (parent : Nat) : plan.Adds parent [] plan where
  size_eq := rfl
  node?_parent node hnode := by rw [hnode, starts, List.append_nil]
  node?_of_ne _ _ _ := rfl
  draws := trivial

/-- Trees are added one after the other. -/
theorem Adds.append {trees more : List PlanTree} {next : TestPlan}
    (h : plan.Adds parent trees grown) (h' : grown.Adds parent more next)
    (hparent : parent < plan.size) :
    plan.Adds parent (trees ++ more) next where
  size_eq := by rw [h'.size_eq, h.size_eq, sizeAll_append, Nat.add_assoc]
  node?_parent node hnode := by
    rw [h'.node?_parent _ (h.node?_parent node hnode), starts_append, h.size_eq, List.append_assoc]
  node?_of_ne i hi hne := by
    have hgrown : i < grown.size := by rw [h.size_eq]; omega
    rw [h'.node?_of_ne i hgrown hne, h.node?_of_ne i hi hne]
  draws := by
    -- The first trees are not touched: they stand behind the node that gets new children.
    refine (drawsAll_append trees more).2 ⟨h.draws.congr fun i hi hlast => ?_, ?_⟩
    · rw [h'.node?_of_ne i (by rw [h.size_eq]; exact hlast) (by omega)]
    · rw [← h.size_eq]
      exact h'.draws

section push

variable (kind : PlanNodeKind)

theorem size_push : (plan.push parent kind).2.size = plan.size + 1 := by
  simp [push, TestPlan.size]

theorem node?_push (i : Nat) :
    (plan.push parent kind).2.node? i =
      (if i = plan.size then some ⟨kind, some parent, []⟩ else plan.node? i).map fun node =>
        if parent = i then { node with children := node.children ++ [plan.size] } else node := by
  rw [push, node?, node?, Array.getElem?_modify, Array.getElem?_push, TestPlan.size]
  by_cases h : parent = i <;> simp [h]

theorem node?_push_size (hparent : parent < plan.size) :
    (plan.push parent kind).2.node? plan.size = some ⟨kind, some parent, []⟩ := by
  rw [node?_push, if_pos rfl, Option.map_some, if_neg (Nat.ne_of_lt hparent)]

theorem node?_push_parent {node : PlanNode} (h : plan.node? parent = some node) :
    (plan.push parent kind).2.node? parent =
      some { node with children := node.children ++ [plan.size] } := by
  have hparent : parent < plan.size := (Array.getElem?_eq_some_iff.1 h).1
  rw [node?_push, if_neg (Nat.ne_of_lt hparent), h, Option.map_some, if_pos rfl]

theorem node?_push_of_ne {i : Nat} (hi : i < plan.size) (hne : i ≠ parent) :
    (plan.push parent kind).2.node? i = plan.node? i := by
  rw [node?_push, if_neg (Nat.ne_of_lt hi)]
  simp [Ne.symm hne]

end push

/-- Trees below a new node are a tree below the node that it is in. -/
theorem Adds.push {kind : PlanNodeKind} {trees : List PlanTree}
    (h : (plan.push parent kind).2.Adds plan.size trees grown) (hparent : parent < plan.size) :
    plan.Adds parent [.node kind trees] grown where
  size_eq := by
    rw [h.size_eq, size_push, sizeAll, sizeAll, PlanTree.size]
    omega
  node?_parent node hnode := by
    rw [h.node?_of_ne parent (by rw [size_push]; omega) (Nat.ne_of_lt hparent)]
    exact node?_push_parent kind hnode
  node?_of_ne i hi hne := by
    rw [h.node?_of_ne i (by rw [size_push]; omega) (Nat.ne_of_lt hi)]
    exact node?_push_of_ne kind hi hne
  draws := by
    refine ⟨⟨?_, ?_⟩, trivial⟩
    · rw [h.node?_parent _ (node?_push_size kind hparent), size_push, List.nil_append]
    · rw [← size_push kind]
      exact h.draws

/-! ### Building -/

variable {test : TestDefinition}

-- Each function of the building adds the trees of what it is given; a section is pushed before its
-- parts are added below it.
mutual

theorem adds_addPart : ∀ {part : SectionPart} {control : EffectiveControl} {parent : Nat}
    {plan grown : TestPlan}, addPart test parent control part plan = .ok grown →
    parent < plan.size → plan.Adds parent [part.tree control] grown
  | .nested head parts, control, parent, plan, grown, h, hparent => by
    rw [addPart] at h
    refine Adds.push (adds_addParts h ?_) hparent
    rw [size_push]
    exact Nat.lt_succ_self _
  | .itemRef ref, control, parent, plan, grown, h, hparent => by
    rw [addPart] at h
    cases hitem : test.item? ref.item with
    | none => rw [hitem] at h; cases h
    | some item =>
      rw [hitem] at h
      cases h
      exact Adds.push (.nil _ _) hparent

theorem adds_addParts : ∀ {parts : List SectionPart} {control : EffectiveControl} {parent : Nat}
    {plan grown : TestPlan}, addParts test parent control parts plan = .ok grown →
    parent < plan.size → plan.Adds parent (SectionPart.trees control parts) grown
  | [], control, parent, plan, grown, h, hparent => by
    rw [addParts] at h
    cases h
    exact .nil _ _
  | first :: rest, control, parent, plan, grown, h, hparent => by
    rw [addParts] at h
    cases hfirst : addPart test parent control first plan with
    | error error => rw [hfirst] at h; cases h
    | ok next =>
      rw [hfirst] at h
      have hnext := adds_addPart hfirst hparent
      refine hnext.append (adds_addParts h ?_) hparent
      rw [hnext.size_eq]
      omega

end

/-- Adding in turn what each member of a list adds below a node. -/
theorem adds_foldlM {α : Type} {add : TestPlan → α → Except LogicError TestPlan}
    {tree : α → PlanTree}
    (hadd : ∀ plan grown a, add plan a = .ok grown → parent < plan.size →
      plan.Adds parent [tree a] grown) :
    ∀ {members : List α} {plan grown : TestPlan}, members.foldlM add plan = .ok grown →
      parent < plan.size → plan.Adds parent (members.map tree) grown
  | [], plan, grown, h, _ => by
    cases h
    exact .nil _ _
  | first :: rest, plan, grown, h, hparent => by
    rw [List.foldlM_cons] at h
    cases hfirst : add plan first with
    | error error => rw [hfirst] at h; cases h
    | ok next =>
      rw [hfirst] at h
      have hnext := hadd plan next first hfirst hparent
      refine hnext.append (adds_foldlM hadd h ?_) hparent
      rw [hnext.size_eq]
      omega

theorem adds_addTestPart {part : TestPart} (h : addTestPart test plan part = .ok grown)
    (hplan : 0 < plan.size) : plan.Adds 0 [part.tree] grown := by
  refine Adds.push (adds_foldlM ?_ h ?_) hplan
  · intro _ _ _ hadd hparent
    exact adds_addPart hadd hparent
  · rw [size_push]
    exact Nat.lt_succ_self _

/-- The plan of a test draws its tree, and nothing else. -/
theorem draws_of_build (h : build test = .ok plan) :
    plan.Draws none 0 test.tree ∧ plan.size = test.tree.size := by
  have hadds : rootOnly.Adds 0 (test.parts.map TestPart.tree) plan :=
    adds_foldlM (fun _ _ _ hadd hplan => adds_addTestPart hadd hplan) h Nat.zero_lt_one
  refine ⟨⟨hadds.node?_parent _ rfl, hadds.draws⟩, ?_⟩
  rw [hadds.size_eq, TestDefinition.tree, PlanTree.size, Nat.add_comm]
  rfl

/-! ### Tests that have a plan -/

/-- The test holds an item of the name that a reference gives. -/
def Resolves (test : TestDefinition) (ref : ItemRef) : Prop := (test.item? ref.item).isSome = true

mutual

theorem exists_addPart : ∀ (part : SectionPart) (control : EffectiveControl) (parent : Nat)
    (plan : TestPlan), (∀ ref ∈ part.itemRefs, Resolves test ref) →
    ∃ grown, addPart test parent control part plan = .ok grown
  | .nested head parts, control, parent, plan, hrefs => by
    rw [addPart]
    exact exists_addParts parts _ _ _ hrefs
  | .itemRef ref, control, parent, plan, hrefs => by
    obtain ⟨item, hitem⟩ := Option.isSome_iff_exists.1 (hrefs ref List.mem_cons_self)
    rw [addPart, hitem]
    exact ⟨_, rfl⟩

theorem exists_addParts : ∀ (parts : List SectionPart) (control : EffectiveControl) (parent : Nat)
    (plan : TestPlan), (∀ ref ∈ SectionPart.itemRefsAll parts, Resolves test ref) →
    ∃ grown, addParts test parent control parts plan = .ok grown
  | [], control, parent, plan, _ => ⟨plan, rfl⟩
  | first :: rest, control, parent, plan, hrefs => by
    rw [SectionPart.itemRefsAll] at hrefs
    obtain ⟨next, hnext⟩ := exists_addPart first control parent plan fun ref href =>
      hrefs ref (List.mem_append_left _ href)
    obtain ⟨grown, hgrown⟩ := exists_addParts rest control parent next fun ref href =>
      hrefs ref (List.mem_append_right _ href)
    refine ⟨grown, ?_⟩
    rw [addParts, hnext]
    exact hgrown

end

/-- Steps that never fail are made in turn for every member of a list. -/
theorem exists_foldlM {α : Type} {add : TestPlan → α → Except LogicError TestPlan} :
    ∀ (members : List α) (plan : TestPlan),
      (∀ a ∈ members, ∀ plan, ∃ grown, add plan a = .ok grown) →
      ∃ grown, members.foldlM add plan = .ok grown
  | [], plan, _ => ⟨plan, rfl⟩
  | first :: rest, plan, hadd => by
    obtain ⟨next, hnext⟩ := hadd first List.mem_cons_self plan
    rw [List.foldlM_cons, hnext]
    exact exists_foldlM rest next fun a ha => hadd a (List.mem_cons_of_mem _ ha)

/-- A test that holds all items that it refers to has a plan. -/
theorem exists_build (hrefs : ∀ ref ∈ test.itemRefs, Resolves test ref) :
    ∃ plan, build test = .ok plan := by
  rw [test.itemRefs_eq] at hrefs
  refine exists_foldlM test.parts rootOnly fun part hpart plan => ?_
  refine exists_foldlM part.sections _ fun s hs plan => ?_
  refine exists_addPart s.asPart _ _ plan fun ref href => hrefs ref ?_
  exact List.mem_flatMap.2 ⟨part, hpart, List.mem_flatMap.2 ⟨s, hs, href⟩⟩

/-! ### The parts of a plan -/

/-- Trees that are drawn one after the other are drawn each at its start. -/
theorem DrawsAll.forall₂ {index : Nat} {trees : List PlanTree}
    (h : plan.DrawsAll parent index trees) :
    List.Forall₂ (fun start tree => plan.Draws (some parent) start tree ∧
      start + tree.size ≤ index + sizeAll trees) (starts index trees) trees := by
  induction trees generalizing index with
  | nil => exact .nil
  | cons first rest ih =>
    obtain ⟨hfirst, hrest⟩ := h
    rw [starts, sizeAll]
    refine .cons ⟨hfirst, by omega⟩ ((ih hrest).imp fun start tree h => ⟨h.1, ?_⟩)
    have := h.2
    omega

/-- A node of a plan stands for a part of a test, with all that is in it. -/
structure IsPart (plan : TestPlan) (index : Nat) (part : TestPart) : Prop where
  /-- The tree of the part begins at the node. -/
  draws : plan.Draws (some 0) index part.tree
  /-- The tree of the part ends in the plan. -/
  fits : index + part.tree.size ≤ plan.size

section IsPart

variable {index i : Nat} {part : TestPart}

theorem IsPart.node? (h : plan.IsPart index part) :
    plan.node? index =
      some ⟨.testPart part.identifier, some 0, starts (index + 1) part.sectionTrees⟩ :=
  h.draws.1

theorem IsPart.mem_itemsUnder (h : plan.IsPart index part) :
    i ∈ plan.itemsUnder index ↔
      index ≤ i ∧ i < index + part.tree.size ∧ plan.isItemAt i = true :=
  h.draws.mem_itemsUnder (by have := h.fits; omega)

/-- The items of a part stand in that part. -/
theorem IsPart.partOf?_eq (h : plan.IsPart index part) (hi : i ∈ plan.itemsUnder index) :
    plan.partOf? i = some index := by
  obtain ⟨hle, hlt, -⟩ := h.mem_itemsUnder.1 hi
  refine h.draws.partOf?_eq ?_ h.fits hle hlt
  rintro _ hkind name rfl
  exact part.not_testPart name hkind

/-- What is at the places of items has the names of these places. -/
theorem map_names {positions : List Nat} {places : List ItemPlace}
    (h : positions.map plan.place = places.map .ok) :
    positions.map (fun i => (plan.place i).map ItemPlace.names) =
      (places.map ItemPlace.names).map .ok := by
  have hnames := congrArg (List.map (Except.map ItemPlace.names)) h
  rw [List.map_map, List.map_map] at hnames
  rw [List.map_map]
  exact hnames

/-- The items of a part are those that it refers to, in order. -/
theorem IsPart.map_place (h : plan.IsPart index part) :
    (plan.itemsUnder index).map plan.place = part.tree.places.map .ok :=
  h.draws.map_place (by have := h.fits; omega)

theorem IsPart.map_names (h : plan.IsPart index part) :
    (plan.itemsUnder index).map (fun i => (plan.place i).map ItemPlace.names) =
      (part.itemRefs.map ItemRef.names).map .ok := by
  rw [TestPlan.map_names h.map_place, ← part.itemNames_kinds]
  rfl

section map_names

variable {positions : List Nat} {refs : List ItemRef} {k : Nat}
  (h : positions.map (fun i => (plan.place i).map ItemPlace.names) =
    (refs.map ItemRef.names).map .ok)

include h

/-- Where nodes stand for references, every reference has a node. -/
theorem exists_place_of_map_names {ref : ItemRef} (hk : refs[k]? = some ref) :
    ∃ i place, positions[k]? = some i ∧ plan.place i = .ok place ∧ place.names = ref.names := by
  have hat := congrArg (·[k]?) h
  simp only [List.getElem?_map, hk, Option.map_some, Option.map_eq_some_iff] at hat
  obtain ⟨i, hi, hnames⟩ := hat
  cases hplace : plan.place i with
  | error error =>
    rw [hplace] at hnames
    cases hnames
  | ok place =>
    rw [hplace] at hnames
    exact ⟨i, place, hi, hplace, Except.ok.inj hnames⟩

/-- Where nodes stand for references, every node has a reference. -/
theorem exists_ref_of_map_names {i : Nat} (hk : positions[k]? = some i) :
    ∃ ref place, refs[k]? = some ref ∧ plan.place i = .ok place ∧ place.names = ref.names := by
  have hlength : positions.length = refs.length := by
    have := congrArg List.length h
    rwa [List.length_map, List.length_map, List.length_map] at this
  obtain ⟨hlt, rfl⟩ := List.getElem?_eq_some_iff.1 hk
  have href : refs[k]? = some refs[k] := List.getElem?_eq_getElem (hlength ▸ hlt)
  obtain ⟨found, place, hfound, hplace, hnames⟩ := exists_place_of_map_names h href
  obtain rfl := Option.some.inj (hk.symm.trans hfound)
  exact ⟨refs[k], place, href, hplace, hnames⟩

end map_names

end IsPart

section build

variable (h : build test = .ok plan)

include h

/-- The parts of a plan are those of the test, in order. -/
theorem forall₂_testParts : List.Forall₂ plan.IsPart plan.testParts test.parts := by
  obtain ⟨⟨hroot, hparts⟩, hsize⟩ := draws_of_build h
  rw [testParts, hroot]
  refine (List.forall₂_map_right_iff.1 hparts.forall₂).imp fun index part h => ⟨h.1, ?_⟩
  rw [hsize, TestDefinition.tree, PlanTree.size, Nat.add_comm _ 1]
  exact h.2

theorem nodup_testParts : plan.testParts.Nodup := by
  obtain ⟨⟨hroot, -⟩, -⟩ := draws_of_build h
  rw [testParts, hroot]
  exact nodup_starts _ _

/-- The items of a plan are those of its parts, in order. -/
theorem items_eq : plan.items = plan.testParts.flatMap plan.itemsUnder := by
  obtain ⟨⟨hroot, hparts⟩, hsize⟩ := draws_of_build h
  -- The root is no item, so that the items of the plan are those of the trees below it.
  have hitem : plan.isItemAt 0 = false := by
    rw [isItemAt, hroot]
    rfl
  rw [items, (draws_of_build h).1.itemsUnder_eq (Nat.le_of_eq hsize.symm), TestDefinition.tree,
    PlanTree.size, List.range'_succ, List.filter_cons, hitem, testParts, hroot]
  refine (hparts.itemsWithin_eq ?_).symm
  rw [hsize, TestDefinition.tree, PlanTree.size]
  exact Nat.le_succ _

theorem nodup_items : plan.items.Nodup :=
  have ⟨hdraws, hsize⟩ := draws_of_build h
  hdraws.nodup_itemsUnder (Nat.le_of_eq hsize.symm)

/-- The items of a plan are at the nodes that have a place. -/
theorem mem_items {i : Nat} : i ∈ plan.items ↔ ∃ place, plan.place i = .ok place := by
  obtain ⟨hdraws, hsize⟩ := draws_of_build h
  rw [items, hdraws.mem_itemsUnder (Nat.le_of_eq hsize.symm)]
  constructor
  · exact fun hi => exists_place hi.2.2
  · rintro ⟨place, hplace⟩
    obtain ⟨node, hnode, -⟩ := place_eq_ok_iff.1 hplace
    have hi : i < plan.size := (Array.getElem?_eq_some_iff.1 hnode).1
    exact ⟨Nat.zero_le _, by omega, isItemAt_of_place hplace⟩

/-- The items of a plan are those that the test refers to, in order. -/
theorem map_place_items : plan.items.map plan.place = test.tree.places.map .ok :=
  have ⟨hdraws, hsize⟩ := draws_of_build h
  hdraws.map_place (Nat.le_of_eq hsize.symm)

theorem map_names_items :
    plan.items.map (fun i => (plan.place i).map ItemPlace.names) =
      (test.itemRefs.map ItemRef.names).map .ok := by
  rw [map_names (map_place_items h), ← test.itemNames_kinds]
  rfl

/-- The places of a plan are those of references of the test. -/
theorem names_mem_of_place {i : Nat} {place : ItemPlace} (hplace : plan.place i = .ok place) :
    place.names ∈ test.itemRefs.map ItemRef.names := by
  have hi : (plan.place i).map ItemPlace.names ∈
      plan.items.map fun i => (plan.place i).map ItemPlace.names :=
    List.mem_map_of_mem ((mem_items h).2 ⟨place, hplace⟩)
  rw [map_names_items h, hplace] at hi
  obtain ⟨names, hnames, heq⟩ := List.mem_map.1 hi
  cases heq
  exact hnames

/-- Every item of a plan stands in a part. -/
theorem exists_part {i : Nat} (hi : i ∈ plan.items) :
    ∃ index ∈ plan.testParts, i ∈ plan.itemsUnder index := by
  rw [items_eq h, List.mem_flatMap] at hi
  exact hi

/-- What stands in a part of a plan is an item. -/
theorem exists_place_of_mem {index i : Nat} (hindex : index ∈ plan.testParts)
    (hi : i ∈ plan.itemsUnder index) : ∃ place, plan.place i = .ok place := by
  refine (mem_items h).1 ?_
  rw [items_eq h]
  exact List.mem_flatMap.2 ⟨index, hindex, hi⟩

/-- No item stands in a part twice. -/
theorem nodup_itemsUnder {index : Nat} (hindex : index ∈ plan.testParts) :
    (plan.itemsUnder index).Nodup := by
  have hnodup := nodup_items h
  rw [items_eq h, List.nodup_flatMap] at hnodup
  exact hnodup.1 index hindex

/-- A node among the parts of a plan stands for one of the parts of the test. -/
theorem exists_isPart {index : Nat} (hindex : index ∈ plan.testParts) :
    ∃ part ∈ test.parts, plan.IsPart index part := by
  have hall := forall₂_testParts h
  obtain ⟨k, hk, rfl⟩ := List.getElem_of_mem hindex
  have hk' : k < test.parts.length := hall.length_eq ▸ hk
  exact ⟨test.parts[k], List.getElem_mem hk', (List.forall₂_iff_get.1 hall).2 k hk hk'⟩

/-- No item stands in two parts. -/
theorem eq_of_mem_itemsUnder {index index' i : Nat} (hindex : index ∈ plan.testParts)
    (hindex' : index' ∈ plan.testParts) (hi : i ∈ plan.itemsUnder index)
    (hi' : i ∈ plan.itemsUnder index') : index = index' := by
  obtain ⟨part, -, hpart⟩ := exists_isPart h hindex
  obtain ⟨part', -, hpart'⟩ := exists_isPart h hindex'
  exact Option.some.inj ((hpart.partOf?_eq hi).symm.trans (hpart'.partOf?_eq hi'))

/-- The items in a part of the test are under the node of the part. -/
theorem mem_itemsUnder_of_partOf? {index i : Nat} {place : ItemPlace}
    (hi : plan.place i = .ok place) (hpart : plan.partOf? i = some index) :
    index ∈ plan.testParts ∧ i ∈ plan.itemsUnder index := by
  obtain ⟨found, hfound, hmem⟩ := exists_part h ((mem_items h).2 ⟨place, hi⟩)
  obtain ⟨part, -, hisPart⟩ := exists_isPart h hfound
  obtain rfl : found = index := Option.some.inj ((hisPart.partOf?_eq hmem).symm.trans hpart)
  exact ⟨hfound, hmem⟩

/-- Where the references of a test have distinct names, so have the items of its plan. -/
theorem eq_of_place_ref (hdistinct : (test.itemRefs.map ItemRef.identifier).Nodup) {i j : Nat}
    {place place' : ItemPlace} (hi : plan.place i = .ok place) (hj : plan.place j = .ok place')
    (href : place.ref = place'.ref) : i = j := by
  -- The names along the items of the plan are those along the references of the test.
  have hnodup : ((plan.items.map fun i => (plan.place i).map ItemPlace.names).map
      (Except.map Prod.fst)).Nodup := by
    have hrefs := hdistinct.map (f := (Except.ok : _ → Except LogicError Identifier))
      fun _ _ => Except.ok.inj
    rw [List.map_map] at hrefs
    rw [map_names_items h, List.map_map, List.map_map]
    exact hrefs
  rw [List.map_map] at hnodup
  refine List.inj_on_of_nodup_map hnodup ((mem_items h).2 ⟨_, hi⟩) ((mem_items h).2 ⟨_, hj⟩) ?_
  rw [Function.comp_apply, Function.comp_apply, hi, hj]
  exact congrArg Except.ok href

end build

/-! ### Looking for items -/

theorem mem_of_following? {current next : Nat} :
    ∀ {items : List Nat}, following? current items = some next → next ∈ items
  | first :: rest, h => by
    rw [following?] at h
    split at h
    · exact List.mem_cons_of_mem _ (List.mem_of_mem_head? h)
    · exact List.mem_cons_of_mem _ (mem_of_following? h)

/-- The next item in a part stands in that part. -/
theorem mem_of_nextItemInPart? {part next : Nat} {current : Option Nat}
    (h : plan.nextItemInPart? part current = some next) : next ∈ plan.itemsUnder part := by
  cases current with
  | none => exact List.mem_of_mem_head? h
  | some current => exact mem_of_following? h

/-- The node of an item has the name of the reference. -/
theorem identifier?_of_place {index : Nat} {place : ItemPlace} (h : plan.place index = .ok place) :
    (plan.node? index >>= PlanNode.identifier?) = some place.ref := by
  obtain ⟨⟨kind, above, children⟩, hnode, hkind⟩ := place_eq_ok_iff.1 h
  rw [hnode]
  cases kind <;> cases hkind
  rfl

/-- An item that is found by a name has that name. -/
theorem exists_place_of_findItem? {ref : Identifier} {index : Nat}
    (h : plan.findItem? ref.text = some index) :
    ∃ place, plan.place index = .ok place ∧ place.ref = ref := by
  have hfound := List.find?_some h
  rw [Bool.and_eq_true] at hfound
  obtain ⟨hnamed, hitem⟩ := hfound
  obtain ⟨place, hplace⟩ := exists_place hitem
  refine ⟨place, hplace, ?_⟩
  obtain ⟨⟨kind, above, children⟩, hnode, hkind⟩ := place_eq_ok_iff.1 hplace
  cases kind <;> cases hkind
  simpa [isNamed, hnode, PlanNode.identifier?, Identifier.text_inj] using hnamed

end TestPlan

end Assessment
