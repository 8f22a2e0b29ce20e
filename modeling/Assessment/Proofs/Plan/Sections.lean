import Assessment.Proofs.Plan.Building

/-!
# The sections around the items of a plan

From an item of a plan the walk along parents leads through the sections around it, from the inside
out. For the plan of a test these are the sections in which the reference to the item is written.

## Main definitions

- `TestDefinition.placedRefs`: the references to items, each with the sections around it.
- `TestDefinition.refsIn`: the references that stand in sections of a name, at any depth.
- `TestPlan.LiesIn`: what a walk along parents finds from a node on.

## Main results

- `TestPlan.map_sections_items`: the items of a plan have the sections around them that the test
  writes.
- `TestDefinition.filter_placedRefs`: a section is around a reference just if that stands in it.
-/

namespace Assessment

open PlanTree

namespace SectionPart

mutual

/-- The references to items in a part of a section, each with the sections around it from the inside
out, beginning with those around the part. -/
def placedRefs (outer : List Identifier) : SectionPart → List (ItemRef × List Identifier)
  | nested head parts => placedRefsAll (head.identifier :: outer) parts
  | itemRef ref => [(ref, outer)]

/-- The references in several parts of a section, each with the sections around it. -/
def placedRefsAll (outer : List Identifier) : List SectionPart → List (ItemRef × List Identifier)
  | [] => []
  | first :: rest => placedRefs outer first ++ placedRefsAll outer rest

end

mutual

/-- The references to items that stand in sections of a name, at any depth. -/
def refsIn (name : Identifier) : SectionPart → List ItemRef
  | nested head parts =>
    if head.identifier = name then itemRefsAll parts else refsInAll name parts
  | itemRef _ => []

/-- The references in several parts that stand in sections of a name. -/
def refsInAll (name : Identifier) : List SectionPart → List ItemRef
  | [] => []
  | first :: rest => refsIn name first ++ refsInAll name rest

end

end SectionPart

namespace TestDefinition

/-- The references to items, each with the sections around it from the inside out. -/
def placedRefs (test : TestDefinition) : List (ItemRef × List Identifier) :=
  test.topSections.flatMap fun s => s.asPart.placedRefs []

/-- The references to items that stand in sections of a name, at any depth. -/
def refsIn (test : TestDefinition) (name : Identifier) : List ItemRef :=
  test.topSections.flatMap fun s => s.asPart.refsIn name

end TestDefinition

/-! ### References in sections -/

namespace SectionPart

mutual

theorem map_fst_placedRefs (outer : List Identifier) : ∀ part : SectionPart,
    (part.placedRefs outer).map Prod.fst = part.itemRefs
  | nested head parts => by rw [placedRefs, map_fst_placedRefsAll _ parts, itemRefs]
  | itemRef ref => rfl

theorem map_fst_placedRefsAll (outer : List Identifier) : ∀ parts : List SectionPart,
    (placedRefsAll outer parts).map Prod.fst = itemRefsAll parts
  | [] => rfl
  | first :: rest => by
    rw [placedRefsAll, List.map_append, map_fst_placedRefs outer first,
      map_fst_placedRefsAll outer rest, itemRefsAll]

end

-- The sections around a part are around all that is in it.
mutual

theorem mem_of_mem_placedRefs {name : Identifier} {outer : List Identifier} (hname : name ∈ outer) :
    ∀ part : SectionPart, ∀ placed ∈ part.placedRefs outer, name ∈ placed.2
  | nested head parts => mem_of_mem_placedRefsAll (List.mem_cons_of_mem _ hname) parts
  | itemRef ref => fun placed hplaced => by
    rw [List.mem_singleton.1 hplaced]
    exact hname

theorem mem_of_mem_placedRefsAll {name : Identifier} {outer : List Identifier}
    (hname : name ∈ outer) :
    ∀ parts : List SectionPart, ∀ placed ∈ placedRefsAll outer parts, name ∈ placed.2
  | [] => nofun
  | first :: rest => fun placed hplaced => by
    rw [placedRefsAll, List.mem_append] at hplaced
    exact hplaced.elim (mem_of_mem_placedRefs hname first placed)
      (mem_of_mem_placedRefsAll hname rest placed)

end

-- Once a section of the name is entered, all references below are in it. Until then the name is not
-- among the sections around.
mutual

theorem filter_placedRefs (name : Identifier) {outer : List Identifier} (hname : name ∉ outer) :
    ∀ part : SectionPart,
    ((part.placedRefs outer).filter (·.2.contains name)).map Prod.fst = part.refsIn name
  | nested head parts => by
    rw [placedRefs, refsIn]
    split
    next hhead =>
      have hinside : ∀ placed ∈ placedRefsAll (head.identifier :: outer) parts,
          placed.2.contains name = true := fun placed hplaced =>
        List.contains_iff_mem.2
          (mem_of_mem_placedRefsAll (hhead ▸ List.mem_cons_self) parts placed hplaced)
      rw [List.filter_eq_self.2 hinside, map_fst_placedRefsAll]
    next hhead =>
      refine filter_placedRefsAll name ?_ parts
      rw [List.mem_cons, not_or]
      exact ⟨Ne.symm hhead, hname⟩
  | itemRef ref => by
    have houtside : ¬outer.contains name = true := fun h => hname (List.contains_iff_mem.1 h)
    rw [placedRefs, refsIn, List.filter_cons, if_neg houtside]
    rfl

theorem filter_placedRefsAll (name : Identifier) {outer : List Identifier} (hname : name ∉ outer) :
    ∀ parts : List SectionPart,
    ((placedRefsAll outer parts).filter (·.2.contains name)).map Prod.fst = refsInAll name parts
  | [] => rfl
  | first :: rest => by
    rw [placedRefsAll, refsInAll, List.filter_append, List.map_append,
      filter_placedRefs name hname first, filter_placedRefsAll name hname rest]

end

end SectionPart

namespace TestDefinition

variable (test : TestDefinition)

theorem map_fst_placedRefs : test.placedRefs.map Prod.fst = test.itemRefs := by
  rw [placedRefs, itemRefs, List.map_flatMap]
  congr 1
  funext s
  rw [SectionPart.map_fst_placedRefs]
  rfl

theorem mem_itemRefs_of_mem_placedRefs {test : TestDefinition}
    {placed : ItemRef × List Identifier} (h : placed ∈ test.placedRefs) :
    placed.1 ∈ test.itemRefs := by
  rw [← test.map_fst_placedRefs]
  exact List.mem_map_of_mem h

/-- A section is around a reference just if the reference stands in it, at whatever depth. -/
theorem filter_placedRefs (name : Identifier) :
    (test.placedRefs.filter (·.2.contains name)).map Prod.fst = test.refsIn name := by
  rw [placedRefs, refsIn, List.filter_flatMap, List.map_flatMap]
  congr 1
  funext s
  exact SectionPart.filter_placedRefs name List.not_mem_nil s.asPart

end TestDefinition

/-! ### Sections in trees -/

/-- The name of a section that a node stands for. -/
def PlanNodeKind.sectionName? : PlanNodeKind → Option Identifier
  | .sectionNode identifier => some identifier
  | _ => none

namespace PlanTree

mutual

/-- The places of the items of a tree, each with the sections around it from the inside out,
beginning with those around the tree. -/
def placed (outer : List Identifier) : PlanTree → List (ItemPlace × List Identifier)
  | node kind children =>
    (kind.place?.map fun place => (place, outer)).toList ++
      placedAll (kind.sectionName?.toList ++ outer) children

/-- The places of the items of several trees, each with the sections around it. -/
def placedAll (outer : List Identifier) : List PlanTree → List (ItemPlace × List Identifier)
  | [] => []
  | first :: rest => placed outer first ++ placedAll outer rest

end

theorem placedAll_map {α : Type} (outer : List Identifier) (tree : α → PlanTree)
    (members : List α) :
    placedAll outer (members.map tree) = members.flatMap fun a => (tree a).placed outer := by
  induction members with
  | nil => rfl
  | cons first rest ih => rw [List.map_cons, placedAll, ih, List.flatMap_cons]

end PlanTree

/-- The names at a place, with the sections around it. -/
def ItemPlace.namesIn (placed : ItemPlace × List Identifier) :
    (Identifier × Identifier) × List Identifier :=
  (placed.1.names, placed.2)

/-- The names of a reference, with the sections around it. -/
def ItemRef.namesIn (placed : ItemRef × List Identifier) :
    (Identifier × Identifier) × List Identifier :=
  (placed.1.names, placed.2)

namespace SectionPart

mutual

/-- The items of a tree stand in the sections in which they are referred to. -/
theorem placed_tree (control : EffectiveControl) (outer : List Identifier) : ∀ part : SectionPart,
    ((part.tree control).placed outer).map ItemPlace.namesIn =
      (part.placedRefs outer).map ItemRef.namesIn
  | nested _ parts => placed_trees _ _ parts
  | itemRef _ => rfl

theorem placed_trees (control : EffectiveControl) (outer : List Identifier) :
    ∀ parts : List SectionPart,
    (placedAll outer (trees control parts)).map ItemPlace.namesIn =
      (placedRefsAll outer parts).map ItemRef.namesIn
  | [] => rfl
  | first :: rest => by
    rw [trees, placedAll, placedRefsAll, List.map_append, List.map_append,
      placed_tree control outer first, placed_trees control outer rest]

end

end SectionPart

/-- The items of a part stand in the sections in which they are referred to. -/
theorem TestPart.placed_tree (part : TestPart) :
    (part.tree.placed []).map ItemPlace.namesIn =
      part.sections.flatMap fun s => (s.asPart.placedRefs []).map ItemRef.namesIn := by
  change (placedAll [] part.sectionTrees).map ItemPlace.namesIn = _
  rw [sectionTrees, placedAll_map, List.map_flatMap]
  congr 1
  funext s
  exact SectionPart.placed_tree _ [] s.asPart

theorem TestDefinition.placed_tree (test : TestDefinition) :
    (test.tree.placed []).map ItemPlace.namesIn = test.placedRefs.map ItemRef.namesIn := by
  change (placedAll [] (test.parts.map TestPart.tree)).map ItemPlace.namesIn = _
  rw [placedAll_map, List.map_flatMap, placedRefs, topSections, List.flatMap_assoc,
    List.map_flatMap]
  congr 1
  funext part
  rw [part.placed_tree, List.map_flatMap]

/-! ### Sections in plans -/

namespace TestPlan

variable {plan : TestPlan} {test : TestDefinition}

/-- The node at a position, if there is to be one, and all around it lie in the given sections. A
walk from the position on finds them if it may take enough steps. -/
def LiesIn (plan : TestPlan) (sections : List Identifier) : Option Nat → Prop
  | none => sections = []
  | some index => ∀ steps, index < steps →
    (plan.chainWithin steps index).filterMap (fun entry => sectionName? entry.2) = sections

theorem LiesIn.enclosingSections {outer : List Identifier} {parent : Option Nat} {index : Nat}
    (h : plan.LiesIn outer parent) (hparent : plan.parent? index = parent)
    (hsize : ∀ i, parent = some i → i < plan.size) :
    plan.enclosingSections index = outer := by
  rw [TestPlan.enclosingSections, hparent]
  cases parent with
  | none => exact h.symm
  | some i => exact h plan.size (hsize i rfl)

/-- A node lies in the sections that its parent lies in, and in itself if it is a section. -/
theorem LiesIn.node {outer : List Identifier} {parent : Option Nat} {index : Nat}
    {node : PlanNode} (h : plan.LiesIn outer parent) (hnode : plan.node? index = some node)
    (hparent : node.parent = parent) (hbefore : ∀ i, parent = some i → i < index) :
    plan.LiesIn (node.kind.sectionName?.toList ++ outer) (some index) := by
  intro steps hsteps
  obtain ⟨steps, rfl⟩ := Nat.exists_eq_add_one_of_ne_zero (Nat.ne_zero_of_lt hsteps)
  have hname : sectionName? node = node.kind.sectionName? := rfl
  rw [chainWithin, hnode]
  dsimp only
  rw [hparent, List.filterMap_cons, hname]
  cases parent with
  | none =>
    obtain rfl : outer = [] := h
    cases node.kind.sectionName? <;> rfl
  | some i =>
    have hi := hbefore i rfl
    dsimp only
    rw [h steps (by omega)]
    cases node.kind.sectionName? <;> rfl

-- A walk from a node on goes through nodes that stand before it, so that the sections around the
-- nodes of a tree are known from those around the node it is below.
mutual

/-- The items at the positions of a tree lie in the sections that the tree has around them. -/
theorem Draws.map_placed : ∀ {tree : PlanTree} {parent : Option Nat} {index : Nat}
    {outer : List Identifier}, plan.Draws parent index tree → plan.LiesIn outer parent →
    (∀ i, parent = some i → i < index) →
    ((List.range' index tree.size).filter plan.isItemAt).map
        (fun i => (plan.place i, plan.enclosingSections i)) =
      (tree.placed outer).map fun placed => (.ok placed.1, placed.2)
  | .node kind children, parent, index, outer, h, houter, hbefore => by
    obtain ⟨hnode, hchildren⟩ := h
    have hindex : index < plan.size := (Array.getElem?_eq_some_iff.1 hnode).1
    have hsections : plan.enclosingSections index = outer := by
      refine houter.enclosingSections ?_ fun i hi => Nat.lt_trans (hbefore i hi) hindex
      rw [parent?, hnode]
      rfl
    have hbelow := hchildren.map_placed (houter.node hnode rfl hbefore) index.lt_succ_self
    rw [PlanTree.size, placed, List.range'_succ, List.filter_cons, isItemAt_eq hnode,
      List.map_append, ← hbelow]
    cases hplace : kind.place? with
    | none => rfl
    | some place =>
      have hok : plan.place index = .ok place := place_eq_ok_iff.2 ⟨_, hnode, hplace⟩
      simp [hok, hsections]

theorem DrawsAll.map_placed : ∀ {trees : List PlanTree} {parent index : Nat}
    {outer : List Identifier}, plan.DrawsAll parent index trees →
    plan.LiesIn outer (some parent) → parent < index →
    ((List.range' index (sizeAll trees)).filter plan.isItemAt).map
        (fun i => (plan.place i, plan.enclosingSections i)) =
      (placedAll outer trees).map fun placed => (.ok placed.1, placed.2)
  | [], _, _, _, _, _, _ => rfl
  | first :: rest, parent, index, outer, h, houter, hbefore => by
    obtain ⟨hfirst, hrest⟩ := h
    rw [sizeAll, placedAll, ← List.range'_append_1, List.filter_append, List.map_append,
      List.map_append, hfirst.map_placed houter fun i hi => Option.some.inj hi ▸ hbefore,
      hrest.map_placed houter (by omega)]

end

/-- The items of a plan are those that the test refers to, in order, and each has the sections
around it in which the reference to it is written. -/
theorem map_sections_items (h : build test = .ok plan) :
    plan.items.map (fun i => ((plan.place i).map ItemPlace.names, plan.enclosingSections i)) =
      test.placedRefs.map fun placed => (.ok placed.1.names, placed.2) := by
  obtain ⟨hdraws, hsize⟩ := draws_of_build h
  have houter : plan.LiesIn [] none := rfl
  have hplaced := hdraws.map_placed houter nofun
  rw [items, hdraws.itemsUnder_eq (Nat.le_of_eq hsize.symm)]
  have hnames := congrArg (List.map fun entry : Except LogicError ItemPlace × List Identifier =>
    (entry.1.map ItemPlace.names, entry.2)) hplaced
  have htest := congrArg (List.map fun entry : (Identifier × Identifier) × List Identifier =>
    ((.ok entry.1 : Except LogicError (Identifier × Identifier)), entry.2)) test.placed_tree
  rw [List.map_map, List.map_map] at hnames htest
  exact hnames.trans htest

end TestPlan

end Assessment
