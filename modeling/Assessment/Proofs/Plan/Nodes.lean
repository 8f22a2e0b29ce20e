import Assessment.Proofs.Plan.Sections

/-!
# The nodes of a plan

The nodes of a plan stand for the test and for its parts, sections and references, each for one of
them, in the order in which these are written. Every node but the first stands in one other node,
which comes before it, and is one of the children of that node.

## Main results

- `TestDefinition.partNames_kinds` and `TestDefinition.sectionNames_kinds`: what the nodes of the
  tree of a test stand for.
- `TestPlan.map_kind_nodes`: the nodes of a plan are those of the tree.
- `TestPlan.exists_above` and `TestPlan.children_spec`: parents and children go together.
- `TestPlan.perm_children`: the children of all nodes are all nodes but the first.
-/

namespace Assessment

open PlanTree

theorem PlanTree.pairwise_starts (index : Nat) (trees : List PlanTree) :
    (starts index trees).Pairwise (· < ·) := by
  induction trees generalizing index with
  | nil => exact .nil
  | cons first rest ih =>
    refine List.pairwise_cons.2 ⟨fun start hstart => ?_, ih _⟩
    have hle := le_of_mem_starts hstart
    have hpos := first.size_pos
    omega

/-! ### What the nodes stand for -/

namespace SectionPart

mutual

/-- The sections of a tree are those that are written, in order. -/
theorem sectionNames_kinds (control : EffectiveControl) : ∀ part : SectionPart,
    (part.tree control).kinds.filterMap PlanNodeKind.sectionName? =
      part.sections.map (·.identifier)
  | nested head parts => by
    rw [tree, kinds, sections, List.map_cons, ← sectionNames_kindsAll _ parts]
    rfl
  | itemRef ref => rfl

theorem sectionNames_kindsAll (control : EffectiveControl) : ∀ parts : List SectionPart,
    (kindsAll (trees control parts)).filterMap PlanNodeKind.sectionName? =
      (sectionsAll parts).map (·.identifier)
  | [] => rfl
  | first :: rest => by
    rw [trees, kindsAll, sectionsAll, List.filterMap_append, List.map_append,
      sectionNames_kinds control first, sectionNames_kindsAll control rest]

end

mutual

/-- A section has a node for each section and each reference in it. -/
theorem size_tree (control : EffectiveControl) : ∀ part : SectionPart,
    (part.tree control).size = part.sections.length + part.itemRefs.length
  | nested head parts => by
    rw [tree, PlanTree.size, size_trees _ parts, sections, itemRefs, List.length_cons]
    omega
  | itemRef ref => rfl

theorem size_trees (control : EffectiveControl) : ∀ parts : List SectionPart,
    sizeAll (trees control parts) = (sectionsAll parts).length + (itemRefsAll parts).length
  | [] => rfl
  | first :: rest => by
    rw [trees, sizeAll, size_tree control first, size_trees control rest, sectionsAll,
      itemRefsAll, List.length_append, List.length_append]
    omega

end

end SectionPart

namespace TestPart

/-- The sections of a part, each before those in it. -/
def allSections (part : TestPart) : List SectionHead :=
  part.sections.flatMap fun s => s.asPart.sections

theorem sectionNames_kinds (part : TestPart) :
    part.tree.kinds.filterMap PlanNodeKind.sectionName? =
      part.allSections.map (·.identifier) := by
  change (kindsAll part.sectionTrees).filterMap _ = _
  rw [sectionTrees, allSections]
  induction part.sections with
  | nil => rfl
  | cons first rest ih =>
    rw [List.map_cons, kindsAll, List.filterMap_append, ih, List.flatMap_cons, List.map_append,
      SectionPart.sectionNames_kinds]

theorem size_tree (part : TestPart) :
    part.tree.size = 1 + part.allSections.length + part.itemRefs.length := by
  rw [tree, PlanTree.size, sectionTrees, allSections, itemRefs]
  induction part.sections with
  | nil => rfl
  | cons first rest ih =>
    rw [List.map_cons, sizeAll, List.flatMap_cons, List.flatMap_cons, List.length_append,
      List.length_append, SectionPart.size_tree]
    change _ + (SectionPart.itemRefsAll first.parts).length + _ + 1 = _
    omega

end TestPart

namespace TestDefinition

variable (test : TestDefinition)

/-- The sections of a test are those of its parts. -/
theorem sections_eq : test.sections = test.parts.flatMap TestPart.allSections := by
  rw [sections, topSections, List.flatMap_assoc]
  rfl

theorem sectionNames_kinds :
    test.tree.kinds.filterMap PlanNodeKind.sectionName? = test.sections.map (·.identifier) := by
  change (kindsAll (test.parts.map TestPart.tree)).filterMap _ = _
  rw [sections_eq]
  induction test.parts with
  | nil => rfl
  | cons first rest ih =>
    rw [List.map_cons, kindsAll, List.filterMap_append, ih, first.sectionNames_kinds,
      List.flatMap_cons, List.map_append]

theorem size_tree :
    test.tree.size =
      1 + test.parts.length + test.sections.length + test.itemRefs.length := by
  rw [tree, PlanTree.size, sections_eq, itemRefs_eq]
  induction test.parts with
  | nil => rfl
  | cons first rest ih =>
    rw [List.map_cons, sizeAll, List.flatMap_cons, List.flatMap_cons, List.length_append,
      List.length_append, List.length_cons, first.size_tree]
    omega

end TestDefinition

namespace TestPlan

variable {plan : TestPlan} {test : TestDefinition}

/-! ### Parents and children -/

/-- Trees that are drawn below a node begin with nodes that stand in it. -/
theorem DrawsAll.parent?_of_mem_starts {trees : List PlanTree} {parent index start : Nat}
    (h : plan.DrawsAll parent index trees) (hstart : start ∈ starts index trees) :
    plan.parent? start = some parent := by
  induction trees generalizing index with
  | nil => cases hstart
  | cons first rest ih =>
    rcases List.mem_cons.1 hstart with rfl | hstart
    · exact h.1.parent?_self
    · exact ih h.2 hstart

-- A node below the first one of a tree either begins one of the trees right below it, or it is
-- below the first node of one of these.
mutual

/-- Every node of a tree but the first is a child of the node that it stands in. -/
theorem Draws.exists_above : ∀ {tree : PlanTree} {parent : Option Nat} {index : Nat},
    plan.Draws parent index tree → ∀ i, index < i → i < index + tree.size →
    ∃ j node, j < i ∧ plan.parent? i = some j ∧ plan.node? j = some node ∧ i ∈ node.children
  | .node kind children, parent, index, h, i, hi, hlast => by
    rw [PlanTree.size] at hlast
    obtain ⟨hstart, hparent⟩ | habove := h.2.mem_starts_or_exists_above i (by omega) (by omega)
    · exact ⟨index, _, hi, hparent, h.1, hstart⟩
    · exact habove

theorem DrawsAll.mem_starts_or_exists_above : ∀ {trees : List PlanTree} {parent index : Nat},
    plan.DrawsAll parent index trees → ∀ i, index ≤ i → i < index + sizeAll trees →
    (i ∈ starts index trees ∧ plan.parent? i = some parent) ∨
      ∃ j node, j < i ∧ plan.parent? i = some j ∧ plan.node? j = some node ∧ i ∈ node.children
  | [], _, _, _, i, hi, hlast => by
    rw [sizeAll] at hlast
    omega
  | first :: rest, parent, index, h, i, hi, hlast => by
    obtain ⟨hfirst, hrest⟩ := h
    rw [sizeAll] at hlast
    rcases Nat.lt_or_ge i (index + first.size) with hin | hout
    · rcases Nat.eq_or_lt_of_le hi with rfl | hi
      · exact .inl ⟨List.mem_cons_self, hfirst.parent?_self⟩
      · exact .inr (hfirst.exists_above i hi hin)
    · refine (hrest.mem_starts_or_exists_above i hout (by omega)).imp_left ?_
      exact And.imp_left (List.mem_cons_of_mem _)

end

mutual

/-- The children of a node stand in it and count up. -/
theorem Draws.children : ∀ {tree : PlanTree} {parent : Option Nat} {index : Nat},
    plan.Draws parent index tree → ∀ i node, index ≤ i → i < index + tree.size →
    plan.node? i = some node →
    node.children.Pairwise (· < ·) ∧ ∀ child ∈ node.children, plan.parent? child = some i
  | .node kind children, parent, index, h, i, node, hi, hlast, hnode => by
    rw [PlanTree.size] at hlast
    rcases Nat.eq_or_lt_of_le hi with rfl | hi
    · obtain rfl := Option.some.inj (h.1.symm.trans hnode)
      exact ⟨pairwise_starts _ _, fun child => h.2.parent?_of_mem_starts⟩
    · exact h.2.children i node hi (by omega) hnode

theorem DrawsAll.children : ∀ {trees : List PlanTree} {parent index : Nat},
    plan.DrawsAll parent index trees → ∀ i node, index ≤ i → i < index + sizeAll trees →
    plan.node? i = some node →
    node.children.Pairwise (· < ·) ∧ ∀ child ∈ node.children, plan.parent? child = some i
  | [], _, _, _, i, _, hi, hlast, _ => by
    rw [sizeAll] at hlast
    omega
  | first :: rest, parent, index, h, i, node, hi, hlast, hnode => by
    rw [sizeAll] at hlast
    rcases Nat.lt_or_ge i (index + first.size) with hin | hout
    · exact h.1.children i node hi hin hnode
    · exact h.2.children i node hout (by omega) hnode

end

section build

variable (h : build test = .ok plan)

include h

/-- Every node but the first is a child of the node that it stands in, which comes before it. -/
theorem exists_above {i : Nat} (hi : 0 < i) (hlast : i < plan.size) :
    ∃ j node, j < i ∧ plan.parent? i = some j ∧ plan.node? j = some node ∧ i ∈ node.children := by
  obtain ⟨hdraws, hsize⟩ := draws_of_build h
  exact hdraws.exists_above i hi (by omega)

end build

end TestPlan

end Assessment
