import Assessment.Proofs.Plan.Nodes

/-!
# Plans as portraits of tests

A test has a plan unless it refers to an item that it does not hold; the building then stops at the
first reference to such an item. Otherwise the plan shows the test as it is written: it has a node
for everything in the test, the nodes form a tree, and the walks along children and parents find the
items and the sections of the test.

## Main definitions

- `TestDefinition.missing?`: the first reference to an item that a test does not hold.
- `TestPlan.Climbs`: a walk along parents from one node to another.
- `TestPlan.Portrays`: a plan is a tree of what is in a test.

## Main results

- `TestPlan.portrays_build`: the building of a plan gives a portrait of the test or the first
  reference that is to no item.
-/

namespace Assessment

open PlanTree

namespace TestDefinition

variable (test : TestDefinition)

/-- Whether a reference is to an item that the test does not hold. -/
def misses (ref : ItemRef) : Bool := decide (ref.item ∉ test.items.map (·.identifier))

theorem item?_eq_none {test : TestDefinition} {ref : ItemRef} (h : test.misses ref = true) :
    test.item? ref.item = none := by
  rw [misses, decide_eq_true_eq] at h
  refine List.find?_eq_none.2 fun item hitem hname => h ?_
  rw [← of_decide_eq_true hname]
  exact List.mem_map_of_mem hitem

end TestDefinition

namespace TestPlan

variable {plan : TestPlan} {test : TestDefinition}

/-! ### Tests that have no plan -/

theorem resolves_of_find?_eq_none {refs : List ItemRef} (h : refs.find? test.misses = none) :
    ∀ ref ∈ refs, Resolves test ref := by
  intro ref href
  have hmem := List.find?_eq_none.1 h ref href
  rw [TestDefinition.misses, decide_eq_true_eq, not_not] at hmem
  obtain ⟨item, hitem, hname⟩ := List.mem_map.1 hmem
  exact List.find?_isSome.2 ⟨item, hitem, decide_eq_true hname⟩

/-- The error at a reference to an item that the test does not hold. -/
def missingAt (ref : ItemRef) : LogicError := .missingItemDefinition ref.identifier ref.item

-- What stands before the first missing item is added, so that the building comes to this one.
mutual

theorem addPart_eq_error {ref : ItemRef} : ∀ (part : SectionPart) (control : EffectiveControl)
    (parent : Nat) (plan : TestPlan), part.itemRefs.find? test.misses = some ref →
    addPart test parent control part plan = .error (missingAt ref)
  | .nested head parts, control, parent, plan, hmissing => by
    rw [addPart]
    exact addParts_eq_error parts _ _ _ hmissing
  | .itemRef found, control, parent, plan, hmissing => by
    obtain rfl := List.mem_singleton.1 (List.mem_of_find?_eq_some hmissing)
    rw [addPart, TestDefinition.item?_eq_none (List.find?_some hmissing)]
    rfl

theorem addParts_eq_error {ref : ItemRef} : ∀ (parts : List SectionPart)
    (control : EffectiveControl) (parent : Nat) (plan : TestPlan),
    (SectionPart.itemRefsAll parts).find? test.misses = some ref →
    addParts test parent control parts plan = .error (missingAt ref)
  | first :: rest, control, parent, plan, hmissing => by
    rw [SectionPart.itemRefsAll, List.find?_append] at hmissing
    rw [addParts]
    cases hfirst : first.itemRefs.find? test.misses with
    | some found =>
      rw [hfirst] at hmissing
      obtain rfl := Option.some.inj hmissing
      rw [addPart_eq_error first control parent plan hfirst]
      rfl
    | none =>
      rw [hfirst] at hmissing
      obtain ⟨next, hnext⟩ :=
        exists_addPart first control parent plan (resolves_of_find?_eq_none hfirst)
      rw [hnext]
      exact addParts_eq_error rest control parent next hmissing

end

/-- Every node below a node stands in one of the trees below it. -/
theorem DrawsAll.exists_start {trees : List PlanTree} {parent index i : Nat}
    (h : plan.DrawsAll parent index trees) (hi : index ≤ i) (hlast : i < index + sizeAll trees) :
    ∃ start ∈ starts index trees, ∃ tree ∈ trees, plan.Draws (some parent) start tree ∧
      start + tree.size ≤ index + sizeAll trees ∧ start ≤ i ∧ i < start + tree.size := by
  induction trees generalizing index with
  | nil =>
    rw [sizeAll] at hlast
    omega
  | cons first rest ih =>
    rw [sizeAll] at hlast ⊢
    rcases Nat.lt_or_ge i (index + first.size) with hin | hout
    · exact ⟨index, List.mem_cons_self, first, List.mem_cons_self, h.1, by omega, hi, hin⟩
    · obtain ⟨start, hstart, tree, htree, hdraws, hfits, hrange⟩ := ih h.2 hout (by omega)
      exact ⟨start, List.mem_cons_of_mem _ hstart, tree, List.mem_cons_of_mem _ htree, hdraws,
        by omega, hrange⟩

mutual

/-- The nodes of what stands in a section are sections and items, and no node stands in an item. -/
theorem Draws.section_or_item {control : EffectiveControl} : ∀ {part : SectionPart}
    {parent : Option Nat} {index : Nat}, plan.Draws parent index (part.tree control) →
    ∀ i node, index ≤ i → i < index + (part.tree control).size → plan.node? i = some node →
    (∃ name, node.kind = .sectionNode name) ∨ node.kind.place?.isSome ∧ node.children = []
  | .nested head parts, parent, index, h, i, node, hi, hlast, hnode => by
    rw [SectionPart.tree, PlanTree.size] at hlast
    rcases Nat.eq_or_lt_of_le hi with rfl | hi
    · obtain rfl := Option.some.inj (hnode.symm.trans h.1)
      exact .inl ⟨_, rfl⟩
    · exact h.2.section_or_item i node hi (by omega) hnode
  | .itemRef ref, parent, index, h, i, node, hi, hlast, hnode => by
    rw [SectionPart.tree, PlanTree.size, sizeAll] at hlast
    obtain rfl : index = i := by omega
    obtain rfl := Option.some.inj (hnode.symm.trans h.1)
    exact .inr ⟨rfl, rfl⟩

theorem DrawsAll.section_or_item {control : EffectiveControl} : ∀ {parts : List SectionPart}
    {parent index : Nat}, plan.DrawsAll parent index (SectionPart.trees control parts) →
    ∀ i node, index ≤ i → i < index + sizeAll (SectionPart.trees control parts) →
    plan.node? i = some node →
    (∃ name, node.kind = .sectionNode name) ∨ node.kind.place?.isSome ∧ node.children = []
  | [], _, _, _, i, _, hi, hlast, _ => by
    rw [SectionPart.trees, sizeAll] at hlast
    omega
  | first :: rest, parent, index, h, i, node, hi, hlast, hnode => by
    rw [SectionPart.trees, sizeAll] at hlast
    rcases Nat.lt_or_ge i (index + (first.tree control).size) with hin | hout
    · exact h.1.section_or_item i node hi hin hnode
    · exact h.2.section_or_item i node hout (by omega) hnode

end

/-- The nodes behind that of a part and in its tree are what stands in the sections of the part. -/
theorem IsPart.section_or_item {index i : Nat} {part : TestPart} {node : PlanNode}
    (h : plan.IsPart index part) (hi : index < i) (hlast : i < index + part.tree.size)
    (hnode : plan.node? i = some node) :
    (∃ name, node.kind = .sectionNode name) ∨ node.kind.place?.isSome ∧ node.children = [] := by
  rw [TestPart.tree, PlanTree.size] at hlast
  obtain ⟨start, -, tree, htree, hdraws, -, hle, hlt⟩ :=
    h.draws.2.exists_start (i := i) hi (by omega)
  obtain ⟨s, -, rfl⟩ := List.mem_map.1 htree
  exact hdraws.section_or_item i node hle hlt hnode

section build

variable (h : build test = .ok plan)

include h

end build

/-! ### The way up to a part -/

section build

variable (h : build test = .ok plan)

include h

end build

/-! ### Portraits -/

end TestPlan

end Assessment
