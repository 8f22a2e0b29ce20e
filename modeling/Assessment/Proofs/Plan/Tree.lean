import Assessment.Test.Session

/-!
# Plans as trees

A plan lists the nodes of a tree in preorder: every node stands right before the nodes below it. For
a plan that draws a tree, the walks along parents and children come down to positions: what stands
under a node are the positions behind it, as many as its subtree has nodes.

## Main definitions

- `PlanTree`: the nodes of a plan with those below them.
- `TestPlan.Draws`: a plan holds the nodes of a tree from a position on.

## Main results

- `TestPlan.Draws.itemsUnder_eq`: the items under a node are those at the positions of its subtree.
- `TestPlan.Draws.map_place`: the items under a node are those of its subtree, in order.
- `TestPlan.Draws.partOf?_eq`: the part that a node stands in is the one whose subtree it is in.
-/

namespace Assessment

/-- A node of a plan with those that stand in it. -/
inductive PlanTree where
  /-- What a node stands for, and the nodes in it. -/
  | node (kind : PlanNodeKind) (children : List PlanTree)

namespace PlanTree

mutual

/-- The number of nodes of a tree. -/
def size : PlanTree → Nat
  | node _ children => sizeAll children + 1

/-- The number of nodes of several trees. -/
def sizeAll : List PlanTree → Nat
  | [] => 0
  | first :: rest => size first + sizeAll rest

end

mutual

/-- What the nodes of a tree stand for, each before those in it. -/
def kinds : PlanTree → List PlanNodeKind
  | node kind children => kind :: kindsAll children

/-- What the nodes of several trees stand for. -/
def kindsAll : List PlanTree → List PlanNodeKind
  | [] => []
  | first :: rest => kinds first ++ kindsAll rest

end

/-- The positions at which several trees begin when they are listed one after the other. -/
def starts (index : Nat) : List PlanTree → List Nat
  | [] => []
  | first :: rest => index :: starts (index + first.size) rest

theorem size_pos (tree : PlanTree) : 0 < tree.size := by
  cases tree
  rw [size]
  exact Nat.succ_pos _

@[simp]
theorem sizeAll_append (trees more : List PlanTree) :
    sizeAll (trees ++ more) = sizeAll trees + sizeAll more := by
  induction trees with
  | nil => simp [sizeAll]
  | cons first rest ih => simp [sizeAll, ih, Nat.add_assoc]

theorem starts_append (index : Nat) (trees more : List PlanTree) :
    starts index (trees ++ more) = starts index trees ++ starts (index + sizeAll trees) more := by
  induction trees generalizing index with
  | nil => simp [starts, sizeAll]
  | cons first rest ih => simp [starts, sizeAll, ih, Nat.add_assoc]

theorem le_of_mem_starts {index start : Nat} {trees : List PlanTree}
    (h : start ∈ starts index trees) : index ≤ start := by
  induction trees generalizing index with
  | nil => cases h
  | cons first rest ih =>
    rcases List.mem_cons.1 h with rfl | h
    · exact Nat.le_refl _
    · exact Nat.le_trans (Nat.le_add_right _ _) (ih h)

theorem nodup_starts (index : Nat) (trees : List PlanTree) : (starts index trees).Nodup := by
  induction trees generalizing index with
  | nil => exact .nil
  | cons first rest ih =>
    refine List.nodup_cons.2 ⟨fun h => ?_, ih _⟩
    have hle := le_of_mem_starts h
    have hpos := first.size_pos
    omega

end PlanTree

/-- The place of an item that a node stands for. -/
def PlanNodeKind.place? : PlanNodeKind → Option ItemPlace
  | .itemRef identifier item control => some ⟨identifier, item, control⟩
  | _ => none

/-- The places of the items of a tree, in order. -/
def PlanTree.places (tree : PlanTree) : List ItemPlace := tree.kinds.filterMap PlanNodeKind.place?

namespace TestPlan

open PlanTree

variable {plan other : TestPlan} {parent : Option Nat} {index outer : Nat} {tree : PlanTree}
  {trees : List PlanTree}

mutual

/-- A plan holds the nodes of a tree from a position on. -/
def Draws (plan : TestPlan) (parent : Option Nat) (index : Nat) : PlanTree → Prop
  | .node kind children =>
    plan.node? index = some ⟨kind, parent, starts (index + 1) children⟩ ∧
      DrawsAll plan index (index + 1) children

/-- A plan holds the nodes of several trees below a node, one after the other. -/
def DrawsAll (plan : TestPlan) (parent index : Nat) : List PlanTree → Prop
  | [] => True
  | first :: rest =>
    Draws plan (some parent) index first ∧ DrawsAll plan parent (index + first.size) rest

end

-- The proofs about what a plan draws follow the nesting of trees: a tree has its first node at a
-- position and the trees below it right behind, and each of several trees begins where the one
-- before ends.
mutual

/-- What a plan draws depends on the nodes at its positions only. -/
theorem Draws.congr : ∀ {tree : PlanTree} {parent : Option Nat} {index : Nat},
    plan.Draws parent index tree →
    (∀ i, index ≤ i → i < index + tree.size → other.node? i = plan.node? i) →
    other.Draws parent index tree
  | .node kind children, parent, index, h, hsame => by
    obtain ⟨hnode, hchildren⟩ := h
    rw [PlanTree.size] at hsame
    refine ⟨?_, DrawsAll.congr hchildren fun i hi hi' => hsame i (by omega) (by omega)⟩
    rw [hsame index (by omega) (by omega), hnode]

theorem DrawsAll.congr : ∀ {trees : List PlanTree} {parent index : Nat},
    plan.DrawsAll parent index trees →
    (∀ i, index ≤ i → i < index + sizeAll trees → other.node? i = plan.node? i) →
    other.DrawsAll parent index trees
  | [], _, _, _, _ => trivial
  | first :: rest, parent, index, h, hsame => by
    obtain ⟨hfirst, hrest⟩ := h
    rw [sizeAll] at hsame
    exact ⟨hfirst.congr fun i hi hi' => hsame i hi (by omega),
      hrest.congr fun i hi hi' => hsame i (by omega) (by omega)⟩

end

theorem drawsAll_append {parent index : Nat} (trees more : List PlanTree) :
    plan.DrawsAll parent index (trees ++ more) ↔
      plan.DrawsAll parent index trees ∧ plan.DrawsAll parent (index + sizeAll trees) more := by
  induction trees generalizing index with
  | nil => simp [DrawsAll, sizeAll]
  | cons first rest ih => simp [DrawsAll, sizeAll, ih, and_assoc, Nat.add_assoc]

/-! ### Kinds and parents -/

mutual

/-- The nodes at the positions of a tree stand for what the tree says. -/
theorem Draws.map_kind : ∀ {tree : PlanTree} {parent : Option Nat} {index : Nat},
    plan.Draws parent index tree →
    (List.range' index tree.size).map (fun i => (plan.node? i).map (·.kind)) =
      tree.kinds.map some
  | .node kind children, parent, index, h => by
    obtain ⟨hnode, hchildren⟩ := h
    rw [PlanTree.size, kinds, List.range'_succ, List.map_cons, List.map_cons, hchildren.map_kind,
      hnode]
    rfl

theorem DrawsAll.map_kind : ∀ {trees : List PlanTree} {parent index : Nat},
    plan.DrawsAll parent index trees →
    (List.range' index (sizeAll trees)).map (fun i => (plan.node? i).map (·.kind)) =
      (kindsAll trees).map some
  | [], _, _, _ => rfl
  | first :: rest, parent, index, h => by
    obtain ⟨hfirst, hrest⟩ := h
    rw [sizeAll, kindsAll, ← List.range'_append_1, List.map_append, List.map_append,
      hfirst.map_kind, hrest.map_kind]

end

/-- At each position of some trees is a node that stands for something in them. -/
theorem DrawsAll.exists_node {parent : Nat} (h : plan.DrawsAll parent index trees) {i : Nat}
    (hi : index ≤ i) (hlast : i < index + sizeAll trees) :
    ∃ node, plan.node? i = some node ∧ node.kind ∈ kindsAll trees := by
  have hmem : (plan.node? i).map (·.kind) ∈ (kindsAll trees).map some := by
    rw [← h.map_kind]
    exact List.mem_map_of_mem (List.mem_range'_1.2 ⟨hi, hlast⟩)
  obtain ⟨kind, hkind, heq⟩ := List.mem_map.1 hmem
  obtain ⟨node, hnode, rfl⟩ := Option.map_eq_some_iff.1 heq.symm
  exact ⟨node, hnode, hkind⟩

/-- The first node of a tree stands in the given one. -/
theorem Draws.parent?_self (h : plan.Draws parent index tree) : plan.parent? index = parent := by
  cases tree with
  | node kind children => rw [parent?, h.1]; rfl

mutual

/-- Every node of a tree but the first has its parent in the tree, at an earlier position. -/
theorem Draws.exists_parent : ∀ {tree : PlanTree} {parent : Option Nat} {index : Nat},
    plan.Draws parent index tree → ∀ i, index < i → i < index + tree.size →
    ∃ j, index ≤ j ∧ j < i ∧ plan.parent? i = some j
  | .node kind children, parent, index, h, i, hi, hi' => by
    rw [PlanTree.size] at hi'
    obtain ⟨j, hj, hji, hparent⟩ :=
      h.2.exists_parent (Nat.lt_succ_self index) i (by omega) (by omega)
    exact ⟨j, by omega, hji, hparent⟩

theorem DrawsAll.exists_parent : ∀ {trees : List PlanTree} {parent index : Nat},
    plan.DrawsAll parent index trees → parent < index →
    ∀ i, index ≤ i → i < index + sizeAll trees →
    ∃ j, (j = parent ∨ index ≤ j) ∧ j < i ∧ plan.parent? i = some j
  | [], _, _, _, _, i, hi, hi' => by
    rw [sizeAll] at hi'
    omega
  | first :: rest, parent, index, h, hlt, i, hi, hi' => by
    obtain ⟨hfirst, hrest⟩ := h
    rw [sizeAll] at hi'
    rcases Nat.lt_or_ge i (index + first.size) with hin | hout
    -- Only the first node of the first tree stands right below the given one.
    · rcases Nat.eq_or_lt_of_le hi with rfl | hi
      · exact ⟨parent, .inl rfl, hlt, hfirst.parent?_self⟩
      · obtain ⟨j, hj, hji, hparent⟩ := hfirst.exists_parent i hi hin
        exact ⟨j, .inr hj, hji, hparent⟩
    · obtain ⟨j, hj, hji, hparent⟩ := hrest.exists_parent (by omega) i hout (by omega)
      exact ⟨j, by omega, hji, hparent⟩

end

/-! ### Items under a node -/

/-- Whether the node at a position stands for an item. -/
def isItemAt (plan : TestPlan) (index : Nat) : Bool := (plan.node? index).any PlanNode.isItem

mutual

/-- The items under a node are those at the positions of its subtree. -/
theorem Draws.itemsWithin_eq : ∀ {tree : PlanTree} {parent : Option Nat} {index depth : Nat},
    plan.Draws parent index tree → tree.size ≤ depth →
    plan.itemsWithin depth index = (List.range' index tree.size).filter plan.isItemAt
  | .node kind children, parent, index, 0, _, hdepth => absurd hdepth (Nat.not_succ_le_zero _)
  | .node kind children, parent, index, depth + 1, h, hdepth => by
    obtain ⟨hnode, hchildren⟩ := h
    rw [PlanTree.size] at hdepth
    have hitem : plan.isItemAt index =
        PlanNode.isItem ⟨kind, parent, starts (index + 1) children⟩ := by
      rw [isItemAt, hnode, Option.any_some]
    rw [itemsWithin, hnode, PlanTree.size, List.range'_succ, List.filter_cons, hitem]
    simp only [hchildren.itemsWithin_eq (Nat.le_of_succ_le_succ hdepth)]
    split <;> rfl

theorem DrawsAll.itemsWithin_eq : ∀ {trees : List PlanTree} {parent index depth : Nat},
    plan.DrawsAll parent index trees → sizeAll trees ≤ depth →
    (starts index trees).flatMap (plan.itemsWithin depth) =
      (List.range' index (sizeAll trees)).filter plan.isItemAt
  | [], _, _, _, _, _ => rfl
  | first :: rest, parent, index, depth, h, hdepth => by
    obtain ⟨hfirst, hrest⟩ := h
    rw [sizeAll] at hdepth
    rw [starts, sizeAll, List.flatMap_cons, ← List.range'_append_1, List.filter_append,
      hfirst.itemsWithin_eq (by omega), hrest.itemsWithin_eq (by omega)]

end

/-- The items under a node are those at the positions of its subtree. -/
theorem Draws.itemsUnder_eq (h : plan.Draws parent index tree) (hfits : tree.size ≤ plan.size) :
    plan.itemsUnder index = (List.range' index tree.size).filter plan.isItemAt :=
  h.itemsWithin_eq hfits

theorem Draws.mem_itemsUnder (h : plan.Draws parent index tree) (hfits : tree.size ≤ plan.size)
    {i : Nat} :
    i ∈ plan.itemsUnder index ↔
      index ≤ i ∧ i < index + tree.size ∧ plan.isItemAt i = true := by
  rw [h.itemsUnder_eq hfits, List.mem_filter, List.mem_range'_1, and_assoc]

/-- No item is listed twice. -/
theorem Draws.nodup_itemsUnder (h : plan.Draws parent index tree) (hfits : tree.size ≤ plan.size) :
    (plan.itemsUnder index).Nodup := by
  rw [h.itemsUnder_eq hfits]
  exact List.Pairwise.filter _ List.nodup_range'

theorem place_eq {node : PlanNode} (h : plan.node? index = some node) :
    plan.place index =
      match node.kind.place? with
      | some place => .ok place
      | none => .error (.unknownPlanNode index) := by
  obtain ⟨kind, above, children⟩ := node
  rw [place, TestPlan.node, h]
  cases kind <;> rfl

theorem isItemAt_eq {node : PlanNode} (h : plan.node? index = some node) :
    plan.isItemAt index = node.kind.place?.isSome := by
  obtain ⟨kind, above, children⟩ := node
  rw [isItemAt, h]
  cases kind <;> rfl

/-- A node has a place if it stands for an item. -/
theorem place_eq_ok_iff {place : ItemPlace} :
    plan.place index = .ok place ↔
      ∃ node, plan.node? index = some node ∧ node.kind.place? = some place := by
  cases hnode : plan.node? index with
  | none =>
    have herror : plan.place index = .error (.unknownPlanNode index) := by
      rw [TestPlan.place, TestPlan.node, hnode]
      rfl
    simp [herror]
  | some node =>
    rw [place_eq hnode]
    cases hplace : node.kind.place? <;> simp [hplace]

theorem exists_place (h : plan.isItemAt index = true) : ∃ place, plan.place index = .ok place := by
  cases hnode : plan.node? index with
  | none => simp [isItemAt, hnode] at h
  | some node =>
    rw [isItemAt_eq hnode, Option.isSome_iff_exists] at h
    obtain ⟨place, hplace⟩ := h
    exact ⟨place, place_eq_ok_iff.2 ⟨node, hnode, hplace⟩⟩

theorem isItemAt_of_place {place : ItemPlace} (h : plan.place index = .ok place) :
    plan.isItemAt index = true := by
  obtain ⟨node, hnode, hplace⟩ := place_eq_ok_iff.1 h
  rw [isItemAt_eq hnode, hplace, Option.isSome_some]

/-- The items among nodes that stand for given things are at the places among these. -/
theorem map_place_filter {positions : List Nat} {kinds : List PlanNodeKind}
    (h : positions.map (fun i => (plan.node? i).map (·.kind)) = kinds.map some) :
    (positions.filter plan.isItemAt).map plan.place =
      (kinds.filterMap PlanNodeKind.place?).map .ok := by
  -- A node with a place is an item, so that both sides leave out the same nodes.
  induction positions generalizing kinds with
  | nil =>
    rw [List.map_nil, eq_comm, List.map_eq_nil_iff] at h
    rw [h]
    rfl
  | cons first rest ih =>
    cases kinds with
    | nil => cases h
    | cons kind kinds =>
      rw [List.map_cons, List.map_cons, List.cons.injEq, Option.map_eq_some_iff] at h
      obtain ⟨⟨node, hnode, rfl⟩, hrest⟩ := h
      rw [List.filter_cons, isItemAt_eq hnode, List.filterMap_cons]
      cases hplace : node.kind.place? with
      | none => exact ih hrest
      | some place =>
        have hfirst : plan.place first = .ok place := place_eq_ok_iff.2 ⟨node, hnode, hplace⟩
        rw [Option.isSome_some, if_pos rfl, List.map_cons, List.map_cons, hfirst, ih hrest]

/-- The items under a node are those of its subtree, in order. -/
theorem Draws.map_place (h : plan.Draws parent index tree) (hfits : tree.size ≤ plan.size) :
    (plan.itemsUnder index).map plan.place = tree.places.map .ok := by
  rw [h.itemsUnder_eq hfits]
  exact map_place_filter h.map_kind

/-! ### The part that a node stands in -/

/-- Walking up from a node inside the tree of a part, the first part that is met is that one. -/
theorem find?_chainWithin {part : PlanNode} (hnode : plan.node? index = some part)
    (hpart : part.isPart = true) {last : Nat}
    (hbelow : ∀ i, index < i → i < last →
      (∃ node, plan.node? i = some node ∧ node.isPart = false) ∧
        ∃ j, index ≤ j ∧ j < i ∧ plan.parent? i = some j)
    {i steps : Nat} (hi : index ≤ i) (hlast : i < last) (hsteps : i < steps) :
    ((plan.chainWithin steps i).find? (·.2.isPart)).map (·.1) = some index := by
  -- Every step goes to an earlier position, so that there are enough steps, and none leaves the
  -- positions from the part on.
  induction steps generalizing i with
  | zero => exact absurd hsteps (Nat.not_lt_zero i)
  | succ steps ih =>
    rcases Nat.eq_or_lt_of_le hi with rfl | hi
    · rw [chainWithin, hnode]
      dsimp only
      rw [List.find?_cons_of_pos (by exact hpart), Option.map_some]
    · obtain ⟨⟨node, hfound, hinner⟩, j, hj, hji, hparent⟩ := hbelow i hi hlast
      rw [parent?, hfound, Option.bind_eq_bind, Option.bind_some] at hparent
      rw [chainWithin, hfound]
      simp only [hparent]
      rw [List.find?_cons_of_neg (by simp [hinner])]
      exact ih hj (by omega) (by omega)

/-- The part that a node stands in is the one whose subtree it is in. -/
theorem Draws.partOf?_eq {name : Identifier} {children : List PlanTree}
    (h : plan.Draws parent index (.node (.testPart name) children))
    (hinner : ∀ kind ∈ kindsAll children, ∀ name, kind ≠ .testPart name)
    (hfits : index + (PlanTree.node (.testPart name) children).size ≤ plan.size) {i : Nat}
    (hi : index ≤ i) (hlast : i < index + (PlanTree.node (.testPart name) children).size) :
    plan.partOf? i = some index := by
  refine find?_chainWithin h.1 rfl (fun j hj hjlast => ?_) hi hlast (by omega)
  refine ⟨?_, h.exists_parent j hj hjlast⟩
  rw [PlanTree.size] at hjlast
  obtain ⟨node, hnode, hkind⟩ := h.2.exists_node (i := j) hj (by omega)
  refine ⟨node, hnode, ?_⟩
  cases hpart : node.kind <;> simp [PlanNode.isPart, hpart]
  exact hinner _ hkind _ hpart

end TestPlan

end Assessment
