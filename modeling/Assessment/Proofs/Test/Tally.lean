import Assessment.Evaluation.Basic
import Assessment.Proofs.Plan.Sections
import Assessment.Proofs.Related
import Assessment.Proofs.Test.Creation
import Assessment.Proofs.Test.Simulation
import Assessment.Test.View

/-!
# Counting the items of a test

Expressions over the items of a test are computed from a list of the items with their sessions. In a
session that lacks nothing this list has one item for every reference of the test, in the order in
which they are written, and each has the sections around it in which the reference is written.

A test counts the items of a subset that were presented or answered, or that are answered correctly
or not. An answer is only given to an item that was presented, so that the counts are in order.
Subsets are split by categories and by sections, and so are the counts.

## Main definitions

- `TestItem.StandsFor`: an item with its session is what a reference stands for.
- `TestState.IsTally`: the numbers that a session counts, and how they go together.

## Main results

- `TestDelivery.Furnished.exists_testItems`: the items of a session that lacks nothing stand for the
  references of the test.
- `TestDelivery.Reachable.exists_isTally`: in all sessions that requests lead to, the counts go
  together.
-/

namespace Assessment

/-! ### The items of a session -/

/-- An item with its session is what a reference stands for in a test session, in the sections
around the reference. -/
structure TestItem.StandsFor (test : TestDefinition) (state : TestState) (item : TestItem)
    (placed : ItemRef × List Identifier) : Prop where
  /-- The item stands at the reference. -/
  ref : item.ref = placed.1
  /-- It has the sections of the reference around it. -/
  sections : item.sections = placed.2
  /-- It is the item that the reference names. -/
  definition : test.item? placed.1.item = some item.definition
  /-- Its session is the one under the name of the reference. -/
  session : state.items.get? placed.1.identifier = some item.state

namespace TestState

variable {test : TestDefinition} {state : TestState}

/-- A node of the plan stands for the item that a reference names, if both have one name. -/
theorem exists_itemAt (hdistinct : (test.itemRefs.map ItemRef.identifier).Nodup) {index : Nat}
    {placed : ItemRef × List Identifier} {definition : ItemDefinition} {session : ItemState}
    (hplaced : placed.1 ∈ test.itemRefs)
    (hnode : ((state.plan.place index).map ItemPlace.names, state.plan.enclosingSections index) =
      (.ok placed.1.names, placed.2))
    (hdefinition : test.item? placed.1.item = some definition)
    (hsession : state.items.get? placed.1.identifier = some session) :
    ∃ item, state.itemAt test index = .ok (some item) ∧ item.StandsFor test state placed := by
  obtain ⟨ref, sections⟩ := placed
  obtain ⟨hnames, rfl⟩ := Prod.mk.inj hnode
  dsimp only at hplaced hdefinition hsession
  obtain ⟨place, hplace, hnames⟩ : ∃ place, state.plan.place index = .ok place ∧
      place.names = ref.names := by
    cases hplace : state.plan.place index with
    | error error =>
      rw [hplace] at hnames
      cases hnames
    | ok place =>
      rw [hplace] at hnames
      exact ⟨place, rfl, Except.ok.inj hnames⟩
  obtain ⟨node, hnode, -⟩ := TestPlan.place_eq_ok_iff.1 hplace
  have hname := TestPlan.identifier?_of_place hplace
  rw [hnode, show place.ref = ref.identifier from congrArg Prod.fst hnames] at hname
  change node.identifier? = some ref.identifier at hname
  have href : test.itemRef? ref.identifier = some ref := find?_name_of_mem hdistinct hplaced
  refine ⟨⟨ref, definition, session, state.plan.enclosingSections index⟩, ?_,
    ⟨rfl, rfl, hdefinition, hsession⟩⟩
  simp only [itemAt, TestPlan.node, hnode, bind, Except.bind, hname, href, hdefinition, hsession]
  rfl

/-- Aggregates look at the items of the session. -/
theorem aggregated_view {items : List TestItem} (h : state.testItems test = .ok items)
    (operation : String) : aggregated (state.view test) operation = pure items := by
  have hview : (state.view test).items operation = .ok items := h
  rw [aggregated, hview]

end TestState

/-- The items of a session that lacks nothing stand for the references of the test, in order. -/
theorem TestDelivery.Furnished.exists_testItems {delivery : TestDelivery} {state : TestState}
    (h : delivery.Furnished state)
    (hdistinct : (delivery.definition.itemRefs.map ItemRef.identifier).Nodup) :
    ∃ items, state.testItems delivery.definition = .ok items ∧
      List.Forall₂ (TestItem.StandsFor delivery.definition state) items
        delivery.definition.placedRefs := by
  have hnodes := TestPlan.map_sections_items h.plan
  rw [← List.forall₂_eq_eq_eq, List.forall₂_map_left_iff, List.forall₂_map_right_iff] at hnodes
  obtain ⟨found, hfound, hstands⟩ :
      ∃ found, state.plan.items.mapM (state.itemAt delivery.definition) = .ok found ∧
        List.Forall₂ (fun found placed => ∃ item, found = some item ∧
          item.StandsFor delivery.definition state placed) found delivery.definition.placedRefs :=
    exists_mapM_of_forall₂ hnodes fun index placed hmem hnode => by
      have hplaced := TestDefinition.mem_itemRefs_of_mem_placedRefs hmem
      obtain ⟨definition, session, hdefinition, hsession, -⟩ := h.items placed.1 hplaced
      obtain ⟨item, hitem, hstands⟩ :=
        TestState.exists_itemAt hdistinct hplaced hnode hdefinition hsession
      exact ⟨some item, hitem, item, rfl, hstands⟩
  refine ⟨found.filterMap id, ?_, forall₂_filterMap_id hstands⟩
  rw [TestState.testItems, hfound]
  rfl

/-! ### Splitting a list -/

section split

variable {α : Type} (members : List α)

/-- Members have a property with another one or without it. -/
theorem countP_and_add_countP_and_not (p q : α → Bool) :
    members.countP (fun a => p a && q a) + members.countP (fun a => p a && !q a) =
      members.countP p := by
  rw [List.countP_eq_countP_filter_add members p q, List.countP_filter, List.countP_filter]

theorem countP_filter_and_add (p q r : α → Bool) :
    (members.filter fun a => q a && r a).countP p + (members.filter fun a => q a && !r a).countP p =
      (members.filter q).countP p := by
  refine Eq.trans ?_ (List.countP_filter.trans
    (countP_and_add_countP_and_not members (fun a => p a && q a) r).symm).symm
  simp only [List.countP_filter, Bool.and_assoc]

end split

/-! ### Subsets -/

namespace ItemSubset

variable (subset : ItemSubset) (item : TestItem)

/-- Of the items of a subset that names no category, those of a category are the ones that the
subset with this category has. -/
theorem accepts_including (h : subset.including = []) (category : Identifier) :
    accepts { subset with including := [category] } item =
      (subset.accepts item && item.ref.categories.contains category) := by
  simp only [accepts, acceptsCategories, h, List.any_cons, List.any_nil, List.isEmpty_cons,
    List.isEmpty_nil, Bool.false_or, Bool.or_false, Bool.true_and]
  cases item.ref.categories.contains category <;> simp

/-- Those of other categories are the ones that the subset without this category has. -/
theorem accepts_excluding (category : Identifier) :
    accepts { subset with excluding := category :: subset.excluding } item =
      (subset.accepts item && !item.ref.categories.contains category) := by
  simp only [accepts, acceptsCategories, List.any_cons, Bool.not_or]
  cases item.ref.categories.contains category <;> simp

end ItemSubset

/-! ### Counts of a session -/

namespace TestState

/-- In a session of a test, `tally` is what the expressions that count items come to. The counts of
a subset go together, and so do those of a subset and of its parts. -/
structure IsTally (test : TestDefinition) (state : TestState)
    (tally : ItemCount → ItemSubset → Nat) : Prop where
  /-- Expressions that count items have these numbers as values. They report nothing and draw no
  random numbers. -/
  tryEvaluate : ∀ (engine : Engine) (count : ItemCount) (subset : ItemSubset)
    (environment : Environment),
    ((Expression.countItems count subset).tryEvaluate engine (state.view test)).run.run
        environment =
      (.ok (.integer (.ofNat (tally count subset))), environment)
  /-- No more items are counted than the test refers to. -/
  le_length : ∀ count subset, tally count subset ≤ test.itemRefs.length
  /-- Unless these are more than words can count, the values are the numbers themselves. -/
  toInt : test.itemRefs.length ≤ Word.greatest → ∀ count subset,
    (Int64.ofNat (tally count subset)).toInt = tally count subset
  /-- Items that were answered are answered correctly, or they are not. -/
  correct_add_incorrect : ∀ subset,
    tally .correct subset + tally .incorrect subset = tally .responded subset
  /-- Items that were answered were presented. -/
  responded_le_presented : ∀ subset, tally .responded subset ≤ tally .presented subset
  /-- Items that were presented are there. -/
  presented_le_selected : ∀ subset, tally .presented subset ≤ tally .selected subset
  /-- Where no category is named, items are of a category, or they are not. -/
  category : ∀ (count : ItemCount) (subset : ItemSubset) (category : Identifier),
    subset.including = [] →
    tally count { subset with including := [category] } +
      tally count { subset with excluding := category :: subset.excluding } = tally count subset
  /-- The items in a section are those that are referred to inside it, at whatever depth. -/
  selected_within : ∀ name, tally .selected ⟨some name, [], []⟩ = (test.refsIn name).length
  /-- This is so as well for the items of some categories. -/
  selected_within_categories : ∀ (subset : ItemSubset) (name : Identifier),
    subset.within = some name →
    tally .selected subset =
      (test.refsIn name).countP fun ref => subset.acceptsCategories ref.categories

variable {test : TestDefinition} {state : TestState} {items : List TestItem}

/-- The items in a section are those that are referred to inside it. -/
theorem countP_selected
    (hitems : List.Forall₂ (TestItem.StandsFor test state) items test.placedRefs)
    {subset : ItemSubset} {name : Identifier} (hwithin : subset.within = some name) :
    (items.filter subset.accepts).countP (fun item => ItemCount.selected.holds item) =
      (test.refsIn name).countP fun ref => subset.acceptsCategories ref.categories := by
  have hplaced : items.countP subset.accepts = test.placedRefs.countP fun placed =>
      subset.acceptsCategories placed.1.categories && placed.2.contains name :=
    (countP_eq_of_forall₂ hitems fun item placed hitem => by
      rw [ItemSubset.accepts, hwithin, hitem.ref, hitem.sections, Bool.and_comm]).symm
  have hall : ∀ item ∈ items.filter subset.accepts, ItemCount.selected.holds item = true :=
    fun _ _ => rfl
  rw [List.countP_eq_length.2 hall, ← List.countP_eq_length_filter, hplaced,
    ← test.filter_placedRefs, List.countP_map, List.countP_filter]
  rfl

/-- The counts go together where the items are those of the references, and those that were answered
were presented. -/
theorem isTally (htestItems : state.testItems test = .ok items)
    (hitems : List.Forall₂ (TestItem.StandsFor test state) items test.placedRefs)
    (hpresented : ∀ item ∈ items, item.state.responded = true → item.state.isPresented = true) :
    state.IsTally test fun count subset =>
      (items.filter subset.accepts).countP fun item => count.holds item := by
  have hlength : ∀ (count : ItemCount) (subset : ItemSubset),
      ((items.filter subset.accepts).countP fun item => count.holds item) ≤
        test.itemRefs.length := fun count subset => by
    rw [← test.map_fst_placedRefs, List.length_map, ← hitems.length_eq]
    exact Nat.le_trans List.countP_le_length (List.length_filter_le _ _)
  refine
    { tryEvaluate := fun engine count subset environment => ?tryEvaluate
      le_length := hlength
      toInt := fun hfits count subset => ?toInt
      correct_add_incorrect := fun subset => countP_and_add_countP_and_not _ _ _
      responded_le_presented := fun subset => List.countP_mono_left fun item hitem hresponded =>
        hpresented item (List.mem_filter.1 hitem).1 hresponded
      presented_le_selected := fun subset => List.countP_mono_left fun _ _ _ => rfl
      category := fun count subset category hincluding => ?category
      selected_within := fun name => ?within
      selected_within_categories := fun subset name => countP_selected hitems }
  case tryEvaluate =>
    change (aggregated (state.view test) count.name >>= fun items =>
      pure (countItems count subset items)).run.run environment = _
    rw [aggregated_view htestItems]
    rfl
  case toInt =>
    have hle := hlength count subset
    unfold Word.greatest at hfits
    exact Int64.toInt_ofNat_of_lt (by omega)
  case category =>
    rw [funext fun item => subset.accepts_including item hincluding category,
      funext fun item => subset.accepts_excluding item category]
    exact countP_filter_and_add items _ _ _
  case within =>
    rw [countP_selected hitems rfl]
    exact List.countP_eq_length.2 fun _ _ => rfl

end TestState

namespace TestDelivery

variable {delivery : TestDelivery} {state : TestState} {seed : UInt64}

/-- In all sessions that requests lead to, correct and incorrect answers together are all answers,
of which there are no more than items that were presented, and of these no more than items. The
items with a category and those without make up all items, and those in a section are the ones that
are referred to inside it. -/
theorem Reachable.exists_isTally
    (hdistinct : (delivery.definition.itemRefs.map ItemRef.identifier).Nodup)
    (h : delivery.Reachable seed state) : ∃ tally, state.IsTally delivery.definition tally := by
  obtain ⟨items, htestItems, hitems⟩ := (h.attains.furnished hdistinct).exists_testItems hdistinct
  refine ⟨_, TestState.isTally htestItems hitems fun item hitem => ?_⟩
  obtain ⟨placed, hplaced, hstands⟩ := exists_mem_of_forall₂ hitems hitem
  obtain ⟨k, hk⟩ :=
    List.getElem?_of_mem (TestDefinition.mem_itemRefs_of_mem_placedRefs hplaced)
  obtain ⟨_, _, session, -, -, hsession, hreachable, -⟩ := h.exists_item_session hdistinct hk
  obtain rfl := Option.some.inj (hsession.symm.trans hstands.session)
  exact hreachable.isPresented_of_responded

/-- The counts go together in a session of two items that were presented, of which one was
answered. -/
theorem exists_isTally_pair :
    ((pair ⟨some 1, none, none⟩ []).definition.itemRefs.map ItemRef.identifier).Nodup ∧
      ∃ state tally, (pair ⟨some 1, none, none⟩ []).Reachable 0 state ∧
        (state.testItems (pair ⟨some 1, none, none⟩ []).definition).toOption.map (fun items =>
          [.responded, .presented, .selected].map fun count =>
            (countItems count .all items).word?) = some [some 1, some 2, some 2] ∧
        state.IsTally (pair ⟨some 1, none, none⟩ []).definition tally := by
  have hsession : ((pair ⟨some 1, none, none⟩ []).sessionAfter 0
      [.enterTest (.logical 0), .enterPart (.unixMillis 0), .advance (.logical 0),
        .respond (.unixMillis 0) .empty, .advance (.logical 0)]).any (fun state =>
      (state.testItems (pair ⟨some 1, none, none⟩ []).definition).toOption.map (fun items =>
        [.responded, .presented, .selected].map fun count =>
          (countItems count .all items).word?) = some [some 1, some 2, some 2]) = true := by
    decide +kernel
  have hdistinct :
      ((pair ⟨some 1, none, none⟩ []).definition.itemRefs.map ItemRef.identifier).Nodup := by
    decide +kernel
  obtain ⟨state, hstate, hcounts⟩ := (Option.any_eq_true _ _).1 hsession
  have hreachable := reachable_of_sessionAfter hstate
  obtain ⟨tally, htally⟩ := Reachable.exists_isTally hdistinct hreachable
  exact ⟨hdistinct, state, tally, hreachable, of_decide_eq_true hcounts, htally⟩

end TestDelivery

end Assessment
