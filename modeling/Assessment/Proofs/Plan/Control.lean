import Assessment.Proofs.Action
import Assessment.Proofs.Plan.Sections

/-!
# The control of the items of a plan

Control of item sessions may be written on a reference to an item, on each of the sections around it
and on the part that it stands in, and at each of these places for some of the fields only. An item
of a plan has for every field the innermost value that is written, whatever is written for the other
fields and wherever else in the test.

## Main definitions

- `WrittenRef`: a reference to an item with what is written around it.
- `WrittenRef.control`: the control that has the innermost values around a reference.
- `EffectiveControl.innermost`: the control that has the innermost values at some places.

## Main results

- `TestPlan.controls_items`: the items of a plan are under the control that is written around the
  references.
-/

namespace Assessment

open PlanTree

namespace EffectiveControl

/-- The control that has for every field the first value that is written at some places. -/
def innermost (places : List (Option ItemSessionControl)) : EffectiveControl where
  maxAttempts := (places.findSome? fun place => place.bind (·.maxAttempts)).getD default.maxAttempts
  allowSkipping :=
    (places.findSome? fun place => place.bind (·.allowSkipping)).getD default.allowSkipping
  validateResponses :=
    (places.findSome? fun place => place.bind (·.validateResponses)).getD
      default.validateResponses

/-- A value that is written further in goes before those that are written further out. -/
theorem getD_findSome?_cons {α β : Type} (field : α → Option β) (value : β) (place : Option α)
    (outer : List (Option α)) :
    ((place :: outer).findSome? fun place => place.bind field).getD value =
      (place.bind field).getD ((outer.findSome? fun place => place.bind field).getD value) := by
  rw [List.findSome?_cons]
  cases place.bind field <;> rfl

@[simp]
theorem innermost_nil : innermost [] = default := rfl

/-- Control is taken over field by field. -/
theorem innermost_cons (place : Option ItemSessionControl)
    (outer : List (Option ItemSessionControl)) :
    innermost (place :: outer) = (innermost outer).inherit place := by
  simp only [innermost, getD_findSome?_cons]
  cases place <;> rfl

end EffectiveControl

/-- A reference to an item with what is written around it. -/
structure WrittenRef where
  /-- The reference. -/
  ref : ItemRef
  /-- The heads of the sections around it, from the inside out. -/
  heads : List SectionHead
  /-- The part that it stands in. -/
  part : TestPart

namespace WrittenRef

/-- The innermost value that is written for a field: on the reference, or else on the nearest
section that has one, or else on the part. -/
def field? {α : Type} (written : WrittenRef) (field : ItemSessionControl → Option α) : Option α :=
  (written.ref.control.bind field).or
    ((written.heads.findSome? fun head => head.control.bind field).or
      (written.part.control.bind field))

/-- The control that has the innermost value for every field, or else the default. -/
def control (written : WrittenRef) : EffectiveControl where
  maxAttempts := (written.field? (·.maxAttempts)).getD EffectiveControl.default.maxAttempts
  allowSkipping := (written.field? (·.allowSkipping)).getD EffectiveControl.default.allowSkipping
  validateResponses :=
    (written.field? (·.validateResponses)).getD EffectiveControl.default.validateResponses

/-- What is written about the control of the session: on the reference, on the sections around it
from the inside out, and on the part. -/
def controls (written : WrittenRef) : List (Option ItemSessionControl) :=
  written.ref.control :: (written.heads.map (·.control) ++ [written.part.control])

theorem field?_eq {α : Type} (written : WrittenRef) (field : ItemSessionControl → Option α) :
    written.field? field = written.controls.findSome? fun place => place.bind field := by
  rw [field?, controls, List.findSome?_cons, List.findSome?_append, List.findSome?_map,
    List.findSome?_singleton]
  cases written.ref.control.bind field <;> rfl

theorem control_eq (written : WrittenRef) : written.control = .innermost written.controls := by
  simp only [control, field?_eq, EffectiveControl.innermost]

/-- The place that the reference has in a plan. -/
def place (written : WrittenRef) : ItemPlace :=
  ⟨written.ref.identifier, written.ref.item, written.control⟩

/-- The names of the sections around the reference. -/
def sections (written : WrittenRef) : List Identifier := written.heads.map (·.identifier)

end WrittenRef

namespace SectionPart

mutual

/-- The references to items in a part of a section, each with what is written around it. -/
def writtenRefs (part : TestPart) (outer : List SectionHead) : SectionPart → List WrittenRef
  | nested head parts => writtenRefsAll part (head :: outer) parts
  | itemRef ref => [⟨ref, outer, part⟩]

/-- The references in several parts of a section, each with what is written around it. -/
def writtenRefsAll (part : TestPart) (outer : List SectionHead) :
    List SectionPart → List WrittenRef
  | [] => []
  | first :: rest => writtenRefs part outer first ++ writtenRefsAll part outer rest

end

end SectionPart

/-- The references to items of a test, each with what is written around it. -/
def TestDefinition.writtenRefs (test : TestDefinition) : List WrittenRef :=
  test.parts.flatMap fun part => part.sections.flatMap fun s => s.asPart.writtenRefs part []

/-! ### References with what is around them -/

namespace SectionPart

variable (part : TestPart)

mutual

theorem map_ref_writtenRefs (outer : List SectionHead) : ∀ member : SectionPart,
    (member.writtenRefs part outer).map WrittenRef.ref = member.itemRefs
  | nested _ parts => map_ref_writtenRefsAll _ parts
  | itemRef _ => rfl

theorem map_ref_writtenRefsAll (outer : List SectionHead) : ∀ members : List SectionPart,
    (writtenRefsAll part outer members).map WrittenRef.ref = itemRefsAll members
  | [] => rfl
  | first :: rest => by
    rw [writtenRefsAll, List.map_append, map_ref_writtenRefs outer first,
      map_ref_writtenRefsAll outer rest, itemRefsAll]

end

/-- The control inside some sections of a part. -/
def controlIn (outer : List SectionHead) : EffectiveControl :=
  .innermost (outer.map (·.control) ++ [part.control])

-- On the way down to a reference the control is taken over from one section to the next, so that
-- at the reference it is the innermost of all that is around.
mutual

/-- The items of a tree are under the control that is written around the references. -/
theorem placed_tree_eq (outer : List SectionHead) : ∀ member : SectionPart,
    (member.tree (controlIn part outer)).placed (outer.map (·.identifier)) =
      (member.writtenRefs part outer).map fun written => (written.place, written.sections)
  | nested head parts => by
    have hinner : (controlIn part outer).inherit head.control = controlIn part (head :: outer) :=
      (EffectiveControl.innermost_cons _ _).symm
    rw [tree, hinner, writtenRefs, ← placed_trees_eq (head :: outer) parts]
    rfl
  | itemRef ref => by
    have hinner : (controlIn part outer).inherit ref.control =
        WrittenRef.control ⟨ref, outer, part⟩ := by
      rw [WrittenRef.control_eq]
      exact (EffectiveControl.innermost_cons _ _).symm
    rw [tree, hinner]
    rfl

theorem placed_trees_eq (outer : List SectionHead) : ∀ members : List SectionPart,
    placedAll (outer.map (·.identifier)) (trees (controlIn part outer) members) =
      (writtenRefsAll part outer members).map fun written => (written.place, written.sections)
  | [] => rfl
  | first :: rest => by
    rw [trees, placedAll, writtenRefsAll, List.map_append, placed_tree_eq outer first,
      placed_trees_eq outer rest]

end

end SectionPart

namespace TestDefinition

variable (test : TestDefinition)

theorem map_ref_writtenRefs : test.writtenRefs.map WrittenRef.ref = test.itemRefs := by
  rw [writtenRefs, itemRefs_eq, List.map_flatMap]
  congr 1
  funext part
  rw [List.map_flatMap, TestPart.itemRefs]
  congr 1
  funext s
  exact SectionPart.map_ref_writtenRefs part [] s.asPart

/-- The items of a test are under the control that is written around the references. -/
theorem placed_tree_eq :
    test.tree.placed [] =
      test.writtenRefs.map fun written => (written.place, written.sections) := by
  change placedAll [] (test.parts.map TestPart.tree) = _
  rw [placedAll_map, writtenRefs, List.map_flatMap]
  congr 1
  funext part
  change placedAll [] part.sectionTrees = _
  have hpart : EffectiveControl.default.inherit part.control = SectionPart.controlIn part [] := by
    rw [SectionPart.controlIn, List.map_nil, List.nil_append, EffectiveControl.innermost_cons,
      EffectiveControl.innermost_nil]
  rw [TestPart.sectionTrees, placedAll_map, List.map_flatMap, hpart]
  congr 1
  funext s
  exact SectionPart.placed_tree_eq part [] s.asPart

end TestDefinition

namespace TestPlan

variable {plan : TestPlan} {test : TestDefinition}

/-- The items of a plan are at the places of the references, in the sections around these. -/
theorem map_place_sections_items (h : build test = .ok plan) :
    plan.items.map (fun i => (plan.place i, plan.enclosingSections i)) =
      test.writtenRefs.map fun written => (.ok written.place, written.sections) := by
  obtain ⟨hdraws, hsize⟩ := draws_of_build h
  have houter : plan.LiesIn [] none := rfl
  have hfirst : ∀ i, none = some i → i < 0 := fun i h => absurd h (Option.some_ne_none i).symm
  rw [items, hdraws.itemsUnder_eq (Nat.le_of_eq hsize.symm), hdraws.map_placed houter hfirst,
    test.placed_tree_eq, List.map_map]
  rfl

theorem exists_place_of_written (h : build test = .ok plan) {k : Nat} {written : WrittenRef}
    (hk : test.writtenRefs[k]? = some written) :
    ∃ i, plan.items[k]? = some i ∧ plan.place i = .ok written.place := by
  have hat := congrArg (·[k]?) (map_place_sections_items h)
  simp only [List.getElem?_map, hk, Option.map_some, Option.map_eq_some_iff] at hat
  obtain ⟨i, hi, hplace⟩ := hat
  exact ⟨i, hi, congrArg Prod.fst hplace⟩

/-- The items of a plan are those that the test refers to, in order. Each is in the sections around
its reference, and under the control that has for every field the innermost value that is written
around the reference. What is written elsewhere is of no influence: wherever in two tests the same
is written around references, their items are under the same control. -/
theorem controls_items (h : build test = .ok plan) :
    test.writtenRefs.map WrittenRef.ref = test.itemRefs ∧
      plan.items.map (fun i => (plan.place i, plan.enclosingSections i)) =
        (test.writtenRefs.map fun written =>
          (.ok ⟨written.ref.identifier, written.ref.item, written.control⟩,
            written.heads.map (·.identifier))) ∧
      ∀ {other : TestDefinition} {otherPlan : TestPlan}, build other = .ok otherPlan →
        ∀ {k k' : Nat} {written written' : WrittenRef}, test.writtenRefs[k]? = some written →
          other.writtenRefs[k']? = some written' → written.controls = written'.controls →
          ∃ i i' place place', plan.items[k]? = some i ∧ otherPlan.items[k']? = some i' ∧
            plan.place i = .ok place ∧ otherPlan.place i' = .ok place' ∧
            place.control = place'.control := by
  refine ⟨test.map_ref_writtenRefs, map_place_sections_items h, ?_⟩
  intro other otherPlan hother k k' written written' hk hk' hcontrols
  obtain ⟨i, hi, hplace⟩ := exists_place_of_written h hk
  obtain ⟨i', hi', hplace'⟩ := exists_place_of_written hother hk'
  refine ⟨i, i', _, _, hi, hi', hplace, hplace', ?_⟩
  change written.control = written'.control
  rw [written.control_eq, written'.control_eq, hcontrols]

end TestPlan

/-- A test that writes control of sessions at several places, and at none of them all of it:
attempts on the part and on an inner section, skipping on the outer section, and validation on a
reference. What another section writes is up to choice. -/
def TestDefinition.controlledInPart (elsewhere : Option ItemSessionControl) : TestDefinition :=
  let item : ItemDefinition := .bare ⟨"PROBLEM", by decide +kernel⟩
  let ref (name : Identifier) (control : Option ItemSessionControl) : SectionPart :=
    .itemRef ⟨name, item.identifier, [], [], control, []⟩
  let inner : SectionPart :=
    .nested ⟨⟨"INNER", by decide +kernel⟩, "", true, some ⟨some 0, none, none⟩⟩
      [ref ⟨"INNER1", by decide +kernel⟩ (some ⟨none, none, some true⟩),
        ref ⟨"INNER2", by decide +kernel⟩ none]
  let outer : Section :=
    ⟨⟨⟨"OUTER", by decide +kernel⟩, "", true, some ⟨none, some false, none⟩⟩,
      [inner, ref ⟨"OUTER1", by decide +kernel⟩ none]⟩
  let other : Section :=
    ⟨⟨⟨"ASIDE", by decide +kernel⟩, "", true, elsewhere⟩, [ref ⟨"ASIDE1", by decide +kernel⟩ none]⟩
  { identifier := ⟨"CONTROLLED", by decide +kernel⟩
    title := ""
    outcomes := []
    outcomeProcessing := []
    parts := [⟨⟨"AROUND", by decide +kernel⟩, .linear, .individual, [], [],
      some ⟨some 3, none, none⟩, [outer, other]⟩]
    items := [item] }

namespace TestPlan

/-- The fields that are written at different places come together at the items. What is written on
the other section is only for the item in it. -/
theorem controls_items_nested :
    ∃ plan otherPlan, build (.controlledInPart (some ⟨some 9, some true, some true⟩)) = .ok plan ∧
      build (.controlledInPart none) = .ok otherPlan ∧
      plan.items.map (fun i => (plan.place i).toOption.map (·.control)) =
        [some ⟨0, false, true⟩, some ⟨0, false, false⟩, some ⟨3, false, false⟩,
          some ⟨9, true, true⟩] ∧
      ∃ i i' place place', plan.items[0]? = some i ∧ otherPlan.items[0]? = some i' ∧
        plan.place i = .ok place ∧ otherPlan.place i' = .ok place' ∧
        place.control = place'.control := by
  let test := TestDefinition.controlledInPart (some ⟨some 9, some true, some true⟩)
  let other := TestDefinition.controlledInPart none
  have hcontrols : test.writtenRefs.map (fun written => some written.control) =
      [some ⟨0, false, true⟩, some ⟨0, false, false⟩, some ⟨3, false, false⟩,
        some ⟨9, true, true⟩] := by
    decide +kernel
  have haround : (test.writtenRefs[0]?).map WrittenRef.controls =
        some [some ⟨none, none, some true⟩, some ⟨some 0, none, none⟩,
          some ⟨none, some false, none⟩, some ⟨some 3, none, none⟩] ∧
      (other.writtenRefs[0]?).map WrittenRef.controls =
        (test.writtenRefs[0]?).map WrittenRef.controls := by
    decide +kernel
  have hbuilds : (build test).toOption.isSome = true ∧ (build other).toOption.isSome = true := by
    decide +kernel
  obtain ⟨plan, hplan⟩ := Option.isSome_iff_exists.1 hbuilds.1
  obtain ⟨otherPlan, hother⟩ := Option.isSome_iff_exists.1 hbuilds.2
  replace hplan := eq_ok_of_mem_toOption hplan
  replace hother := eq_ok_of_mem_toOption hother
  obtain ⟨written, hwritten, hfirst⟩ := Option.map_eq_some_iff.1 haround.1
  obtain ⟨written', hwritten', hfirst'⟩ := Option.map_eq_some_iff.1 (haround.2.trans haround.1)
  obtain ⟨-, hitems, hsame⟩ := controls_items hplan
  refine ⟨plan, otherPlan, hplan, hother, ?_, hsame hother hwritten hwritten'
    (hfirst.trans hfirst'.symm)⟩
  have hplaces := congrArg (List.map fun entry : Except LogicError ItemPlace × List Identifier =>
    entry.1.toOption.map (·.control)) hitems
  rw [List.map_map, List.map_map] at hplaces
  exact hplaces.trans hcontrols

end TestPlan

end Assessment
