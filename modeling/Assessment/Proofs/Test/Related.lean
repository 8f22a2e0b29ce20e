import Assessment.Proofs.Coupling
import Assessment.Proofs.Related
import Assessment.Test.View

/-!
# Test sessions with related items

Two sessions of one test may hold sessions of the same items that are related in some way. A name
then means variables of related sessions, and expressions aggregate over items whose sessions are
related.

## Main definitions

- `TestItem.Related`: one item of a test in related sessions.

## Main results

- `TestState.related_qualified?`: a qualified name means variables of related sessions.
- `TestState.couple_testItems`: the items to aggregate over have related sessions.
-/

namespace Assessment

/-- Two items of a test are the same apart from their sessions, which are related. -/
structure TestItem.Related (related : ItemState → ItemState → Prop) (item item' : TestItem) :
    Prop where
  /-- They are referred to alike. -/
  ref : item'.ref = item.ref
  /-- They are the same item. -/
  definition : item'.definition = item.definition
  /-- Their sessions are related. -/
  state : related item.state item'.state
  /-- They stand in the same sections. -/
  sections : item'.sections = item.sections

namespace TestState

variable {related : ItemState → ItemState → Prop} {s t : TestState}
  (hitems : SortedMap.Forall₂ related s.items t.items) (test : TestDefinition)

include hitems

/-- A qualified name means a variable of the same item, in sessions that are related. -/
theorem related_qualified? (name : Identifier) :
    (s.qualified? test name = none ∧ t.qualified? test name = none) ∨
      ∃ ref definition session session' inner,
        s.qualified? test name = some (ref, definition, session, inner) ∧
        t.qualified? test name = some (ref, definition, session', inner) ∧
        related session session' := by
  unfold TestState.qualified?
  cases name.split? with
  | none => exact .inl ⟨rfl, rfl⟩
  | some names =>
    obtain ⟨refName, inner⟩ := names
    cases href : test.itemRef? refName with
    | none => exact .inl ⟨by simp [href], by simp [href]⟩
    | some ref =>
      cases hdefinition : test.item? ref.item with
      | none => exact .inl ⟨by simp [href, hdefinition], by simp [href, hdefinition]⟩
      | some definition =>
        -- Only this last look-up depends on the session.
        have hsession := hitems.get? ref.identifier
        generalize hfirst : s.items.get? ref.identifier = session,
          hsecond : t.items.get? ref.identifier = session' at hsession
        cases hsession with
        | none =>
          exact .inl ⟨by simp [href, hdefinition, hfirst], by simp [href, hdefinition, hsecond]⟩
        | some hsession =>
          exact .inr ⟨ref, definition, _, _, inner, by simp [href, hdefinition, hfirst],
            by simp [href, hdefinition, hsecond], hsession⟩

/-- Names mean the same variables, apart from their values. -/
theorem declaration?_congr : t.declaration? test = s.declaration? test := by
  funext name
  unfold TestState.declaration?
  obtain ⟨hfirst, hsecond⟩ | ⟨_, definition, _, _, _, hfirst, hsecond, -⟩ :=
    related_qualified? hitems test name
  · rw [hfirst, hsecond]
  · rw [hfirst, hsecond]
    rfl

/-- Names mean the same factors. -/
theorem weight?_congr : t.weight? test = s.weight? test := by
  funext name weight
  unfold TestState.weight?
  obtain ⟨hfirst, hsecond⟩ | ⟨_, definition, _, _, _, hfirst, hsecond, -⟩ :=
    related_qualified? hitems test name
  · rw [hfirst, hsecond]
  · rw [hfirst, hsecond]
    rfl

/-- What is read of an item is related if it is in all related sessions. -/
theorem couple_readQualified {results : Value → Value → Prop} (name : Identifier)
    {read : ItemDefinition → ItemState → Identifier → Except LogicError Value}
    (hread : ∀ definition {session session'} inner, related session session' →
      Couple results Eq (read definition session inner) (read definition session' inner)) :
    Couple results Eq (s.readQualified test name read) (t.readQualified test name read) := by
  unfold TestState.readQualified
  obtain ⟨hfirst, hsecond⟩ | ⟨_, definition, _, _, inner, hfirst, hsecond, hsession⟩ :=
    related_qualified? hitems test name
  · rw [hfirst, hsecond]
    exact rfl
  · rw [hfirst, hsecond]
    exact hread definition inner hsession

/-- A node of the plan stands for an item with related sessions, or for none. -/
theorem couple_itemAt (hplan : t.plan = s.plan) (index : Nat) :
    Couple (Option.Rel (TestItem.Related related)) Eq (s.itemAt test index)
      (t.itemAt test index) := by
  unfold TestState.itemAt
  rw [hplan]
  refine couple_bind_self (fun _ => rfl) fun node => ?_
  cases node.identifier? with
  | none => exact .none
  | some name =>
    dsimp only
    cases test.itemRef? name with
    | none => exact rfl
    | some ref =>
      dsimp only
      have hsession := hitems.get? name
      generalize s.items.get? name = session, t.items.get? name = session' at hsession
      cases test.item? ref.item with
      | none => exact rfl
      | some definition =>
        cases hsession with
        | none => exact rfl
        | some hsession => exact .some ⟨rfl, rfl, hsession, rfl⟩

/-- The items to aggregate over are the same, with related sessions. -/
theorem couple_testItems (hplan : t.plan = s.plan) :
    Couple (List.Forall₂ (TestItem.Related related)) Eq (s.testItems test) (t.testItems test) := by
  unfold TestState.testItems
  rw [hplan]
  have hnodes := couple_mapM (List.forall₂_same.2 fun index (_ : index ∈ s.plan.items) =>
    couple_itemAt hitems test hplan index)
  refine hnodes.bind fun items items' hsame => ?_
  -- Nodes that stand for no item are left out in both sessions.
  exact List.rel_filterMap (fun _ _ hitem => hitem) hsame

end TestState

end Assessment
