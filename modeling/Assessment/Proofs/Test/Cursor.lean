import Assessment.Proofs.Test.Creation
import Assessment.Proofs.Test.Phase

/-!
# Where a session is in its test

A session of a test is in a part, and at one of the items of that part. Only few steps go elsewhere:
entering and ending a part, and presenting an item. All others leave the session where it is, also
where they fail, so that the current item always is one of the current part.

## Main definitions

- `TestState.cursor`: the part and the item that a session is at.
- `TestDelivery.Placed`: a session that is in a part of its plan, and at an item of that part.

## Main results

- `TestDelivery.leaves_goesTo`: where a request leads to, however it is answered.
- `TestDelivery.Attains.placed`: all sessions that requests lead to are placed.
-/

namespace Assessment

open Action

namespace TestState

/-- The part and the item that a session is at. -/
def cursor (state : TestState) : Option Nat × Option Nat := (state.currentPart, state.currentItem)

/-- One session is where another is, or at no item, or at an item of the part that the other is
in. -/
def GoesTo (state left : TestState) : Prop :=
  left.cursor = state.cursor ∨ left.currentItem = none ∨
    ∃ part index, state.currentPart = some part ∧ index ∈ state.plan.itemsUnder part ∧
      left.cursor = (some part, some index)

theorem GoesTo.of_cursor {state left : TestState} (h : left.cursor = state.cursor) :
    state.GoesTo left := .inl h

end TestState

/-! ### Steps that lead nowhere -/

namespace TestDelivery

variable {delivery : TestDelivery} {state : TestState} {now : Timestamp} {α : Type}

theorem cursor_touch : (touch now).Leaves state (·.cursor = state.cursor) := by
  rw [touch, Leaves, ensures_bind, ensures_get]
  dsimp only
  split
  next elapsed _ =>
    rw [ensures_ite]
    exact ⟨fun _ => (TestAction.leaves_lookUp _).read (fun _ => rfl) rfl, fun _ => rfl⟩
  next => rfl

theorem cursor_setOutcomes (bindings : List (Identifier × Value)) :
    (setOutcomes bindings).Leaves state (·.cursor = state.cursor) := by
  induction bindings generalizing state with
  | nil => rfl
  | cons binding rest ih =>
    rw [setOutcomes, Leaves, ensures_bind, ensures_get]
    refine (TestAction.leaves_lookUp _).read (fun outcomes => ?_) rfl
    rw [Leaves, ensures_bind, ensures_modify]
    exact ih

/-- Assignments of rules of a test do not lead elsewhere. -/
theorem stage_maintains_cursor (test : TestDefinition) (cursor : Option Nat × Option Nat) :
    (TestState.stage test).Maintains (·.cursor = cursor) where
  assign {session after} name value hsession hassign := by
    change TestState.assign test name value session = .ok after at hassign
    unfold TestState.assign at hassign
    split at hassign
    next => cases hassign
    next =>
      cases hset : session.outcomes.set name value with
      | error error =>
        rw [hset] at hassign
        cases hassign
      | ok outcomes =>
        rw [hset] at hassign
        cases hassign
        exact hsession
  setCorrect _ _ hover := nomatch hover
  setDefault _ _ hover := nomatch hover

theorem cursor_processOutcomes :
    delivery.processOutcomes.Leaves state (·.cursor = state.cursor) := by
  refine Leaves.bind (cursor_setOutcomes _) ?_ fun _ h => h
  intro _ reset hreset
  rw [Leaves, ensures_bind, ensures_get, ensures_bind, ensures_set]
  have hpass : ({ reset with passes := reset.passes + 1 } : TestState).cursor = state.cursor :=
    hreset
  have hmaintains := stage_maintains_cursor delivery.definition state.cursor
  refine (TestAction.leaves_ofLogic (Rule.leaves_execute hmaintains _ _ hpass)).bind ?_ fun _ h => h
  exact fun _ _ hleft => hleft

theorem cursor_onItem (place : ItemPlace) (operation : ItemDelivery → ItemAction α) :
    (delivery.onItem place operation).Leaves state (·.cursor = state.cursor) := by
  rw [onItem]
  refine (TestAction.leaves_lookUp _).read (fun item => ?_) rfl
  refine (leaves_session place).read (fun session => ?_) rfl
  rcases hrun : (operation item).run.run session with ⟨result, changed⟩
  have hchanged : TestState.cursor
      { state with items := state.items.insert place.ref changed } = state.cursor := rfl
  cases result with
  | ok a => exact hchanged
  | error error => exact hchanged

theorem cursor_suspendCurrent :
    (delivery.suspendCurrent now).Leaves state (·.cursor = state.cursor) := by
  rw [suspendCurrent, Leaves, ensures_bind, ensures_get]
  split
  next => rfl
  next =>
    refine (TestAction.leaves_lookUp _).read (fun place => ?_) rfl
    refine (leaves_session place).read (fun session => ?_) rfl
    rw [Leaves, ensures_ite]
    exact ⟨fun _ => cursor_onItem place _, fun _ => rfl⟩

theorem cursor_leave : (delivery.leave now).Leaves state (·.cursor = state.cursor) := by
  refine cursor_touch.bind ?_ fun _ h => h
  exact fun _ left hleft => Leaves.mono cursor_suspendCurrent fun _ hrest => hrest.trans hleft

/-- An operation on the session of an item, and then others that lead nowhere. -/
theorem cursor_onItem_bind {β : Type} {place : ItemPlace} {operation : ItemDelivery → ItemAction α}
    {rest : α → TestAction β} (hrest : ∀ a state, (rest a).Leaves state (·.cursor = state.cursor)) :
    (delivery.onItem place operation >>= rest).Leaves state (·.cursor = state.cursor) :=
  (cursor_onItem place operation).bind
    (fun a left hleft => (hrest a left).mono fun _ hnext => hnext.trans hleft) fun _ h => h

theorem cursor_prepareItems (indices : List Nat) (log : NotificationLog) :
    (delivery.prepareItems indices log).Leaves state (·.cursor = state.cursor) := by
  induction indices generalizing state log with
  | nil => rfl
  | cons index rest ih =>
    rw [prepareItems]
    refine leaves_visit (fun place session => ?_) rfl
    rw [Leaves, ensures_ite]
    exact ⟨fun _ => ih log, fun _ => cursor_onItem_bind fun _ _ => ih _⟩

theorem cursor_scoreItems (mode : SubmissionMode) (indices : List Nat) (log : NotificationLog) :
    (delivery.scoreItems now mode indices log).Leaves state (·.cursor = state.cursor) := by
  induction indices generalizing state log with
  | nil => rfl
  | cons index rest ih =>
    rw [scoreItems]
    refine leaves_visit (fun place session => ?_) rfl
    dsimp only
    rw [Leaves, ensures_ite]
    exact ⟨fun _ => cursor_onItem_bind fun _ _ => ih _, fun _ => ih log⟩

theorem cursor_closeItems (indices : List Nat) :
    (delivery.closeItems now indices).Leaves state (·.cursor = state.cursor) := by
  induction indices generalizing state with
  | nil => rfl
  | cons index rest ih =>
    rw [closeItems]
    refine leaves_visit (fun place session => ?_) rfl
    dsimp only
    rw [Leaves, ensures_ite]
    exact ⟨fun _ => cursor_onItem_bind fun _ _ => ih, fun _ => ih⟩

/-! ### Requests -/

/-- Presenting an item of the current part leads to it. -/
theorem goesTo_enterItem {between : TestState} {part index : Nat}
    (hbetween : between.cursor = state.cursor) (hpart : state.currentPart = some part)
    (hindex : index ∈ state.plan.itemsUnder part) :
    (delivery.enterItem index now).Leaves between state.GoesTo := by
  rw [enterItem, Leaves, ensures_bind, ensures_get]
  refine (TestAction.leaves_lookUp _).read (fun place => ?_) (.of_cursor hbetween)
  refine (cursor_onItem place _).bind ?_ fun left hleft => .of_cursor (hleft.trans hbetween)
  intro _ left hleft
  have hsame : left.currentPart = some part :=
    (congrArg Prod.fst (hleft.trans hbetween)).trans hpart
  exact .inr (.inr ⟨part, index, hpart, hindex, by rw [← hsame]; rfl⟩)

/-- Entering a part leads to no item. -/
theorem goesTo_enterPart : (delivery.enterPart now).Leaves state state.GoesTo := by
  have hstays : state.GoesTo state := .of_cursor rfl
  rw [enterPart]
  refine leaves_requireInteracting.read (fun _ => ?_) hstays
  refine leaves_requireNoOpenPart.read (fun _ => ?_) hstays
  rw [Leaves, ensures_bind, ensures_get]
  dsimp only
  rw [ensures_ite, ensures_bind]
  refine ⟨fun _ => hstays, fun _ => ?_⟩
  split
  next => exact hstays
  next first _ =>
    refine (TestAction.leaves_lookUp _).read (fun found => ?_) hstays
    obtain ⟨chosen, log⟩ := found
    dsimp only
    split
    next => exact hstays
    next position entry hposition =>
      refine Ensures.bind cursor_touch ?_ fun _ _ h => .of_cursor h
      intro _ touched _
      -- From here on the session is at no item, also where the preparation of an item fails.
      rw [ensures_bind, ensures_modify]
      have hnone : ∀ {left : TestState} {part : Option Nat}, left.cursor = (part, none) →
          state.GoesTo left := fun h => .inr (.inl (congrArg Prod.snd h))
      exact Ensures.bind (cursor_prepareItems _ _) (fun _ _ => hnone) fun _ _ => hnone

/-- Going to an item leads to an item of the current part. -/
theorem goesTo_select (hplan : TestPlan.build delivery.definition = .ok state.plan)
    (ref : Identifier) : (delivery.select now ref).Leaves state state.GoesTo := by
  have hstays : state.GoesTo state := .of_cursor rfl
  rw [select]
  refine delivery.ensures_activePart.bind ?_ fun _ _ h => .of_cursor (by rw [h])
  rintro part state ⟨-, hcurrent, -, rfl⟩
  rw [ensures_bind, ensures_get]
  refine (TestAction.leaves_lookUp _).read (fun testPart => ?_) hstays
  refine (leaves_requireMode _ _).read (fun _ => ?_) hstays
  split
  next => exact hstays
  next index hindex =>
    dsimp only
    rw [Leaves, ensures_ite, ensures_bind]
    refine ⟨fun _ => hstays, fun hpartOf => ?_⟩
    rw [ensures_ite, ensures_bind]
    refine ⟨fun _ => hstays, fun _ => ?_⟩
    refine Ensures.bind cursor_touch ?_ fun _ _ h => .of_cursor h
    intro _ touched htouched
    -- The item was found by its name, and it was checked that it stands in the current part.
    obtain ⟨place, hplace, -⟩ := TestPlan.exists_place_of_findItem? hindex
    have hmem := (TestPlan.mem_itemsUnder_of_partOf? hplan hplace (not_not.1 hpartOf)).2
    have hpresent : ∀ between : TestState, between.cursor = state.cursor →
        (do delivery.enterItem index now; return (⟨(), delivery.newLog⟩ : Step Unit)).Leaves between
          state.GoesTo := fun between hbetween =>
      (goesTo_enterItem hbetween hcurrent hmem).bind (fun _ _ hleft => hleft) fun _ h => h
    rw [ensures_ite]
    refine ⟨fun _ => ?_, fun _ => hpresent touched htouched⟩
    refine Leaves.bind cursor_suspendCurrent ?_ fun _ hleft => .of_cursor (hleft.trans htouched)
    exact fun _ left hleft => hpresent left (hleft.trans htouched)

/-- Going to the next item leads to an item of the current part, or to none. -/
theorem goesTo_advance : (delivery.advance now).Leaves state state.GoesTo := by
  have hstays : state.GoesTo state := .of_cursor rfl
  rw [advance]
  refine delivery.ensures_activePart.bind ?_ fun _ _ h => .of_cursor (by rw [h])
  rintro part _ ⟨-, hcurrent, -, rfl⟩
  rw [ensures_bind, ensures_get]
  refine (TestAction.leaves_lookUp _).read (fun testPart => ?_) hstays
  refine (leaves_requireMode _ _).read (fun _ => ?_) hstays
  refine leaves_requireLeavable.read (fun _ => ?_) hstays
  refine (TestAction.ensures_lookUp _).bind ?_ fun _ _ h => .of_cursor (by rw [h.2])
  rintro ⟨next, log⟩ state ⟨hsearch, rfl⟩
  refine (delivery.ensures_leave_bind _).2
    (Ensures.mono cursor_leave ?_ fun _ _ h => .of_cursor h)
  intro _ left hleft
  cases next with
  | none => exact .inr (.inl rfl)
  | some found =>
    obtain ⟨hmem, -⟩ := (yields_iff.1 (delivery.yields_nextItem _ _ _ _)).1 _ hsearch _ _ rfl
    exact Ensures.bind (goesTo_enterItem hleft hcurrent hmem) (fun _ _ h => h) fun _ _ h => h

/-- Submitting responses leads nowhere. -/
theorem cursor_respond (responses : SortedMap Identifier ResponseData) :
    (delivery.respond now responses).Leaves state (·.cursor = state.cursor) := by
  rw [respond]
  refine leaves_activePart.read (fun part => ?_) rfl
  rw [Leaves, ensures_bind, ensures_get]
  split
  next => rfl
  next =>
    refine (TestAction.leaves_lookUp _).read (fun place => ?_) rfl
    refine (TestAction.leaves_lookUp _).read (fun testPart => ?_) rfl
    refine (leaves_session place).read (fun session => ?_) rfl
    dsimp only
    rw [Leaves, ensures_ite, ensures_bind]
    refine ⟨fun _ => rfl, fun _ => ?_⟩
    refine cursor_onItem_bind fun log attempted => ?_
    refine cursor_touch.bind ?_ fun _ h => h
    intro _ touched htouched
    split
    next =>
      refine Leaves.bind cursor_processOutcomes ?_ fun _ h => h.trans htouched
      exact fun _ _ h => h.trans htouched
    next => exact htouched

/-- Ending a part leads to no item. -/
theorem goesTo_endPart : (delivery.endPart now).Leaves state state.GoesTo := by
  have hstays : state.GoesTo state := .of_cursor rfl
  rw [endPart]
  refine leaves_activePart.read (fun part => ?_) hstays
  rw [Leaves, ensures_bind, ensures_get]
  dsimp only
  refine (TestAction.leaves_lookUp _).read (fun testPart => ?_) hstays
  refine (delivery.ensures_leave_bind _).2
    (Ensures.mono cursor_leave ?_ fun _ _ h => .of_cursor h)
  intro _ left hleft
  refine Ensures.bind (cursor_scoreItems _ _ _) ?_ fun _ _ h => .of_cursor (h.trans hleft)
  intro _ scored hscored
  have hscored := hscored.trans hleft
  refine Ensures.bind cursor_processOutcomes ?_ fun _ _ h => .of_cursor (h.trans hscored)
  intro _ processed hprocessed
  have hprocessed := hprocessed.trans hscored
  refine Ensures.bind (cursor_closeItems _) ?_ fun _ _ h => .of_cursor (h.trans hprocessed)
  intro _ closed _
  rw [ensures_bind, ensures_modify, ensures_bind, ensures_get]
  -- The part ends before it is known where to go on.
  refine (TestAction.leaves_lookUp _).read (fun chosen => ?_) (.inr (.inl rfl))
  obtain ⟨target, log⟩ := chosen
  obtain ⟨pendingBranch, ends, hfollow, -, -⟩ := exists_follow target
    { closed with
      parts := endAt part now closed.parts
      currentPart := none
      currentItem := none }
  dsimp only
  rw [Leaves, ensures_bind, ensures_modify, hfollow]
  exact .inr (.inl rfl)

theorem cursor_enterTest : (delivery.enterTest now).Leaves state (·.cursor = state.cursor) := by
  rw [enterTest]
  refine leaves_check.read (fun _ => ?_) rfl
  rw [Leaves, ensures_bind, ensures_get]
  split
  next => rfl
  next => rfl
  next =>
    refine Ensures.bind (cursor_setOutcomes _) ?_ fun _ _ h => h
    exact fun _ _ h => h

theorem cursor_exit : (delivery.exit now).Leaves state (·.cursor = state.cursor) := by
  rw [exit]
  refine leaves_requireInteracting.read (fun _ => ?_) rfl
  refine leaves_requireNoOpenPart.read (fun _ => ?_) rfl
  exact cursor_touch.bind (fun _ _ h => h) fun _ h => h

/-- However a request is answered, it leaves the session where it is, or at no item, or leads to an
item of the current part. -/
theorem leaves_goesTo (hplan : TestPlan.build delivery.definition = .ok state.plan)
    (request : TestRequest) : (delivery.serve request).Leaves state state.GoesTo := by
  have hstays : ∀ {action : TestAction Unit},
      action.Leaves state (·.cursor = state.cursor) → action.Leaves state state.GoesTo :=
    fun h => h.mono fun _ => .of_cursor
  cases request with
  | enterTest now => exact hstays ((leaves_map _).2 cursor_enterTest)
  | enterPart now => exact (leaves_map _).2 goesTo_enterPart
  | select now ref => exact (leaves_map _).2 (goesTo_select hplan ref)
  | advance now => exact (leaves_map _).2 goesTo_advance
  | respond now responses => exact hstays ((leaves_map _).2 (cursor_respond responses))
  | endPart now => exact (leaves_map _).2 goesTo_endPart
  | exit now => exact hstays ((leaves_map _).2 cursor_exit)

/-! ### All sessions -/

/-- A session has the plan of its test. It is in a part of that plan, if in any, and at an item of
that part, if at any. -/
structure Placed (delivery : TestDelivery) (state : TestState) : Prop where
  /-- Its plan is that of the test. -/
  plan : TestPlan.build delivery.definition = .ok state.plan
  /-- Its parts are at the nodes of parts. -/
  parts : state.parts.map (·.node) = state.plan.testParts
  /-- The current part is one of the plan. -/
  currentPart : ∀ part, state.currentPart = some part → part ∈ state.plan.testParts
  /-- The current item is one of the current part. -/
  currentItem : ∀ index, state.currentItem = some index →
    ∃ part, state.currentPart = some part ∧ index ∈ state.plan.itemsUnder part

theorem Created.placed {seed : UInt64} (h : Created delivery seed state) :
    delivery.Placed state where
  plan := h.plan
  parts := nodes_of_heads h.plan h.heads
  currentPart part hpart := by
    rw [h.currentPart] at hpart
    cases hpart
  currentItem index hindex := by
    rw [h.currentItem] at hindex
    cases hindex

/-- Where a placed session goes that keeps its plan it is placed, if it goes to a part of the
plan. -/
theorem Placed.goesTo {left : TestState} (h : delivery.Placed state) (hgoes : state.GoesTo left)
    (hplan : left.plan = state.plan) (hparts : left.parts.map (·.node) = state.parts.map (·.node))
    (hpart : ∀ part, left.currentPart = some part → part ∈ state.plan.testParts) :
    delivery.Placed left where
  plan := hplan ▸ h.plan
  parts := by rw [hparts, hplan, h.parts]
  currentPart := hplan ▸ hpart
  currentItem index hindex := by
    rw [hplan]
    rcases hgoes with hstays | hnone | ⟨part, other, -, hother, hleft⟩
    · obtain ⟨hsame, hitem⟩ := Prod.mk.inj hstays
      rw [hsame]
      exact h.currentItem index (hitem ▸ hindex)
    · rw [hnone] at hindex
      cases hindex
    · obtain ⟨hsame, hitem⟩ := Prod.mk.inj hleft
      obtain rfl := Option.some.inj (hitem.symm.trans hindex)
      exact ⟨part, hsame, hother⟩

/-- Every request leaves a placed session, however it is answered. -/
theorem Placed.leaves_serve (h : delivery.Placed state) (request : TestRequest) :
    (delivery.serve request).Leaves state delivery.Placed := by
  have hboth := Ensures.and (TestDelivery.leaves_serve request) (leaves_goesTo h.plan request)
  refine Leaves.mono hboth fun left hleft => ?_
  obtain ⟨hworks | ⟨now, ⟨between, -, hworks, rfl⟩ | ⟨position, entry, between, hentry, -, hmoves,
    rfl⟩ | ⟨entry, between, _, _, -, -, hworks, rfl⟩ | ⟨between, -, hworks, rfl⟩⟩, hgoes⟩ := hleft
  · refine h.goesTo hgoes hworks.plan (by rw [hworks.parts]) ?_
    rw [hworks.currentPart]
    exact h.currentPart
  · refine h.goesTo hgoes hworks.plan (by dsimp only; rw [hworks.parts]) ?_
    dsimp only
    rw [hworks.currentPart]
    exact h.currentPart
  · refine h.goesTo hgoes hmoves.works.plan (map_enterAt node_skipPart (fun _ => rfl) _ _) ?_
    rintro _ ⟨⟩
    rw [← h.parts]
    exact List.mem_map_of_mem (List.mem_of_getElem? hentry)
  · exact h.goesTo hgoes hworks.plan (map_endAt (fun _ => rfl) _ _) nofun
  · refine h.goesTo hgoes hworks.plan (map_map_skipPart node_skipPart _) ?_
    dsimp only
    rw [hworks.currentPart]
    exact h.currentPart

/-- All sessions that requests lead to are placed, however the requests are answered. -/
theorem Attains.placed (h : delivery.Attains state) : delivery.Placed state := by
  induction h with
  | created hcreate => exact Created.placed ((yields_iff.1 yields_create).1 _ hcreate)
  | @served state request _ ih =>
    have hleaves := ih.leaves_serve request
    rcases hrun : (delivery.serve request).run.run state with ⟨error | ⟨⟩, left⟩
    · exact hleaves.error hrun
    · exact hleaves.ok hrun

end TestDelivery

end Assessment
