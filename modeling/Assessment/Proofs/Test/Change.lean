import Assessment.Proofs.Item.Retained
import Assessment.Proofs.Test.Request

/-!
# What operations on test sessions change

Operations on test sessions are put together from a few parts, and each part has one statement here
on what it changes at most, however it ends. Most parts only move the sessions of items on, say
which item is presented, and count time. Besides them there is outcome processing, which sets the
outcomes of the test anew.

## Main definitions

- `TestState.Moves`: a session that differs by the sessions of items, the presented item, and the
  time.
- `TestState.Works`: a session in which outcomes may have been processed besides.
- `TestDelivery.BeginsTest`, `TestDelivery.BeginsPart`, `TestDelivery.LeavesPart` and
  `TestDelivery.LeavesTest`: sessions in which the test or a part was entered, or is over.

## Main results

- `TestDelivery.leaves_onItem`: an operation on the session of an item moves it on.
- `TestDelivery.leaves_serve`: what any request leaves, however it is answered.
-/

namespace Assessment

open Action

/-! ### Sessions of tests -/

namespace TestState

variable {state before between after : TestState}

/-- Nothing differs but the sessions of items, which went on, the item that is presented, and the
time. -/
def Moves (before after : TestState) : Prop :=
  ∃ outcomes items currentItem lastEvent,
    Store.SameBut [BuiltIn.duration.identifier] before.outcomes outcomes ∧
      SortedMap.Pointwise ItemState.Follows before.items items ∧
      after = { before with outcomes, items, currentItem, lastEvent }

/-- Nothing differs but the sessions of items, which went on, the item that is presented, the time,
and what outcome processing sets. -/
def Works (before after : TestState) : Prop :=
  ∃ outcomes outcomeRuns passes exitRequested items currentItem lastEvent,
    SortedMap.Pointwise ItemState.Follows before.items items ∧
      after =
        { before with
          outcomes, outcomeRuns, passes, exitRequested, items, currentItem, lastEvent }

theorem Moves.refl (state : TestState) : state.Moves state :=
  ⟨_, _, _, _, .refl _ _, .refl ItemState.Follows.refl _, rfl⟩

theorem Moves.trans (h : before.Moves between) (h' : between.Moves after) : before.Moves after := by
  obtain ⟨_, _, _, _, houtcomes, hitems, rfl⟩ := h
  obtain ⟨_, _, _, _, houtcomes', hitems', rfl⟩ := h'
  exact ⟨_, _, _, _, houtcomes.trans houtcomes', hitems.trans hitems' .trans, rfl⟩

theorem Moves.works (h : before.Moves after) : before.Works after := by
  obtain ⟨_, _, _, _, -, hitems, rfl⟩ := h
  exact ⟨_, _, _, _, _, _, _, hitems, rfl⟩

theorem Works.status (h : before.Works after) : after.status = before.status := by
  obtain ⟨_, _, _, _, _, _, _, -, rfl⟩ := h
  rfl

theorem Works.plan (h : before.Works after) : after.plan = before.plan := by
  obtain ⟨_, _, _, _, _, _, _, -, rfl⟩ := h
  rfl

theorem Works.currentPart (h : before.Works after) : after.currentPart = before.currentPart := by
  obtain ⟨_, _, _, _, _, _, _, -, rfl⟩ := h
  rfl

theorem Works.parts (h : before.Works after) : after.parts = before.parts := by
  obtain ⟨_, _, _, _, _, _, _, -, rfl⟩ := h
  rfl

theorem Works.refl (state : TestState) : state.Works state := (Moves.refl state).works

theorem Works.trans (h : before.Works between) (h' : between.Works after) : before.Works after := by
  obtain ⟨_, _, _, _, _, _, _, hitems, rfl⟩ := h
  obtain ⟨_, _, _, _, _, _, _, hitems', rfl⟩ := h'
  exact ⟨_, _, _, _, _, _, _, hitems.trans hitems' .trans, rfl⟩

theorem works_outcomes (state : TestState) (outcomes : Store) :
    state.Works { state with outcomes } :=
  ⟨_, _, _, _, _, _, _, .refl ItemState.Follows.refl _, rfl⟩

/-- Presenting another item changes which item is presented. -/
theorem moves_currentItem (state : TestState) (currentItem : Option Nat) :
    state.Moves { state with currentItem } :=
  ⟨_, _, _, _, .refl _ _, .refl ItemState.Follows.refl _, rfl⟩

/-- Assignments of rules of a test change its outcomes. -/
theorem stage_maintains_works (test : TestDefinition) (state : TestState) :
    (stage test).Maintains state.Works where
  assign {session after} name value hsession hassign := by
    refine hsession.trans ?_
    change assign test name value session = .ok after at hassign
    unfold assign at hassign
    split at hassign
    next => cases hassign
    next =>
      cases hset : session.outcomes.set name value with
      | error error =>
        rw [hset] at hassign
        cases hassign
      | ok outcomes =>
        rw [hset] at hassign
        cases hassign
        exact works_outcomes _ _
  setCorrect _ _ hover := nomatch hover
  setDefault _ _ hover := nomatch hover

end TestState

/-! ### Parts of operations -/

section parts

variable {delivery : TestDelivery} {state : TestState} {now : Timestamp} {α : Type}

namespace TestAction

theorem leaves_lookUp (result : Except LogicError α) :
    (lookUp result).Leaves state (· = state) :=
  (ensures_lookUp result).mono (fun _ _ h => h.2) fun _ _ h => h.2

theorem leaves_ofLogic {inner : Action TestState LogicError α} {holds : TestState → Prop}
    (h : inner.Leaves state holds) : (ofLogic inner).Leaves state holds :=
  ensures_ofLogic.2 h

end TestAction

namespace TestDelivery

theorem leaves_check : delivery.check.Leaves state (· = state) :=
  delivery.ensures_check.mono (fun _ _ h => h) fun _ _ h => h.2

theorem leaves_requireInteracting : delivery.requireInteracting.Leaves state (· = state) :=
  delivery.ensures_requireInteracting.mono (fun _ _ h => h.2) fun _ _ h => h

theorem leaves_requireNoOpenPart : requireNoOpenPart.Leaves state (· = state) :=
  ensures_requireNoOpenPart.mono (fun _ _ h => h.2) fun _ _ h => h

theorem leaves_activePart : delivery.activePart.Leaves state (· = state) :=
  delivery.ensures_activePart.mono (fun _ _ h => h.2.2.2) fun _ _ h => h

theorem leaves_requireMode (expected : NavigationMode) (part : TestPart) :
    (requireMode expected part).Leaves state (· = state) :=
  (ensures_requireMode expected part).mono (fun _ _ h => h.2) fun _ _ h => h

theorem leaves_session (place : ItemPlace) : (delivery.session place).Leaves state (· = state) :=
  (delivery.ensures_session place).mono (fun _ _ h => h.2.2) fun _ _ h => h.2

theorem leaves_requireLeavable : (requireLeavable state).Leaves state (· = state) := by
  rw [requireLeavable]
  split
  next => rfl
  next =>
    refine (TestAction.leaves_lookUp _).read (fun place => ?_) rfl
    dsimp only
    rw [Leaves, ensures_ite]
    exact ⟨fun _ => rfl, fun _ => rfl⟩

/-- Counting time changes the time. -/
theorem leaves_touch : (touch now).Leaves state state.Moves := by
  have hlast : ∀ left, state.Moves left → state.Moves { left with lastEvent := some now } := by
    rintro _ ⟨_, _, _, _, houtcomes, hitems, rfl⟩
    exact ⟨_, _, _, _, houtcomes, hitems, rfl⟩
  rw [touch, Leaves, ensures_bind, ensures_get]
  dsimp only
  split
  next elapsed _ =>
    rw [ensures_ite]
    refine ⟨fun _ => ?_, fun _ => hlast state (.refl state)⟩
    refine (TestAction.ensures_lookUp _).bind ?_ ?_
    · rintro outcomes _ ⟨hset, rfl⟩
      exact hlast _ ⟨outcomes, _, _, _, Store.sameBut_of_set hset,
        .refl ItemState.Follows.refl _, rfl⟩
    · rintro _ _ ⟨-, rfl⟩
      exact .refl _
  next => exact hlast state (.refl state)

/-- Setting outcomes changes outcomes. -/
theorem leaves_setOutcomes (bindings : List (Identifier × Value)) :
    (setOutcomes bindings).Leaves state state.Works := by
  induction bindings generalizing state with
  | nil => exact .refl state
  | cons binding rest ih =>
    rw [setOutcomes, Leaves, ensures_bind, ensures_get]
    refine (TestAction.leaves_lookUp _).read (fun outcomes => ?_) (.refl state)
    rw [Leaves, ensures_bind, ensures_modify]
    exact Leaves.mono ih fun _ hleft => (TestState.works_outcomes state outcomes).trans hleft

theorem leaves_resetOutcomes : delivery.resetOutcomes.Leaves state state.Works :=
  leaves_setOutcomes _

/-- Outcome processing changes outcomes, and what is kept of its runs. -/
theorem leaves_processOutcomes : delivery.processOutcomes.Leaves state state.Works := by
  refine leaves_resetOutcomes.bind ?_ fun _ h => h
  intro _ reset hreset
  rw [Leaves, ensures_bind, ensures_get, ensures_bind, ensures_set]
  have hpass : state.Works { reset with passes := reset.passes + 1 } := by
    obtain ⟨_, _, _, _, _, _, _, hitems, rfl⟩ := hreset
    exact ⟨_, _, _, _, _, _, _, hitems, rfl⟩
  have hmaintains := TestState.stage_maintains_works delivery.definition state
  refine (TestAction.leaves_ofLogic (Rule.leaves_execute hmaintains _ _ hpass)).bind ?_ fun _ h => h
  rintro _ _ ⟨_, _, _, _, _, _, _, hitems, rfl⟩
  exact ⟨_, _, _, _, _, _, _, hitems, rfl⟩

/-- An operation on the session of an item moves that session on. -/
theorem leaves_onItem (place : ItemPlace) {operation : ItemDelivery → ItemAction α}
    (hoperation : ∀ item session, (operation item).Leaves session session.Follows) :
    (delivery.onItem place operation).Leaves state state.Moves := by
  rw [onItem]
  refine (TestAction.leaves_lookUp _).read (fun item => ?_) (.refl state)
  refine (delivery.ensures_session place).bind ?_ ?_
  · rintro session state ⟨-, hsession, rfl⟩
    have hfollows := hoperation item session
    rcases hrun : (operation item).run.run session with ⟨result, changed⟩
    rw [Leaves, Ensures, hrun] at hfollows
    have hmoves : session.Follows changed →
        state.Moves { state with items := state.items.insert place.ref changed } :=
      fun h => ⟨_, _, _, _, .refl _ _,
        SortedMap.pointwise_insert ItemState.Follows.refl hsession h, rfl⟩
    cases result with
    | ok a => exact hmoves hfollows
    | error error => exact hmoves hfollows
  · rintro _ _ ⟨-, rfl⟩
    exact .refl _

/-- An item of the plan is visited: to look up its place and its session changes nothing. -/
theorem leaves_visit {index : Nat} {next : ItemPlace → ItemState → TestAction α}
    {holds : TestState → Prop} (hnext : ∀ place session, (next place session).Leaves state holds)
    (hstate : holds state) :
    (do
      let place ← TestAction.lookUp ((← get).plan.place index)
      let session ← delivery.session place
      next place session : TestAction α).Leaves state holds :=
  delivery.ensures_visit (fun place _ session _ _ _ => hnext place session) fun _ _ => hstate

/-- Stopping the clock of the current item moves its session on. -/
theorem leaves_suspendCurrent : (delivery.suspendCurrent now).Leaves state state.Moves := by
  rw [suspendCurrent, Leaves, ensures_bind, ensures_get]
  split
  next => exact .refl state
  next =>
    refine (TestAction.leaves_lookUp _).read (fun place => ?_) (.refl state)
    refine (leaves_session place).read (fun session => ?_) (.refl state)
    rw [Leaves, ensures_ite]
    exact ⟨fun _ => leaves_onItem place fun item session => item.leaves_follows (.suspend now),
      fun _ => .refl state⟩

/-- Presenting an item moves its session on. -/
theorem leaves_enterItem (index : Nat) :
    (delivery.enterItem index now).Leaves state state.Moves := by
  rw [enterItem, Leaves, ensures_bind, ensures_get]
  refine (TestAction.leaves_lookUp _).read (fun place => ?_) (.refl state)
  refine (leaves_onItem place fun item session => item.leaves_follows (.enter now)).bind ?_
    fun _ h => h
  exact fun _ left hleft => hleft.trans (left.moves_currentItem _)

/-- Preparing items moves their sessions on. -/
theorem leaves_prepareItems (indices : List Nat) (log : NotificationLog) :
    (delivery.prepareItems indices log).Leaves state state.Moves := by
  induction indices generalizing state log with
  | nil => exact .refl state
  | cons index rest ih =>
    rw [prepareItems]
    refine leaves_visit (fun place session => ?_) (.refl state)
    rw [Leaves, ensures_ite]
    refine ⟨fun _ => ih log, fun _ => ?_⟩
    have hprepare := @leaves_onItem delivery state _ place (fun item => item.processTemplate)
      fun item session => (leaves_map _).1 (item.leaves_follows .processTemplate)
    refine hprepare.bind ?_ fun _ h => h
    exact fun _ left hleft => Leaves.mono (ih _) fun _ hrest => hleft.trans hrest

/-- Scoring items moves their sessions on. -/
theorem leaves_scoreItems (mode : SubmissionMode) (indices : List Nat) (log : NotificationLog) :
    (delivery.scoreItems now mode indices log).Leaves state state.Moves := by
  induction indices generalizing state log with
  | nil => exact .refl state
  | cons index rest ih =>
    rw [scoreItems]
    refine leaves_visit (fun place session => ?_) (.refl state)
    dsimp only
    rw [Leaves, ensures_ite]
    refine ⟨fun _ => ?_, fun _ => ih log⟩
    have hscore := @leaves_onItem delivery state _ place (fun item => item.processResponse 0 now)
      fun item session => (leaves_map _).1 (item.leaves_follows (.processResponse 0 now))
    refine hscore.bind ?_ fun _ h => h
    exact fun _ left hleft => Leaves.mono (ih _) fun _ hrest => hleft.trans hrest

/-- Closing items moves their sessions on. -/
theorem leaves_closeItems (indices : List Nat) :
    (delivery.closeItems now indices).Leaves state state.Moves := by
  induction indices generalizing state with
  | nil => exact .refl state
  | cons index rest ih =>
    rw [closeItems]
    refine leaves_visit (fun place session => ?_) (.refl state)
    dsimp only
    rw [Leaves, ensures_ite]
    refine ⟨fun _ => ?_, fun _ => ih⟩
    refine (leaves_onItem place fun item session => item.leaves_follows (.endSession now)).bind ?_
      fun _ h => h
    exact fun _ left hleft => Leaves.mono ih fun _ hrest => hleft.trans hrest

/-- Leaving the current item moves its session on. -/
theorem leaves_leave : (delivery.leave now).Leaves state state.Moves := by
  refine leaves_touch.bind ?_ fun _ h => h
  exact fun _ left hleft => Leaves.mono leaves_suspendCurrent fun _ hrest => hleft.trans hrest

/-! ### Requests -/

/-- The test was entered, which was still to come. -/
def BeginsTest (now : Timestamp) (state left : TestState) : Prop :=
  ∃ between, state.status = .notEntered ∧ state.Works between ∧
    left = { between with status := .interacting, entryTime := some now, lastEvent := some now }

/-- Entering the test sets outcomes, and may begin the test. -/
theorem leaves_enterTest :
    (delivery.enterTest now).Leaves state fun left =>
      state.Works left ∨ BeginsTest now state left := by
  rw [enterTest]
  refine leaves_check.read (fun _ => ?_) (.inl (.refl state))
  rw [Leaves, ensures_bind, ensures_get]
  split
  next => exact .inl (.refl state)
  next => exact .inl (.refl state)
  next hstatus =>
    refine Ensures.bind leaves_resetOutcomes ?_ fun _ _ h => .inl h
    exact fun _ reset hreset => .inr ⟨reset, hstatus, hreset, rfl⟩

/-- A part that is still to come was entered. Nothing else differs but the sessions of items, which
went on, the item that is presented, the time, and that no branch leads on any more. -/
def BeginsPart (now : Timestamp) (state left : TestState) : Prop :=
  ∃ position entry between, state.parts[position]? = some entry ∧ entry.status = .notEntered ∧
    state.Moves between ∧
    left =
      { between with
        parts := enterAt position now state.parts
        currentPart := some entry.node
        pendingBranch := none }

/-- Entering a part moves sessions of items on, and may begin a part. -/
theorem leaves_enterPart :
    (delivery.enterPart now).Leaves state fun left =>
      state.Moves left ∨ BeginsPart now state left := by
  rw [enterPart]
  refine leaves_requireInteracting.read (fun _ => ?_) (.inl (.refl state))
  refine leaves_requireNoOpenPart.read (fun _ => ?_) (.inl (.refl state))
  rw [Leaves, ensures_bind, ensures_get]
  dsimp only
  rw [ensures_ite, ensures_bind]
  refine ⟨fun _ => .inl (.refl state), fun _ => ?_⟩
  split
  next => exact .inl (.refl state)
  next first _ =>
    refine (TestAction.ensures_lookUp _).bind ?_ ?_
    · rintro ⟨chosen, log⟩ state ⟨hchosen, rfl⟩
      dsimp only
      split
      next => exact .inl (.refl state)
      next position entry hposition =>
        obtain ⟨rfl, hentry⟩ := eq_and_getElem?_of_chosen hposition
        obtain ⟨_, hsame, hcoming⟩ := delivery.exists_of_choosePart hchosen
        obtain rfl := Option.some.inj (hentry.symm.trans hsame)
        refine Ensures.bind leaves_touch ?_ fun _ _ h => .inl h
        rintro _ _ ⟨outcomes, items, currentItem, lastEvent, houtcomes, hitems, rfl⟩
        rw [ensures_bind, ensures_modify]
        -- The part is entered before its items are prepared, which may still fail.
        generalize hentered :
          ({ state with
              outcomes, items, lastEvent
              parts := enterAt position now state.parts
              currentPart := some entry.node
              currentItem := none
              pendingBranch := none } : TestState) = entered
        have hbegins : ∀ left, entered.Moves left →
            state.Moves left ∨ BeginsPart now state left := by
          rintro _ ⟨_, _, currentItem, _, houtcomes', hitems', rfl⟩
          subst hentered
          exact .inr ⟨position, entry, _, hentry, hcoming, ⟨_, _, currentItem, _,
            houtcomes.trans houtcomes', hitems.trans hitems' .trans, rfl⟩, rfl⟩
        exact Ensures.bind (leaves_prepareItems _ _) (fun _ => hbegins) fun _ => hbegins
    · rintro _ _ ⟨-, rfl⟩
      exact .inl (.refl _)

/-- Going to an item moves sessions of items on. -/
theorem leaves_select (ref : Identifier) : (delivery.select now ref).Leaves state state.Moves := by
  rw [select]
  refine leaves_activePart.read (fun part => ?_) (.refl state)
  rw [Leaves, ensures_bind, ensures_get]
  refine (TestAction.leaves_lookUp _).read (fun testPart => ?_) (.refl state)
  refine (leaves_requireMode _ _).read (fun _ => ?_) (.refl state)
  split
  next => exact .refl state
  next index hindex =>
    dsimp only
    rw [Leaves, ensures_ite, ensures_bind]
    refine ⟨fun _ => .refl state, fun _ => ?_⟩
    rw [ensures_ite, ensures_bind]
    refine ⟨fun _ => .refl state, fun _ => ?_⟩
    refine Ensures.bind leaves_touch ?_ fun _ _ h => h
    intro _ touched htouched
    have hpresent : ∀ between, state.Moves between →
        (do delivery.enterItem index now; return (⟨(), delivery.newLog⟩ : Step Unit)).Leaves between
          state.Moves := by
      intro between hbetween
      refine (leaves_enterItem index).bind ?_ ?_
      · exact fun _ left hleft => hbetween.trans hleft
      · exact fun left hleft => hbetween.trans hleft
    rw [ensures_ite]
    refine ⟨fun _ => ?_, fun _ => hpresent touched htouched⟩
    refine Leaves.bind leaves_suspendCurrent ?_ fun _ hleft => htouched.trans hleft
    exact fun _ left hleft => hpresent left (htouched.trans hleft)

/-- Going to the next item moves sessions of items on. -/
theorem leaves_advance : (delivery.advance now).Leaves state state.Moves := by
  rw [advance]
  refine leaves_activePart.read (fun part => ?_) (.refl state)
  rw [Leaves, ensures_bind, ensures_get]
  refine (TestAction.leaves_lookUp _).read (fun testPart => ?_) (.refl state)
  refine (leaves_requireMode _ _).read (fun _ => ?_) (.refl state)
  refine leaves_requireLeavable.read (fun _ => ?_) (.refl state)
  refine (TestAction.leaves_lookUp _).read (fun found => ?_) (.refl state)
  obtain ⟨next, log⟩ := found
  refine (delivery.ensures_leave_bind _).2 (Ensures.mono leaves_leave ?_ fun _ _ h => h)
  intro _ left hleft
  cases next with
  | none => exact hleft.trans (left.moves_currentItem none)
  | some found =>
    refine Ensures.bind (leaves_enterItem found.1) ?_ ?_
    · exact fun _ _ hnext => hleft.trans hnext
    · exact fun _ _ hnext => hleft.trans hnext

/-- Submitting responses moves the session of an item on. Outcomes are processed in a part that is
scored after each attempt. -/
theorem leaves_respond (responses : SortedMap Identifier ResponseData) :
    (delivery.respond now responses).Leaves state fun left =>
      state.Moves left ∨ state.Works left ∧ ∃ part testPart, state.currentPart = some part ∧
        delivery.part state.plan part = .ok testPart ∧ testPart.submission = .individual := by
  rw [respond]
  refine delivery.ensures_activePart.bind ?_ ?_
  · rintro part _ ⟨-, hcurrent, -, rfl⟩
    rw [ensures_bind, ensures_get]
    split
    next => exact .inl (.refl _)
    next =>
      refine (TestAction.leaves_lookUp _).read (fun place => ?_) (.inl (.refl _))
      refine (TestAction.ensures_lookUp _).bind ?_ ?_
      · rintro testPart state ⟨htestPart, rfl⟩
        refine (leaves_session place).read (fun session => ?_) (.inl (.refl _))
        dsimp only
        rw [Leaves, ensures_ite, ensures_bind]
        refine ⟨fun _ => .inl (.refl _), fun _ => ?_⟩
        refine Ensures.bind (leaves_onItem place fun item session => (leaves_map _).1
          (item.leaves_follows (.attempt responses now (policy testPart.submission place.control))))
          ?_ fun _ _ h => .inl h
        intro log attempted hattempted
        refine Ensures.bind leaves_touch ?_ fun _ _ h => .inl (hattempted.trans h)
        intro _ touched htouched
        have hmoves := hattempted.trans htouched
        split
        next hmode =>
          have hindividual : ∀ left, touched.Works left → state.Moves left ∨ state.Works left ∧
              ∃ part testPart, state.currentPart = some part ∧
                delivery.part state.plan part = .ok testPart ∧ testPart.submission = .individual :=
            fun _ h => .inr ⟨hmoves.works.trans h, part, testPart, hcurrent, htestPart, hmode⟩
          refine Ensures.bind leaves_processOutcomes ?_ fun _ => hindividual
          exact fun _ => hindividual
        next => exact .inl hmoves
      · rintro _ _ ⟨-, rfl⟩
        exact .inl (.refl _)
  · rintro _ _ rfl
    exact .inl (.refl _)

/-- The part that was under way is over. Nothing else differs but what became of the sessions of
items and of outcomes, and where it goes on. -/
def LeavesPart (now : Timestamp) (state left : TestState) : Prop :=
  ∃ entry between pendingBranch exitRequested, entry ∈ state.parts ∧
    entry.status = .interacting ∧ state.Works between ∧
    left =
      { between with
        parts := endAt entry.node now state.parts
        currentPart := none
        currentItem := none
        pendingBranch, exitRequested }

/-- Ending a part moves sessions of items on and processes outcomes, and may end the part. -/
theorem leaves_endPart :
    (delivery.endPart now).Leaves state fun left =>
      state.Works left ∨ LeavesPart now state left := by
  rw [endPart]
  refine delivery.ensures_activePart.bind ?_ ?_
  · rintro part state ⟨-, -, ⟨entry, hentry, rfl, hstatus⟩, rfl⟩
    rw [ensures_bind, ensures_get]
    dsimp only
    refine (TestAction.leaves_lookUp _).read (fun testPart => ?_) (.inl (.refl state))
    refine (delivery.ensures_leave_bind _).2
      (Ensures.mono leaves_leave ?_ fun _ _ h => .inl h.works)
    intro _ left hleft
    refine Ensures.bind (leaves_scoreItems _ _ _) ?_ fun _ _ h => .inl (hleft.trans h).works
    intro _ scored hscored
    have hscored := (hleft.trans hscored).works
    refine Ensures.bind leaves_processOutcomes ?_ fun _ _ h => .inl (hscored.trans h)
    intro _ processed hprocessed
    have hprocessed := hscored.trans hprocessed
    refine Ensures.bind (leaves_closeItems _) ?_ fun _ _ h => .inl (hprocessed.trans h.works)
    intro _ closed hclosed
    have hclosed := hprocessed.trans hclosed.works
    rw [ensures_bind, ensures_modify, ensures_bind, ensures_get]
    -- The part ends before it is known where to go on.
    refine (TestAction.leaves_lookUp _).read (fun chosen => ?_) (.inr ?_)
    · obtain ⟨target, log⟩ := chosen
      obtain ⟨pendingBranch, ends, hfollow, -, -⟩ := exists_follow target
        { closed with
          parts := endAt entry.node now closed.parts
          currentPart := none
          currentItem := none }
      dsimp only
      rw [Leaves, ensures_bind, ensures_modify, hfollow]
      exact .inr ⟨entry, closed, _, _, hentry, hstatus, hclosed, by rw [← hclosed.parts]⟩
    · exact ⟨entry, closed, _, _, hentry, hstatus, hclosed, by rw [← hclosed.parts]⟩
  · rintro _ _ rfl
    exact .inl (.refl _)

/-- The test is over, which was under way, and the parts are passed over that were still to come. -/
def LeavesTest (now : Timestamp) (state left : TestState) : Prop :=
  ∃ between, state.status = .interacting ∧ state.Works between ∧
    left =
      { between with
        parts := state.parts.map skipPart
        status := .exited
        endTime := some now
        lastEvent := none }

/-- Exiting the test counts time, and may end the test. -/
theorem leaves_exit :
    (delivery.exit now).Leaves state fun left =>
      state.Works left ∨ LeavesTest now state left := by
  rw [exit]
  refine delivery.ensures_requireInteracting.bind ?_ ?_
  · rintro _ state ⟨hstatus, rfl⟩
    refine leaves_requireNoOpenPart.read (fun _ => ?_) (.inl (.refl state))
    refine Ensures.bind leaves_touch ?_ fun _ _ h => .inl h.works
    intro _ touched htouched
    exact .inr ⟨touched, hstatus, htouched.works, by rw [← htouched.works.parts]⟩
  · rintro _ _ rfl
    exact .inl (.refl _)

/-- A request leaves a session in which nothing differs but what becomes of the sessions of items
and of outcomes, or it leads into the test or a part, or out of it. This is so however the request
is answered. -/
theorem leaves_serve (request : TestRequest) :
    (delivery.serve request).Leaves state fun left =>
      state.Works left ∨ ∃ now, BeginsTest now state left ∨ BeginsPart now state left ∨
        LeavesPart now state left ∨ LeavesTest now state left := by
  cases request with
  | enterTest now =>
    exact (leaves_map _).2 (leaves_enterTest.mono fun _ h => h.imp_right fun h => ⟨now, .inl h⟩)
  | enterPart now =>
    exact (leaves_map _).2 (leaves_enterPart.mono fun _ h =>
      h.imp TestState.Moves.works fun h => ⟨now, .inr (.inl h)⟩)
  | select now ref => exact (leaves_map _).2 ((leaves_select ref).mono fun _ h => .inl h.works)
  | advance now => exact (leaves_map _).2 (leaves_advance.mono fun _ h => .inl h.works)
  | respond now responses =>
    exact (leaves_map _).2 ((leaves_respond responses).mono fun _ h =>
      .inl (h.elim TestState.Moves.works And.left))
  | endPart now =>
    exact (leaves_map _).2 (leaves_endPart.mono fun _ h =>
      h.imp_right fun h => ⟨now, .inr (.inr (.inl h))⟩)
  | exit now =>
    exact (leaves_map _).2 (leaves_exit.mono fun _ h =>
      h.imp_right fun h => ⟨now, .inr (.inr (.inr h))⟩)

end TestDelivery

end parts

end Assessment
