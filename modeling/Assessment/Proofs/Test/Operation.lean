import Assessment.Proofs.Test.Sweep

/-!
# The parts of operations on test sessions

Operations on test sessions are put together from a few parts: checks that change nothing, the
counting of time, outcome processing, and operations on the sessions of items, one after the other.
Every part has one statement here. It says what the part changes, and that the part fails with a
logic error or, where it can be refused, leaves the session as it was.

## Main results

- `TestDelivery.ensures_touch` and `TestDelivery.ensures_processOutcomes`: time and outcomes.
- `TestDelivery.ensures_suspendCurrent`, `TestDelivery.ensures_enterItem`,
  `TestDelivery.ensures_prepareItems`, `TestDelivery.ensures_scoreItems` and
  `TestDelivery.ensures_closeItems`: what becomes of the sessions of items.
-/

namespace Assessment

open Action

/-- Whether an error tells of a broken session and not of a refused operation. -/
def TestError.isLogic : TestError → Bool
  | .logic _ => true
  | _ => false

@[simp]
theorem TestError.isLogic_logic (error : LogicError) : (TestError.logic error).isLogic = true := rfl

@[simp]
theorem TestError.isLogic_ofItem (ref : Identifier) (error : ItemError) :
    (TestError.ofItem ref error).isLogic = error.isLogic := by
  cases error <;> rfl

namespace TestAction

variable {state : TestState} {α : Type}

@[simp]
theorem ensures_ofLogic {inner : Action TestState LogicError α} {done : α → TestState → Prop}
    {failed : TestError → TestState → Prop} :
    (ofLogic inner).Ensures state done failed ↔
      inner.Ensures state done fun error left => failed (.logic error) left :=
  ensures_rename _ _

/-- Looking something up changes nothing, and what is not found is a logic error. -/
theorem ensures_lookUp (result : Except LogicError α) :
    (lookUp result).Ensures state (fun a left => result = .ok a ∧ left = state)
      fun error left => error.isLogic ∧ left = state := by
  rw [lookUp, ensures_ofExcept]
  cases result with
  | ok a => exact ⟨rfl, rfl⟩
  | error error => exact ⟨rfl, rfl⟩

end TestAction

namespace TestDelivery

variable {delivery : TestDelivery} {state : TestState} {now : Timestamp}

/-! ### Checks -/

variable (delivery)

/-- A session of another test is a broken one. -/
theorem ensures_check :
    delivery.check.Ensures state (fun _ left => left = state)
      fun error left => error.isLogic ∧ left = state := by
  rw [check, ensures_bind, ensures_get, ensures_ite]
  exact ⟨fun _ => rfl, fun _ => ⟨rfl, rfl⟩⟩

/-- A session that is not under way is refused. -/
theorem ensures_requireInteracting :
    delivery.requireInteracting.Ensures state
      (fun _ left => state.status = .interacting ∧ left = state) fun _ left => left = state := by
  refine delivery.ensures_check.bind ?_ fun _ _ herror => herror.2
  rintro _ _ rfl
  rw [ensures_bind, ensures_get]
  split
  next => rfl
  next => rfl
  next hstatus => exact ⟨hstatus, rfl⟩

/-- A part that is under way is in the way. -/
theorem ensures_requireNoOpenPart :
    requireNoOpenPart.Ensures state
      (fun _ left => (∀ part ∈ state.parts, part.status ≠ .interacting) ∧ left = state)
      fun _ left => left = state := by
  rw [requireNoOpenPart, ensures_bind, ensures_get]
  split
  next => rfl
  next hopen =>
    rw [TestState.openPart?, List.find?_eq_none] at hopen
    refine ⟨fun part hpart hstatus => hopen part hpart (decide_eq_true hstatus), rfl⟩

/-- The part that is under way is the current one. -/
theorem ensures_activePart :
    delivery.activePart.Ensures state
      (fun index left => state.status = .interacting ∧ state.currentPart = some index ∧
        (∃ part ∈ state.parts, part.node = index ∧ part.status = .interacting) ∧ left = state)
      fun _ left => left = state := by
  refine delivery.ensures_requireInteracting.bind ?_ fun _ _ herror => herror
  rintro _ _ ⟨hstatus, rfl⟩
  rw [ensures_bind, ensures_get]
  split
  next => rfl
  next index hcurrent =>
    rw [ensures_ite]
    refine ⟨fun hany => ⟨hstatus, hcurrent, ?_, rfl⟩, fun _ => rfl⟩
    obtain ⟨part, hpart, hopen⟩ := List.any_eq_true.1 hany
    exact ⟨part, hpart, of_decide_eq_true hopen⟩

/-! ### Time and outcomes -/

/-- Counting time changes the outcomes and the time of the last event. -/
theorem ensures_touch :
    (touch now).Ensures state
      (fun _ left => ∃ outcomes, left = { state with outcomes, lastEvent := some now })
      fun error _ => error.isLogic := by
  rw [touch, ensures_bind, ensures_get]
  dsimp only
  split
  next elapsed _ =>
    rw [ensures_ite]
    refine ⟨fun _ => ?_, fun _ => ⟨state.outcomes, rfl⟩⟩
    refine (TestAction.ensures_lookUp _).bind ?_ fun _ _ herror => herror.1
    rintro outcomes _ ⟨-, rfl⟩
    exact ⟨outcomes, rfl⟩
  next => exact ⟨state.outcomes, rfl⟩

/-- Setting outcome variables changes the outcomes. -/
theorem ensures_setOutcomes (bindings : List (Identifier × Value)) :
    (setOutcomes bindings).Ensures state (fun _ left => ∃ outcomes, left = { state with outcomes })
      fun error _ => error.isLogic := by
  induction bindings generalizing state with
  | nil => exact ⟨state.outcomes, rfl⟩
  | cons binding rest ih =>
    rw [setOutcomes, ensures_bind, ensures_get]
    refine (TestAction.ensures_lookUp _).bind ?_ fun _ _ herror => herror.1
    rintro outcomes _ ⟨-, rfl⟩
    rw [ensures_bind, ensures_modify]
    exact ih

theorem ensures_resetOutcomes :
    delivery.resetOutcomes.Ensures state (fun _ left => ∃ outcomes, left = { state with outcomes })
      fun error _ => error.isLogic :=
  ensures_setOutcomes _

/-- Rules of a test change its outcomes and nothing else. -/
theorem stage_keeps_frame (engine : Engine) (test : TestDefinition) (state : TestState) :
    (TestState.stage test).Keeps engine (fun _ => True)
      (fun left => ∃ outcomes, left = { state with outcomes }) fun _ => True where
  evaluate _ _ _ := (ensures_run _ _).mono (fun _ _ _ => trivial) fun _ _ _ _ _ => trivial
  assign {session _ name _ _ value} hsession _ _ := by
    obtain ⟨before, rfl⟩ := hsession
    simp only [TestState.stage, TestState.assign]
    split
    next => trivial
    next =>
      rw [yields_bind]
      cases before.set name value with
      | error error => trivial
      | ok outcomes => exact ⟨outcomes, rfl⟩
  setCorrect _ _ hover _ := nomatch hover
  setDefault _ _ hover _ := nomatch hover

/-- Running rules of a test changes its outcomes and nothing else. -/
theorem ensures_execute (engine : Engine) (test : TestDefinition) (rules : List Rule)
    (environment : Environment) :
    ((Rule.execute engine (TestState.stage test) rules).on environment).Ensures state
      (fun _ left => ∃ outcomes, left = { state with outcomes }) fun _ _ => True := by
  refine Execution.ensures_on
    (Rule.ensures_execute (stage_keeps_frame engine test state) ?_ ⟨state.outcomes, rfl⟩)
  intro _ _ _ _
  trivial

/-- Outcome processing changes the outcomes, counts its runs, and may end the test. -/
theorem ensures_processOutcomes :
    delivery.processOutcomes.Ensures state
      (fun _ left => ∃ outcomes ends, left =
        { state with
          outcomes
          exitRequested := state.exitRequested || ends
          passes := state.passes + 1
          outcomeRuns := state.outcomeRuns + 1 })
      fun error _ => error.isLogic := by
  refine delivery.ensures_resetOutcomes.bind ?_ fun _ _ herror => herror
  rintro _ _ ⟨initial, rfl⟩
  rw [ensures_bind, ensures_get, ensures_bind, ensures_set, ensures_bind,
    TestAction.ensures_ofLogic]
  refine (ensures_execute _ _ _ _).mono ?_ fun _ _ _ => rfl
  rintro _ _ ⟨outcomes, rfl⟩
  exact ⟨outcomes, _, rfl⟩

/-! ### Operations on items -/

/-- A session of an item is looked up by the name of the reference. -/
theorem ensures_session (place : ItemPlace) :
    (delivery.session place).Ensures state
      (fun session left => (∃ item, delivery.itemDelivery place = .ok item) ∧
        state.items.get? place.ref = some session ∧ left = state)
      fun error left => error.isLogic ∧ left = state := by
  refine (TestAction.ensures_lookUp _).bind ?_ fun _ _ herror => herror
  rintro item _ ⟨hitem, rfl⟩
  rw [ensures_bind, ensures_get]
  split
  next session hsession => exact ⟨⟨item, hitem⟩, hsession, rfl⟩
  next => exact ⟨rfl, rfl⟩

/-- An operation on the session of an item puts the session back that the operation leaves. Where
the operation is refused and leaves it as it was, the test session is as it was too. -/
theorem ensures_onItem {α : Type} {place : ItemPlace} {operation : ItemDelivery → ItemAction α}
    {item : ItemDelivery} {session : ItemState} {done : α → ItemState → Prop}
    {refuses : ItemError → Prop} (hitem : delivery.itemDelivery place = .ok item)
    (hsession : state.items.get? place.ref = some session)
    (hoperation : (operation item).Ensures session done
      fun error left => error.isLogic ∨ refuses error ∧ left = session) :
    (delivery.onItem place operation).Ensures state
      (fun a left => ∃ changed, (operation item).run.run session = (.ok a, changed) ∧
        left = { state with items := state.items.insert place.ref changed })
      fun error left => error.isLogic ∨
        (∃ refusal, refuses refusal ∧ error = .ofItem place.ref refusal) ∧ left = state := by
  refine (TestAction.ensures_lookUp _).bind ?_ fun _ _ herror => .inl herror.1
  rintro _ _ ⟨hfound, rfl⟩
  obtain rfl := Except.ok.inj (hitem.symm.trans hfound)
  refine (delivery.ensures_session place).bind ?_ fun _ _ herror => .inl herror.1
  rintro _ state ⟨-, hfound, rfl⟩
  obtain rfl := Option.some.inj (hsession.symm.trans hfound)
  rcases hrun : (operation item).run.run session with ⟨refusal | a, changed⟩
  · change TestError.isLogic _ = true ∨ _
    rw [TestError.isLogic_ofItem]
    refine (hoperation.error hrun).imp_right ?_
    rintro ⟨hrefuses, rfl⟩
    refine ⟨⟨refusal, hrefuses, rfl⟩, ?_⟩
    dsimp only
    rw [SortedMap.insert_of_get? hsession]
  · exact ⟨changed, rfl, rfl⟩

/-- What an operation on the session of an item ensures needs to be known only of items with a
session; all others are broken. -/
theorem ensures_onItem_of_exists {α : Type} {place : ItemPlace}
    {operation : ItemDelivery → ItemAction α} {done : α → TestState → Prop}
    {failed : TestError → TestState → Prop}
    (h : ∀ item session, delivery.itemDelivery place = .ok item →
      state.items.get? place.ref = some session →
      (delivery.onItem place operation).Ensures state done failed)
    (hlogic : ∀ error, error.isLogic → failed error state) :
    (delivery.onItem place operation).Ensures state done failed := by
  cases hitem : delivery.itemDelivery place with
  | error error =>
    refine (TestAction.ensures_lookUp _).bind ?_ ?_
    · rintro item _ ⟨hfound, -⟩
      rw [hitem] at hfound
      cases hfound
    · rintro error _ ⟨herror, rfl⟩
      exact hlogic error herror
  | ok item =>
    cases hsession : state.items.get? place.ref with
    | some session => exact h item session hitem hsession
    | none =>
      refine (TestAction.ensures_lookUp _).bind ?_ ?_
      · rintro item _ ⟨-, rfl⟩
        refine (delivery.ensures_session place).bind ?_ ?_
        · rintro session _ ⟨-, hfound, -⟩
          rw [hsession] at hfound
          cases hfound
        · rintro error _ ⟨herror, rfl⟩
          exact hlogic error herror
      · rintro error _ ⟨herror, rfl⟩
        exact hlogic error herror

/-- An item of the plan is visited: its place and its session are looked up, and all that fails
before it is done with them is a look-up. -/
theorem ensures_visit {α : Type} {index : Nat} {next : ItemPlace → ItemState → TestAction α}
    {done : α → TestState → Prop} {failed : TestError → TestState → Prop}
    (hnext : ∀ place item session, state.plan.place index = .ok place →
      delivery.itemDelivery place = .ok item → state.items.get? place.ref = some session →
      (next place session).Ensures state done failed)
    (hlogic : ∀ error, error.isLogic → failed error state) :
    (do
      let place ← TestAction.lookUp ((← get).plan.place index)
      let session ← delivery.session place
      next place session : TestAction α).Ensures state done failed := by
  rw [ensures_bind, ensures_get]
  refine (TestAction.ensures_lookUp _).bind ?_ ?_
  · rintro place _ ⟨hplace, rfl⟩
    refine (delivery.ensures_session place).bind ?_ ?_
    · rintro session _ ⟨⟨item, hitem⟩, hsession, rfl⟩
      exact hnext place item session hplace hitem hsession
    · rintro error _ ⟨herror, rfl⟩
      exact hlogic error herror
  · rintro error _ ⟨herror, rfl⟩
    exact hlogic error herror

theorem isPresented_and_not_isClosed {session : ItemState} :
    (session.isPresented && !session.isClosed) = true ↔ session.status = .interacting := by
  rw [ItemState.isPresented, ItemState.isClosed]
  cases session.status <;> decide

/-- The clock of the current item is stopped if it runs. -/
theorem ensures_suspendCurrent :
    (delivery.suspendCurrent now).Ensures state
      (fun _ left => ∃ items, left = { state with items } ∧
        Sweep delivery state.plan (ItemDelivery.Suspends now) state.currentItem.toList state.items
          items)
      fun error _ => error.isLogic := by
  rw [suspendCurrent, ensures_bind, ensures_get]
  split
  next hcurrent => exact ⟨state.items, rfl, hcurrent ▸ .nil⟩
  next current hcurrent =>
    refine (TestAction.ensures_lookUp _).bind ?_ fun _ _ herror => herror.1
    rintro place _ ⟨hplace, rfl⟩
    refine (delivery.ensures_session place).bind ?_ fun _ _ herror => herror.1
    rintro session state ⟨⟨item, hitem⟩, hsession, rfl⟩
    rw [ensures_ite, isPresented_and_not_isClosed]
    refine ⟨fun hstatus => ?_, fun hstatus => ⟨state.items, rfl, ?_⟩⟩
    · refine (delivery.ensures_onItem hitem hsession (item.ensures_suspend now)).mono ?_ ?_
      · rintro _ _ ⟨changed, hrun, rfl⟩
        refine ⟨_, rfl, ?_⟩
        rw [hcurrent]
        exact .cons hplace hitem hsession ((if_pos hstatus).mpr hrun) .nil
      · rintro error _ (herror | ⟨⟨_, hrefused, -⟩, -⟩)
        · exact herror
        · exact absurd hstatus hrefused
    · rw [hcurrent]
      exact .keep hplace hitem hsession ((if_neg hstatus).mpr rfl) .nil

/-- An item is presented and becomes the current one, unless its session is over. -/
theorem ensures_enterItem (index : Nat) :
    (delivery.enterItem index now).Ensures state
      (fun _ left => ∃ items, left = { state with items, currentItem := some index } ∧
        Sweep delivery state.plan (ItemDelivery.Enters now) [index] state.items items)
      fun error left => error.isLogic ∨ ∃ place session, state.plan.place index = .ok place ∧
        state.items.get? place.ref = some session ∧ session.status = .closed ∧
        error = .item place.ref .closed ∧ left = state := by
  rw [enterItem, ensures_bind, ensures_get]
  refine (TestAction.ensures_lookUp _).bind ?_ fun _ _ herror => .inl herror.1
  rintro place _ ⟨hplace, rfl⟩
  rw [ensures_bind]
  refine delivery.ensures_onItem_of_exists (fun item session hitem hsession => ?_)
    fun _ herror => .inl herror
  refine (delivery.ensures_onItem hitem hsession (item.ensures_enter now)).mono ?_ ?_
  · rintro _ _ ⟨changed, hrun, rfl⟩
    exact ⟨_, rfl, .cons hplace hitem hsession hrun .nil⟩
  · rintro error _ (herror | ⟨⟨_, ⟨rfl, hclosed⟩, rfl⟩, rfl⟩)
    · exact .inl herror
    · exact .inr ⟨place, session, hplace, hsession, hclosed, rfl, rfl⟩

/-- Items are prepared one after the other, where those that are closed were prepared before. -/
theorem ensures_prepareItems (indices : List Nat) (log : NotificationLog)
    (hclosed : ∀ index ∈ indices, ∀ place session, state.plan.place index = .ok place →
      state.items.get? place.ref = some session → session.status = .closed →
      session.templateProcessed = true) :
    (delivery.prepareItems indices log).Ensures state
      (fun _ left => ∃ items, left = { state with items } ∧
        Sweep delivery state.plan ItemDelivery.Prepares indices state.items items)
      fun error _ => error.isLogic := by
  -- An item that is not prepared is open, so that it is prepared without being refused.
  induction indices generalizing state log with
  | nil => exact ⟨state.items, rfl, .nil⟩
  | cons index rest ih =>
    rw [prepareItems]
    refine delivery.ensures_visit (fun place item session hplace hitem hsession => ?_)
      fun _ herror => herror
    rw [ensures_ite]
    refine ⟨fun hprocessed => ?_, fun hprocessed => ?_⟩
    · refine (ih log fun i hi => hclosed i (List.mem_cons_of_mem _ hi)).mono ?_ fun _ _ h => h
      rintro _ _ ⟨items, rfl, hsweep⟩
      exact ⟨items, rfl, .keep hplace hitem hsession ((if_pos hprocessed).mpr rfl) hsweep⟩
    · have hstatus : session.status ≠ .closed := fun h =>
        hprocessed (hclosed index List.mem_cons_self place session hplace hsession h)
      refine (delivery.ensures_onItem hitem hsession item.ensures_processTemplate).bind ?_ ?_
      · rintro notes _ ⟨changed, hrun, rfl⟩
        have hprepares : item.Prepares session changed := (if_neg hprocessed).mpr ⟨notes, hrun⟩
        refine (ih _ fun i hi place' session' hplace' hsession' => ?_).mono ?_ fun _ _ h => h
        · obtain ⟨-, rfl⟩ | hsession' := SortedMap.eq_or_get?_of_insert hsession'
          · exact fun _ => congrArg ItemProgress.templateProcessed hprepares.progress
          · exact hclosed i (List.mem_cons_of_mem _ hi) place' session' hplace' hsession'
        · rintro _ _ ⟨items, rfl, hsweep⟩
          exact ⟨items, rfl, .cons hplace hitem hsession hprepares hsweep⟩
      · rintro error _ (herror | ⟨⟨_, hrefused, -⟩, -⟩)
        · exact herror
        · exact absurd hrefused (by simp [hstatus, hprocessed])

/-- The visited items among some are scored one after the other where they wait for it. -/
theorem ensures_scoreItems (mode : SubmissionMode) (indices : List Nat) (log : NotificationLog) :
    (delivery.scoreItems now mode indices log).Ensures state
      (fun _ left => ∃ items, left = { state with items } ∧
        Sweep delivery state.plan (ItemDelivery.Scores now mode) indices state.items items)
      fun error _ => error.isLogic := by
  induction indices generalizing state log with
  | nil => exact ⟨state.items, rfl, .nil⟩
  | cons index rest ih =>
    rw [scoreItems]
    refine delivery.ensures_visit (fun place item session hplace hitem hsession => ?_)
      fun _ herror => herror
    have hwaits : ((session.isPresented && !session.isClosed) &&
        (session.pending || (mode = .simultaneous && !session.responseProcessed))) = true ↔
        ItemDelivery.Waits mode session := by
      rw [Bool.and_eq_true, isPresented_and_not_isClosed]
      simp [ItemDelivery.Waits]
    rw [ensures_ite, hwaits]
    refine ⟨fun hwaits => ?_, fun hwaits => ?_⟩
    · refine (delivery.ensures_onItem hitem hsession
        (item.ensures_processResponse 0 now)).bind ?_ ?_
      · rintro notes _ ⟨changed, hrun, rfl⟩
        refine (ih _).mono ?_ fun _ _ h => h
        rintro _ _ ⟨items, rfl, hsweep⟩
        exact ⟨items, rfl, .cons hplace hitem hsession (.inl ⟨hwaits, notes, hrun⟩) hsweep⟩
      · rintro error _ (herror | ⟨⟨_, hrefused, -⟩, -⟩)
        · exact herror
        · exact absurd hwaits.1 hrefused
    · refine (ih log).mono ?_ fun _ _ h => h
      rintro _ _ ⟨items, rfl, hsweep⟩
      exact ⟨items, rfl, .keep hplace hitem hsession (.inr ⟨hwaits, rfl⟩) hsweep⟩

/-- Items are closed one after the other. -/
theorem ensures_closeItems (indices : List Nat) :
    (delivery.closeItems now indices).Ensures state
      (fun _ left => ∃ items, left = { state with items } ∧
        Sweep delivery state.plan (ItemDelivery.Ends now) indices state.items items)
      fun error _ => error.isLogic := by
  induction indices generalizing state with
  | nil => exact ⟨state.items, rfl, .nil⟩
  | cons index rest ih =>
    rw [closeItems]
    refine delivery.ensures_visit (fun place item session hplace hitem hsession => ?_)
      fun _ herror => herror
    dsimp only
    rw [ensures_ite]
    refine ⟨fun hopen => ?_, fun hclosed => ?_⟩
    · have hstatus : session.status ≠ .closed := by simpa [ItemState.isClosed] using hopen
      refine (delivery.ensures_onItem hitem hsession (item.ensures_endSession now)).bind ?_ ?_
      · rintro _ _ ⟨changed, hrun, rfl⟩
        refine ih.mono ?_ fun _ _ h => h
        rintro _ _ ⟨items, rfl, hsweep⟩
        exact ⟨items, rfl, .cons hplace hitem hsession ((if_neg hstatus).mpr hrun) hsweep⟩
      · rintro error _ (herror | ⟨⟨_, hrefused, -⟩, -⟩)
        · exact herror
        · exact absurd hrefused hstatus
    · have hstatus : session.status = .closed := by simpa [ItemState.isClosed] using hclosed
      refine ih.mono ?_ fun _ _ h => h
      rintro _ _ ⟨items, rfl, hsweep⟩
      exact ⟨items, rfl, .keep hplace hitem hsession ((if_pos hstatus).mpr rfl) hsweep⟩

end TestDelivery

end Assessment
