import Assessment.Proofs.Test.Deferral

/-!
# Ending parts

When a part ends, what waits for it is scored, outcome processing is run, and the items of the part
are closed. Items come by in two loops with different filters, and an item may be closed by its own
rules in the first of them. Still, in a part that is scored at its end every item that was presented
is scored exactly once, and no other is; in a part that is scored after each attempt none is.
Outcome processing is run once, when all scores are known. Items of other parts are left alone.

Of an item that was never presented, values of variables are kept, with one exception: where it is
not known how far the candidate has come, closing the item says that it was completed, whether or
not it was presented. Rules of template processing can bring this about.

## Main definitions

- `ItemDelivery.EndsIn`: what becomes of the session of an item when its part ends.
- `TestDelivery.EndsPart`: what becomes of a test session when a part ends.

## Main results

- `TestDelivery.Reachable.endsPart`: parts end so in all sessions that requests lead to.
- `TestDelivery.not_forall_outcomes_eq`: an item that was never presented may come to be completed.
-/

namespace Assessment

open Action

/-! ### Sessions of items -/

/-- An item that was not presented was closed. Its values are as they were, but for what is said of
an item of which it is not known how far the candidate has come. -/
structure ItemState.ClosesUnseen (before after : ItemState) : Prop where
  /-- Responses are kept. -/
  responses : after.responses = before.responses
  /-- Outcomes are kept, but for what closing says. -/
  outcomes : after.outcomes = before.closingOutcomes
  /-- No rules were run. -/
  passes : after.passes = before.passes

/-- An item was closed, if it was not before, and was not scored. -/
structure ItemState.ClosesUnscored (before after : ItemState) : Prop where
  /-- It is scored if it was before. -/
  responseProcessed : after.responseProcessed = before.responseProcessed
  /-- No rules were run. -/
  passes : after.passes = before.passes
  /-- No outcome differs but the one that says how far the candidate has come. -/
  outcomes : Store.SameBut [BuiltIn.completionStatus.identifier] before.outcomes after.outcomes

namespace ItemDelivery

/-- Response processing was run for an item exactly once. -/
structure ScoresOnce (item : ItemDelivery) (now : Timestamp) (before after : ItemState) : Prop where
  /-- The item is scored. -/
  responseProcessed : after.responseProcessed = true
  /-- Rules were run once. -/
  passes : after.passes = before.passes + 1
  /-- Response processing was run when the clock was stopped, and then the item was at most
  closed. -/
  scored : ∃ rested scored log, before.Counted rested ∧
    (item.processResponse 0 now).run.run rested = (.ok log, scored) ∧
    (after = scored ∨ scored.Closes now after)

/-- What becomes of the session of an item when its part ends, by the mode in which the part is
scored. -/
def EndsIn (item : ItemDelivery) (now : Timestamp) (mode : SubmissionMode)
    (before after : ItemState) : Prop :=
  match mode with
  | .individual => before.ClosesUnscored after
  | .simultaneous =>
    if before.status = .notEntered then before.ClosesUnseen after
    else item.ScoresOnce now before after

variable {item : ItemDelivery} {now : Timestamp} {mode : SubmissionMode}
  {before rested scored after : ItemState}

/-- Whether an item waits to be scored does not depend on the time. -/
theorem waits_congr (h : before.Counted after) : Waits mode after ↔ Waits mode before := by
  obtain ⟨_, _, -, rfl⟩ := h
  exact Iff.rfl

section ends

variable (hrest : rested = before ∨ Suspends now item before rested)
  (hscore : Scores now mode item rested scored) (hend : Ends now item scored after)

include hrest

/-- Stopping the clock of an item changes the time. -/
theorem counted_of_rests : before.Counted rested := by
  obtain rfl | hsuspends := hrest
  · exact .refl _
  · exact hsuspends.counted

include hscore hend

/-- An item that was not presented is only closed. -/
theorem closesUnseen_of_rests (hstatus : before.status = .notEntered) :
    before.ClosesUnseen after := by
  have hsame : rested = before := by
    obtain rfl | hsuspends := hrest
    · rfl
    · rwa [Suspends, if_neg (by rw [hstatus]; nofun)] at hsuspends
  obtain rfl := hsame
  obtain ⟨hwaits, -⟩ | ⟨-, rfl⟩ := hscore
  · cases hstatus.symm.trans hwaits.1
  · obtain ⟨responses, -, hresponses, -, rfl⟩ := hend.closes (by rw [hstatus]; nofun)
    exact ⟨hresponses hstatus, rfl, rfl⟩

/-- An item that does not wait to be scored is closed and not scored. -/
theorem closesUnscored_of_rests (hwaits : ¬Waits mode before) : before.ClosesUnscored after := by
  obtain ⟨_, _, -, rfl⟩ := counted_of_rests hrest
  obtain ⟨hwaits', -⟩ | ⟨-, rfl⟩ := hscore
  · exact absurd hwaits' hwaits
  · obtain rfl | ⟨_, -, -, houtcomes, rfl⟩ := hend.eq_or_closes
    · exact ⟨rfl, rfl, .refl _ _⟩
    · exact ⟨rfl, rfl, houtcomes⟩

/-- An item that waits to be scored is scored once. -/
theorem scoresOnce_of_rests (hwaits : Waits mode before) : item.ScoresOnce now before after := by
  have hcounted := counted_of_rests hrest
  have hrested : Waits mode rested := (waits_congr hcounted).2 hwaits
  have hpasses : scored.passes = before.passes + 1 := by
    rw [hscore.passes hrested]
    obtain ⟨_, _, -, rfl⟩ := hcounted
    rfl
  have hprocessed : scored.responseProcessed = true := by
    obtain ⟨-, status, -, hprogress⟩ | ⟨hnot, -⟩ := hscore.progress
    · exact congrArg ItemProgress.responseProcessed hprogress
    · exact absurd hrested hnot
  obtain ⟨-, log, hrun⟩ | ⟨hnot, -⟩ := hscore
  · have hclosed := hend.eq_or_closes
    have hkept : after.responseProcessed = scored.responseProcessed ∧
        after.passes = scored.passes := by
      obtain rfl | ⟨_, -, -, -, rfl⟩ := hclosed
      · exact ⟨rfl, rfl⟩
      · exact ⟨rfl, rfl⟩
    exact ⟨hkept.1.trans hprocessed, hkept.2.trans hpasses, rested, scored, log, hcounted, hrun,
      hclosed⟩
  · exact absurd hrested hnot

end ends

end ItemDelivery

/-! ### Sessions of tests -/

namespace TestDelivery

variable {delivery : TestDelivery} {state left : TestState} {now : Timestamp} {seed : UInt64}

/-- What becomes of a test session when the part at a node ends. -/
structure EndsPart (delivery : TestDelivery) (now : Timestamp) (state left : TestState) (node : Nat)
    (mode : SubmissionMode) : Prop where
  /-- The part is over. -/
  ended : ∃ entry ∈ left.parts, entry.node = node ∧ entry.status = .ended
  /-- The other parts are as they were. -/
  parts : left.parts = state.parts.map fun entry =>
    if entry.node = node then { entry with status := .ended, endTime := some now } else entry
  /-- No part is under way. -/
  currentPart : left.currentPart = none
  /-- No item is presented. -/
  currentItem : left.currentItem = none
  /-- The items of the part are closed, none of them waits to be scored, and what was to be scored
  was scored once. -/
  items : ∀ index ∈ state.plan.itemsUnder node, ∃ place item before after,
    state.plan.place index = .ok place ∧ delivery.itemDelivery place = .ok item ∧
      state.items.get? place.ref = some before ∧ left.items.get? place.ref = some after ∧
      after.status = .closed ∧ after.pending = false ∧ item.EndsIn now mode before after
  /-- The items of other parts are as they were. -/
  others : ∀ index, index ∉ state.plan.itemsUnder node → ∀ place,
    state.plan.place index = .ok place → left.items.get? place.ref = state.items.get? place.ref
  /-- The outcomes of the test are those that outcome processing came to when the time had been
  counted. When it was run, all items were as they are now, but for being closed. -/
  outcomes : ∃ outcomes items notes processed,
    delivery.processOutcomes.run.run { state with outcomes, items, lastEvent := some now } =
        (.ok notes, processed) ∧
      Store.SameBut [BuiltIn.duration.identifier] state.outcomes outcomes ∧
      left.outcomes = processed.outcomes ∧
      ∀ index place, state.plan.place index = .ok place →
        ∃ early late, items.get? place.ref = some early ∧
          left.items.get? place.ref = some late ∧ (late = early ∨ early.Closes now late)
  /-- Outcome processing was run once. -/
  outcomeRuns : left.outcomeRuns = state.outcomeRuns + 1
  /-- No other rules of the test were run. -/
  passes : left.passes = state.passes + 1

/-- In a part that is scored at its end, what was presented waits to be scored; in one that is
scored after each attempt, nothing does. -/
theorem Staged.waits_iff (h : delivery.Staged state) (hunscored : delivery.Unscored state)
    {entry : PartState} (hentry : entry ∈ state.parts) (hstatus : entry.status = .interacting)
    {part : TestPart} (hpart : delivery.part state.plan entry.node = .ok part) {index : Nat}
    (hindex : index ∈ state.plan.itemsUnder entry.node) {place : ItemPlace} {session : ItemState}
    (hplace : state.plan.place index = .ok place)
    (hsession : state.items.get? place.ref = some session) :
    ItemDelivery.Waits part.submission session ↔
      part.submission = .simultaneous ∧ session.status ≠ .notEntered := by
  have hadmits := h.fits entry hentry index hindex place session hplace hsession
  rw [hstatus] at hadmits
  have hcurrent := h.currentPart_eq hentry hstatus
  cases hmode : part.submission with
  | individual =>
    refine ⟨fun hwaits => ?_, fun h => nomatch h.1⟩
    obtain ⟨-, hpending | ⟨hsimultaneous, -⟩⟩ := hwaits
    · have hmodeOf := (h.modeOf_eq hentry hpart).symm.trans (hadmits.2 hpending).2.2.2
      rw [hmode] at hmodeOf
      cases hmodeOf
    · cases hsimultaneous
  | simultaneous =>
    have hcollects : delivery.Collects state entry.node :=
      ⟨hunscored.status _ hcurrent, hcurrent, part, hpart, hmode⟩
    obtain ⟨hopen, hprocessed⟩ :=
      hunscored.fits _ hcollects index hindex place session hplace hsession
    refine ⟨fun hwaits => ⟨rfl, by rw [hwaits.1]; nofun⟩, fun h => ⟨?_, .inr ⟨rfl, hprocessed⟩⟩⟩
    cases hsession : session.status with
    | notEntered => exact absurd hsession h.2
    | interacting => rfl
    | closed => exact absurd hsession hopen

section distinct

variable (hdistinct : (delivery.definition.itemRefs.map ItemRef.identifier).Nodup)

include hdistinct

section sweeps

variable {node : Nat} {mode : SubmissionMode}
  {between scored items : SortedMap Identifier ItemState}
  {index : Nat} {place : ItemPlace} (h : delivery.Staged state)
  (hsuspend : Sweep delivery state.plan (ItemDelivery.Suspends now) state.currentItem.toList
    state.items between)
  (hscore : Sweep delivery state.plan (ItemDelivery.Scores now mode) (state.plan.itemsUnder node)
    between scored)
  (hclose : Sweep delivery state.plan (ItemDelivery.Ends now) (state.plan.itemsUnder node) scored
    items)
  (hplace : state.plan.place index = .ok place)

include h hsuspend hscore hclose hplace

/-- What the three sweeps over the items of a part that ends make of each of them. -/
theorem Staged.exists_sessions (hnode : node ∈ state.plan.testParts)
    (hindex : index ∈ state.plan.itemsUnder node) :
    ∃ item before rested early late, delivery.itemDelivery place = .ok item ∧
      state.items.get? place.ref = some before ∧ scored.get? place.ref = some early ∧
      items.get? place.ref = some late ∧
      (rested = before ∨ ItemDelivery.Suspends now item before rested) ∧
      ItemDelivery.Scores now mode item rested early ∧ ItemDelivery.Ends now item early late := by
  have hplaces := @TestPlan.eq_of_place_ref _ _ h.plan hdistinct
  have hnodup := TestPlan.nodup_itemsUnder h.plan hnode
  have hcursor : state.currentItem.toList.Nodup := by cases state.currentItem <;> simp
  obtain ⟨item, rested, early, hitem, hrested, hearly, hscores⟩ :=
    hscore.exists_moves hplaces hnodup hindex hplace
  obtain ⟨_, _, late, hitem', hearly', hlate, hends⟩ :=
    hclose.exists_moves hplaces hnodup hindex hplace
  obtain rfl := Except.ok.inj (hitem.symm.trans hitem')
  obtain rfl := Option.some.inj (hearly.symm.trans hearly')
  obtain ⟨before, hbefore⟩ := Option.isSome_iff_exists.1
    ((h.sessions place.ref).2 ⟨index, place, hplace, rfl⟩)
  obtain ⟨_, hrested', hrests⟩ := hsuspend.exists_eq_or_moves hplaces hcursor hplace hitem hbefore
  obtain rfl := Option.some.inj (hrested.symm.trans hrested')
  exact ⟨item, before, rested, early, late, hitem, hbefore, hearly, hlate, hrests, hscores, hends⟩

/-- The sweeps pass by the items of other parts. -/
theorem Staged.get?_of_not_mem (hcurrent : state.currentPart = some node)
    (hindex : index ∉ state.plan.itemsUnder node) :
    scored.get? place.ref = state.items.get? place.ref ∧
      items.get? place.ref = state.items.get? place.ref := by
  have hplaces := @TestPlan.eq_of_place_ref _ _ h.plan hdistinct
  have hcursor : index ∉ state.currentItem.toList := fun hmem =>
    hindex (h.currentItem_mem hcurrent (Option.mem_toList.1 hmem))
  have hscored := (hscore.get?_of_not_mem hplaces hindex hplace).trans
    (hsuspend.get?_of_not_mem hplaces hcursor hplace)
  exact ⟨hscored, (hclose.get?_of_not_mem hplaces hindex hplace).trans hscored⟩

/-- Every item stands as the sweep that scores left it, but for being closed. -/
theorem Staged.exists_eq_or_closes (hnode : node ∈ state.plan.testParts)
    (hcurrent : state.currentPart = some node) :
    ∃ early late, scored.get? place.ref = some early ∧ items.get? place.ref = some late ∧
      (late = early ∨ early.Closes now late) := by
  by_cases hindex : index ∈ state.plan.itemsUnder node
  · obtain ⟨_, _, _, early, late, -, -, hearly, hlate, -, -, hends⟩ :=
      h.exists_sessions hdistinct hsuspend hscore hclose hplace hnode hindex
    exact ⟨early, late, hearly, hlate, hends.eq_or_closes⟩
  · obtain ⟨hscored, hclosed⟩ :=
      h.get?_of_not_mem hdistinct hsuspend hscore hclose hplace hcurrent hindex
    obtain ⟨session, hsession⟩ := Option.isSome_iff_exists.1
      ((h.sessions place.ref).2 ⟨index, place, hplace, rfl⟩)
    exact ⟨session, session, hscored.trans hsession, hclosed.trans hsession, .inl rfl⟩

end sweeps

/-- What becomes of a session when the part that is under way ends. -/
theorem Reachable.endsPart (h : delivery.Reachable seed state) {step : Step (Option Identifier)}
    (hrun : (delivery.endPart now).run.run state = (.ok step, left)) :
    ∃ node part, state.currentPart = some node ∧ delivery.part state.plan node = .ok part ∧
      delivery.EndsPart now state left node part.submission := by
  have hstaged := h.staged hdistinct
  have hplaces := @TestPlan.eq_of_place_ref _ _ hstaged.plan hdistinct
  obtain ⟨-, _, part, counted, between, scored, notes, _, items, _, _, hcurrent,
    ⟨entry, hentry, rfl, hstatus⟩, hpart, hleave, hsuspend, hscore, hprocess, hclose, rfl, -, -⟩ :=
      delivery.ensures_endPart_processes.ok hrun
  obtain ⟨outcomes, exits, rfl⟩ := delivery.ensures_processOutcomes.ok hprocess
  have hnode := hstaged.mem_testParts hentry
  have hparts := @endAt_eq_map now _ entry.node hstaged.nodup
  refine ⟨entry.node, part, hcurrent, hpart, ?_, hparts, rfl, rfl, ?_, ?_, ?_, rfl, rfl⟩
  · refine ⟨{ entry with status := .ended, endTime := some now }, ?_, rfl, rfl⟩
    dsimp only
    rw [hparts]
    exact List.mem_map.2 ⟨entry, hentry, if_pos rfl⟩
  · intro index hindex
    obtain ⟨place, hplace⟩ := TestPlan.exists_place_of_mem hstaged.plan hnode hindex
    obtain ⟨item, before, rested, early, late, hitem, hbefore, hearly, hlate, hrests, hscores,
      hends⟩ := hstaged.exists_sessions hdistinct hsuspend hscore hclose hplace hnode hindex
    have hadmits := (hstaged.suspend hsuspend).fits entry hentry index hindex
    rw [hstatus] at hadmits
    obtain ⟨hclosed, hpending⟩ :=
      fits_ended hplaces hscore hclose hindex hadmits place late hplace hlate
    refine ⟨place, item, before, late, hplace, hitem, hbefore, hlate, hclosed, hpending, ?_⟩
    have hwaits := hstaged.waits_iff (h.unscored hdistinct) hentry hstatus hpart hindex hplace
      hbefore
    generalize part.submission = mode at hscores hwaits ⊢
    cases mode with
    | individual =>
      refine ItemDelivery.closesUnscored_of_rests hrests hscores hends fun h => ?_
      exact absurd (hwaits.1 h).1 nofun
    | simultaneous =>
      rw [ItemDelivery.EndsIn]
      split
      next hnew => exact ItemDelivery.closesUnseen_of_rests hrests hscores hends hnew
      next hnew =>
        exact ItemDelivery.scoresOnce_of_rests hrests hscores hends (hwaits.2 ⟨rfl, hnew⟩)
  · intro index hindex place hplace
    exact (hstaged.get?_of_not_mem hdistinct hsuspend hscore hclose hplace hcurrent hindex).2
  · obtain ⟨_, _, _, _, hcounted, -, hleft⟩ := leaves_leave.ok hleave
    obtain rfl : counted = _ := congrArg TestState.outcomes hleft
    exact ⟨counted, scored, notes, _, hprocess, hcounted, rfl, fun index place hplace =>
      hstaged.exists_eq_or_closes hdistinct hsuspend hscore hclose hplace hnode hcurrent⟩

end distinct

/-- An attempt on the one item of a part waits to be scored, and is scored once when the part ends.
-/
theorem endsPart_single :
    ∃ state left step, (single .nonlinear .simultaneous).Reachable 0 state ∧
      ((single .nonlinear .simultaneous).endPart (.unixMillis 0)).run.run state =
        (.ok step, left) ∧
      state.items.toList.any (·.2.pending) = true ∧
      (single .nonlinear .simultaneous).EndsPart (.unixMillis 0) state left 1 .simultaneous := by
  let delivery := single .nonlinear .simultaneous
  have hsession : (delivery.sessionAfter 0 [.enterTest (.logical 0), .enterPart (.unixMillis 0),
        .select (.logical 0) ⟨"Q", by decide +kernel⟩, .respond (.unixMillis 0) .empty]).any
      (fun state => state.items.toList.any (·.2.pending) && decide (delivery.Collects state 1) &&
        ((delivery.endPart (.unixMillis 0)).run.run state).1.isOk) = true := by
    decide +kernel
  obtain ⟨state, hstate, hcheck⟩ := (Option.any_eq_true _ _).1 hsession
  simp only [Bool.and_eq_true, decide_eq_true_eq] at hcheck
  obtain ⟨⟨hpending, -, hcurrent, part, hpart, hmode⟩, hok⟩ := hcheck
  have hreachable := reachable_of_sessionAfter hstate
  rcases hrun : (delivery.endPart (.unixMillis 0)).run.run state with ⟨error | step, left⟩
  · rw [hrun] at hok
    cases hok
  · obtain ⟨node, found, hnode, hfound, hends⟩ := hreachable.endsPart (by decide +kernel) hrun
    obtain rfl := Option.some.inj (hcurrent.symm.trans hnode)
    obtain rfl := Except.ok.inj (hpart.symm.trans hfound)
    rw [hmode] at hends
    exact ⟨state, left, step, hreachable, hrun, hpending, hends⟩

end TestDelivery

/-! ### A test with an item that is not presented -/

/-- A test with one item, of which template processing says that it is not known how far the
candidate has come. -/
def TestDefinition.undetermined : TestDefinition :=
  let test := TestDefinition.single .linear .simultaneous
  let unknown : Expression := .baseValue (.identifier Completion.unknown.identifier)
  let rule : Rule := .assign .outcomeValue BuiltIn.completionStatus.identifier unknown
  { test with items := test.items.map fun item => { item with templateProcessing := [rule] } }

/-- The test with that item, with an engine that has no extensions. -/
def TestDelivery.undetermined : TestDelivery :=
  { TestDelivery.single .linear .simultaneous with definition := .undetermined }

namespace TestDelivery

/-- When a part ends that is scored at its end, the outcomes of an item that was never presented may
change, also where validation finds no errors in the test. -/
theorem not_forall_outcomes_eq :
    ¬∀ (delivery : TestDelivery) (seed : UInt64) (state left : TestState) (now : Timestamp)
      (step : Step (Option Identifier)) (node : Nat),
      (delivery.definition.validate delivery.engine.registry).errors = [] →
      (delivery.definition.itemRefs.map ItemRef.identifier).Nodup →
      delivery.Reachable seed state → delivery.Collects state node →
      (delivery.endPart now).run.run state = (.ok step, left) →
      ∀ index ∈ state.plan.itemsUnder node, ∀ place before after,
        state.plan.place index = .ok place → state.items.get? place.ref = some before →
        left.items.get? place.ref = some after → before.status = .notEntered →
        after.outcomes = before.outcomes := by
  intro hkeeps
  have hsession : (undetermined.sessionAfter 0 [.enterTest (.logical 0),
        .enterPart (.logical 0)]).any (fun state =>
      let answer := (undetermined.endPart (.logical 0)).run.run state
      decide (undetermined.Collects state 1) && (state.plan.itemsUnder 1).contains 3 &&
        answer.1.isOk && (state.plan.place 3).toOption.any fun place =>
          (state.items.get? place.ref).any fun before =>
            (answer.2.items.get? place.ref).any fun after => before.status = .notEntered &&
              before.completion? = some .unknown && after.completion? = some .completed) =
      true := by
    decide +kernel
  obtain ⟨state, hstate, hcheck⟩ := (Option.any_eq_true _ _).1 hsession
  rcases hrun : (undetermined.endPart (.logical 0)).run.run state with ⟨error | step, left⟩ <;>
    rcases hplace : state.plan.place 3 with error' | place <;>
    simp only [hrun, hplace, Except.isOk, Except.toBool, Except.toOption, Option.any_none,
      Option.any_some, Bool.and_false, Bool.false_and, Bool.false_eq_true, Bool.and_true,
      Bool.and_eq_true, Option.any_eq_true, decide_eq_true_eq, List.contains_iff_mem] at hcheck
  obtain ⟨⟨hcollects, hindex⟩, before, hbefore, after, hafter, ⟨hnew, hunknown⟩, hcompleted⟩ :=
    hcheck
  have hsame := hkeeps undetermined 0 state left (.logical 0) step 1 (by decide +kernel)
    (by decide +kernel) (reachable_of_sessionAfter hstate) hcollects hrun 3 hindex place before
    after hplace hbefore hafter hnew
  have hcompletion : after.completion? = before.completion? := by
    rw [ItemState.completion?, ItemState.completion?, hsame]
  rw [hunknown, hcompleted] at hcompletion
  cases hcompletion

end TestDelivery

end Assessment
