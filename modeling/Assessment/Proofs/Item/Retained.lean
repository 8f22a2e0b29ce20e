import Assessment.Proofs.Item.Change

/-!
# What failing operations retain

An operation that ends with an error leaves the session as far as it got to change it. In an item
that was never validated that may be in the middle of the work: a variable has no place in its
store, or a rule means one that is not declared. A property of sessions that each single change
retains, whether it succeeds or not, is nevertheless retained by every operation and so holds of all
sessions that operations lead to.

For items without errors `ItemDelivery.Upholds` says more: there the changes never fail.

## Main definitions

- `ItemDelivery.Retains`: the changes retain a property of sessions.
- `ItemState.Follows`: a session of the same variables that is no less far, and the same if it was
  over.

## Main results

- `ItemDelivery.Retains.leaves_serve`: every operation retains such a property.
- `ItemDelivery.Retains.foldl_serve`: so does any number of operations.
- `ItemDelivery.leaves_follows`: what follows a session, whatever is requested of it.
-/

namespace Assessment

open Action ItemAction

namespace ItemDelivery

variable {item : ItemDelivery} {holds : ItemState → Prop} {state : ItemState} {now : Timestamp}

/-- The changes that operations on sessions of the item make leave a property of sessions as it is,
also where they fail. -/
structure Retains (item : ItemDelivery) (holds : ItemState → Prop) : Prop where
  /-- The property is one of the variables. -/
  frame : ∀ {before after : ItemState}, holds before → before.SameVariables after → holds after
  /-- The time between two moments is counted. -/
  duration : ∀ {state elapsed} {now last : Timestamp}, holds state →
    now.secondsSince? last = some elapsed →
    (ItemState.setAll .response
      [(BuiltIn.duration.identifier, .duration (state.duration + elapsed))]).Leaves state holds
  /-- An attempt is counted. -/
  attempts : ∀ {state} attempts, holds state →
    (ItemState.setAll .response [(BuiltIn.numAttempts.identifier, .integer attempts)]).Leaves
      state holds
  /-- It is said how far the candidate has come. -/
  completion : ∀ {state} (completion : Completion), holds state →
    (ItemState.setAll .outcome
      [(BuiltIn.completionStatus.identifier, .identifier completion.identifier)]).Leaves state holds
  /-- Responses are bound. -/
  bind : ∀ {state responses validate bound}, holds state →
    item.bindResponses responses validate = .ok bound →
    (ItemState.setAll .response bound).Leaves state holds
  /-- Template variables are put back. -/
  templates : ∀ {state}, holds state →
    (ItemState.restartTemplates item.definition).Leaves state holds
  /-- Responses are set to their defaults. -/
  responses : ∀ {state}, holds state →
    (ItemState.setAll .response (item.definition.responses.map fun d =>
      (d.identifier, resetValue state d.identifier d.initial))).Leaves state holds
  /-- Outcomes are set to their defaults. -/
  outcomes : ∀ {state}, holds state →
    (ItemState.setAll .outcome (item.definition.outcomes.map fun d =>
      (d.identifier, resetValue state d.identifier d.initial))).Leaves state holds
  /-- Rules of template processing are run. -/
  template : ∀ {state} environment, holds state →
    ((Rule.executeTemplate item.engine (ItemState.stage item.definition)
      item.definition.templateProcessing).on environment).Leaves state holds
  /-- Rules of response processing are run. -/
  response : ∀ {state} environment, holds state →
    ((Rule.execute item.engine (ItemState.stage item.definition)
      item.definition.responseProcessing).on environment).Leaves state holds

namespace Retains

variable (h : item.Retains holds) (hstate : holds state)

include h hstate

/-- Bookkeeping does not matter. -/
theorem same {after : ItemState}
    (hafter : after = { state with
      status := after.status
      templateProcessed := after.templateProcessed
      responseProcessed := after.responseProcessed
      pending := after.pending
      responded := after.responded
      entryTime := after.entryTime
      endTime := after.endTime
      lastEvent := after.lastEvent
      passes := after.passes }) : holds after := by
  rw [hafter]
  exact h.frame hstate ⟨rfl, rfl, rfl, rfl, rfl⟩

theorem leaves_setCompletion (completion : Completion) :
    (setCompletion completion).Leaves state holds :=
  leaves_ofLogic (h.completion completion hstate)

theorem leaves_resetResponses : item.resetResponses.Leaves state holds := by
  rw [resetResponses, Leaves, ensures_bind, ensures_get]
  exact leaves_ofLogic (h.responses hstate)

theorem leaves_resetOutcomes : item.resetOutcomes.Leaves state holds := by
  rw [resetOutcomes, Leaves, ensures_bind, ensures_get]
  exact leaves_ofLogic (h.outcomes hstate)

theorem leaves_nextEnvironment : item.nextEnvironment.Leaves state holds := by
  refine item.leaves_nextEnvironment.mono ?_
  rintro _ rfl
  exact h.same hstate rfl

/-- Counting time retains the property. -/
theorem leaves_touch (now : Timestamp) : (item.touch now).Leaves state holds := by
  refine item.leaves_check.read (fun _ => ?_) hstate
  rw [Leaves, ensures_bind, ensures_get]
  split
  next last _ _ =>
    dsimp only
    split
    next elapsed helapsed =>
      rw [ensures_ite]
      refine ⟨fun _ => ?_, fun _ => h.same hstate rfl⟩
      refine (leaves_ofLogic (h.duration hstate helapsed)).bind ?_ fun _ hleft => hleft
      exact fun _ counted hcounted => h.same hcounted rfl
    next => exact h.same hstate rfl
  next => exact hstate

theorem leaves_close (now : Timestamp) : (item.close now).Leaves state holds := by
  refine (h.leaves_touch hstate now).bind ?_ fun _ hleft => hleft
  intro _ touched htouched
  rw [Leaves, ensures_bind, ensures_get]
  dsimp only
  rw [ensures_ite]
  refine ⟨fun _ => ?_, fun _ => h.same htouched rfl⟩
  refine (h.leaves_setCompletion htouched _).bind ?_ fun _ hleft => hleft
  exact fun _ completed hcompleted => h.same hcompleted rfl

/-- Presenting the item retains the property. -/
theorem leaves_enter (now : Timestamp) : (item.enter now).Leaves state holds := by
  refine item.leaves_check.read (fun _ => ?_) hstate
  rw [Leaves, ensures_bind, ensures_get]
  split
  next => exact hstate
  next =>
    have hentered : holds { state with
        status := .interacting, entryTime := some now, lastEvent := some now } :=
      h.same hstate rfl
    rw [ensures_bind, ensures_set, ensures_ite]
    exact ⟨fun _ => h.leaves_setCompletion hentered _, fun _ => hentered⟩
  next =>
    refine (h.leaves_touch hstate now).bind ?_ fun _ hleft => hleft
    exact fun _ touched htouched => h.same htouched rfl

/-- Stopping the clock retains the property. -/
theorem leaves_suspend (now : Timestamp) : (item.suspend now).Leaves state holds := by
  refine item.leaves_check.read (fun _ => ?_) hstate
  refine leaves_requireInteracting.read (fun _ => ?_) hstate
  refine (h.leaves_touch hstate now).bind ?_ fun _ hleft => hleft
  exact fun _ touched htouched => h.same htouched rfl

/-- Ending the session retains the property. -/
theorem leaves_endSession (now : Timestamp) : (item.endSession now).Leaves state holds := by
  refine item.leaves_check.read (fun _ => ?_) hstate
  rw [Leaves, ensures_bind, ensures_get]
  dsimp only
  rw [ensures_ite, ensures_bind, ensures_throw]
  exact ⟨fun _ => hstate, fun _ => h.leaves_close hstate now⟩

/-- Template processing retains the property. -/
theorem leaves_processTemplate : item.processTemplate.Leaves state holds := by
  refine item.leaves_check.read (fun _ => ?_) hstate
  rw [Leaves, ensures_bind, ensures_get]
  dsimp only
  rw [ensures_ite, ensures_bind, ensures_throw]
  refine ⟨fun _ => hstate, fun _ => ?_⟩
  rw [ensures_ite, ensures_bind, ensures_throw]
  refine ⟨fun _ => hstate, fun _ => ?_⟩
  refine (h.leaves_nextEnvironment hstate).bind ?_ fun _ hleft => hleft
  intro environment started hstarted
  refine (leaves_ofLogic (h.templates hstarted)).bind ?_ fun _ hleft => hleft
  intro _ restarted hrestarted
  refine (leaves_ofLogic (h.template environment hrestarted)).bind ?_ fun _ hleft => hleft
  intro _ ran hran
  refine (h.leaves_resetResponses hran).bind ?_ fun _ hleft => hleft
  intro _ reset hreset
  refine (h.leaves_resetOutcomes hreset).bind ?_ fun _ hleft => hleft
  exact fun _ done hdone => h.same hdone rfl

/-- Scoring retains the property. -/
theorem leaves_processResponse (maxAttempts : UInt32) (now : Timestamp) :
    (item.processResponse maxAttempts now).Leaves state holds := by
  refine item.leaves_check.read (fun _ => ?_) hstate
  refine leaves_requireInteracting.read (fun _ => ?_) hstate
  extract_lets stage rules score
  have hscore : ∀ u (start : ItemState), holds start → (score u).Leaves start holds := by
    intro _ start hstart
    refine (h.leaves_nextEnvironment hstart).bind ?_ fun _ hleft => hleft
    intro environment started hstarted
    refine (leaves_ofLogic (h.response environment hstarted)).bind ?_ fun _ hleft => hleft
    intro _ ran hran
    rw [Leaves, ensures_bind, ensures_modify]
    have hscored : holds { ran with responseProcessed := true, pending := false } :=
      h.same hran rfl
    -- An adaptive item is closed by what its rules say, any other one by its last attempt.
    rw [ensures_ite]
    refine ⟨fun _ => ?_, fun _ => ?_⟩
    · rw [ensures_bind, ensures_get, ensures_ite]
      refine ⟨fun _ => ?_, fun _ => hscored⟩
      exact (h.leaves_close hscored now).bind (fun _ _ hclosed => hclosed) fun _ hleft => hleft
    · refine (h.leaves_setCompletion hscored _).bind ?_ fun _ hleft => hleft
      intro _ completed hcompleted
      rw [Leaves, ensures_bind, ensures_get, ensures_ite]
      refine ⟨fun _ => ?_, fun _ => hcompleted⟩
      exact (h.leaves_close hcompleted now).bind (fun _ _ hclosed => hclosed) fun _ hleft => hleft
  rw [Leaves, ensures_ite]
  refine ⟨fun _ => ?_, fun _ => hscore () state hstate⟩
  exact (h.leaves_resetOutcomes hstate).bind (fun _ start hstart => hscore () start hstart)
    fun _ hleft => hleft

/-- An attempt retains the property, whatever the candidate sends. -/
theorem leaves_attempt (responses : SortedMap Identifier ResponseData) (now : Timestamp)
    (policy : SubmissionPolicy) : (item.attempt responses now policy).Leaves state holds := by
  refine item.leaves_check.read (fun _ => ?_) hstate
  refine leaves_requireInteracting.read (fun _ => ?_) hstate
  rw [Leaves, ensures_bind, ensures_get]
  dsimp only
  rw [ensures_ite, ensures_bind, ensures_throw]
  refine ⟨fun _ => hstate, fun _ => ?_⟩
  rw [ensures_ite, ensures_bind, ensures_throw]
  refine ⟨fun _ => hstate, fun _ => ?_⟩
  cases hbound : item.bindResponses responses policy.validateResponses with
  | error invalid => exact hstate
  | ok bound =>
    refine (h.leaves_touch hstate now).bind ?_ fun _ hleft => hleft
    intro _ touched htouched
    refine (leaves_ofLogic (h.bind htouched hbound)).bind ?_ fun _ hleft => hleft
    intro _ bound hbound
    rw [Leaves, ensures_bind, ensures_get]
    refine (leaves_ofLogic (h.attempts _ hbound)).bind ?_ fun _ hleft => hleft
    intro _ counted hcounted
    rw [Leaves, ensures_bind, ensures_modify, ensures_ite]
    have hresponded : holds { counted with responded := true, responseProcessed := false } :=
      h.same hcounted rfl
    exact ⟨fun _ => h.same hresponded rfl, fun _ => h.leaves_processResponse hresponded _ _⟩

/-- Whatever is requested, and whether or not it is done, the property is retained. -/
theorem leaves_serve (request : ItemRequest) : (item.serve request).Leaves state holds := by
  cases request with
  | touch now => exact h.leaves_touch hstate now
  | enter now => exact h.leaves_enter hstate now
  | suspend now => exact h.leaves_suspend hstate now
  | endSession now => exact h.leaves_endSession hstate now
  | processTemplate => exact (leaves_map _).2 (h.leaves_processTemplate hstate)
  | attempt responses now policy =>
    exact (leaves_map _).2 (h.leaves_attempt hstate responses now policy)
  | processResponse maxAttempts now =>
    exact (leaves_map _).2 (h.leaves_processResponse hstate maxAttempts now)

/-- The property is retained by any number of operations, of which some may fail. -/
theorem foldl_serve (requests : List ItemRequest) :
    holds (requests.foldl (fun state request => ((item.serve request).run.run state).2) state) := by
  induction requests generalizing state with
  | nil => exact hstate
  | cons request rest ih =>
    have hserved := h.leaves_serve hstate request
    rcases hrun : (item.serve request).run.run state with ⟨error | ⟨⟩, left⟩
    · rw [List.foldl_cons, hrun]
      exact ih (hserved.error hrun)
    · rw [List.foldl_cons, hrun]
      exact ih (hserved.ok hrun)

end Retains

/-! ### What follows a session -/

/-- Operations add no variables to a session and take none away. -/
theorem retains_sameNames (item : ItemDelivery) (start : ItemState) :
    item.Retains start.SameNames where
  frame hbefore hsame := fun role name => by
    rw [hsame.store]
    exact hbefore role name
  duration hstate _ := (ItemState.leaves_setAll_sameNames _ _).mono fun _ => hstate.trans
  attempts _ hstate := (ItemState.leaves_setAll_sameNames _ _).mono fun _ => hstate.trans
  completion _ hstate := (ItemState.leaves_setAll_sameNames _ _).mono fun _ => hstate.trans
  bind hstate _ := (ItemState.leaves_setAll_sameNames _ _).mono fun _ => hstate.trans
  templates hstate := (ItemState.leaves_restartTemplates_sameNames _).mono fun _ => hstate.trans
  responses hstate := (ItemState.leaves_setAll_sameNames _ _).mono fun _ => hstate.trans
  outcomes hstate := (ItemState.leaves_setAll_sameNames _ _).mono fun _ => hstate.trans
  template environment hstate :=
    Rule.leaves_executeTemplate (ItemState.stage_maintains_sameNames item.definition start)
      (fun _ hsession =>
        (ItemState.leaves_restartTemplates_sameNames _).mono fun _ => hsession.trans)
      _ environment hstate
  response environment hstate :=
    Rule.leaves_execute (ItemState.stage_maintains_sameNames item.definition start) _ environment
      hstate

end ItemDelivery

namespace ItemState

variable {before between after : ItemState}

/-- A session of the same variables that is no less far than another one, and the same if that one
is over. -/
structure Follows (before after : ItemState) : Prop where
  /-- It was presented if the other one was. -/
  presented : before.status = .notEntered ∨ after.status ≠ .notEntered
  /-- It is the same if the other one is over. -/
  closed : before.status = .closed → after = before
  /-- It has the same variables. -/
  names : before.SameNames after

theorem Follows.refl (state : ItemState) : state.Follows state :=
  ⟨Decidable.em _, fun _ => rfl, fun _ _ => rfl⟩

theorem Follows.trans (h : before.Follows between) (h' : between.Follows after) :
    before.Follows after where
  presented := h.presented.imp_right h'.presented.resolve_left
  closed hclosed := by
    obtain rfl := h.closed hclosed
    exact h'.closed hclosed
  names := h.names.trans h'.names

end ItemState

namespace ItemDelivery

/-- Whatever is requested of a session, and whether or not it is accepted, what is left follows the
session. -/
theorem leaves_follows (item : ItemDelivery) {state : ItemState} (request : ItemRequest) :
    (item.serve request).Leaves state state.Follows := by
  have hnames := (item.retains_sameNames state).leaves_serve (fun _ _ => rfl) request
  cases hstatus : state.status with
  | notEntered =>
    have hopen : state.status ≠ .closed := by rw [hstatus]; nofun
    exact hnames.mono fun _ hleft => ⟨.inl hstatus, fun hclosed => absurd hclosed hopen, hleft⟩
  | interacting =>
    have hopen : state.status ≠ .closed := by rw [hstatus]; nofun
    have hpresented := item.leaves_presented request (by rw [hstatus]; nofun)
    exact (Ensures.and hnames hpresented).mono
      (fun _ _ hleft => ⟨.inr hleft.2, fun hclosed => absurd hclosed hopen, hleft.1⟩)
      fun _ _ hleft => ⟨.inr hleft.2, fun hclosed => absurd hclosed hopen, hleft.1⟩
  | closed =>
    refine (item.leaves_of_closed request hstatus).mono ?_
    rintro _ rfl
    exact .refl _

end ItemDelivery

end Assessment
