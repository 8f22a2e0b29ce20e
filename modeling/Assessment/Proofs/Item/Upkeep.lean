import Assessment.Proofs.Item.Progress

/-!
# Invariants of item sessions

Every operation on an item session is put together from a few changes: values are set for built-in
variables, stores are set to defaults, responses are bound, and rules are run. A property of
sessions that these changes keep is therefore kept by all operations, whether they are accepted or
refused.

## Main definitions

- `ItemState.SameVariables`: two sessions that differ in bookkeeping only.
- `ItemAction.Keeps` and `ItemAction.Reports`: what an operation does to a property of sessions, and
  what it reports.
- `ItemDelivery.Upholds` and `ItemDelivery.Processes`: the changes keep a property.
- `ItemRequest` and `ItemDelivery.Attains`: the sessions that operations lead to.

## Main results

- `ItemDelivery.Upholds.touch`, `enter`, `suspend` and `endSession`, and
  `ItemDelivery.Processes.processTemplate`, `processResponse` and `attempt`: all operations on item
  sessions keep such a property.
- `ItemDelivery.Attains.invariant`: such a property holds of all sessions that operations lead to.
-/

namespace Assessment

open Action

/-- Two sessions of one item in which all variables are the same. -/
structure ItemState.SameVariables (before after : ItemState) : Prop where
  /-- They are sessions of one item. -/
  digest : after.digest = before.digest
  /-- They have the same values. -/
  store : after.store = before.store
  /-- The template variables start with the same values. -/
  templateDefaults : after.templateDefaults = before.templateDefaults
  /-- The same correct answers were changed. -/
  correctOverrides : after.correctOverrides = before.correctOverrides
  /-- The same defaults were changed. -/
  defaultOverrides : after.defaultOverrides = before.defaultOverrides

namespace ItemAction

variable {α β : Type} {holds : ItemState → Prop} {quiet : NotificationLog → Prop}
  {session : ItemState}

/-- An operation keeps a property of sessions and does not fail with a logic error. -/
def Keeps (holds : ItemState → Prop) (operation : ItemAction α) (session : ItemState) : Prop :=
  operation.Ensures session (fun _ left => holds left)
    fun error left => error.isLogic = false ∧ holds left

/-- An operation keeps a property of sessions and does not fail with a logic error, and of what it
reports `quiet` holds. -/
def Reports (holds : ItemState → Prop) (quiet : NotificationLog → Prop)
    (operation : ItemAction NotificationLog) (session : ItemState) : Prop :=
  operation.Ensures session (fun log left => holds left ∧ quiet log)
    fun error left => error.isLogic = false ∧ holds left

theorem Keeps.bind {operation : ItemAction α} {next : α → ItemAction β}
    (h : Keeps holds operation session)
    (hnext : ∀ a left, holds left → Keeps holds (next a) left) :
    Keeps holds (operation >>= next) session :=
  Ensures.bind h hnext fun _ _ herror => herror

theorem Keeps.bind_reports {operation : ItemAction α} {next : α → ItemAction NotificationLog}
    (h : Keeps holds operation session)
    (hnext : ∀ a left, holds left → Reports holds quiet (next a) left) :
    Reports holds quiet (operation >>= next) session :=
  Ensures.bind h hnext fun _ _ herror => herror

theorem Reports.keeps {operation : ItemAction NotificationLog}
    (h : Reports holds quiet operation session) : Keeps holds operation session :=
  Ensures.mono h (fun _ _ hleft => hleft.1) fun _ _ herror => herror

/-- A part that never fails keeps a property as an operation. -/
theorem keeps_ofLogic {inner : Action ItemState LogicError α}
    (h : inner.Ensures session (fun _ => holds) fun _ _ => False) :
    Keeps holds (ofLogic inner) session := by
  rw [Keeps, ensures_ofLogic]
  exact h.mono (fun _ _ hleft => hleft) fun _ _ herror => herror.elim

end ItemAction

namespace ItemDelivery

variable {item : ItemDelivery} {holds : ItemState → Prop} {quiet : NotificationLog → Prop}
  {session : ItemState}

/-- The changes that operations on sessions of the item make, apart from running rules, keep a
property of sessions. -/
structure Upholds (item : ItemDelivery) (holds : ItemState → Prop) : Prop where
  /-- The sessions are sessions of the item. -/
  digest : ∀ {session}, holds session → session.digest = item.digest
  /-- The property is one of the variables. -/
  frame : ∀ {before after : ItemState}, holds before → before.SameVariables after → holds after
  /-- Time is counted. -/
  duration : ∀ {session}, holds session → ∀ seconds,
    (ItemState.setAll .response [(BuiltIn.duration.identifier, .duration seconds)]).Ensures session
      (fun _ => holds) fun _ _ => False
  /-- An attempt is counted. -/
  attempts : ∀ {session}, holds session →
    (ItemState.setAll .response
      [(BuiltIn.numAttempts.identifier, .integer (Word.succSaturating session.attempts))]).Ensures
      session (fun _ => holds) fun _ _ => False
  /-- It is said how far the candidate has come. -/
  completion : ∀ {session}, holds session → ∀ completion : Completion,
    (ItemState.setAll .outcome
      [(BuiltIn.completionStatus.identifier, .identifier completion.identifier)]).Ensures session
      (fun _ => holds) fun _ _ => False
  /-- Responses are bound. -/
  bind : ∀ {session responses validate bound}, holds session →
    item.bindResponses responses validate = .ok bound →
    (ItemState.setAll .response bound).Ensures session (fun _ => holds) fun _ _ => False
  /-- Template variables are put back. -/
  templates : ∀ {session}, holds session →
    (ItemState.restartTemplates item.definition).Ensures session (fun _ => holds) fun _ _ => False
  /-- Responses are set to their defaults. -/
  responses : ∀ {session}, holds session →
    (ItemState.setAll .response (item.definition.responses.map fun d =>
      (d.identifier, resetValue session d.identifier d.initial))).Ensures session
      (fun _ => holds) fun _ _ => False
  /-- Outcomes are set to their defaults. -/
  outcomes : ∀ {session}, holds session →
    (ItemState.setAll .outcome (item.definition.outcomes.map fun d =>
      (d.identifier, resetValue session d.identifier d.initial))).Ensures session
      (fun _ => holds) fun _ _ => False

/-- All changes that operations on sessions of the item make keep a property of sessions, and of
what rules report `quiet` holds. -/
structure Processes (item : ItemDelivery) (holds : ItemState → Prop)
    (quiet : NotificationLog → Prop) : Prop extends item.Upholds holds where
  /-- Rules of template processing are run. -/
  template : ∀ {session}, holds session → ∀ seed pass,
    ((Rule.executeTemplate item.engine (ItemState.stage item.definition)
      item.definition.templateProcessing).on
      (.forPass seed pass item.engine.options.level)).Ensures session
      (fun answer left => holds left ∧ quiet answer.2) fun _ _ => False
  /-- Rules of response processing are run. -/
  response : ∀ {session}, holds session → ∀ seed pass,
    ((Rule.execute item.engine (ItemState.stage item.definition)
      item.definition.responseProcessing).on
      (.forPass seed pass item.engine.options.level)).Ensures session
      (fun answer left => holds left ∧ quiet answer.2) fun _ _ => False
  /-- Nothing is reported. -/
  empty : quiet (.empty item.engine.options.level)

/-! ### Operations that run no rules -/

namespace Upholds

open ItemAction

variable (h : item.Upholds holds) (hsession : holds session)

include h hsession

/-- The session is one of the item. -/
theorem check : Keeps holds item.check session := by
  rw [Keeps, ItemDelivery.check, ensures_bind, ensures_get, ensures_ite]
  exact ⟨fun _ => hsession, fun hne => absurd (h.digest hsession) hne⟩

omit h in
theorem requireInteracting : Keeps holds ItemDelivery.requireInteracting session := by
  rw [Keeps, ItemDelivery.requireInteracting, ensures_bind, ensures_get]
  split
  next => exact ⟨rfl, hsession⟩
  next => exact ⟨rfl, hsession⟩
  next => exact hsession

theorem setCompletion (completion : Completion) :
    Keeps holds (ItemAction.setCompletion completion) session :=
  keeps_ofLogic (h.completion hsession completion)

theorem resetResponses : Keeps holds item.resetResponses session := by
  rw [Keeps, ItemDelivery.resetResponses, ensures_bind, ensures_get]
  exact keeps_ofLogic (h.responses hsession)

theorem resetOutcomes : Keeps holds item.resetOutcomes session := by
  rw [Keeps, ItemDelivery.resetOutcomes, ensures_bind, ensures_get]
  exact keeps_ofLogic (h.outcomes hsession)

/-- Counting time keeps the property. -/
theorem touch (now : Timestamp) : Keeps holds (item.touch now) session := by
  refine (h.check hsession).bind fun _ left hleft => ?_
  rw [Keeps, ensures_bind, ensures_get]
  split
  next =>
    dsimp only
    split
    next elapsed _ =>
      rw [ensures_ite, ensures_bind]
      refine ⟨fun _ => ?_, fun _ => h.frame hleft ⟨rfl, rfl, rfl, rfl, rfl⟩⟩
      refine Ensures.mono (keeps_ofLogic (h.duration hleft _)) (fun _ _ hcounted => ?_)
        fun _ _ herror => herror
      exact h.frame hcounted ⟨rfl, rfl, rfl, rfl, rfl⟩
    next => exact h.frame hleft ⟨rfl, rfl, rfl, rfl, rfl⟩
  next => exact hleft

theorem close (now : Timestamp) : Keeps holds (item.close now) session := by
  refine (h.touch hsession now).bind fun _ left hleft => ?_
  rw [Keeps, ensures_bind, ensures_get]
  dsimp only
  rw [ensures_ite, ensures_bind]
  refine ⟨fun _ => ?_, fun _ => h.frame hleft ⟨rfl, rfl, rfl, rfl, rfl⟩⟩
  refine Ensures.mono (h.setCompletion hleft _) (fun _ _ hcompleted => ?_) fun _ _ herror => herror
  exact h.frame hcompleted ⟨rfl, rfl, rfl, rfl, rfl⟩

/-- Presenting the item keeps the property. -/
theorem enter (now : Timestamp) : Keeps holds (item.enter now) session := by
  refine (h.check hsession).bind fun _ left hleft => ?_
  rw [Keeps, ensures_bind, ensures_get]
  split
  next => exact ⟨rfl, hleft⟩
  next =>
    have hentered : holds { left with
        status := .interacting, entryTime := some now, lastEvent := some now } :=
      h.frame hleft ⟨rfl, rfl, rfl, rfl, rfl⟩
    rw [ensures_bind, ensures_set, ensures_ite]
    exact ⟨fun _ => h.setCompletion hentered _, fun _ => hentered⟩
  next =>
    refine (h.touch hleft now).bind fun _ _ hcounted => ?_
    exact h.frame hcounted ⟨rfl, rfl, rfl, rfl, rfl⟩

/-- Stopping the clock keeps the property. -/
theorem suspend (now : Timestamp) : Keeps holds (item.suspend now) session := by
  refine (h.check hsession).bind fun _ _ hchecked =>
    (requireInteracting hchecked).bind fun _ _ hopen => ?_
  refine (h.touch hopen now).bind fun _ _ hcounted => ?_
  exact h.frame hcounted ⟨rfl, rfl, rfl, rfl, rfl⟩

/-- Ending the session keeps the property. -/
theorem endSession (now : Timestamp) : Keeps holds (item.endSession now) session := by
  refine (h.check hsession).bind fun _ left hleft => ?_
  rw [Keeps, ensures_bind, ensures_get]
  dsimp only
  rw [ensures_ite, ensures_bind, ensures_throw]
  exact ⟨fun _ => ⟨rfl, hleft⟩, fun _ => h.close hleft now⟩

end Upholds

/-! ### Operations that run rules -/

namespace Processes

open ItemAction

variable (h : item.Processes holds quiet) (hsession : holds session)

include h hsession

/-- Template processing keeps the property. -/
theorem processTemplate : Reports holds quiet item.processTemplate session := by
  refine (h.check hsession).bind_reports fun _ left hleft => ?_
  rw [Reports, ensures_bind, ensures_get]
  dsimp only
  rw [ensures_ite, ensures_bind, ensures_throw]
  refine ⟨fun _ => ⟨rfl, hleft⟩, fun _ => ?_⟩
  rw [ensures_ite, ensures_bind, ensures_throw]
  refine ⟨fun _ => ⟨rfl, hleft⟩, fun _ => ?_⟩
  have hnext : holds { left with passes := left.passes + 1 } :=
    h.frame hleft ⟨rfl, rfl, rfl, rfl, rfl⟩
  rw [nextEnvironment, ensures_bind, ensures_bind, ensures_get, ensures_bind, ensures_set,
    ensures_pure, ensures_bind, ensures_ofLogic]
  refine (h.templates hnext).mono (fun _ _ hstart => ?_) fun _ _ herror => herror.elim
  rw [ensures_bind, ensures_ofLogic]
  refine (h.template hstart _ _).mono ?_ fun _ _ herror => herror.elim
  rintro ⟨_, log⟩ _ ⟨hran, hlog⟩
  refine (h.resetResponses hran).bind_reports fun _ _ hresponses => ?_
  refine (h.resetOutcomes hresponses).bind_reports fun _ _ houtcomes => ?_
  exact ⟨h.frame houtcomes ⟨rfl, rfl, rfl, rfl, rfl⟩, hlog⟩

/-- Scoring keeps the property. -/
theorem processResponse (maxAttempts : UInt32) (now : Timestamp) :
    Reports holds quiet (item.processResponse maxAttempts now) session := by
  refine (h.check hsession).bind_reports fun _ _ hchecked =>
    (Upholds.requireInteracting hchecked).bind_reports fun _ left hleft => ?_
  extract_lets stage rules score
  have hscore : ∀ u start, holds start → Reports holds quiet (score u) start := by
    intro _ start hstart
    simp only [score]
    have hnext : holds { start with passes := start.passes + 1 } :=
      h.frame hstart ⟨rfl, rfl, rfl, rfl, rfl⟩
    rw [Reports, nextEnvironment, ensures_bind, ensures_bind, ensures_get, ensures_bind,
      ensures_set, ensures_pure, ensures_bind, ensures_ofLogic]
    refine (h.response hnext _ _).mono ?_ fun _ _ herror => herror.elim
    rintro ⟨_, log⟩ after ⟨hran, hlog⟩
    rw [ensures_bind, ensures_modify]
    have hscored : holds { after with responseProcessed := true, pending := false } :=
      h.frame hran ⟨rfl, rfl, rfl, rfl, rfl⟩
    rw [ensures_ite]
    refine ⟨fun _ => ?_, fun _ => ?_⟩
    · rw [ensures_bind, ensures_get, ensures_ite]
      refine ⟨fun _ => ?_, fun _ => ⟨hscored, hlog⟩⟩
      exact (h.close hscored now).bind_reports fun _ _ hclosed => ⟨hclosed, hlog⟩
    · refine (h.setCompletion hscored _).bind_reports fun _ _ hcompleted => ?_
      rw [Reports, ensures_bind, ensures_get, ensures_ite]
      refine ⟨fun _ => ?_, fun _ => ⟨hcompleted, hlog⟩⟩
      exact (h.close hcompleted now).bind_reports fun _ _ hclosed => ⟨hclosed, hlog⟩
  rw [Reports, ensures_ite]
  refine ⟨fun _ => ?_, fun _ => hscore () left hleft⟩
  exact (h.resetOutcomes hleft).bind_reports fun _ start hstart => hscore () start hstart

/-- Attempts keep the property. -/
theorem attempt (responses : SortedMap Identifier ResponseData) (now : Timestamp)
    (policy : SubmissionPolicy) :
    Reports holds quiet (item.attempt responses now policy) session := by
  refine (h.check hsession).bind_reports fun _ _ hchecked =>
    (Upholds.requireInteracting hchecked).bind_reports fun _ left hleft => ?_
  rw [Reports, ensures_bind, ensures_get]
  dsimp only
  rw [ensures_ite, ensures_bind, ensures_throw]
  refine ⟨fun _ => ⟨rfl, hleft⟩, fun _ => ?_⟩
  rw [ensures_ite, ensures_bind, ensures_throw]
  refine ⟨fun _ => ⟨rfl, hleft⟩, fun _ => ?_⟩
  cases hbound : item.bindResponses responses policy.validateResponses with
  | error invalid => exact ⟨rfl, hleft⟩
  | ok bound =>
    refine (h.touch hleft now).bind_reports fun _ _ htouched => ?_
    refine (keeps_ofLogic (h.bind htouched hbound)).bind_reports fun _ set hset => ?_
    rw [Reports, ensures_bind, ensures_get]
    refine (keeps_ofLogic (h.attempts hset)).bind_reports fun _ counted hcounted => ?_
    have hresponded : holds { counted with responded := true, responseProcessed := false } :=
      h.frame hcounted ⟨rfl, rfl, rfl, rfl, rfl⟩
    rw [Reports, ensures_bind, ensures_modify, ensures_ite]
    refine ⟨fun _ => ⟨h.frame hcounted ⟨rfl, rfl, rfl, rfl, rfl⟩, h.empty⟩, fun _ => ?_⟩
    exact h.processResponse hresponded _ _

end Processes

end ItemDelivery

/-! ### Operations in any order -/

/-- An operation on an item session. -/
inductive ItemRequest where
  /-- Do template processing. -/
  | processTemplate
  /-- Present the item. -/
  | enter (now : Timestamp)
  /-- Count the time. -/
  | touch (now : Timestamp)
  /-- Stop the clock. -/
  | suspend (now : Timestamp)
  /-- Make an attempt. -/
  | attempt (responses : SortedMap Identifier ResponseData) (now : Timestamp)
      (policy : SubmissionPolicy)
  /-- Score the last attempt. -/
  | processResponse (maxAttempts : UInt32) (now : Timestamp)
  /-- End the session. -/
  | endSession (now : Timestamp)

namespace ItemDelivery

variable {item : ItemDelivery} {holds : ItemState → Prop} {session : ItemState}

/-- Do what is requested; the answer is left out. -/
def serve (item : ItemDelivery) : ItemRequest → ItemAction Unit
  | .processTemplate => (fun _ => ()) <$> item.processTemplate
  | .enter now => item.enter now
  | .touch now => item.touch now
  | .suspend now => item.suspend now
  | .attempt responses now policy => (fun _ => ()) <$> item.attempt responses now policy
  | .processResponse maxAttempts now => (fun _ => ()) <$> item.processResponse maxAttempts now
  | .endSession now => item.endSession now

/-- The sessions that operations lead to from a new session with any seed and any defaults of its
template variables, whether the operations are accepted or refused. -/
inductive Attains (item : ItemDelivery) : ItemState → Prop where
  /-- A new session. -/
  | created {templateDefaults : Store} {seed : UInt64} {session : ItemState} :
      item.create templateDefaults seed = .ok session → Attains item session
  /-- The session that an operation leaves. -/
  | served {session : ItemState} (request : ItemRequest) : Attains item session →
      Attains item ((item.serve request).run.run session).2

/-- A property that all changes keep is kept by every operation. -/
theorem Processes.serve {quiet : NotificationLog → Prop} (h : item.Processes holds quiet)
    (hsession : holds session) (request : ItemRequest) :
    ItemAction.Keeps holds (item.serve request) session := by
  cases request with
  | enter now => exact h.enter hsession now
  | touch now => exact h.touch hsession now
  | suspend now => exact h.suspend hsession now
  | endSession now => exact h.endSession hsession now
  | processTemplate =>
    rw [ItemDelivery.serve, ItemAction.Keeps, ensures_map]
    exact (h.processTemplate hsession).keeps
  | attempt responses now policy =>
    rw [ItemDelivery.serve, ItemAction.Keeps, ensures_map]
    exact (h.attempt hsession responses now policy).keeps
  | processResponse maxAttempts now =>
    rw [ItemDelivery.serve, ItemAction.Keeps, ensures_map]
    exact (h.processResponse hsession maxAttempts now).keeps

/-- A property of new sessions that all changes keep holds of all sessions that operations lead
to. -/
theorem Attains.invariant {quiet : NotificationLog → Prop} (hprocesses : item.Processes holds quiet)
    (hcreated : ∀ templateDefaults seed session,
      item.create templateDefaults seed = .ok session → holds session)
    (h : item.Attains session) : holds session := by
  induction h with
  | created hcreate => exact hcreated _ _ _ hcreate
  | @served session request _ ih =>
    have hkeeps := hprocesses.serve ih request
    rcases hrun : (item.serve request).run.run session with ⟨error | ⟨⟩, left⟩
    · exact (hkeeps.error hrun).2
    · exact hkeeps.ok hrun

end ItemDelivery

end Assessment
