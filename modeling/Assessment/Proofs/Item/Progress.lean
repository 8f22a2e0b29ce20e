import Assessment.Item.Session
import Assessment.Proofs.Execution

/-!
# How far item sessions come

Apart from the values of its variables, an item session is described by its progress: whether it was
presented or is over, and what was processed. Every operation of an item session has one statement
here. It says from which progress the operation is accepted, what the progress is afterwards, and
that an operation that is refused leaves the whole session as it was.

## Main definitions

- `ItemProgress`: how far a session has come.
- `ItemError.isLogic`: whether an error tells of a broken session and not of a refused operation.
- `ItemDelivery.attemptRefusal?`: why an attempt is refused.

## Main results

- `ItemDelivery.ensures_processTemplate`, `ItemDelivery.ensures_enter`,
  `ItemDelivery.ensures_suspend`, `ItemDelivery.ensures_endSession`,
  `ItemDelivery.ensures_processResponse` and `ItemDelivery.ensures_attempt`: what each operation
  does to the progress of a session.
-/

namespace Assessment

open Action

/-- How far an item session has come. -/
structure ItemProgress where
  /-- Where the session stands. -/
  status : ItemStatus
  /-- Whether template processing was done. -/
  templateProcessed : Bool
  /-- Whether the last attempt was scored. -/
  responseProcessed : Bool
  /-- Whether an attempt waits to be scored. -/
  pending : Bool
  /-- Whether an attempt was made. -/
  responded : Bool
  deriving DecidableEq

/-- The progress after an attempt was scored, which may end the session. -/
def ItemProgress.scored (progress : ItemProgress) (status : ItemStatus) : ItemProgress :=
  { progress with status, responseProcessed := true, pending := false }

/-- The progress of a session. -/
def ItemState.progress (state : ItemState) : ItemProgress :=
  ⟨state.status, state.templateProcessed, state.responseProcessed, state.pending, state.responded⟩

/-- Whether an error tells of a broken definition or session. -/
def ItemError.isLogic : ItemError → Bool
  | .logic _ => true
  | _ => false

@[simp]
theorem ItemError.isLogic_logic (error : LogicError) : (ItemError.logic error).isLogic = true := rfl

/-- Why a session that is not under way refuses what can only be done while it is. -/
def ItemState.refusal? (state : ItemState) : Option ItemError :=
  match state.status with
  | .notEntered => some .notEntered
  | .interacting => none
  | .closed => some .closed

/-- Why an attempt is refused, if it is. Nothing is changed to find this out. -/
def ItemDelivery.attemptRefusal? (item : ItemDelivery)
    (responses : SortedMap Identifier ResponseData) (policy : SubmissionPolicy)
    (state : ItemState) : Option ItemError :=
  match state.refusal? with
  | some error => some error
  | none =>
    if !state.templateProcessed then some .templateNotProcessed
    else if !item.isAttemptAllowed state policy.maxAttempts then
      some (.attemptsExhausted policy.maxAttempts)
    else
      match item.bindResponses responses policy.validateResponses with
      | .ok _ => none
      | .error invalid => some (.invalidResponse invalid)

namespace ItemState

variable {state : ItemState}

@[simp]
theorem progress_setStore (role : Role) (store : Store) :
    (state.setStore role store).progress = state.progress := by
  cases role <;> rfl

/-- Setting variables changes no progress. -/
theorem ensures_setAll (role : Role) (bindings : List (Identifier × Value)) :
    (setAll role bindings).Ensures state (fun _ left => left.progress = state.progress)
      fun _ _ => True := by
  induction bindings generalizing state with
  | nil => rfl
  | cons binding rest ih =>
    rw [setAll, ensures_bind, ensures_get]
    cases (state.store role).set binding.1 binding.2 with
    | error error => trivial
    | ok store =>
      rw [ensures_bind]
      change (setAll role rest).Ensures (state.setStore role store) _ _
      rw [← @progress_setStore state role store]
      exact ih

/-- Rules of an item change no progress. -/
theorem stage_keeps_progress (engine : Engine) (definition : ItemDefinition)
    (progress : ItemProgress) :
    (stage definition).Keeps engine (fun _ => True) (·.progress = progress) fun _ => True where
  evaluate _ _ _ := (ensures_run _ _).mono (fun _ _ _ => trivial) fun _ _ _ _ _ => trivial
  assign {session _ name _ _ value} hsession _ _ := by
    simp only [stage, assign, yields_bind]
    cases declared definition name with
    | error error => trivial
    | ok declaration =>
      rw [yields_ok]
      cases (session.store declaration.role).set name value with
      | error error => trivial
      | ok store =>
        rw [yields_ok, yields_ok, progress_setStore]
        exact hsession
  setCorrect {session name _ _ _ value} hsession _ hover _ := by
    cases hover
    simp only [setCorrect]
    cases definition.response? name with
    | none => trivial
    | some _ => exact hsession
  setDefault {session name _ _ _ value} hsession _ hover _ := by
    cases hover
    simp only [setDefault]
    cases declared definition name with
    | error error => trivial
    | ok declaration => exact hsession

/-- Putting the template variables back changes no progress. -/
theorem ensures_restartTemplates (definition : ItemDefinition) :
    (restartTemplates definition).Ensures state (fun _ left => left.progress = state.progress)
      fun _ _ => True := by
  rw [restartTemplates, ensures_bind, ensures_get]
  exact ensures_setAll _ _

/-- Running rules once changes no progress. -/
theorem ensures_execute (engine : Engine) (definition : ItemDefinition) (rules : List Rule)
    (environment : Environment) :
    ((Rule.execute engine (stage definition) rules).on environment).Ensures state
      (fun _ left => left.progress = state.progress) fun _ _ => True := by
  refine Execution.ensures_on
    (Rule.ensures_execute (stage_keeps_progress engine definition _) ?_ rfl)
  intro _ _ _ _
  trivial

/-- Template processing changes no progress. -/
theorem ensures_executeTemplate (engine : Engine) (definition : ItemDefinition) (rules : List Rule)
    (environment : Environment) :
    ((Rule.executeTemplate engine (stage definition) rules).on environment).Ensures state
      (fun _ left => left.progress = state.progress) fun _ _ => True := by
  refine Execution.ensures_on
    (Rule.ensures_executeTemplate (stage_keeps_progress engine definition _) ?_ ?_ rfl)
  · intro session hsession
    rw [← hsession]
    exact ensures_restartTemplates definition
  · intro _ _ _ _
    trivial

end ItemState

section ItemAction

variable {state : ItemState}

@[simp]
theorem ItemAction.ensures_ofLogic {α : Type} {inner : Action ItemState LogicError α}
    {done : α → ItemState → Prop} {failed : ItemError → ItemState → Prop} :
    (ofLogic inner).Ensures state done failed ↔
      inner.Ensures state done fun error left => failed (.logic error) left :=
  ensures_rename _ _

/-- Setting a variable changes no progress. -/
theorem ItemAction.ensures_setVariable (role : Role) (name : Identifier) (value : Value) :
    (setVariable role name value).Ensures state (fun _ left => left.progress = state.progress)
      fun error _ => error.isLogic := by
  rw [setVariable, ensures_ofLogic]
  exact (ItemState.ensures_setAll role _).mono (fun _ _ h => h) fun _ _ _ => rfl

theorem ItemAction.ensures_setCompletion (completion : Completion) :
    (setCompletion completion).Ensures state (fun _ left => left.progress = state.progress)
      fun error _ => error.isLogic :=
  ensures_setVariable _ _ _

end ItemAction

namespace ItemDelivery

variable (delivery : ItemDelivery) {state : ItemState}

/-- A session of another item is a broken one. -/
theorem ensures_check :
    delivery.check.Ensures state (fun _ left => left = state) fun error _ => error.isLogic := by
  rw [check, ensures_bind, ensures_get, ensures_ite]
  exact ⟨fun _ => rfl, fun _ => rfl⟩

/-- A session that is not under way is refused. -/
theorem ensures_requireInteracting :
    requireInteracting.Ensures state (fun _ left => state.status = .interacting ∧ left = state)
      fun _ left => state.status ≠ .interacting ∧ left = state := by
  rw [requireInteracting, ensures_bind, ensures_get]
  cases hstatus : state.status <;> simp

/-- A session that is not under way is refused for that reason. -/
theorem ensures_requireInteracting_refusal :
    requireInteracting.Ensures state (fun _ left => state.refusal? = none ∧ left = state)
      fun error left => state.refusal? = some error ∧ left = state := by
  rw [requireInteracting, ensures_bind, ensures_get, ItemState.refusal?]
  cases state.status <;> simp

/-- Counting time changes no progress. -/
theorem ensures_touch (now : Timestamp) :
    (delivery.touch now).Ensures state (fun _ left => left.progress = state.progress)
      fun error _ => error.isLogic := by
  refine delivery.ensures_check.bind ?_ fun _ _ herror => herror
  rintro _ _ rfl
  rw [ensures_bind, ensures_get]
  split
  next =>
    dsimp only
    split
    next elapsed _ =>
      rw [ensures_ite, ensures_bind]
      exact ⟨fun _ => ItemAction.ensures_setVariable _ _ _, fun _ => rfl⟩
    next => rfl
  next => rfl

/-- Presenting an item that is not closed gets its session under way. -/
theorem ensures_enter (now : Timestamp) :
    (delivery.enter now).Ensures state
      (fun _ left => state.status ≠ .closed ∧
        left.progress = { state.progress with status := .interacting })
      fun error left => error.isLogic ∨
        (error = .closed ∧ state.status = .closed) ∧ left = state := by
  refine delivery.ensures_check.bind ?_ fun _ _ herror => .inl herror
  rintro _ _ rfl
  rw [ensures_bind, ensures_get]
  split
  next hstatus => exact .inr ⟨⟨rfl, hstatus⟩, rfl⟩
  next hstatus =>
    rw [ensures_bind, ensures_set, ensures_ite]
    refine ⟨fun _ => ?_, fun _ => ⟨by simp [hstatus], rfl⟩⟩
    refine (ItemAction.ensures_setCompletion _).mono (fun _ left hleft => ⟨by simp [hstatus], ?_⟩)
      fun _ _ herror => .inl herror
    exact hleft
  next hstatus =>
    refine (delivery.ensures_touch now).bind (fun _ left hleft => ⟨by simp [hstatus], ?_⟩)
      fun _ _ herror => .inl herror
    change left.progress = _
    rw [hleft, ← hstatus]
    rfl

/-- Suspending a session that is under way changes no progress. -/
theorem ensures_suspend (now : Timestamp) :
    (delivery.suspend now).Ensures state
      (fun _ left => state.status = .interacting ∧ left.progress = state.progress)
      fun error left => error.isLogic ∨ state.status ≠ .interacting ∧ left = state := by
  refine delivery.ensures_check.bind ?_ fun _ _ herror => .inl herror
  rintro _ _ rfl
  refine ensures_requireInteracting.bind ?_ fun _ _ herror => .inr herror
  rintro _ _ ⟨hstatus, rfl⟩
  refine (delivery.ensures_touch now).bind (fun _ left hleft => ?_) fun _ _ herror => .inl herror
  exact ⟨hstatus, hleft⟩

/-- Closing a session changes nothing else of its progress. -/
theorem ensures_close (now : Timestamp) :
    (delivery.close now).Ensures state
      (fun _ left => left.progress = { state.progress with status := .closed })
      fun error _ => error.isLogic := by
  refine (delivery.ensures_touch now).bind (fun _ left hleft => ?_) fun _ _ herror => herror
  rw [← hleft, ensures_bind, ensures_get]
  dsimp only
  rw [ensures_ite, ensures_bind]
  refine ⟨fun _ => ?_, fun _ => rfl⟩
  refine (ItemAction.ensures_setCompletion _).mono (fun _ closed hclosed => ?_)
    fun _ _ herror => herror
  rw [← hclosed]
  rfl

/-- Ending a session that is not closed closes it. -/
theorem ensures_endSession (now : Timestamp) :
    (delivery.endSession now).Ensures state
      (fun _ left => state.status ≠ .closed ∧
        left.progress = { state.progress with status := .closed })
      fun error left => error.isLogic ∨ state.status = .closed ∧ left = state := by
  refine delivery.ensures_check.bind ?_ fun _ _ herror => .inl herror
  rintro _ _ rfl
  rw [ensures_bind, ensures_get]
  dsimp only
  rw [ensures_ite, ensures_bind, ensures_throw]
  refine ⟨fun hclosed => .inr ⟨of_decide_eq_true hclosed, rfl⟩, fun hclosed => ?_⟩
  have hstatus : _ ≠ ItemStatus.closed := fun h => hclosed (decide_eq_true h)
  exact (delivery.ensures_close now).mono (fun _ left hleft => ⟨hstatus, hleft⟩)
    fun _ _ herror => .inl herror

theorem ensures_nextEnvironment :
    delivery.nextEnvironment.Ensures state (fun _ left => left.progress = state.progress)
      fun error _ => error.isLogic := by
  rw [nextEnvironment, ensures_bind, ensures_get]
  rfl

theorem ensures_resetResponses :
    delivery.resetResponses.Ensures state (fun _ left => left.progress = state.progress)
      fun error _ => error.isLogic := by
  rw [resetResponses, ensures_bind, ensures_get, ItemAction.ensures_ofLogic]
  exact (ItemState.ensures_setAll _ _).mono (fun _ _ h => h) fun _ _ _ => rfl

theorem ensures_resetOutcomes :
    delivery.resetOutcomes.Ensures state (fun _ left => left.progress = state.progress)
      fun error _ => error.isLogic := by
  rw [resetOutcomes, ensures_bind, ensures_get, ItemAction.ensures_ofLogic]
  exact (ItemState.ensures_setAll _ _).mono (fun _ _ h => h) fun _ _ _ => rfl

/-- Template processing is done once, before the session is closed. -/
theorem ensures_processTemplate :
    delivery.processTemplate.Ensures state
      (fun _ left => state.status ≠ .closed ∧ state.templateProcessed = false ∧
        left.progress = { state.progress with templateProcessed := true })
      fun error left => error.isLogic ∨
        (state.status = .closed ∨ state.templateProcessed = true) ∧ left = state := by
  refine delivery.ensures_check.bind ?_ fun _ _ herror => .inl herror
  rintro _ _ rfl
  rw [ensures_bind, ensures_get]
  dsimp only
  rw [ensures_ite, ensures_bind, ensures_throw]
  refine ⟨fun hclosed => .inr ⟨.inl (of_decide_eq_true hclosed), rfl⟩, fun hclosed => ?_⟩
  rw [ensures_ite, ensures_bind, ensures_throw]
  refine ⟨fun hprocessed => .inr ⟨.inr hprocessed, rfl⟩, fun hprocessed => ?_⟩
  have hstatus : _ ≠ ItemStatus.closed := fun h => hclosed (decide_eq_true h)
  -- From here on the session may be changed, and only logic errors are left to fail with.
  refine (delivery.ensures_nextEnvironment.bind (fun environment _ hnext => ?_)
    fun _ _ herror => .inl herror)
  rw [← hnext, ensures_bind, ItemAction.ensures_ofLogic]
  refine (ItemState.ensures_restartTemplates _).mono (fun _ _ hrestart => ?_) fun _ _ _ => .inl rfl
  rw [← hrestart, ensures_bind, ItemAction.ensures_ofLogic]
  refine (ItemState.ensures_executeTemplate _ _ _ _).mono (fun _ _ hrun => ?_) fun _ _ _ => .inl rfl
  rw [← hrun]
  refine delivery.ensures_resetResponses.bind (fun _ _ hresponses => ?_)
    fun _ _ herror => .inl herror
  rw [← hresponses]
  refine delivery.ensures_resetOutcomes.bind (fun _ _ houtcomes => ?_) fun _ _ herror => .inl herror
  rw [← houtcomes]
  exact ⟨hstatus, Bool.eq_false_iff.2 hprocessed, rfl⟩

/-- Scoring is done while the session is under way, which it may end. -/
theorem ensures_processResponse (maxAttempts : UInt32) (now : Timestamp) :
    (delivery.processResponse maxAttempts now).Ensures state
      (fun _ left => state.status = .interacting ∧
        ∃ status, status ≠ .notEntered ∧ left.progress = state.progress.scored status)
      fun error left => error.isLogic ∨ state.status ≠ .interacting ∧ left = state := by
  refine delivery.ensures_check.bind ?_ fun _ _ herror => .inl herror
  rintro _ _ rfl
  refine ensures_requireInteracting.bind ?_ fun _ _ herror => .inr herror
  rintro _ state ⟨hstatus, rfl⟩
  extract_lets stage rules score
  -- What follows is done in any case, whether or not the outcomes were put back before.
  have hscore : ∀ u (start : ItemState), start.progress = state.progress →
      (score u).Ensures start
        (fun _ left => ∃ status, status ≠ .notEntered ∧
          left.progress = state.progress.scored status)
        fun error _ => error.isLogic := by
    intro _ start hstart
    simp only [score]
    refine delivery.ensures_nextEnvironment.bind (fun environment _ hnext => ?_)
      fun _ _ herror => herror
    rw [ensures_bind, ItemAction.ensures_ofLogic]
    refine (ItemState.ensures_execute _ _ _ _).mono (fun _ after hrun => ?_) fun _ _ _ => rfl
    have hafter : after.progress = state.progress := hrun.trans (hnext.trans hstart)
    have hunderWay : after.progress.status = .interacting := by rw [hafter]; exact hstatus
    rw [ensures_bind, ensures_modify]
    -- From here on the session differs from the scored one at most in its status.
    generalize hscored : { after with responseProcessed := true, pending := false } = scored
    replace hscored : scored.progress = state.progress.scored .interacting := by
      rw [← hscored, ← hafter, ItemProgress.scored, ← hunderWay]
      rfl
    rw [ensures_ite]
    refine ⟨fun _ => ?_, fun _ => ?_⟩
    · rw [ensures_bind, ensures_get, ensures_ite]
      refine ⟨fun _ => ?_, fun _ => ⟨.interacting, nofun, hscored⟩⟩
      refine (delivery.ensures_close now).bind (fun _ _ hleft => ?_) fun _ _ herror => herror
      rw [hscored] at hleft
      exact ⟨.closed, nofun, hleft⟩
    · refine (ItemAction.ensures_setCompletion _).bind (fun _ _ hcompleted => ?_)
        fun _ _ herror => herror
      rw [hscored] at hcompleted
      rw [ensures_bind, ensures_get, ensures_ite]
      refine ⟨fun _ => ?_, fun _ => ⟨.interacting, nofun, hcompleted⟩⟩
      refine (delivery.ensures_close now).bind (fun _ _ hleft => ?_) fun _ _ herror => herror
      rw [hcompleted] at hleft
      exact ⟨.closed, nofun, hleft⟩
  rw [ensures_ite]
  refine ⟨fun _ => ?_, fun _ => ?_⟩
  · refine delivery.ensures_resetOutcomes.bind (fun _ start hstart => ?_)
      fun _ _ herror => .inl herror
    exact (hscore () start hstart).mono (fun _ _ h => ⟨hstatus, h⟩) fun _ _ herror => .inl herror
  · exact (hscore () state rfl).mono (fun _ _ h => ⟨hstatus, h⟩) fun _ _ herror => .inl herror

/-- An attempt is made while the session is under way, after template processing. It is scored at
once, or it waits for that. Whatever refuses it does so before the session is changed. -/
theorem ensures_attempt (responses : SortedMap Identifier ResponseData) (now : Timestamp)
    (policy : SubmissionPolicy) :
    (delivery.attempt responses now policy).Ensures state
      (fun _ left => state.status = .interacting ∧ state.templateProcessed = true ∧
        if policy.deferred then
          left.progress =
            { state.progress with responded := true, responseProcessed := false, pending := true }
        else
          ∃ status, status ≠ .notEntered ∧
            left.progress = { state.progress with responded := true }.scored status)
      fun error left => error.isLogic ∨
        delivery.attemptRefusal? responses policy state = some error ∧ left = state := by
  refine delivery.ensures_check.bind ?_ fun _ _ herror => .inl herror
  rintro _ state rfl
  rw [attemptRefusal?]
  refine (ensures_requireInteracting.and ensures_requireInteracting_refusal).bind ?_ ?_
  rotate_left
  · rintro _ _ ⟨-, hrefusal, hleft⟩
    exact .inr ⟨by rw [hrefusal], hleft⟩
  rintro _ state ⟨⟨hstatus, rfl⟩, hrefusal, -⟩
  rw [hrefusal, ensures_bind, ensures_get]
  dsimp only
  rw [ensures_ite, ensures_bind, ensures_throw]
  refine ⟨fun hunprocessed => .inr ⟨by rw [if_pos hunprocessed], rfl⟩, fun hprocessed => ?_⟩
  rw [if_neg hprocessed, ensures_ite, ensures_bind, ensures_throw]
  refine ⟨fun hexhausted => .inr ⟨by rw [if_pos hexhausted], rfl⟩, fun hallowed => ?_⟩
  rw [if_neg hallowed]
  cases delivery.bindResponses responses policy.validateResponses with
  | error invalid => exact .inr ⟨rfl, rfl⟩
  | ok bound =>
    change ((delivery.touch now >>= _ : ItemAction NotificationLog)).Ensures _ _ _
    refine (delivery.ensures_touch now).bind (fun _ _ htouch => ?_) fun _ _ herror => .inl herror
    rw [ensures_bind, ItemAction.ensures_ofLogic]
    refine (ItemState.ensures_setAll _ _).mono (fun _ _ hbound => ?_) fun _ _ _ => .inl rfl
    rw [ensures_bind, ensures_get]
    refine (ItemAction.ensures_setVariable _ _ _).bind (fun _ counted hcounted => ?_)
      fun _ _ herror => .inl herror
    have hcounted : counted.progress = state.progress := hcounted.trans (hbound.trans htouch)
    have hprocessed : state.templateProcessed = true := by simpa using hprocessed
    rw [ensures_bind, ensures_modify, ensures_ite]
    refine ⟨fun hdeferred => ?_, fun himmediate => ?_⟩
    · refine ⟨hstatus, hprocessed, ?_⟩
      rw [if_pos hdeferred, ← hcounted]
      rfl
    -- The session is still under way, so that scoring is not refused.
    · refine (delivery.ensures_processResponse _ _).mono (fun _ left hleft => ?_)
        fun _ _ herror => ?_
      · obtain ⟨_, status, hentered, hleft⟩ := hleft
        refine ⟨hstatus, hprocessed, ?_⟩
        rw [if_neg himmediate, ← hcounted]
        exact ⟨status, hentered, hleft⟩
      · have hinteracting : counted.status = .interacting :=
          (congrArg ItemProgress.status hcounted).trans hstatus
        exact .inl (herror.resolve_right fun h => h.1 hinteracting)

end ItemDelivery

end Assessment
