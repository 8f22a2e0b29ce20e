import Assessment.Item.Session
import Assessment.Proofs.Variation.Basic

/-!
# Variations of item sessions

A session of an item in both runs is a pair of sessions that differ in their times and their seeds
only. Every operation keeps it so: it ends in the same way in both runs, and reports what each run
keeps of the same notifications. Operations that run no rules come to exactly the same.

## Main definitions

- `ItemDelivery.under`: an item with another engine.
- `Variation.ItemSessions`: the sessions of one item in both runs.
- `Variation.ItemErrors`: the errors of operations in both runs.

## Main results

- `Variation.ItemSessions.congr`: what does not depend on times and the seed is the same.
- `Variation.couples_itemStage`: the rules of an item run alike in both runs.
- `Variation.ItemSessions.coupled_attempt` and the results beside it: the operations on items.
- `Variation.couple_create`: the sessions that are made in both runs.
-/

namespace Assessment

open Action ItemAction

/-- The item with another engine. -/
def ItemDelivery.under (item : ItemDelivery) (engine : Engine) : ItemDelivery :=
  { item with engine }

@[simp]
theorem ItemDelivery.under_definition (item : ItemDelivery) (engine : Engine) :
    (item.under engine).definition = item.definition := rfl

namespace Variation

variable {v : Variation} {item : ItemDelivery} {s t : ItemState} {now now' : Timestamp}

/-- Sessions of one item in both runs. They differ in times and in the seed only: the last event is
later by the delay, and the seed is the same if it is to be. -/
structure ItemSessions (v : Variation) (s t : ItemState) : Prop where
  /-- Apart from times and the seed, the sessions are the same. -/
  timeless : t.timeless = s.timeless
  /-- Time is counted since a moment that is later by the delay, or not at all. -/
  lastEvent : Option.Rel (Timestamp.Later v.delay) s.lastEvent t.lastEvent
  /-- The seed is the same if it is to be. -/
  seed : v.sameSeed → s.seed = t.seed

/-- Errors of operations on items in both runs: the same errors, with what each run keeps of the
notifications of refused responses. -/
inductive ItemErrors (v : Variation) : ItemError → ItemError → Prop where
  /-- The error is the same. -/
  | same (error : ItemError) : ItemErrors v error error
  /-- The same responses are refused. -/
  | invalidResponse {failures : List (Identifier × ResponseProblem)} {log log' : NotificationLog} :
      v.Logs log log' →
      ItemErrors v (.invalidResponse ⟨failures, log⟩) (.invalidResponse ⟨failures, log'⟩)

/-! ### What sessions of both runs have in common -/

namespace ItemSessions

variable (h : v.ItemSessions s t)

include h

/-- What does not depend on times and the seed is the same in both sessions. -/
theorem congr {α : Type} (f : ItemState → α)
    (hf : ∀ state : ItemState, f state.timeless = f state) : f t = f s := by
  rw [← hf t, h.timeless, hf]

/-- What is made of both sessions is the same apart from times and the seed. -/
theorem timeless_apply (f : ItemState → ItemState)
    (hf : ∀ state : ItemState, (f state.timeless).timeless = (f state).timeless) :
    (f t).timeless = (f s).timeless := h.congr (fun state => (f state).timeless) hf

theorem digest : t.digest = s.digest := h.congr ItemState.digest fun _ => rfl

theorem status : t.status = s.status := h.congr ItemState.status fun _ => rfl

theorem templateProcessed : t.templateProcessed = s.templateProcessed :=
  h.congr ItemState.templateProcessed fun _ => rfl

theorem passes : t.passes = s.passes := h.congr ItemState.passes fun _ => rfl

theorem store : t.store = s.store := h.congr ItemState.store fun _ => rfl

theorem view (definition : ItemDefinition) :
    ItemState.view definition t = ItemState.view definition s :=
  h.congr (ItemState.view definition) fun _ => rfl

theorem resetValue : ItemDelivery.resetValue t = ItemDelivery.resetValue s :=
  h.congr ItemDelivery.resetValue fun _ => rfl

theorem templateStart : t.templateStart = s.templateStart :=
  h.congr ItemState.templateStart fun _ => rfl

theorem duration : t.duration = s.duration := h.congr ItemState.duration fun _ => rfl

theorem completion? : t.completion? = s.completion? := h.congr ItemState.completion? fun _ => rfl

theorem attempts : t.attempts = s.attempts := h.congr ItemState.attempts fun _ => rfl

theorem isClosed : t.isClosed = s.isClosed := h.congr ItemState.isClosed fun _ => rfl

theorem pending : t.pending = s.pending := h.congr ItemState.pending fun _ => rfl

theorem responseProcessed : t.responseProcessed = s.responseProcessed :=
  h.congr ItemState.responseProcessed fun _ => rfl

theorem isPresented : t.isPresented = s.isPresented := h.congr ItemState.isPresented fun _ => rfl

theorem isAttemptAllowed (maxAttempts : UInt32) :
    (item.under v.engine').isAttemptAllowed t maxAttempts =
      (item.under v.engine).isAttemptAllowed s maxAttempts :=
  h.congr ((item.under v.engine).isAttemptAllowed · maxAttempts) fun _ => rfl

theorem setStore (role : Role) (store : Store) :
    v.ItemSessions (s.setStore role store) (t.setStore role store) := by
  cases role with
  | template =>
    exact { h with timeless := h.timeless_apply (·.setStore .template store) fun _ => rfl }
  | response =>
    exact { h with timeless := h.timeless_apply (·.setStore .response store) fun _ => rfl }
  | outcome =>
    exact { h with timeless := h.timeless_apply (·.setStore .outcome store) fun _ => rfl }

/-! ### Setting variables -/

theorem alike_setAll (role : Role) (bindings : List (Identifier × Value)) :
    Alike v.ItemSessions (ItemState.setAll role bindings) (ItemState.setAll role bindings) s t := by
  induction bindings generalizing s t with
  | nil => exact alike_pure h
  | cons binding rest ih =>
    rw [ItemState.setAll, alike_get_bind, h.store]
    cases (s.store role).set binding.1 binding.2 with
    | ok store => exact ih (h.setStore role store)
    | error error => exact alike_throw h

theorem alike_setVariable (role : Role) (name : Identifier) (value : Value) :
    Alike v.ItemSessions (setVariable role name value) (setVariable role name value) s t :=
  (h.alike_setAll role _).rename _

theorem alike_setCompletion (completion : Completion) :
    Alike v.ItemSessions (setCompletion completion) (setCompletion completion) s t :=
  h.alike_setVariable _ _ _

theorem alike_restartTemplates (definition : ItemDefinition) :
    Alike v.ItemSessions (ItemState.restartTemplates definition)
      (ItemState.restartTemplates definition) s t := by
  rw [ItemState.restartTemplates, alike_get_bind, h.templateStart]
  exact h.alike_setAll _ _

theorem alike_resetResponses :
    Alike v.ItemSessions (item.under v.engine).resetResponses (item.under v.engine').resetResponses
      s t := by
  rw [ItemDelivery.resetResponses, ItemDelivery.resetResponses, alike_get_bind, h.resetValue]
  exact (h.alike_setAll _ _).rename _

theorem alike_resetOutcomes :
    Alike v.ItemSessions (item.under v.engine).resetOutcomes (item.under v.engine').resetOutcomes
      s t := by
  rw [ItemDelivery.resetOutcomes, ItemDelivery.resetOutcomes, alike_get_bind, h.resetValue]
  exact (h.alike_setAll _ _).rename _

/-! ### Operations that run no rules -/

theorem alike_check :
    Alike v.ItemSessions (item.under v.engine).check (item.under v.engine').check s t := by
  -- The digest is that of the item, whatever the engine is.
  change Alike v.ItemSessions item.check item.check s t
  rw [ItemDelivery.check, alike_get_bind, h.digest]
  dsimp only
  split
  next => exact alike_pure h
  next => exact alike_throw h

theorem alike_requireInteracting :
    Alike v.ItemSessions ItemDelivery.requireInteracting ItemDelivery.requireInteracting s t := by
  rw [ItemDelivery.requireInteracting, alike_get_bind, h.status]
  cases s.status with
  | notEntered => exact alike_throw h
  | interacting => exact alike_pure h
  | closed => exact alike_throw h

/-- The same time is counted in both runs. -/
theorem alike_touch (hnow : Timestamp.Later v.delay now now') :
    Alike v.ItemSessions ((item.under v.engine).touch now) ((item.under v.engine').touch now') s
      t := by
  refine h.alike_check.bind fun _ s t h => ?_
  have hcounted : ∀ {s t : ItemState}, v.ItemSessions s t →
      v.ItemSessions { s with lastEvent := some now } { t with lastEvent := some now' } :=
    fun h => { h with lastEvent := .some hnow }
  have hlast := h.lastEvent
  rw [alike_get_bind, h.status]
  generalize s.lastEvent = event, t.lastEvent = event' at hlast
  cases hlast with
  | none => cases s.status <;> exact alike_pure h
  | some hlast =>
    -- Time is only counted while the item is presented.
    cases s.status with
    | notEntered => exact alike_pure h
    | closed => exact alike_pure h
    | interacting =>
      simp only [hnow.secondsSince? hlast, h.duration]
      split
      next =>
        split
        next => exact (h.alike_setVariable _ _ _).bind fun _ _ _ h => alike_modify (hcounted h)
        next => exact alike_modify (hcounted h)
      next => exact alike_modify (hcounted h)

/-- An item is presented in both runs, or in neither. -/
theorem alike_enter (hnow : Timestamp.Later v.delay now now') :
    Alike v.ItemSessions ((item.under v.engine).enter now) ((item.under v.engine').enter now') s
      t := by
  refine h.alike_check.bind fun _ s t h => ?_
  rw [alike_get_bind, h.status]
  cases s.status with
  | closed => exact alike_throw h
  | notEntered =>
    have hentered : v.ItemSessions
        { s with status := .interacting, entryTime := some now, lastEvent := some now }
        { t with status := .interacting, entryTime := some now', lastEvent := some now' } :=
      { h with
        timeless := h.timeless_apply
          (fun state => { state with status := .interacting }) fun _ => rfl
        lastEvent := .some hnow }
    rw [alike_set_bind, h.completion?]
    split
    next => exact hentered.alike_setCompletion _
    next => exact alike_pure hentered
  | interacting =>
    refine (h.alike_touch hnow).bind fun _ s t h => alike_modify { h with lastEvent := ?_ }
    -- The clock goes on where it was stopped.
    have hlast := h.lastEvent
    dsimp only
    generalize s.lastEvent = event, t.lastEvent = event' at hlast
    cases hlast with
    | none => exact .some hnow
    | some hlast => exact .some hlast

/-- The clock of an item is stopped in both runs, or in neither. -/
theorem alike_suspend (hnow : Timestamp.Later v.delay now now') :
    Alike v.ItemSessions ((item.under v.engine).suspend now) ((item.under v.engine').suspend now')
      s t := by
  refine h.alike_check.bind fun _ _ _ h => h.alike_requireInteracting.bind fun _ _ _ h => ?_
  exact (h.alike_touch hnow).bind fun _ _ _ h => alike_modify { h with lastEvent := .none }

theorem alike_close (hnow : Timestamp.Later v.delay now now') :
    Alike v.ItemSessions ((item.under v.engine).close now) ((item.under v.engine').close now') s
      t := by
  have hclosed : ∀ {s t : ItemState}, v.ItemSessions s t → v.ItemSessions
      { s with status := .closed, endTime := some now, lastEvent := none }
      { t with status := .closed, endTime := some now', lastEvent := none } := fun h =>
    { h with
      timeless := h.timeless_apply (fun state => { state with status := .closed }) fun _ => rfl
      lastEvent := .none }
  refine (h.alike_touch hnow).bind fun _ s t h => ?_
  simp only [alike_get_bind, h.completion?]
  split
  next => exact (h.alike_setCompletion _).bind fun _ _ _ h => alike_modify (hclosed h)
  next => exact alike_modify (hclosed h)

/-- A session is ended in both runs, or in neither. -/
theorem alike_endSession (hnow : Timestamp.Later v.delay now now') :
    Alike v.ItemSessions ((item.under v.engine).endSession now)
      ((item.under v.engine').endSession now') s t := by
  refine h.alike_check.bind fun _ s t h => ?_
  rw [alike_get_bind, h.isClosed]
  simp only [throw_bind]
  split
  next => exact alike_throw h
  next => exact h.alike_close hnow

end ItemSessions

/-! ### Operations that run rules -/

/-- Rules of the item run alike in both runs. -/
theorem couples_itemStage (v : Variation) (definition : ItemDefinition) :
    (ItemState.stage definition).Couples v.engine v.engine' v.AdmitsWhole v.Environments
      v.ItemSessions where
  attempts := v.attempts
  evaluate {_ s t _ _} hexpression h henvironment := by
    -- Expressions see no times and no seed of an item.
    refine alike_tryEvaluate ?_ hexpression henvironment
    change (ItemState.view definition s).Alike (ItemState.view definition t)
    rw [h.view]
    exact .refl _
  record notification h := h.record notification
  declaration? _ _ := rfl
  assign {s t} name value h := by
    change Matches _ (ItemState.assign definition name value s)
      (ItemState.assign definition name value t)
    unfold ItemState.assign
    cases ItemState.declared definition name with
    | error error => exact rfl
    | ok declaration =>
      have hset : Matches Eq ((s.store declaration.role).set name value)
          ((t.store declaration.role).set name value) := by
        rw [h.store]
        exact matches_self fun _ _ => rfl
      refine hset.bind ?_
      rintro store _ rfl
      exact h.setStore declaration.role store
  setCorrect {s t _} name value hover h := by
    cases hover
    change Matches _ (ItemState.setCorrect definition name value s)
      (ItemState.setCorrect definition name value t)
    unfold ItemState.setCorrect
    cases definition.response? name with
    | none => exact rfl
    | some _ =>
      exact { h with
        timeless := h.timeless_apply (fun state => { state with
          correctOverrides := state.correctOverrides.insert name value }) fun _ => rfl }
  setDefault {s t _} name value hover h := by
    cases hover
    change Matches _ (ItemState.setDefault definition name value s)
      (ItemState.setDefault definition name value t)
    unfold ItemState.setDefault
    cases ItemState.declared definition name with
    | error error => exact rfl
    | ok _ =>
      exact { h with
        timeless := h.timeless_apply (fun state => { state with
          defaultOverrides := state.defaultOverrides.insert name value }) fun _ => rfl }

/-- Responses are bound with the extensions, which are the same. -/
theorem bindNamed_under (v : Variation) (item : ItemDelivery) :
    (item.under v.engine').bindNamed = (item.under v.engine).bindNamed := by
  funext name data
  simp only [ItemDelivery.bindNamed, ItemDelivery.bindOne, ItemDelivery.under, v.registry]

/-- The same responses are bound in both runs, or the same are refused. -/
theorem couple_bindResponses (v : Variation) (item : ItemDelivery)
    (responses : SortedMap Identifier ResponseData) (validate : Bool) :
    Couple Eq (fun invalid invalid' =>
        v.ItemErrors (.invalidResponse invalid) (.invalidResponse invalid'))
      ((item.under v.engine).bindResponses responses validate)
      ((item.under v.engine').bindResponses responses validate) := by
  have hlogs : ∀ (failures : List (Identifier × ResponseProblem)) {log log' : NotificationLog},
      v.Logs log log' → v.Logs
        (failures.foldl (fun log failure =>
          log.record ⟨.error, .response, failure.1.text, .response failure.2⟩) log)
        (failures.foldl (fun log failure =>
          log.record ⟨.error, .response, failure.1.text, .response failure.2⟩) log') := by
    intro failures
    induction failures with
    | nil => exact fun h => h
    | cons failure rest ih => exact fun h => ih (h.record _)
  unfold ItemDelivery.bindResponses
  rw [bindNamed_under]
  exact couple_ite (fun _ => rfl) fun _ => ItemErrors.invalidResponse (hlogs _ v.logs_empty)

namespace ItemSessions

variable (h : v.ItemSessions s t)

include h

/-- The next pass begins in both runs. -/
theorem coupled_nextEnvironment :
    Coupled v.ItemSessions v.Environments v.ItemErrors (item.under v.engine).nextEnvironment
      (item.under v.engine').nextEnvironment s t := by
  have hnext : v.ItemSessions { s with passes := s.passes + 1 }
      { t with passes := t.passes + 1 } :=
    { h with
      timeless := h.timeless_apply
        (fun state => { state with passes := state.passes + 1 }) fun _ => rfl }
  exact ⟨environments_forPass h.seed h.passes, hnext⟩

/-- Template processing is done in both runs, or in neither. -/
theorem coupled_processTemplate
    (hrules : Rule.Admitted v.AdmitsWhole (Rule.walkAll item.definition.templateProcessing)) :
    Coupled v.ItemSessions v.Logs v.ItemErrors (item.under v.engine).processTemplate
      (item.under v.engine').processTemplate s t := by
  refine h.alike_check.bind_coupled .same fun _ s t h => ?_
  rw [coupled_get_bind, h.isClosed, h.templateProcessed]
  simp only [throw_bind]
  split
  next => exact coupled_throw (.same _) h
  next =>
    split
    next => exact coupled_throw (.same _) h
    next =>
      refine h.coupled_nextEnvironment.bind fun environment environment' s t henvironment h => ?_
      refine ((h.alike_restartTemplates _).rename _).bind_coupled .same fun _ s t h => ?_
      have hrun := Execution.coupled_on (fun h => h.log)
        ((v.couples_itemStage item.definition).alike_executeTemplate
          (fun _ _ h => h.alike_restartTemplates _) hrules ⟨h, henvironment, rfl⟩)
      refine (hrun.rename fun _ _ heq => heq ▸ .same _).bind fun answer answer' s t hlog h => ?_
      refine h.alike_resetResponses.bind_coupled .same fun _ s t h => ?_
      refine h.alike_resetOutcomes.bind_coupled .same fun _ s t h => ?_
      exact coupled_pure hlog.2 { h with
        timeless := h.timeless_apply
          (fun state => { state with templateProcessed := true }) fun _ => rfl }

/-- An attempt is scored in both runs, or in neither. -/
theorem coupled_processResponse
    (hrules : Rule.Admitted v.AdmitsWhole (Rule.walkAll item.definition.responseProcessing))
    (hnow : Timestamp.Later v.delay now now') (maxAttempts : UInt32) :
    Coupled v.ItemSessions v.Logs v.ItemErrors
      ((item.under v.engine).processResponse maxAttempts now)
      ((item.under v.engine').processResponse maxAttempts now') s t := by
  refine h.alike_check.bind_coupled .same fun _ s t h => ?_
  refine h.alike_requireInteracting.bind_coupled .same fun _ s t h => ?_
  extract_lets stage rules score stage' rules' score'
  -- What follows is done in any case, whether or not the outcomes were put back before.
  have hscore : ∀ {s t : ItemState}, v.ItemSessions s t →
      Coupled v.ItemSessions v.Logs v.ItemErrors (score ()) (score' ()) s t := by
    intro s t h
    simp only [score, score']
    refine h.coupled_nextEnvironment.bind fun environment environment' s t henvironment h => ?_
    have hrun := Execution.coupled_on (fun h => h.log)
      ((v.couples_itemStage item.definition).alike_execute hrules ⟨h, henvironment, rfl⟩)
    refine (hrun.rename fun _ _ heq => heq ▸ .same _).bind ?_
    rintro ⟨_, log⟩ ⟨_, log'⟩ s t ⟨-, hlog⟩ h
    simp only [ItemDelivery.under_definition, coupled_modify_bind]
    have hscored : v.ItemSessions { s with responseProcessed := true, pending := false }
        { t with responseProcessed := true, pending := false } :=
      { h with
        timeless := h.timeless_apply
          (fun state => { state with responseProcessed := true, pending := false }) fun _ => rfl }
    have hend : ∀ (last : Prop) [Decidable last] {s t : ItemState}, v.ItemSessions s t →
        Coupled v.ItemSessions v.Logs v.ItemErrors
          (if last then do (item.under v.engine).close now; return log else return log)
          (if last then do (item.under v.engine').close now'; return log'
            else return log') s t := by
      intro last _ s t h
      split
      next => exact (h.alike_close hnow).bind_coupled .same fun _ _ _ h => coupled_pure hlog h
      next => exact coupled_pure hlog h
    split
    next =>
      rw [coupled_get_bind, hscored.completion?]
      exact hend _ hscored
    next =>
      refine (hscored.alike_setCompletion _).bind_coupled .same fun _ s t h => ?_
      rw [coupled_get_bind, h.attempts]
      exact hend _ h
  exact coupled_ite
    (fun _ => h.alike_resetOutcomes.bind_coupled .same fun _ _ _ h => hscore h)
    fun _ => hscore h

/-- An attempt is made in both runs, or in neither. -/
theorem coupled_attempt
    (hrules : Rule.Admitted v.AdmitsWhole (Rule.walkAll item.definition.responseProcessing))
    (hnow : Timestamp.Later v.delay now now') (responses : SortedMap Identifier ResponseData)
    (policy : SubmissionPolicy) :
    Coupled v.ItemSessions v.Logs v.ItemErrors ((item.under v.engine).attempt responses now policy)
      ((item.under v.engine').attempt responses now' policy) s t := by
  refine h.alike_check.bind_coupled .same fun _ s t h => ?_
  refine h.alike_requireInteracting.bind_coupled .same fun _ s t h => ?_
  rw [coupled_get_bind, h.templateProcessed, h.isAttemptAllowed]
  simp only [throw_bind]
  refine coupled_ite (fun _ => coupled_throw (.same _) h) fun _ => ?_
  refine coupled_ite (fun _ => coupled_throw (.same _) h) fun _ => ?_
  have hbound := v.couple_bindResponses item responses policy.validateResponses
  generalize (item.under v.engine).bindResponses responses policy.validateResponses = bound,
    (item.under v.engine').bindResponses responses policy.validateResponses = bound' at hbound
  cases bound <;> cases bound'
  case error.error => exact coupled_throw hbound h
  case ok.ok bound _ =>
    cases hbound
    refine (h.alike_touch hnow).bind_coupled .same fun _ s t h => ?_
    refine ((h.alike_setAll .response bound).rename _).bind_coupled .same fun _ s t h => ?_
    rw [coupled_get_bind, h.attempts]
    refine (h.alike_setVariable _ _ _).bind_coupled .same fun _ s t h => ?_
    have hresponded : v.ItemSessions { s with responded := true, responseProcessed := false }
        { t with responded := true, responseProcessed := false } :=
      { h with
        timeless := h.timeless_apply (fun state => { state with
          responded := true, responseProcessed := false }) fun _ => rfl }
    rw [coupled_modify_bind]
    refine coupled_ite (fun _ => ?_) fun _ => hresponded.coupled_processResponse hrules hnow _
    exact coupled_pure v.logs_empty { hresponded with
      timeless := hresponded.timeless_apply
        (fun state => { state with pending := true }) fun _ => rfl }
  all_goals exact hbound.elim

end ItemSessions

/-- The same session is made in both runs, with a seed of each. -/
theorem couple_create (v : Variation) (item : ItemDelivery) (templateDefaults : Store)
    {seed seed' : UInt64} (hseed : v.sameSeed → seed = seed') :
    Couple v.ItemSessions Eq ((item.under v.engine).create templateDefaults seed)
      ((item.under v.engine').create templateDefaults seed') := by
  change Couple _ _ (item.create templateDefaults seed) (item.create templateDefaults seed')
  unfold ItemDelivery.create
  cases item.defaultProblems templateDefaults with
  | cons problem _ => exact rfl
  | nil =>
    dsimp only
    generalize ItemDelivery.putDefaults _ _ = templates
    cases templates with
    | error error => exact rfl
    | ok templates => exact ⟨rfl, .none, hseed⟩

end Variation

end Assessment
