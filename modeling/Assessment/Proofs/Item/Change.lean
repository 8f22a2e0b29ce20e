import Assessment.Proofs.Agreement
import Assessment.Proofs.Item.Course
import Assessment.Proofs.Item.Stock

/-!
# What operations on item sessions change

Operations change single variables of a session, or run rules, which change variables, correct
answers and defaults and nothing else. Either is true also of an operation that fails: what it
leaves differs from the session before in what it got to change.

Two things follow. A session that was presented stays so, and one that is over stays as it is,
whatever is requested of it. And the operations that run no rules of response processing, the
presentation of an item, the stopping of its clock, and an attempt that is scored later, change no
outcome but the one that says how far the candidate has come.

## Main definitions

- `Store.SameBut`: two stores of the same variables that differ in some of them at most.
- `ItemState.Rewritten`: what rules change of a session.
- `ItemState.SameNames`: a session of the same variables.

## Main results

- `ItemState.exists_of_assign`, `ItemState.eq_of_setCorrect` and `ItemState.eq_of_setDefault`: what
  an assignment of a rule makes of a session.
- `ItemDelivery.leaves_presented` and `ItemDelivery.leaves_of_closed`: sessions never go back,
  whatever is requested of them.
- `ItemDelivery.Enters.presents`, `ItemDelivery.Suspends.counted`, `ItemDelivery.Scores.passes` and
  `ItemDelivery.Ends.closes`: what operations change that are accepted.
-/

namespace Assessment

open Action

/-! ### Stores -/

namespace Store

/-- Two stores of the same variables. Only those of some names may have other values. -/
structure SameBut (names : List Identifier) (before after : Store) : Prop where
  /-- They have the same variables. -/
  keys : ∀ name, after.contains name = before.contains name
  /-- All other variables have the same values. -/
  values : ∀ name ∉ names, after.get? name = before.get? name

variable {names names' : List Identifier} {before between after : Store}

theorem SameBut.refl (names : List Identifier) (store : Store) : SameBut names store store :=
  ⟨fun _ => rfl, fun _ _ => rfl⟩

theorem SameBut.symm (h : SameBut names before after) : SameBut names after before :=
  ⟨fun name => (h.keys name).symm, fun name hname => (h.values name hname).symm⟩

theorem SameBut.trans (h : SameBut names before between) (h' : SameBut names between after) :
    SameBut names before after :=
  ⟨fun name => (h'.keys name).trans (h.keys name),
    fun name hname => (h'.values name hname).trans (h.values name hname)⟩

theorem SameBut.mono (h : SameBut names before after) (hnames : names ⊆ names') :
    SameBut names' before after :=
  ⟨h.keys, fun name hname => h.values name fun hmem => hname (hnames hmem)⟩

/-- A new value for a variable of a store changes that variable. -/
theorem sameBut_insert {name : Identifier} (hcontains : before.contains name = true)
    (value : Value) : SameBut [name] before (before.insert name value) where
  keys other := by
    rw [Bool.eq_iff_iff, SortedMap.contains_insert]
    refine ⟨?_, .inr⟩
    rintro (rfl | hmem)
    · exact hcontains
    · exact hmem
  values other hother := SortedMap.get?_insert_of_ne _ (fun h => hother (List.mem_singleton.2 h)) _

theorem sameBut_of_set {name : Identifier} {value : Value} (h : before.set name value = .ok after) :
    SameBut [name] before after := by
  obtain ⟨hcontains, rfl⟩ := set_eq_ok_iff.1 h
  exact sameBut_insert hcontains value

end Store

/-! ### Variables -/

namespace ItemState

variable {state before between after : ItemState}

/-- Nothing differs but variables, correct answers and defaults. -/
def Rewritten (before after : ItemState) : Prop :=
  ∃ templates responses outcomes correctOverrides defaultOverrides, after =
    { before with templates, responses, outcomes, correctOverrides, defaultOverrides }

theorem Rewritten.refl (state : ItemState) : state.Rewritten state := ⟨_, _, _, _, _, rfl⟩

theorem Rewritten.trans (h : before.Rewritten between) (h' : between.Rewritten after) :
    before.Rewritten after := by
  obtain ⟨_, _, _, _, _, rfl⟩ := h
  obtain ⟨_, _, _, _, _, rfl⟩ := h'
  exact ⟨_, _, _, _, _, rfl⟩

theorem Rewritten.status (h : before.Rewritten after) : after.status = before.status := by
  obtain ⟨_, _, _, _, _, rfl⟩ := h
  rfl

theorem rewritten_setStore (role : Role) (store : Store) :
    state.Rewritten (state.setStore role store) := by
  cases role <;> exact ⟨_, _, _, _, _, rfl⟩

/-- Setting variables of a role changes those variables. -/
theorem leaves_setAll (role : Role) (bindings : List (Identifier × Value)) :
    (setAll role bindings).Leaves state fun left =>
      ∃ store, Store.SameBut (bindings.map (·.1)) (state.store role) store ∧
        left = state.setStore role store := by
  induction bindings generalizing state with
  | nil => exact ⟨state.store role, .refl _ _, by cases role <;> rfl⟩
  | cons binding rest ih =>
    have hkeep : ∃ store, Store.SameBut ((binding :: rest).map (·.1)) (state.store role) store ∧
        state = state.setStore role store := ⟨state.store role, .refl _ _, by cases role <;> rfl⟩
    rw [setAll, Leaves, ensures_bind, ensures_get]
    cases hset : (state.store role).set binding.1 binding.2 with
    | error error => exact hkeep
    | ok store =>
      have hfirst : Store.SameBut ((binding :: rest).map (·.1)) (state.store role) store :=
        (Store.sameBut_of_set hset).mono (by simp)
      rw [ensures_bind]
      change (setAll role rest).Ensures (state.setStore role store) _ _
      refine Leaves.mono ih ?_
      rintro _ ⟨after, hafter, rfl⟩
      refine ⟨after, hfirst.trans ?_, by cases role <;> rfl⟩
      refine Store.SameBut.mono ?_ (List.subset_cons_self _ _)
      cases role <;> exact hafter

theorem leaves_setAll_rewritten (role : Role) (bindings : List (Identifier × Value)) :
    (setAll role bindings).Leaves state state.Rewritten := by
  refine (leaves_setAll role bindings).mono ?_
  rintro _ ⟨store, -, rfl⟩
  exact rewritten_setStore role store

/-- Putting the template variables back changes nothing but variables. -/
theorem leaves_restartTemplates (definition : ItemDefinition) :
    (restartTemplates definition).Leaves state state.Rewritten := by
  rw [restartTemplates, Leaves, ensures_bind, ensures_get]
  exact leaves_setAll_rewritten _ _

/-- An assignment sets the variable that its name means. -/
theorem exists_of_assign {definition : ItemDefinition} {name : Identifier} {value : Value}
    (h : state.assign definition name value = .ok after) :
    ∃ declaration store, definition.resolve? name.text = some declaration ∧
      (state.store declaration.role).set name value = .ok store ∧
      after = state.setStore declaration.role store := by
  unfold assign declared at h
  cases hname : definition.resolve? name.text with
  | none =>
    rw [hname] at h
    cases h
  | some declaration =>
    rw [hname] at h
    change (state.store declaration.role).set name value >>= _ = _ at h
    cases hset : (state.store declaration.role).set name value with
    | error error =>
      rw [hset] at h
      cases h
    | ok store =>
      rw [hset] at h
      cases h
      exact ⟨declaration, store, rfl, hset, rfl⟩

/-- A changed correct answer stands in place of the declared one. -/
theorem eq_of_setCorrect {definition : ItemDefinition} {name : Identifier} {value : Value}
    (h : state.setCorrect definition name value = .ok after) :
    after = { state with correctOverrides := state.correctOverrides.insert name value } := by
  unfold setCorrect at h
  split at h
  next => cases h
  next =>
    cases h
    rfl

/-- A changed default stands in place of the declared one. -/
theorem eq_of_setDefault {definition : ItemDefinition} {name : Identifier} {value : Value}
    (h : state.setDefault definition name value = .ok after) :
    after = { state with defaultOverrides := state.defaultOverrides.insert name value } := by
  unfold setDefault at h
  cases hname : declared definition name with
  | error error =>
    rw [hname] at h
    cases h
  | ok declaration =>
    rw [hname] at h
    cases h
    rfl

/-- Assignments of rules change nothing but variables, correct answers and defaults. -/
theorem stage_maintains_rewritten (definition : ItemDefinition) (state : ItemState) :
    (stage definition).Maintains state.Rewritten where
  assign name value hsession hassign := by
    obtain ⟨_, _, -, -, rfl⟩ := exists_of_assign hassign
    exact hsession.trans (rewritten_setStore _ _)
  setCorrect name value hover hsession hcorrect := by
    cases hover
    obtain rfl := eq_of_setCorrect hcorrect
    exact hsession.trans ⟨_, _, _, _, _, rfl⟩
  setDefault name value hover hsession hdefault := by
    cases hover
    obtain rfl := eq_of_setDefault hdefault
    exact hsession.trans ⟨_, _, _, _, _, rfl⟩

/-- Running rules once changes nothing but variables, correct answers and defaults. -/
theorem leaves_execute (engine : Engine) (definition : ItemDefinition) (rules : List Rule)
    (environment : Environment) :
    ((Rule.execute engine (stage definition) rules).on environment).Leaves state state.Rewritten :=
  Rule.leaves_execute (stage_maintains_rewritten definition state) rules environment (.refl state)

/-- Template processing changes nothing but variables, correct answers and defaults. -/
theorem leaves_executeTemplate (engine : Engine) (definition : ItemDefinition) (rules : List Rule)
    (environment : Environment) :
    ((Rule.executeTemplate engine (stage definition) rules).on environment).Leaves state
      state.Rewritten := by
  refine Rule.leaves_executeTemplate (stage_maintains_rewritten definition state)
    (fun session hsession => ?_) rules environment (.refl state)
  exact (leaves_restartTemplates definition).mono fun _ hleft => hsession.trans hleft

/-- Nothing differs but how much time was counted, and since when it is. -/
def Counted (before after : ItemState) : Prop :=
  ∃ responses lastEvent,
    Store.SameBut [BuiltIn.duration.identifier] before.responses responses ∧
      after = { before with responses, lastEvent }

theorem Counted.refl (state : ItemState) : state.Counted state := ⟨_, _, .refl _ _, rfl⟩

/-- The item was presented: nothing differs but where the session stands, the times, and how far
the candidate has come. -/
def Presents (before after : ItemState) : Prop :=
  ∃ responses outcomes entryTime lastEvent,
    Store.SameBut [BuiltIn.duration.identifier] before.responses responses ∧
      Store.SameBut [BuiltIn.completionStatus.identifier] before.outcomes outcomes ∧
      after = { before with status := .interacting, responses, outcomes, entryTime, lastEvent }

/-- An attempt was made that waits to be scored: nothing differs but responses of some names, the
time, and that there is such an attempt. -/
def Answers (names : List Identifier) (before after : ItemState) : Prop :=
  ∃ responses lastEvent,
    Store.SameBut names before.responses responses ∧
      after =
        { before with
          responses, lastEvent
          responded := true
          responseProcessed := false
          pending := true }

/-- The outcomes of a session that is closed. An item of which it is not known how far the candidate
has come counts as completed. -/
def closingOutcomes (state : ItemState) : Store :=
  if state.completion? = some .unknown ∨ state.completion? = none then
    state.outcomes.insert BuiltIn.completionStatus.identifier
      (.identifier Completion.completed.identifier)
  else state.outcomes

/-- The session was closed: nothing differs but where it stands, the times, and what is said of an
item of which it was not known how far the candidate has come. No time is counted for an item that
was not presented. -/
def Closes (now : Timestamp) (before after : ItemState) : Prop :=
  ∃ responses,
    Store.SameBut [BuiltIn.duration.identifier] before.responses responses ∧
      (before.status = .notEntered → responses = before.responses) ∧
      Store.SameBut [BuiltIn.completionStatus.identifier] before.outcomes before.closingOutcomes ∧
      after =
        { before with
          responses
          outcomes := before.closingOutcomes
          status := .closed
          endTime := some now
          lastEvent := none }

/-- The stores have the same variables. -/
def SameNames (before after : ItemState) : Prop :=
  ∀ role name, (after.store role).contains name = (before.store role).contains name

theorem SameNames.trans (h : before.SameNames between) (h' : between.SameNames after) :
    before.SameNames after :=
  fun role name => (h' role name).trans (h role name)

/-- A store is changed to one of the same variables. -/
theorem sameNames_setStore {role : Role} {names : List Identifier} {store : Store}
    (h : Store.SameBut names (state.store role) store) :
    state.SameNames (state.setStore role store) := by
  intro other name
  by_cases hrole : other = role
  · subst hrole
    rw [store_setStore_self]
    exact h.keys name
  · rw [store_setStore_of_ne hrole]

theorem leaves_setAll_sameNames (role : Role) (bindings : List (Identifier × Value)) :
    (setAll role bindings).Leaves state state.SameNames := by
  refine (leaves_setAll role bindings).mono ?_
  rintro _ ⟨store, hstore, rfl⟩
  exact sameNames_setStore hstore

theorem leaves_restartTemplates_sameNames (definition : ItemDefinition) :
    (restartTemplates definition).Leaves state state.SameNames := by
  rw [restartTemplates, Leaves, ensures_bind, ensures_get]
  exact leaves_setAll_sameNames _ _

/-- Assignments of rules add no variables and take none away. -/
theorem stage_maintains_sameNames (definition : ItemDefinition) (state : ItemState) :
    (stage definition).Maintains state.SameNames where
  assign name value hsession hassign := by
    obtain ⟨_, _, -, hset, rfl⟩ := exists_of_assign hassign
    exact hsession.trans (sameNames_setStore (Store.sameBut_of_set hset))
  setCorrect name value hover hsession hcorrect := by
    cases hover
    obtain rfl := eq_of_setCorrect hcorrect
    exact hsession.trans fun role _ => by cases role <;> rfl
  setDefault name value hover hsession hdefault := by
    cases hover
    obtain rfl := eq_of_setDefault hdefault
    exact hsession.trans fun role _ => by cases role <;> rfl

end ItemState

/-! ### Parts of operations -/

namespace ItemAction

variable {state : ItemState} {α : Type}

theorem leaves_ofLogic {inner : Action ItemState LogicError α} {holds : ItemState → Prop}
    (h : inner.Leaves state holds) : (ofLogic inner).Leaves state holds :=
  ensures_ofLogic.2 h

/-- Setting a variable changes that variable. -/
theorem leaves_setVariable (role : Role) (name : Identifier) (value : Value) :
    (setVariable role name value).Leaves state fun left =>
      ∃ store, Store.SameBut [name] (state.store role) store ∧ left = state.setStore role store :=
  leaves_ofLogic (ItemState.leaves_setAll role [(name, value)])

/-- Saying how far the candidate has come changes the outcome that says so. -/
theorem leaves_setCompletion (completion : Completion) :
    (setCompletion completion).Leaves state fun left =>
      ∃ outcomes, Store.SameBut [BuiltIn.completionStatus.identifier] state.outcomes outcomes ∧
        left = { state with outcomes } :=
  leaves_setVariable _ _ _

/-- What was said of how far the candidate has come is what the outcome says. -/
theorem ensures_setCompletion_eq (completion : Completion) :
    (setCompletion completion).Ensures state
      (fun _ left =>
        state.outcomes.contains BuiltIn.completionStatus.identifier = true ∧ left =
          { state with
            outcomes := state.outcomes.insert BuiltIn.completionStatus.identifier
              (.identifier completion.identifier) })
      fun _ _ => True := by
  rw [setCompletion, setVariable, ensures_ofLogic, ItemState.setAll, ensures_bind, ensures_get]
  cases hset : (state.store .outcome).set BuiltIn.completionStatus.identifier
      (.identifier completion.identifier) with
  | error error => trivial
  | ok store =>
    obtain ⟨hcontains, rfl⟩ := Store.set_eq_ok_iff.1 hset
    exact ⟨hcontains, rfl⟩

end ItemAction

namespace ItemDelivery

variable (item : ItemDelivery) {state : ItemState} {now : Timestamp}

theorem leaves_check : item.check.Leaves state (· = state) := by
  rw [check, Leaves, ensures_bind, ensures_get, ensures_ite]
  exact ⟨fun _ => rfl, fun _ => rfl⟩

theorem leaves_requireInteracting : requireInteracting.Leaves state (· = state) := by
  refine ensures_requireInteracting.mono ?_ ?_ <;> exact fun _ _ h => h.2

/-- Counting time changes the time. -/
theorem leaves_touch (now : Timestamp) : (item.touch now).Leaves state state.Counted := by
  refine item.leaves_check.read (fun _ => ?_) (.refl _)
  rw [Leaves, ensures_bind, ensures_get]
  split
  next =>
    dsimp only
    split
    next elapsed _ =>
      rw [ensures_ite, ensures_bind]
      refine ⟨fun _ => ?_, fun _ => ⟨_, _, .refl _ _, rfl⟩⟩
      refine Ensures.mono (ItemAction.leaves_setVariable _ _ _) ?_ ?_
      all_goals
        rintro _ _ ⟨responses, hresponses, rfl⟩
        exact ⟨responses, _, hresponses, rfl⟩
    next => exact ⟨_, _, .refl _ _, rfl⟩
  next => exact .refl _

/-- No time is counted while the item is not presented. -/
theorem leaves_touch_of_ne (hstatus : state.status ≠ .interacting) :
    (item.touch now).Leaves state (· = state) := by
  refine item.leaves_check.read (fun _ => ?_) rfl
  rw [Leaves, ensures_bind, ensures_get]
  split
  next hinteracting _ => exact absurd hinteracting hstatus
  next => rfl

theorem leaves_nextEnvironment :
    item.nextEnvironment.Leaves state (· = { state with passes := state.passes + 1 }) := by
  rw [nextEnvironment, Leaves, ensures_bind, ensures_get]
  rfl

/-! ### Sessions never go back -/

section presented

variable (hstatus : state.status ≠ .notEntered)

include hstatus

theorem presented_touch : (item.touch now).Leaves state (·.status ≠ .notEntered) := by
  refine (item.leaves_touch now).mono ?_
  rintro _ ⟨responses, lastEvent, -, rfl⟩
  exact hstatus

omit item in
theorem presented_setCompletion (completion : Completion) :
    (ItemAction.setCompletion completion).Leaves state (·.status ≠ .notEntered) := by
  refine (ItemAction.leaves_setCompletion completion).mono ?_
  rintro _ ⟨outcomes, -, rfl⟩
  exact hstatus

omit item in
/-- Where nothing but variables, correct answers and defaults is changed, the item stays
presented. -/
theorem presented_ofLogic {α : Type} {inner : Action ItemState LogicError α}
    (h : inner.Leaves state state.Rewritten) :
    (ItemAction.ofLogic inner).Leaves state (·.status ≠ .notEntered) :=
  (ItemAction.leaves_ofLogic h).mono fun _ hleft => hleft.status ▸ hstatus

theorem presented_nextEnvironment :
    item.nextEnvironment.Leaves state (·.status ≠ .notEntered) := by
  refine item.leaves_nextEnvironment.mono ?_
  rintro _ rfl
  exact hstatus

theorem presented_resetResponses :
    item.resetResponses.Leaves state (·.status ≠ .notEntered) := by
  rw [resetResponses, Leaves, ensures_bind, ensures_get]
  exact presented_ofLogic hstatus (ItemState.leaves_setAll_rewritten _ _)

theorem presented_resetOutcomes : item.resetOutcomes.Leaves state (·.status ≠ .notEntered) := by
  rw [resetOutcomes, Leaves, ensures_bind, ensures_get]
  exact presented_ofLogic hstatus (ItemState.leaves_setAll_rewritten _ _)

/-- A session that is closed was presented if it was before. -/
theorem presented_close : (item.close now).Leaves state (·.status ≠ .notEntered) := by
  refine (item.presented_touch hstatus).bind ?_ fun _ h => h
  intro _ touched htouched
  rw [Leaves, ensures_bind, ensures_get]
  dsimp only
  rw [ensures_ite, ensures_bind]
  refine ⟨fun _ => ?_, fun _ => nofun⟩
  exact Ensures.mono (presented_setCompletion htouched _) (fun _ _ _ => nofun) fun _ _ h => h

/-- A session that is scored was presented if it was before. -/
theorem presented_processResponse (maxAttempts : UInt32) :
    (item.processResponse maxAttempts now).Leaves state (·.status ≠ .notEntered) := by
  refine item.leaves_check.read (fun _ => ?_) hstatus
  refine leaves_requireInteracting.read (fun _ => ?_) hstatus
  extract_lets stage rules score
  have hscore : ∀ u (start : ItemState), start.status ≠ .notEntered →
      (score u).Leaves start (·.status ≠ .notEntered) := by
    intro _ start hstart
    simp only [score]
    refine (item.presented_nextEnvironment hstart).bind ?_ fun _ h => h
    intro environment started hstarted
    refine (presented_ofLogic hstarted (ItemState.leaves_execute _ _ _ _)).bind ?_ fun _ h => h
    rintro _ ran hran
    rw [Leaves, ensures_bind, ensures_modify]
    generalize hscored : { ran with responseProcessed := true, pending := false } = scored
    replace hscored : scored.status ≠ .notEntered := hscored ▸ hran
    rw [ensures_ite]
    refine ⟨fun _ => ?_, fun _ => ?_⟩
    · rw [ensures_bind, ensures_get, ensures_ite]
      refine ⟨fun _ => ?_, fun _ => hscored⟩
      refine (item.presented_close hscored).bind ?_ fun _ h => h
      exact fun _ _ hclosed => hclosed
    · refine (presented_setCompletion hscored _).bind ?_ fun _ h => h
      intro _ completed hcompleted
      rw [Leaves, ensures_bind, ensures_get, ensures_ite]
      refine ⟨fun _ => ?_, fun _ => hcompleted⟩
      refine (item.presented_close hcompleted).bind ?_ fun _ h => h
      exact fun _ _ hclosed => hclosed
  rw [Leaves, ensures_ite]
  refine ⟨fun _ => ?_, fun _ => hscore () state hstatus⟩
  exact (item.presented_resetOutcomes hstatus).bind (fun _ start h => hscore () start h)
    fun _ h => h

/-- A session that an attempt is made on was presented if it was before. -/
theorem presented_attempt (responses : SortedMap Identifier ResponseData)
    (policy : SubmissionPolicy) :
    (item.attempt responses now policy).Leaves state (·.status ≠ .notEntered) := by
  refine item.leaves_check.read (fun _ => ?_) hstatus
  refine leaves_requireInteracting.read (fun _ => ?_) hstatus
  rw [Leaves, ensures_bind, ensures_get]
  dsimp only
  rw [ensures_ite, ensures_bind, ensures_throw]
  refine ⟨fun _ => hstatus, fun _ => ?_⟩
  rw [ensures_ite, ensures_bind, ensures_throw]
  refine ⟨fun _ => hstatus, fun _ => ?_⟩
  cases item.bindResponses responses policy.validateResponses with
  | error invalid => exact hstatus
  | ok bound =>
    refine (item.presented_touch hstatus).bind ?_ fun _ h => h
    intro _ touched htouched
    refine (presented_ofLogic htouched (ItemState.leaves_setAll_rewritten _ _)).bind ?_
      fun _ h => h
    intro _ bound hbound
    rw [Leaves, ensures_bind, ensures_get]
    refine Leaves.bind (presented_ofLogic hbound (ItemState.leaves_setAll_rewritten _ _)) ?_
      fun _ h => h
    intro _ counted hcounted
    rw [Leaves, ensures_bind, ensures_modify, ensures_ite]
    generalize hresponded : { counted with responded := true, responseProcessed := false } =
      responded
    replace hresponded : responded.status ≠ .notEntered := hresponded ▸ hcounted
    exact ⟨fun _ => hresponded, fun _ => item.presented_processResponse hresponded _⟩

theorem presented_processTemplate :
    item.processTemplate.Leaves state (·.status ≠ .notEntered) := by
  refine item.leaves_check.read (fun _ => ?_) hstatus
  rw [Leaves, ensures_bind, ensures_get]
  dsimp only
  rw [ensures_ite, ensures_bind, ensures_throw]
  refine ⟨fun _ => hstatus, fun _ => ?_⟩
  rw [ensures_ite, ensures_bind, ensures_throw]
  refine ⟨fun _ => hstatus, fun _ => ?_⟩
  refine (item.presented_nextEnvironment hstatus).bind ?_ fun _ h => h
  intro environment started hstarted
  refine (presented_ofLogic hstarted (ItemState.leaves_restartTemplates _)).bind ?_ fun _ h => h
  intro _ restarted hrestarted
  refine (presented_ofLogic hrestarted (ItemState.leaves_executeTemplate _ _ _ _)).bind ?_
    fun _ h => h
  intro _ ran hran
  refine (item.presented_resetResponses hran).bind ?_ fun _ h => h
  intro _ reset hreset
  refine (item.presented_resetOutcomes hreset).bind ?_ fun _ h => h
  exact fun _ _ hleft => hleft

theorem presented_enter : (item.enter now).Leaves state (·.status ≠ .notEntered) := by
  refine item.leaves_check.read (fun _ => ?_) hstatus
  rw [Leaves, ensures_bind, ensures_get]
  split
  next => exact hstatus
  next hnew => exact absurd hnew hstatus
  next =>
    refine (item.presented_touch hstatus).bind ?_ fun _ h => h
    exact fun _ _ hleft => hleft

theorem presented_suspend : (item.suspend now).Leaves state (·.status ≠ .notEntered) := by
  refine item.leaves_check.read (fun _ => ?_) hstatus
  refine leaves_requireInteracting.read (fun _ => ?_) hstatus
  refine (item.presented_touch hstatus).bind ?_ fun _ h => h
  exact fun _ _ hleft => hleft

theorem presented_endSession : (item.endSession now).Leaves state (·.status ≠ .notEntered) := by
  refine item.leaves_check.read (fun _ => ?_) hstatus
  rw [Leaves, ensures_bind, ensures_get]
  dsimp only
  rw [ensures_ite, ensures_bind, ensures_throw]
  exact ⟨fun _ => hstatus, fun _ => item.presented_close hstatus⟩

end presented

/-- A session that is over stays as it is. -/
theorem leaves_of_closed (request : ItemRequest) (hstatus : state.status = .closed) :
    (item.serve request).Leaves state (· = state) := by
  have hrefused : ¬state.status = .interacting := by rw [hstatus]; nofun
  have hclosed : state.isClosed = true := decide_eq_true hstatus
  have hrequire : ∀ {α : Type} (next : PUnit → ItemAction α),
      (item.check >>= fun _ => requireInteracting >>= next).Leaves state (· = state) := by
    intro α next
    refine item.leaves_check.read (fun _ => ?_) rfl
    refine ensures_requireInteracting.bind ?_ fun _ _ h => h.2
    rintro _ _ ⟨hinteracting, -⟩
    exact absurd hinteracting hrefused
  cases request with
  | touch now => exact item.leaves_touch_of_ne hrefused
  | enter now =>
    refine item.leaves_check.read (fun _ => ?_) rfl
    rw [Leaves, ensures_bind, ensures_get, hstatus]
    rfl
  | suspend now => exact hrequire _
  | endSession now =>
    refine item.leaves_check.read (fun _ => ?_) rfl
    rw [Leaves, ensures_bind, ensures_get, hclosed]
    rfl
  | processTemplate =>
    refine (leaves_map _).2 (item.leaves_check.read (fun _ => ?_) rfl)
    rw [Leaves, ensures_bind, ensures_get, hclosed]
    rfl
  | attempt responses now policy => exact (leaves_map _).2 (hrequire _)
  | processResponse maxAttempts now => exact (leaves_map _).2 (hrequire _)

/-- A session that was presented stays presented. -/
theorem leaves_presented (request : ItemRequest) (hstatus : state.status ≠ .notEntered) :
    (item.serve request).Leaves state (·.status ≠ .notEntered) := by
  cases request with
  | touch now => exact item.presented_touch hstatus
  | enter now => exact item.presented_enter hstatus
  | suspend now => exact item.presented_suspend hstatus
  | endSession now => exact item.presented_endSession hstatus
  | processTemplate => exact (leaves_map _).2 (item.presented_processTemplate hstatus)
  | attempt responses now policy =>
    exact (leaves_map _).2 (item.presented_attempt hstatus responses policy)
  | processResponse maxAttempts now =>
    exact (leaves_map _).2 (item.presented_processResponse hstatus maxAttempts)

/-! ### What accepted operations change -/

section accepted

variable {item} {before after : ItemState}

/-- Presenting an item gets its session under way. The time may change, and the outcome that says
how far the candidate has come. -/
theorem Enters.presents (h : Enters now item before after) : before.Presents after := by
  have henter : (item.enter now).Ensures before (fun _ left => before.Presents left)
      fun _ _ => True := by
    refine Ensures.bind item.leaves_check ?_ fun _ _ _ => trivial
    rintro _ state rfl
    rw [ensures_bind, ensures_get]
    split
    next => trivial
    next =>
      rw [ensures_bind, ensures_set, ensures_ite]
      refine ⟨fun _ => ?_, fun _ => ⟨_, _, _, _, .refl _ _, .refl _ _, rfl⟩⟩
      refine Ensures.mono (ItemAction.leaves_setCompletion _) ?_ fun _ _ _ => trivial
      rintro _ _ ⟨outcomes, houtcomes, rfl⟩
      exact ⟨_, outcomes, _, _, .refl _ _, houtcomes, rfl⟩
    next hstatus =>
      refine Ensures.bind (item.leaves_touch now) ?_ fun _ _ _ => trivial
      rintro _ _ ⟨responses, lastEvent, hresponses, rfl⟩
      refine ⟨responses, state.outcomes, state.entryTime, lastEvent <|> some now, hresponses,
        .refl _ _, ?_⟩
      rw [← hstatus]
  exact henter.ok h

/-- Stopping the clock changes the time. -/
theorem Suspends.counted (h : Suspends now item before after) : before.Counted after := by
  have hsuspend : (item.suspend now).Ensures before (fun _ left => before.Counted left)
      fun _ _ => True := by
    refine Ensures.bind item.leaves_check ?_ fun _ _ _ => trivial
    rintro _ _ rfl
    refine Ensures.bind leaves_requireInteracting ?_ fun _ _ _ => trivial
    rintro _ _ rfl
    refine Ensures.bind (item.leaves_touch now) ?_ fun _ _ _ => trivial
    rintro _ _ ⟨responses, lastEvent, hresponses, rfl⟩
    exact ⟨responses, none, hresponses, rfl⟩
  unfold Suspends at h
  split at h
  · exact hsuspend.ok h
  · rw [h]
    exact .refl _

theorem leaves_close_passes : (item.close now).Leaves before (·.passes = before.passes) := by
  refine ((item.leaves_touch now).mono ?_).bind ?_ fun _ h => h
  · rintro _ ⟨responses, lastEvent, -, rfl⟩
    rfl
  intro _ touched htouched
  rw [Leaves, ensures_bind, ensures_get]
  dsimp only
  rw [ensures_ite, ensures_bind]
  refine ⟨fun _ => ?_, fun _ => htouched⟩
  refine Ensures.mono (ItemAction.leaves_setCompletion _) ?_ ?_ <;>
    rintro _ _ ⟨outcomes, -, rfl⟩ <;> exact htouched

/-- What is scored is scored in one pass. -/
theorem ensures_processResponse_passes (maxAttempts : UInt32) :
    (item.processResponse maxAttempts now).Ensures before
      (fun _ left => left.passes = before.passes + 1) fun _ _ => True := by
  refine Ensures.bind item.leaves_check ?_ fun _ _ _ => trivial
  rintro _ _ rfl
  refine Ensures.bind leaves_requireInteracting ?_ fun _ _ _ => trivial
  rintro _ state rfl
  extract_lets stage rules score
  have hscore : ∀ u (start : ItemState), state.Rewritten start →
      (score u).Ensures start (fun _ left => left.passes = state.passes + 1) fun _ _ => True := by
    rintro _ _ ⟨_, _, _, _, _, rfl⟩
    simp only [score]
    refine Ensures.bind item.leaves_nextEnvironment ?_ fun _ _ _ => trivial
    rintro environment _ rfl
    refine Ensures.bind (ItemAction.leaves_ofLogic (ItemState.leaves_execute _ _ _ _)) ?_
      fun _ _ _ => trivial
    rintro _ _ ⟨_, _, _, _, _, rfl⟩
    rw [ensures_bind, ensures_modify, ensures_ite]
    refine ⟨fun _ => ?_, fun _ => ?_⟩
    · rw [ensures_bind, ensures_get, ensures_ite]
      refine ⟨fun _ => ?_, fun _ => rfl⟩
      refine Ensures.bind leaves_close_passes ?_ fun _ _ _ => trivial
      exact fun _ _ hclosed => hclosed
    · refine Ensures.bind (ItemAction.leaves_setCompletion _) ?_ fun _ _ _ => trivial
      rintro _ _ ⟨outcomes, -, rfl⟩
      rw [ensures_bind, ensures_get, ensures_ite]
      refine ⟨fun _ => ?_, fun _ => rfl⟩
      refine Ensures.bind leaves_close_passes ?_ fun _ _ _ => trivial
      exact fun _ _ hclosed => hclosed
  rw [ensures_ite]
  refine ⟨fun _ => ?_, fun _ => hscore () state (.refl _)⟩
  rw [resetOutcomes, ensures_bind, ensures_bind, ensures_get]
  exact Ensures.mono (ItemAction.leaves_ofLogic (ItemState.leaves_setAll_rewritten _ _))
    (fun _ start hstart => hscore () start hstart) fun _ _ _ => trivial

theorem Scores.passes {mode : SubmissionMode} (h : Scores now mode item before after)
    (hwaits : Waits mode before) : after.passes = before.passes + 1 := by
  obtain ⟨-, log, hrun⟩ | ⟨hnot, -⟩ := h
  · exact (ensures_processResponse_passes 0).ok hrun
  · exact absurd hwaits hnot

/-- Ending a session closes it. Of an item that nothing is known of it is then said that it was
completed. -/
theorem Ends.closes (h : Ends now item before after) (hopen : before.status ≠ .closed) :
    before.Closes now after := by
  have htouch : (item.touch now).Leaves before fun left => before.Counted left ∧
      (before.status = .notEntered → left = before) := by
    by_cases hstatus : before.status = .notEntered
    · refine (item.leaves_touch_of_ne (by rw [hstatus]; nofun)).mono ?_
      rintro _ rfl
      exact ⟨.refl _, fun _ => rfl⟩
    · exact (item.leaves_touch now).mono fun _ hleft => ⟨hleft, fun h => absurd h hstatus⟩
  have hend : (item.endSession now).Ensures before (fun _ left => before.Closes now left)
      fun _ _ => True := by
    refine Ensures.bind item.leaves_check ?_ fun _ _ _ => trivial
    rintro _ state rfl
    rw [ensures_bind, ensures_get]
    dsimp only
    rw [ensures_ite, ensures_bind, ensures_throw]
    refine ⟨fun _ => trivial, fun _ => ?_⟩
    refine Ensures.bind htouch ?_ fun _ _ _ => trivial
    rintro _ _ ⟨⟨responses, lastEvent, hresponses, rfl⟩, hsame⟩
    have hunchanged : state.status = .notEntered → responses = state.responses :=
      fun hstatus => congrArg ItemState.responses (hsame hstatus)
    rw [ensures_bind, ensures_get]
    dsimp only
    rw [ensures_ite, ensures_bind]
    refine ⟨fun hcompletion => ?_, fun hcompletion => ?_⟩
    · refine (ItemAction.ensures_setCompletion_eq _).mono ?_ fun _ _ _ => trivial
      rintro _ _ ⟨hcontains, rfl⟩
      have houtcomes : state.closingOutcomes = _ := if_pos hcompletion
      refine ⟨responses, hresponses, hunchanged, ?_, by rw [houtcomes]⟩
      rw [houtcomes]
      exact Store.sameBut_insert hcontains _
    · have houtcomes : state.closingOutcomes = state.outcomes := if_neg hcompletion
      refine ⟨responses, hresponses, hunchanged, ?_, by rw [houtcomes]⟩
      rw [houtcomes]
      exact .refl _ _
  rw [Ends, if_neg hopen] at h
  exact hend.ok h

/-- Where a session is ended, it was over before, or it is closed. -/
theorem Ends.eq_or_closes (h : Ends now item before after) :
    after = before ∨ before.Closes now after := by
  by_cases hclosed : before.status = .closed
  · rw [Ends, if_pos hclosed] at h
    exact .inl h
  · exact .inr (h.closes hclosed)

end accepted

end ItemDelivery

end Assessment
