import Assessment.Proofs.Item.Attempt

/-!
# What a session maintains itself

A session counts the attempts and the time itself, in two variables that stand among the responses.
Template processing puts back defaults there, candidates bind values, and rules assign some. None of
these writes the two: rules are refused a variable that the session maintains, and the others only
write variables that the item declares, none of which has such a name in an item without errors.

Time is counted while the clock of the session runs. It is started and stopped by presenting the
item and by suspending or closing the session, and by nothing else.

## Main definitions

- `ItemState.KeepsClock`: no clock was started or stopped, or the session was closed.
- `ItemState.Sustains`: that, and attempts and time are counted as they were.

## Main results

- `ItemDefinition.ne_of_prepareFor`: rules are given no value for a variable that is maintained.
- `ItemDelivery.sustained_processTemplate` and `ItemDelivery.ensures_processResponse_sustains`: what
  processing sustains.
- `ItemDelivery.ensures_attempt_counts`: an accepted attempt is counted.
-/

namespace Assessment

open Action

/-! ### Variables that are maintained -/

/-- Rules are given no value for a variable that the session maintains. -/
theorem ItemDefinition.ne_of_prepareFor {definition : ItemDefinition} {builtIn : BuiltIn}
    {name : Identifier} {declaration : Declaration} {target : Target} {given value : Value}
    (hmaintained : isMaintained (.builtIn builtIn) = true)
    (hname : definition.resolve? name.text = some declaration)
    (hvalue : prepareFor target name declaration given = .ok value) :
    name ≠ builtIn.identifier := by
  rintro rfl
  have hfirst : definition.resolve? builtIn.identifier.text = some (.builtIn builtIn) := by
    rw [resolve?, resolveAll, BuiltIn.ofName?_eq_some_iff.2 rfl]
    rfl
  obtain rfl := Option.some.inj (hname.symm.trans hfirst)
  rw [prepareFor, if_pos hmaintained] at hvalue
  cases hvalue

/-- Of the built-in variables, the session maintains those that stand among the responses. -/
theorem BuiltIn.isMaintained_of_role {builtIn : BuiltIn} (h : builtIn.role = .response) :
    isMaintained (.builtIn builtIn) = true := by
  cases builtIn with
  | numAttempts => rfl
  | duration => rfl
  | completionStatus => cases h

namespace ItemState

variable {names names' : List Identifier} {state before between after : ItemState}

/-- A session stands where it stood and its clock runs if it ran, or it was closed and has no
clock. -/
def KeepsClock (before after : ItemState) : Prop :=
  after.status = before.status ∧ after.lastEvent.isSome = before.lastEvent.isSome ∨
    after.status = .closed ∧ after.lastEvent = none

theorem KeepsClock.refl (state : ItemState) : state.KeepsClock state := .inl ⟨rfl, rfl⟩

/-- A clock that does not run is not started. -/
theorem KeepsClock.rests (h : before.KeepsClock after) (hrests : before.lastEvent = none) :
    after.lastEvent = none := by
  obtain ⟨-, hclock⟩ | ⟨-, hclock⟩ := h
  · rw [hrests] at hclock
    exact Option.not_isSome_iff_eq_none.1 (by simp [hclock])
  · exact hclock

theorem KeepsClock.trans (h : before.KeepsClock between) (h' : between.KeepsClock after) :
    before.KeepsClock after := by
  obtain ⟨hstatus', hclock'⟩ | hclosed := h'
  · obtain ⟨hstatus, hclock⟩ | ⟨hstatus, hclock⟩ := h
    · exact .inl ⟨hstatus'.trans hstatus, hclock'.trans hclock⟩
    · refine .inr ⟨hstatus'.trans hstatus, ?_⟩
      rw [hclock] at hclock'
      exact Option.not_isSome_iff_eq_none.1 (by simp [hclock'])
  · exact .inr hclosed

theorem Rewritten.keepsClock (h : before.Rewritten after) : before.KeepsClock after := by
  obtain ⟨_, _, _, _, _, rfl⟩ := h
  exact .refl before

/-- The clock is kept, and what the session maintains is as it was, unless its name is one of those
given, or it is time that was counted. -/
structure Sustains (names : List Identifier) (before after : ItemState) : Prop where
  /-- No clock was started. -/
  clock : before.KeepsClock after
  /-- The variables that are maintained have the same values. -/
  maintained : ∀ builtIn : BuiltIn, builtIn.role = .response → builtIn.identifier ∉ names →
    (builtIn = .duration → before.lastEvent = none) →
    after.responses.get? builtIn.identifier = before.responses.get? builtIn.identifier

/-- Where no variable was changed, attempts and time are as they were. -/
theorem sustains_of_responses (hclock : before.KeepsClock after)
    (hresponses : after.responses = before.responses) : before.Sustains names after :=
  ⟨hclock, fun _ _ _ _ => by rw [hresponses]⟩

theorem Sustains.refl (names : List Identifier) (state : ItemState) : state.Sustains names state :=
  sustains_of_responses (.refl state) rfl

theorem Sustains.trans (h : before.Sustains names between) (h' : between.Sustains names after) :
    before.Sustains names after where
  clock := h.clock.trans h'.clock
  maintained builtIn hrole hname hrests :=
    (h'.maintained builtIn hrole hname fun hduration => h.clock.rests (hrests hduration)).trans
      (h.maintained builtIn hrole hname hrests)

theorem Sustains.mono (h : before.Sustains names after) (hnames : names ⊆ names') :
    before.Sustains names' after :=
  ⟨h.clock, fun builtIn hrole hname => h.maintained builtIn hrole fun hmem => hname (hnames hmem)⟩

/-- Where variables of some names are changed, all others are as they were. -/
theorem sustains_setStore {role : Role} {store : Store}
    (h : role = .response → Store.SameBut names state.responses store) :
    state.Sustains names (state.setStore role store) := by
  cases role with
  | template => exact sustains_of_responses (.refl _) rfl
  | outcome => exact sustains_of_responses (.refl _) rfl
  | response => exact ⟨.refl _, fun builtIn _ hname _ => (h rfl).values _ hname⟩

/-- The value that stands for the number of attempts. -/
def numAttempts (state : ItemState) : Option Value :=
  state.responses.get? BuiltIn.numAttempts.identifier

theorem attempts_of_numAttempts {w : Int64} (h : state.numAttempts = some (.integer w)) :
    state.attempts = w := by
  rw [attempts, show state.responses.get? _ = _ from h]
  rfl

theorem Sustains.numAttempts (h : before.Sustains names after)
    (hname : BuiltIn.numAttempts.identifier ∉ names) : after.numAttempts = before.numAttempts :=
  h.maintained .numAttempts rfl hname nofun

theorem attempts_congr (h : after.numAttempts = before.numAttempts) :
    after.attempts = before.attempts := by
  rw [attempts, attempts, show after.responses.get? _ = _ from h]
  rfl

/-- What is sustained by an action that ends with a result. -/
def Sustained {ε α : Type} (names : List Identifier) (action : Action ItemState ε α)
    (state : ItemState) : Prop :=
  action.Ensures state (fun _ left => state.Sustains names left) fun _ _ => True

theorem Sustained.bind {ε α β : Type} {action : Action ItemState ε α}
    {f : α → Action ItemState ε β} (h : Sustained names action state)
    (hnext : ∀ a left, Sustained names (f a) left) : Sustained names (action >>= f) state := by
  refine Ensures.bind h (fun a left hleft => ?_) fun _ _ _ => trivial
  exact (hnext a left).mono (fun _ _ hlast => hleft.trans hlast) fun _ _ _ => trivial

theorem Sustained.mono {ε α : Type} {action : Action ItemState ε α}
    (h : Sustained names action state) (hnames : names ⊆ names') :
    Sustained names' action state :=
  Ensures.mono h (fun _ _ hleft => hleft.mono hnames) fun _ _ _ => trivial

/-- Setting variables changes no others. -/
theorem sustained_setAll {role : Role} {bindings : List (Identifier × Value)}
    (h : role = .response → bindings.map (·.1) ⊆ names) :
    Sustained names (setAll role bindings) state := by
  refine Ensures.mono (leaves_setAll role bindings) ?_ fun _ _ _ => trivial
  rintro _ _ ⟨store, hstore, rfl⟩
  refine sustains_setStore fun hrole => ?_
  subst hrole
  exact hstore.mono (h rfl)

/-- Template variables are put back without changing what is maintained. -/
theorem sustained_restartTemplates (definition : ItemDefinition) :
    Sustained names (restartTemplates definition) state := by
  rw [Sustained, restartTemplates, ensures_bind, ensures_get]
  refine sustained_setAll ?_
  rintro ⟨⟩

/-- Rules of an item sustain what the session maintains. -/
theorem stage_keeps_sustains (engine : Engine) (definition : ItemDefinition) (state : ItemState) :
    (stage definition).Keeps engine (fun _ => True) (state.Sustains []) fun _ => True where
  evaluate _ _ _ := (ensures_run _ _).mono (fun _ _ _ => trivial) fun _ _ _ _ _ => trivial
  assign {session _ name _ _ value} hsession hname hvalue := by
    simp only [stage, assign, yields_bind]
    cases declared definition name with
    | error error => trivial
    | ok declaration =>
      rw [yields_ok]
      cases hset : (session.store declaration.role).set name value with
      | error error => trivial
      | ok store =>
        rw [yields_ok, yields_ok]
        have hstore := Store.sameBut_of_set hset
        -- The one name that is written is not that of a variable that is maintained.
        refine hsession.trans ⟨Rewritten.keepsClock (rewritten_setStore _ _), ?_⟩
        intro builtIn hrole _ _
        have hother : builtIn.identifier ∉ [name] := fun hmem =>
          ItemDefinition.ne_of_prepareFor (BuiltIn.isMaintained_of_role hrole) hname hvalue
            (List.mem_singleton.1 hmem).symm
        cases hstored : declaration.role with
        | template => rfl
        | outcome => rfl
        | response =>
          rw [hstored] at hstore
          exact hstore.values _ hother
  setCorrect {session name _ _ _ value} hsession _ hover _ := by
    cases hover
    simp only [setCorrect]
    cases definition.response? name with
    | none => trivial
    | some _ => exact hsession.trans (sustains_of_responses (.refl _) rfl)
  setDefault {session name _ _ _ value} hsession _ hover _ := by
    cases hover
    simp only [setDefault]
    cases declared definition name with
    | error error => trivial
    | ok declaration => exact hsession.trans (sustains_of_responses (.refl _) rfl)

/-- Running rules once sustains what the session maintains. -/
theorem sustained_execute (engine : Engine) (definition : ItemDefinition) (rules : List Rule)
    (environment : Environment) :
    Sustained [] ((Rule.execute engine (stage definition) rules).on environment) state := by
  refine (Execution.ensures_on (Rule.ensures_execute
    (stage_keeps_sustains engine definition state) ?_ (.refl _ _))).mono
    (fun _ _ hleft => hleft) fun _ _ _ => trivial
  intro _ _ _ _
  trivial

/-- Template processing sustains what the session maintains, as far as rules do it. -/
theorem sustained_executeTemplate (engine : Engine) (definition : ItemDefinition)
    (rules : List Rule) (environment : Environment) :
    Sustained [] ((Rule.executeTemplate engine (stage definition) rules).on environment) state := by
  refine (Execution.ensures_on (Rule.ensures_executeTemplate
    (stage_keeps_sustains engine definition state) ?_ ?_ (.refl _ _))).mono
    (fun _ _ hleft => hleft) fun _ _ _ => trivial
  · intro session hsession
    exact Ensures.mono (sustained_restartTemplates definition)
      (fun _ _ hleft => hsession.trans hleft) fun _ _ _ => trivial
  · intro _ _ _ _
    trivial

end ItemState

/-! ### Parts of operations -/

namespace ItemAction

open ItemState

variable {α : Type} {names : List Identifier} {state : ItemState}

theorem sustained_ofLogic {inner : Action ItemState LogicError α}
    (h : Sustained names inner state) : Sustained names (ofLogic inner) state :=
  ensures_ofLogic.2 h

theorem sustained_setCompletion (names : List Identifier) (completion : Completion) :
    Sustained names (setCompletion completion) state :=
  sustained_ofLogic (sustained_setAll nofun)

end ItemAction

namespace ItemDelivery

open ItemState ItemAction

variable (item : ItemDelivery) (names : List Identifier) {state : ItemState} {now : Timestamp}

omit item in
theorem sustained_of_leaves {α : Type} {action : ItemAction α}
    (h : action.Leaves state (· = state)) : Sustained names action state := by
  refine Ensures.mono h ?_ fun _ _ _ => trivial
  rintro _ _ rfl
  exact .refl _ _

/-- Counting time sustains what is maintained; the time that is counted does not count where the
clock does not run. -/
theorem sustained_touch (now : Timestamp) : Sustained names (item.touch now) state := by
  refine Sustained.bind (sustained_of_leaves names item.leaves_check) fun _ state => ?_
  rw [Sustained, ensures_bind, ensures_get]
  split
  next last _ hlast =>
    have hkept : ∀ responses,
        Store.SameBut [BuiltIn.duration.identifier] state.responses responses →
        state.Sustains names { state with responses, lastEvent := some now } := by
      refine fun responses hresponses => ⟨.inl ⟨rfl, by rw [hlast]; rfl⟩, ?_⟩
      intro builtIn hrole _ hrests
      cases builtIn with
      | numAttempts => exact hresponses.values _ (by decide +kernel)
      | duration => cases hlast.symm.trans (hrests rfl)
      | completionStatus => cases hrole
    dsimp only
    split
    next elapsed _ =>
      rw [ensures_ite, ensures_bind]
      refine ⟨fun _ => ?_, fun _ => hkept _ (.refl _ _)⟩
      refine Ensures.mono (leaves_setVariable _ _ _) ?_ fun _ _ _ => trivial
      rintro _ _ ⟨responses, hresponses, rfl⟩
      exact hkept responses hresponses
    next => exact hkept _ (.refl _ _)
  next => exact .refl _ _

theorem sustained_nextEnvironment : Sustained names item.nextEnvironment state := by
  refine Ensures.mono item.leaves_nextEnvironment ?_ fun _ _ _ => trivial
  rintro _ _ rfl
  exact sustains_of_responses (.refl _) rfl

theorem sustained_resetOutcomes : Sustained names item.resetOutcomes state := by
  rw [Sustained, resetOutcomes, ensures_bind, ensures_get]
  refine sustained_ofLogic (sustained_setAll ?_)
  rintro ⟨⟩

/-- Responses that the item declares are put back to their defaults. -/
theorem sustained_resetResponses :
    Sustained (item.definition.responses.map (·.identifier)) item.resetResponses state := by
  rw [Sustained, resetResponses, ensures_bind, ensures_get]
  refine sustained_ofLogic (sustained_setAll fun _ => ?_)
  rw [List.map_map]
  exact List.Subset.refl _

/-- Closing a session stops its clock. -/
theorem sustained_close (now : Timestamp) : Sustained names (item.close now) state := by
  refine (item.sustained_touch names now).bind fun _ touched => ?_
  rw [Sustained, ensures_bind, ensures_get]
  dsimp only
  rw [ensures_ite, ensures_bind]
  refine ⟨fun _ => ?_, fun _ => sustains_of_responses (.inr ⟨rfl, rfl⟩) rfl⟩
  refine Ensures.mono (sustained_setCompletion names _) (fun _ completed hcompleted => ?_)
    fun _ _ _ => trivial
  exact hcompleted.trans (sustains_of_responses (.inr ⟨rfl, rfl⟩) rfl)

/-! ### Operations -/

theorem sustained_endSession (now : Timestamp) : Sustained names (item.endSession now) state := by
  refine Sustained.bind (sustained_of_leaves names item.leaves_check) fun _ checked => ?_
  rw [Sustained, ensures_bind, ensures_get]
  dsimp only
  rw [ensures_ite, ensures_bind]
  exact ⟨fun _ => trivial, fun _ => item.sustained_close names now⟩

/-- Template processing changes no variables of the responses but those that the item declares. -/
theorem sustained_processTemplate :
    Sustained (item.definition.responses.map (·.identifier)) item.processTemplate state := by
  refine Sustained.bind (sustained_of_leaves _ item.leaves_check) fun _ checked => ?_
  rw [Sustained, ensures_bind, ensures_get]
  dsimp only
  rw [ensures_ite, ensures_bind]
  refine ⟨fun _ => trivial, fun _ => ?_⟩
  rw [ensures_ite, ensures_bind]
  refine ⟨fun _ => trivial, fun _ => ?_⟩
  refine (item.sustained_nextEnvironment _).bind fun environment _ => ?_
  refine (sustained_ofLogic (sustained_restartTemplates _)).bind fun _ _ => ?_
  refine (sustained_ofLogic ((sustained_executeTemplate _ _ _ _).mono (List.nil_subset _))).bind
    fun _ _ => ?_
  refine item.sustained_resetResponses.bind fun _ _ => ?_
  exact (item.sustained_resetOutcomes _).bind fun _ _ => sustains_of_responses (.refl _) rfl

/-- Scoring sustains what the session maintains. An item that is not adaptive is closed by it if the
limit of attempts is reached. -/
theorem ensures_processResponse_sustains (maxAttempts : UInt32) (now : Timestamp) :
    (item.processResponse maxAttempts now).Ensures state
      (fun _ left => state.Sustains [] left ∧ (item.definition.adaptive = false →
        (left.status = .closed ↔
          0 < maxAttempts.toNat ∧ (maxAttempts.toNat : Int) ≤ state.attempts.toInt)))
      fun _ _ => True := by
  refine Ensures.bind item.leaves_check ?_ fun _ _ _ => trivial
  rintro _ _ rfl
  refine ensures_requireInteracting.bind ?_ fun _ _ _ => trivial
  rintro _ state ⟨hstatus, rfl⟩
  extract_lets stage rules score
  have hscore : ∀ u (start : ItemState), start.progress.status = .interacting →
      state.Sustains [] start → (score u).Ensures start
        (fun _ left => state.Sustains [] left ∧ (item.definition.adaptive = false →
          (left.status = .closed ↔
            0 < maxAttempts.toNat ∧ (maxAttempts.toNat : Int) ≤ state.attempts.toInt)))
        fun _ _ => True := by
    intro _ start hstart hkept
    simp only [score]
    refine Ensures.bind
      (Ensures.and item.ensures_nextEnvironment (item.sustained_nextEnvironment [])) ?_
        fun _ _ _ => trivial
    rintro environment next ⟨hnext, hsustains⟩
    rw [← hnext] at hstart
    replace hkept := hkept.trans hsustains
    rw [ensures_bind, ensures_ofLogic]
    refine ((ItemState.ensures_execute _ _ _ _).and (sustained_execute _ _ _ _)).mono ?_
      fun _ _ _ => trivial
    rintro _ ran ⟨hran, hsustains⟩
    rw [← hran] at hstart
    replace hkept := hkept.trans hsustains
    rw [ensures_bind, ensures_modify]
    generalize hscored : { ran with responseProcessed := true, pending := false } = scored
    replace hstart : scored.progress.status = .interacting := hscored ▸ hstart
    replace hkept : state.Sustains [] scored :=
      hscored ▸ hkept.trans (sustains_of_responses (.refl _) rfl)
    rw [ensures_ite]
    refine ⟨fun hadaptive => ?_, fun _ => ?_⟩
    · -- Of an adaptive item, its rules say when it is closed.
      have hfixed : ∀ p : Prop, item.definition.adaptive = false → p := by
        simp [hadaptive]
      rw [ensures_bind, ensures_get, ensures_ite]
      refine ⟨fun _ => ?_, fun _ => ⟨hkept, hfixed _⟩⟩
      refine Ensures.bind (item.sustained_close [] now) ?_ fun _ _ _ => trivial
      exact fun _ left hleft => ⟨hkept.trans hleft, hfixed _⟩
    · refine Ensures.bind (Ensures.and (ItemAction.ensures_setCompletion _)
        (sustained_setCompletion [] _)) ?_ fun _ _ _ => trivial
      rintro _ completed ⟨hcompleted, hsustains⟩
      rw [← hcompleted] at hstart
      replace hkept := hkept.trans hsustains
      rw [ensures_bind, ensures_get, attempts_congr (hkept.numAttempts List.not_mem_nil),
        ensures_ite]
      refine ⟨fun hreached => ?_, fun hopen => ⟨hkept, fun _ => ?_⟩⟩
      · refine Ensures.bind (Ensures.and (item.ensures_close now) (item.sustained_close [] now)) ?_
          fun _ _ _ => trivial
        rintro _ left ⟨hclosed, hleft⟩
        refine ⟨hkept.trans hleft, fun _ => ⟨fun _ => ?_, fun _ => ?_⟩⟩
        · simpa [UInt32.lt_iff_toNat_lt] using hreached
        · exact congrArg ItemProgress.status hclosed
      · refine ⟨fun hclosed => ?_, fun hreached => absurd ?_ hopen⟩
        · exact absurd (hstart.symm.trans hclosed) nofun
        · simpa [UInt32.lt_iff_toNat_lt] using hreached
  rw [ensures_ite]
  refine ⟨fun _ => ?_, fun _ => hscore () state hstatus (.refl _ _)⟩
  refine Ensures.bind (Ensures.and item.ensures_resetOutcomes (item.sustained_resetOutcomes [])) ?_
    fun _ _ _ => trivial
  rintro _ start ⟨hstart, hsustains⟩
  exact hscore () start (by rw [hstart]; exact hstatus) hsustains

/-- An accepted attempt starts no clock. It counts itself, where no variable that the item declares
has the name of the count. One that is scored at once closes an item that is not adaptive if it
reaches the limit. -/
theorem ensures_attempt_counts (responses : SortedMap Identifier ResponseData) (now : Timestamp)
    (policy : SubmissionPolicy) :
    (item.attempt responses now policy).Ensures state
      (fun _ left => state.KeepsClock left ∧
        (BuiltIn.numAttempts.identifier ∉ item.definition.responses.map (·.identifier) →
          left.numAttempts = some (.integer (Word.succSaturating state.attempts)) ∧
            (policy.deferred = false → item.definition.adaptive = false →
              (left.status = .closed ↔ 0 < policy.maxAttempts.toNat ∧
                (policy.maxAttempts.toNat : Int) ≤ (Word.succSaturating state.attempts).toInt))))
      fun _ _ => True := by
  refine Ensures.bind item.leaves_check ?_ fun _ _ _ => trivial
  rintro _ _ rfl
  refine Ensures.bind leaves_requireInteracting ?_ fun _ _ _ => trivial
  rintro _ state rfl
  rw [ensures_bind, ensures_get]
  dsimp only
  rw [ensures_ite, ensures_bind]
  refine ⟨fun _ => trivial, fun _ => ?_⟩
  rw [ensures_ite, ensures_bind]
  refine ⟨fun _ => trivial, fun _ => ?_⟩
  cases hbound : item.bindResponses responses policy.validateResponses with
  | error invalid => trivial
  | ok bound =>
    change (item.touch now >>= _ : ItemAction NotificationLog).Ensures _ _ _
    refine Ensures.bind (item.sustained_touch [] now) ?_ fun _ _ _ => trivial
    intro _ touched htouched
    -- Only variables that the item declares are bound.
    have hbindings : bound.map (·.1) ⊆ item.definition.responses.map (·.identifier) := by
      intro name hname
      obtain ⟨binding, hbinding, rfl⟩ := List.mem_map.1 hname
      obtain ⟨d, _, hresponse, -⟩ := exists_response_of_bindResponses hbound hbinding
      obtain ⟨hd, hidentifier⟩ := ItemDefinition.mem_allVariables_of_response? hresponse
      exact List.mem_map.2 ⟨d, ItemDefinition.mem_allVariables_response.1 hd, hidentifier⟩
    refine Ensures.bind (sustained_ofLogic (sustained_setAll fun _ => hbindings)) ?_
      fun _ _ _ => trivial
    intro _ answered hanswered
    replace hanswered := (htouched.mono (List.nil_subset _)).trans hanswered
    rw [ensures_bind, ensures_get, ensures_bind, setVariable, ensures_ofLogic]
    refine (ItemState.ensures_setAll_insertAll .response _).mono ?_ fun _ _ _ => trivial
    rintro _ _ ⟨-, rfl⟩
    rw [ensures_bind, ensures_modify]
    generalize hcounted : ({ answered.setStore .response _ with
      responded := true, responseProcessed := false } : ItemState) = counted
    have hclock : state.KeepsClock counted := hcounted ▸ hanswered.clock
    have hnumber : counted.numAttempts =
        some (.integer (Word.succSaturating answered.attempts)) := by
      rw [← hcounted]
      exact SortedMap.get?_insert_self _ _ _
    have hsame : BuiltIn.numAttempts.identifier ∉ item.definition.responses.map (·.identifier) →
        answered.attempts = state.attempts := fun hfree =>
      attempts_congr (hanswered.numAttempts hfree)
    rw [ensures_ite]
    refine ⟨fun hdeferred => ⟨hclock, fun hfree => ⟨?_, fun himmediate => ?_⟩⟩, fun _ => ?_⟩
    · rw [← hsame hfree]
      exact hnumber
    · cases hdeferred.symm.trans himmediate
    · refine (item.ensures_processResponse_sustains _ _).mono ?_ fun _ _ _ => trivial
      rintro _ left ⟨hleft, hclosed⟩
      rw [attempts_of_numAttempts hnumber] at hclosed
      refine ⟨hclock.trans hleft.clock, fun hfree => ?_⟩
      rw [← hsame hfree]
      exact ⟨(hleft.numAttempts List.not_mem_nil).trans hnumber, fun _ => hclosed⟩

end ItemDelivery

end Assessment
